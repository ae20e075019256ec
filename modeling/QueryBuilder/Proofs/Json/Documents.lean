import Mathlib.Data.List.Nodup
import Mathlib.Data.Option.Basic
import QueryBuilder.Proofs.Json.Numbers
import QueryBuilder.Proofs.Json.Strings
import QueryBuilder.Proofs.Outcome

/-!
Values as JSON. What is written of a value as a document is read as the value again, unless it holds
a number that is infinite or undefined.
-/
namespace QueryBuilder

open Json

namespace Value

/-- The name of the member for a key. -/
def memberName? : Value → Option String
  | .null => some "null"
  | .bool b => some (if b then "true" else "false")
  | .int n => some (toString n)
  | .float text => some (String.ofList (Document.float text))
  | .str s => some s
  | .constant c => some c.text
  | _ => none

mutual

/-- The JSON value that a value is, if it is one. Tuples count as arrays. -/
def json? : Value → Option Json
  | .null => some .null
  | .bool b => some (.bool b)
  | .int n => some (.number (ofInt n))
  | .float text => (Text.Decimal.read text.toList).map .number
  | .str s => some (.string s)
  | .constant c => some (.string c.text)
  | .list xs | .tuple xs => (itemsJson? xs).map .array
  | .dict es => (membersJson? es).map .object
  | _ => none
termination_by structural v => v

def itemsJson? : List Value → Option (List Json)
  | [] => some []
  | x :: xs => x.json?.bind fun j => (itemsJson? xs).map (j :: ·)
termination_by structural xs => xs

def membersJson? : List (Value × Value) → Option (List (String × Json))
  | [] => some []
  | (k, v) :: es => k.memberName?.bind fun name => v.json?.bind fun j =>
    (membersJson? es).map ((name, j) :: ·)
termination_by structural es => es

end

mutual

/-- The floating-point numbers among the items and members of a value, by their texts. -/
def floats : Value → List String
  | .float text => [text]
  | .list xs | .tuple xs => itemFloats xs
  | .dict es => memberFloats es
  | _ => []
termination_by structural v => v

def itemFloats : List Value → List String
  | [] => []
  | x :: xs => x.floats ++ itemFloats xs
termination_by structural xs => xs

def memberFloats : List (Value × Value) → List String
  | [] => []
  | (_, v) :: es => v.floats ++ memberFloats es
termination_by structural es => es

end

mutual

/-- The keys of every mapping in a value. -/
def mappings : Value → List (List Value)
  | .list xs | .tuple xs => itemMappings xs
  | .dict es => es.map Prod.fst :: memberMappings es
  | _ => []
termination_by structural v => v

def itemMappings : List Value → List (List Value)
  | [] => []
  | x :: xs => x.mappings ++ itemMappings xs
termination_by structural xs => xs

def memberMappings : List (Value × Value) → List (List Value)
  | [] => []
  | (_, v) :: es => v.mappings ++ memberMappings es
termination_by structural es => es

end

end Value

namespace Json

mutual

/-- The names of the members of every object in a value. -/
def objects : Json → List (List String)
  | .array items => itemObjects items
  | .object members => members.map Prod.fst :: memberObjects members
  | _ => []
termination_by structural j => j

def itemObjects : List Json → List (List String)
  | [] => []
  | j :: js => j.objects ++ itemObjects js
termination_by structural js => js

def memberObjects : List (String × Json) → List (List String)
  | [] => []
  | (_, j) :: ms => j.objects ++ memberObjects ms
termination_by structural ms => ms

end

end Json

namespace Document

theorem separated_eq (texts : List (List Char)) :
    separated texts = [',', ' '].intercalate texts := by
  fun_induction separated texts with
  | case1 => rfl
  | case2 x => simp
  | case3 x xs hne ih =>
    obtain ⟨y, ys, rfl⟩ := List.exists_cons_of_ne_nil hne
    rw [List.intercalate_cons_cons, ih, List.append_assoc]
    rfl

theorem int_of_isWritable {n : Int} (h : (Value.int n).isWritable = true) :
    int n = .ok (toString n).toList := by
  rw [Value.isWritable] at h
  rw [int, if_pos h]

theorem int_eq_ok {n : Int} {cs : List Char} (h : int n = .ok cs) :
    (Value.int n).isWritable = true ∧ cs = (toString n).toList := by
  rw [int] at h
  split at h
  next hn =>
    cases h
    exact ⟨by rwa [Value.isWritable], rfl⟩
  next => cases h

/-- Keys are written as the strings that name their members, or not at all. -/
theorem key_eq {k : Value} (hk : k.isWritable = true) : key k = match k.memberName? with
    | some name => .ok (string name)
    | none => .error (.key k.typeName) := by
  cases k with
  | int n =>
    rw [key, int_of_isWritable hk]
    simp [Value.memberName?, Except.map]
  | _ => rfl

theorem isWritable_of_key {k : Value} {text : List Char} (h : key k = .ok text) :
    k.isWritable = true := by
  cases k with
  | int n =>
    obtain ⟨cs, hcs, _⟩ := map_eq_ok_iff.mp h
    exact (int_eq_ok hcs).1
  | null | bool b | float t | str s | constant c => rfl
  | _ => cases h

theorem memberName?_of_key {k : Value} {text : List Char} (h : key k = .ok text) :
    ∃ name, k.memberName? = some name ∧ text = string name := by
  rw [key_eq (isWritable_of_key h)] at h
  cases hname : k.memberName? with
  | none =>
    rw [hname] at h
    cases h
  | some name =>
    rw [hname] at h
    cases h
    exact ⟨name, rfl, rfl⟩

/-- Numbers keep their text, and the names of the others are no words of JSON. -/
theorem float_yields {text : String} (h : Text.IsFloat text) :
    Yields (float text) ((Value.float text).json?.map tokens) := by
  rcases h with h | h
  · have hnone : ∀ t ∈ Text.nonFinite, Text.Decimal.read t.toList = none ∧
        ofWord? (float t) = none ∧ float t ≠ [] ∧ (float t).all isLetter = true := by
      decide
    obtain ⟨hread, hword, hne, hletters⟩ := hnone text h
    have hyields := Yields.word hne hletters
    rw [Value.json?, hread]
    rwa [hword] at hyields
  · obtain ⟨d, hread, hyields⟩ := Yields.numeral h
    have hplain : text ∉ Text.nonFinite := by
      intro hm
      have hnone : ∀ t ∈ Text.nonFinite, Text.Decimal.read t.toList = none := by decide
      rw [hnone text hm] at hread
      cases hread
    simp only [Text.nonFinite, List.mem_cons, List.not_mem_nil, or_false, not_or] at hplain
    have hfloat : float text = text.toList := by simp [float, hplain]
    rw [Value.json?, hread, hfloat]
    exact hyields

end Document

mutual

/-- What is written of a value has the tokens of the value, if it has any. -/
theorem documentChars_yields : ∀ (v : Value) {cs : List Char}, (∀ t ∈ v.floats, Text.IsFloat t) →
    v.documentChars = .ok cs → Yields cs (v.json?.map tokens)
  | .null, _, _, h => by
    cases h
    exact Yields.null
  | .bool true, _, _, h => by
    cases h
    exact Yields.bool true
  | .bool false, _, _, h => by
    cases h
    exact Yields.bool false
  | .int n, _, _, h => by
    obtain ⟨_, rfl⟩ := Document.int_eq_ok h
    exact Yields.int n
  | .float text, _, hf, h => by
    cases h
    exact Document.float_yields (hf text (by simp [Value.floats]))
  | .str s, _, _, h => by
    cases h
    exact Yields.string escapes_stringChar s
  | .constant c, _, _, h => by
    cases h
    exact Yields.string escapes_stringChar c.text
  | .list xs, _, hf, h | .tuple xs, _, hf, h => by
    obtain ⟨texts, ht, h⟩ := bind_eq_ok_iff.mp h
    cases h
    rw [Document.separated_eq]
    exact .array (documentItems_yields xs hf ht)
  | .dict es, _, hf, h => by
    obtain ⟨texts, ht, h⟩ := bind_eq_ok_iff.mp h
    cases h
    rw [Document.separated_eq]
    exact .object (documentMembers_yields es hf ht)
  | .bytes _, _, _, h | .byteArray _, _, _, h | .set _, _, _, h | .frozenSet _, _, _, h
  | .column _, _, _, h | .columnDraft _, _, _, h | .condition _, _, _, h
  | .handle _, _, _, h => by cases h
termination_by structural v => v

theorem documentItems_yields : ∀ (xs : List Value) {texts : List (List Char)},
    (∀ t ∈ Value.itemFloats xs, Text.IsFloat t) → documentItems xs = .ok texts →
      Yields (following texts) ((Value.itemsJson? xs).map itemTokens)
  | [], _, _, h => by
    cases h
    exact Yields.nil
  | x :: xs, _, hf, h => by
    obtain ⟨text, hx, h⟩ := bind_eq_ok_iff.mp h
    obtain ⟨texts, hxs, h⟩ := bind_eq_ok_iff.mp h
    cases h
    simp only [Value.itemFloats, List.mem_append] at hf
    exact .item (documentChars_yields x (fun t ht => hf t (Or.inl ht)) hx)
      (documentItems_yields xs (fun t ht => hf t (Or.inr ht)) hxs)
termination_by structural xs => xs

theorem documentMembers_yields : ∀ (es : List (Value × Value)) {texts : List (List Char)},
    (∀ t ∈ Value.memberFloats es, Text.IsFloat t) → documentMembers es = .ok texts →
      Yields (following texts) ((Value.membersJson? es).map memberTokens)
  | [], _, _, h => by
    cases h
    exact Yields.nil
  | (k, v) :: es, _, hf, h => by
    obtain ⟨nameText, hk, h⟩ := bind_eq_ok_iff.mp h
    obtain ⟨text, hv, h⟩ := bind_eq_ok_iff.mp h
    obtain ⟨texts, hes, h⟩ := bind_eq_ok_iff.mp h
    cases h
    simp only [Value.memberFloats, List.mem_append] at hf
    obtain ⟨name, hname, rfl⟩ := Document.memberName?_of_key hk
    rw [Value.membersJson?, hname]
    exact .member (Yields.string escapes_stringChar name)
      (documentChars_yields v (fun t ht => hf t (Or.inl ht)) hv)
      (documentMembers_yields es (fun t ht => hf t (Or.inr ht)) hes)
termination_by structural es => es

end

mutual

/-- A value of which nothing is written, although each integer in it can be, is no JSON value. -/
theorem json?_of_documentChars_error : ∀ (v : Value) {e : DocumentFault}, v.isWritable = true →
    v.documentChars = .error e → v.json? = none ∧ e ≠ .digits
  | .null, _, _, h | .bool true, _, _, h | .bool false, _, _, h | .float _, _, _, h
  | .str _, _, _, h | .constant _, _, _, h => by cases h
  | .int n, _, hw, h => by
    have hn : (Value.int n).documentChars = .ok (toString n).toList := Document.int_of_isWritable hw
    rw [hn] at h
    cases h
  | .list xs, _, hw, h | .tuple xs, _, hw, h => by
    rw [Value.isWritable] at hw
    rcases bind_eq_error_iff.mp h with h | ⟨_, _, h⟩
    · obtain ⟨hnone, he⟩ := itemsJson?_of_error xs hw h
      rw [Value.json?, hnone]
      exact ⟨rfl, he⟩
    · cases h
  | .dict es, _, hw, h => by
    rw [Value.isWritable] at hw
    rcases bind_eq_error_iff.mp h with h | ⟨_, _, h⟩
    · obtain ⟨hnone, he⟩ := membersJson?_of_error es hw h
      rw [Value.json?, hnone]
      exact ⟨rfl, he⟩
    · cases h
  | .bytes _, _, _, h | .byteArray _, _, _, h | .set _, _, _, h | .frozenSet _, _, _, h
  | .column _, _, _, h | .columnDraft _, _, _, h | .condition _, _, _, h
  | .handle _, _, _, h => by
    cases h
    exact ⟨rfl, by simp⟩
termination_by structural v => v

theorem itemsJson?_of_error : ∀ (xs : List Value) {e : DocumentFault}, areWritable xs = true →
    documentItems xs = .error e → Value.itemsJson? xs = none ∧ e ≠ .digits
  | [], _, _, h => by cases h
  | x :: xs, _, hw, h => by
    obtain ⟨hx, hxs⟩ := Bool.and_eq_true_iff.mp hw
    rw [Value.itemsJson?]
    rcases bind_eq_error_iff.mp h with h | ⟨_, _, h⟩
    · obtain ⟨hnone, he⟩ := json?_of_documentChars_error x hx h
      rw [hnone]
      exact ⟨rfl, he⟩
    · rcases bind_eq_error_iff.mp h with h | ⟨_, _, h⟩
      · obtain ⟨hnone, he⟩ := itemsJson?_of_error xs hxs h
        rw [hnone]
        exact ⟨by cases x.json? <;> rfl, he⟩
      · cases h
termination_by structural xs => xs

theorem membersJson?_of_error : ∀ (es : List (Value × Value)) {e : DocumentFault},
    areWritableEntries es = true → documentMembers es = .error e →
      Value.membersJson? es = none ∧ e ≠ .digits
  | [], _, _, h => by cases h
  | (k, v) :: es, _, hw, h => by
    obtain ⟨hkv, hes⟩ := Bool.and_eq_true_iff.mp hw
    obtain ⟨hk, hv⟩ := Bool.and_eq_true_iff.mp hkv
    rw [Value.membersJson?]
    rcases bind_eq_error_iff.mp h with h | ⟨_, _, h⟩
    · rw [Document.key_eq hk] at h
      cases hname : k.memberName? with
      | none =>
        rw [hname] at h
        cases h
        exact ⟨rfl, by simp⟩
      | some name =>
        rw [hname] at h
        cases h
    · rcases bind_eq_error_iff.mp h with h | ⟨_, _, h⟩
      · obtain ⟨hnone, he⟩ := json?_of_documentChars_error v hv h
        rw [hnone]
        exact ⟨by cases k.memberName? <;> rfl, he⟩
      · rcases bind_eq_error_iff.mp h with h | ⟨_, _, h⟩
        · obtain ⟨hnone, he⟩ := membersJson?_of_error es hes h
          rw [hnone]
          exact ⟨by cases k.memberName? <;> cases v.json? <;> rfl, he⟩
        · cases h
termination_by structural es => es

end

mutual

/-- A value is written only if each integer in it can be. -/
theorem isWritable_of_documentChars : ∀ (v : Value) {cs : List Char},
    v.documentChars = .ok cs → v.isWritable = true
  | .null, _, _ | .bool _, _, _ | .float _, _, _ | .str _, _, _ | .constant _, _, _ => rfl
  | .int _, _, h => (Document.int_eq_ok h).1
  | .list xs, _, h | .tuple xs, _, h => by
    obtain ⟨_, ht, _⟩ := bind_eq_ok_iff.mp h
    exact areWritable_of_documentItems xs ht
  | .dict es, _, h => by
    obtain ⟨_, ht, _⟩ := bind_eq_ok_iff.mp h
    exact areWritable_of_documentMembers es ht
  | .bytes _, _, h | .byteArray _, _, h | .set _, _, h | .frozenSet _, _, h | .column _, _, h
  | .columnDraft _, _, h | .condition _, _, h | .handle _, _, h => by cases h
termination_by structural v => v

theorem areWritable_of_documentItems : ∀ (xs : List Value) {texts : List (List Char)},
    documentItems xs = .ok texts → areWritable xs = true
  | [], _, _ => rfl
  | x :: xs, _, h => by
    obtain ⟨_, hx, h⟩ := bind_eq_ok_iff.mp h
    obtain ⟨_, hxs, _⟩ := bind_eq_ok_iff.mp h
    exact Bool.and_eq_true_iff.mpr
      ⟨isWritable_of_documentChars x hx, areWritable_of_documentItems xs hxs⟩
termination_by structural xs => xs

theorem areWritable_of_documentMembers : ∀ (es : List (Value × Value)) {texts : List (List Char)},
    documentMembers es = .ok texts → areWritableEntries es = true
  | [], _, _ => rfl
  | (k, v) :: es, _, h => by
    obtain ⟨_, hk, h⟩ := bind_eq_ok_iff.mp h
    obtain ⟨_, hv, h⟩ := bind_eq_ok_iff.mp h
    obtain ⟨_, hes, _⟩ := bind_eq_ok_iff.mp h
    have hkv := Bool.and_eq_true_iff.mpr
      ⟨Document.isWritable_of_key hk, isWritable_of_documentChars v hv⟩
    exact Bool.and_eq_true_iff.mpr ⟨hkv, areWritable_of_documentMembers es hes⟩
termination_by structural es => es

end

theorem Document.isSome_float {text : String} (h : Text.IsFloat text) :
    (Value.float text).json?.isSome = true ↔ text ∉ Text.nonFinite := by
  have hnone : ∀ t ∈ Text.nonFinite, Text.Decimal.read t.toList = none := by decide
  rw [Value.json?, Option.isSome_map]
  constructor
  · intro hs hm
    rw [hnone text hm] at hs
    cases hs
  · intro hm
    obtain ⟨d, hread, _⟩ := read_numeral (h.resolve_left hm)
    rw [hread]
    rfl

mutual

/-- A value that is written is a JSON value just if its numbers are finite. -/
theorem isSome_json? : ∀ (v : Value) {cs : List Char}, (∀ t ∈ v.floats, Text.IsFloat t) →
    v.documentChars = .ok cs →
      (v.json?.isSome = true ↔ ∀ t ∈ v.floats, t ∉ Text.nonFinite)
  | .null, _, _, _ | .bool _, _, _, _ | .int _, _, _, _ | .str _, _, _, _
  | .constant _, _, _, _ => by simp [Value.json?, Value.floats]
  | .float text, _, hf, _ => by
    rw [Document.isSome_float (hf text (by simp [Value.floats]))]
    simp [Value.floats]
  | .list xs, _, hf, h | .tuple xs, _, hf, h => by
    obtain ⟨texts, ht, _⟩ := bind_eq_ok_iff.mp h
    rw [Value.json?, Option.isSome_map]
    exact isSome_itemsJson? xs hf ht
  | .dict es, _, hf, h => by
    obtain ⟨texts, ht, _⟩ := bind_eq_ok_iff.mp h
    rw [Value.json?, Option.isSome_map]
    exact isSome_membersJson? es hf ht
  | .bytes _, _, _, h | .byteArray _, _, _, h | .set _, _, _, h | .frozenSet _, _, _, h
  | .column _, _, _, h | .columnDraft _, _, _, h | .condition _, _, _, h
  | .handle _, _, _, h => by cases h
termination_by structural v => v

theorem isSome_itemsJson? : ∀ (xs : List Value) {texts : List (List Char)},
    (∀ t ∈ Value.itemFloats xs, Text.IsFloat t) → documentItems xs = .ok texts →
      ((Value.itemsJson? xs).isSome = true ↔ ∀ t ∈ Value.itemFloats xs, t ∉ Text.nonFinite)
  | [], _, _, _ => by simp [Value.itemsJson?, Value.itemFloats]
  | x :: xs, _, hf, h => by
    obtain ⟨text, hx, h⟩ := bind_eq_ok_iff.mp h
    obtain ⟨texts, hxs, h⟩ := bind_eq_ok_iff.mp h
    simp only [Value.itemFloats, List.forall_mem_append] at hf ⊢
    rw [← isSome_json? x hf.1 hx, ← isSome_itemsJson? xs hf.2 hxs, Value.itemsJson?]
    cases x.json? <;> cases Value.itemsJson? xs <;> simp
termination_by structural xs => xs

theorem isSome_membersJson? : ∀ (es : List (Value × Value)) {texts : List (List Char)},
    (∀ t ∈ Value.memberFloats es, Text.IsFloat t) → documentMembers es = .ok texts →
      ((Value.membersJson? es).isSome = true ↔ ∀ t ∈ Value.memberFloats es, t ∉ Text.nonFinite)
  | [], _, _, _ => by simp [Value.membersJson?, Value.memberFloats]
  | (k, v) :: es, _, hf, h => by
    obtain ⟨nameText, hk, h⟩ := bind_eq_ok_iff.mp h
    obtain ⟨text, hv, h⟩ := bind_eq_ok_iff.mp h
    obtain ⟨texts, hes, h⟩ := bind_eq_ok_iff.mp h
    obtain ⟨name, hname, _⟩ := Document.memberName?_of_key hk
    simp only [Value.memberFloats, List.forall_mem_append] at hf ⊢
    rw [← isSome_json? v hf.1 hv, ← isSome_membersJson? es hf.2 hes, Value.membersJson?, hname]
    cases v.json? <;> cases Value.membersJson? es <;> simp
termination_by structural es => es

end

mutual

/-- The objects of a JSON value are the mappings that it comes from. -/
theorem objects_json? : ∀ (v : Value) {j : Json}, v.json? = some j →
    j.objects.map (·.map some) = v.mappings.map (·.map Value.memberName?)
  | .null, _, h | .bool _, _, h | .int _, _, h | .str _, _, h | .constant _, _, h => by
    cases h
    rfl
  | .float _, _, h => by
    obtain ⟨_, _, rfl⟩ := Option.map_eq_some_iff.mp h
    rfl
  | .list xs, _, h | .tuple xs, _, h => by
    obtain ⟨js, hjs, rfl⟩ := Option.map_eq_some_iff.mp h
    exact objects_itemsJson? xs hjs
  | .dict es, _, h => by
    obtain ⟨ms, hms, rfl⟩ := Option.map_eq_some_iff.mp h
    obtain ⟨hnames, hobjects⟩ := objects_membersJson? es hms
    rw [objects, Value.mappings, List.map_cons, List.map_cons, hnames, hobjects]
termination_by structural v => v

theorem objects_itemsJson? : ∀ (xs : List Value) {js : List Json}, Value.itemsJson? xs = some js →
    (itemObjects js).map (·.map some) = (Value.itemMappings xs).map (·.map Value.memberName?)
  | [], _, h => by
    cases h
    rfl
  | x :: xs, _, h => by
    obtain ⟨j, hj, h⟩ := Option.bind_eq_some_iff.mp h
    obtain ⟨js, hjs, rfl⟩ := Option.map_eq_some_iff.mp h
    rw [itemObjects, Value.itemMappings, List.map_append, List.map_append, objects_json? x hj,
      objects_itemsJson? xs hjs]
termination_by structural xs => xs

theorem objects_membersJson? : ∀ (es : List (Value × Value)) {ms : List (String × Json)},
    Value.membersJson? es = some ms →
      (ms.map Prod.fst).map some = (es.map Prod.fst).map Value.memberName? ∧
      (memberObjects ms).map (·.map some) = (Value.memberMappings es).map (·.map Value.memberName?)
  | [], _, h => by
    cases h
    exact ⟨rfl, rfl⟩
  | (k, v) :: es, _, h => by
    obtain ⟨name, hname, h⟩ := Option.bind_eq_some_iff.mp h
    obtain ⟨j, hj, h⟩ := Option.bind_eq_some_iff.mp h
    obtain ⟨ms, hms, rfl⟩ := Option.map_eq_some_iff.mp h
    obtain ⟨hnames, hobjects⟩ := objects_membersJson? es hms
    constructor
    · simp only [List.map_cons, hname, hnames]
    · rw [memberObjects, Value.memberMappings, List.map_append, List.map_append, objects_json? v hj,
        hobjects]
termination_by structural es => es

end

namespace Value

/-- Two members of an object share a name just where two keys of a mapping give the same name. -/
theorem nodup_objects {v : Value} {j : Json} (h : v.json? = some j) :
    (∀ names ∈ j.objects, names.Nodup) ↔ ∀ keys ∈ v.mappings, (keys.map memberName?).Nodup := by
  have hnames : (∀ names ∈ j.objects, names.Nodup) ↔
      ∀ names ∈ j.objects.map (·.map some), names.Nodup := by
    rw [List.forall_mem_map]
    exact forall₂_congr fun names _ => (List.nodup_map_iff (Option.some_injective _)).symm
  rw [hnames, objects_json? v h, List.forall_mem_map]

/-- The text of a document is read as the value of which it is the document. -/
theorem read_document {v : Value} {text : String} (hf : ∀ t ∈ v.floats, Text.IsFloat t)
    (h : v.document = .ok text) : read text = v.json? := by
  obtain ⟨cs, hcs, rfl⟩ := map_eq_ok_iff.mp h
  apply read_of_yields
  rw [String.toList_ofList]
  exact documentChars_yields v hf hcs

theorem isSome_read_document {v : Value} {text : String} (hf : ∀ t ∈ v.floats, Text.IsFloat t)
    (h : v.document = .ok text) :
    (read text).isSome = true ↔ ∀ t ∈ v.floats, t ∉ Text.nonFinite := by
  rw [read_document hf h]
  obtain ⟨cs, hcs, _⟩ := map_eq_ok_iff.mp h
  exact isSome_json? v hf hcs

theorem json?_of_document_error {v : Value} {e : DocumentFault} (hw : v.isWritable = true)
    (h : v.document = .error e) : v.json? = none :=
  (json?_of_documentChars_error v hw (map_eq_error_iff.mp h)).1

/-- Only an integer that is too long is refused for its digits. -/
theorem isWritable_of_digits {v : Value} (h : v.document = .error .digits) :
    v.isWritable = false := by
  by_contra hw
  exact (json?_of_documentChars_error v (by simpa using hw) (map_eq_error_iff.mp h)).2 rfl

theorem isWritable_of_document {v : Value} {text : String} (h : v.document = .ok text) :
    v.isWritable = true := by
  obtain ⟨_, hcs, _⟩ := map_eq_ok_iff.mp h
  exact isWritable_of_documentChars v hcs

end Value

end QueryBuilder
