import Mathlib.Algebra.Group.Nat.Defs
import Mathlib.Data.List.Lex
import Mathlib.Data.List.Sort
import Mathlib.Data.Prod.Lex
import QueryBuilder.Proofs.Json.Documents

/-!
The texts that the database has for JSON values. The members of an object stand in the order of
their names, whatever order they were given in, and characters beyond ASCII stand for themselves.
-/
namespace QueryBuilder

/-- A decimal as the database writes it: its digits, with a point where it has places behind it. -/
def Text.Decimal.chars (d : Decimal) : List Char :=
  let sign := if d.negative && d.digits != 0 then ['-'] else []
  if 0 ≤ d.exponent then sign ++ Nat.toDigits 10 (d.digits * 10 ^ d.exponent.toNat)
  else
    let places := (-d.exponent).toNat
    let fraction := Nat.toDigits 10 (d.digits % 10 ^ places)
    sign ++ Nat.toDigits 10 (d.digits / 10 ^ places) ++
      '.' :: List.replicate (places - fraction.length) '0' ++ fraction

namespace Json

mutual

/-- A value as text, with its strings written by the given function. -/
def write (escape : Char → List Char) : Json → List Char
  | .null => "null".toList
  | .bool b => (if b then "true" else "false").toList
  | .number d => d.chars
  | .string s => quoted escape s
  | .array js => '[' :: [',', ' '].intercalate (writeItems escape js) ++ [']']
  | .object ms => '\x7b' :: [',', ' '].intercalate (writeMembers escape ms) ++ ['\x7d']
termination_by structural j => j

def writeItems (escape : Char → List Char) : List Json → List (List Char)
  | [] => []
  | j :: js => j.write escape :: writeItems escape js
termination_by structural js => js

def writeMembers (escape : Char → List Char) : List (String × Json) → List (List Char)
  | [] => []
  | (name, j) :: ms =>
    (quoted escape name ++ ':' :: ' ' :: j.write escape) :: writeMembers escape ms
termination_by structural ms => ms

end

/-- The bytes of a name, their number in front. -/
def nameKey (name : String) : ℕ ×ₗ List ℕ :=
  let bytes := name.toList.flatMap String.utf8EncodeChar
  toLex (bytes.length, bytes.map UInt8.toNat)

/-- Shorter names come first, and names of one length in the order of their bytes. -/
def Precedes (a b : String) : Prop :=
  nameKey a ≤ nameKey b

instance : DecidableRel Precedes :=
  fun a b => inferInstanceAs (Decidable (nameKey a ≤ nameKey b))

/-- The order of the members of an object. -/
def MemberPrecedes (a b : String × Json) : Prop :=
  Precedes a.1 b.1

instance : DecidableRel MemberPrecedes :=
  fun a b => inferInstanceAs (Decidable (Precedes a.1 b.1))

instance : Std.Total MemberPrecedes :=
  ⟨fun a b => le_total (nameKey a.1) (nameKey b.1)⟩

instance : IsTrans (String × Json) MemberPrecedes :=
  ⟨fun _ _ _ => le_trans⟩

mutual

/-- A value with the members of every object in their order. -/
def ordered : Json → Json
  | .array js => .array (orderedItems js)
  | .object ms => .object ((orderedMembers ms).insertionSort MemberPrecedes)
  | j => j
termination_by structural j => j

def orderedItems : List Json → List Json
  | [] => []
  | j :: js => j.ordered :: orderedItems js
termination_by structural js => js

def orderedMembers : List (String × Json) → List (String × Json)
  | [] => []
  | (name, j) :: ms => (name, j.ordered) :: orderedMembers ms
termination_by structural ms => ms

end

/-- The text that a field has in the database whose document is the value. -/
def fieldText : Json → Option String
  | .null => none
  | .string s => some s
  | j => some (String.ofList (j.ordered.write databaseChar))

mutual

/-- A value and all the values in it. -/
def subvalues : Json → List Json
  | .array js => .array js :: itemSubvalues js
  | .object ms => .object ms :: memberSubvalues ms
  | j => [j]
termination_by structural j => j

def itemSubvalues : List Json → List Json
  | [] => []
  | j :: js => j.subvalues ++ itemSubvalues js
termination_by structural js => js

def memberSubvalues : List (String × Json) → List Json
  | [] => []
  | (_, j) :: ms => j.subvalues ++ memberSubvalues ms
termination_by structural ms => ms

end

/-- Induction on a value, with what holds of all its items and members. -/
@[elab_as_elim, induction_eliminator]
theorem induction {motive : Json → Prop} (null : motive .null) (bool : ∀ b, motive (.bool b))
    (number : ∀ d, motive (.number d)) (string : ∀ s, motive (.string s))
    (array : ∀ js, (∀ j ∈ js, motive j) → motive (.array js))
    (object : ∀ ms, (∀ m ∈ ms, motive m.2) → motive (.object ms)) (j : Json) : motive j :=
  @Json.rec motive (fun js => ∀ j ∈ js, motive j) (fun ms => ∀ m ∈ ms, motive m.2)
    (fun m => motive m.2) null bool number string array object (by simp)
    (fun _ _ hj hjs => List.forall_mem_cons.mpr ⟨hj, hjs⟩) (by simp)
    (fun _ _ hm hms => List.forall_mem_cons.mpr ⟨hm, hms⟩) (fun _ _ hj => hj) j

theorem writeItems_eq (escape : Char → List Char) (js : List Json) :
    writeItems escape js = js.map (write escape) := by
  induction js with
  | nil => rfl
  | cons j js ih => rw [writeItems, ih, List.map_cons]

/-- A member as text. -/
def writeMember (escape : Char → List Char) (m : String × Json) : List Char :=
  quoted escape m.1 ++ ':' :: ' ' :: m.2.write escape

theorem writeMembers_eq (escape : Char → List Char) (ms : List (String × Json)) :
    writeMembers escape ms = ms.map (writeMember escape) := by
  induction ms with
  | nil => rfl
  | cons m ms ih => rw [writeMembers, ih, List.map_cons, writeMember]

theorem orderedItems_eq (js : List Json) : orderedItems js = js.map ordered := by
  induction js with
  | nil => rfl
  | cons j js ih => rw [orderedItems, ih, List.map_cons]

theorem orderedMembers_eq (ms : List (String × Json)) :
    orderedMembers ms = ms.map fun m => (m.1, m.2.ordered) := by
  induction ms with
  | nil => rfl
  | cons m ms ih => rw [orderedMembers, ih, List.map_cons]

theorem mem_itemSubvalues {js : List Json} {k : Json} :
    k ∈ itemSubvalues js ↔ ∃ j ∈ js, k ∈ j.subvalues := by
  induction js with
  | nil => simp [itemSubvalues]
  | cons j js ih => simp [itemSubvalues, ih]

theorem mem_memberSubvalues {ms : List (String × Json)} {k : Json} :
    k ∈ memberSubvalues ms ↔ ∃ m ∈ ms, k ∈ m.2.subvalues := by
  induction ms with
  | nil => simp [memberSubvalues]
  | cons m ms ih => rw [memberSubvalues, List.mem_append, ih, List.exists_mem_cons_iff]

theorem self_mem_subvalues (j : Json) : j ∈ j.subvalues := by
  cases j <;> simp [subvalues]

theorem mem_subvalues_array {js : List Json} {j k : Json} (hj : j ∈ js) (hk : k ∈ j.subvalues) :
    k ∈ (array js).subvalues :=
  List.mem_cons_of_mem _ (mem_itemSubvalues.mpr ⟨j, hj, hk⟩)

theorem mem_subvalues_object {ms : List (String × Json)} {m : String × Json} {k : Json}
    (hm : m ∈ ms) (hk : k ∈ m.2.subvalues) : k ∈ (object ms).subvalues :=
  List.mem_cons_of_mem _ (mem_memberSubvalues.mpr ⟨m, hm, hk⟩)

/-- Holds of values without fractions and powers of ten. -/
def IsWhole (j : Json) : Prop :=
  ∀ d, .number d ∈ j.subvalues → ∃ n, d = ofInt n

theorem IsWhole.item {js : List Json} {j : Json} (h : (array js).IsWhole) (hj : j ∈ js) :
    j.IsWhole :=
  fun d hd => h d (mem_subvalues_array hj hd)

theorem IsWhole.member {ms : List (String × Json)} {m : String × Json} (h : (object ms).IsWhole)
    (hm : m ∈ ms) : m.2.IsWhole :=
  fun d hd => h d (mem_subvalues_object hm hd)

theorem chars_ofInt (n : Int) : (ofInt n).chars = (toString n).toList := by
  rw [toList_int]
  by_cases hn : n < 0
  · simp [Text.Decimal.chars, ofInt, hn, Int.ne_of_lt hn]
  · simp [Text.Decimal.chars, ofInt, hn]

/-- A text of a value is read as the value. -/
theorem write_yields {escape : Char → List Char} (he : Escapes escape) {j : Json}
    (hw : j.IsWhole) : Yields (j.write escape) (some j.tokens) := by
  induction j with
  | null => exact Yields.null
  | bool b => exact Yields.bool b
  | number d =>
    obtain ⟨n, rfl⟩ := hw d (self_mem_subvalues _)
    rw [write, chars_ofInt]
    exact Yields.int n
  | string s => exact Yields.string he s
  | array js ih =>
    have hitems : ∀ j ∈ js, Yields (j.write escape) (some j.tokens) :=
      fun j hj => ih j hj (hw.item hj)
    rw [write, writeItems_eq]
    exact .array (.items hitems)
  | object ms ih =>
    have hvalues : ∀ m ∈ ms, Yields (m.2.write escape) (some m.2.tokens) :=
      fun m hm => ih m hm (hw.member hm)
    rw [write, writeMembers_eq]
    exact .object (.members (fun m _ => Yields.string he m.1) hvalues)

/-- Values with the same text are the same, however their strings are written. -/
theorem write_inj {escape escape' : Char → List Char} (he : Escapes escape)
    (he' : Escapes escape') {j k : Json} (hj : j.IsWhole) (hk : k.IsWhole)
    (h : j.write escape = k.write escape') : j = k := by
  have htokens : some j.tokens = some k.tokens := by
    rw [← (write_yields he hj).scan_eq, ← (write_yields he' hk).scan_eq, h]
  have hread := readValue_eq j
  rw [Option.some.inj htokens, readValue_eq k] at hread
  exact (Option.some.inj hread).symm

/-- The values in an ordered value are ordered, and they come from the values that were there. -/
theorem mem_subvalues_ordered {j k : Json} (h : k ∈ j.ordered.subvalues) :
    ∃ i ∈ j.subvalues, k = i.ordered := by
  induction j with
  | null | bool b | number d | string s =>
    cases List.mem_singleton.mp h
    exact ⟨_, self_mem_subvalues _, rfl⟩
  | array js ih =>
    rcases List.mem_cons.mp h with rfl | h
    · exact ⟨.array js, self_mem_subvalues _, rfl⟩
    · rw [orderedItems_eq] at h
      obtain ⟨_, hm, hk⟩ := mem_itemSubvalues.mp h
      obtain ⟨j, hj, rfl⟩ := List.mem_map.mp hm
      obtain ⟨i, hi, rfl⟩ := ih j hj hk
      exact ⟨i, mem_subvalues_array hj hi, rfl⟩
  | object ms ih =>
    rcases List.mem_cons.mp h with rfl | h
    · exact ⟨.object ms, self_mem_subvalues _, rfl⟩
    · rw [orderedMembers_eq] at h
      obtain ⟨_, hsorted, hk⟩ := mem_memberSubvalues.mp h
      have hmap := (List.mem_insertionSort MemberPrecedes).mp hsorted
      obtain ⟨m, hm, rfl⟩ := List.mem_map.mp hmap
      obtain ⟨i, hi, rfl⟩ := ih m hm hk
      exact ⟨i, mem_subvalues_object hm hi, rfl⟩

theorem IsWhole.ordered {j : Json} (h : j.IsWhole) : j.ordered.IsWhole := by
  intro d hd
  obtain ⟨i, hi, heq⟩ := mem_subvalues_ordered hd
  cases i with
  | number d' =>
    cases heq
    exact h d hi
  | _ => cases heq

/-- The members of every object stand in their order. -/
def IsOrdered (j : Json) : Prop :=
  ∀ ms, .object ms ∈ j.subvalues → (ms.map Prod.fst).Pairwise Precedes

theorem isOrdered_ordered (j : Json) : j.ordered.IsOrdered := by
  intro ms hms
  obtain ⟨i, _, heq⟩ := mem_subvalues_ordered hms
  cases i with
  | object ms' =>
    cases heq
    exact List.pairwise_map.mpr (List.pairwise_insertionSort MemberPrecedes _)
  | _ => cases heq

theorem IsOrdered.ordered_eq {j : Json} (h : j.IsOrdered) : j.ordered = j := by
  induction j with
  | null | bool b | number d | string s => rfl
  | array js ih =>
    have hitems : ∀ j ∈ js, j.ordered = j :=
      fun j hj => ih j hj fun ms hms => h ms (mem_subvalues_array hj hms)
    rw [ordered, orderedItems_eq, List.map_congr_left hitems, List.map_id']
  | object ms ih =>
    have hmembers : ∀ m ∈ ms, (m.1, m.2.ordered) = m :=
      fun m hm => Prod.ext rfl (ih m hm fun ms' hms => h ms' (mem_subvalues_object hm hms))
    have hsorted : ms.Pairwise MemberPrecedes := by
      have hnames := h ms (self_mem_subvalues _)
      rwa [List.pairwise_map] at hnames
    rw [ordered, orderedMembers_eq, List.map_congr_left hmembers, List.map_id',
      hsorted.insertionSort_eq]

theorem ordered_eq_iff {j : Json} : j.ordered = j ↔ j.IsOrdered := by
  refine ⟨fun h => ?_, IsOrdered.ordered_eq⟩
  rw [← h]
  exact isOrdered_ordered j

theorem nameKey_inj {a b : String} (h : nameKey a = nameKey b) : a = b := by
  have hnumbers : (a.toList.flatMap String.utf8EncodeChar).map UInt8.toNat =
      (b.toList.flatMap String.utf8EncodeChar).map UInt8.toNat :=
    congrArg (fun k => (ofLex k).2) h
  have hbytes := List.map_injective_iff.mpr (fun _ _ => UInt8.toNat_inj.mp) hnumbers
  rw [← String.toByteArray_inj, ← String.utf8Encode_toList, ← String.utf8Encode_toList,
    List.utf8Encode, List.utf8Encode, hbytes]

/-- Members that have different names are put in one order, whatever order they were given in. -/
theorem ordered_perm {ms ms' : List (String × Json)} (hp : ms.Perm ms')
    (hn : (ms.map Prod.fst).Nodup) : (object ms).ordered = (object ms').ordered := by
  have hmembers := hp.map fun m => (m.1, m.2.ordered)
  have hsorted := (List.perm_insertionSort MemberPrecedes _).trans
    (hmembers.trans (List.perm_insertionSort MemberPrecedes _).symm)
  rw [ordered, ordered, orderedMembers_eq, orderedMembers_eq, object.injEq]
  refine hsorted.eq_of_pairwise ?_ (List.pairwise_insertionSort MemberPrecedes _)
    (List.pairwise_insertionSort MemberPrecedes _)
  intro a b ha hb hab hba
  obtain ⟨m, hm, rfl⟩ := List.mem_map.mp ((List.mem_insertionSort MemberPrecedes).mp ha)
  obtain ⟨m', hm', rfl⟩ := List.mem_map.mp ((List.mem_insertionSort MemberPrecedes).mp hb)
  have hname : m.1 = m'.1 := nameKey_inj (le_antisymm hab hba)
  rw [List.inj_on_of_nodup_map hn hm (hp.mem_iff.mpr hm') hname]

theorem fieldText_perm {ms ms' : List (String × Json)} (hp : ms.Perm ms')
    (hn : (ms.map Prod.fst).Nodup) : (object ms').fieldText = (object ms).fieldText :=
  congrArg (fun j : Json => some (String.ofList (j.write databaseChar))) (ordered_perm hp hn).symm

/-- The strings in a value, with the names of the members. -/
def texts (j : Json) : List String :=
  j.subvalues.flatMap fun
    | .string s => [s]
    | .object ms => ms.map Prod.fst
    | _ => []

theorem mem_texts_array {js : List Json} {s : String} :
    s ∈ (array js).texts ↔ ∃ j ∈ js, s ∈ j.texts := by
  simp only [texts, subvalues, List.flatMap_cons, List.nil_append, List.mem_flatMap,
    mem_itemSubvalues]
  constructor
  · rintro ⟨k, ⟨j, hj, hk⟩, hs⟩
    exact ⟨j, hj, k, hk, hs⟩
  · rintro ⟨j, hj, k, hk, hs⟩
    exact ⟨k, ⟨j, hj, hk⟩, hs⟩

theorem mem_texts_object {ms : List (String × Json)} {s : String} :
    s ∈ (object ms).texts ↔ s ∈ ms.map Prod.fst ∨ ∃ m ∈ ms, s ∈ m.2.texts := by
  simp only [texts, subvalues, List.flatMap_cons, List.mem_append, List.mem_flatMap,
    mem_memberSubvalues]
  refine or_congr_right ⟨?_, ?_⟩
  · rintro ⟨k, ⟨m, hm, hk⟩, hs⟩
    exact ⟨m, hm, k, hk, hs⟩
  · rintro ⟨m, hm, k, hk, hs⟩
    exact ⟨k, ⟨m, hm, hk⟩, hs⟩

theorem all_intercalate {texts : List (List Char)} {p : Char → Bool} (hcomma : p ',' = true)
    (hblank : p ' ' = true) (h : ∀ cs ∈ texts, cs.all p = true) :
    ([',', ' '].intercalate texts).all p = true := by
  cases texts with
  | nil => rfl
  | cons cs texts =>
    rw [List.forall_mem_cons] at h
    rw [intercalate_cons, List.all_append, h.1, following, List.all_flatMap, Bool.true_and]
    refine List.all_eq_true.mpr fun ds hds => ?_
    rw [List.all_cons, List.all_cons, hcomma, hblank, h.2 ds hds]
    rfl

theorem mem_intercalate_of_mem {texts : List (List Char)} {cs : List Char} {c : Char}
    (hcs : cs ∈ texts) (hc : c ∈ cs) : c ∈ [',', ' '].intercalate texts := by
  obtain ⟨before, after, rfl⟩ := List.append_of_mem hcs
  cases before with
  | nil => simp [intercalate_cons, hc]
  | cons ds before => simp [intercalate_cons, following, hc]

theorem isAscii_of_isNumberChar {c : Char} (h : isNumberChar c = true) : isAscii c = true := by
  rw [isNumberChar, Bool.or_eq_true] at h
  rcases h with h | h
  · simp only [Char.isDigit, Bool.and_eq_true, decide_eq_true_eq] at h
    have hle : c.toNat ≤ '9'.toNat := h.2
    exact isAscii_iff.mpr (lt_of_le_of_lt hle (by decide))
  · have hall : ['-', '+', '.', 'e'].all isAscii = true := by decide
    exact List.all_eq_true.mp hall c (List.contains_iff_mem.mp h)

/-- Documents consist of ASCII characters alone. -/
theorem isAscii_write {j : Json} (hw : j.IsWhole) :
    (j.write Document.stringChar).all isAscii = true := by
  induction j with
  | null => rfl
  | bool b => cases b <;> rfl
  | number d =>
    obtain ⟨n, rfl⟩ := hw d (self_mem_subvalues _)
    rw [write, chars_ofInt]
    exact List.all_eq_true.mpr fun c hc => isAscii_of_isNumberChar (isNumberChar_int n c hc)
  | string s => exact isAscii_quoted s
  | array js ih =>
    have hitems : ([',', ' '].intercalate (js.map (write Document.stringChar))).all isAscii =
        true := by
      refine all_intercalate rfl rfl fun cs hcs => ?_
      obtain ⟨j, hj, rfl⟩ := List.mem_map.mp hcs
      exact ih j hj (hw.item hj)
    rw [write, writeItems_eq, List.cons_append, List.all_cons, List.all_append, hitems]
    rfl
  | object ms ih =>
    have hmembers : ([',', ' '].intercalate (ms.map (writeMember Document.stringChar))).all
        isAscii = true := by
      refine all_intercalate rfl rfl fun cs hcs => ?_
      obtain ⟨m, hm, rfl⟩ := List.mem_map.mp hcs
      rw [writeMember, List.all_append, List.all_cons, List.all_cons, isAscii_quoted,
        ih m hm (hw.member hm)]
      rfl
    rw [write, writeMembers_eq, List.cons_append, List.all_cons, List.all_append, hmembers]
    rfl

theorem mem_quoted {s : String} {c : Char} (hc : c ∈ s.toList) (h : isAscii c = false) :
    c ∈ quoted databaseChar s := by
  have hle : 0x7f ≤ c.toNat := by
    by_contra hlt
    rw [isAscii_iff.mpr (by omega)] at h
    cases h
  have hself : c ∈ databaseChar c := by
    rw [databaseChar_of_le hle]
    exact List.mem_singleton_self c
  exact List.mem_cons_of_mem _ (List.mem_append_left _ (List.mem_flatMap.mpr ⟨c, hc, hself⟩))

/-- The text in the database has all other characters as they are. -/
theorem mem_write {j : Json} {s : String} {c : Char} (hs : s ∈ j.texts) (hc : c ∈ s.toList)
    (h : isAscii c = false) : c ∈ j.write databaseChar := by
  induction j with
  | null | bool b | number d => cases hs
  | string t =>
    cases List.mem_singleton.mp hs
    exact mem_quoted hc h
  | array js ih =>
    obtain ⟨j, hj, hs⟩ := mem_texts_array.mp hs
    have hitem := mem_intercalate_of_mem (List.mem_map_of_mem hj) (ih j hj hs)
    rw [write, writeItems_eq]
    exact List.mem_cons_of_mem _ (List.mem_append_left _ hitem)
  | object ms ih =>
    have hmember : ∃ m ∈ ms, c ∈ writeMember databaseChar m := by
      rcases mem_texts_object.mp hs with hname | ⟨m, hm, hs⟩
      · obtain ⟨m, hm, rfl⟩ := List.mem_map.mp hname
        exact ⟨m, hm, List.mem_append_left _ (mem_quoted hc h)⟩
      · have hvalue := List.mem_cons_of_mem ':' (List.mem_cons_of_mem ' ' (ih m hm hs))
        exact ⟨m, hm, List.mem_append_right _ hvalue⟩
    obtain ⟨m, hm, hmember⟩ := hmember
    have hall := mem_intercalate_of_mem (List.mem_map_of_mem hm) hmember
    rw [write, writeMembers_eq]
    exact List.mem_cons_of_mem _ (List.mem_append_left _ hall)

theorem quoted_congr {s : String} (h : s.toList.all isAscii = true) :
    quoted Document.stringChar s = quoted databaseChar s := by
  have hchars : ∀ c ∈ s.toList, Document.stringChar c = databaseChar c :=
    fun c hc => stringChar_of_lt (isAscii_iff.mp (List.all_eq_true.mp h c hc))
  rw [quoted, quoted, List.flatMap_congr hchars]

/-- Where there are no other characters, documents are written as the database writes them. -/
theorem write_congr {j : Json} (h : ∀ s ∈ j.texts, s.toList.all isAscii = true) :
    j.write Document.stringChar = j.write databaseChar := by
  induction j with
  | null | bool b | number d => rfl
  | string s => exact quoted_congr (h s (List.mem_singleton_self s))
  | array js ih =>
    have hitems : ∀ j ∈ js, j.write Document.stringChar = j.write databaseChar :=
      fun j hj => ih j hj fun s hs => h s (mem_texts_array.mpr ⟨j, hj, hs⟩)
    rw [write, write, writeItems_eq, writeItems_eq, List.map_congr_left hitems]
  | object ms ih =>
    have hmembers : ∀ m ∈ ms, writeMember Document.stringChar m = writeMember databaseChar m := by
      intro m hm
      have hname : m.1 ∈ (object ms).texts :=
        mem_texts_object.mpr (Or.inl (List.mem_map_of_mem hm))
      have hvalue := ih m hm fun s hs => h s (mem_texts_object.mpr (Or.inr ⟨m, hm, hs⟩))
      rw [writeMember, writeMember, quoted_congr (h m.1 hname), hvalue]
    rw [write, write, writeMembers_eq, writeMembers_eq, List.map_congr_left hmembers]

/-- Holds of the values that documents write as the database does. -/
structure IsWrittenAlike (j : Json) : Prop where
  ascii : ∀ s ∈ j.texts, s.toList.all isAscii = true
  isOrdered : j.IsOrdered

/-- A document is the text in the database just if all its characters are ASCII and its members
stand in their order. -/
theorem write_eq_iff {j : Json} (hw : j.IsWhole) :
    j.write Document.stringChar = j.ordered.write databaseChar ↔ j.IsWrittenAlike := by
  constructor
  · intro h
    have hordered : j.ordered = j :=
      (write_inj escapes_stringChar escapes_databaseChar hw hw.ordered h).symm
    rw [hordered] at h
    refine ⟨fun s hs => List.all_eq_true.mpr fun c hc => ?_, ordered_eq_iff.mp hordered⟩
    by_contra hascii
    have hmem := mem_write hs hc (by simpa using hascii)
    rw [← h] at hmem
    exact hascii (List.all_eq_true.mp (isAscii_write hw) c hmem)
  · rintro ⟨hascii, hordered⟩
    rw [hordered.ordered_eq, write_congr hascii]

end Json

end QueryBuilder
