import QueryBuilder.Proofs.Json.DatabaseText
import QueryBuilder.Proofs.Sql.BoundDocuments

/-!
The texts that fields are compared with. A plain value is bound by its text if it is one, and else
by its document, which is the text of the field in the database only if the two are written alike.
-/
namespace QueryBuilder

open Json

namespace Json

/-- Holds of values in which the digits of each number can be written. -/
def IsWritable (j : Json) : Prop :=
  ∀ d, .number d ∈ j.subvalues → Text.isWritable d.digits = true

/-- A value without numbers. -/
theorem isWhole_and_isWritable {j : Json} (h : ∀ d, .number d ∉ j.subvalues) :
    j.IsWhole ∧ j.IsWritable :=
  ⟨fun d hd => absurd hd (h d), fun d hd => absurd hd (h d)⟩

theorem IsWhole.array {js : List Json} (h : ∀ j ∈ js, j.IsWhole) : (Json.array js).IsWhole := by
  intro d hd
  rcases List.mem_cons.mp hd with hd | hd
  · cases hd
  · obtain ⟨j, hj, hd⟩ := mem_itemSubvalues.mp hd
    exact h j hj d hd

theorem IsWhole.object {ms : List (String × Json)} (h : ∀ m ∈ ms, m.2.IsWhole) :
    (Json.object ms).IsWhole := by
  intro d hd
  rcases List.mem_cons.mp hd with hd | hd
  · cases hd
  · obtain ⟨m, hm, hd⟩ := mem_memberSubvalues.mp hd
    exact h m hm d hd

theorem isWritable_array {js : List Json} :
    (Json.array js).IsWritable ↔ ∀ j ∈ js, j.IsWritable := by
  constructor
  · exact fun h j hj d hd => h d (mem_subvalues_array hj hd)
  · intro h d hd
    rcases List.mem_cons.mp hd with hd | hd
    · cases hd
    · obtain ⟨j, hj, hd⟩ := mem_itemSubvalues.mp hd
      exact h j hj d hd

theorem isWritable_object {ms : List (String × Json)} :
    (Json.object ms).IsWritable ↔ ∀ m ∈ ms, m.2.IsWritable := by
  constructor
  · exact fun h m hm d hd => h d (mem_subvalues_object hm hd)
  · intro h d hd
    rcases List.mem_cons.mp hd with hd | hd
    · cases hd
    · obtain ⟨m, hm, hd⟩ := mem_memberSubvalues.mp hd
      exact h m hm d hd

end Json

namespace Value

mutual

/-- Holds of null, truth values, whole numbers and texts, and of lists and mappings of these whose
keys are texts. -/
def isPlain : Value → Bool
  | .null | .bool _ | .int _ | .str _ => true
  | .list xs => plainItems xs
  | .dict es => plainMembers es
  | _ => false
termination_by structural v => v

def plainItems : List Value → Bool
  | [] => true
  | x :: xs => x.isPlain && plainItems xs
termination_by structural xs => xs

def plainMembers : List (Value × Value) → Bool
  | [] => true
  | (k, v) :: es => (match k with | .str _ => true | _ => false) && v.isPlain && plainMembers es
termination_by structural es => es

end

mutual

/-- A plain value is a JSON value. Its document is a text of it, unless an integer is too long. -/
theorem documentChars_of_isPlain : ∀ (v : Value), v.isPlain = true →
    ∃ j, v.json? = some j ∧ j.IsWhole ∧ (v.isWritable = true ↔ j.IsWritable) ∧
      v.documentChars =
        if v.isWritable = true then .ok (j.write Document.stringChar) else .error .digits
  | .null, _ => by
    obtain ⟨hwhole, hwritable⟩ := isWhole_and_isWritable (j := .null) (by simp [subvalues])
    exact ⟨.null, rfl, hwhole, iff_of_true rfl hwritable, rfl⟩
  | .bool b, _ => by
    obtain ⟨hwhole, hwritable⟩ := isWhole_and_isWritable (j := .bool b) (by simp [subvalues])
    exact ⟨.bool b, rfl, hwhole, iff_of_true rfl hwritable, by cases b <;> rfl⟩
  | .int n, _ => by
    refine ⟨.number (ofInt n), rfl, fun d hd => ?_, ⟨fun hn d hd => ?_, fun h => ?_⟩, ?_⟩
    · cases List.mem_singleton.mp hd
      exact ⟨n, rfl⟩
    · cases List.mem_singleton.mp hd
      exact hn
    · exact h (ofInt n) (self_mem_subvalues _)
    · rw [write, chars_ofInt]
      rfl
  | .str s, _ => by
    obtain ⟨hwhole, hwritable⟩ := isWhole_and_isWritable (j := .string s) (by simp [subvalues])
    exact ⟨.string s, rfl, hwhole, iff_of_true rfl hwritable, rfl⟩
  | .list xs, h => by
    obtain ⟨js, hjs, hwhole, hwritable, htexts⟩ := documentItems_of_isPlain xs h
    refine ⟨.array js, by rw [json?, hjs, Option.map_some], .array hwhole, ?_, ?_⟩
    · rw [isWritable, hwritable, isWritable_array]
    · rw [documentChars, htexts, write, ← Document.separated_eq, isWritable]
      split <;> rfl
  | .dict es, h => by
    obtain ⟨ms, hms, hwhole, hwritable, htexts⟩ := documentMembers_of_isPlain es h
    refine ⟨.object ms, by rw [json?, hms, Option.map_some], .object hwhole, ?_, ?_⟩
    · rw [isWritable, hwritable, isWritable_object]
    · rw [documentChars, htexts, write, ← Document.separated_eq, isWritable]
      split <;> rfl
  | .float _, h | .constant _, h | .tuple _, h | .bytes _, h | .byteArray _, h | .set _, h
  | .frozenSet _, h | .column _, h | .columnDraft _, h | .condition _, h | .handle _, h => by
    cases h
termination_by structural v => v

theorem documentItems_of_isPlain : ∀ (xs : List Value), plainItems xs = true →
    ∃ js, itemsJson? xs = some js ∧ (∀ j ∈ js, j.IsWhole) ∧
      (areWritable xs = true ↔ ∀ j ∈ js, j.IsWritable) ∧
      documentItems xs =
        if areWritable xs = true then .ok (writeItems Document.stringChar js) else .error .digits
  | [], _ => ⟨[], rfl, by simp, by simp [areWritable], rfl⟩
  | x :: xs, h => by
    rw [plainItems, Bool.and_eq_true] at h
    obtain ⟨j, hj, hwhole, hwritable, htext⟩ := documentChars_of_isPlain x h.1
    obtain ⟨js, hjs, hwholes, hwritables, htexts⟩ := documentItems_of_isPlain xs h.2
    refine ⟨j :: js, by simp [itemsJson?, hj, hjs], List.forall_mem_cons.mpr ⟨hwhole, hwholes⟩,
      ?_, ?_⟩
    · rw [areWritable, Bool.and_eq_true, hwritable, hwritables, List.forall_mem_cons]
    · rw [documentItems, htext, htexts, areWritable]
      cases x.isWritable <;> cases areWritable xs <;> rfl
termination_by structural xs => xs

theorem documentMembers_of_isPlain : ∀ (es : List (Value × Value)), plainMembers es = true →
    ∃ ms, membersJson? es = some ms ∧ (∀ m ∈ ms, m.2.IsWhole) ∧
      (areWritableEntries es = true ↔ ∀ m ∈ ms, m.2.IsWritable) ∧
      documentMembers es =
        if areWritableEntries es = true then .ok (writeMembers Document.stringChar ms)
        else .error .digits
  | [], _ => ⟨[], rfl, by simp, by simp [areWritableEntries], rfl⟩
  | (k, v) :: es, h => by
    simp only [plainMembers, Bool.and_eq_true] at h
    obtain ⟨⟨hk, hv⟩, hes⟩ := h
    obtain ⟨j, hj, hwhole, hwritable, htext⟩ := documentChars_of_isPlain v hv
    obtain ⟨ms, hms, hwholes, hwritables, htexts⟩ := documentMembers_of_isPlain es hes
    cases k with
    | str name =>
      have hname : (Value.str name).isWritable = true := rfl
      refine ⟨(name, j) :: ms, by simp [membersJson?, memberName?, hj, hms],
        List.forall_mem_cons.mpr ⟨hwhole, hwholes⟩, ?_, ?_⟩
      · rw [areWritableEntries, hname, Bool.true_and, Bool.and_eq_true, hwritable, hwritables,
          List.forall_mem_cons]
      · rw [documentMembers, htext, htexts, areWritableEntries, hname]
        cases v.isWritable <;> cases areWritableEntries es <;> rfl
    | _ => cases hk
termination_by structural es => es

end

theorem json?_eq_null_iff {v : Value} : v.json? = some .null ↔ v.isNull = true := by
  cases v <;> simp [json?, isNull]

theorem json?_eq_string_iff {v : Value} {s : String} :
    v.json? = some (.string s) ↔ v.text? = some s := by
  cases v <;> simp [json?, text?]

end Value

namespace Json

/-- The document of a value other than null and a text is the text of the field just if the two are
written alike. -/
theorem fieldText_eq_iff {j : Json} (hw : j.IsWhole) (hnull : j ≠ .null)
    (hstring : ∀ s, j ≠ .string s) :
    j.fieldText = some (String.ofList (j.write Document.stringChar)) ↔ j.IsWrittenAlike := by
  have htext : j.fieldText = some (String.ofList (j.ordered.write databaseChar)) := by
    cases j with
    | null => exact (hnull rfl).elim
    | string s => exact (hstring s rfl).elim
    | _ => rfl
  rw [htext, Option.some.injEq, String.ofList_inj, ← write_eq_iff hw, eq_comm]

end Json

/-- What is no text is compared as its document, unless an integer in it is too long. -/
theorem jsonbText_document {v : Value} (hv : v.isPlain = true) (ht : v.isText = false) :
    ∃ j, v.json? = some j ∧ j.IsWhole ∧ (v.isWritable = true ↔ j.IsWritable) ∧
      jsonbText v =
        if v.isWritable = true then .ok (String.ofList (j.write Document.stringChar))
        else .error .tooManyDigits := by
  obtain ⟨j, hj, hwhole, hwritable, hchars⟩ := Value.documentChars_of_isPlain v hv
  have hnone : v.text? = none := by simpa [Value.isText] using ht
  refine ⟨j, hj, hwhole, hwritable, ?_⟩
  rw [jsonbText, hnone, Value.document, hchars]
  cases v.isWritable <;> rfl

theorem jsonbText_of_not_isWritable {v : Value} (hv : v.isPlain = true)
    (hw : v.isWritable = false) : jsonbText v = .error .tooManyDigits := by
  have ht : v.isText = false := by
    cases v with
    | str s | constant c => cases hw
    | _ => rfl
  obtain ⟨_, _, _, _, htext⟩ := jsonbText_document hv ht
  rw [htext, hw]
  rfl

/-- Such values are compared as one text just if they are one JSON value, the order of the members
included. -/
theorem jsonbText_eq_iff {v v' : Value} {j : Json} {t : String} (hv : v.isPlain = true)
    (hv' : v'.isPlain = true) (ht : v.isText = false) (ht' : v'.isText = false)
    (hj : v.json? = some j) (h : jsonbText v = .ok t) :
    jsonbText v' = .ok t ↔ v'.json? = some j := by
  obtain ⟨i, hi, hwhole, hwritable, htext⟩ := jsonbText_document hv ht
  obtain ⟨k, hk, hwhole', hwritable', htext'⟩ := jsonbText_document hv' ht'
  cases hj.symm.trans hi
  rw [h] at htext
  split at htext
  next hw =>
    cases htext
    rw [htext', hk, Option.some.injEq]
    constructor
    · intro he
      split at he
      next =>
        have htexts := String.ofList_inj.mp (Except.ok.inj he)
        exact write_inj escapes_stringChar escapes_stringChar hwhole' hwhole htexts
      next => cases he
    · rintro rfl
      rw [if_pos (hwritable'.mpr (hwritable.mp hw))]
  next => cases htext

/-- A plain value is compared as a text, which the field has in the database if the value is a text
itself or its document is written alike. Any other text is at least read as the value. -/
theorem jsonbText_of_isPlain {v : Value} (hv : v.isPlain = true) (hn : v.isNull = false)
    (hw : v.isWritable = true) :
    ∃ j t, v.json? = some j ∧ jsonbText v = .ok t ∧ (v.isText = false → read t = some j) ∧
      (j.fieldText = some t ↔ v.isText = true ∨ j.IsWrittenAlike) := by
  cases ht : v.isText with
  | true =>
    obtain ⟨s, hs⟩ := Option.isSome_iff_exists.mp ht
    have hj : v.json? = some (.string s) := Value.json?_eq_string_iff.mpr hs
    refine ⟨.string s, s, hj, by rw [jsonbText, hs], by simp, ?_⟩
    simp [fieldText]
  | false =>
    obtain ⟨j, hj, hwhole, _, htext⟩ := jsonbText_document hv ht
    rw [if_pos hw] at htext
    have hnull : j ≠ .null := by
      rintro rfl
      rw [Value.json?_eq_null_iff.mp hj] at hn
      cases hn
    have hstring : ∀ s, j ≠ .string s := by
      rintro s rfl
      rw [Value.isText, Value.json?_eq_string_iff.mp hj] at ht
      cases ht
    have hread : read (String.ofList (j.write Document.stringChar)) = some j := by
      apply read_of_yields
      rw [String.toList_ofList]
      exact write_yields escapes_stringChar hwhole
    refine ⟨j, _, hj, htext, fun _ => hread, ?_⟩
    rw [fieldText_eq_iff hwhole hnull hstring]
    simp

/-- A field is compared with nothing else than a value. -/
theorem Condition.isNull_of_fieldComparison {op : JsonbOperator} {path : List String}
    {operand : Value} (hop : op = .fieldEquals ∨ op = .fieldNotEquals)
    (h : checkJsonb op path operand = .ok ()) : operand.isNull = false := by
  by_contra hn
  have hnull : operand.isNull = true := by simpa using hn
  have hpath : path.isEmpty = false := by
    have hne := path_of_checkJsonb h
    rcases hop with rfl | rfl <;> simpa [JsonbOperator.isField] using hne
  rcases hop with rfl | rfl <;> simp [checkJsonb, JsonbOperator.isField, hpath, hnull] at h

namespace Context

variable {ctx : Context} {op : JsonbOperator} {operand : Value} {name text : String}

theorem leaf_of_resolveName {column : ResolvedColumn}
    (hr : ctx.scope.resolveName name = .ok column) (op : JsonbOperator) (path : List String)
    (operand : Value) :
    ctx.leaf (.jsonb name op path operand) = ctx.jsonb column op path operand := by
  rw [leaf, hr]
  rfl

theorem operandPieces_fieldComparison (hop : op = .fieldEquals ∨ op = .fieldNotEquals)
    (path : List String) (operand : Value) :
    op.operandPieces path operand = (jsonbText operand).map fun text => [.bind (.str text)] := by
  have hpieces : op.operandPieces path operand =
      jsonbText operand >>= fun text => .ok [.bind (.str text)] := by
    rcases hop with rfl | rfl <;> rfl
  rw [hpieces]
  cases jsonbText operand with
  | error e => rfl
  | ok text => rfl

/-- Behind the column stands the text that the field is compared with. -/
theorem leaf_fieldComparison (hop : op = .fieldEquals ∨ op = .fieldNotEquals)
    (path : List String) (ht : jsonbText operand = .ok text) {column : ResolvedColumn}
    (hr : ctx.scope.resolveName name = .ok column) :
    ∃ before, ctx.leaf (.jsonb name op path operand) = .ok [.text before, .bind (.str text)] := by
  rw [leaf_of_resolveName hr, jsonb_eq, operandPieces_fieldComparison hop, ht]
  exact ⟨_, rfl⟩

theorem leaf_fieldComparison_error {e : Error} (hop : op = .fieldEquals ∨ op = .fieldNotEquals)
    (path : List String) (ht : jsonbText operand = .error e) {column : ResolvedColumn}
    (hr : ctx.scope.resolveName name = .ok column) :
    ctx.leaf (.jsonb name op path operand) = .error e := by
  rw [leaf_of_resolveName hr, jsonb_eq, operandPieces_fieldComparison hop, ht]
  rfl

end Context

namespace Client

/-- A field is compared with one text that is bound, unless an integer of the value has too many
digits. For a text it is the text itself, as the database has it. For any other plain value it is a
text that is read as the value, but the one that the database has for the value only if all
characters in it are ASCII (`isAscii`) and the members of its objects stand in their order: in
another order they are bound as another text, and the database has one text for both. -/
theorem comparison_binds_fieldText_iff (client : Client) {f : JsonbField} {op : JsonbOperator}
    {v w : Value} (hop : op = .fieldEquals ∨ op = .fieldNotEquals) (hv : v.isPlain = true)
    (hw : f.apply op v = .ok w) :
    ∃ name, w = .condition (.jsonb name op f.path v) ∧
      (v.isWritable = false →
        (∀ (ctx : Context) column, ctx.scope.resolveName name = .ok column →
          ctx.leaf (.jsonb name op f.path v) = .error .tooManyDigits) ∧
        ∀ q c, client.compile (.select q) = .ok c →
          .jsonb name op f.path v ∉ (Statement.select q).leaves) ∧
      (v.isWritable = true → ∃ j t, v.json? = some j ∧
        (∀ (ctx : Context) column, ctx.scope.resolveName name = .ok column →
          ∃ before, ctx.leaf (.jsonb name op f.path v) = .ok [.text before, .bind (.str t)]) ∧
        (∀ q c, client.compile (.select q) = .ok c →
          .jsonb name op f.path v ∈ (Statement.select q).leaves →
            ∃ ps before, c = Compiled.ofPieces client.dialect ps ∧
              [.text before, .bind (.str t)] <:+: ps) ∧
        (v.isText = false → Json.read t = some j) ∧
        (j.fieldText = some t ↔ v.isText = true ∨ j.IsWrittenAlike) ∧
        (∀ v' : Value, v'.isPlain = true → v.isText = false → v'.isText = false →
          (jsonbText v' = .ok t ↔ v'.json? = some j)) ∧
        (∀ ms ms', j = .object ms → ms.Perm ms' → (ms.map Prod.fst).Nodup →
          (Json.object ms').fieldText = j.fieldText)) := by
  obtain ⟨name, _, _, hk, rfl⟩ := JsonbField.apply_eq_ok_iff.mp hw
  have hn : v.isNull = false := Condition.isNull_of_fieldComparison hop hk
  -- in a query that compiles, the condition was written somewhere by itself, behind its column
  have hwritten : ∀ q c, client.compile (.select q) = .ok c →
      .jsonb name op f.path v ∈ (Statement.select q).leaves →
        ∃ (ctx : Context) (column : ResolvedColumn) (ps part : List Piece),
          ctx.scope.resolveName name = .ok column ∧
          ctx.leaf (.jsonb name op f.path v) = .ok part ∧
          c = Compiled.ofPieces client.dialect ps ∧ part <:+: ps := by
    intro q c hc hm
    obtain ⟨ps, hps, rfl⟩ := map_eq_ok_iff.mp hc
    obtain ⟨ctx, _, hleaves⟩ := pieces_leaf_infix hps
    obtain ⟨part, hpart, hinfix⟩ := hleaves _ hm (by simp)
    obtain ⟨column, hr, _⟩ := bind_eq_ok_iff.mp hpart
    exact ⟨ctx, column, ps, part, hr, hpart, rfl, hinfix⟩
  refine ⟨name, rfl, fun hlong => ⟨?_, ?_⟩, fun hwritable => ?_⟩
  · intro ctx column hr
    exact Context.leaf_fieldComparison_error hop f.path (jsonbText_of_not_isWritable hv hlong) hr
  · intro q c hc hm
    obtain ⟨ctx, column, ps, part, hr, hpart, _⟩ := hwritten q c hc hm
    have herror := Context.leaf_fieldComparison_error hop f.path
      (jsonbText_of_not_isWritable hv hlong) hr
    cases herror.symm.trans hpart
  · obtain ⟨j, t, hj, ht, hread, htext⟩ := jsonbText_of_isPlain hv hn hwritable
    refine ⟨j, t, hj, ?_, ?_, hread, htext, ?_, ?_⟩
    · intro ctx column hr
      exact Context.leaf_fieldComparison hop f.path ht hr
    · intro q c hc hm
      obtain ⟨ctx, column, ps, part, hr, hpart, hps, hinfix⟩ := hwritten q c hc hm
      obtain ⟨before, hleaf⟩ := Context.leaf_fieldComparison hop f.path ht hr
      cases hleaf.symm.trans hpart
      exact ⟨ps, before, hps, hinfix⟩
    · intro v' hv' hf hf'
      exact jsonbText_eq_iff hv hv' hf hf' hj ht
    · rintro ms ms' rfl hp hnames
      exact fieldText_perm hp hnames

/-- A query for the rows whose field equals a value. -/
def comparingQuery (operand : Value) : SelectQuery :=
  { table := ⟨"users", none⟩,
    filter := some (.jsonb "metadata" .fieldEquals ["a"] operand) }

theorem apply_comparison {operand : Value} (hn : operand.isNull = false) :
    (JsonbField.mk (.str "metadata") ["a"]).apply .fieldEquals operand =
      .ok (.condition (.jsonb "metadata" .fieldEquals ["a"] operand)) := by
  refine JsonbField.apply_of_isColumnName (.bare (by decide)) (by decide) ?_
  simp [Condition.checkJsonb, JsonbOperator.isField, hn]

/-- Members that stand in their order, with a quote among their characters. -/
def orderedDocument : Value :=
  .dict [(.str "b", .list [.int (-1), .null, .str "x\"y"]), (.str "aa", .bool true)]

def orderedJson : Json :=
  .object [("b", .array [.number ⟨true, 1, 0⟩, .null, .string "x\"y"]), ("aa", .bool true)]

def orderedText : String :=
  "\x7b\"b\": [-1, null, \"x\\\"y\"], \"aa\": true\x7d"

theorem orderedJson_isWrittenAlike : orderedJson.IsWrittenAlike where
  ascii := by decide +kernel
  isOrdered ms hms := by
    simp only [orderedJson, subvalues, memberSubvalues, itemSubvalues, List.mem_cons,
      List.mem_append, List.not_mem_nil, reduceCtorEq, or_false, object.injEq] at hms
    rw [hms]
    decide +kernel

/-- The field is compared with just the text that the database has for the document. -/
theorem comparison_binds_fieldText_orderedDocument :
    ∃ c, (ofSettings {} none).compile (.select (comparingQuery orderedDocument)) = .ok c ∧
      c.sql = "SELECT * FROM users WHERE metadata ->> 'a' = $1" ∧
      c.parameters = [.str orderedText] ∧
      orderedDocument.json? = some orderedJson ∧ orderedJson.fieldText = some orderedText := by
  have hcompile : ∃ c, (ofSettings {} none).compile (.select (comparingQuery orderedDocument)) =
      .ok c ∧ c.sql = "SELECT * FROM users WHERE metadata ->> 'a' = $1" ∧
      c.parameters = [.str orderedText] := ⟨_, rfl, by decide +kernel, rfl⟩
  obtain ⟨c, hc, hsql, hparameters⟩ := hcompile
  obtain ⟨name, hcondition, _, hbinds⟩ := comparison_binds_fieldText_iff
    (ofSettings {} none) (Or.inl rfl) (show orderedDocument.isPlain = true from rfl)
    (apply_comparison rfl)
  obtain ⟨j, t, hj, hleaf, _, _, htext, _⟩ := hbinds rfl
  cases hcondition
  cases hj
  let ctx : Context := ⟨Dialect.postgres true, ⟨[⟨"users", none⟩], none⟩, {}, none⟩
  obtain ⟨before, hpieces⟩ := hleaf ctx _ rfl
  have hbound : ctx.leaf (.jsonb "metadata" .fieldEquals ["a"] orderedDocument) =
      .ok [.text "metadata ->> 'a' = ", .bind (.str orderedText)] := rfl
  cases hbound.symm.trans hpieces
  exact ⟨c, hc, hsql, hparameters, rfl, htext.mpr (Or.inr orderedJson_isWrittenAlike)⟩

/-- Two members that do not stand in their order. -/
def unorderedDocument : Value :=
  .dict [(.str "b", .int 1), (.str "a", .int 2)]

/-- The database has the two members in the other order, so the field equals no text that is
bound for them. -/
theorem unordered_comparison : ¬ ∀ (f : JsonbField) op (v : Value) name q c,
    op = .fieldEquals ∨ op = .fieldNotEquals → v.isPlain = true →
      f.apply op v = .ok (.condition (.jsonb name op f.path v)) →
        q.filter = some (.jsonb name op f.path v) →
          (ofSettings {} none).compile (.select q) = .ok c →
            ∃ j t, v.json? = some j ∧ c.parameters = [.str t] ∧ j.fieldText = some t := by
  intro h
  have hcompile : ∃ c, (ofSettings {} none).compile (.select (comparingQuery unorderedDocument)) =
      .ok c ∧ c.parameters = [.str "\x7b\"b\": 1, \"a\": 2\x7d"] := ⟨_, rfl, rfl⟩
  obtain ⟨c, hc, hparameters⟩ := hcompile
  obtain ⟨j, t, hj, ht, hfield⟩ := h _ _ _ _ _ _ (Or.inl rfl) rfl (apply_comparison rfl) rfl hc
  have htext : unorderedDocument.json?.bind Json.fieldText =
      some "\x7b\"a\": 2, \"b\": 1\x7d" := by
    decide +kernel
  cases hparameters.symm.trans ht
  rw [hj, Option.bind_some, hfield] at htext
  exact absurd htext (by decide)

/-- Characters beyond ASCII are escaped in what is bound, but not in the database. -/
example : (Value.list [.str "é"]).json?.bind Json.fieldText = some "[\"é\"]" ∧
    (jsonbText (.list [.str "é"])).toOption = some "[\"\\u00e9\"]" := by
  decide +kernel

end Client

end QueryBuilder
