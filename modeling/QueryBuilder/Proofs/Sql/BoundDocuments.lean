import QueryBuilder.Proofs.Json.Documents
import QueryBuilder.Proofs.Sql.Failures
import QueryBuilder.Proofs.Sql.KeyLiterals
import QueryBuilder.Proofs.Sql.TablesInScope

/-!
The documents that a query binds. Where a condition asks what a document contains, its operand is
bound as one text, which is read as the operand again, or the query is refused.
-/
namespace QueryBuilder

/-- Holds of the operators that ask what a document contains. -/
def JsonbOperator.isContainment : JsonbOperator → Bool
  | contains | containedBy | fieldContains => true
  | _ => false

/-- How a text is read that was written of a value. -/
structure Value.IsReadFrom (v : Value) (text : String) : Prop where
  /-- No integer of the value has too many digits. -/
  writable : v.isWritable = true
  /-- It is a JSON text of the value, or none. -/
  value : Json.read text = v.json?
  /-- It is one just if all the numbers of the value are finite. -/
  finite : (Json.read text).isSome = true ↔ ∀ t ∈ v.floats, t ∉ Text.nonFinite
  /-- Names of members are distinct just where the keys of mappings have distinct names. -/
  names : ∀ j, Json.read text = some j → ((∀ names ∈ j.objects, names.Nodup) ↔
    ∀ keys ∈ v.mappings, (keys.map Value.memberName?).Nodup)

theorem Value.isReadFrom_document {v : Value} {text : String} (hf : ∀ t ∈ v.floats, Text.IsFloat t)
    (h : v.document = .ok text) : v.IsReadFrom text where
  writable := isWritable_of_document h
  value := read_document hf h
  finite := isSome_read_document hf h
  names _ hj := nodup_objects ((read_document hf h).symm.trans hj)

/-- What is bound for an operand, as a document. -/
def documentPieces (before text : String) : List Piece :=
  [.text before, .bind (.str text), .text "::jsonb"]

/-- What can come of a condition on what a document contains. -/
inductive IsContainment (op : JsonbOperator) (operand : Value) : Except Error (List Piece) → Prop
  /-- Its column is refused. -/
  | column {e : Error} : e.isNaming = true → IsContainment op operand (.error e)
  /-- Its operand is refused, and then it is no JSON value. -/
  | operand {fault : DocumentFault} : operand.json? = none →
    IsContainment op operand (.error (.operand (.document op fault) operand))
  /-- An integer in its operand has too many digits. -/
  | digits : operand.isWritable = false → IsContainment op operand (.error .tooManyDigits)
  /-- Its operand is bound as a text that is read as the operand. -/
  | bound {before text : String} : operand.IsReadFrom text →
    IsContainment op operand (.ok (documentPieces before text))

/-- The error is about a name or a table of the query, or the operand is no JSON value, or a number
of the query or of the operand has too many digits. -/
def Error.RefusesContainment (q : SelectQuery) (op : JsonbOperator) (operand : Value) (e : Error) :
    Prop :=
  e.isNaming = true ∨ e.isDuplicate = true ∨
    (operand.json? = none ∧ ∃ fault, e = .operand (.document op fault) operand) ∨
    (operand.isWritable = false ∨ ¬ (Statement.select q).IsReadable) ∧ e = .tooManyDigits

namespace Context

variable {ctx : Context} {op : JsonbOperator} {operand : Value}

theorem operandPieces_containment (hop : op.isContainment = true) (path : List String)
    (operand : Value) : op.operandPieces path operand = jsonbDocument op operand := by
  cases op with
  | contains | containedBy | fieldContains => rfl
  | _ => cases hop

theorem jsonb_isContainment (ctx : Context) (column : ResolvedColumn) (path : List String)
    (hop : op.isContainment = true) (hf : ∀ t ∈ operand.floats, Text.IsFloat t) :
    IsContainment op operand (ctx.jsonb column op path operand) := by
  rw [jsonb_eq, operandPieces_containment hop, jsonbDocument]
  cases hd : operand.document with
  | error fault =>
    simp only [documentError]
    split
    next hw => exact .operand (Value.json?_of_document_error hw hd)
    next hw => exact .digits (Bool.eq_false_iff.mpr hw)
  | ok text => exact .bound (Value.isReadFrom_document hf hd)

theorem leaf_isContainment (ctx : Context) (name : String) (path : List String)
    (hop : op.isContainment = true) (hf : ∀ t ∈ operand.floats, Text.IsFloat t) :
    IsContainment op operand (ctx.leaf (.jsonb name op path operand)) := by
  cases hleaf : ctx.leaf (.jsonb name op path operand) with
  | error e =>
    rcases bind_eq_error_iff.mp hleaf with hcolumn | ⟨column, _, hjsonb⟩
    · have hnaming : FailsWith (·.isNaming = true) (ctx.scope.resolveName name) :=
        Scope.resolveName_fails (fun _ he => he) ctx.scope name none []
      exact .column (hnaming e hcolumn)
    · have hcontainment := ctx.jsonb_isContainment column path hop hf
      rwa [hjsonb] at hcontainment
  | ok ps =>
    obtain ⟨column, _, hjsonb⟩ := bind_eq_ok_iff.mp hleaf
    have hcontainment := ctx.jsonb_isContainment column path hop hf
    rwa [hjsonb] at hcontainment

/-- A condition that stands alone is refused as it is by itself. -/
theorem predicate_fails_of_isContainment (q : SelectQuery) {name : String} {path : List String}
    (hop : op.isContainment = true) (hf : ∀ t ∈ operand.floats, Text.IsFloat t) :
    FailsWith (Error.RefusesContainment q op operand)
      (ctx.predicate (.jsonb name op path operand)) := by
  have hleaf := ctx.leaf_isContainment name path hop hf
  have hlayout : (Condition.jsonb name op path operand).layout .root =
      [.leaf (.jsonb name op path operand)] := rfl
  rw [predicate, hlayout]
  refine (FailsWith.forEach fun t ht => ?_).map
  cases List.mem_singleton.mp ht
  intro e he
  rw [show ctx.leaf (.jsonb name op path operand) = .error e from he] at hleaf
  cases hleaf with
  | column hnaming => exact Or.inl hnaming
  | operand hnone => exact Or.inr (Or.inr (Or.inl ⟨hnone, _, rfl⟩))
  | digits hw => exact Or.inr (Or.inr (Or.inr ⟨Or.inl hw, rfl⟩))

end Context

namespace Client

/-- What a query comes to that asks what a document contains. -/
structure ContainmentsAreRead (client : Client) : Prop where
  /-- The calls on a column and on a field keep the operand as it is. -/
  columnCalls : ∀ (j : JsonbColumn) (op : JsonbOperator) (operand v : Value),
    j.apply op operand = .ok v → ∃ name, v = .condition (.jsonb name op [] operand)
  fieldCalls : ∀ (f : JsonbField) (op : JsonbOperator) (operand v : Value),
    f.apply op operand = .ok v → ∃ name, v = .condition (.jsonb name op f.path operand)
  /-- The condition by itself is refused, or a text is bound that is read as the operand. -/
  conditions : ∀ (ctx : Context) name op path operand, op.isContainment = true →
    (∀ t ∈ operand.floats, Text.IsFloat t) →
      IsContainment op operand (ctx.leaf (.jsonb name op path operand))
  /-- So it is in every query that compiles. -/
  queries : ∀ q c, client.compile (.select q) = .ok c → ∀ name op path operand,
    .jsonb name op path operand ∈ (Statement.select q).leaves → op.isContainment = true →
      (∀ t ∈ operand.floats, Text.IsFloat t) →
        ∃ ps before text, c = Compiled.ofPieces client.dialect ps ∧
          documentPieces before text <:+: ps ∧ operand.IsReadFrom text
  /-- A query with just this condition is refused for its names and its tables, or because the
  operand is no JSON value, or for a number of too many digits. -/
  refusals : ∀ q name op path operand e, q.filter = some (.jsonb name op path operand) →
    op.isContainment = true → (∀ t ∈ operand.floats, Text.IsFloat t) →
      client.compile (.select q) = .error e → e.RefusesContainment q op operand

/-- The operand of a containment is read again as what it is, or refused. -/
theorem containments_are_read (client : Client) : ContainmentsAreRead client where
  columnCalls _ _ _ _ h := JsonbColumn.apply_eq_ok h
  fieldCalls _ _ _ _ h := by
    obtain ⟨name, _, _, _, hv⟩ := JsonbField.apply_eq_ok_iff.mp h
    exact ⟨name, hv⟩
  conditions ctx name _ path _ hop hf := ctx.leaf_isContainment name path hop hf
  queries q c h name op path operand hm hop hf := by
    obtain ⟨ps, hps, rfl⟩ := map_eq_ok_iff.mp h
    obtain ⟨ctx, _, hleaves⟩ := pieces_leaf_infix hps
    obtain ⟨part, hpart, hinfix⟩ := hleaves _ hm (by simp)
    have hbound := ctx.leaf_isContainment name path hop hf
    rw [hpart] at hbound
    cases hbound with
    | bound hread => exact ⟨_, _, _, rfl, hinfix, hread⟩
  refusals q name op path operand e hq hop hf h := by
    refine compile_fails_of_filter (p := Error.RefusesContainment q op operand) (fun _ => Or.inl)
      (fun _ _ _ => Or.inr (Or.inl rfl)) (fun ctx c hc => ?_) (fun n hn hlong => ?_) e h
    · cases hq.symm.trans hc
      exact Context.predicate_fails_of_isContainment q hop hf
    · have hread := Statement.not_isReadable_of_mem (SelectQuery.count_mem_mentions hn) hlong
      exact Or.inr (Or.inr (Or.inr ⟨Or.inr hread, rfl⟩))

/-- A query for the rows whose document contains another. -/
def containingQuery (operand : Value) : SelectQuery :=
  { table := ⟨"users", none⟩, filter := some (.jsonb "metadata" .contains [] operand) }

/-- A number that is undefined is bound by its name, which is no JSON text. -/
theorem unread_document_nan : ¬ ∀ (q : SelectQuery) (c : Compiled) name op path operand,
    q.filter = some (.jsonb name op path operand) → op.isContainment = true →
      (∀ t ∈ operand.floats, Text.IsFloat t) →
        (ofSettings {} none).compile (.select q) = .ok c →
          ∃ text j, c.parameters = [.str text] ∧ Json.read text = some j ∧
            ∀ names ∈ j.objects, names.Nodup := by
  intro h
  have hfloat : ∀ t ∈ (Value.float "nan").floats, Text.IsFloat t := by
    intro t ht
    cases List.mem_singleton.mp ht
    exact Or.inl (by decide)
  have hcompile : ∃ c, (ofSettings {} none).compile (.select (containingQuery (.float "nan"))) =
      .ok c ∧ c.parameters = [.str "NaN"] := ⟨_, rfl, rfl⟩
  obtain ⟨c, hc, hparameters⟩ := hcompile
  obtain ⟨text, j, htext, hread, _⟩ := h _ _ _ _ _ _ rfl rfl hfloat hc
  cases hparameters.symm.trans htext
  have hnone : Json.read "NaN" = none := by decide +kernel
  rw [hnone] at hread
  cases hread

/-- A number and the text of it are two keys, but their members have one name. -/
example : (Value.dict [(.int 1, .str "a"), (.str "1", .str "b")]).json?.map Json.objects =
    some [["1", "1"]] :=
  rfl

/-- A document with numbers, a tuple, and a text beyond ASCII. -/
def nestedDocument : Value :=
  .dict [(.str "é", .list [.int (-1), .float "2.5e-07", .tuple [.null, .str "\"😀"]]),
    (.int 1, .bool true)]

def nestedText : String :=
  "\x7b\"\\u00e9\": [-1, 2.5e-07, [null, \"\\\"\\ud83d\\ude00\"]], \"1\": true\x7d"

theorem nestedDocument_floats : ∀ t ∈ nestedDocument.floats, Text.IsFloat t := by
  intro t ht
  cases List.mem_singleton.mp ht
  have hfraction : Text.IsFraction ['.', '5'] := Or.inr ⟨['5'], rfl, by simp [Text.IsDigits]⟩
  have hpower : Text.IsPower ['e', '-', '0', '7'] :=
    Or.inr ⟨'-', ['0', '7'], rfl, Or.inr rfl, by simp [Text.IsDigits]⟩
  exact Or.inr (.mk false 2 hfraction hpower)

/-- The text of the document is bound and read as the document, with two names that differ. -/
theorem containments_are_read_nestedDocument :
    ∃ c j, (ofSettings {} none).compile (.select (containingQuery nestedDocument)) = .ok c ∧
      c.sql = "SELECT * FROM users WHERE metadata @> $1::jsonb" ∧
      c.parameters = [.str nestedText] ∧ nestedDocument.json? = some j ∧
      Json.read nestedText = some j ∧ ∀ names ∈ j.objects, names.Nodup := by
  have hcompile : ∃ c, (ofSettings {} none).compile (.select (containingQuery nestedDocument)) =
      .ok c ∧ c.sql = "SELECT * FROM users WHERE metadata @> $1::jsonb" ∧
      c.parameters = [.str nestedText] := ⟨_, rfl, by decide +kernel, rfl⟩
  obtain ⟨c, hc, hsql, hparameters⟩ := hcompile
  obtain ⟨j, hj⟩ : ∃ j, nestedDocument.json? = some j := ⟨_, rfl⟩
  have hkeys : ∀ keys ∈ nestedDocument.mappings, (keys.map Value.memberName?).Nodup := by
    intro keys hm
    cases List.mem_singleton.mp hm
    decide +kernel
  let ctx : Context := ⟨Dialect.postgres true, ⟨[], none⟩, {}, none⟩
  have hleaf : ctx.leaf (.jsonb "metadata" .contains [] nestedDocument) =
      .ok (documentPieces "metadata @> " nestedText) := rfl
  have hcondition := (containments_are_read (ofSettings {} none)).conditions ctx "metadata"
    .contains [] nestedDocument rfl nestedDocument_floats
  rw [hleaf] at hcondition
  cases hcondition with
  | bound hread =>
    have hvalue : Json.read nestedText = some j := hread.value.trans hj
    exact ⟨c, j, hc, hsql, hparameters, hj, hvalue, (hread.names j hvalue).mpr hkeys⟩

end Client

end QueryBuilder
