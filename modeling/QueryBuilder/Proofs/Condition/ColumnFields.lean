import QueryBuilder.Condition.Factory
import QueryBuilder.Proofs.Identifier.Expressions

/-!
Conditions and references that are made from a column and other fields. The other fields decide
whether any column is taken there, and then every text that names a column is.
-/
namespace QueryBuilder

open Reading

/-- The column that a condition is about. -/
def Condition.column? : Condition → Option String
  | .comparison column _ _ | .array column _ _ _ | .jsonb column _ _ _ => some column
  | _ => none

def Value.column? : Value → Option String
  | .column name => some name
  | .condition c => c.column?
  | _ => none

/-- The field that names a column, if the kind has one. -/
def NodeKind.columnField? : NodeKind → Option String
  | .condition .comparison | .condition .array | .condition .jsonb => some "column"
  | .column => some "name"
  | _ => none

/-- A place takes what is read from a text, if what else it is given suits. -/
def TakesBy (reads : String → String → Prop) (takes : String → Option String) : Prop :=
  ∃ suits : Prop, ∀ s name, takes s = some name ↔ reads s name ∧ suits

theorem TakesBy.congr {reads reads' : String → String → Prop} {takes : String → Option String}
    (h : TakesBy reads takes) (hr : ∀ s name, reads s name ↔ reads' s name) :
    TakesBy reads' takes := by
  obtain ⟨suits, h⟩ := h
  exact ⟨suits, fun s name => (h s name).trans (and_congr_left' (hr s name))⟩

section

variable {α ι : Type} {reads : String → String → Prop} {make : String → Except Error α}
  {kept : α → Option String} {suits : ι → Prop} {result : String → ι → α}

theorem TakesBy.of_result
    (h : ∀ s a, make s = .ok a ↔ ∃ name i, reads s name ∧ suits i ∧ a = result name i)
    (hkept : ∀ name i, kept (result name i) = some name) :
    TakesBy reads fun s => (make s).toOption.bind kept := by
  have hok : ∀ s a, (make s).toOption = some a ↔ make s = .ok a := by
    intro s a
    cases make s <;> simp [Except.toOption]
  refine ⟨∃ i, suits i, fun s name => ?_⟩
  simp only [Option.bind_eq_some_iff, hok, h]
  constructor
  · rintro ⟨_, ⟨other, i, hread, hi, rfl⟩, hname⟩
    cases (hkept other i).symm.trans hname
    exact ⟨hread, i, hi⟩
  · rintro ⟨hread, i, hi⟩
    exact ⟨_, ⟨name, i, hread, hi, rfl⟩, hkept name i⟩

end

namespace ConditionEntry

def ofField (field : String) (v : Value) : ConditionEntry :=
  ⟨.str field, v, v.asCondition, v.asConditions⟩

variable {field other name tag : String} {v : Value} {rest : List ConditionEntry} {β : Type}

theorem entries_ofField :
    entries (ofField field v :: rest) = (.str field, v) :: entries rest :=
  rfl

theorem get?_ofField (h : field ≠ other) :
    (entries (ofField field v :: rest)).get? other = (entries rest).get? other := by
  have hne : ((Value.str field).text? == some other) = false := by simpa [Value.text?] using h
  rw [entries_ofField, Entries.get?, List.find?_cons_of_neg (by simpa using hne), ← Entries.get?]

theorem required_ofField (h : field ≠ other) (f : Value → Reading β) :
    (entries (ofField field v :: rest)).required other f = (entries rest).required other f := by
  rw [Entries.required, get?_ofField h, ← Entries.required]

theorem optional_ofField (h : field ≠ other) (default : β) (f : Value → Reading β) :
    (entries (ofField field v :: rest)).optional other default f =
      (entries rest).optional other default f := by
  rw [Entries.optional, get?_ofField h, ← Entries.optional]

theorem kindIs_ofField (h : field ≠ "kind") :
    kindIs (ofField field v :: rest) tag = kindIs rest tag :=
  optional_ofField h () _

theorem only_ofField {names : List String} (h : field ∈ names) :
    (entries (ofField field v :: rest)).only names = (entries rest).only names := by
  have hextra : Entries.extraIssue names (.str field, v) = none := by
    simp [Entries.extraIssue, Value.text?, h]
  rw [entries_ofField, Entries.only, List.filterMap_cons_none hextra, ← Entries.only]

theorem column_ofField : column (ofField field v :: rest) field = ok name ↔
    v.readText.check readColumn = ok name := by
  have hget : (entries (ofField field v :: rest)).get? field = some v := by
    rw [entries_ofField, Entries.get?, List.find?_cons_of_pos (by simp [Value.text?])]
    rfl
  simp only [column, Entries.required, hget, below_eq_ok]

end ConditionEntry

theorem readColumn_check_text {v : Value} {s name : String} (hv : v.text? = some s) :
    v.readText.check readColumn = ok name ↔ readColumn s = .ok name := by
  have hread : v.readText = ok s := by
    cases v with
    | str _ | constant _ =>
      cases hv
      rfl
    | _ => cases hv
  rw [hread, check_eq_ok]
  simp

theorem readColumn_check_str {s name : String} :
    (Value.str s).readText.check readColumn = ok name ↔ readColumn s = .ok name :=
  readColumn_check_text rfl

namespace Condition

open ConditionEntry

variable {v : Value} {rest : List ConditionEntry} {c : Condition}

theorem ofEntries_comparison : ofEntries .comparison (.ofField "column" v :: rest) = ok c ↔
    ∃ name, ∃ i : Comparison × Value, v.readText.check readColumn = ok name ∧
      (kindIs rest "comparison" = ok () ∧
        (entries rest).required "operator" (fun v => .ofExcept (readComparison v)) = ok i.1 ∧
        (entries rest).optional "value" .null .ok = ok i.2 ∧
        (entries rest).only ["kind", "column", "operator", "value"] = ok () ∧
        checkComparison i.1 i.2 = .ok ()) ∧
      c = .comparison name i.1 i.2 := by
  simp only [ofEntries, check_eq_ok, apply_eq_ok, functor_map_eq_ok, column_ofField,
    kindIs_ofField (show "column" ≠ "kind" by decide),
    required_ofField (show "column" ≠ "operator" by decide),
    optional_ofField (show "column" ≠ "value" by decide),
    only_ofField (show "column" ∈ ["kind", "column", "operator", "value"] by decide)]
  constructor
  · rintro ⟨_, ⟨_, _, ⟨_, value, ⟨_, op, ⟨_, name, ⟨_, hkind, rfl⟩, hname, rfl⟩, hop, rfl⟩, hvalue,
      rfl⟩, honly, rfl⟩, hc⟩
    obtain ⟨_, hk, hc⟩ := bind_eq_ok_iff.mp hc
    cases hc
    exact ⟨name, (op, value), hname, ⟨hkind, hop, hvalue, honly, hk⟩, rfl⟩
  · rintro ⟨name, ⟨op, value⟩, hname, ⟨hkind, hop, hvalue, honly, hk⟩, rfl⟩
    exact ⟨_, ⟨_, (), ⟨_, value, ⟨_, op, ⟨_, name, ⟨(), hkind, rfl⟩, hname, rfl⟩, hop, rfl⟩, hvalue,
      rfl⟩, honly, rfl⟩, bind_eq_ok_iff.mpr ⟨(), hk, rfl⟩⟩

theorem ofEntries_array : ofEntries .array (.ofField "column" v :: rest) = ok c ↔
    ∃ name, ∃ i : ArrayOperator × Value × Option String, v.readText.check readColumn = ok name ∧
      (kindIs rest "array" = ok () ∧
        (entries rest).required "operator" (Value.readConstant ArrayOperator.ofText?) = ok i.1 ∧
        (entries rest).required "operand" .ok = ok i.2.1 ∧
        (entries rest).optional "element_type" none (Value.readOption fun v =>
          v.readText.check checkElementType) = ok i.2.2 ∧
        (entries rest).only ["kind", "column", "operator", "operand", "element_type"] = ok () ∧
        checkArray i.1 i.2.1 = .ok ()) ∧
      c = .array name i.1 i.2.1 i.2.2 := by
  simp only [ofEntries, check_eq_ok, apply_eq_ok, functor_map_eq_ok, column_ofField,
    kindIs_ofField (show "column" ≠ "kind" by decide),
    required_ofField (show "column" ≠ "operator" by decide),
    required_ofField (show "column" ≠ "operand" by decide),
    optional_ofField (show "column" ≠ "element_type" by decide),
    only_ofField (show "column" ∈ ["kind", "column", "operator", "operand", "element_type"] by
      decide)]
  constructor
  · rintro ⟨_, ⟨_, _, ⟨_, type, ⟨_, operand, ⟨_, op, ⟨_, name, ⟨_, hkind, rfl⟩, hname, rfl⟩, hop,
      rfl⟩, hoperand, rfl⟩, htype, rfl⟩, honly, rfl⟩, hc⟩
    obtain ⟨_, hk, hc⟩ := bind_eq_ok_iff.mp hc
    cases hc
    exact ⟨name, (op, operand, type), hname, ⟨hkind, hop, hoperand, htype, honly, hk⟩, rfl⟩
  · rintro ⟨name, ⟨op, operand, type⟩, hname, ⟨hkind, hop, hoperand, htype, honly, hk⟩, rfl⟩
    exact ⟨_, ⟨_, (), ⟨_, type, ⟨_, operand, ⟨_, op, ⟨_, name, ⟨(), hkind, rfl⟩, hname, rfl⟩, hop,
      rfl⟩, hoperand, rfl⟩, htype, rfl⟩, honly, rfl⟩, bind_eq_ok_iff.mpr ⟨(), hk, rfl⟩⟩

theorem ofEntries_jsonb : ofEntries .jsonb (.ofField "column" v :: rest) = ok c ↔
    ∃ name, ∃ i : JsonbOperator × List String × Value, v.readText.check readColumn = ok name ∧
      (kindIs rest ConditionKind.jsonb.tag = ok () ∧
        (entries rest).required "operator" (Value.readConstant JsonbOperator.ofText?) = ok i.1 ∧
        (entries rest).optional "path" [] (fun v =>
          (v.readTuple Value.readText).check checkPath) = ok i.2.1 ∧
        (entries rest).optional "operand" .null .ok = ok i.2.2 ∧
        (entries rest).only ["kind", "column", "operator", "path", "operand"] = ok () ∧
        checkJsonb i.1 i.2.1 i.2.2 = .ok ()) ∧
      c = .jsonb name i.1 i.2.1 i.2.2 := by
  simp only [ofEntries, check_eq_ok, apply_eq_ok, functor_map_eq_ok, column_ofField,
    kindIs_ofField (show "column" ≠ "kind" by decide),
    required_ofField (show "column" ≠ "operator" by decide),
    optional_ofField (show "column" ≠ "path" by decide),
    optional_ofField (show "column" ≠ "operand" by decide),
    only_ofField (show "column" ∈ ["kind", "column", "operator", "path", "operand"] by decide)]
  constructor
  · rintro ⟨_, ⟨_, _, ⟨_, operand, ⟨_, path, ⟨_, op, ⟨_, name, ⟨_, hkind, rfl⟩, hname, rfl⟩, hop,
      rfl⟩, hpath, rfl⟩, hoperand, rfl⟩, honly, rfl⟩, hc⟩
    obtain ⟨_, hk, hc⟩ := bind_eq_ok_iff.mp hc
    cases hc
    exact ⟨name, (op, path, operand), hname, ⟨hkind, hop, hpath, hoperand, honly, hk⟩, rfl⟩
  · rintro ⟨name, ⟨op, path, operand⟩, hname, ⟨hkind, hop, hpath, hoperand, honly, hk⟩, rfl⟩
    exact ⟨_, ⟨_, (), ⟨_, operand, ⟨_, path, ⟨_, op, ⟨_, name, ⟨(), hkind, rfl⟩, hname, rfl⟩, hop,
      rfl⟩, hpath, rfl⟩, hoperand, rfl⟩, honly, rfl⟩, bind_eq_ok_iff.mpr ⟨(), hk, rfl⟩⟩

end Condition

namespace NodeKind

open ConditionEntry

variable {v w : Value} {rest : List ConditionEntry}

theorem ofEntries_column : ofEntries .column (.ofField "name" v :: rest) = ok w ↔
    ∃ name, ∃ _ : Unit, v.readText.check readColumn = ok name ∧
      (kindIs rest "column_ref" = ok () ∧ (entries rest).only ["kind", "name"] = ok ()) ∧
      w = .column name := by
  simp only [ofEntries, apply_eq_ok, functor_map_eq_ok, column_ofField,
    kindIs_ofField (show "name" ≠ "kind" by decide),
    only_ofField (show "name" ∈ ["kind", "name"] by decide)]
  constructor
  · rintro ⟨_, _, ⟨_, name, ⟨_, hkind, rfl⟩, hname, rfl⟩, honly, rfl⟩
    exact ⟨name, (), hname, ⟨hkind, honly⟩, rfl⟩
  · rintro ⟨name, _, hname, ⟨hkind, honly⟩, rfl⟩
    exact ⟨_, (), ⟨_, name, ⟨(), hkind, rfl⟩, hname, rfl⟩, honly, rfl⟩

/-- A condition takes what is read from the text of its column. -/
theorem make_condition_takes {ι : Type} {kind : ConditionKind} {field : String}
    {fields : List (String × Value)} {suits : ι → Prop} {result : String → ι → Condition}
    (h : ∀ v c, Condition.ofEntries kind (.ofField field v ::
      conditionEntries (fields.map fun f => (.str f.1, f.2))) = ok c ↔
        ∃ name i, v.readText.check readColumn = ok name ∧ suits i ∧ c = result name i)
    (hcolumn : ∀ name i, (result name i).column? = some name) :
    TakesBy (fun s name => readColumn s = .ok name) fun s =>
      ((condition kind).make ((field, .str s) :: fields)).toOption.bind Value.column? := by
  have hmake : ∀ s v, (condition kind).make ((field, .str s) :: fields) = .ok v ↔
      ∃ name i, readColumn s = .ok name ∧ suits i ∧ v = .condition (result name i) := by
    intro s v
    have hcondition : (condition kind).make ((field, .str s) :: fields) = .ok v ↔
        ∃ c, Condition.ofEntries kind (.ofField field (.str s) ::
          conditionEntries (fields.map fun f => (.str f.1, f.2))) = ok c ∧ .condition c = v := by
      rw [make, toExcept_eq_ok, ← map_eq_ok]
      rfl
    rw [hcondition]
    simp only [h, readColumn_check_str]
    constructor
    · rintro ⟨_, ⟨name, i, hname, hi, rfl⟩, rfl⟩
      exact ⟨name, i, hname, hi, rfl⟩
    · rintro ⟨name, i, hname, hi, rfl⟩
      exact ⟨_, ⟨name, i, hname, hi, rfl⟩, rfl⟩
  exact .of_result hmake hcolumn

/-- A record takes what is read from the text of its column. -/
theorem make_takes {kind : NodeKind} {field : String} (h : kind.columnField? = some field)
    (fields : List (String × Value)) : TakesBy (fun s name => readColumn s = .ok name) fun s =>
      (kind.make ((field, .str s) :: fields)).toOption.bind Value.column? := by
  cases kind with
  | column =>
    cases h
    have htakes : TakesBy (fun s name => (Value.str s).readText.check readColumn = ok name)
        fun s => (column.make (("name", .str s) :: fields)).toOption.bind Value.column? :=
      .of_result (fun _ _ => toExcept_eq_ok.trans ofEntries_column) fun _ _ => rfl
    exact htakes.congr fun _ _ => readColumn_check_str
  | condition kind =>
    cases kind with
    | comparison =>
      cases h
      exact make_condition_takes (fun _ _ => Condition.ofEntries_comparison) fun _ _ => rfl
    | array =>
      cases h
      exact make_condition_takes (fun _ _ => Condition.ofEntries_array) fun _ _ => rfl
    | jsonb =>
      cases h
      exact make_condition_takes (fun _ _ => Condition.ofEntries_jsonb) fun _ _ => rfl
    | _ => cases h

end NodeKind

/-- A comparison is made of a column, an operator and a value that suits it. -/
theorem compare_eq_ok_iff {column : Value} {s : String} {op value v : Value}
    (hs : column.text? = some s) :
    compare column op value = .ok v ↔ ∃ name, ∃ o : Comparison, readColumn s = .ok name ∧
      (readComparison op = .ok o ∧ Condition.checkComparison o value = .ok ()) ∧
      v = .condition (.comparison name o value) := by
  have hop : ∀ o, (Reading.ofExcept (readComparison op)).below (.name "operator") = ok o ↔
      readComparison op = .ok o := by
    intro o
    cases readComparison op <;> simp [Reading.ofExcept]
  have hcompare : compare column op value = .ok v ↔ ∃ c, Condition.ofEntries .comparison
      (.ofField "column" column ::
        conditionEntries [(.str "operator", op), (.str "value", value)]) =
        ok c ∧ .condition c = v := by
    rw [compare, NodeKind.make, toExcept_eq_ok, ← map_eq_ok]
    rfl
  rw [hcompare]
  simp only [Condition.ofEntries_comparison, readColumn_check_text hs]
  constructor
  · rintro ⟨_, ⟨name, ⟨o, w⟩, hname, ⟨_, ho, hw, _, hk⟩, rfl⟩, rfl⟩
    cases hw
    exact ⟨name, o, hname, ⟨(hop o).mp ho, hk⟩, rfl⟩
  · rintro ⟨name, o, hname, ⟨ho, hk⟩, rfl⟩
    exact ⟨_, ⟨name, (o, value), hname, ⟨rfl, (hop o).mpr ho, rfl, rfl, hk⟩, rfl⟩, rfl⟩

end QueryBuilder
