import QueryBuilder.Proofs.Condition.Made
import QueryBuilder.Proofs.Identifier.Bare

/-!
Conditions on arrays and on the fields of documents, as they are made from a column. The operand is
kept as it was given, and so are the keys of a path.
-/
namespace QueryBuilder

open Reading

theorem readTuple_texts (path : List String) :
    (Value.tuple (path.map .str)).readTuple Value.readText = .ok path := by
  have hitems : ∀ start, items Value.readText start (path.map .str) = .ok path := by
    intro start
    rw [items_eq_ok_iff, List.forall₂_map_left_iff, List.forall₂_same]
    exact fun key _ => rfl
  exact hitems 0

theorem ArrayOperator.readConstant_text (op : ArrayOperator) :
    (Value.str op.text).readConstant ArrayOperator.ofText? = .ok op := by
  cases op <;> rfl

theorem JsonbOperator.readConstant_text (op : JsonbOperator) :
    (Value.str op.text).readConstant JsonbOperator.ofText? = .ok op := by
  cases op <;> rfl

theorem Condition.checkPath_eq_ok_iff {path keys : List String} :
    checkPath path = .ok keys ↔ "" ∉ path ∧ keys = path := by
  unfold checkPath
  by_cases hp : "" ∈ path
  · simp [hp]
  · simp [hp, eq_comm]

theorem IsColumnName.reference {name : String} (h : IsColumnName name) :
    reference (.str name) = .ok (.column name) := by
  have hread := readColumn_check_str.mpr h.readColumn
  exact toExcept_eq_ok.mpr (NodeKind.ofEntries_column.mpr ⟨name, (), hread, ⟨rfl, rfl⟩, rfl⟩)

/-- A fragment is made of any text that is not blank, with parameters of any kind. -/
theorem sqlWith_of_visible {sql : String} (h : Text.isBlankText sql = false)
    (params : List Value) : sqlWith (.str sql) params = .ok (.condition (.raw sql params)) := by
  have hcheck : Condition.checkRaw sql = .ok sql := by simp [Condition.checkRaw, h]
  have hitems : ∀ start, items .ok start params = .ok params := by
    intro start
    rw [items_eq_ok_iff, List.forall₂_same]
    exact fun v _ => rfl
  let es := conditionEntries [(.str "sql", .str sql), (.str "params", .tuple params)]
  have hsql : (ConditionEntry.entries es).required "sql"
      (fun v => v.readText.check Condition.checkRaw) = .ok sql :=
    below_eq_ok.mpr (check_eq_ok.mpr ⟨sql, rfl, hcheck⟩)
  have hparams : (ConditionEntry.entries es).optional "params" [] (Value.readTuple .ok) =
      .ok params :=
    below_eq_ok.mpr (hitems 0)
  have hmade : Condition.ofEntries .raw es = .ok (.raw sql params) := by
    unfold Condition.ofEntries
    simp only [hsql, hparams]
    rfl
  exact toExcept_eq_ok.mpr (map_eq_ok.mpr ⟨_, hmade, rfl⟩)
/-- A column that is named by a text, without an element type. -/
theorem ArrayColumn.apply_of_isColumnName {name : String} {op : ArrayOperator} {operand : Value}
    (hn : IsColumnName name) (hk : Condition.checkArray op operand = .ok ()) :
    (ArrayColumn.mk (.str name) .null).apply op operand =
      .ok (.condition (.array name op operand none)) := by
  have hop : (ConditionEntry.entries (conditionEntries [(.str "operator", .str op.text),
      (.str "operand", operand), (.str "element_type", .null)])).required "operator"
        (Value.readConstant ArrayOperator.ofText?) = .ok op :=
    below_eq_ok.mpr op.readConstant_text
  have hmade := Condition.ofEntries_array.mpr ⟨name, (op, operand, none),
    readColumn_check_str.mpr hn.readColumn, ⟨rfl, hop, rfl, rfl, rfl, hk⟩, rfl⟩
  exact toExcept_eq_ok.mpr (map_eq_ok.mpr ⟨_, hmade, rfl⟩)

theorem jsonbKey_str {key : String} (h : key ≠ "") : jsonbKey (.str key) = .ok key := by
  unfold jsonbKey
  split
  next ht => cases ht
  next ht =>
    cases ht
    exact absurd rfl h
  next ht =>
    cases ht
    rfl

theorem jsonbKeys_str {path : List String} (h : "" ∉ path) :
    jsonbKeys (path.map .str) = .ok path := by
  induction path with
  | nil => rfl
  | cons key path ih =>
    simp only [List.mem_cons, not_or] at h
    rw [List.map_cons, jsonbKeys, jsonbKey_str (Ne.symm h.1), ih h.2]
    rfl

namespace JsonbColumn

variable {key : String} {path : List String}

/-- A walk along keys is the field at those keys. -/
theorem walk_str (j : JsonbColumn) {keys : Value} (hk : keys.items? = some ((key :: path).map .str))
    (h : "" ∉ key :: path) : j.walk keys = .ok ⟨j.column, key :: path⟩ := by
  rw [walk, hk]
  simp only [jsonbKeys_str h]
  rfl

/-- The field that a chain of calls reaches, one for each key. -/
def fields (j : JsonbColumn) (key : String) (path : List String) : Except Error JsonbField := do
  path.foldlM (fun f k => f.field (.str k)) (← j.field (.str key))

theorem foldlM_field {column : Value} {front : List String} (h : "" ∉ path) :
    path.foldlM (fun f k => JsonbField.field f (.str k)) ⟨column, front⟩ =
      (.ok ⟨column, front ++ path⟩ : Except Error JsonbField) := by
  induction path generalizing front with
  | nil => simp [pure, Except.pure]
  | cons key path ih =>
    simp only [List.mem_cons, not_or] at h
    have hkey : JsonbField.field ⟨column, front⟩ (.str key) = .ok ⟨column, front ++ [key]⟩ := by
      rw [JsonbField.field, jsonbKey_str (Ne.symm h.1)]
      rfl
    rw [List.foldlM_cons, hkey]
    exact (ih h.2).trans (by simp)

/-- A chain of fields ends where the walk along the same keys does. -/
theorem fields_str (j : JsonbColumn) (h : "" ∉ key :: path) :
    j.fields key path = .ok ⟨j.column, key :: path⟩ := by
  simp only [List.mem_cons, not_or] at h
  have hkey : j.field (.str key) = .ok ⟨j.column, [key]⟩ := by
    rw [field, jsonbKey_str (Ne.symm h.1)]
    rfl
  rw [fields, hkey]
  exact foldlM_field h.2

end JsonbColumn

namespace JsonbField

variable {f : JsonbField} {op : JsonbOperator} {operand v : Value}

/-- The entries from which a condition on the field is made, but for its column. -/
def entries (f : JsonbField) (op : JsonbOperator) (operand : Value) : List ConditionEntry :=
  conditionEntries [(.str "operator", .str op.text), (.str "path", .tuple (f.path.map .str)),
    (.str "operand", operand)]

theorem operator_entries : (ConditionEntry.entries (f.entries op operand)).required "operator"
    (Value.readConstant JsonbOperator.ofText?) = .ok op :=
  below_eq_ok.mpr op.readConstant_text

theorem path_entries {path : List String} :
    (ConditionEntry.entries (f.entries op operand)).optional "path" []
      (fun v => (v.readTuple Value.readText).check Condition.checkPath) = .ok path ↔
        "" ∉ f.path ∧ path = f.path := by
  have hpath : (ConditionEntry.entries (f.entries op operand)).optional "path" []
      (fun v => (v.readTuple Value.readText).check Condition.checkPath) =
        (((Value.tuple (f.path.map .str)).readTuple Value.readText).check
          Condition.checkPath).below (.name "path") := rfl
  rw [hpath, readTuple_texts, below_eq_ok, check_eq_ok]
  simp [Condition.checkPath_eq_ok_iff]

/-- A condition on a field is made just if its column, its path and its operand pass their checks,
and then it has the path and the operand of the field. -/
theorem apply_eq_ok_iff : f.apply op operand = .ok v ↔
    ∃ name, f.column.readText.check readColumn = .ok name ∧ "" ∉ f.path ∧
      Condition.checkJsonb op f.path operand = .ok () ∧
      v = .condition (.jsonb name op f.path operand) := by
  have hmake : f.apply op operand = ((Condition.ofEntries .jsonb
      (.ofField "column" f.column :: f.entries op operand)).map .condition).toExcept := rfl
  rw [hmake, toExcept_eq_ok, map_eq_ok]
  simp only [Condition.ofEntries_jsonb, operator_entries, path_entries]
  constructor
  · rintro ⟨_, ⟨name, ⟨_, _, _⟩, hname, ⟨_, hop, ⟨hkeys, rfl⟩, hoperand, _, hk⟩, rfl⟩, rfl⟩
    cases hop
    cases hoperand
    exact ⟨name, hname, hkeys, hk, rfl⟩
  · rintro ⟨name, hname, hkeys, hk, rfl⟩
    exact ⟨_, ⟨name, (op, f.path, operand), hname, ⟨rfl, rfl, ⟨hkeys, rfl⟩, rfl, rfl, hk⟩, rfl⟩,
      rfl⟩

/-- A field of a column that is named by a text. -/
theorem apply_of_isColumnName {name : String} {path : List String} (hn : IsColumnName name)
    (hp : "" ∉ path) (hk : Condition.checkJsonb op path operand = .ok ()) :
    (JsonbField.mk (.str name) path).apply op operand =
      .ok (.condition (.jsonb name op path operand)) := by
  refine apply_eq_ok_iff.mpr ⟨name, check_eq_ok.mpr ⟨name, rfl, hn.readColumn⟩, hp, hk, rfl⟩

end JsonbField

/-- A condition on a whole document has no path, and it has the operand as it is. -/
theorem JsonbColumn.apply_eq_ok {j : JsonbColumn} {op : JsonbOperator} {operand v : Value}
    (h : j.apply op operand = .ok v) : ∃ name, v = .condition (.jsonb name op [] operand) := by
  have hmake : j.apply op operand = ((Condition.ofEntries .jsonb
      (.ofField "column" j.column :: conditionEntries [(.str "operator", .str op.text),
        (.str "operand", operand)])).map .condition).toExcept := rfl
  rw [hmake, toExcept_eq_ok, map_eq_ok] at h
  obtain ⟨c, hc, rfl⟩ := h
  obtain ⟨name, ⟨op', path, operand'⟩, _, ⟨_, hop, hpath, hoperand, _, _⟩, rfl⟩ :=
    Condition.ofEntries_jsonb.mp hc
  cases (below_eq_ok.mpr op.readConstant_text).symm.trans hop
  cases hpath
  cases hoperand
  exact ⟨name, rfl⟩

end QueryBuilder
