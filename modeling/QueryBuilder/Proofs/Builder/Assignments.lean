import QueryBuilder.Proofs.Builder.Insert
import QueryBuilder.Proofs.FirstSeen

/-!
Mappings of columns to values, in rows and in assignments. A key names a column without the blanks
around it, so two keys can name one column, and then the value of the last one is kept.
-/
namespace QueryBuilder

/-- The column that a key names. -/
def Value.columnKey (key : Value) : String :=
  Text.trim (key.text?.getD "")

abbrev Mapping := List (Value × Value)

namespace Mapping

def columns (es : Mapping) : List String :=
  es.map fun e => e.1.columnKey

def byColumn (es : Mapping) : List (String × Value) :=
  es.map fun e => (e.1.columnKey, e.2)

/-- Holds of rows that have every entry of the mapping, each under its own column. -/
structure KeptIn (es : Mapping) (row : Row) : Prop where
  length : row.length = es.length
  values : ∀ e ∈ es, row.lookup e.1.columnKey = some e.2

/-- Holds of rows that have each column of the mapping once, with the last of its values. -/
structure LastKeptIn (es : Mapping) (row : Row) : Prop where
  names : row.map Prod.fst = es.columns.eraseDups
  values : ∀ name, row.lookup name = es.byColumn.reverse.lookup name
  whole : es.KeptIn row ↔ es.columns.Nodup

/-- The row of a mapping: each column that its keys name, once, with the last of its values. -/
def lastKept (es : Mapping) : Row :=
  es.columns.eraseDups.map fun name => (name, (es.byColumn.reverse.lookup name).getD .null)

end Mapping

theorem lookup_cons_eq_ite (name : String) (f : String × Value) (fs : List (String × Value)) :
    (f :: fs).lookup name = if name = f.1 then some f.2 else fs.lookup name := by
  rw [List.lookup_cons]
  by_cases hn : name = f.1
  · simp [hn]
  · simp [hn, beq_false_of_ne hn]

theorem lookup_putField (name other : String) (v : Value) (fs : List (String × Value)) :
    (putField name v fs).lookup other = if other = name then some v else fs.lookup other := by
  induction fs with
  | nil => exact lookup_cons_eq_ite other (name, v) []
  | cons f fs ih =>
    rw [putField]
    by_cases hf : f.1 = name
    · rw [if_pos hf, lookup_cons_eq_ite, lookup_cons_eq_ite, hf]
      by_cases ho : other = name <;> simp [ho]
    · rw [if_neg hf, lookup_cons_eq_ite, lookup_cons_eq_ite, ih]
      by_cases ho : other = f.1
      · have hne : other ≠ name := ho ▸ hf
        rw [if_pos ho, if_neg hne, if_pos ho]
      · simp [ho]

theorem lookup_foldl_putField (pairs : List (String × Value)) (row : Row) (name : String) :
    (pairs.foldl (fun row p => putField p.1 p.2 row) row).lookup name =
      (pairs.reverse ++ row).lookup name := by
  induction pairs generalizing row with
  | nil => rfl
  | cons p pairs ih =>
    have hput : (putField p.1 p.2 row).lookup name = (p :: row).lookup name := by
      rw [lookup_putField, lookup_cons_eq_ite]
    rw [List.foldl_cons, ih, List.reverse_cons, List.append_assoc, List.lookup_append,
      List.lookup_append, hput]
    rfl

theorem names_foldl_putField (pairs : List (String × Value)) :
    (pairs.foldl (fun row p => putField p.1 p.2 row) []).map Prod.fst =
      (pairs.map Prod.fst).eraseDups := by
  -- from the end: a name that is put again keeps its place
  induction pairs using List.reverseRecOn with
  | nil => rfl
  | append_singleton pairs p ih =>
    rw [List.foldl_append, List.foldl_cons, List.foldl_nil, names_putField, ih, List.map_append,
      List.map_cons, List.map_nil, eraseDups_concat]
    simp only [List.mem_eraseDups]

theorem insertColumn_eq_columnKey {v : Value} {name : String} (h : insertColumn v = .ok name) :
    name = v.columnKey := by
  unfold insertColumn at h
  split at h
  next => cases h
  next text ht =>
    simp only at h
    split at h
    next => cases h
    next =>
      split at h
      next => cases h
      next =>
        cases h
        rw [Value.columnKey, ht]
        rfl

theorem readRow_eq_foldl {es : Mapping} {row : Row} (h : readRow es = .ok row) :
    row = es.byColumn.foldl (fun row p => putField p.1 p.2 row) [] := by
  obtain ⟨names, hn, h⟩ := bind_eq_ok_iff.mp h
  rw [insertColumns_eq_forEach] at hn
  have hnames := forEach_eq_map (fun _ _ _ => insertColumn_eq_columnKey) hn
  have hzip : names.zip (es.map Prod.snd) = es.byColumn := by
    rw [hnames, List.map_map, List.zip_map']
    rfl
  rw [hzip] at h
  cases h
  rfl

theorem insertColumns_isOk_iff {vs : List Value} :
    (∃ names, insertColumns vs = .ok names) ↔ ∀ v ∈ vs, ∃ name, insertColumn v = .ok name := by
  induction vs with
  | nil => simp [insertColumns]
  | cons v vs ih =>
    rw [List.forall_mem_cons, ← ih]
    constructor
    · rintro ⟨names, h⟩
      obtain ⟨name, hn, h⟩ := bind_eq_ok_iff.mp h
      obtain ⟨rest, hr, _⟩ := bind_eq_ok_iff.mp h
      exact ⟨⟨name, hn⟩, rest, hr⟩
    · rintro ⟨⟨name, hn⟩, rest, hr⟩
      exact ⟨_, bind_eq_ok_iff.mpr ⟨name, hn, bind_eq_ok_iff.mpr ⟨rest, hr, rfl⟩⟩⟩

theorem readRow_isOk_iff {es : Mapping} :
    (∃ row, readRow es = .ok row) ↔ ∀ e ∈ es, ∃ name, insertColumn e.1 = .ok name := by
  have hnames := @insertColumns_isOk_iff (es.map Prod.fst)
  rw [List.forall_mem_map] at hnames
  rw [← hnames]
  constructor
  · rintro ⟨row, h⟩
    obtain ⟨names, hn, _⟩ := bind_eq_ok_iff.mp h
    exact ⟨names, hn⟩
  · rintro ⟨names, hn⟩
    exact ⟨_, bind_eq_ok_iff.mpr ⟨names, hn, rfl⟩⟩

theorem readRow_lastKept {es : Mapping} {row : Row} (h : readRow es = .ok row) :
    es.LastKeptIn row := by
  have hrow := readRow_eq_foldl h
  have hkeys : es.byColumn.map Prod.fst = es.columns := by
    simp [Mapping.byColumn, Mapping.columns]
  have hnames : row.map Prod.fst = es.columns.eraseDups := by
    rw [hrow, names_foldl_putField, hkeys]
  have hvalues : ∀ name, row.lookup name = es.byColumn.reverse.lookup name := by
    intro name
    rw [hrow, lookup_foldl_putField, List.append_nil]
  have hlength : row.length = es.length ↔ es.columns.Nodup := by
    have hl := congrArg List.length hnames
    rw [List.length_map] at hl
    rw [← length_eraseDups_iff, ← hl, Mapping.columns, List.length_map]
  refine ⟨hnames, hvalues, fun hk => hlength.mp hk.length, fun hd => ⟨hlength.mpr hd, ?_⟩⟩
  intro e he
  -- where no column is named twice, the last of an entry's column is the entry
  have hreverse : (es.byColumn.reverse.map Prod.fst).Nodup := by
    rw [List.map_reverse, List.nodup_reverse, hkeys]
    exact hd
  have hmem : (e.1.columnKey, e.2) ∈ es.byColumn.reverse :=
    List.mem_reverse.mpr (List.mem_map.mpr ⟨e, he, rfl⟩)
  rw [hvalues]
  exact lookup_of_mem hreverse hmem

theorem Mapping.LastKeptIn.eq_lastKept {es : Mapping} {row : Row} (h : es.LastKeptIn row) :
    row = es.lastKept := by
  have hnodup : (row.map Prod.fst).Nodup := h.names ▸ nodup_eraseDups es.columns
  -- no column stands twice in the row, so each entry is what is looked up for its column
  have hself : row.map (fun e => (e.1, (row.lookup e.1).getD .null)) = row.map id := by
    refine List.map_congr_left fun e he => ?_
    rw [lookup_of_mem hnodup he]
    rfl
  rw [List.map_id] at hself
  rw [Mapping.lastKept, ← h.names, List.map_map]
  simp only [← h.values]
  exact hself.symm

theorem readRow_eq_lastKept {es : Mapping} {row : Row} (h : readRow es = .ok row) :
    row = es.lastKept :=
  (readRow_lastKept h).eq_lastKept

namespace Value

/-- Holds of mappings that have entries, all of them under names of columns. -/
def IsAssignments (v : Value) : Prop :=
  ∃ e es, v = .dict (e :: es) ∧ ∀ f ∈ e :: es, ∃ name, insertColumn f.1 = .ok name

/-- The rows that a value holds: one mapping, or a list of them. -/
def givenRows : Value → List Value
  | .dict es => [.dict es]
  | .list vs | .tuple vs => vs
  | _ => []

/-- The rows that mappings become. -/
def rows (v : Value) : List Row :=
  v.givenRows.map fun w => Mapping.lastKept (w.entries?.getD [])

/-- Holds of a mapping and of the row that it becomes. -/
def BecomesRow (v : Value) (row : Row) : Prop :=
  ∃ es : Mapping, v = .dict es ∧ es.LastKeptIn row

end Value

theorem readRows_becomeRows {vs : List Value} {rows : List Row} (h : readRows vs = .ok rows) :
    List.Forall₂ Value.BecomesRow vs rows := by
  fun_induction readRows vs generalizing rows with
  | case1 =>
    cases h
    exact .nil
  | case2 e es vs ih =>
    obtain ⟨row, hr, h⟩ := bind_eq_ok_iff.mp h
    obtain ⟨rest, hrest, h⟩ := bind_eq_ok_iff.mp h
    cases h
    exact .cons ⟨e :: es, rfl, readRow_lastKept hr⟩ (ih hrest)
  | case3 => cases h

theorem readRows_isOk_iff {vs : List Value} :
    (∃ rows, readRows vs = .ok rows) ↔ ∀ v ∈ vs, v.IsAssignments := by
  fun_induction readRows vs with
  | case1 => simp
  | case2 e es vs ih =>
    rw [List.forall_mem_cons, ← ih]
    constructor
    · rintro ⟨rows, h⟩
      obtain ⟨row, hr, h⟩ := bind_eq_ok_iff.mp h
      obtain ⟨rest, hrest, _⟩ := bind_eq_ok_iff.mp h
      exact ⟨⟨e, es, rfl, readRow_isOk_iff.mp ⟨row, hr⟩⟩, rest, hrest⟩
    · rintro ⟨⟨f, fs, hf, hnames⟩, rest, hrest⟩
      cases hf
      obtain ⟨row, hr⟩ := readRow_isOk_iff.mpr hnames
      exact ⟨_, bind_eq_ok_iff.mpr ⟨row, hr, bind_eq_ok_iff.mpr ⟨rest, hrest, rfl⟩⟩⟩
  | case3 v vs hv =>
    simp only [reduceCtorEq, exists_const, false_iff]
    intro hall
    obtain ⟨e, es, rfl, _⟩ := hall v (by simp)
    exact hv e es rfl

namespace InsertBuilder

theorem rowsOf_eq (v : Value) : rowsOf v =
    if v.givenRows.isEmpty then .error (.operand .rowsMissing v) else readRows v.givenRows := by
  cases v with
  | list vs => cases vs <;> rfl
  | tuple vs => cases vs <;> rfl
  | _ => rfl

theorem rowsOf_becomeRows {v : Value} {rows : List Row} (h : rowsOf v = .ok rows) :
    List.Forall₂ Value.BecomesRow v.givenRows rows := by
  rw [rowsOf_eq] at h
  split at h
  next => cases h
  next => exact readRows_becomeRows h

theorem rowsOf_eq_rows {v : Value} {rows : List Row} (h : rowsOf v = .ok rows) : rows = v.rows := by
  have hrows : List.Forall₂ Eq v.rows rows := by
    rw [Value.rows, List.forall₂_map_left_iff]
    refine (rowsOf_becomeRows h).imp fun w row hw => ?_
    obtain ⟨es, rfl, hkept⟩ := hw
    exact hkept.eq_lastKept.symm
  rw [List.forall₂_eq_eq_eq] at hrows
  exact hrows.symm

theorem rowsOf_isOk_iff {v : Value} : (∃ rows, rowsOf v = .ok rows) ↔
    v.givenRows ≠ [] ∧ ∀ w ∈ v.givenRows, w.IsAssignments := by
  rw [rowsOf_eq, ← readRows_isOk_iff]
  split
  next he => simp [List.isEmpty_iff.mp he]
  next he =>
    have hne : v.givenRows ≠ [] := by simpa using he
    exact (and_iff_right hne).symm

theorem apply_values_iff {b : InsertBuilder} {v : Value} {next : InsertBuilder} :
    b.apply (.values v) = .ok next ↔
      ∃ rows, rowsOf v = .ok rows ∧ next = ⟨{ b.query with rows := b.query.rows ++ rows }⟩ := by
  constructor
  · intro h
    obtain ⟨rows, hr, h⟩ := bind_eq_ok_iff.mp h
    cases h
    exact ⟨rows, hr, rfl⟩
  · rintro ⟨rows, hr, rfl⟩
    exact bind_eq_ok_iff.mpr ⟨rows, hr, rfl⟩

end InsertBuilder

namespace ConflictBuilder

theorem apply_doUpdate_iff {b : ConflictBuilder} {v : Value} {next : ConflictBuilder} :
    b.apply (.doUpdate v) = .ok next ↔ ∃ e es updates, v = .dict (e :: es) ∧
      readRow (e :: es) = .ok updates ∧
      next = ⟨{ b.clause with action := .update, updates }, true⟩ := by
  constructor
  · intro h
    simp only [apply] at h
    split at h
    next e es =>
      obtain ⟨updates, hu, h⟩ := bind_eq_ok_iff.mp h
      cases h
      exact ⟨e, es, updates, rfl, hu, rfl⟩
    next => cases h
  · rintro ⟨e, es, updates, rfl, hu, rfl⟩
    exact bind_eq_ok_iff.mpr ⟨updates, hu, rfl⟩

end ConflictBuilder

namespace InsertBuilder

/-- Mappings are accepted if each of their keys names a column, whether or not two name the same
one. A row and assignments have each column once, with the last of its values, so nothing is lost
just if the keys name different columns. -/
theorem mappings_lastKept (b : InsertBuilder) (c : ConflictBuilder) (v : Value) :
    ((∃ next, b.apply (.values v) = .ok next) ↔
        v.givenRows ≠ [] ∧ ∀ w ∈ v.givenRows, w.IsAssignments) ∧
      (∀ next, b.apply (.values v) = .ok next → ∃ rows,
        next.query.rows = b.query.rows ++ rows ∧
          List.Forall₂ Value.BecomesRow v.givenRows rows) ∧
      ((∃ next, c.apply (.doUpdate v) = .ok next) ↔ v.IsAssignments) ∧
      ∀ next, c.apply (.doUpdate v) = .ok next → v.BecomesRow next.clause.updates := by
  refine ⟨?_, fun next h => ?_, ?_, fun next h => ?_⟩
  · rw [← rowsOf_isOk_iff]
    constructor
    · rintro ⟨next, h⟩
      obtain ⟨rows, hr, _⟩ := apply_values_iff.mp h
      exact ⟨rows, hr⟩
    · rintro ⟨rows, hr⟩
      exact ⟨_, apply_values_iff.mpr ⟨rows, hr, rfl⟩⟩
  · obtain ⟨rows, hr, rfl⟩ := apply_values_iff.mp h
    exact ⟨rows, rfl, rowsOf_becomeRows hr⟩
  · constructor
    · rintro ⟨next, h⟩
      obtain ⟨e, es, updates, rfl, hu, _⟩ := ConflictBuilder.apply_doUpdate_iff.mp h
      exact ⟨e, es, rfl, readRow_isOk_iff.mp ⟨updates, hu⟩⟩
    · rintro ⟨e, es, rfl, hnames⟩
      obtain ⟨updates, hu⟩ := readRow_isOk_iff.mpr hnames
      exact ⟨_, ConflictBuilder.apply_doUpdate_iff.mpr ⟨e, es, updates, rfl, hu, rfl⟩⟩
  · obtain ⟨e, es, updates, rfl, hu, rfl⟩ := ConflictBuilder.apply_doUpdate_iff.mp h
    exact ⟨e :: es, rfl, readRow_lastKept hu⟩

def sameColumn : Mapping :=
  [(.str "name", .str "Ann"), (.str " name", .str "Bob")]

/-- The calls are accepted, and the first value is lost. -/
theorem lost_value_sameColumn : ∃ rows updates,
    apply ⟨{ table := ⟨"users", none⟩ }⟩ (.values (.dict sameColumn)) =
        .ok ⟨{ table := ⟨"users", none⟩, rows }⟩ ∧
      ConflictBuilder.apply {} (.doUpdate (.dict sameColumn)) =
        .ok ⟨{ action := .update, updates }, true⟩ ∧
      rows = [[("name", .str "Bob")]] ∧ updates = [("name", .str "Bob")] ∧
      ∀ row, row ∈ rows ∨ row = updates → ¬ sameColumn.KeptIn row := by
  refine ⟨_, _, rfl, rfl, rfl, rfl, fun row hrow hkept => ?_⟩
  have hlast : row = [("name", .str "Bob")] := hrow.elim List.mem_singleton.mp id
  have hlength := hkept.length
  rw [hlast] at hlength
  cases hlength

theorem mappings_lastKept_sameColumn : ∃ b c,
    apply ⟨{ table := ⟨"users", none⟩ }⟩ (.values (.dict sameColumn)) = .ok b ∧
      ConflictBuilder.apply {} (.doUpdate (.dict sameColumn)) = .ok c ∧
      (∃ rows, b.query.rows = [] ++ rows ∧
        List.Forall₂ Value.BecomesRow [.dict sameColumn] rows) ∧
      Value.BecomesRow (.dict sameColumn) c.clause.updates := by
  obtain ⟨_, hrows, _, hupdates⟩ :=
    mappings_lastKept ⟨{ table := ⟨"users", none⟩ }⟩ {} (.dict sameColumn)
  have hvalues : apply ⟨{ table := ⟨"users", none⟩ }⟩ (.values (.dict sameColumn)) =
      .ok ⟨{ table := ⟨"users", none⟩, rows := [[("name", .str "Bob")]] }⟩ := rfl
  have hupdate : ConflictBuilder.apply {} (.doUpdate (.dict sameColumn)) =
      .ok ⟨{ action := .update, updates := [("name", .str "Bob")] }, true⟩ := rfl
  exact ⟨_, _, hvalues, hupdate, hrows _ hvalues, hupdates _ hupdate⟩

end InsertBuilder

end QueryBuilder
