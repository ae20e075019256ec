import Mathlib.Data.List.Perm.Basic
import QueryBuilder.Proofs.Builder.Insert
import QueryBuilder.Proofs.FirstSeen
import QueryBuilder.Proofs.Sql.InsertReading

/-!
The entries of rows under the columns of an INSERT. A row may lack columns and name the others in an
order of its own; parameters are numbered along the columns, row after row.
-/
namespace QueryBuilder

namespace RowEntry

def number? : RowEntry → Option Nat
  | default => none
  | parameter n => some n

def value? (params : List Value) : RowEntry → Option Value
  | default | parameter 0 => none
  | parameter (n + 1) => params[n]?

/-- Holds of the entry of a row in a column: a default if the row lacks the column, and else a
parameter that has the row's value. -/
def IsOf (params : List Value) (row : Row) (column : String) (e : RowEntry) : Prop :=
  match row.lookup column with
  | none => e = default
  | some v => ∃ n, e = parameter (n + 1) ∧ params[n]? = some v

end RowEntry

namespace Row

def inOrder (columns : List String) (row : Row) : Row :=
  columns.filterMap fun c => (row.lookup c).map (c, ·)

def valuesOf (columns : List String) (row : Row) : List Value :=
  columns.filterMap fun c => row.lookup c

/-- The entries of a row, whose first parameter stands behind `offset` others. -/
def entries (offset : Nat) (row : Row) : List String → List RowEntry
  | [] => []
  | c :: cs =>
    match row.lookup c with
    | none => .default :: entries offset row cs
    | some _ => .parameter (offset + 1) :: entries (offset + 1) row cs

end Row

def rowTuples (offset : Nat) (columns : List String) : List Row → List (List RowEntry)
  | [] => []
  | row :: rows =>
    Row.entries offset row columns ::
      rowTuples (offset + (Row.valuesOf columns row).length) columns rows

/-- The row that a tuple under the columns stands for. -/
def restored (params : List Value) (columns : List String) (tuple : List RowEntry) : Row :=
  (columns.zip tuple).filterMap fun p => (p.2.value? params).map (p.1, ·)

/-- The rows that a text and its parameters stand for. -/
def WrittenRows.rows (w : WrittenRows) (params : List Value) : List Row :=
  w.tuples.map (restored params w.columns)

/-- Holds of what is read of an INSERT of the rows. The columns are those of the rows, each once and
as first seen; each row has its tuple, with one entry for each column; the parameters are numbered
from one, one for each value of each row; and the rows are got back, as mappings. -/
structure WrittenRows.Spells (w : WrittenRows) (params : List Value) (rows : List Row) : Prop where
  nodup : w.columns.Nodup
  mem_columns : ∀ n, n ∈ w.columns ↔ ∃ row ∈ rows, n ∈ row.map Prod.fst
  firstSeen : w.columns.Pairwise fun m n =>
    (rows.flatMap fun row => row.map Prod.fst).idxOf m <
      (rows.flatMap fun row => row.map Prod.fst).idxOf n
  entries : List.Forall₂
    (fun row tuple => List.Forall₂ (RowEntry.IsOf params row) w.columns tuple) rows w.tuples
  numbers : w.tuples.flatten.filterMap RowEntry.number? =
    List.range' 1 rows.flatten.length
  restored : List.Forall₂ List.Perm (w.rows params) rows

section entries

variable {row : Row} {columns : List String}

theorem Row.entries_none {c : String} (h : row.lookup c = none) (offset : Nat) (cs : List String) :
    Row.entries offset row (c :: cs) = .default :: Row.entries offset row cs := by
  rw [Row.entries, h]

theorem Row.entries_some {c : String} {v : Value} (h : row.lookup c = some v) (offset : Nat)
    (cs : List String) : Row.entries offset row (c :: cs) =
      .parameter (offset + 1) :: Row.entries (offset + 1) row cs := by
  rw [Row.entries, h]

theorem Row.valuesOf_none {c : String} (h : row.lookup c = none) (cs : List String) :
    Row.valuesOf (c :: cs) row = Row.valuesOf cs row :=
  List.filterMap_cons_none h

theorem Row.valuesOf_some {c : String} {v : Value} (h : row.lookup c = some v) (cs : List String) :
    Row.valuesOf (c :: cs) row = v :: Row.valuesOf cs row :=
  List.filterMap_cons_some h

theorem Row.entries_ne_nil (hne : columns ≠ []) (offset : Nat) (row : Row) :
    Row.entries offset row columns ≠ [] := by
  cases columns with
  | nil => exact absurd rfl hne
  | cons c cs =>
    cases h : row.lookup c with
    | none => simp [Row.entries_none h]
    | some v => simp [Row.entries_some h]

theorem rowTuples_ne_nil {rows : List Row} (hne : rows ≠ []) (offset : Nat) :
    rowTuples offset columns rows ≠ [] := by
  cases rows with
  | nil => exact absurd rfl hne
  | cons row rows => simp [rowTuples]

theorem ne_nil_of_mem_rowTuples (hne : columns ≠ []) {rows : List Row} {offset : Nat} :
    ∀ tuple ∈ rowTuples offset columns rows, tuple ≠ [] := by
  induction rows generalizing offset with
  | nil => simp [rowTuples]
  | cons row rows ih =>
    rw [rowTuples]
    exact List.forall_mem_cons.mpr ⟨Row.entries_ne_nil hne offset row, ih⟩

/-- The entries of a row are its own, wherever its values stand among the parameters. -/
theorem Row.entries_areOf (row : Row) (columns : List String) (before after : List Value) :
    List.Forall₂ (RowEntry.IsOf (before ++ Row.valuesOf columns row ++ after) row) columns
      (Row.entries before.length row columns) := by
  induction columns generalizing before with
  | nil => exact .nil
  | cons c cs ih =>
    cases h : row.lookup c with
    | none =>
      rw [Row.entries_none h, Row.valuesOf_none h]
      refine .cons ?_ (ih before)
      rw [RowEntry.IsOf, h]
    | some v =>
      -- a value that is passed goes to those before, so the numbers stay the same
      have hrest := ih (before ++ [v])
      rw [List.length_append, List.length_singleton, List.append_assoc before,
        List.singleton_append] at hrest
      rw [Row.entries_some h, Row.valuesOf_some h]
      refine .cons ?_ hrest
      rw [RowEntry.IsOf, h]
      exact ⟨before.length, rfl, by simp⟩

theorem rowTuples_areOf (rows : List Row) (columns : List String) (before after : List Value) :
    List.Forall₂ (fun row tuple => List.Forall₂ (RowEntry.IsOf
        (before ++ rows.flatMap (Row.valuesOf columns) ++ after) row) columns tuple)
      rows (rowTuples before.length columns rows) := by
  induction rows generalizing before with
  | nil => exact .nil
  | cons row rows ih =>
    have hrow := Row.entries_areOf row columns before (rows.flatMap (Row.valuesOf columns) ++ after)
    have hrest := ih (before ++ Row.valuesOf columns row)
    rw [List.length_append] at hrest
    rw [List.flatMap_cons, rowTuples]
    refine .cons ?_ ?_
    · simpa only [List.append_assoc] using hrow
    · simpa only [List.append_assoc] using hrest

theorem numbers_entries (offset : Nat) (row : Row) (columns : List String) :
    (Row.entries offset row columns).filterMap RowEntry.number? =
      List.range' (offset + 1) (Row.valuesOf columns row).length := by
  induction columns generalizing offset with
  | nil => rfl
  | cons c cs ih =>
    cases h : row.lookup c with
    | none =>
      rw [Row.entries_none h, Row.valuesOf_none h, List.filterMap_cons_none rfl, ih]
    | some v =>
      have hnumber : RowEntry.number? (.parameter (offset + 1)) = some (offset + 1) := rfl
      rw [Row.entries_some h, Row.valuesOf_some h, List.filterMap_cons_some hnumber, ih,
        List.length_cons, List.range'_succ]

theorem numbers_rowTuples (offset : Nat) (rows : List Row) (columns : List String) :
    (rowTuples offset columns rows).flatten.filterMap RowEntry.number? =
      List.range' (offset + 1) (rows.flatMap (Row.valuesOf columns)).length := by
  induction rows generalizing offset with
  | nil => rfl
  | cons row rows ih =>
    rw [rowTuples, List.flatten_cons, List.filterMap_append, numbers_entries, ih,
      List.flatMap_cons, List.length_append, ← List.range'_append_1]
    congr 2
    omega

theorem restored_eq {params : List Value} {tuple : List RowEntry}
    (h : List.Forall₂ (RowEntry.IsOf params row) columns tuple) :
    restored params columns tuple = row.inOrder columns := by
  induction h with
  | nil => rfl
  | @cons c e cs tuple he _ ih =>
    rw [restored, List.zip_cons_cons, Row.inOrder]
    rw [RowEntry.IsOf] at he
    cases hv : row.lookup c with
    | none =>
      rw [hv] at he
      cases he
      rw [List.filterMap_cons_none rfl, List.filterMap_cons_none (by rw [hv]; rfl)]
      exact ih
    | some v =>
      rw [hv] at he
      obtain ⟨n, rfl, hn⟩ := he
      have hvalue : RowEntry.value? params (.parameter (n + 1)) = some v := hn
      rw [List.filterMap_cons_some (b := (c, v)) (by rw [hvalue]; rfl),
        List.filterMap_cons_some (b := (c, v)) (by rw [hv]; rfl)]
      exact congrArg _ ih

theorem map_restored {params : List Value} {rows : List Row} {tuples : List (List RowEntry)}
    (h : List.Forall₂
      (fun row tuple => List.Forall₂ (RowEntry.IsOf params row) columns tuple) rows tuples) :
    tuples.map (restored params columns) = rows.map (Row.inOrder columns) := by
  induction h with
  | nil => rfl
  | cons hrow _ ih => rw [List.map_cons, List.map_cons, restored_eq hrow, ih]

theorem map_snd_inOrder (columns : List String) (row : Row) :
    (row.inOrder columns).map Prod.snd = row.valuesOf columns := by
  simp [Row.inOrder, Row.valuesOf, List.map_filterMap, Option.map_map, Function.comp_def]

/-- Another order of its columns, which may be among others, leaves a row the same mapping. -/
theorem inOrder_perm (hrow : (row.map Prod.fst).Nodup) (hcolumns : columns.Nodup)
    (hsub : ∀ n ∈ row.map Prod.fst, n ∈ columns) : (row.inOrder columns).Perm row := by
  have hordered : (row.inOrder columns).Nodup := by
    refine hcolumns.filterMap fun c d p hc hd => ?_
    obtain ⟨_, _, rfl⟩ := Option.map_eq_some_iff.mp hc
    obtain ⟨_, _, he⟩ := Option.map_eq_some_iff.mp hd
    exact (Prod.mk.inj he).1.symm
  rw [List.perm_ext_iff_of_nodup hordered (List.Nodup.of_map _ hrow)]
  intro p
  constructor
  · intro hp
    obtain ⟨c, _, hc⟩ := List.mem_filterMap.mp hp
    obtain ⟨v, hv, rfl⟩ := Option.map_eq_some_iff.mp hc
    obtain ⟨before, after, rfl, _⟩ := List.lookup_eq_some_iff.mp hv
    simp
  · intro hp
    refine List.mem_filterMap.mpr ⟨p.1, hsub _ (List.mem_map_of_mem hp), ?_⟩
    rw [lookup_of_mem hrow hp]
    rfl

end entries

/-- The columns of an INSERT with the entries of its rows say all of its rows, where the parameters
begin with the values of the rows. -/
theorem InsertQuery.entries_spell {q : InsertQuery}
    (hrows : ∀ row ∈ q.rows, (row.map Prod.fst).Nodup) (after : List Value) :
    (⟨q.columns, rowTuples 0 q.columns q.rows⟩ : WrittenRows).Spells
      (q.rows.flatMap (Row.valuesOf q.columns) ++ after) q.rows := by
  have hnodup : q.columns.Nodup := nodup_eraseDups _
  have hmem : ∀ n, n ∈ q.columns ↔ ∃ row ∈ q.rows, n ∈ row.map Prod.fst := fun n => by
    rw [InsertQuery.columns, List.mem_eraseDups, List.mem_flatMap]
  have hperm : ∀ row ∈ q.rows, (row.inOrder q.columns).Perm row := fun row hr =>
    inOrder_perm (hrows row hr) hnodup fun n hn => (hmem n).mpr ⟨row, hr, hn⟩
  have hlength : (q.rows.flatMap (Row.valuesOf q.columns)).length = q.rows.flatten.length := by
    rw [List.length_flatMap, List.length_flatten]
    refine congrArg List.sum (List.map_congr_left fun row hr => ?_)
    rw [← map_snd_inOrder, List.length_map]
    exact (hperm row hr).length_eq
  have hentries : List.Forall₂ (fun row tuple => List.Forall₂ (RowEntry.IsOf
      (q.rows.flatMap (Row.valuesOf q.columns) ++ after) row) q.columns tuple)
      q.rows (rowTuples 0 q.columns q.rows) := rowTuples_areOf q.rows q.columns [] after
  refine ⟨hnodup, hmem, eraseDups_firstSeen _, hentries, ?_, ?_⟩
  · rw [numbers_rowTuples, hlength]
  · have hrestored : WrittenRows.rows ⟨q.columns, rowTuples 0 q.columns q.rows⟩
        (q.rows.flatMap (Row.valuesOf q.columns) ++ after) = q.rows.map (Row.inOrder q.columns) :=
      map_restored hentries
    rw [hrestored, List.forall₂_map_left_iff]
    exact List.forall₂_same.mpr hperm

end QueryBuilder
