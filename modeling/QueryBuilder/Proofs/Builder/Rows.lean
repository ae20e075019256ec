import QueryBuilder.Proofs.Builder.Assignments

/-!
The rows that a run of calls leaves in an INSERT: those of every call for rows, in order.
-/
namespace QueryBuilder

/-- The rows that a call passes, if it is one for rows. -/
def InsertCall.rows : InsertCall → List Row
  | .values v => v.rows
  | .returning _ | .returningAll | .onConflict _ => []

namespace InsertBuilder

/-- Makes calls one after another. A call that fails leaves the builder as it was. -/
def run (b : InsertBuilder) : List InsertCall → InsertBuilder
  | [] => b
  | call :: calls =>
    match b.apply call with
    | .ok next => next.run calls
    | .error _ => b.run calls

/-- The rows that the calls pass that do not fail, in order. -/
def passed (b : InsertBuilder) : List InsertCall → List Row
  | [] => []
  | call :: calls =>
    match b.apply call with
    | .ok next => call.rows ++ next.passed calls
    | .error _ => b.passed calls

theorem rowsOf_named {v : Value} {rows : List Row} (h : rowsOf v = .ok rows) :
    ∀ r ∈ rows, NamedRow r := by
  have named : ∀ {vs : List Value}, readRows vs = .ok rows → ∀ r ∈ rows, NamedRow r :=
    fun h => readRows_all (fun _ _ _ _ => readRow_named) h
  unfold rowsOf at h
  split at h
  next => exact named h
  next => exact named h
  next => exact named h
  next => cases h

/-- A call adds its rows behind those that are there, and leaves the table. -/
theorem apply_rows {b next : InsertBuilder} {call : InsertCall} (h : b.apply call = .ok next) :
    next.query.rows = b.query.rows ++ call.rows ∧ (∀ r ∈ call.rows, NamedRow r) ∧
      next.query.table = b.query.table := by
  cases call with
  | values v =>
    obtain ⟨rows, hrows, h⟩ := bind_eq_ok_iff.mp h
    cases h
    have hnamed := rowsOf_named hrows
    cases rowsOf_eq_rows hrows
    exact ⟨rfl, hnamed, rfl⟩
  | returning names =>
    obtain ⟨_, _, h⟩ := bind_eq_ok_iff.mp h
    obtain ⟨_, _, h⟩ := bind_eq_ok_iff.mp h
    cases h
    exact ⟨(List.append_nil _).symm, by simp [InsertCall.rows], rfl⟩
  | returningAll =>
    cases h
    exact ⟨(List.append_nil _).symm, by simp [InsertCall.rows], rfl⟩
  | onConflict function =>
    obtain ⟨answer, _, h⟩ := bind_eq_ok_iff.mp h
    split at h
    next c =>
      obtain ⟨_, _, h⟩ := bind_eq_ok_iff.mp h
      cases h
      exact ⟨(List.append_nil _).symm, by simp [InsertCall.rows], rfl⟩
    next => cases h

theorem run_rows (b : InsertBuilder) (calls : List InsertCall) :
    (b.run calls).query.rows = b.query.rows ++ b.passed calls ∧
      (∀ r ∈ b.passed calls, NamedRow r) ∧ (b.run calls).query.table = b.query.table := by
  induction calls generalizing b with
  | nil => simp [run, passed]
  | cons call calls ih =>
    rw [run, passed]
    cases h : b.apply call with
    | error e => exact ih b
    | ok next =>
      obtain ⟨hrows, hnamed, htable⟩ := apply_rows h
      obtain ⟨hrun, hpassed, hrunTable⟩ := ih next
      rw [hrows, List.append_assoc] at hrun
      exact ⟨hrun, List.forall_mem_append.mpr ⟨hnamed, hpassed⟩, hrunTable.trans htable⟩

theorem start_eq_ok {table : Value} {b : InsertBuilder} (h : start table = .ok b) :
    ∃ t, TableRef.parse table = .ok t ∧ b = ⟨{ table := t }⟩ := by
  obtain ⟨t, ht, h⟩ := bind_eq_ok_iff.mp h
  cases h
  exact ⟨t, ht, rfl⟩

/-- From the start on, the rows are those of the calls, and each names plain columns. -/
theorem run_named {table : Value} {b : InsertBuilder} (h : start table = .ok b)
    (calls : List InsertCall) :
    (b.run calls).query.rows = b.passed calls ∧ (∀ r ∈ b.passed calls, NamedRow r) ∧
      (b.run calls).query.table.WellNamed := by
  obtain ⟨t, ht, rfl⟩ := start_eq_ok h
  obtain ⟨hrows, hnamed, htable⟩ := run_rows ⟨{ table := t }⟩ calls
  exact ⟨hrows, hnamed, htable ▸ TableRef.parse_wellNamed ht⟩

end InsertBuilder

end QueryBuilder
