import QueryBuilder.Proofs.Builder.Assignments

/-!
Building a conflict clause call by call. Targets replace targets and actions replace actions, so the
clause consists of the last of both, in whatever order they were given.
-/
namespace QueryBuilder

/-- What a conflict is told by: columns or a constraint, or nothing. -/
structure ConflictTarget where
  columns : List String := []
  constraint : Option String := none
  deriving DecidableEq

namespace ConflictTarget

/-- Holds of columns alone and of a constraint alone. -/
def IsGiven (t : ConflictTarget) : Prop :=
  t.columns ≠ [] ∧ t.constraint = none ∨ t.columns = [] ∧ (givenName t.constraint).isSome = true

theorem IsGiven.one {t : ConflictTarget} (h : t.IsGiven) : t.columns = [] ∨ t.constraint = none :=
  h.elim (fun h => Or.inr h.2) fun h => Or.inl h.1

theorem IsGiven.some {t : ConflictTarget} (h : t.IsGiven) :
    t.columns ≠ [] ∨ (givenName t.constraint).isSome = true :=
  h.imp And.left And.right

end ConflictTarget

/-- What is done about a conflict. -/
structure ConflictChoice where
  action : ConflictAction
  updates : List (String × Value) := []

namespace ConflictClause

def target (c : ConflictClause) : ConflictTarget :=
  ⟨c.columns, c.constraint⟩

def choice (c : ConflictClause) : ConflictChoice :=
  ⟨c.action, c.updates⟩

/-- An update has assignments, and a target that they are for. -/
def IsComplete (c : ConflictClause) : Prop :=
  c.action = .update → c.updates ≠ [] ∧ (c.columns ≠ [] ∨ (givenName c.constraint).isSome = true)

end ConflictClause

namespace ConflictCall

/-- The target that a call names: columns, one by one or in a list, or a constraint, each without
the blanks around it. -/
def target? : ConflictCall → Option ConflictTarget
  | .columns [.list names] | .columns [.tuple names] | .columns names =>
    some { columns := names.map Value.columnKey }
  | .constraint name => some { constraint := some name.columnKey }
  | .doNothing | .doUpdate _ => none

/-- The action that a call chooses. An update assigns to each column the last value that it is
given. -/
def choice? : ConflictCall → Option ConflictChoice
  | .doNothing => some { action := .nothing }
  | .doUpdate (.dict es) => some { action := .update, updates := Mapping.lastKept es }
  | .columns _ | .constraint _ | .doUpdate _ => none

end ConflictCall

namespace ConflictBuilder

/-- Makes calls one after another. A call that fails leaves the builder as it was. -/
def run (b : ConflictBuilder) : List ConflictCall → ConflictBuilder
  | [] => b
  | call :: calls =>
    match b.apply call with
    | .ok next => next.run calls
    | .error _ => b.run calls

/-- The calls that did not fail, in order. -/
def succeeded (b : ConflictBuilder) : List ConflictCall → List ConflictCall
  | [] => []
  | call :: calls =>
    match b.apply call with
    | .ok next => call :: next.succeeded calls
    | .error _ => b.succeeded calls

/-- What a call does that names a target or chooses an action. -/
inductive Step (b : ConflictBuilder) :
    Option ConflictTarget → Option ConflictChoice → ConflictBuilder → Prop
  | target {t : ConflictTarget} (h : t.IsGiven) : b.Step (some t) none
      { b with clause := { b.clause with columns := t.columns, constraint := t.constraint } }
  | choice {c : ConflictChoice} (h : c.action = .update → c.updates ≠ []) : b.Step none (some c)
      ⟨{ b.clause with action := c.action, updates := c.updates }, true⟩

/-- The names that are read are given one by one or as a single list. -/
theorem target?_columns {names vs : List Value} {columns : List String}
    (hvs : columnNames .columns names = .ok vs) (hcolumns : insertColumns vs = .ok columns) :
    ConflictCall.target? (.columns names) = some { columns } := by
  have hkeys : columns = vs.map Value.columnKey :=
    forEach_eq_map (fun _ _ _ => insertColumn_eq_columnKey) (insertColumns_eq_forEach vs ▸ hcolumns)
  rw [hkeys]
  unfold columnNames at hvs
  simp only at hvs
  split at hvs
  next => cases hvs
  next =>
    cases hvs
    split
    next => rfl
    next => rfl
    next => rw [ConflictCall.target?] <;> assumption

theorem apply_step {b next : ConflictBuilder} {call : ConflictCall} (h : b.apply call = .ok next) :
    b.Step call.target? call.choice? next := by
  cases call with
  | columns names =>
    obtain ⟨vs, hvs, h⟩ := bind_eq_ok_iff.mp h
    obtain ⟨columns, hcolumns, h⟩ := bind_eq_ok_iff.mp h
    have ht := target?_columns hvs hcolumns
    split at h
    next => cases h
    next hne =>
      cases h
      rw [ht]
      exact @Step.target b { columns } (Or.inl ⟨by simpa using hne, rfl⟩)
  | constraint name =>
    unfold apply at h
    simp only at h
    split at h
    next => cases h
    next =>
      obtain ⟨n, hn, h⟩ := bind_eq_ok_iff.mp h
      cases h
      have hgiven : givenName (some n) = some n :=
        givenName_eq_self (by simpa using insertColumn_isValid hn)
      rw [ConflictCall.target?, ← insertColumn_eq_columnKey hn]
      exact @Step.target b { constraint := some n } (Or.inr ⟨rfl, by rw [hgiven]; rfl⟩)
  | doNothing =>
    cases h
    exact @Step.choice b { action := .nothing } (by simp)
  | doUpdate assignments =>
    simp only [apply] at h
    split at h
    next e es =>
      obtain ⟨updates, hu, h⟩ := bind_eq_ok_iff.mp h
      cases h
      rw [ConflictCall.choice?, ← readRow_eq_lastKept hu]
      exact @Step.choice b { action := .update, updates } fun _ => readRow_ne_nil hu
    next => cases h

/-- The builder holds the last of the targets and the last of the choices. -/
structure Holds (b : ConflictBuilder) (ts : List ConflictTarget) (cs : List ConflictChoice) :
    Prop where
  target : b.clause.target = ts.getLast?.getD {}
  choice : (if b.decided then some b.clause.choice else none) = cs.getLast?
  given : ∀ t ∈ ts, t.IsGiven
  chosen : ∀ c ∈ cs, c.action = .update → c.updates ≠ []

theorem start_holds : Holds {} [] [] :=
  ⟨rfl, rfl, by simp, by simp⟩

theorem Step.holds {b next : ConflictBuilder} {target : Option ConflictTarget}
    {choice : Option ConflictChoice} {ts : List ConflictTarget} {cs : List ConflictChoice}
    (h : b.Step target choice next) (hb : b.Holds ts cs) :
    next.Holds (ts ++ target.toList) (cs ++ choice.toList) := by
  cases h with
  | target ht =>
    have hchoice := hb.choice.trans (congrArg List.getLast? (List.append_nil cs).symm)
    refine ⟨by simp [ConflictClause.target], hchoice, ?_, by simpa using hb.chosen⟩
    exact List.forall_mem_append.mpr ⟨hb.given, by simpa using ht⟩
  | choice hc =>
    have htarget := hb.target.trans (congrArg (·.getLast?.getD {}) (List.append_nil ts).symm)
    refine ⟨htarget, by simp [ConflictClause.choice], by simpa using hb.given, ?_⟩
    exact List.forall_mem_append.mpr ⟨hb.chosen, by simpa using hc⟩

theorem filterMap_cons_eq_append {α β : Type} (f : α → Option β) (a : α) (as : List α) :
    (a :: as).filterMap f = (f a).toList ++ as.filterMap f := by
  cases h : f a <;> simp [h]

/-- After any calls the builder holds the last target and the last choice of those that did not
fail. -/
theorem run_holds {b : ConflictBuilder} {ts : List ConflictTarget} {cs : List ConflictChoice}
    (hb : b.Holds ts cs) (calls : List ConflictCall) :
    (b.run calls).Holds (ts ++ (b.succeeded calls).filterMap ConflictCall.target?)
      (cs ++ (b.succeeded calls).filterMap ConflictCall.choice?) := by
  -- targets and choices of earlier calls stay in front, since only the last of each counts
  induction calls generalizing b ts cs with
  | nil => simpa [run, succeeded] using hb
  | cons call calls ih =>
    rw [run, succeeded]
    cases h : b.apply call with
    | ok next =>
      have hnext := ih ((apply_step h).holds hb)
      rw [List.append_assoc, List.append_assoc, ← filterMap_cons_eq_append,
        ← filterMap_cons_eq_append] at hnext
      exact hnext
    | error e => exact ih hb

namespace Holds

variable {b : ConflictBuilder} {ts : List ConflictTarget} {cs : List ConflictChoice}

theorem one (hb : b.Holds ts cs) : b.clause.columns = [] ∨ b.clause.constraint = none := by
  change b.clause.target.columns = [] ∨ b.clause.target.constraint = none
  rw [hb.target]
  cases hl : ts.getLast? with
  | none => exact Or.inl rfl
  | some t => exact (hb.given t (List.mem_of_getLast? hl)).one

theorem some_iff (hb : b.Holds ts cs) :
    (b.clause.columns ≠ [] ∨ (givenName b.clause.constraint).isSome = true) ↔ ts ≠ [] := by
  change (b.clause.target.columns ≠ [] ∨ (givenName b.clause.target.constraint).isSome = true) ↔ _
  rw [hb.target]
  cases hl : ts.getLast? with
  | none => simp [List.getLast?_eq_none_iff.mp hl, givenName]
  | some t =>
    have hmem := List.mem_of_getLast? hl
    exact iff_of_true (hb.given t hmem).some (List.ne_nil_of_mem hmem)

/-- The clause is built once an action was chosen, and for an update also a target. -/
theorem build_eq (hb : b.Holds ts cs) : b.build = match cs.getLast? with
    | none => .error (.operand .conflictActionMissing .null)
    | some c =>
      if c.action = .update ∧ ts = [] then .error (.operand .conflictTargetMissing .null)
      else .ok b.clause := by
  have hmissing : (b.clause.columns.isEmpty && (givenName b.clause.constraint).isNone) = true ↔
      ts = [] := by
    rw [← not_iff_not, ← ne_eq ts, ← hb.some_iff]
    cases b.clause.columns <;> simp [Option.isSome_iff_ne_none]
  rw [← hb.choice, build]
  cases b.decided with
  | false => rfl
  | true =>
    simp only [Bool.not_true, Bool.false_eq_true, if_false, if_true, Bool.and_assoc,
      Bool.and_eq_true, beq_iff_eq, ConflictClause.choice] at hmissing ⊢
    simp only [hmissing]

theorem build_isOk_iff (hb : b.Holds ts cs) : (∃ c, b.build = .ok c) ↔
    ∃ c, cs.getLast? = some c ∧ (c.action = .update → ts ≠ []) := by
  rw [hb.build_eq]
  cases cs.getLast? with
  | none => simp
  | some d =>
    simp only [Option.some.injEq, exists_eq_left']
    split
    next h => simp [h.1, h.2]
    next h => simpa using h

theorem build_error (hb : b.Holds ts cs) {e : Error} (h : b.build = .error e) :
    ∃ fault v, e = .operand fault v := by
  rw [hb.build_eq] at h
  split at h
  next =>
    cases h
    exact ⟨_, _, rfl⟩
  next =>
    split at h
    next =>
      cases h
      exact ⟨_, _, rfl⟩
    next => cases h

theorem build_ok (hb : b.Holds ts cs) {c : ConflictClause} (h : b.build = .ok c) :
    c.target = ts.getLast?.getD {} ∧ some c.choice = cs.getLast? ∧ c.IsComplete := by
  have hchoice := hb.choice
  rw [hb.build_eq] at h
  split at h
  next => cases h
  next d hl =>
    split at h
    next => cases h
    next hd =>
      cases h
      rw [hl] at hchoice
      split at hchoice
      next =>
        cases hchoice
        refine ⟨hb.target, hl.symm, fun ha => ⟨hb.chosen _ (List.mem_of_getLast? hl) ha, ?_⟩⟩
        exact hb.some_iff.mpr fun hts => hd ⟨ha, hts⟩
      next => cases hchoice

end Holds

end ConflictBuilder

end QueryBuilder
