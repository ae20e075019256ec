import QueryBuilder.Proofs.Sql.ConditionFailures
import QueryBuilder.Proofs.Sql.Scoping

/-!
Conflict clauses from their building to their text. The builder refuses what lacks an action or a
target, so compilation never finds either missing.
-/
namespace QueryBuilder

/-- Holds of the errors about a conflict clause that lacks its target or its assignments. -/
def Error.lacksConflictPart : Error → Bool
  | .operand .conflictTargetMissing _ | .operand .conflictAssignmentsMissing _ => true
  | _ => false

theorem Error.lacksConflictPart_of_isOfCondition {e : Error} (h : e.isOfCondition = true) :
    e.lacksConflictPart = false := by
  cases e with
  | operand fault v => cases fault <;> first | rfl | cases h
  | _ => rfl

theorem Error.lacksConflictPart_of_isNaming {e : Error} (h : e.isNaming = true) :
    e.lacksConflictPart = false :=
  lacksConflictPart_of_isOfCondition (isOfCondition_of_isNaming h)

/-- An INSERT whose conflict clause lacks nothing is not refused for it. -/
theorem Client.compile_insert_fails {q : InsertQuery} (hc : ∀ c ∈ q.conflict, c.IsComplete)
    (client : Client) :
    FailsWith (·.lacksConflictPart = false) (client.compile (.insert q)) := by
  have hcontext : ∃ ctx, client.context [q.table] = .ok ctx :=
    ⟨_, bind_eq_ok_iff.mpr ⟨_, Scope.addAll_of_nodup (by simp [Scope.qualifiers]), rfl⟩⟩
  have hoperand : ∀ (ctx : Context) v, FailsWith (·.lacksConflictPart = false) (ctx.operand v) :=
    fun ctx => Context.anyOperand_fails fun _ => Error.lacksConflictPart_of_isOfCondition
  refine FailsWith.map (FailsWith.map ((FailsWith.of_ok hcontext).bind fun ctx _ => ?_))
  refine Context.insertClauses_fails_of_values (fun _ => Error.lacksConflictPart_of_isNaming) rfl
    (fun _ _ e _ => hoperand ctx e.2) fun c hm => ?_
  exact Context.conflictClause_fails_of_isComplete (fun _ => Error.lacksConflictPart_of_isNaming)
    (hc c hm) fun values u _ => hoperand values u.2

namespace ConflictBuilder

/-- The targets of the calls that did not fail, in order. -/
def targets (calls : List ConflictCall) : List ConflictTarget :=
  (succeeded {} calls).filterMap ConflictCall.target?

/-- The choices of the calls that did not fail, in order. -/
def choices (calls : List ConflictCall) : List ConflictChoice :=
  (succeeded {} calls).filterMap ConflictCall.choice?

theorem run_holds_targets (calls : List ConflictCall) :
    (run {} calls).Holds (targets calls) (choices calls) :=
  run_holds start_holds calls

/-- After any calls there is one target at most. The clause is built just if an action was chosen
and, for an update, a target was named; it consists of the last target and the last choice, and no
INSERT with it is refused for lack of either. -/
theorem build_run (calls : List ConflictCall) :
    ((run {} calls).clause.columns = [] ∨ (run {} calls).clause.constraint = none) ∧
      ((∃ c, (run {} calls).build = .ok c) ↔ ∃ choice, (choices calls).getLast? = some choice ∧
        (choice.action = .update → targets calls ≠ [])) ∧
      (∀ e, (run {} calls).build = .error e → ∃ fault v, e = .operand fault v) ∧
      ∀ c, (run {} calls).build = .ok c →
        c.target = (targets calls).getLast?.getD {} ∧ some c.choice = (choices calls).getLast? ∧
          ∀ (client : Client) (q : InsertQuery) (v : Value), q.conflict = some c →
            client.compile (.insert q) ≠ .error (.operand .conflictTargetMissing v) ∧
              client.compile (.insert q) ≠ .error (.operand .conflictAssignmentsMissing v) := by
  have hrun := run_holds_targets calls
  refine ⟨hrun.one, hrun.build_isOk_iff, fun e => hrun.build_error, fun c hc => ?_⟩
  obtain ⟨htarget, hchoice, hcomplete⟩ := hrun.build_ok hc
  refine ⟨htarget, hchoice, fun client q v hq => ?_⟩
  have hfails := client.compile_insert_fails (q := q) fun d hd => by
    cases hq.symm.trans hd
    exact hcomplete
  constructor
  · intro he
    cases hfails _ he
  · intro he
    cases hfails _ he

end ConflictBuilder

end QueryBuilder
