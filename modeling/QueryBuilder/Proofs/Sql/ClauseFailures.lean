import QueryBuilder.Proofs.Builder.Conflict
import QueryBuilder.Proofs.Failure
import QueryBuilder.Proofs.Sql.References
import QueryBuilder.Proofs.Text.Respelled
import QueryBuilder.Sql.Compile

/-!
The errors of clauses. Apart from the conditions and operands in it, a clause is refused only for a
name in it, or for a number that is too long.
-/
namespace QueryBuilder

/-- Holds of the errors about names: those that cannot be read, and those of columns that belong to
no table in scope. -/
def Error.isNaming : Error → Bool
  | .malformed .. | .empty .. | .aliasedTable .. | .unresolved .. => true
  | _ => false

theorem Scope.qualifierError_isNaming (s : Scope) (r : ColumnReference) (q : String) :
    (s.qualifierError r q).isNaming = true := by
  unfold qualifierError
  simp only
  split <;> rfl

namespace Context

variable {ctx : Context}

theorem isSome_conflictTarget {c : ConflictClause} {target : Option String}
    (hc : c.columns ≠ [] ∨ (givenName c.constraint).isSome = true)
    (h : ctx.conflictTarget c = .ok target) : target.isSome = true := by
  unfold conflictTarget at h
  split at h
  next =>
    cases h
    rfl
  next hnone =>
    have hcolumns : c.columns ≠ [] := hc.resolve_right (by simp [hnone])
    rw [if_neg (by simpa using hcolumns)] at h
    obtain ⟨_, _, h⟩ := bind_eq_ok_iff.mp h
    cases h
    rfl

/-- The row that was not inserted is added only where its name is free. -/
theorem withExcluded_ok (ctx : Context) : ∃ values, ctx.withExcluded = .ok values := by
  unfold withExcluded
  split
  next => exact ⟨_, rfl⟩
  next root _ =>
    split
    next => exact ⟨_, rfl⟩
    next hnew =>
      have hfree : "excluded" ∉ ctx.scope.qualifiers := by simpa using hnew
      have hadd : ctx.scope.add ⟨root.name, some "excluded"⟩ = .ok _ :=
        Scope.add_eq_ok_iff.mpr ⟨hfree, rfl⟩
      exact ⟨_, bind_eq_ok_iff.mpr ⟨_, hadd, rfl⟩⟩

end Context

section

variable {p : Error → Prop} (hp : ∀ e, e.isNaming = true → p e)

include hp

theorem checkParts_fails (v : Value) (parts : List String) : FailsWith p (checkParts v parts) := by
  fun_induction checkParts v parts with
  | case1 => exact .ok _
  | case2 | case3 => exact .error (hp _ rfl)
  | case4 _ _ _ _ ih => exact ih

theorem checkColumnName_fails (name : String) (v : Value) :
    FailsWith p (checkColumnName name v) := by
  unfold checkColumnName
  split
  next => exact .error (hp _ rfl)
  next =>
    split
    next => exact .ok _
    next =>
      split
      next => exact checkParts_fails hp v _
      next => exact checkParts_fails hp v _
      next => exact .error (hp _ rfl)

theorem parse_fails (name : String) : FailsWith p (ColumnReference.parse name) := by
  refine (checkColumnName_fails hp name _).bind fun _ _ => ?_
  split <;> exact .ok _

namespace Scope

theorem checkColumn_fails (s : Scope) (t : TableRef) (r : ColumnReference) :
    FailsWith p (s.checkColumn t r) := by
  unfold checkColumn
  split
  next => exact .ok _
  next =>
    split
    next => exact .ok _
    next => exact .error (hp _ rfl)

theorem ownerOfBare_fails (s : Scope) (column : String) (name : Value) :
    FailsWith p (s.ownerOfBare column name) := by
  unfold ownerOfBare
  split
  next => split <;> exact .ok _
  next =>
    split
    next => exact .error (hp _ rfl)
    next => exact .ok _
    next => exact .error (hp _ rfl)

theorem resolve_fails (s : Scope) (r : ColumnReference) (default? : Option String)
    (extra : List String) : FailsWith p (s.resolve r default? extra) := by
  unfold resolve
  split
  next =>
    split
    next => exact .error (hp _ (qualifierError_isNaming s r _))
    next => exact (checkColumn_fails hp s _ r).andThen
  next =>
    split
    next =>
      split
      next => exact .error (hp _ rfl)
      next => exact (checkColumn_fails hp s _ r).andThen
    next =>
      split
      next => exact .ok _
      next => exact (ownerOfBare_fails hp s _ _).andThen

theorem resolveName_fails (s : Scope) (name : String) (default? : Option String)
    (extra : List String) : FailsWith p (s.resolveName name default? extra) :=
  (parse_fails hp name).bind fun r _ => resolve_fails hp s r default? extra

end Scope

namespace Context

variable {ctx : Context}

theorem columnText_fails (name : String) (default? : Option String) (extra : List String) :
    FailsWith p (ctx.columnText name default? extra) :=
  (Scope.resolveName_fails hp ctx.scope name default? extra).andThen

theorem itemsText_fails (items : List SelectItem) : FailsWith p (ctx.itemsText items) :=
  (FailsWith.forEach fun _ _ => (columnText_fails hp _ none []).andThen).andThen

theorem selectClause_fails (items : List SelectItem) : FailsWith p (ctx.selectClause items) := by
  unfold selectClause
  split
  next => exact .ok _
  next => exact (itemsText_fails hp items).andThen

theorem joinClause_fails (j : Join) : FailsWith p (ctx.joinClause j) :=
  (columnText_fails hp _ _ []).bind fun _ _ => (columnText_fails hp _ _ []).andThen

theorem orderClause_fails (names : List String) (orderBy : List OrderItem) :
    FailsWith p (ctx.orderClause names orderBy) := by
  unfold orderClause
  split
  next => exact .ok _
  next => exact (FailsWith.forEach fun _ _ => (columnText_fails hp _ none _).andThen).andThen

omit hp in
/-- A fragment is refused for a number of too many digits. -/
theorem fragment_fails {sql : String} {params : List Value}
    (hr : ¬ (Mention.fragment sql).IsReadable → p .tooManyDigits) :
    FailsWith p (Piece.fragment sql params) := by
  intro e he
  obtain ⟨hsql, rfl⟩ := Piece.fragment_eq_error he
  refine hr fun h => ?_
  rw [Text.isReadable_iff.mpr h] at hsql
  cases hsql

omit hp in
theorem countClause_fails (word : String) {count : Option Nat}
    (hc : ∀ n ∈ count, ¬ (Mention.count n).IsReadable → p .tooManyDigits) :
    FailsWith p (countClause word count) := by
  cases count with
  | none => exact .ok _
  | some n =>
    have hwrite : FailsWith p (writeNumber n) := by
      unfold writeNumber
      split
      next => exact .ok _
      next hn => exact .error (hc n rfl fun hr => hn (decide_eq_true hr))
    exact hwrite.andThen

/-- A SELECT is refused as its filter is, or for a name, or for a count of too many digits. -/
theorem selectClauses_fails_of_filter {q : SelectQuery}
    (hf : ∀ c ∈ q.filter, FailsWith p (ctx.predicate c))
    (hc : ∀ n, n ∈ q.limit ∨ n ∈ q.offset → ¬ (Mention.count n).IsReadable → p .tooManyDigits) :
    FailsWith p (ctx.selectClauses q) := by
  have hfilter : FailsWith p (ctx.filterClause q.filter) := by
    cases hq : q.filter with
    | none => exact .ok _
    | some c => exact (hf c hq).andThen
  have hlimit := countClause_fails "LIMIT" fun n hn => hc n (Or.inl hn)
  have hoffset := countClause_fails "OFFSET" fun n hn => hc n (Or.inr hn)
  exact (selectClause_fails hp q.items).bind fun _ _ =>
    (FailsWith.forEach fun j _ => joinClause_fails hp j).bind fun _ _ =>
      hfilter.bind fun _ _ => (orderClause_fails hp _ q.orderBy).bind fun _ _ =>
        hlimit.bind fun _ _ => hoffset.andThen

theorem columnTexts_fails (columns : List String) :
    FailsWith p (forEach (fun c => ctx.columnText c) columns) :=
  .forEach fun c _ => columnText_fails hp c none []

theorem insertClause_fails_of_values {q : InsertQuery}
    (he : p (.operand .insertEmpty (rowsValue q.rows)))
    (hv : ∀ row ∈ q.rows, ∀ e ∈ row, FailsWith p (ctx.operand e.2)) :
    FailsWith p (ctx.insertClause q) := by
  have hcell : ∀ row ∈ q.rows, ∀ c, FailsWith p (ctx.cell row c) := by
    intro row hrow c
    unfold cell
    split
    next v hl =>
      obtain ⟨_, _, he, _⟩ := List.lookup_eq_some_iff.mp hl
      exact hv row hrow (c, v) (by simp [he])
    next => exact .ok _
  unfold insertClause
  simp only
  split
  next => exact .error he
  next =>
    refine (columnTexts_fails hp q.columns).bind fun _ _ => FailsWith.andThen ?_
    exact .forEach fun row hrow => (FailsWith.forEach fun c _ => hcell row hrow c).andThen

theorem conflictTarget_fails (c : ConflictClause) : FailsWith p (ctx.conflictTarget c) := by
  unfold conflictTarget
  split
  next => exact .ok _
  next =>
    split
    next => exact .ok _
    next => exact (columnTexts_fails hp c.columns).andThen

/-- A conflict clause that lacks nothing is refused for a name, or for a value in it. -/
theorem conflictClause_fails_of_isComplete {c : ConflictClause} (hc : c.IsComplete)
    (hv : ∀ values : Context, ∀ u ∈ c.updates, FailsWith p (values.operand u.2)) :
    FailsWith p (ctx.conflictClause c) := by
  refine (FailsWith.of_ok ctx.withExcluded_ok).bind fun values _ =>
    (conflictTarget_fails hp c).bind fun target htarget => ?_
  cases ha : c.action with
  | nothing => cases target <;> exact .ok _
  | update =>
    obtain ⟨hu, ht⟩ := hc ha
    obtain ⟨target, rfl⟩ := Option.isSome_iff_exists.mp (isSome_conflictTarget ht htarget)
    simp only [List.isEmpty_eq_false_iff.mpr hu]
    refine (FailsWith.forEach fun u hm => ?_).andThen
    exact (columnText_fails hp u.1 none []).bind fun _ _ => (hv values u hm).andThen

theorem returningClause_fails (items : List SelectItem) :
    FailsWith p (ctx.returningClause items) := by
  unfold returningClause
  split
  next => exact .ok _
  next => exact (itemsText_fails hp items).andThen

theorem insertClauses_fails_of_values {q : InsertQuery}
    (he : p (.operand .insertEmpty (rowsValue q.rows)))
    (hv : ∀ row ∈ q.rows, ∀ e ∈ row, FailsWith p (ctx.operand e.2))
    (hc : ∀ c ∈ q.conflict, FailsWith p (ctx.conflictClause c)) :
    FailsWith p (ctx.insertClauses q) := by
  have hconflict : FailsWith p (ctx.conflictClauses q.conflict) := by
    cases ho : q.conflict with
    | none => exact .ok _
    | some c => exact (hc c ho).andThen
  exact (insertClause_fails_of_values hp he hv).bind fun _ _ => hconflict.bind fun _ _ =>
    (returningClause_fails hp q.returning).andThen

end Context

end

end QueryBuilder
