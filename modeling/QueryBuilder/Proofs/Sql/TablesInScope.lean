import Mathlib.Data.List.Nodup
import QueryBuilder.Proofs.Builder.Filter
import QueryBuilder.Proofs.Sql.ConditionFailures
import QueryBuilder.Proofs.Sql.Scoping

/-!
The tables of a SELECT, kept twice: in the query, and in the scope that its builder carries along.
Any calls keep the two in step, so compilation finds the same tables again, each under a qualifier
of its own.
-/
namespace QueryBuilder

namespace Scope

theorem mem_of_find? {s : Scope} {q : String} {t : TableRef} (h : s.find? q = some t) :
    t ∈ s.tables ∧ t.qualifier = q := by
  unfold find? at h
  have hq := List.find?_some h
  exact ⟨List.mem_of_find?_eq_some h, beq_iff_eq.mp hq⟩

/-- Where qualifiers are not shared, they lead to their own tables and to no others. -/
theorem find?_eq_some_iff {s : Scope} (h : s.qualifiers.Nodup) {q : String} {t : TableRef} :
    s.find? q = some t ↔ t ∈ s.tables ∧ t.qualifier = q := by
  refine ⟨mem_of_find?, ?_⟩
  rintro ⟨ht, rfl⟩
  obtain ⟨u, hu⟩ := find?_of_mem (List.mem_map_of_mem (f := TableRef.qualifier) ht)
  obtain ⟨hmem, hq⟩ := mem_of_find? hu
  cases List.inj_on_of_nodup_map h hmem ht hq
  exact hu

theorem add_of_mem {s : Scope} {t : TableRef} (h : t.qualifier ∈ s.qualifiers) :
    ∃ existing, s.add t = .error (.duplicateQualifier t.qualifier existing t.name) := by
  obtain ⟨u, hu⟩ := find?_of_mem h
  exact ⟨u.name, by rw [add, hu]⟩

end Scope

namespace Error

/-- Holds of the error about a qualifier that two tables have. -/
def isDuplicate : Error → Bool
  | .duplicateQualifier .. => true
  | _ => false

theorem isDuplicate_of_isOfCondition {e : Error} (h : e.isOfCondition = true) :
    e.isDuplicate = false := by
  cases e with
  | duplicateQualifier => cases h
  | _ => rfl

theorem isDuplicate_of_isNaming {e : Error} (h : e.isNaming = true) : e.isDuplicate = false :=
  isDuplicate_of_isOfCondition (isOfCondition_of_isNaming h)

end Error

section

variable {p : Error → Prop} (hp : ∀ e, e.isNaming = true → p e)

include hp

theorem AliasSyntax.read_fails (subject : Subject) (v : Value) :
    FailsWith p (AliasSyntax.read subject v) := by
  have malformed : ∀ fault, p (.malformed v fault) := fun _ => hp _ rfl
  unfold AliasSyntax.read
  simp only
  generalize (if v.isNull then "" else v.text) = text
  split
  next => exact .error (hp _ rfl)
  next =>
    split
    next => exact .error (malformed _)
    next =>
      split
      next => exact .error (malformed _)
      next =>
        split
        next => exact .ok _
        next =>
          split
          next => exact .error (malformed _)
          next =>
            split
            next => exact .error (malformed _)
            next => exact .ok _
        next => exact .error (malformed _)

theorem SelectItem.parse_fails (v : Value) : FailsWith p (SelectItem.parse v) := by
  refine (AliasSyntax.read_fails hp .column v).bind fun _ _ =>
    (checkColumnName_fails hp _ v).bind fun _ _ => ?_
  split
  next => exact .error (hp _ rfl)
  next => exact .ok _

theorem plainColumn_fails {method : Method}
    (ho : ∀ v type, p (.operand (.columnNameNotText method type) v)) (v : Value) :
    FailsWith p (plainColumn method v) := by
  have hread : FailsWith p (SelectItem.parse v >>= fun item =>
      if item.aliasName.isSome then .error (.malformed v .renameOutsideSelect)
      else if item.isStar then .error (.malformed v .starOutsideSelect)
      else ColumnReference.parse item.name >>= fun r => Except.ok r.text) := by
    refine (SelectItem.parse_fails hp v).bind fun item _ => ?_
    split
    next => exact .error (hp _ rfl)
    next =>
      split
      next => exact .error (hp _ rfl)
      next => exact (parse_fails hp item.name).andThen
  unfold plainColumn
  split
  next => exact .error (ho v _)
  next => exact hread

end

namespace SelectBuilder

/-- The tables of the joins that did not fail, in order. -/
def joined (b : SelectBuilder) : List SelectCall → List TableRef
  | [] => []
  | call :: calls =>
    match b.apply call with
    | .ok next => call.joined?.toList ++ next.joined calls
    | .error _ => b.joined calls

theorem run_inStep {b : SelectBuilder} (hb : b.InStep) (calls : List SelectCall) :
    (b.run calls).InStep ∧ (b.run calls).query.tables = b.query.tables ++ b.joined calls := by
  induction calls generalizing b with
  | nil => exact ⟨hb, (List.append_nil _).symm⟩
  | cons call calls ih =>
    rw [run, joined]
    cases h : b.apply call with
    | ok next =>
      obtain ⟨_, _, hstep⟩ := apply_step h
      obtain ⟨hnext, htables⟩ := hstep.inStep hb
      obtain ⟨hrun, hjoined⟩ := ih hnext
      rw [htables, List.append_assoc] at hjoined
      exact ⟨hrun, hjoined⟩
    | error e => exact ih hb

namespace InStep

variable {b : SelectBuilder}

theorem qualifiers_eq (hb : b.InStep) :
    b.scope.qualifiers = b.query.tables.map TableRef.qualifier := by
  rw [Scope.qualifiers, hb.scope]

theorem find?_eq_some_iff (hb : b.InStep) {q : String} {t : TableRef} :
    b.scope.find? q = some t ↔ t ∈ b.query.tables ∧ t.qualifier = q := by
  rw [Scope.find?_eq_some_iff (hb.qualifiers_eq ▸ hb.qualifiers), hb.scope]

theorem scope_eq_ok (hb : b.InStep) (client : Client) :
    ∃ s, client.scope b.query.tables = .ok s ∧ s.tables = b.scope.tables := by
  refine ⟨_, Scope.addAll_of_nodup ?_, ?_⟩
  · simpa [Scope.qualifiers] using hb.qualifiers
  · rw [hb.scope, List.nil_append]

theorem compile_fails (hb : b.InStep) (settings : Settings) (schema : Option Schema) :
    FailsWith (·.isDuplicate = false)
      ((Client.ofSettings settings schema).compile (.select b.query)) := by
  obtain ⟨s, hs, _⟩ := hb.scope_eq_ok (Client.ofSettings settings schema)
  refine FailsWith.map (FailsWith.map ((FailsWith.of_ok ?_).bind fun ctx hctx => ?_))
  · exact ⟨_, bind_eq_ok_iff.mpr ⟨s, hs, rfl⟩⟩
  · have hliteral : ∀ v, FailsWith (·.isDuplicate = false) (ctx.dialect.literalOf v) := by
      rw [(Client.context_eq_ok hctx).1]
      exact Dialect.literalOf_fails (fun _ => Error.isDuplicate_of_isOfCondition) _
    exact Context.selectClauses_fails_of_filter (fun _ => Error.isDuplicate_of_isNaming)
      (fun c _ =>
        Context.anyPredicate_fails (fun _ => Error.isDuplicate_of_isOfCondition) hliteral c)
      fun _ _ _ => rfl

/-- A join is refused for its qualifier just if a table of the query has it already. -/
theorem apply_join_iff (hb : b.InStep) {table : Value} {t : TableRef}
    (ht : TableRef.parse table = .ok t) (kind : JoinKind) (left right : Value) :
    (∃ e, b.apply (.join kind table left right) = .error e ∧ e.isDuplicate = true) ↔
      t.qualifier ∈ b.query.tables.map TableRef.qualifier := by
  rw [← hb.qualifiers_eq]
  constructor
  · rintro ⟨e, he, hdup⟩
    by_contra hnew
    have hadd := Scope.add_eq_ok_iff.mpr ⟨hnew, rfl⟩
    have hcolumn : ∀ v, FailsWith (·.isDuplicate = false) (plainColumn .join v) :=
      plainColumn_fails (fun _ => Error.isDuplicate_of_isNaming) fun _ _ => rfl
    have hfails : FailsWith (·.isDuplicate = false) (b.apply (.join kind table left right)) := by
      refine (FailsWith.of_ok ⟨t, ht⟩).bind fun u hu => ?_
      cases ht.symm.trans hu
      exact (FailsWith.of_ok ⟨_, hadd⟩).bind fun _ _ => (hcolumn left).bind fun _ _ =>
        (hcolumn right).andThen
    cases hdup.symm.trans (hfails e he)
  · intro hmem
    obtain ⟨existing, hadd⟩ := Scope.add_of_mem hmem
    exact ⟨_, bind_eq_error_iff.mpr (.inr ⟨t, ht, bind_eq_error_iff.mpr (.inl hadd)⟩), rfl⟩

/-- A join is refused with the error about qualifiers just if a table of the query has its own. -/
theorem apply_join_duplicate_iff (hb : b.InStep) {table : Value} {t : TableRef}
    (ht : TableRef.parse table = .ok t) (kind : JoinKind) (left right : Value) :
    (∃ q existing added, b.apply (.join kind table left right) =
        .error (.duplicateQualifier q existing added)) ↔
      t.qualifier ∈ b.query.tables.map TableRef.qualifier := by
  rw [← hb.apply_join_iff ht kind left right]
  constructor
  · rintro ⟨q, existing, added, he⟩
    exact ⟨_, he, rfl⟩
  · rintro ⟨e, he, hdup⟩
    cases e with
    | duplicateQualifier q existing added => exact ⟨q, existing, added, he⟩
    | _ => cases hdup

end InStep

/-- The tables of the query are those in the builder's scope and those in the scope that is made
for compilation, each with a qualifier of its own. -/
structure ScopesAgree (b : SelectBuilder) : Prop where
  tables : b.scope.tables = b.query.tables
  qualifiers : (b.query.tables.map TableRef.qualifier).Nodup
  entries : ∀ q t, b.scope.find? q = some t ↔ t ∈ b.query.tables ∧ t.qualifier = q
  remade : ∀ client : Client, ∃ s,
    client.scope b.query.tables = .ok s ∧ s.tables = b.scope.tables
  compiled : ∀ settings schema q existing added,
    (Client.ofSettings settings schema).compile (.select b.query) ≠
      .error (.duplicateQualifier q existing added)
  joins : ∀ kind table left right t, TableRef.parse table = .ok t →
    ((∃ q existing added, b.apply (.join kind table left right) =
        .error (.duplicateQualifier q existing added)) ↔
      t.qualifier ∈ b.query.tables.map TableRef.qualifier)

/-- After any calls the tables are the one after FROM and the joined ones, in the order of the
calls, and all scopes agree on them. -/
theorem run_scopesAgree {table : Value} {b : SelectBuilder} (h : start table = .ok b)
    (calls : List SelectCall) :
    ∃ t, TableRef.parse table = .ok t ∧ (b.run calls).query.tables = t :: b.joined calls ∧
      (b.run calls).ScopesAgree := by
  obtain ⟨hrun, htables⟩ := run_inStep (start_inStep h) calls
  obtain ⟨t, ht, rfl⟩ := start_eq_ok h
  refine ⟨t, ht, htables, ?_⟩
  exact {
    tables := by rw [hrun.scope]
    qualifiers := hrun.qualifiers
    entries := fun _ _ => hrun.find?_eq_some_iff
    remade := hrun.scope_eq_ok
    compiled := fun settings schema q existing added he => by
      cases hrun.compile_fails settings schema _ he
    joins := fun kind _ left right _ ht => hrun.apply_join_duplicate_iff ht kind left right }

/-- A table joined to itself, at first without an alias, and a table under a name that is taken. -/
def selfJoins : List SelectCall :=
  [.join .inner (.str "users") (.str "id") (.str "manager"),
    .join .inner (.str "users AS u") (.str "manager") (.str "id"),
    .join .left (.str "u") (.str "id") (.str "owner")]

/-- What the second of the calls leads to. -/
def selfJoined : SelectQuery :=
  { table := ⟨"users", none⟩, joins := [⟨.inner, ⟨"users", some "u"⟩, "manager", "id"⟩] }

theorem run_scopesAgree_selfJoins : ∃ b, start (.str "users") = .ok b ∧
    (b.run selfJoins).query.tables = [⟨"users", none⟩, ⟨"users", some "u"⟩] ∧
    (b.run selfJoins).ScopesAgree := by
  have husers : TableRef.parse (.str "users") = .ok ⟨"users", none⟩ :=
    TableRef.parse_bare (by decide) (by decide) (by decide)
  have haliased : TableRef.parse (.str "users AS u") = .ok ⟨"users", some "u"⟩ :=
    TableRef.parse_aliased rfl (by decide) (by decide) (by decide) rfl rfl rfl
  have hu : TableRef.parse (.str "u") = .ok ⟨"u", none⟩ :=
    TableRef.parse_bare (by decide) (by decide) (by decide)
  have hstart : start (.str "users") =
      .ok ⟨{ table := ⟨"users", none⟩ }, { tables := [⟨"users", none⟩] }⟩ :=
    start_bare (by decide) (by decide) (by decide)
  have hself : apply ⟨{ table := ⟨"users", none⟩ }, { tables := [⟨"users", none⟩] }⟩
      (.join .inner (.str "users") (.str "id") (.str "manager")) =
      .error (.duplicateQualifier "users" "users" "users") := by
    rw [apply, husers]
    rfl
  have hjoin : apply ⟨{ table := ⟨"users", none⟩ }, { tables := [⟨"users", none⟩] }⟩
      (.join .inner (.str "users AS u") (.str "manager") (.str "id")) =
      .ok ⟨selfJoined, { tables := selfJoined.tables }⟩ := by
    rw [apply, haliased, plainColumn_bare (by decide) (by decide) (by decide),
      plainColumn_bare (by decide) (by decide) (by decide)]
    rfl
  have htaken : apply ⟨selfJoined, { tables := selfJoined.tables }⟩
      (.join .left (.str "u") (.str "id") (.str "owner")) =
      .error (.duplicateQualifier "u" "users" "u") := by
    rw [apply, hu]
    rfl
  obtain ⟨t, ht, htables, hagree⟩ := run_scopesAgree hstart selfJoins
  cases husers.symm.trans ht
  refine ⟨_, hstart, ?_, hagree⟩
  rw [htables]
  simp only [selfJoins, joined, hself, hjoin, htaken, SelectCall.joined?, haliased]
  rfl

end SelectBuilder

end QueryBuilder
