import QueryBuilder.Proofs.Builder.Filter
import QueryBuilder.Proofs.Identifier.Bare
import QueryBuilder.Proofs.Refines
import QueryBuilder.Sql.Compile

/-!
Calls for different clauses of a SELECT do not see each other's work. Only the order of the calls
for one clause matters, so a condition or a column may name a table before it is joined.
-/
namespace QueryBuilder

inductive SelectClause where
  | items | filter | joins | orderBy | limit | offset
  deriving DecidableEq

def SelectCall.clause : SelectCall → SelectClause
  | .columns _ | .allColumns => .items
  | .filter .. => .filter
  | .join .. => .joins
  | .orderBy .. => .orderBy
  | .limit _ => .limit
  | .offset _ => .offset

/-- Holds of two lists of calls that differ only in how the calls for different clauses mix. -/
def Interleaved (calls others : List SelectCall) : Prop :=
  ∀ k, calls.filter (·.clause = k) = others.filter (·.clause = k)

namespace SelectBuilder

/-- The calls in order, each with its error if it fails. -/
def outcomes (b : SelectBuilder) : List SelectCall → List (SelectCall × Option Error)
  | [] => []
  | call :: calls =>
    match b.apply call with
    | .ok next => (call, none) :: next.outcomes calls
    | .error e => (call, some e) :: b.outcomes calls

/-- Holds of builders that have the same of one clause. The tables in scope go with the joins. -/
def SameAt (b c : SelectBuilder) : SelectClause → Prop
  | .items => b.query.items = c.query.items
  | .filter => b.query.filter = c.query.filter
  | .joins => b.query.joins = c.query.joins ∧ b.scope = c.scope
  | .orderBy => b.query.orderBy = c.query.orderBy
  | .limit => b.query.limit = c.query.limit
  | .offset => b.query.offset = c.query.offset

theorem SameAt.refl (b : SelectBuilder) (k : SelectClause) : b.SameAt b k := by
  cases k with
  | joins => exact ⟨rfl, rfl⟩
  | _ => rfl

theorem SameAt.symm {b c : SelectBuilder} {k : SelectClause} (h : b.SameAt c k) :
    c.SameAt b k := by
  cases k with
  | joins => exact ⟨h.1.symm, h.2.symm⟩
  | _ => exact Eq.symm h

theorem SameAt.trans {b c d : SelectBuilder} {k : SelectClause} (h : b.SameAt c k)
    (h' : c.SameAt d k) : b.SameAt d k := by
  cases k with
  | joins => exact ⟨h.1.trans h'.1, h.2.trans h'.2⟩
  | _ => exact Eq.trans h h'

theorem eq_of_sameAt {b c : SelectBuilder} (ht : b.query.table = c.query.table)
    (h : ∀ k, b.SameAt c k) : b = c := by
  obtain ⟨⟨table, joins, items, filter, orderBy, limit, offset⟩, scope⟩ := b
  obtain ⟨⟨table', joins', items', filter', orderBy', limit', offset'⟩, scope'⟩ := c
  obtain ⟨hj, hs⟩ : joins = joins' ∧ scope = scope' := h .joins
  have hi : items = items' := h .items
  have hf : filter = filter' := h .filter
  have ho : orderBy = orderBy' := h .orderBy
  have hl : limit = limit' := h .limit
  have hof : offset = offset' := h .offset
  cases ht
  subst hj hs hi hf ho hl hof
  rfl

theorem apply_orderBy (items direction : Value) : ∃ x : Except Error (List OrderItem),
    ∀ b : SelectBuilder, b.apply (.orderBy items direction) = (x >>= fun new =>
      .ok { b with query := { b.query with orderBy := b.query.orderBy ++ new } }) := by
  unfold apply
  by_cases ht : items.isText
  · exact ⟨orderItems [.tuple [items, direction]], fun b => by simp only [ht]; rfl⟩
  · cases items with
    | list xs => exact ⟨orderItems xs, fun b => rfl⟩
    | tuple xs => exact ⟨orderItems xs, fun b => rfl⟩
    | _ => exact ⟨.error (.operand .orderByNotList _), fun b => by simp only [ht]; rfl⟩

/-- A call reads nothing but its own clause: where that is the same, the call has the same
outcome, and the clause is the same again. -/
theorem apply_sameAt {b c : SelectBuilder} (call : SelectCall) (h : b.SameAt c call.clause) :
    Narrows (fun _ => False) (fun next other => next.SameAt other call.clause)
      (b.apply call) (c.apply call) := by
  cases call with
  | columns names =>
    have hi : b.query.items = c.query.items := h
    refine .bind_same fun _ _ => .bind_same fun items _ => .ok ?_
    exact congrArg (· ++ items) hi
  | allColumns =>
    have hi : b.query.items = c.query.items := h
    refine .ok ?_
    exact congrArg (· ++ [⟨"*", none⟩]) hi
  | filter target op value =>
    have hf : b.query.filter = c.query.filter := h
    refine .bind_same fun d _ => ?_
    rw [hf]
    exact .bind_same fun _ _ => .ok rfl
  | join kind table left right =>
    obtain ⟨hj, hs⟩ : b.query.joins = c.query.joins ∧ b.scope = c.scope := h
    refine .bind_same fun t _ => ?_
    rw [hs]
    refine .bind_same fun _ _ => .bind_same fun l _ => .bind_same fun r _ => .ok ⟨?_, rfl⟩
    exact congrArg (· ++ [⟨kind, t, l, r⟩]) hj
  | orderBy items direction =>
    have ho : b.query.orderBy = c.query.orderBy := h
    obtain ⟨x, hx⟩ := apply_orderBy items direction
    rw [hx, hx]
    refine .bind_same fun new _ => .ok ?_
    exact congrArg (· ++ new) ho
  | limit count => exact .bind_same fun _ _ => .ok rfl
  | offset count => exact .bind_same fun _ _ => .ok rfl

/-- What a call for a clause may change. -/
inductive Sets (b : SelectBuilder) : SelectClause → SelectBuilder → Prop
  | items (new : List SelectItem) : b.Sets .items { b with query := { b.query with items := new } }
  | filter (new : Option Condition) :
      b.Sets .filter { b with query := { b.query with filter := new } }
  | joins (new : List Join) (scope : Scope) :
      b.Sets .joins ⟨{ b.query with joins := new }, scope⟩
  | orderBy (new : List OrderItem) :
      b.Sets .orderBy { b with query := { b.query with orderBy := new } }
  | limit (new : Option Nat) : b.Sets .limit { b with query := { b.query with limit := new } }
  | offset (new : Option Nat) : b.Sets .offset { b with query := { b.query with offset := new } }

theorem apply_sets {b next : SelectBuilder} {call : SelectCall} (h : b.apply call = .ok next) :
    b.Sets call.clause next := by
  cases call with
  | columns names =>
    obtain ⟨_, _, h⟩ := bind_eq_ok_iff.mp h
    obtain ⟨items, _, h⟩ := bind_eq_ok_iff.mp h
    cases h
    exact .items _
  | allColumns =>
    cases h
    exact .items _
  | filter target op value =>
    obtain ⟨_, _, h⟩ := bind_eq_ok_iff.mp h
    obtain ⟨d, _, h⟩ := bind_eq_ok_iff.mp h
    cases h
    exact .filter _
  | join kind table left right =>
    obtain ⟨_, _, h⟩ := bind_eq_ok_iff.mp h
    obtain ⟨scope, _, h⟩ := bind_eq_ok_iff.mp h
    obtain ⟨_, _, h⟩ := bind_eq_ok_iff.mp h
    obtain ⟨_, _, h⟩ := bind_eq_ok_iff.mp h
    cases h
    exact .joins _ scope
  | orderBy items direction =>
    obtain ⟨x, hx⟩ := apply_orderBy items direction
    obtain ⟨new, _, h⟩ := bind_eq_ok_iff.mp ((hx b).symm.trans h)
    cases h
    exact .orderBy _
  | limit count =>
    obtain ⟨n, _, h⟩ := bind_eq_ok_iff.mp h
    cases h
    exact .limit _
  | offset count =>
    obtain ⟨n, _, h⟩ := bind_eq_ok_iff.mp h
    cases h
    exact .offset _

theorem Sets.table {b next : SelectBuilder} {k : SelectClause} (h : b.Sets k next) :
    next.query.table = b.query.table := by
  cases h <;> rfl

theorem Sets.sameAt_of_ne {b next : SelectBuilder} {k j : SelectClause} (h : b.Sets k next)
    (hj : k ≠ j) : next.SameAt b j := by
  cases h <;> cases j <;> simp_all [SameAt]

theorem run_table (b : SelectBuilder) (calls : List SelectCall) :
    (b.run calls).query.table = b.query.table := by
  induction calls generalizing b with
  | nil => rfl
  | cons call calls ih =>
    rw [run]
    cases h : b.apply call with
    | error e => exact ih b
    | ok next => exact (ih next).trans (apply_sets h).table

/-- Of one clause, a run leaves what the calls for that clause leave on their own, and these have
the outcomes that they have on their own. -/
theorem run_filter {b c : SelectBuilder} {k : SelectClause} (h : b.SameAt c k)
    (calls : List SelectCall) :
    (b.run calls).SameAt (c.run (calls.filter (·.clause = k))) k ∧
      (b.outcomes calls).filter (·.1.clause = k) =
        c.outcomes (calls.filter (·.clause = k)) := by
  induction calls generalizing b c with
  | nil => exact ⟨h, rfl⟩
  | cons call calls ih =>
    rw [run, outcomes]
    -- a call for another clause is made on the left only, and leaves the clause as it is
    by_cases hk : call.clause = k
    · subst hk
      obtain ⟨hok, herror⟩ := apply_sameAt call h
      rw [List.filter_cons_of_pos (by simp), run, outcomes]
      cases hb : b.apply call with
      | error e =>
        have hc : c.apply call = .error e := (herror e hb).resolve_left id
        obtain ⟨hrun, hout⟩ := ih h
        rw [hc]
        refine ⟨hrun, ?_⟩
        rw [List.filter_cons_of_pos (by simp), hout]
      | ok next =>
        obtain ⟨other, hc, hnext⟩ := hok next hb
        obtain ⟨hrun, hout⟩ := ih hnext
        rw [hc]
        refine ⟨hrun, ?_⟩
        rw [List.filter_cons_of_pos (by simp), hout]
    · rw [List.filter_cons_of_neg (by simpa using hk)]
      cases hb : b.apply call with
      | error e =>
        obtain ⟨hrun, hout⟩ := ih h
        refine ⟨hrun, ?_⟩
        rw [List.filter_cons_of_neg (by simpa using hk), hout]
      | ok next =>
        obtain ⟨hrun, hout⟩ := ih (((apply_sets hb).sameAt_of_ne hk).trans h)
        refine ⟨hrun, ?_⟩
        rw [List.filter_cons_of_neg (by simpa using hk), hout]

/-- Two lists of calls have the same effect: a call fails in both or in none, with one error, and
they lead to the same builder and to the same text. -/
structure Commute (b : SelectBuilder) (calls others : List SelectCall) : Prop where
  outcomes : ∀ k, (b.outcomes calls).filter (·.1.clause = k) =
    (b.outcomes others).filter (·.1.clause = k)
  builders : b.run calls = b.run others
  compiled : ∀ client : Client, client.compile (.select (b.run calls).query) =
    client.compile (.select (b.run others).query)

theorem commute_of_interleaved (b : SelectBuilder) {calls others : List SelectCall}
    (h : Interleaved calls others) : b.Commute calls others := by
  have hsame : ∀ k, (b.run calls).SameAt (b.run others) k := by
    intro k
    have hcalls := (run_filter (SameAt.refl b k) calls).1
    have hothers := (run_filter (SameAt.refl b k) others).1
    rw [h k] at hcalls
    exact hcalls.trans hothers.symm
  have hrun : b.run calls = b.run others :=
    eq_of_sameAt ((run_table b calls).trans (run_table b others).symm) hsame
  refine ⟨fun k => ?_, hrun, fun client => by rw [hrun]⟩
  rw [(run_filter (SameAt.refl b k) calls).2, (run_filter (SameAt.refl b k) others).2, h k]

theorem interleaved_joins {call : SelectCall} {joins : List SelectCall}
    (hc : call.clause ≠ .joins) (hj : ∀ j ∈ joins, j.clause = .joins) :
    Interleaved (call :: joins) (joins ++ [call]) := by
  intro k
  by_cases hk : call.clause = k
  · have hnone : joins.filter (·.clause = k) = [] := by
      refine List.filter_eq_nil_iff.mpr fun j hm => ?_
      rw [hj j hm]
      simpa [← hk] using Ne.symm hc
    rw [List.filter_cons_of_pos (by simpa using hk), List.filter_append, hnone,
      List.filter_cons_of_pos (by simpa using hk)]
    rfl
  · rw [List.filter_cons_of_neg (by simpa using hk), List.filter_append,
      List.filter_cons_of_neg (by simpa using hk)]
    exact (List.append_nil _).symm

/-- Calls that differ only in how those for different clauses mix commute. So a call may name a
table that is joined only later. -/
theorem run_interleaved (b : SelectBuilder) {calls others : List SelectCall}
    (h : Interleaved calls others) :
    b.Commute calls others ∧
      ∀ call joins, call.clause ≠ .joins → (∀ j ∈ joins, j.clause = .joins) →
        b.Commute (call :: joins) (joins ++ [call]) :=
  ⟨commute_of_interleaved b h, fun _ _ hc hj =>
    commute_of_interleaved b (interleaved_joins hc hj)⟩

def published : Condition :=
  .comparison "p.published" .equal (.bool true)

def joinOfPosts : SelectCall :=
  .join .inner (.str "posts AS p") (.str "id") (.str "author")

/-- Calls that name the table of posts before it is joined, one of which fails. -/
def namedFirst : List SelectCall :=
  [.filter (.value (.condition published)) .null .null, .limit (.int (-1)), joinOfPosts,
    .limit (.int 10)]

def joinedFirst : List SelectCall :=
  [joinOfPosts, .limit (.int (-1)), .limit (.int 10),
    .filter (.value (.condition published)) .null .null]

theorem run_interleaved_namedFirst : ∃ b, start (.str "users") = .ok b ∧
    Interleaved namedFirst joinedFirst ∧ b.Commute namedFirst joinedFirst ∧
    (b.outcomes namedFirst).map Prod.snd =
      [none, some (.operand (.countNegative .limit) (.int (-1))), none, none] := by
  have hposts : TableRef.parse (.str "posts AS p") = .ok ⟨"posts", some "p"⟩ :=
    TableRef.parse_aliased rfl (by decide) (by decide) (by decide) rfl rfl rfl
  have hstart : start (.str "users") =
      .ok ⟨{ table := ⟨"users", none⟩ }, { tables := [⟨"users", none⟩] }⟩ :=
    start_bare (by decide) (by decide) (by decide)
  have hjoin : apply ⟨{ table := ⟨"users", none⟩, filter := some published },
      { tables := [⟨"users", none⟩] }⟩ joinOfPosts =
      .ok ⟨{ table := ⟨"users", none⟩, filter := some published,
             joins := [⟨.inner, ⟨"posts", some "p"⟩, "id", "author"⟩] },
        { tables := [⟨"users", none⟩, ⟨"posts", some "p"⟩] }⟩ := by
    rw [joinOfPosts, apply, hposts, plainColumn_bare (by decide) (by decide) (by decide),
      plainColumn_bare (by decide) (by decide) (by decide)]
    rfl
  have hmixed : Interleaved namedFirst joinedFirst := by
    intro k
    cases k <;> rfl
  refine ⟨_, hstart, hmixed, (run_interleaved _ hmixed).1, ?_⟩
  have hfilter : apply ⟨{ table := ⟨"users", none⟩ }, { tables := [⟨"users", none⟩] }⟩
      (.filter (.value (.condition published)) .null .null) =
      .ok ⟨{ table := ⟨"users", none⟩, filter := some published },
        { tables := [⟨"users", none⟩] }⟩ := rfl
  have hnegative : ∀ b : SelectBuilder, b.apply (.limit (.int (-1))) =
      .error (.operand (.countNegative .limit) (.int (-1))) := fun _ => rfl
  have hten : ∀ b : SelectBuilder, b.apply (.limit (.int 10)) =
      .ok { b with query := { b.query with limit := some 10 } } := fun _ => rfl
  simp only [namedFirst, outcomes, hfilter, hnegative, hjoin, hten]
  rfl

end SelectBuilder

end QueryBuilder
