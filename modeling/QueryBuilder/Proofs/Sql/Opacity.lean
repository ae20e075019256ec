import QueryBuilder.Proofs.Sql.PredicateAlike
import QueryBuilder.Sql.Compile

/-!
Bound values never show in the text: two statements that differ in nothing else compile to one text
with as many parameters.
-/
namespace QueryBuilder

variable {ctx : Context}

theorem fields_columns {fs gs : List (String × Value)} (h : AlikeFields fs gs) :
    fs.map Prod.fst = gs.map Prod.fst := by
  induction h with
  | nil => rfl
  | cons hf _ ih => rw [List.map_cons, List.map_cons, hf.1, ih]

theorem rows_columns {rows rows' : List Row} (h : List.Forall₂ AlikeFields rows rows') :
    (rows.flatMap fun row => row.map Prod.fst) = rows'.flatMap fun row => row.map Prod.fst := by
  induction h with
  | nil => rfl
  | cons hr _ ih => rw [List.flatMap_cons, List.flatMap_cons, fields_columns hr, ih]

/-- Rows have values in the same columns, and these are alike. -/
theorem lookup_alike {fs gs : List (String × Value)} (h : AlikeFields fs gs) (column : String) :
    Option.Rel Value.Alike (fs.lookup column) (gs.lookup column) := by
  induction h with
  | nil => exact .none
  | @cons f g _ _ hf _ ih =>
    obtain ⟨name, v⟩ := f
    obtain ⟨name', w⟩ := g
    obtain ⟨rfl, hv⟩ := hf
    rw [List.lookup_cons, List.lookup_cons]
    by_cases hc : (column == name) = true
    · rw [hc]
      exact .some hv
    · simp only [hc]
      exact ih

namespace Context

theorem clauses_same (xss : List (List Piece)) :
    List.Forall₂ (List.Forall₂ Piece.Alike) xss xss :=
  List.forall₂_same.mpr fun ps _ => pieces_same ps

theorem filterClause_alike {f g : Option Condition} (h : Option.Rel Condition.Alike f g) :
    BothOk (List.Forall₂ (List.Forall₂ Piece.Alike)) (ctx.filterClause f) (ctx.filterClause g) := by
  cases h with
  | none => exact .ok .nil
  | some h =>
    exact (predicate_alike h).bind fun ps qs hs => .ok (.cons (.cons (.text _) hs) .nil)

theorem selectClauses_alike {q r : SelectQuery} (h : q.Alike r) :
    BothOk (List.Forall₂ (List.Forall₂ Piece.Alike)) (ctx.selectClauses q)
      (ctx.selectClauses r) := by
  obtain ⟨ht, hj, hi, hf, ho, hl, hs⟩ := h
  unfold selectClauses
  rw [ht, hj, hi, ho, hl, hs]
  refine .bind_same fun select => .bind_same fun joins => (filterClause_alike hf).bind ?_
  intro filter filter' hfilter
  refine .bind_same fun order => .bind_same fun limit => .bind_same fun offset => .ok ?_
  exact List.rel_append (List.rel_append (List.rel_append (List.rel_append (clauses_same _) hfilter)
    (clauses_same _)) (clauses_same _)) (clauses_same _)

theorem row_alike {columns : List String} {row row' : Row} (h : AlikeFields row row') :
    BothOk (List.Forall₂ Piece.Alike) (ctx.row columns row) (ctx.row columns row') := by
  have hcells : BothOk (List.Forall₂ Piece.Alike) (forEach (ctx.cell row) columns)
      (forEach (ctx.cell row') columns) := by
    refine BothOk.forEach (List.forall₂_same.mpr fun _ _ => rfl) fun column column' he => ?_
    subst he
    have hl := lookup_alike h column
    unfold cell
    generalize row.lookup column = v at hl ⊢
    generalize row'.lookup column = w at hl ⊢
    cases hl with
    | none => exact .ok (.text _)
    | some h => exact operand_alike h
  refine hcells.bind fun ps qs hpq => .ok ?_
  refine .cons (.text _) (List.rel_append ?_ (.cons (.text _) .nil))
  refine Piece.separated_alike ?_
  rw [List.forall₂_map_left_iff, List.forall₂_map_right_iff]
  exact hpq.imp fun p q h => .cons h .nil

theorem insertClause_alike {q r : InsertQuery} (h : q.Alike r) :
    BothOk (List.Forall₂ Piece.Alike) (ctx.insertClause q) (ctx.insertClause r) := by
  have hcolumns : q.columns = r.columns := congrArg List.eraseDups (rows_columns h.rows)
  have hempty : q.rows.isEmpty = r.rows.isEmpty := by
    rw [Bool.eq_iff_iff, List.isEmpty_iff_length_eq_zero, List.isEmpty_iff_length_eq_zero,
      h.rows.length_eq]
  unfold insertClause
  simp only [hcolumns, hempty, h.table]
  split
  next => exact .error_left
  next =>
    refine .bind_same fun names => (BothOk.forEach h.rows fun row row' => row_alike).bind ?_
    exact fun rows rows' hrows => .ok (.cons (.text _) (Piece.separated_alike hrows))

theorem assignment_alike {values : Context} {u u' : String × Value}
    (h : u.1 = u'.1 ∧ u.2.Alike u'.2) :
    BothOk (List.Forall₂ Piece.Alike) (ctx.assignment values u) (ctx.assignment values u') := by
  unfold assignment
  rw [h.1]
  exact .bind_same fun column => (operand_alike h.2).bind fun p q hpq =>
    .ok (.cons (.text _) (.cons hpq .nil))

theorem conflictClause_alike {c d : ConflictClause} (h : c.Alike d) :
    BothOk (List.Forall₂ Piece.Alike) (ctx.conflictClause c) (ctx.conflictClause d) := by
  have htarget : ctx.conflictTarget c = ctx.conflictTarget d := by
    rw [conflictTarget, conflictTarget, h.columns, h.constraint]
  have hempty : c.updates.isEmpty = d.updates.isEmpty := by
    rw [Bool.eq_iff_iff, List.isEmpty_iff_length_eq_zero, List.isEmpty_iff_length_eq_zero,
      h.updates.length_eq]
  unfold conflictClause
  rw [htarget, h.action, hempty]
  refine .bind_same fun values => .bind_same fun target => ?_
  split
  next => exact .ok (.cons (.text _) .nil)
  next => exact .ok (.cons (.text _) .nil)
  next => exact .error_left
  next =>
    split
    next => exact .error_left
    next =>
      refine (BothOk.forEach h.updates fun u u' => assignment_alike).bind fun xss yss hs => .ok ?_
      exact .cons (.text _) (Piece.separated_alike hs)

theorem conflictClauses_alike {c d : Option ConflictClause}
    (h : Option.Rel ConflictClause.Alike c d) :
    BothOk (List.Forall₂ (List.Forall₂ Piece.Alike)) (ctx.conflictClauses c)
      (ctx.conflictClauses d) := by
  cases h with
  | none => exact .ok .nil
  | some h => exact (conflictClause_alike h).bind fun ps qs hs => .ok (.cons hs .nil)

theorem insertClauses_alike {q r : InsertQuery} (h : q.Alike r) :
    BothOk (List.Forall₂ (List.Forall₂ Piece.Alike)) (ctx.insertClauses q)
      (ctx.insertClauses r) := by
  unfold insertClauses
  rw [h.returning]
  refine (insertClause_alike h).bind fun insert insert' hi => ?_
  refine (conflictClauses_alike h.conflict).bind fun conflict conflict' hc => ?_
  exact .bind_same fun returning => .ok (.cons hi (List.rel_append hc (clauses_same returning)))

end Context

namespace Client

/-- Statements that differ in bound values only have one text and as many parameters. -/
theorem text_hides_values {client : Client} {s t : Statement} {a b : Compiled} (h : s.Alike t)
    (ha : client.compile s = .ok a) (hb : client.compile t = .ok b) :
    a.sql = b.sql ∧ a.parameters.length = b.parameters.length := by
  have hclauses : BothOk (List.Forall₂ (List.Forall₂ Piece.Alike)) (client.clauses s)
      (client.clauses t) := by
    cases h with
    | @select q r h =>
      have htables : q.tables = r.tables := by
        rw [SelectQuery.tables, SelectQuery.tables, h.table, h.joins]
      change BothOk _ (client.context q.tables >>= fun ctx => ctx.selectClauses q)
        (client.context r.tables >>= fun ctx => ctx.selectClauses r)
      rw [htables]
      exact .bind_same fun ctx => Context.selectClauses_alike h
    | @insert q r h =>
      change BothOk _ (client.context [q.table] >>= fun ctx => ctx.insertClauses q)
        (client.context [r.table] >>= fun ctx => ctx.insertClauses r)
      rw [h.table]
      exact .bind_same fun ctx => Context.insertClauses_alike h
  obtain ⟨ps, hps, rfl⟩ := map_eq_ok_iff.mp ha
  obtain ⟨qs, hqs, rfl⟩ := map_eq_ok_iff.mp hb
  have hpieces : BothOk (List.Forall₂ Piece.Alike) (client.pieces s) (client.pieces t) :=
    hclauses.map fun xss yss hs => Piece.separated_alike hs
  exact Piece.renderAll_alike (hpieces ps qs hps hqs) client.dialect 0

/-- A search for a name among the given identifiers. -/
def searchQuery (name : String) (ids : List Int) (status : Value) : SelectQuery :=
  { table := ⟨"users", none⟩
    filter := some (.logical .and
      [.comparison "name" .equal (.str name), .comparison "id" .isIn (.list (ids.map .int)),
        .raw "status = $1" [status]]) }

theorem searchQuery_alike (name name' : String) {ids ids' : List Int} (status status' : Value)
    (h : ids.length = ids'.length) :
    (searchQuery name ids status).Alike (searchQuery name' ids' status') := by
  have hids : List.Forall₂ Value.Alike (ids.map Value.int) (ids'.map Value.int) := by
    rw [List.forall₂_map_left_iff, List.forall₂_map_right_iff, List.forall₂_iff_get]
    exact ⟨h, fun i _ _ => .bound rfl rfl⟩
  have hname : Comparison.equal.AlikeOperands (.str name) (.str name') := .bound rfl rfl
  have hfilter : AlikeAll
      [.comparison "name" .equal (.str name), .comparison "id" .isIn (.list (ids.map .int)),
        .raw "status = $1" [status]]
      [.comparison "name" .equal (.str name'), .comparison "id" .isIn (.list (ids'.map .int)),
        .raw "status = $1" [status']] :=
    .cons (.comparison hname) (.cons (.comparison hids) (.cons (.raw rfl) .nil))
  exact ⟨rfl, rfl, rfl, .some (.logical hfilter), rfl, rfl, rfl⟩

/-- A quote and a placeholder in the values stay out of the text. -/
theorem text_hides_values_searchQuery :
    ∃ a b, (ofSettings {} none).compile (.select (searchQuery "ann" [1, 2] .null)) = .ok a ∧
      (ofSettings {} none).compile (.select (searchQuery "' OR $1 --" [3, 4] (.str "x"))) = .ok b ∧
      a.sql = b.sql ∧ a.parameters.length = b.parameters.length := by
  let text := "SELECT * FROM users WHERE (name = $1 AND id IN ($2, $3) AND status = $4)"
  have ha : ((ofSettings {} none).compile
      (.select (searchQuery "ann" [1, 2] .null))).toOption.map Compiled.sql = some text := by
    decide +kernel
  have hb : ((ofSettings {} none).compile
      (.select (searchQuery "' OR $1 --" [3, 4] (.str "x")))).toOption.map Compiled.sql =
        some text := by
    decide +kernel
  obtain ⟨a, ha, _⟩ := exists_ok_of_toOption ha
  obtain ⟨b, hb, _⟩ := exists_ok_of_toOption hb
  have halike : (searchQuery "ann" [1, 2] .null).Alike
      (searchQuery "' OR $1 --" [3, 4] (.str "x")) :=
    searchQuery_alike _ _ _ _ rfl
  exact ⟨a, b, ha, hb, text_hides_values (.select halike) ha hb⟩

end Client

end QueryBuilder
