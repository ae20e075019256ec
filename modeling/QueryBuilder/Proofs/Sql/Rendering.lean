import QueryBuilder.Proofs.Outcome
import QueryBuilder.Sql.Clause

/-!
The text of pieces that stand in parts, with a separator between them, and the parts of a SELECT.
-/
namespace QueryBuilder

namespace Piece

/-- The texts of clauses, the first of which stands behind `offset` bound values. -/
def renderEach (d : Dialect) : Nat → List (List Piece) → List String
  | _, [] => []
  | offset, ps :: pss =>
    renderAll d offset ps :: renderEach d (offset + (bound ps).length) pss

theorem renderAll_text_cons (d : Dialect) (offset : Nat) (s : String) (ps : List Piece) :
    renderAll d offset (text s :: ps) = s ++ renderAll d offset ps := by
  rw [renderAll, render, values, List.length_nil, Nat.add_zero]

theorem bound_text_cons (s : String) (ps : List Piece) : bound (text s :: ps) = bound ps :=
  rfl

theorem renderAll_separated (d : Dialect) (w : String) (offset : Nat) (pss : List (List Piece)) :
    renderAll d offset (separated w pss) = w.intercalate (renderEach d offset pss) := by
  induction pss generalizing offset with
  | nil => rfl
  | cons ps pss ih =>
    cases pss with
    | nil => simp [separated, renderEach]
    | cons qs pss =>
      have hrest := ih (offset + (bound ps).length)
      rw [renderEach] at hrest
      rw [separated, renderAll_append, renderAll_text_cons, hrest, renderEach, renderEach,
        String.intercalate_cons_cons, String.append_assoc]

theorem bound_separated (w : String) (pss : List (List Piece)) :
    bound (separated w pss) = pss.flatMap bound := by
  induction pss with
  | nil => rfl
  | cons ps pss ih =>
    cases pss with
    | nil => simp [separated]
    | cons qs pss =>
      rw [separated, bound_append, bound_text_cons, ih, ← List.flatMap_cons]

theorem renderEach_append (d : Dialect) (offset : Nat) (pss qss : List (List Piece)) :
    renderEach d offset (pss ++ qss) =
      renderEach d offset pss ++ renderEach d (offset + (bound pss.flatten).length) qss := by
  induction pss generalizing offset with
  | nil => simp [renderEach, bound]
  | cons ps pss ih => simp [renderEach, ih, bound_append, Nat.add_assoc]

theorem renderEach_texts (d : Dialect) (offset : Nat) (ss : List String) :
    renderEach d offset (ss.map fun s => [.text s]) = ss := by
  induction ss generalizing offset with
  | nil => rfl
  | cons s ss ih => simp [renderEach, renderAll, render, ih]

end Piece

namespace Context

theorem countClause_eq_ok {word : String} {count : Option Nat} {pss : List (List Piece)}
    (h : countClause word count = .ok pss) :
    pss = count.toList.map fun n => [.text (word ++ " " ++ toString n)] := by
  cases count with
  | none =>
    cases h
    rfl
  | some n =>
    obtain ⟨digits, hdigits, h⟩ := bind_eq_ok_iff.mp h
    unfold writeNumber at hdigits
    split at hdigits
    next =>
      cases hdigits
      cases h
      rfl
    next => cases hdigits

/-- The clauses of a SELECT, each of which has been written. -/
theorem selectClauses_eq_ok {ctx : Context} {q : SelectQuery} {pss : List (List Piece)}
    (h : ctx.selectClauses q = .ok pss) : ∃ select joins filter order,
      ctx.selectClause q.items = .ok select ∧ forEach ctx.joinClause q.joins = .ok joins ∧
      ctx.filterClause q.filter = .ok filter ∧
      ctx.orderClause (outputNames q.items) q.orderBy = .ok order ∧
      pss = (select :: ("FROM " ++ ctx.tableText q.table) :: joins).map (fun s => [.text s]) ++
        filter ++ order ++ q.limit.toList.map (fun n => [.text ("LIMIT" ++ " " ++ toString n)]) ++
        q.offset.toList.map fun n => [.text ("OFFSET" ++ " " ++ toString n)] := by
  obtain ⟨select, hselect, h⟩ := bind_eq_ok_iff.mp h
  obtain ⟨joins, hjoins, h⟩ := bind_eq_ok_iff.mp h
  obtain ⟨filter, hfilter, h⟩ := bind_eq_ok_iff.mp h
  obtain ⟨order, horder, h⟩ := bind_eq_ok_iff.mp h
  obtain ⟨limit, hlimit, h⟩ := bind_eq_ok_iff.mp h
  obtain ⟨offset, hoffset, h⟩ := bind_eq_ok_iff.mp h
  cases h
  rw [countClause_eq_ok hlimit, countClause_eq_ok hoffset]
  exact ⟨select, joins, filter, order, hselect, hjoins, hfilter, horder, rfl⟩

end Context

end QueryBuilder
