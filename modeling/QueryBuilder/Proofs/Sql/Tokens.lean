import QueryBuilder.Proofs.Outcome
import QueryBuilder.Sql.Predicate

/-!
Rows of tokens written one after the other.
-/
namespace QueryBuilder.Context

variable {ctx : Context} {ps : List Piece}

@[simp] theorem tokens_nil : ctx.tokens [] = .ok [] :=
  rfl

theorem tokens_cons_eq_ok {t : LogicToken} {ts : List LogicToken} :
    ctx.tokens (t :: ts) = .ok ps ↔
      ∃ xs ys, ctx.token t = .ok xs ∧ ctx.tokens ts = .ok ys ∧ xs ++ ys = ps := by
  cases ht : ctx.token t <;> cases hs : forEach ctx.token ts <;>
    simp [tokens, forEach, ht, hs, bind, Except.bind, Except.map]

/-- Two rows are written if both are, one after the other. -/
theorem tokens_append_eq_ok {ts us : List LogicToken} :
    ctx.tokens (ts ++ us) = .ok ps ↔
      ∃ xs ys, ctx.tokens ts = .ok xs ∧ ctx.tokens us = .ok ys ∧ xs ++ ys = ps := by
  induction ts generalizing ps with
  | nil => simp
  | cons t ts ih =>
    simp only [List.cons_append, tokens_cons_eq_ok, ih]
    constructor
    · rintro ⟨xs, _, ht, ⟨ys, zs, hy, hz, rfl⟩, rfl⟩
      exact ⟨xs ++ ys, zs, ⟨xs, ys, ht, hy, rfl⟩, hz, by simp⟩
    · rintro ⟨_, zs, ⟨xs, ys, ht, hy, rfl⟩, hz, rfl⟩
      exact ⟨xs, ys ++ zs, ht, ⟨ys, zs, hy, hz, rfl⟩, by simp⟩

/-- A token that is plain text is written as it is. -/
theorem tokens_text_eq_ok {t : LogicToken} {ts : List LogicToken} {s : String}
    (ht : ctx.token t = .ok [.text s]) :
    ctx.tokens (t :: ts) = .ok ps ↔ ∃ ys, ctx.tokens ts = .ok ys ∧ .text s :: ys = ps := by
  rw [tokens_cons_eq_ok, ht]
  constructor
  · rintro ⟨_, ys, hx, hy, rfl⟩
    cases hx
    exact ⟨ys, hy, rfl⟩
  · rintro ⟨ys, hy, rfl⟩
    exact ⟨_, ys, rfl, hy, rfl⟩

end QueryBuilder.Context
