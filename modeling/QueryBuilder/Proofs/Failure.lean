import QueryBuilder.Proofs.Outcome

/-!
The errors that a computation can end with. An error of a composed computation is the error of one
of its parts.
-/
namespace QueryBuilder

variable {α β γ : Type}

/-- Every error of the computation has the property. -/
def FailsWith (p : Error → Prop) (x : Except Error α) : Prop :=
  ∀ e, x = .error e → p e

namespace FailsWith

variable {p : Error → Prop} {x : Except Error α}

theorem ok (a : α) : FailsWith p (.ok a) := by
  intro e he
  cases he

theorem of_ok (h : ∃ a, x = .ok a) : FailsWith p x := by
  obtain ⟨a, rfl⟩ := h
  exact ok a

theorem error {e : Error} (h : p e) : FailsWith p (.error e : Except Error α) := by
  intro e' he
  cases he
  exact h

theorem bind {f : α → Except Error β} (h : FailsWith p x)
    (hf : ∀ a, x = .ok a → FailsWith p (f a)) : FailsWith p (x >>= f) := by
  intro e he
  rcases bind_eq_error_iff.mp he with he | ⟨a, ha, he⟩
  · exact h e he
  · exact hf a ha e he

theorem andThen {f : α → β} (h : FailsWith p x) : FailsWith p (x >>= fun a => .ok (f a)) :=
  h.bind fun a _ => ok (f a)

theorem map {f : α → β} (h : FailsWith p x) : FailsWith p (x.map f) :=
  fun e he => h e (map_eq_error_iff.mp he)

theorem forEach {f : γ → Except Error β} {cs : List γ} (h : ∀ c ∈ cs, FailsWith p (f c)) :
    FailsWith p (QueryBuilder.forEach f cs) := by
  induction cs with
  | nil => exact ok []
  | cons c cs ih =>
    refine (h c (by simp)).bind fun b _ => (ih fun d hd => ?_).andThen
    exact h d (List.mem_cons_of_mem c hd)

end FailsWith

end QueryBuilder
