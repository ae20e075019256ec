import QueryBuilder.Proofs.Outcome

/-!
Two computations side by side. What relates the results of the parts relates the results of the
whole, wherever both succeed.
-/
namespace QueryBuilder

variable {ε α β γ δ : Type}

/-- Results are related whenever both computations succeed. -/
def BothOk (r : α → β → Prop) (x : Except ε α) (y : Except ε β) : Prop :=
  ∀ a b, x = .ok a → y = .ok b → r a b

namespace BothOk

variable {r : α → β → Prop} {s : γ → δ → Prop} {x : Except ε α} {y : Except ε β}

theorem ok {a : α} {b : β} (h : r a b) : BothOk r (.ok a : Except ε α) (.ok b) := by
  intro _ _ ha hb
  cases ha
  cases hb
  exact h

theorem error_left {e : ε} : BothOk r (.error e) y := by
  intro _ _ ha
  cases ha

theorem error_right {e : ε} : BothOk r x (.error e) := by
  intro _ _ _ hb
  cases hb

/-- Each computation may be refused beforehand, on a condition of its own. -/
theorem guarded {p q : Prop} [Decidable p] [Decidable q] {e : ε} (h : BothOk r x y) :
    BothOk r (if p then .error e else x) (if q then .error e else y) := by
  split
  next => exact error_left
  next =>
    split
    next => exact error_right
    next => exact h

theorem any (x : Except ε α) (y : Except ε β) : BothOk (fun _ _ => True) x y :=
  fun _ _ _ _ => trivial

/-- One computation made twice has one result. -/
theorem same {r : α → α → Prop} (hr : ∀ a, r a a) (x : Except ε α) : BothOk r x x := by
  intro a _ ha hb
  cases ha.symm.trans hb
  exact hr a

theorem bind {f : α → Except ε γ} {g : β → Except ε δ} (h : BothOk r x y)
    (hf : ∀ a b, r a b → BothOk s (f a) (g b)) : BothOk s (x >>= f) (y >>= g) := by
  intro c d hc hd
  obtain ⟨a, ha, hc⟩ := bind_eq_ok_iff.mp hc
  obtain ⟨b, hb, hd⟩ := bind_eq_ok_iff.mp hd
  exact hf a b (h a b ha hb) c d hc hd

/-- Two computations that begin in the same way. -/
theorem bind_ok {x : Except ε α} {f : α → Except ε γ} {g : α → Except ε δ}
    (hf : ∀ a, x = .ok a → BothOk s (f a) (g a)) : BothOk s (x >>= f) (x >>= g) := by
  cases x with
  | error e => exact error_left
  | ok a => exact hf a rfl

theorem bind_same {x : Except ε α} {f : α → Except ε γ} {g : α → Except ε δ}
    (hf : ∀ a, BothOk s (f a) (g a)) : BothOk s (x >>= f) (x >>= g) :=
  bind_ok fun a _ => hf a

theorem map {f : α → γ} {g : β → δ} (h : BothOk r x y) (hf : ∀ a b, r a b → s (f a) (g b)) :
    BothOk s (x.map f) (y.map g) := by
  intro c d hc hd
  obtain ⟨a, ha, rfl⟩ := map_eq_ok_iff.mp hc
  obtain ⟨b, hb, rfl⟩ := map_eq_ok_iff.mp hd
  exact hf a b (h a b ha hb)

theorem forEach {f : α → Except Error γ} {g : β → Except Error δ} {as : List α} {bs : List β}
    (h : List.Forall₂ r as bs) (hf : ∀ a b, r a b → BothOk s (f a) (g b)) :
    BothOk (List.Forall₂ s) (QueryBuilder.forEach f as) (QueryBuilder.forEach g bs) := by
  induction h with
  | nil => exact ok .nil
  | cons hr _ ih => exact (hf _ _ hr).bind fun c d hcd => ih.bind fun cs ds hs => ok (.cons hcd hs)

end BothOk

end QueryBuilder
