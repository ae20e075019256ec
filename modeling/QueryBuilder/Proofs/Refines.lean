import QueryBuilder.Proofs.Outcome

/-!
One computation made good by another. Wherever the first succeeds, so does the second, and their
results are related; what relates the parts relates the whole. The first may also be known to fail
like the second, but for errors of its own.
-/
namespace QueryBuilder

variable {ε α β γ δ : Type}

/-- Whenever the first computation succeeds, so does the second, with a related result. -/
def Refines (r : α → β → Prop) (x : Except ε α) (y : Except ε β) : Prop :=
  ∀ a, x = .ok a → ∃ b, y = .ok b ∧ r a b

namespace Refines

variable {r : α → β → Prop} {s : γ → δ → Prop} {x : Except ε α} {y : Except ε β}

theorem ok {a : α} {b : β} (h : r a b) : Refines r (.ok a : Except ε α) (.ok b) := by
  intro _ ha
  cases ha
  exact ⟨b, rfl, h⟩

theorem error {e : ε} : Refines r (.error e) y := by
  intro _ ha
  cases ha

theorem same {r : α → α → Prop} (hr : ∀ a, r a a) (x : Except ε α) : Refines r x x :=
  fun a ha => ⟨a, ha, hr a⟩

theorem bind {f : α → Except ε γ} {g : β → Except ε δ} (h : Refines r x y)
    (hf : ∀ a b, r a b → Refines s (f a) (g b)) : Refines s (x >>= f) (y >>= g) := by
  intro c hc
  obtain ⟨a, ha, hc⟩ := bind_eq_ok_iff.mp hc
  obtain ⟨b, hb, hr⟩ := h a ha
  obtain ⟨d, hd, hs⟩ := hf a b hr c hc
  exact ⟨d, bind_eq_ok_iff.mpr ⟨b, hb, hd⟩, hs⟩

/-- Two computations that begin in the same way. -/
theorem bind_same {x : Except ε α} {f : α → Except ε γ} {g : α → Except ε δ}
    (hf : ∀ a, x = .ok a → Refines s (f a) (g a)) : Refines s (x >>= f) (x >>= g) := by
  cases x with
  | error e => exact error
  | ok a => exact hf a rfl

theorem map {f : α → γ} {g : β → δ} (h : Refines r x y) (hf : ∀ a b, r a b → s (f a) (g b)) :
    Refines s (x.map f) (y.map g) := by
  intro c hc
  obtain ⟨a, ha, rfl⟩ := map_eq_ok_iff.mp hc
  obtain ⟨b, hb, hr⟩ := h a ha
  exact ⟨g b, map_eq_ok_iff.mpr ⟨b, hb, rfl⟩, hf a b hr⟩

end Refines

/-- The second computation makes the first good, and the first has no errors of its own but those
of the given kind. -/
structure Narrows (p : ε → Prop) (r : α → β → Prop) (x : Except ε α) (y : Except ε β) : Prop where
  refines : Refines r x y
  error : ∀ e, x = .error e → p e ∨ y = .error e

namespace Narrows

variable {p : ε → Prop} {r : α → β → Prop} {s : γ → δ → Prop} {x : Except ε α} {y : Except ε β}

theorem ok {a : α} {b : β} (h : r a b) : Narrows p r (.ok a : Except ε α) (.ok b) := by
  refine ⟨.ok h, fun e he => ?_⟩
  cases he

theorem refuse {e : ε} (h : p e) : Narrows p r (.error e) y := by
  refine ⟨.error, fun e' he => ?_⟩
  cases he
  exact Or.inl h

theorem fail (e : ε) : Narrows p r (.error e : Except ε α) (.error e) := by
  refine ⟨.error, fun e' he => ?_⟩
  cases he
  exact Or.inr rfl

theorem same {r : α → α → Prop} (hr : ∀ a, r a a) (x : Except ε α) : Narrows p r x x :=
  ⟨.same hr x, fun _ => Or.inr⟩

theorem mono {q : α → β → Prop} (h : Narrows p r x y) (hrq : ∀ a b, r a b → q a b) :
    Narrows p q x y := by
  refine ⟨fun a ha => ?_, h.error⟩
  obtain ⟨b, hb, hr⟩ := h.refines a ha
  exact ⟨b, hb, hrq a b hr⟩

theorem bind_ok {f : α → Except ε γ} {g : β → Except ε δ} (h : Narrows p r x y)
    (hf : ∀ a b, x = .ok a → y = .ok b → r a b → Narrows p s (f a) (g b)) :
    Narrows p s (x >>= f) (y >>= g) := by
  constructor
  · intro c hc
    obtain ⟨a, ha, hc⟩ := bind_eq_ok_iff.mp hc
    obtain ⟨b, hb, hr⟩ := h.refines a ha
    obtain ⟨d, hd, hs⟩ := (hf a b ha hb hr).refines c hc
    exact ⟨d, bind_eq_ok_iff.mpr ⟨b, hb, hd⟩, hs⟩
  · intro e he
    rcases bind_eq_error_iff.mp he with he | ⟨a, ha, he⟩
    · exact (h.error e he).imp id fun hy => bind_eq_error_iff.mpr (Or.inl hy)
    · obtain ⟨b, hb, hr⟩ := h.refines a ha
      exact ((hf a b ha hb hr).error e he).imp id fun hg =>
        bind_eq_error_iff.mpr (Or.inr ⟨b, hb, hg⟩)

theorem bind {f : α → Except ε γ} {g : β → Except ε δ} (h : Narrows p r x y)
    (hf : ∀ a b, r a b → Narrows p s (f a) (g b)) : Narrows p s (x >>= f) (y >>= g) :=
  h.bind_ok fun a b _ _ => hf a b

/-- Two computations that begin in the same way. -/
theorem bind_same {x : Except ε α} {f : α → Except ε γ} {g : α → Except ε δ}
    (hf : ∀ a, x = .ok a → Narrows p s (f a) (g a)) : Narrows p s (x >>= f) (x >>= g) := by
  cases x with
  | error e => exact fail e
  | ok a => exact hf a rfl

/-- Two computations of which the first parts have the same result. -/
theorem bind_eq {x y : Except ε α} {f : α → Except ε γ} {g : α → Except ε δ}
    (h : Narrows p Eq x y) (hf : ∀ a, Narrows p s (f a) (g a)) :
    Narrows p s (x >>= f) (y >>= g) :=
  h.bind fun a _ hab => hab ▸ hf a

theorem map {f : α → γ} {g : β → δ} (h : Narrows p r x y) (hf : ∀ a b, r a b → s (f a) (g b)) :
    Narrows p s (x.map f) (y.map g) := by
  refine ⟨h.refines.map hf, fun e he => ?_⟩
  exact (h.error e (map_eq_error_iff.mp he)).imp id map_eq_error_iff.mpr

theorem map_eq {x y : Except ε α} (h : Narrows p Eq x y) (f : α → γ) :
    Narrows p Eq (x.map f) (y.map f) :=
  h.map fun _ _ => congrArg f

theorem andThen_eq {x y : Except ε α} (h : Narrows p Eq x y) (f : α → γ) :
    Narrows p Eq (x >>= fun a => .ok (f a)) (y >>= fun a => .ok (f a)) :=
  h.bind_eq fun _ => ok rfl

theorem forEach {p : Error → Prop} {f : α → Except Error γ} {g : β → Except Error δ} {as : List α}
    {bs : List β} (h : List.Forall₂ (fun a b => Narrows p s (f a) (g b)) as bs) :
    Narrows p (List.Forall₂ s) (QueryBuilder.forEach f as) (QueryBuilder.forEach g bs) := by
  induction h with
  | nil => exact ok .nil
  | cons hr _ ih => exact hr.bind fun c d hcd => ih.bind fun cs ds hs => ok (.cons hcd hs)

theorem forEach_eq {p : Error → Prop} {f g : α → Except Error γ} {as : List α}
    (h : ∀ a ∈ as, Narrows p Eq (f a) (g a)) :
    Narrows p Eq (QueryBuilder.forEach f as) (QueryBuilder.forEach g as) := by
  refine (forEach (List.forall₂_same.mpr h)).mono fun cs ds hs => ?_
  rwa [List.forall₂_eq_eq_eq] at hs

end Narrows

end QueryBuilder
