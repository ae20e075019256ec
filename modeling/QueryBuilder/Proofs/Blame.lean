import QueryBuilder.Proofs.Outcome

/-!
Computations that fail for the sake of what they look up. Such a computation fails just if something
that it looks up is at fault, and its error is the fault of one of them.
-/
namespace QueryBuilder

variable {α β γ ι κ : Type}

/-- The computation succeeds only if none of the uses is at fault, and its error is that of a use
that is. -/
structure Blames (fault : ι → Error → Prop) (x : Except Error α) (uses : List ι) : Prop where
  ok : ∀ a, x = .ok a → ∀ u ∈ uses, ∀ e, ¬ fault u e
  error : ∀ e, x = .error e → ∃ u ∈ uses, fault u e

namespace Blames

variable {fault : ι → Error → Prop} {x : Except Error α} {us vs : List ι}

theorem success (a : α) : Blames fault (.ok a) [] :=
  ⟨by simp, by simp⟩

theorem of_ok (hx : ∃ a, x = .ok a) (hu : ∀ u ∈ us, ∀ e, ¬ fault u e) : Blames fault x us := by
  obtain ⟨a, rfl⟩ := hx
  exact ⟨fun _ _ => hu, by simp⟩

theorem of_error {u : ι} {e : Error} (hx : x = .error e) (hu : u ∈ us) (hf : fault u e) :
    Blames fault x us := by
  subst hx
  refine ⟨by simp, fun e' he => ⟨u, hu, ?_⟩⟩
  cases he
  exact hf

theorem bind {f : α → Except Error β} (h : Blames fault x us)
    (hf : ∀ a, x = .ok a → Blames fault (f a) vs) : Blames fault (x >>= f) (us ++ vs) := by
  constructor
  · intro b hb u hu
    obtain ⟨a, ha, hb⟩ := bind_eq_ok_iff.mp hb
    rcases List.mem_append.mp hu with hu | hu
    · exact h.ok a ha u hu
    · exact (hf a ha).ok b hb u hu
  · intro e he
    rcases bind_eq_error_iff.mp he with he | ⟨a, ha, he⟩
    · obtain ⟨u, hu, hf⟩ := h.error e he
      exact ⟨u, List.mem_append_left _ hu, hf⟩
    · obtain ⟨u, hu, hf⟩ := (hf a ha).error e he
      exact ⟨u, List.mem_append_right _ hu, hf⟩

theorem map {f : α → β} (h : Blames fault x us) : Blames fault (x.map f) us := by
  constructor
  · intro b hb
    obtain ⟨a, ha, rfl⟩ := map_eq_ok_iff.mp hb
    exact h.ok a ha
  · exact fun e he => h.error e (map_eq_error_iff.mp he)

/-- What follows a computation may look up nothing. -/
theorem bind_nil {f : α → Except Error β} (h : Blames fault x us)
    (hf : ∀ a, x = .ok a → Blames fault (f a) []) : Blames fault (x >>= f) us := by
  have hb := h.bind hf
  rwa [List.append_nil] at hb

theorem andThen {f : α → β} (h : Blames fault x us) :
    Blames fault (x >>= fun a => .ok (f a)) us :=
  h.bind_nil fun a _ => success (f a)

/-- The order of the uses does not matter, nor does their number. -/
theorem of_mem_iff (h : Blames fault x us) (hm : ∀ u, u ∈ us ↔ u ∈ vs) : Blames fault x vs := by
  constructor
  · exact fun a ha u hu => h.ok a ha u ((hm u).mpr hu)
  · intro e he
    obtain ⟨u, hu, hf⟩ := h.error e he
    exact ⟨u, (hm u).mp hu, hf⟩

theorem index {g : κ → ι} {us : List κ} (h : Blames (fun k => fault (g k)) x us) :
    Blames fault x (us.map g) := by
  constructor
  · intro a ha u hu
    obtain ⟨k, hk, rfl⟩ := List.mem_map.mp hu
    exact h.ok a ha k hk
  · intro e he
    obtain ⟨k, hk, hf⟩ := h.error e he
    exact ⟨g k, List.mem_map_of_mem hk, hf⟩

theorem forEach {f : γ → Except Error β} {g : γ → List ι} {cs : List γ}
    (h : ∀ c ∈ cs, Blames fault (f c) (g c)) :
    Blames fault (QueryBuilder.forEach f cs) (cs.flatMap g) := by
  induction cs with
  | nil => exact success []
  | cons c cs ih =>
    refine (h c (by simp)).bind fun b _ => (ih fun d hd => ?_).andThen
    exact h d (List.mem_cons_of_mem c hd)

theorem forEach_map {f : γ → Except Error β} {g : γ → ι} {cs : List γ}
    (h : ∀ c ∈ cs, Blames fault (f c) [g c]) :
    Blames fault (QueryBuilder.forEach f cs) (cs.map g) := by
  rw [List.map_eq_flatMap]
  exact forEach h

theorem exists_ok_iff (h : Blames fault x us) :
    (∃ a, x = .ok a) ↔ ∀ u ∈ us, ∀ e, ¬ fault u e := by
  constructor
  · rintro ⟨a, ha⟩
    exact h.ok a ha
  · intro hu
    cases hx : x with
    | ok a => exact ⟨a, rfl⟩
    | error e =>
      obtain ⟨u, hm, hf⟩ := h.error e hx
      exact (hu u hm e hf).elim

end Blames

end QueryBuilder
