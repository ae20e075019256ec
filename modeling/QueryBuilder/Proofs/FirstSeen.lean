import Mathlib.Data.List.Induction
import Mathlib.Data.List.Nodup

/-!
The items of a list, each once, in the order in which they are first seen.
-/
namespace QueryBuilder

variable {α : Type} [DecidableEq α]

/-- An item at the end is seen there first just if it is new. -/
theorem eraseDups_concat (l : List α) (a : α) :
    (l ++ [a]).eraseDups = if a ∈ l then l.eraseDups else l.eraseDups ++ [a] := by
  rw [List.eraseDups_append]
  by_cases ha : a ∈ l
  · have hnone : [a].removeAll l = [] := by simp [List.removeAll, ha]
    rw [hnone, if_pos ha]
    simp
  · have hkept : [a].removeAll l = [a] := by simp [List.removeAll, ha]
    rw [hkept, if_neg ha, List.eraseDups_cons]
    simp

theorem nodup_eraseDups (l : List α) : l.eraseDups.Nodup := by
  induction l using List.reverseRecOn with
  | nil => simp
  | append_singleton l a ih =>
    rw [eraseDups_concat]
    split
    next => exact ih
    next ha =>
      have hne : ∀ b ∈ l.eraseDups, b ≠ a := fun b hb =>
        ne_of_mem_of_not_mem (List.mem_eraseDups.mp hb) ha
      exact List.nodup_append.mpr ⟨ih, by simp, by simpa using hne⟩

/-- Items are fewer than their occurrences, unless each occurs once. -/
theorem length_eraseDups_iff (l : List α) : l.eraseDups.length = l.length ↔ l.Nodup := by
  have hle : ∀ l : List α, l.eraseDups.length ≤ l.length := by
    intro l
    induction l using List.reverseRecOn with
    | nil => simp
    | append_singleton l a ih =>
      rw [eraseDups_concat, List.length_append]
      split
      next => omega
      next =>
        rw [List.length_append]
        omega
  induction l using List.reverseRecOn with
  | nil => simp
  | append_singleton l a ih =>
    have hl := hle l
    rw [eraseDups_concat, List.nodup_append, List.length_append, List.length_singleton]
    by_cases ha : a ∈ l
    · have hlen : l.eraseDups.length ≠ l.length + 1 := by omega
      simp only [ha, if_true, hlen, false_iff]
      rintro ⟨_, _, hne⟩
      exact hne a ha a (by simp) rfl
    · have hne : ∀ b ∈ l, b ≠ a := fun b hb => ne_of_mem_of_not_mem hb ha
      simpa [ha, ← ih] using fun _ => hne

/-- Of two items the one that comes first was seen first. -/
theorem eraseDups_firstSeen (l : List α) :
    l.eraseDups.Pairwise fun a b => l.idxOf a < l.idxOf b := by
  induction l using List.reverseRecOn with
  | nil => simp
  | append_singleton l a ih =>
    have hkeep : ∀ {b : α}, b ∈ l.eraseDups → (l ++ [a]).idxOf b = l.idxOf b := fun hb =>
      List.idxOf_append_of_mem (List.mem_eraseDups.mp hb)
    have hold : l.eraseDups.Pairwise fun b c => (l ++ [a]).idxOf b < (l ++ [a]).idxOf c := by
      refine ih.imp_of_mem fun hb hc hlt => ?_
      rw [hkeep hb, hkeep hc]
      exact hlt
    rw [eraseDups_concat]
    split
    next => exact hold
    next ha =>
      refine List.pairwise_append.mpr ⟨hold, by simp, fun b hb c hc => ?_⟩
      cases List.mem_singleton.mp hc
      rw [hkeep hb, List.idxOf_append_of_notMem ha]
      have hlt := List.idxOf_lt_length_of_mem (List.mem_eraseDups.mp hb)
      omega

end QueryBuilder
