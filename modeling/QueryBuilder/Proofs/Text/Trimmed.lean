import Mathlib.Data.List.TakeWhile
import QueryBuilder.Text.Blank

/-!
Texts between blanks. Trimming takes the blanks at both ends away and nothing else.
-/
namespace QueryBuilder.Text

/-- Blanks alone, perhaps none. -/
def IsBlanks (cs : List Char) : Prop :=
  ∀ c ∈ cs, isBlank c = true

/-- A text without a blank at either end. -/
structure IsTrimmed (cs : List Char) : Prop where
  head : ∀ c ∈ cs.head?, isBlank c = false
  last : ∀ c ∈ cs.getLast?, isBlank c = false

variable {before after cs : List Char}

theorem IsTrimmed.of_noBlank (h : ∀ c ∈ cs, isBlank c = false) : IsTrimmed cs :=
  ⟨fun c hc => h c (List.mem_of_mem_head? hc), fun c hc => h c (List.mem_of_getLast? hc)⟩

theorem dropWhile_blanks (hb : IsBlanks before) (hc : ∀ c ∈ cs.head?, isBlank c = false) :
    (before ++ cs).dropWhile isBlank = cs := by
  induction before with
  | nil =>
    cases cs with
    | nil => rfl
    | cons c cs => simp [hc c rfl]
  | cons b bs ih =>
    rw [List.cons_append, List.dropWhile_cons_of_pos (hb b (by simp))]
    exact ih fun c hm => hb c (List.mem_cons_of_mem b hm)

theorem isBlanks_takeWhile (cs : List Char) : IsBlanks (cs.takeWhile isBlank) :=
  fun _ hc => List.mem_takeWhile_imp hc

theorem head_dropWhile (cs : List Char) :
    ∀ c ∈ (cs.dropWhile isBlank).head?, isBlank c = false := by
  intro c hc
  have h := List.head?_dropWhile_not isBlank cs
  rw [Option.mem_def.mp hc] at h
  exact h

theorem IsBlanks.reverse (h : IsBlanks cs) : IsBlanks cs.reverse :=
  fun c hc => h c (List.mem_reverse.mp hc)

/-- What stands between blanks is left if they are trimmed. -/
theorem trimChars_append (hb : IsBlanks before) (ha : IsBlanks after) (hc : IsTrimmed cs) :
    trimChars (before ++ cs ++ after) = cs := by
  cases cs with
  | nil =>
    have hall : IsBlanks (before ++ after) := List.forall_mem_append.mpr ⟨hb, ha⟩
    have hdrop := @dropWhile_blanks _ [] hall (by simp)
    rw [List.append_nil] at hdrop
    simp [trimChars, hdrop]
  | cons c cs =>
    have hfront : (before ++ (c :: cs ++ after)).dropWhile isBlank = c :: cs ++ after :=
      dropWhile_blanks hb hc.head
    have hlast : ∀ d ∈ (c :: cs).reverse.head?, isBlank d = false := by
      rw [List.head?_reverse]
      exact hc.last
    have hback : (after.reverse ++ (c :: cs).reverse).dropWhile isBlank = (c :: cs).reverse :=
      dropWhile_blanks ha.reverse hlast
    rw [trimChars, List.append_assoc, hfront, List.reverse_append, hback, List.reverse_reverse]

theorem exists_blanks (cs : List Char) : ∃ before after, IsBlanks before ∧ IsBlanks after ∧
    cs = before ++ trimChars cs ++ after := by
  let rest := cs.dropWhile isBlank
  refine ⟨cs.takeWhile isBlank, (rest.reverse.takeWhile isBlank).reverse, isBlanks_takeWhile cs,
    (isBlanks_takeWhile _).reverse, ?_⟩
  have hrest : trimChars cs ++ (rest.reverse.takeWhile isBlank).reverse = rest := by
    rw [trimChars, ← List.reverse_append, List.takeWhile_append_dropWhile, List.reverse_reverse]
  rw [List.append_assoc, hrest]
  exact List.takeWhile_append_dropWhile.symm

theorem isTrimmed_trimChars (cs : List Char) : IsTrimmed (trimChars cs) := by
  let rest := cs.dropWhile isBlank
  refine ⟨fun c hc => ?_, fun c hc => ?_⟩
  · have hprefix : trimChars cs <+: rest := by
      have hsuffix := List.dropWhile_suffix isBlank (l := rest.reverse)
      have hreverse := List.reverse_prefix.mpr hsuffix
      rwa [List.reverse_reverse] at hreverse
    obtain ⟨after, hafter⟩ := hprefix
    refine head_dropWhile cs c ?_
    change c ∈ rest.head?
    rw [← hafter, List.head?_append, Option.mem_def.mp hc]
    rfl
  · rw [trimChars, List.getLast?_reverse] at hc
    exact head_dropWhile _ c hc

/-- A text is trimmed to nothing just if it is blank. -/
theorem trimChars_eq_nil_iff {s : String} : trimChars s.toList = [] ↔ isBlankText s = true := by
  rw [isBlankText, List.all_eq_true]
  constructor
  · intro h
    obtain ⟨before, after, hb, ha, hs⟩ := exists_blanks s.toList
    rw [h, List.append_nil] at hs
    rw [hs]
    exact List.forall_mem_append.mpr ⟨hb, ha⟩
  · intro h
    have htrim := @trimChars_append s.toList [] [] h (by simp [IsBlanks]) ⟨by simp, by simp⟩
    simpa using htrim

end QueryBuilder.Text
