import Mathlib.Data.List.Basic
import QueryBuilder.Text.Sql

/-!
Scanning SQL text in parts. The tokens of two texts put together are the tokens of both, if no quote
is left open in the first and the two do not touch inside a token.
-/
namespace QueryBuilder.Text

def isQuote (c : Char) : Bool :=
  c == '\'' || c == '"'

namespace SqlToken

/-- Holds of a quote that no region begins with. -/
def isLooseQuote : SqlToken → Bool
  | .plain c => isQuote c
  | _ => false

end SqlToken

/-- Every quote of the text belongs to a region. -/
def Closed (cs : List Char) : Prop :=
  ∀ t ∈ sqlTokens cs, t.isLooseQuote = false

/-- The two texts do not touch inside a token: no quote meets its like, and no digit follows a digit
or a dollar sign. -/
def Seam (xs ys : List Char) : Prop :=
  ∀ x ∈ xs.getLast?, ∀ y ∈ ys.head?,
    ¬ (isQuote x = true ∧ y = x) ∧ ¬ ((x = '$' ∨ isDigit x = true) ∧ isDigit y = true)

theorem Seam.of_append {xs xs' ys : List Char} (h : Seam (xs ++ xs') ys) : Seam xs' ys := by
  intro x hx
  refine h x ?_
  rw [List.getLast?_append, hx]
  rfl

theorem Seam.of_cons {c : Char} {xs ys : List Char} (h : Seam (c :: xs) ys) : Seam xs ys := by
  have ha : Seam ([c] ++ xs) ys := h
  exact ha.of_append

theorem isDigit_of_isQuote {c : Char} (h : isQuote c = true) : isDigit c = false := by
  simp only [isQuote, Bool.or_eq_true, beq_iff_eq] at h
  rcases h with rfl | rfl <;> decide

theorem isQuote_of_isDigit {c : Char} (h : isDigit c = true) : isQuote c = false := by
  by_contra hq
  simp [isDigit_of_isQuote (by simpa using hq)] at h

theorem isQuote_iff {c : Char} : isQuote c = true ↔ c = '\'' ∨ c = '"' := by
  simp [isQuote]

theorem splitRegion_of_ne {mark c : Char} (hc : c ≠ mark) (cs : List Char) :
    splitRegion mark (c :: cs) = (splitRegion mark cs).map fun p => (c :: p.1, p.2) := by
  rw [splitRegion.eq_def]
  simp [hc]

/-- A region ends where it did, whatever follows, unless the rest begins with its mark. -/
theorem splitRegion_append {mark : Char} {cs ys region rest : List Char}
    (hm : isQuote mark = true) (h : splitRegion mark cs = some (region, rest))
    (hr : ∀ ds, rest ≠ mark :: ds) (hs : Seam cs ys) :
    splitRegion mark (cs ++ ys) = some (region, rest ++ ys) := by
  fun_induction splitRegion mark cs generalizing region rest with
  | case1 => cases h
  | case2 c cs hc ih =>
    obtain ⟨p, hp, he⟩ := Option.map_eq_some_iff.mp h
    cases he
    simp [splitRegion_of_ne hc, ih hp hr hs.of_cons]
  | case3 c hc =>
    cases h
    have hc : c = mark := by simpa using hc
    subst hc
    cases ys with
    | nil => simp [splitRegion]
    | cons y ys =>
      have hy : y ≠ c := fun hy => (hs c rfl y rfl).1 ⟨hm, hy⟩
      simp [splitRegion, hy]
  | case4 c hc d ds hd =>
    cases h
    simp [splitRegion, hc, hd]
  | case5 c hc d ds hd p hp ih =>
    cases h
    have hds : Seam ds ys := hs.of_cons.of_cons
    simp [splitRegion, hc, hd, ih hp hr hds]
  | case6 c hc d ds hd hn ih =>
    cases h
    have hd : d = mark := by simpa using hd
    exact absurd (hd ▸ rfl) (hr ds)

section tokens

variable {c : Char} {cs region rest : List Char}

theorem sqlTokens_region (hc : isQuote c = true) (h : splitRegion c cs = some (region, rest)) :
    sqlTokens (c :: cs) = .quoted (c :: region) :: sqlTokens rest := by
  rw [sqlTokens, if_pos (isQuote_iff.mp hc)]
  split
  next r s h' =>
    cases h.symm.trans h'
    rfl
  next h' => cases h.symm.trans h'

theorem sqlTokens_loose (hc : isQuote c = true) (h : splitRegion c cs = none) :
    sqlTokens (c :: cs) = .plain c :: sqlTokens cs := by
  rw [sqlTokens, if_pos (isQuote_iff.mp hc)]
  split
  next r s h' => cases h.symm.trans h'
  next => rfl

theorem sqlTokens_placeholder (h : cs.takeWhile isDigit ≠ []) :
    sqlTokens ('$' :: cs) =
      .placeholder (cs.takeWhile isDigit) :: sqlTokens (cs.dropWhile isDigit) := by
  rw [sqlTokens, if_neg (by decide), if_pos ⟨rfl, h⟩]

theorem sqlTokens_plain (hc : isQuote c = false)
    (h : ¬ (c = '$' ∧ cs.takeWhile isDigit ≠ [])) :
    sqlTokens (c :: cs) = .plain c :: sqlTokens cs := by
  have hq : ¬ (c = '\'' ∨ c = '"') := by
    rw [← isQuote_iff, hc]
    simp
  rw [sqlTokens, if_neg hq, if_neg h]

end tokens

/-- The four ways in which a text begins with a token. -/
theorem sqlTokens_cases (c : Char) (cs : List Char) :
    (∃ region rest, isQuote c = true ∧ splitRegion c cs = some (region, rest)) ∨
      (isQuote c = true ∧ splitRegion c cs = none) ∨
      (c = '$' ∧ cs.takeWhile isDigit ≠ []) ∨
      (isQuote c = false ∧ ¬ (c = '$' ∧ cs.takeWhile isDigit ≠ [])) := by
  by_cases hq : isQuote c = true
  · cases h : splitRegion c cs with
    | none => exact Or.inr (Or.inl ⟨hq, rfl⟩)
    | some p => exact Or.inl ⟨p.1, p.2, hq, rfl⟩
  · by_cases hd : c = '$' ∧ cs.takeWhile isDigit ≠ []
    · exact Or.inr (Or.inr (Or.inl hd))
    · exact Or.inr (Or.inr (Or.inr ⟨by simpa using hq, hd⟩))

/-- Only a region that ends before a quote without an end is followed by its mark. -/
theorem splitRegion_eq_none {mark : Char} {cs region ds : List Char}
    (h : splitRegion mark cs = some (region, mark :: ds)) : splitRegion mark ds = none := by
  fun_induction splitRegion mark cs generalizing region with
  | case1 => cases h
  | case2 c cs hc ih =>
    obtain ⟨p, hp, he⟩ := Option.map_eq_some_iff.mp h
    cases p
    cases he
    exact ih hp
  | case3 c hc => cases h
  | case4 c hc d ds hd =>
    cases h
    exact absurd rfl hd
  | case5 c hc d ds hd p hp ih =>
    cases p
    cases h
    exact ih hp
  | case6 c hc d ds hd hn ih =>
    cases h
    exact hn

theorem closed_nil : Closed [] := by
  simp [Closed, sqlTokens]

/-- Closed texts consist of regions, each followed by something other than its mark, of placeholders
and of characters that are no quotes. -/
@[elab_as_elim]
theorem Closed.induction {motive : (cs : List Char) → Closed cs → Prop}
    (nil : motive [] closed_nil)
    (region : ∀ c cs region rest h (hrest : Closed rest), isQuote c = true →
      splitRegion c cs = some (region, rest) → (∀ ds, rest ≠ c :: ds) → motive rest hrest →
      motive (c :: cs) h)
    (placeholder : ∀ cs h (hrest : Closed (cs.dropWhile isDigit)), cs.takeWhile isDigit ≠ [] →
      motive (cs.dropWhile isDigit) hrest → motive ('$' :: cs) h)
    (plain : ∀ c cs h (hrest : Closed cs), isQuote c = false →
      ¬ (c = '$' ∧ cs.takeWhile isDigit ≠ []) → motive cs hrest → motive (c :: cs) h)
    {cs : List Char} (h : Closed cs) : motive cs h := by
  induction hn : cs.length using Nat.strongRecOn generalizing cs with
  | ind n ih =>
    cases cs with
    | nil => exact nil
    | cons c cs =>
      have below : ∀ {t : SqlToken} {ds : List Char}, ds.length ≤ cs.length →
          sqlTokens (c :: cs) = t :: sqlTokens ds → ∃ hd : Closed ds, motive ds hd := by
        intro t ds hl ht
        have hd : Closed ds := fun u hu => h u (by simp [ht, hu])
        refine ⟨hd, ih ds.length ?_ hd rfl⟩
        simp only [List.length_cons] at hn
        omega
      rcases sqlTokens_cases c cs with ⟨r, rest, hq, hr⟩ | ⟨hq, hr⟩ | ⟨rfl, hd⟩ | ⟨hq, hd⟩
      · obtain ⟨hrest, hm⟩ := below (length_of_splitRegion hr) (sqlTokens_region hq hr)
        refine region c cs r rest h hrest hq hr (fun ds hds => ?_) hm
        subst hds
        have hl := hrest (.plain c) (by simp [sqlTokens_loose hq (splitRegion_eq_none hr)])
        simp [SqlToken.isLooseQuote, hq] at hl
      · have hl := h (.plain c) (by simp [sqlTokens_loose hq hr])
        simp [SqlToken.isLooseQuote, hq] at hl
      · have hl := (List.dropWhile_sublist isDigit (l := cs)).length_le
        obtain ⟨hrest, hm⟩ := below hl (sqlTokens_placeholder hd)
        exact placeholder cs h hrest hd hm
      · obtain ⟨hrest, hm⟩ := below (Nat.le_refl _) (sqlTokens_plain hq hd)
        exact plain c cs h hrest hq hd hm

/-- Digits behind a dollar sign or another digit end where they did. -/
theorem digits_append {c : Char} {cs ys : List Char} (hc : c = '$' ∨ isDigit c = true)
    (hs : Seam (c :: cs) ys) :
    (cs ++ ys).takeWhile isDigit = cs.takeWhile isDigit ∧
      (cs ++ ys).dropWhile isDigit = cs.dropWhile isDigit ++ ys := by
  induction cs generalizing c with
  | nil =>
    cases ys with
    | nil => simp
    | cons y ys =>
      have hy : isDigit y = false := by
        have h := (hs c rfl y rfl).2
        simpa [hc] using h
      simp [hy]
  | cons d cs ih =>
    by_cases hd : isDigit d = true
    · simp [hd, ih (Or.inr hd) hs.of_cons]
    · simp [hd]

/-- The tokens of two texts that do not touch are the tokens of both. -/
theorem sqlTokens_append {xs ys : List Char} (hc : Closed xs) (hs : Seam xs ys) :
    sqlTokens (xs ++ ys) = sqlTokens xs ++ sqlTokens ys := by
  induction hc using Closed.induction with
  | nil => simp [sqlTokens]
  | region c cs region rest _ _ hq hr hne ih =>
    have hrest : Seam rest ys := by
      rw [← append_of_splitRegion hr] at hs
      exact hs.of_cons.of_append
    have hsplit := splitRegion_append hq hr hne hs.of_cons
    rw [List.cons_append, sqlTokens_region hq hsplit, sqlTokens_region hq hr, ih hrest,
      List.cons_append]
  | placeholder cs _ _ hd ih =>
    obtain ⟨htake, hdrop⟩ := digits_append (Or.inl rfl) hs
    have hrest : Seam (cs.dropWhile isDigit) ys := by
      rw [← List.takeWhile_append_dropWhile (p := isDigit) (l := cs)] at hs
      exact hs.of_cons.of_append
    rw [List.cons_append, sqlTokens_placeholder (htake ▸ hd), htake, hdrop,
      sqlTokens_placeholder hd, ih hrest, List.cons_append]
  | plain c cs _ _ hq hd ih =>
    have hd' : ¬ (c = '$' ∧ (cs ++ ys).takeWhile isDigit ≠ []) := by
      rintro ⟨rfl, hn⟩
      rw [(digits_append (Or.inl rfl) hs).1] at hn
      exact hd ⟨rfl, hn⟩
    rw [List.cons_append, sqlTokens_plain hq hd', sqlTokens_plain hq hd, ih hs.of_cons,
      List.cons_append]

end QueryBuilder.Text
