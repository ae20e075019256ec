import QueryBuilder.Proofs.Text.Lexeme

/-!
What the tokens of a text are, said without the scan that finds them. From left to right, a quoted
text or a numbered placeholder is taken where one begins, and each as long as it can be; any other
character stands by itself. A text has one such list of tokens, whatever its quotes are.
-/
namespace QueryBuilder.Text

namespace SqlToken

/-- A text between two marks with every mark inside doubled, or a dollar sign with digits. -/
inductive Matches : SqlToken → Prop
  | quoted {mark : Char} (hm : isQuote mark = true) (content : List Char) :
      Matches (.quoted (mark :: (content.flatMap (Text.doubled mark) ++ [mark])))
  | placeholder {digits : List Char} (hn : digits ≠ []) (hd : ∀ c ∈ digits, isDigit c = true) :
      Matches (.placeholder digits)

/-- The longest match at the beginning of a text. -/
structure Leads (t : SqlToken) (cs : List Char) : Prop where
  isMatch : t.Matches
  isPrefix : t.chars <+: cs
  longest : ∀ u : SqlToken, u.Matches → u.chars <+: cs → u.chars.length ≤ t.chars.length

end SqlToken

/-- The tokens are found in the text from left to right, each match as long as it can be. -/
inductive Scans : List SqlToken → List Char → Prop
  | nil : Scans [] []
  | token {t : SqlToken} {ts : List SqlToken} {cs : List Char} (h : t.Leads cs)
      (hrest : Scans ts (cs.drop t.chars.length)) : Scans (t :: ts) cs
  | plain {c : Char} {ts : List SqlToken} {cs : List Char}
      (h : ∀ u : SqlToken, u.Matches → ¬ u.chars <+: c :: cs) (hrest : Scans ts cs) :
      Scans (.plain c :: ts) (c :: cs)

/-- Where a quoted text begins there is a region, and no shorter one. -/
theorem splitRegion_of_content {mark : Char} {content cs : List Char}
    (h : content.flatMap (doubled mark) ++ [mark] <+: cs) :
    ∃ region rest, splitRegion mark cs = some (region, rest) ∧
      content.flatMap (doubled mark) ++ [mark] <+: region := by
  -- On the content, as the scan reads a doubled mark in one step.
  induction content generalizing cs with
  | nil =>
    obtain ⟨ds, rfl⟩ := h
    cases ds with
    | nil => exact ⟨[mark], [], by simp [splitRegion], by simp⟩
    | cons d ds =>
      by_cases hd : d = mark
      · subst hd
        cases hs : splitRegion d ds with
        | none => exact ⟨[d], d :: ds, by simp [splitRegion, hs], by simp⟩
        | some p => exact ⟨d :: d :: p.1, p.2, by simp [splitRegion, hs], by simp⟩
      · exact ⟨[mark], d :: ds, by simp [splitRegion, hd], by simp⟩
  | cons c content ih =>
    obtain ⟨ds, rfl⟩ := h
    obtain ⟨region, rest, hs, hp⟩ := ih (List.prefix_append _ ds)
    rw [List.append_assoc, List.singleton_append] at hs
    by_cases hc : c = mark
    · subst hc
      exact ⟨c :: c :: region, rest, by simp [splitRegion, doubled, hs],
        by simpa [doubled] using hp⟩
    · exact ⟨c :: region, rest, by simp [doubled, hc, splitRegion_of_ne hc, hs],
        by simpa [doubled, hc] using hp⟩

/-- Digits at the beginning of a text are among the longest run of digits there. -/
theorem length_le_takeWhile {ds cs : List Char} (hd : ∀ c ∈ ds, isDigit c = true)
    (h : ds <+: cs) : ds.length ≤ (cs.takeWhile isDigit).length := by
  obtain ⟨es, rfl⟩ := h
  rw [List.takeWhile_append_of_pos hd, List.length_append]
  omega

namespace SqlToken

variable {t u : SqlToken} {c : Char} {cs : List Char}

theorem isQuote_dollar : isQuote '$' = false := by
  decide

/-- Behind a quote there is no placeholder, but what a quoted text has behind its first mark. -/
theorem Matches.of_quote (ht : t.Matches) (hc : isQuote c = true) (h : t.chars <+: c :: cs) :
    ∃ content : List Char, t = .quoted (c :: (content.flatMap (Text.doubled c) ++ [c])) ∧
      content.flatMap (Text.doubled c) ++ [c] <+: cs := by
  cases ht with
  | quoted _ content =>
    obtain ⟨rfl, hp⟩ := List.cons_prefix_cons.mp h
    exact ⟨content, rfl, hp⟩
  | placeholder =>
    obtain ⟨rfl, _⟩ := List.cons_prefix_cons.mp h
    rw [isQuote_dollar] at hc
    cases hc

/-- What begins with no quote is a placeholder. -/
theorem Matches.of_not_quote (ht : t.Matches) (hc : isQuote c = false) (h : t.chars <+: c :: cs) :
    c = '$' ∧ ∃ digits, t = .placeholder digits ∧ digits ≠ [] ∧
      (∀ d ∈ digits, isDigit d = true) ∧ digits <+: cs := by
  cases ht with
  | quoted hm =>
    obtain ⟨rfl, _⟩ := List.cons_prefix_cons.mp h
    rw [hc] at hm
    cases hm
  | placeholder hn hd =>
    obtain ⟨rfl, hp⟩ := List.cons_prefix_cons.mp h
    exact ⟨rfl, _, rfl, hn, hd, hp⟩

theorem Matches.ne_nil (ht : t.Matches) : t.chars ≠ [] := by
  cases ht <;> simp [chars]

theorem Matches.eq_of_chars (ht : t.Matches) (hu : u.Matches) (h : t.chars = u.chars) : t = u := by
  have hstart : u.chars <+: t.chars := h ▸ List.prefix_rfl
  cases ht with
  | quoted hm =>
    obtain ⟨content, rfl, _⟩ := hu.of_quote hm hstart
    exact congrArg SqlToken.quoted h
  | placeholder =>
    obtain ⟨_, digits, rfl, _⟩ := hu.of_not_quote isQuote_dollar hstart
    exact congrArg SqlToken.placeholder (List.cons.inj h).2

theorem Leads.unique (ht : t.Leads cs) (hu : u.Leads cs) : t = u := by
  have hle := hu.longest t ht.isMatch ht.isPrefix
  have hge := ht.longest u hu.isMatch hu.isPrefix
  have hstart := List.prefix_of_prefix_length_le ht.isPrefix hu.isPrefix hle
  exact ht.isMatch.eq_of_chars hu.isMatch (hstart.eq_of_length (by omega))

end SqlToken

open SqlToken

/-- A text has no two lists of tokens. -/
theorem Scans.unique {ts us : List SqlToken} {cs : List Char} (ht : Scans ts cs)
    (hu : Scans us cs) : us = ts := by
  induction ht generalizing us with
  | nil =>
    cases hu with
    | nil => rfl
    | token h => exact absurd (List.prefix_nil.mp h.isPrefix) h.isMatch.ne_nil
  | token h _ ih =>
    cases hu with
    | nil => exact absurd (List.prefix_nil.mp h.isPrefix) h.isMatch.ne_nil
    | token h' hrest' =>
      cases h.unique h'
      rw [ih hrest']
    | plain h' => exact absurd h.isPrefix (h' _ h.isMatch)
  | plain h _ ih =>
    cases hu with
    | token h' => exact absurd h'.isPrefix (h _ h'.isMatch)
    | plain _ hrest' => rw [ih hrest']

/-- A match in front of a text is a token of both together if no longer one begins there. -/
theorem Scans.lead {t : SqlToken} {ts : List SqlToken} {cs rest : List Char} (ht : t.Matches)
    (hcs : t.chars ++ rest = cs)
    (hlongest : ∀ u : SqlToken, u.Matches → u.chars <+: cs → u.chars.length ≤ t.chars.length)
    (hrest : Scans ts rest) : Scans (t :: ts) cs := by
  subst hcs
  refine .token ⟨ht, List.prefix_append _ _, hlongest⟩ ?_
  rwa [List.drop_left]

theorem scans_sqlTokens (cs : List Char) : Scans (sqlTokens cs) cs := by
  fun_induction sqlTokens cs with
  | case1 => exact .nil
  | case2 c cs hq region rest h _ ih =>
    have hq := isQuote_iff.mpr hq
    have hcs := append_of_splitRegion h
    obtain ⟨content, rfl⟩ := content_of_splitRegion h
    refine .lead (.quoted hq content) (congrArg (c :: ·) hcs) (fun u hu hp => ?_) ih
    obtain ⟨body, rfl, hbody⟩ := hu.of_quote hq hp
    obtain ⟨region, _, hs, hregion⟩ := splitRegion_of_content hbody
    cases h.symm.trans hs
    exact Nat.succ_le_succ hregion.length_le
  | case3 c cs hq h ih =>
    have hq := isQuote_iff.mpr hq
    refine .plain (fun u hu hp => ?_) ih
    obtain ⟨body, _, hbody⟩ := hu.of_quote hq hp
    obtain ⟨_, _, hs, _⟩ := splitRegion_of_content hbody
    cases h.symm.trans hs
  | case4 c cs hq hd _ ih =>
    obtain ⟨rfl, hn⟩ := hd
    have hdigits : ∀ c ∈ cs.takeWhile isDigit, isDigit c = true :=
      List.all_eq_true.mp List.all_takeWhile
    have hcs : cs.takeWhile isDigit ++ cs.dropWhile isDigit = cs :=
      List.takeWhile_append_dropWhile
    refine .lead (.placeholder hn hdigits) (congrArg ('$' :: ·) hcs) (fun u hu hp => ?_) ih
    obtain ⟨_, digits, rfl, _, hall, hstart⟩ := hu.of_not_quote isQuote_dollar hp
    exact Nat.succ_le_succ (length_le_takeWhile hall hstart)
  | case5 c cs hq hd ih =>
    have hq : isQuote c = false := by simpa [isQuote] using hq
    refine .plain (fun u hu hp => ?_) ih
    obtain ⟨rfl, digits, _, hn, hall, hstart⟩ := hu.of_not_quote hq hp
    have hle := length_le_takeWhile hall hstart
    have hpos := List.length_pos_iff.mpr hn
    exact hd ⟨rfl, List.length_pos_iff.mp (by omega)⟩

/-- The scan finds the tokens of a text, and no others are there to find. -/
theorem scans_iff {ts : List SqlToken} {cs : List Char} : Scans ts cs ↔ ts = sqlTokens cs := by
  constructor
  · exact (scans_sqlTokens cs).unique
  · rintro rfl
    exact scans_sqlTokens cs

end QueryBuilder.Text
