import QueryBuilder.Proofs.Text.Words

/-!
Lists in SQL text. A list ends at a mark outside of quotes, and commas outside of quotes stand
between its items.
-/
namespace QueryBuilder.Text

/-- Reads lexemes up to a mark outside of quotes: what stands before it, and the text behind it. -/
def lexemesTo (mark : Char) : List Char → Option (List Lexeme × List Char)
  | [] => none
  | c :: cs =>
    if c = mark then some ([], cs)
    else if isQuote c then
      match h : readQuoted c cs with
      | some (content, rest) =>
        have := length_of_readQuoted h
        (lexemesTo mark rest).map fun p => (.quoted c content :: p.1, p.2)
      | none => none
    else (lexemesTo mark cs).map fun p => (.char c :: p.1, p.2)
termination_by cs => cs.length

/-- The items between commas, without the blanks in front of them. -/
def listed (ls : List Lexeme) : List (List Lexeme) :=
  (ls.splitOn (.char ',')).map fun item => item.dropWhile (· = .char ' ')

section lexemesTo

variable {mark c : Char} {cs xs rest content : List Char} {ls : List Lexeme}

theorem lexemesTo_mark (cs : List Char) : lexemesTo mark (mark :: cs) = some ([], cs) := by
  rw [lexemesTo, if_pos rfl]

theorem lexemesTo_quoted (hne : c ≠ mark) (hc : isQuote c = true)
    (h : readQuoted c cs = some (content, rest)) :
    lexemesTo mark (c :: cs) =
      (lexemesTo mark rest).map fun p => (.quoted c content :: p.1, p.2) := by
  rw [lexemesTo, if_neg hne, if_pos hc]
  split
  next h' =>
    cases h.symm.trans h'
    rfl
  next h' => cases h.symm.trans h'

theorem lexemesTo_char (hne : c ≠ mark) (hc : isQuote c = false) (cs : List Char) :
    lexemesTo mark (c :: cs) = (lexemesTo mark cs).map fun p => (.char c :: p.1, p.2) := by
  rw [lexemesTo, if_neg hne, if_neg (by simp [hc])]

theorem length_of_lexemesTo (h : lexemesTo mark cs = some (ls, rest)) :
    rest.length < cs.length := by
  fun_induction lexemesTo mark cs generalizing ls with
  | case1 => cases h
  | case2 cs =>
    cases h
    simp
  | case3 c cs hne hq content after hr hlt ih =>
    obtain ⟨p, hp, he⟩ := Option.map_eq_some_iff.mp h
    cases he
    have hafter := ih hp
    simp only [List.length_cons]
    omega
  | case4 => cases h
  | case5 c cs hne hq ih =>
    obtain ⟨p, hp, he⟩ := Option.map_eq_some_iff.mp h
    cases he
    have hrest := ih hp
    simp only [List.length_cons]
    omega

/-- A text in which the mark stands in quotes only is read up to the mark behind it. -/
theorem lexemesTo_append (hm : isBreak mark = true) (hx : lexemes xs = some ls)
    (hn : Lexeme.char mark ∉ ls) (rest : List Char) :
    lexemesTo mark (xs ++ mark :: rest) = some (ls, rest) := by
  have hquote : isQuote mark = false := (isBreak_iff.mp hm).1
  -- the mark can neither double a quote nor be a digit behind a dollar sign
  have hseam : ∀ ys : List Char, Seam ys (mark :: rest) := by
    intro ys y _ z hz
    cases hz
    refine ⟨?_, by simp [(isBreak_iff.mp hm).2.1]⟩
    rintro ⟨hy, rfl⟩
    simp [hquote] at hy
  fun_induction lexemes xs generalizing ls with
  | case1 =>
    cases hx
    exact lexemesTo_mark rest
  | case2 c cs hq content after hr _ ih =>
    obtain ⟨ls, hl, rfl⟩ := Option.map_eq_some_iff.mp hx
    have hne : c ≠ mark := by
      rintro rfl
      simp [hquote] at hq
    have hquoted := readQuoted_append hq hr (hseam cs)
    rw [List.cons_append, lexemesTo_quoted hne hq hquoted, ih hl fun h => hn (by simp [h])]
    rfl
  | case3 => cases hx
  | case4 c cs hq ih =>
    obtain ⟨ls, hl, rfl⟩ := Option.map_eq_some_iff.mp hx
    have hne : c ≠ mark := by
      rintro rfl
      exact hn (by simp)
    rw [List.cons_append, lexemesTo_char hne (by simpa using hq), ih hl fun h => hn (by simp [h])]
    rfl

end lexemesTo

section listed

def comma : List Lexeme :=
  [.char ',', .char ' ']

variable {items : List (List Lexeme)}

theorem notMem_intercalate_comma {l : Lexeme} (hl : l ∉ comma) (hi : ∀ item ∈ items, l ∉ item) :
    l ∉ comma.intercalate items := by
  induction items with
  | nil => simp
  | cons item items ih =>
    have hrest := ih fun m hm => hi m (by simp [hm])
    cases items with
    | nil => simpa using hi
    | cons next items =>
      rw [List.intercalate_cons_cons]
      simpa only [List.mem_append, not_or] using ⟨⟨hi item (by simp), hl⟩, hrest⟩

theorem intercalate_comma (item : List Lexeme) (items : List (List Lexeme)) :
    comma.intercalate (item :: items) =
      [Lexeme.char ','].intercalate (item :: items.map (Lexeme.char ' ' :: ·)) := by
  induction items generalizing item with
  | nil => rfl
  | cons next items ih =>
    rw [List.map_cons, List.intercalate_cons_cons, List.intercalate_cons_cons, ih]
    cases items with
    | nil => simp [comma]
    | cons _ _ => simp [comma, List.intercalate_cons_cons]

/-- Items without commas, none of which begins with a blank, are read back from their list. -/
theorem listed_intercalate (hne : items ≠ [])
    (hc : ∀ item ∈ items, Lexeme.char ',' ∉ item ∧ item.head? ≠ some (.char ' ')) :
    listed (comma.intercalate items) = items := by
  have hdrop : ∀ item ∈ items, item.dropWhile (· = .char ' ') = item := by
    intro item hm
    cases item with
    | nil => rfl
    | cons l ls =>
      have hl : l ≠ .char ' ' := by simpa using (hc _ hm).2
      simp [hl]
  cases items with
  | nil => exact absurd rfl hne
  | cons item items =>
    have hsplit : ([Lexeme.char ','].intercalate
        (item :: items.map (Lexeme.char ' ' :: ·))).splitOn (.char ',') =
        item :: items.map (Lexeme.char ' ' :: ·) := by
      refine List.splitOn_intercalate _ (fun l hl => ?_) (by simp)
      rcases List.mem_cons.mp hl with rfl | hl
      · exact (hc l (by simp)).1
      · obtain ⟨m, hm, rfl⟩ := List.mem_map.mp hl
        simpa using (hc m (by simp [hm])).1
    have hrest : items.map (fun m => m.dropWhile (· = .char ' ')) = items :=
      List.map_congr_left (fun m hm => hdrop m (by simp [hm])) |>.trans (List.map_id items)
    rw [listed, intercalate_comma, hsplit, List.map_cons, hdrop item (by simp), List.map_map]
    refine congrArg (item :: ·) (Eq.trans ?_ hrest)
    exact List.map_congr_left fun m _ => by simp

variable {α : Type} {f : α → String} {g : α → List Lexeme}

theorem lexemes_intercalate {as : List α} (h : ∀ a ∈ as, lexemes (f a).toList = some (g a)) :
    lexemes (", ".intercalate (as.map f)).toList = some (comma.intercalate (as.map g)) := by
  have hcomma : lexemes ", ".toList = some comma :=
    lexemes_plain (List.forall_mem_cons.mpr ⟨rfl, List.forall_mem_singleton.mpr rfl⟩)
  induction as with
  | nil => simp [lexemes_nil]
  | cons a as ih =>
    cases as with
    | nil => simpa using h a (by simp)
    | cons b bs =>
      have hrest := ih fun c hc => h c (by simp [hc])
      have hhead := lexemes_append (h a (by simp)) hcomma
        (seam_of_isBreak (Or.inr (by decide)))
      rw [← String.toList_append] at hhead
      have hall := lexemes_append hhead hrest
        (seam_of_isBreak (Or.inl (endsWithBreak_append (by decide))))
      rw [← String.toList_append] at hall
      rw [List.map_cons, List.map_cons, List.map_cons, List.map_cons,
        String.intercalate_cons_cons, List.intercalate_cons_cons, ← List.map_cons, ← List.map_cons,
        hall]

end listed

end QueryBuilder.Text
