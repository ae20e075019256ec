import QueryBuilder.Proofs.Text.Scan

/-!
SQL text split by the standard rule of quoting. A quoted part runs to the next mark that is not
doubled, and what it stands for is the text between with each doubled mark read as one. Every other
character stands for itself, a backslash among them.
-/
namespace QueryBuilder.Text

inductive Lexeme where
  | char (c : Char)
  | quoted (mark : Char) (content : List Char)
  deriving DecidableEq, Repr

/-- A character of a quoted part, as it is written between the marks. -/
def doubled (mark c : Char) : List Char :=
  if c = mark then [c, c] else [c]

def Lexeme.chars : Lexeme → List Char
  | char c => [c]
  | quoted mark content => mark :: content.flatMap (doubled mark) ++ [mark]

theorem flatMap_chars_map_char (cs : List Char) :
    (cs.map Lexeme.char).flatMap Lexeme.chars = cs := by
  rw [List.flatMap_map]
  exact List.flatMap_singleton' cs

/-- Reads to the end of a quoted part: what it stands for, and what follows it. -/
def readQuoted (mark : Char) : List Char → Option (List Char × List Char)
  | [] => none
  | c :: cs =>
    if c ≠ mark then (readQuoted mark cs).map fun p => (c :: p.1, p.2)
    else
      match cs with
      | [] => some ([], [])
      | d :: ds =>
        if d ≠ mark then some ([], d :: ds)
        else (readQuoted mark ds).map fun p => (d :: p.1, p.2)

section readQuoted

variable {mark : Char} {cs content rest : List Char}

theorem readQuoted_of_ne {c : Char} (hc : c ≠ mark) (cs : List Char) :
    readQuoted mark (c :: cs) = (readQuoted mark cs).map fun p => (c :: p.1, p.2) := by
  rw [readQuoted.eq_def]
  simp [hc]

theorem readQuoted_doubled_mark (cs : List Char) :
    readQuoted mark (mark :: mark :: cs) =
      (readQuoted mark cs).map fun p => (mark :: p.1, p.2) := by
  rw [readQuoted.eq_def]
  simp

/-- A mark that is not doubled is the end. -/
theorem readQuoted_mark (hr : cs.head? ≠ some mark) :
    readQuoted mark (mark :: cs) = some ([], cs) := by
  cases cs with
  | nil => simp [readQuoted]
  | cons d ds =>
    have hd : d ≠ mark := by simpa using hr
    simp [readQuoted, hd]

/-- Nothing is lost: what was read, written again, is what was there. -/
theorem append_of_readQuoted (h : readQuoted mark cs = some (content, rest)) :
    content.flatMap (doubled mark) ++ mark :: rest = cs := by
  fun_induction readQuoted mark cs generalizing content with
  | case1 => cases h
  | case2 c cs hc ih =>
    obtain ⟨p, hp, he⟩ := Option.map_eq_some_iff.mp h
    cases he
    simp [doubled, hc, ih hp]
  | case3 c hc | case4 c hc d ds hd =>
    have hc : c = mark := by simpa using hc
    cases h
    simp [hc]
  | case5 c hc d ds hd ih =>
    have hc : c = mark := by simpa using hc
    have hd : d = mark := by simpa using hd
    obtain ⟨p, hp, he⟩ := Option.map_eq_some_iff.mp h
    cases he
    simp [doubled, hc, hd, ih hp]

theorem length_of_readQuoted (h : readQuoted mark cs = some (content, rest)) :
    rest.length < cs.length := by
  have hl := congrArg List.length (append_of_readQuoted h)
  simp only [List.length_append, List.length_cons] at hl
  omega

/-- A part ends where it did, whatever follows, unless its end meets another mark. -/
theorem readQuoted_append {ys : List Char} (hm : isQuote mark = true)
    (h : readQuoted mark cs = some (content, rest)) (hs : Seam cs ys) :
    readQuoted mark (cs ++ ys) = some (content, rest ++ ys) := by
  fun_induction readQuoted mark cs generalizing content with
  | case1 => cases h
  | case2 c cs hc ih =>
    obtain ⟨p, hp, he⟩ := Option.map_eq_some_iff.mp h
    cases he
    simp [readQuoted_of_ne hc, ih hp hs.of_cons]
  | case3 c hc =>
    have hc : c = mark := by simpa using hc
    cases h
    subst hc
    refine readQuoted_mark fun hy => ?_
    exact (hs c rfl c hy).1 ⟨hm, rfl⟩
  | case4 c hc d ds hd =>
    have hc : c = mark := by simpa using hc
    cases h
    subst hc
    exact readQuoted_mark (by simpa using hd)
  | case5 c hc d ds hd ih =>
    have hc : c = mark := by simpa using hc
    have hd : d = mark := by simpa using hd
    obtain ⟨p, hp, he⟩ := Option.map_eq_some_iff.mp h
    cases he
    subst hc hd
    simp [readQuoted_doubled_mark, ih hp hs.of_cons.of_cons]

theorem readQuoted_doubled (content : List Char) (hr : rest.head? ≠ some mark) :
    readQuoted mark (content.flatMap (doubled mark) ++ mark :: rest) = some (content, rest) := by
  induction content with
  | nil => exact readQuoted_mark hr
  | cons c content ih =>
    by_cases hc : c = mark
    · subst hc
      simp [doubled, readQuoted_doubled_mark, ih]
    · simp [doubled, hc, readQuoted_of_ne, ih]

/-- A region is a text with its marks doubled and one behind it. -/
theorem content_of_splitRegion {region : List Char}
    (h : splitRegion mark cs = some (region, rest)) :
    ∃ content : List Char, region = content.flatMap (doubled mark) ++ [mark] := by
  fun_induction splitRegion mark cs generalizing region rest with
  | case1 => cases h
  | case2 c cs hc ih =>
    obtain ⟨p, hp, he⟩ := Option.map_eq_some_iff.mp h
    cases he
    obtain ⟨content, hcontent⟩ := ih hp
    refine ⟨c :: content, ?_⟩
    simp [doubled, hc, hcontent]
  | case3 c hc | case4 c hc d ds hd | case6 c hc d ds hd hn ih =>
    have hc : c = mark := by simpa using hc
    cases h
    exact ⟨[], by simp [hc]⟩
  | case5 c hc d ds hd p hp ih =>
    have hc : c = mark := by simpa using hc
    have hd : d = mark := by simpa using hd
    cases h
    obtain ⟨content, hcontent⟩ := ih hp
    refine ⟨mark :: content, ?_⟩
    simp [doubled, hc, hd, hcontent]

/-- What is a region of the tokens is a quoted part, if nothing in it is left over. -/
theorem readQuoted_of_splitRegion {region : List Char}
    (h : splitRegion mark cs = some (region, rest)) (hr : ∀ ds, rest ≠ mark :: ds) :
    ∃ content, readQuoted mark cs = some (content, rest) := by
  obtain ⟨content, rfl⟩ := content_of_splitRegion h
  have hcs := append_of_splitRegion h
  have hrest : rest.head? ≠ some mark := by
    intro he
    obtain ⟨ds, hds⟩ := List.head?_eq_some_iff.mp he
    exact hr ds hds
  rw [List.append_assoc, List.singleton_append] at hcs
  exact ⟨content, hcs ▸ readQuoted_doubled content hrest⟩

end readQuoted

/-- The lexemes of a text, unless a quoted part has no end. -/
def lexemes : List Char → Option (List Lexeme)
  | [] => some []
  | c :: cs =>
    if isQuote c then
      match h : readQuoted c cs with
      | some (content, rest) =>
        have := length_of_readQuoted h
        (lexemes rest).map (.quoted c content :: ·)
      | none => none
    else (lexemes cs).map (.char c :: ·)
termination_by cs => cs.length

section lexemes

variable {c : Char} {cs xs ys content rest : List Char} {ls ms : List Lexeme}

theorem lexemes_nil : lexemes [] = some [] := by
  rw [lexemes]

theorem lexemes_quoted (hc : isQuote c = true) (h : readQuoted c cs = some (content, rest)) :
    lexemes (c :: cs) = (lexemes rest).map (.quoted c content :: ·) := by
  rw [lexemes, if_pos hc]
  split
  next h' =>
    cases h.symm.trans h'
    rfl
  next h' => cases h.symm.trans h'

theorem lexemes_char (hc : isQuote c = false) (cs : List Char) :
    lexemes (c :: cs) = (lexemes cs).map (.char c :: ·) := by
  rw [lexemes, if_neg (by simp [hc])]

/-- Text without quotes is read character by character. -/
theorem lexemes_plain_append (h : ∀ c ∈ xs, isQuote c = false) (ys : List Char) :
    lexemes (xs ++ ys) = (lexemes ys).map (xs.map Lexeme.char ++ ·) := by
  induction xs with
  | nil => simp
  | cons x xs ih =>
    rw [List.cons_append, lexemes_char (h x (by simp)), ih fun c hc => h c (by simp [hc]),
      Option.map_map]
    rfl

theorem lexemes_plain (h : ∀ c ∈ xs, isQuote c = false) :
    lexemes xs = some (xs.map .char) := by
  simpa [lexemes_nil] using lexemes_plain_append h []

/-- The lexemes of a text spell the text. -/
theorem flatMap_chars_lexemes (h : lexemes cs = some ls) : ls.flatMap Lexeme.chars = cs := by
  fun_induction lexemes cs generalizing ls with
  | case1 =>
    cases h
    rfl
  | case2 c cs hq content rest hr _ ih =>
    obtain ⟨ls, hl, rfl⟩ := Option.map_eq_some_iff.mp h
    simp [Lexeme.chars, ih hl, append_of_readQuoted hr]
  | case3 => cases h
  | case4 c cs hq ih =>
    obtain ⟨ls, hl, rfl⟩ := Option.map_eq_some_iff.mp h
    simp [Lexeme.chars, ih hl]

/-- Two texts that do not touch inside a quoted part are read one after the other. -/
theorem lexemes_append (hx : lexemes xs = some ls) (hy : lexemes ys = some ms) (hs : Seam xs ys) :
    lexemes (xs ++ ys) = some (ls ++ ms) := by
  fun_induction lexemes xs generalizing ls with
  | case1 =>
    cases hx
    exact hy
  | case2 c cs hq content rest hr _ ih =>
    obtain ⟨ls, hl, rfl⟩ := Option.map_eq_some_iff.mp hx
    -- The seam lies behind the quoted part, so it is that of the rest.
    have hrest : Seam rest ys := by
      rw [← append_of_readQuoted hr] at hs
      exact hs.of_cons.of_append.of_cons
    rw [List.cons_append, lexemes_quoted hq (readQuoted_append hq hr hs.of_cons), ih hl hrest]
    rfl
  | case3 => cases hx
  | case4 c cs hq ih =>
    obtain ⟨ls, hl, rfl⟩ := Option.map_eq_some_iff.mp hx
    rw [List.cons_append, lexemes_char (by simpa using hq), ih hl hs.of_cons]
    rfl

/-- A quoted part is read as what it stands for, if no further mark follows it. -/
theorem lexemes_quoted_append (hc : isQuote c = true) (hr : rest.head? ≠ some c) :
    lexemes ((Lexeme.quoted c content).chars ++ rest) =
      (lexemes rest).map (.quoted c content :: ·) := by
  have hchars : (Lexeme.quoted c content).chars ++ rest =
      c :: (content.flatMap (doubled c) ++ c :: rest) := by
    simp [Lexeme.chars]
  rw [hchars, lexemes_quoted hc (readQuoted_doubled content hr)]

theorem lexemes_chars_quoted (hc : isQuote c = true) (content : List Char) :
    lexemes (Lexeme.quoted c content).chars = some [.quoted c content] := by
  have h : lexemes ((Lexeme.quoted c content).chars ++ []) = _ := lexemes_quoted_append hc (by simp)
  rwa [List.append_nil, lexemes_nil] at h

/-- A text without an open quote has lexemes. -/
theorem Closed.lexemes (h : Closed cs) : ∃ ls, lexemes cs = some ls := by
  -- Along the tokens: only a region has quotes, and no further mark follows its end.
  induction h using Closed.induction with
  | nil => exact ⟨[], lexemes_nil⟩
  | region c cs region rest _ _ hq hr hne ih =>
    obtain ⟨content, hcontent⟩ := readQuoted_of_splitRegion hr hne
    obtain ⟨ls, hl⟩ := ih
    exact ⟨.quoted c content :: ls, by rw [lexemes_quoted hq hcontent, hl, Option.map_some]⟩
  | placeholder cs _ _ _ ih =>
    obtain ⟨ls, hl⟩ := ih
    have hdigits : ∀ c ∈ cs.takeWhile isDigit, isQuote c = false := fun c hc =>
      isQuote_of_isDigit (List.all_eq_true.mp List.all_takeWhile c hc)
    refine ⟨.char '$' :: ((cs.takeWhile isDigit).map .char ++ ls), ?_⟩
    have happend := lexemes_plain_append hdigits (cs.dropWhile isDigit)
    rw [List.takeWhile_append_dropWhile, hl] at happend
    rw [lexemes_char (by decide), happend]
    rfl
  | plain c cs _ _ hq _ ih =>
    obtain ⟨ls, hl⟩ := ih
    exact ⟨.char c :: ls, by rw [lexemes_char hq, hl, Option.map_some]⟩

end lexemes

/-- What the literals of a text stand for. -/
def literals (ls : List Lexeme) : List String :=
  ls.filterMap fun
    | .quoted '\'' content => some (String.ofList content)
    | _ => none

theorem literals_append (ls ms : List Lexeme) : literals (ls ++ ms) = literals ls ++ literals ms :=
  List.filterMap_append

theorem literals_chars (cs : List Char) : literals (cs.map .char) = [] := by
  simp [literals]

/-- There are no literals in a text without their mark. -/
theorem literals_eq_nil {cs : List Char} {ls : List Lexeme} (h : lexemes cs = some ls)
    (hm : '\'' ∉ cs) : literals ls = [] := by
  refine List.filterMap_eq_nil_iff.mpr fun l hl => ?_
  have hchars : ∀ c ∈ l.chars, c ∈ cs := by
    intro c hc
    rw [← flatMap_chars_lexemes h]
    exact List.mem_flatMap.mpr ⟨l, hl, hc⟩
  split
  next => exact absurd (hchars '\'' (by simp [Lexeme.chars])) hm
  next => rfl

end QueryBuilder.Text
