import QueryBuilder.Text.Digit

/-!
Tokens of SQL text: quoted regions, numbered placeholders, and every other character by itself.
The tokens of a text spell the text, so renumbering placeholders changes nothing else.
-/
namespace QueryBuilder.Text

inductive SqlToken where
  | quoted (chars : List Char)
  | placeholder (digits : List Char)
  | plain (char : Char)

def SqlToken.chars : SqlToken → List Char
  | .quoted cs => cs
  | .placeholder ds => '$' :: ds
  | .plain c => [c]

/-- Splits behind the quote that ends a region, where a doubled quote stands for one inside. If a
doubled quote is followed by no end, its first half is the end. -/
def splitRegion (mark : Char) : List Char → Option (List Char × List Char)
  | [] => none
  | c :: cs =>
    if c ≠ mark then (splitRegion mark cs).map fun p => (c :: p.1, p.2)
    else
      match cs with
      | [] => some ([c], [])
      | d :: ds =>
        if d ≠ mark then some ([c], d :: ds)
        else
          match splitRegion mark ds with
          | some p => some (c :: d :: p.1, p.2)
          | none => some ([c], d :: ds)

theorem append_of_splitRegion {mark : Char} {cs region rest : List Char}
    (h : splitRegion mark cs = some (region, rest)) : region ++ rest = cs := by
  fun_induction splitRegion mark cs generalizing region rest with
  | case1 => simp at h
  | case2 c cs hc ih =>
    obtain ⟨p, hp, he⟩ := Option.map_eq_some_iff.mp h
    cases he
    simp [ih hp]
  | case3 c hc =>
    cases h
    rfl
  | case4 c hc d ds hd =>
    cases h
    rfl
  | case5 c hc d ds hd p hp ih =>
    cases h
    simp [ih hp]
  | case6 c hc d ds hd hn ih =>
    cases h
    rfl

theorem length_of_splitRegion {mark : Char} {cs region rest : List Char}
    (h : splitRegion mark cs = some (region, rest)) : rest.length ≤ cs.length := by
  have := congrArg List.length (append_of_splitRegion h)
  simp at this
  omega

/-- Reads SQL text from left to right. A quote without an end is an ordinary character. -/
def sqlTokens : List Char → List SqlToken
  | [] => []
  | c :: cs =>
    if c = '\'' ∨ c = '"' then
      match h : splitRegion c cs with
      | some (region, rest) =>
        have := length_of_splitRegion h
        .quoted (c :: region) :: sqlTokens rest
      | none => .plain c :: sqlTokens cs
    else if c = '$' ∧ (cs.takeWhile isDigit) ≠ [] then
      have := (List.dropWhile_sublist isDigit (l := cs)).length_le
      .placeholder (cs.takeWhile isDigit) :: sqlTokens (cs.dropWhile isDigit)
    else .plain c :: sqlTokens cs
termination_by cs => cs.length

/-- Holds unless the token is a placeholder whose number has too many digits to be read. -/
def SqlToken.isReadable : SqlToken → Bool
  | .placeholder ds => (number? ds).isSome
  | _ => true

/-- Holds of texts in which the numbers of all placeholders can be read. -/
def isReadable (sql : String) : Bool :=
  (sqlTokens sql.toList).all SqlToken.isReadable

/-- The tokens of a text spell the text. -/
theorem flatMap_chars_sqlTokens (cs : List Char) : (sqlTokens cs).flatMap SqlToken.chars = cs := by
  fun_induction sqlTokens cs with
  | case1 => rfl
  | case2 c cs hq region rest h _ ih =>
    simp [SqlToken.chars, ih, append_of_splitRegion h]
  | case3 c cs hq h ih => simp [SqlToken.chars, ih]
  | case4 c cs hq hd _ ih => simp [SqlToken.chars, ih, hd.1]
  | case5 c cs hq hd ih => simp [SqlToken.chars, ih]

end QueryBuilder.Text
