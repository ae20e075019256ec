/-!
Blank characters and trimming. Every parser of this library separates words by these characters.
-/
namespace QueryBuilder.Text

/-- The separators and spaces of Unicode: they part words and are trimmed from both ends. -/
def isBlank (c : Char) : Bool :=
  let n := c.toNat
  (9 ≤ n && n ≤ 13) || (28 ≤ n && n ≤ 32) || n == 0x85 || n == 0xa0 || n == 0x1680 ||
    (0x2000 ≤ n && n ≤ 0x200a) || n == 0x2028 || n == 0x2029 || n == 0x202f || n == 0x205f ||
    n == 0x3000

/-- The blanks of ASCII, as bytes; its separators do not count there. -/
def isBlankByte (b : UInt8) : Bool :=
  (9 ≤ b && b ≤ 13) || b == 32

/-- Removes the blanks at both ends. -/
def trimChars (cs : List Char) : List Char :=
  ((cs.dropWhile isBlank).reverse.dropWhile isBlank).reverse

def trim (s : String) : String :=
  String.ofList (trimChars s.toList)

/-- Holds of a text without any other character than blanks. -/
def isBlankText (s : String) : Bool :=
  s.toList.all isBlank

theorem isBlankText_cons {c : Char} (h : isBlank c = false) (cs : List Char) :
    isBlankText (String.ofList (c :: cs)) = false := by
  rw [isBlankText, String.toList_ofList, List.all_cons, h, Bool.false_and]

theorem trimChars_eq_self_of_all {cs : List Char} (h : ∀ c ∈ cs, isBlank c = false) :
    trimChars cs = cs := by
  have keep : ∀ l : List Char, (∀ c ∈ l, isBlank c = false) → l.dropWhile isBlank = l := by
    intro l hl
    cases l with
    | nil => rfl
    | cons c r => simp [hl c (by simp)]
  rw [trimChars, keep cs h, keep _ (by simpa using h), List.reverse_reverse]

end QueryBuilder.Text
