import QueryBuilder.Text.Blank
import QueryBuilder.Text.Digit

/-!
Integers as text spells them: with blanks around them, a sign, zeros in front, single underscores
between the digits, and zeros behind a point.
-/
namespace QueryBuilder.Text

/-- Blanks, except the separators of the ASCII control characters. -/
def isOuterBlank (c : Char) : Bool :=
  isBlank c && !(28 ≤ c.toNat && c.toNat ≤ 31)

/-- Drops blanks at both ends, and a plus sign that no minus sign follows. -/
def unsignedText? (cs : List Char) : Option (List Char) :=
  match ((cs.dropWhile isOuterBlank).reverse.dropWhile isOuterBlank).reverse with
  | '+' :: '-' :: _ => none
  | '+' :: rest => some rest
  | rest => some rest

/-- What is left of a number behind a zero: further zeros and underscores do not count, up to a
digit or a minus sign. A point or the end keeps the character in front of it. -/
def dropZeros? (last : Char) : List Char → Option (List Char)
  | [] => some [last]
  | c :: cs =>
    if c == '0' || c == '_' then dropZeros? c cs
    else if c == '.' then some (last :: c :: cs)
    else if c.isDigit || c == '-' then some (c :: cs)
    else none

/-- Drops the zeros in front of a number, which begins with a digit. -/
def dropLeading? : List Char → Option (List Char)
  | [] => none
  | c :: cs =>
    if c == '0' then dropZeros? c cs
    else if c.isDigit then some (c :: cs)
    else none

/-- Drops the zeros in front of a number, also behind a minus sign that comes first. -/
def significant? : List Char → Option (List Char)
  | '-' :: cs => (dropLeading? cs).map ('-' :: ·)
  | cs => dropLeading? cs

/-- Drops the first point with what follows it, if that is zeros. -/
def dropFraction (cs : List Char) : List Char :=
  match cs.dropWhile (· ≠ '.') with
  | _ :: d :: ds => if (d :: ds).all (· == '0') then cs.takeWhile (· ≠ '.') else cs
  | _ => cs

/-- Drops underscores, unless one stands at an end or two stand side by side. -/
def dropUnderscores (cs : List Char) : List Char :=
  if cs.head? == some '_' || cs.getLast? == some '_' || (cs.zip cs.tail).contains ('_', '_') then cs
  else cs.filter (· ≠ '_')

/-- Digits, of which the first is no zero unless it is the only one. -/
def plainNumber? (ds : List Char) : Option Nat :=
  if ds ≠ [] && ds.all Char.isDigit && (ds.head? ≠ some '0' || ds.length == 1) then
    some (number ds)
  else none

/-- A plain number with an optional minus sign. -/
def signedNumber? : List Char → Option Int
  | '-' :: ds => (plainNumber? ds).map fun n => -(n : Int)
  | ds => (plainNumber? ds).map Int.ofNat

def integer? (s : String) : Option Int := do
  let digits ← significant? (← unsignedText? s.toList)
  signedNumber? (dropUnderscores (dropFraction digits))

end QueryBuilder.Text
