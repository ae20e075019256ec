import QueryBuilder.Text.Digit

/-!
Decimal texts of binary floating-point numbers, read as far as whole numbers need it.
-/
namespace QueryBuilder.Text

/-- The number `digits * 10 ^ exponent`, with its sign. -/
structure Decimal where
  negative : Bool
  digits : Nat
  exponent : Int
  deriving DecidableEq, Repr

/-- Reads ASCII digits, with a sign in front. -/
def readExponent (cs : List Char) : Option Int :=
  let unsigned (ds : List Char) : Option Nat :=
    if ds ≠ [] && ds.all Char.isDigit then some (number ds) else none
  match cs with
  | '-' :: ds => (unsigned ds).map fun n => -(n : Int)
  | '+' :: ds => (unsigned ds).map Int.ofNat
  | ds => (unsigned ds).map Int.ofNat

/-- Reads digits with an optional point and an optional power of ten; infinities are no decimals. -/
def Decimal.read (cs : List Char) : Option Decimal :=
  let (negative, body) := match cs with
    | '-' :: r => (true, r)
    | r => (false, r)
  let whole := body.takeWhile Char.isDigit
  let rest := body.dropWhile Char.isDigit
  let (fraction, rest) := match rest with
    | '.' :: r => (r.takeWhile Char.isDigit, r.dropWhile Char.isDigit)
    | r => ([], r)
  if whole = [] then none
  else
    let power := match rest with
      | [] => some 0
      | 'e' :: r => readExponent r
      | _ => none
    power.map fun e => ⟨negative, number (whole ++ fraction), e - fraction.length⟩

/-- The nearest number with at most 53 binary digits; a tie goes to the even one. -/
def roundToDouble (n : Nat) : Nat :=
  let excess := n.log2 - 52
  let unit := Nat.pow 2 excess
  let q := n / unit
  let r := 2 * (n % unit)
  (if r > unit || (r == unit && q % 2 == 1) then q + 1 else q) * unit

/-- The whole number that a floating-point text denotes, if it denotes one. -/
def wholeNumber? (text : String) : Option Int := do
  let d ← Decimal.read text.toList
  let n ←
    if 0 ≤ d.exponent then some (d.digits * Nat.pow 10 d.exponent.toNat)
    else
      let unit := Nat.pow 10 (-d.exponent).toNat
      if d.digits % unit = 0 then some (d.digits / unit) else none
  let n := roundToDouble n
  some (if d.negative then -(n : Int) else n)

end QueryBuilder.Text
