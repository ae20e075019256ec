import QueryBuilder.Error

/-!
Numbers in texts. A number of too many digits is neither read from a text nor written as one.
-/
namespace QueryBuilder

/-- The number that digits spell. -/
def readNumber (digits : List Char) : Except Error Nat :=
  match Text.number? digits with
  | some n => .ok n
  | none => .error .tooManyDigits

/-- The decimal digits of a number. -/
def writeNumber (n : Nat) : Except Error String :=
  if Text.isWritable n then .ok (toString n) else .error .tooManyDigits

/-- The text of a value, if there is one for each integer in it. -/
def Value.written (v : Value) : Except Error String :=
  if v.isWritable then .ok v.text else .error .tooManyDigits

end QueryBuilder
