/-!
Decimal digits of every script. A placeholder number may be written in any of them.
-/
namespace QueryBuilder.Text

/-- The zeros of the decimal digit rows of Unicode; the nine characters after each follow it. -/
def digitZeros : List (Nat) :=
  [0x30, 0x660, 0x6f0, 0x7c0, 0x966, 0x9e6, 0xa66, 0xae6, 0xb66, 0xbe6, 0xc66, 0xce6, 0xd66,
   0xde6, 0xe50, 0xed0, 0xf20, 0x1040, 0x1090, 0x17e0, 0x1810, 0x1946, 0x19d0, 0x1a80, 0x1a90,
   0x1b50, 0x1bb0, 0x1c40, 0x1c50, 0xa620, 0xa8d0, 0xa900, 0xa9d0, 0xa9f0, 0xaa50, 0xabf0,
   0xff10, 0x104a0, 0x10d30, 0x11066, 0x110f0, 0x11136, 0x111d0, 0x112f0, 0x11450, 0x114d0,
   0x11650, 0x116c0, 0x11730, 0x118e0, 0x11950, 0x11c50, 0x11d50, 0x11da0, 0x16a60, 0x16ac0,
   0x16b50, 0x1d7ce, 0x1d7d8, 0x1d7e2, 0x1d7ec, 0x1d7f6, 0x1e140, 0x1e2f0, 0x1e950, 0x1fbf0]

/-- The value of a decimal digit, whatever its script. -/
def digit? (c : Char) : Option Nat :=
  (digitZeros.find? fun z => z ≤ c.toNat && c.toNat < z + 10).map (c.toNat - ·)

def isDigit (c : Char) : Bool :=
  (digit? c).isSome

/-- Reads digits as a decimal number; other characters count as zero. -/
def number (ds : List Char) : Nat :=
  ds.foldl (fun n c => 10 * n + (digit? c).getD 0) 0

/-- The most decimal digits of a number, where it is read from a text or written as one. -/
def digitLimit : Nat := 4300

/-- Reads digits as a decimal number unless there are too many. Zeros in front count. -/
def number? (ds : List Char) : Option Nat :=
  if ds.length ≤ digitLimit then some (number ds) else none

/-- Holds of numbers that can be written in decimal digits. -/
def isWritable (n : Nat) : Bool :=
  (Nat.toDigits 10 n).length ≤ digitLimit

end QueryBuilder.Text
