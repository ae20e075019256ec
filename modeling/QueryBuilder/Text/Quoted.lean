import QueryBuilder.Text.Printable

/-!
Quoted texts and byte strings, as messages show them.
-/
namespace QueryBuilder.Text

/-- Hexadecimal digits of `n`, at least `width` of them. -/
def hex (width n : Nat) : List Char :=
  let ds := Nat.toDigits 16 n
  List.replicate (width - ds.length) '0' ++ ds

/-- Single quotes are used unless the text holds one and no double quote. -/
def quoteMark (cs : List Char) : Char :=
  if cs.contains '\'' && !cs.contains '"' then '"' else '\''

/-- A character inside quotes: hidden ones are written by number, in two, four or eight digits. -/
def quotedChar (mark c : Char) : List Char :=
  if c == mark || c == '\\' then ['\\', c]
  else if c == '\n' then ['\\', 'n']
  else if c == '\r' then ['\\', 'r']
  else if c == '\t' then ['\\', 't']
  else if isPrintable c then [c]
  else if c.toNat < 0x100 then '\\' :: 'x' :: hex 2 c.toNat
  else if c.toNat < 0x10000 then '\\' :: 'u' :: hex 4 c.toNat
  else '\\' :: 'U' :: hex 8 c.toNat

def quoteChars (cs : List Char) : List Char :=
  let mark := quoteMark cs
  mark :: cs.flatMap (quotedChar mark) ++ [mark]

def quote (s : String) : String :=
  String.ofList (quoteChars s.toList)

/-- A byte inside quotes: bytes outside ASCII are written by number. -/
def quotedByte (mark : Char) (b : UInt8) : List Char :=
  if b.toNat < 0x7f then quotedChar mark (Char.ofNat b.toNat)
  else '\\' :: 'x' :: hex 2 b.toNat

/-- A byte string, marked by a leading `b`. -/
def quoteBytes (bs : List UInt8) : String :=
  let mark := quoteMark (bs.map fun b => Char.ofNat b.toNat)
  String.ofList ('b' :: mark :: bs.flatMap (quotedByte mark) ++ [mark])

/-- A byte string that can change. Its single quotes are escaped between double quotes too. -/
def quoteByteArray (bs : List UInt8) : String :=
  let mark := quoteMark (bs.map fun b => Char.ofNat b.toNat)
  let byte (b : UInt8) : List Char :=
    if b.toNat = 0x27 then ['\\', '\''] else quotedByte mark b
  String.ofList ("bytearray(b".toList ++ mark :: bs.flatMap byte ++ [mark, ')'])

end QueryBuilder.Text
