import QueryBuilder.Text.Decimal

/-!
Reading a JSON text. The characters are put together to strings, words and marks, and these to a
value. A text that strays from the grammar has no value: strings without an end, bare control
characters and half pairs of code units have none, and words have one only if they are numbers or
names of constants.
-/
namespace QueryBuilder

/-- What a JSON text says. Numbers count as decimals, and the members of an object keep their
order. -/
inductive Json where
  | null
  | bool (b : Bool)
  | number (d : Text.Decimal)
  | string (s : String)
  | array (items : List Json)
  | object (members : List (String × Json))

namespace Json

/-- What stands for one character of a string, or for a half of one: the character itself, or a
code unit of 16 bits by its number. -/
inductive Part where
  | char (c : Char)
  | unit (n : Nat)

def isHigh (n : Nat) : Bool := 0xd800 ≤ n && n < 0xdc00

def isLow (n : Nat) : Bool := 0xdc00 ≤ n && n < 0xe000

/-- The character of two code units. -/
def paired (high low : Nat) : Char :=
  Char.ofNat (0x10000 + (high - 0xd800) * 0x400 + (low - 0xdc00))

/-- The characters of a string, behind the first half of a pair if there is one. Both halves must be
there. -/
def joinParts : Option Nat → List Part → Option (List Char)
  | none, [] => some []
  | none, .char c :: ps => (joinParts none ps).map (c :: ·)
  | none, .unit n :: ps =>
    if isHigh n then joinParts (some n) ps
    else if isLow n then none
    else (joinParts none ps).map (Char.ofNat n :: ·)
  | some high, .unit n :: ps =>
    if isLow n then (joinParts none ps).map (paired high n :: ·) else none
  | some _, _ => none

/-- What a character means behind a backslash. -/
def escaped? : Char → Option Char
  | '"' => some '"'
  | '\\' => some '\\'
  | '/' => some '/'
  | 'b' => some '\x08'
  | 'f' => some '\x0c'
  | 'n' => some '\n'
  | 'r' => some '\r'
  | 't' => some '\t'
  | _ => none

def hexDigit? (c : Char) : Option Nat :=
  if '0' ≤ c ∧ c ≤ '9' then some (c.toNat - 48)
  else if 'a' ≤ c ∧ c ≤ 'f' then some (c.toNat - 87)
  else if 'A' ≤ c ∧ c ≤ 'F' then some (c.toNat - 55)
  else none

/-- Reads a number: digits without a needless zero in front, then a fraction and a power of ten
where they are given. -/
def readNumber (cs : List Char) : Option Text.Decimal :=
  let (negative, body) := match cs with
    | '-' :: r => (true, r)
    | r => (false, r)
  let whole := body.takeWhile Char.isDigit
  let (fraction, rest) := match body.dropWhile Char.isDigit with
    | '.' :: r => (some (r.takeWhile Char.isDigit), r.dropWhile Char.isDigit)
    | r => (none, r)
  let power := match rest with
    | [] => some 0
    | 'e' :: r | 'E' :: r => Text.readExponent r
    | _ => none
  if whole = [] ∨ (whole.head? = some '0' ∧ whole ≠ ['0']) ∨ fraction = some [] then none
  else
    let fraction := fraction.getD []
    power.map fun e => ⟨negative, Text.number (whole ++ fraction), e - fraction.length⟩

/-- The value of a word. -/
def ofWord? (cs : List Char) : Option Json :=
  if cs = "null".toList then some .null
  else if cs = "true".toList then some (.bool true)
  else if cs = "false".toList then some (.bool false)
  else (readNumber cs).map .number

/-- A mark of the grammar, or a value without parts. -/
inductive Token where
  | mark (c : Char)
  | leaf (j : Json)

def wordTokens : List Char → Option (List Token)
  | [] => some []
  | cs => (ofWord? cs).map fun j => [.leaf j]

def blanks : List Char := [' ', '\t', '\n', '\r']

def marks : List Char := ['[', ']', '\x7b', '\x7d', ',', ':']

/-- What a character means that ends the word before it. -/
def delimiter? (c : Char) : Option (List Token) :=
  if c ∈ blanks then some []
  else if c ∈ marks then some [.mark c]
  else none

/-- Where a text is being read: behind the letters of a word that has begun, or inside a string,
there perhaps behind a backslash or among the digits of a code unit. -/
inductive Place where
  | word (letters : List Char)
  | string (parts : List Part)
  | escape (parts : List Part)
  | unit (parts : List Part) (count value : Nat)

/-- The tokens of a text, from a place in it on. -/
def scan : Place → List Char → Option (List Token)
  | .word letters, [] => wordTokens letters
  | .word letters, c :: cs =>
    if c = '"' then do some ((← wordTokens letters) ++ (← scan (.string []) cs))
    else
      match delimiter? c with
      | some ts => do some ((← wordTokens letters) ++ ts ++ (← scan (.word []) cs))
      | none => scan (.word (letters ++ [c])) cs
  | .string parts, c :: cs =>
    if c = '"' then do
      let s ← joinParts none parts
      some (.leaf (.string (String.ofList s)) :: (← scan (.word []) cs))
    else if c = '\\' then scan (.escape parts) cs
    else if c.toNat < 0x20 then none
    else scan (.string (parts ++ [.char c])) cs
  | .escape parts, c :: cs =>
    if c = 'u' then scan (.unit parts 0 0) cs
    else do scan (.string (parts ++ [.char (← escaped? c)])) cs
  | .unit parts count value, c :: cs => do
    let value := 16 * value + (← hexDigit? c)
    if count = 3 then scan (.string (parts ++ [.unit value])) cs
    else scan (.unit parts (count + 1) value) cs
  | _, [] => none

/-- An array or an object that is being read: what it holds so far, the latest first, and in an
object the name of the member that comes next. -/
inductive Partial where
  | array (items : List Json)
  | object (members : List (String × Json)) (name : String)

mutual

/-- Reads a value and all that follows, inside the arrays and objects that are open. -/
def readValue (outer : List Partial) : List Token → Option Json
  | .leaf j :: ts => readBehind j outer ts
  | .mark '[' :: .mark ']' :: ts => readBehind (.array []) outer ts
  | .mark '[' :: ts => readValue (.array [] :: outer) ts
  | .mark '\x7b' :: .mark '\x7d' :: ts => readBehind (.object []) outer ts
  | .mark '\x7b' :: .leaf (.string name) :: .mark ':' :: ts =>
    readValue (.object [] name :: outer) ts
  | _ => none
termination_by structural ts => ts

/-- Goes on behind a value. -/
def readBehind (j : Json) (outer : List Partial) : List Token → Option Json
  | .mark ',' :: ts =>
    match outer with
    | .array items :: outer => readValue (.array (j :: items) :: outer) ts
    | .object members name :: outer =>
      match ts with
      | .leaf (.string next) :: .mark ':' :: ts =>
        readValue (.object ((name, j) :: members) next :: outer) ts
      | _ => none
    | [] => none
  | .mark ']' :: ts =>
    match outer with
    | .array items :: outer => readBehind (.array (j :: items).reverse) outer ts
    | _ => none
  | .mark '\x7d' :: ts =>
    match outer with
    | .object members name :: outer =>
      readBehind (.object ((name, j) :: members).reverse) outer ts
    | _ => none
  | [] => if outer.isEmpty then some j else none
  | _ => none
termination_by structural ts => ts

end

/-- The value that a text denotes, if it is a JSON text. -/
def read (text : String) : Option Json := do
  readValue [] (← scan (.word []) text.toList)

end Json

end QueryBuilder
