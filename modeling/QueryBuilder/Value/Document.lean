import QueryBuilder.Value
import QueryBuilder.Text.Digit
import QueryBuilder.Text.Quoted

/-!
Values as JSON documents. Members and elements keep their order, and every character outside ASCII
is written by number, in halves if one number does not suffice.
-/
namespace QueryBuilder

/-- Why a value has no JSON text. -/
inductive DocumentFault where
  | value (typeName : String)
  | key (typeName : String)
  /-- An integer has more digits than can be written. -/
  | digits
  deriving DecidableEq, Repr

def DocumentFault.message : DocumentFault → String
  | value t => s!"Object of type {t} is not JSON serializable"
  | key t => s!"keys must be str, int, float, bool or None, not {t}"
  | digits => s!"Exceeds the limit ({Text.digitLimit} digits) for integer string conversion"

namespace Document

def unit (n : Nat) : List Char :=
  '\\' :: 'u' :: Text.hex 4 n

def stringChar (c : Char) : List Char :=
  let n := c.toNat
  if c == '"' || c == '\\' then ['\\', c]
  else if c == '\n' then ['\\', 'n']
  else if c == '\r' then ['\\', 'r']
  else if c == '\t' then ['\\', 't']
  else if n == 8 then ['\\', 'b']
  else if n == 12 then ['\\', 'f']
  else if 0x20 ≤ n && n < 0x7f then [c]
  else if n < 0x10000 then unit n
  else unit (0xd800 + (n - 0x10000) / 0x400) ++ unit (0xdc00 + (n - 0x10000) % 0x400)

def string (s : String) : List Char :=
  '"' :: s.toList.flatMap stringChar ++ ['"']

def int (n : Int) : Except DocumentFault (List Char) :=
  if Text.isWritable n.natAbs then .ok (toString n).toList else .error .digits

/-- Numbers keep their text; infinities and the undefined number have names of their own. -/
def float (text : String) : List Char :=
  if text == "nan" then "NaN".toList
  else if text == "inf" then "Infinity".toList
  else if text == "-inf" then "-Infinity".toList
  else text.toList

/-- The name of a member: simple values are named by their JSON text. -/
def key : Value → Except DocumentFault (List Char)
  | .null => .ok (string "null")
  | .bool b => .ok (string (if b then "true" else "false"))
  | .int n => (int n).map fun cs => string (String.ofList cs)
  | .float text => .ok (string (String.ofList (float text)))
  | .str s => .ok (string s)
  | .constant c => .ok (string c.text)
  | v => .error (.key v.typeName)

def separated : List (List Char) → List Char
  | [] => []
  | [x] => x
  | x :: xs => x ++ ',' :: ' ' :: separated xs

end Document

mutual

def Value.documentChars : Value → Except DocumentFault (List Char)
  | .null => .ok "null".toList
  | .bool true => .ok "true".toList
  | .bool false => .ok "false".toList
  | .int n => Document.int n
  | .float text => .ok (Document.float text)
  | .str s => .ok (Document.string s)
  | .constant c => .ok (Document.string c.text)
  | .list xs => do .ok ('[' :: Document.separated (← documentItems xs) ++ [']'])
  | .tuple xs => do .ok ('[' :: Document.separated (← documentItems xs) ++ [']'])
  | .dict es => do .ok ('\x7b' :: Document.separated (← documentMembers es) ++ ['\x7d'])
  | .bytes _ => .error (.value "bytes")
  | .byteArray _ => .error (.value "bytearray")
  | .set _ => .error (.value "set")
  | .frozenSet _ => .error (.value "frozenset")
  | .column _ | .columnDraft _ => .error (.value "ColumnRef")
  | .condition c => .error (.value c.typeName)
  | .handle h => .error (.value h.typeName)
termination_by structural v => v

def documentItems : List Value → Except DocumentFault (List (List Char))
  | [] => .ok []
  | x :: xs => do
    let text ← x.documentChars
    .ok (text :: (← documentItems xs))
termination_by structural xs => xs

def documentMembers : List (Value × Value) → Except DocumentFault (List (List Char))
  | [] => .ok []
  | (k, v) :: es => do
    let name ← Document.key k
    let text ← v.documentChars
    .ok ((name ++ ':' :: ' ' :: text) :: (← documentMembers es))
termination_by structural es => es

end

def Value.document (v : Value) : Except DocumentFault String :=
  v.documentChars.map String.ofList

end QueryBuilder
