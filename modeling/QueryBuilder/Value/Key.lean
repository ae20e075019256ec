import QueryBuilder.Value
import QueryBuilder.Text.Decimal

/-!
Mappings and sets built from arbitrary values: which values may be keys, and which keys are equal.
-/
namespace QueryBuilder

/-- The whole number that a number or a truth value is. -/
def Value.whole? : Value → Option Int
  | .bool b => some (if b then 1 else 0)
  | .int n => some n
  | .float text => Text.wholeNumber? text
  | _ => none

/-- What equality of keys looks at: numbers by value, constants by their text, records by their type
and fields. -/
inductive Key where
  | null
  | number (n : Int)
  /-- A number that is not whole. -/
  | float (text : String)
  | text (s : String)
  | bytes (data : List UInt8)
  | tuple (items : List Key)
  | frozenSet (items : List Key)
  | record (type : String) (fields : List (String × Key))
  /-- An object of which there is only one. -/
  | object (h : Handle)
  /-- Equal to no key, not even to itself. -/
  | unlike

mutual

def Key.same : Key → Key → Bool
  | .null, .null => true
  | .number m, .number n => m == n
  | .float a, .float b => a == b
  | .text a, .text b => a == b
  | .bytes a, .bytes b => a == b
  | .tuple xs, .tuple ys => sameKeys xs ys
  | .frozenSet xs, .frozenSet ys => sameKeys xs ys
  | .record s xs, .record t ys => s == t && sameFields xs ys
  | .object a, .object b => a == b
  | _, _ => false
termination_by structural k => k

def sameKeys : List Key → List Key → Bool
  | [], [] => true
  | x :: xs, y :: ys => x.same y && sameKeys xs ys
  | _, _ => false
termination_by structural xs => xs

def sameFields : List (String × Key) → List (String × Key) → Bool
  | [], [] => true
  | (a, x) :: xs, (b, y) :: ys => a == b && x.same y && sameFields xs ys
  | _, _ => false
termination_by structural xs => xs

end

namespace Handle

/-- The factory and the types exist once; other objects equal no other. -/
def key : Handle → Key
  | factory => .object factory
  | type name => .object (type name)
  | _ => .unlike

end Handle

/-- A condition as a key, from its fields below the kind. -/
def ConditionKind.key (kind : ConditionKind) (fields : List (String × Key)) : Key :=
  .record kind.typeName (("kind", .text kind.tag) :: fields)

mutual

/-- The key that a value is. Keys cannot change: lists, mappings, sets and byte arrays are none, nor
what holds them. -/
def Value.key? : Value → Option Key
  | .null => some .null
  | .bool b => some (.number (if b then 1 else 0))
  | .int n => some (.number n)
  | .float text =>
    match Text.wholeNumber? text with
    | some n => some (.number n)
    | none => some (if text == "nan" then .unlike else .float text)
  | .str s => some (.text s)
  | .bytes bs => some (.bytes bs)
  | .tuple xs => (keys? xs).map .tuple
  | .frozenSet xs => (keys? xs).map .frozenSet
  | .constant c => some (.text c.text)
  | .column name => some (.record "ColumnRef" [("kind", .text "column_ref"), ("name", .text name)])
  | .columnDraft fields => (fieldKeys? fields).map (.record "ColumnRef")
  | .condition c => c.key?
  | .handle h => some h.key
  | .list _ | .dict _ | .set _ | .byteArray _ => none
termination_by structural v => v

def keys? : List Value → Option (List Key)
  | [] => some []
  | x :: xs => do
    let k ← x.key?
    some (k :: (← keys? xs))
termination_by structural xs => xs

def Condition.key? : Condition → Option Key
  | .comparison column op value => do
    let k ← value.key?
    some (ConditionKind.comparison.key
      [("column", .text column), ("operator", .text op.text), ("value", k)])
  | .logical op children => do
    let ks ← conditionKeys? children
    some (ConditionKind.logical.key [("operator", .text op.text), ("children", .tuple ks)])
  | .negation child => do
    let k ← child.key?
    some (ConditionKind.negation.key [("child", k)])
  | .array column op operand elementType => do
    let k ← operand.key?
    some (ConditionKind.array.key
      [("column", .text column), ("operator", .text op.text), ("operand", k),
       ("element_type", elementType.elim .null .text)])
  | .jsonb column op path operand => do
    let k ← operand.key?
    some (ConditionKind.jsonb.key
      [("column", .text column), ("operator", .text op.text),
       ("path", .tuple (path.map .text)), ("operand", k)])
  | .raw sql params => do
    let ks ← keys? params
    some (ConditionKind.raw.key [("sql", .text sql), ("params", .tuple ks)])
  | .stray value => value.key?
  | .draft kind fields => (fieldKeys? fields).map (.record kind.typeName)
termination_by structural c => c

def conditionKeys? : List Condition → Option (List Key)
  | [] => some []
  | c :: cs => do
    let k ← c.key?
    some (k :: (← conditionKeys? cs))
termination_by structural cs => cs

def fieldKeys? : List (String × Value) → Option (List (String × Key))
  | [] => some []
  | (name, v) :: fields => do
    let k ← v.key?
    some ((name, k) :: (← fieldKeys? fields))
termination_by structural fields => fields

end

namespace Value

def isKey (v : Value) : Bool :=
  v.key?.isSome

def sameKey (a b : Value) : Bool :=
  match a.key?, b.key? with
  | some x, some y => x.same y
  | _, _ => false

end Value

/-- Sets the value of a key; a key that is there keeps its place and its first spelling. -/
def putEntry (k v : Value) : List (Value × Value) → List (Value × Value)
  | [] => [(k, v)]
  | e :: es => if e.1.sameKey k then (e.1, v) :: es else e :: putEntry k v es

/-- The mapping with the given entries in order, unless one of the keys cannot be a key. -/
def Value.mapping? (entries : List (Value × Value)) : Option Value :=
  if entries.all fun e => e.1.isKey then
    some (.dict (entries.foldl (fun es e => putEntry e.1 e.2 es) []))
  else none

/-- The distinct members of a set, unless one of them cannot be a member. -/
def Value.members? (items : List Value) : Option (List Value) :=
  if items.all Value.isKey then
    some (items.foldl (fun xs x => if xs.any (·.sameKey x) then xs else xs ++ [x]) [])
  else none

end QueryBuilder
