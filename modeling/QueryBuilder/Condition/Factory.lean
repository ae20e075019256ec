import QueryBuilder.Condition.Check

/-!
The functions that callers build conditions with. A column of arrays or of documents is first named
and then asked for a condition.
-/
namespace QueryBuilder

/-- `column op value`. -/
def compare (column op value : Value) : Except Error Value :=
  (NodeKind.condition .comparison).make [("column", column), ("operator", op), ("value", value)]

/-- A reference to a column, to stand on the right of a comparison. -/
def reference (name : Value) : Except Error Value :=
  NodeKind.column.make [("name", name)]

/-- A fragment of SQL without parameters. -/
def rawSql (sql : Value) : Except Error Value :=
  (NodeKind.condition .raw).make [("sql", sql)]

/-- A fragment of SQL with parameters of its own. -/
def sqlWith (sql : Value) (params : List Value) : Except Error Value :=
  (NodeKind.condition .raw).make [("sql", sql), ("params", .tuple params)]

/-- The conditions among the arguments; the first argument that is none is refused. -/
def conditionsOf (method : Method) : List Value → Except Error (List Condition)
  | [] => .ok []
  | .condition c :: vs => do
    let cs ← conditionsOf method vs
    .ok (c :: cs)
  | v :: _ => .error (.operand (.notCondition method v.typeName) v)

/-- A single list argument stands for its items. -/
def spread (args : List Value) : List Value :=
  match args with
  | [v] => v.items?.getD [v]
  | vs => vs

/-- Combines conditions; a single one is left as it is. -/
def combine (op : Connective) (args : List Value) : Except Error Value := do
  match ← conditionsOf (.combine op) (spread args) with
  | [c] => .ok (.condition c)
  | cs => (Condition.join op cs).map .condition

def negate (v : Value) : Except Error Value :=
  match v with
  | .condition c => (Condition.negate c).map .condition
  | v => .error (.operand (.notCondition .negate v.typeName) v)

/-- A column of arrays, with the type of its elements if it was given. -/
structure ArrayColumn where
  column : Value
  elementType : Value := .null

def ArrayColumn.apply (a : ArrayColumn) (op : ArrayOperator) (operand : Value) :
    Except Error Value :=
  (NodeKind.condition .array).make
    [("column", a.column), ("operator", .str op.text), ("operand", operand),
     ("element_type", a.elementType)]

structure JsonbColumn where
  column : Value

/-- A field inside a document, reached by the keys of its path. -/
structure JsonbField where
  column : Value
  path : List String

def jsonbKey (v : Value) : Except Error String :=
  match v.text? with
  | none => .error (.operand (.jsonbKeyNotText v.typeName) v)
  | some "" => .error (.empty .jsonbKey (.str ""))
  | some key => .ok key

def jsonbKeys : List Value → Except Error (List String)
  | [] => .ok []
  | v :: vs => do
    let key ← jsonbKey v
    .ok (key :: (← jsonbKeys vs))

namespace JsonbColumn

def apply (j : JsonbColumn) (op : JsonbOperator) (operand : Value) : Except Error Value :=
  (NodeKind.condition .jsonb).make
    [("column", j.column), ("operator", .str op.text), ("operand", operand)]

def field (j : JsonbColumn) (name : Value) : Except Error JsonbField := do
  .ok ⟨j.column, [← jsonbKey name]⟩

/-- Walks the keys of a list, of which there must be one at least. -/
def walk (j : JsonbColumn) (keys : Value) : Except Error JsonbField :=
  match keys.items? with
  | none => .error (.operand .pathNotList keys)
  | some vs => do
    match ← jsonbKeys vs with
    | [] => .error (.operand .pathEmpty keys)
    | path => .ok ⟨j.column, path⟩

end JsonbColumn

namespace JsonbField

def apply (f : JsonbField) (op : JsonbOperator) (operand : Value) : Except Error Value :=
  (NodeKind.condition .jsonb).make
    [("column", f.column), ("operator", .str op.text), ("path", .tuple (f.path.map .str)),
     ("operand", operand)]

def field (f : JsonbField) (name : Value) : Except Error JsonbField := do
  .ok ⟨f.column, f.path ++ [← jsonbKey name]⟩

end JsonbField

/-- The functions of the factory that a callback can ask for by name, the factory first. -/
def helperNames : List String :=
  ["eb", "and_", "or_", "not_", "array", "jsonb", "ref", "sql", "raw"]

/-- The functions by their names, as a mapping. -/
def helpers : Value :=
  .dict (helperNames.map fun name =>
    (.str name, .handle (if name = "eb" then .factory else .function)))

/-- What calls are made on: the factory, and what a call yields, which is a value, or a column or
field to go on from. -/
inductive Term where
  | factory
  | value (v : Value)
  | array (a : ArrayColumn)
  | jsonb (j : JsonbColumn)
  | field (f : JsonbField)

namespace Term

def toValue : Term → Value
  | factory => .handle .factory
  | value v => v
  | array _ => .handle .arrayColumn
  | jsonb _ => .handle .jsonbColumn
  | field _ => .handle .jsonbField

def arrayMethod? : String → Option ArrayOperator
  | "contains" => some .contains
  | "is_contained_by" => some .containedBy
  | "overlaps" => some .overlaps
  | "has_any" => some .hasAny
  | "has_all" => some .hasAll
  | _ => none

def jsonbMethod? : String → Option JsonbOperator
  | "contains" => some .contains
  | "contained_by" => some .containedBy
  | "has_key" => some .hasKey
  | "has_any_key" => some .hasAnyKey
  | "has_all_keys" => some .hasAllKeys
  | _ => none

/-- The operators of a field, with the number of their operands. -/
def fieldMethod? : String → Option (JsonbOperator × Nat)
  | "equals" => some (.fieldEquals, 1)
  | "not_equals" => some (.fieldNotEquals, 1)
  | "contains" => some (.fieldContains, 1)
  | "exists" => some (.fieldExists, 0)
  | "is_null" => some (.fieldIsNull, 0)
  | _ => none

def create (method : String) (args : List Value) : Except Error Term :=
  match method, args with
  | "and_", nodes => (combine .and nodes).map value
  | "or_", nodes => (combine .or nodes).map value
  | "not_", [node] => (negate node).map value
  | "array", [column] => .ok (array ⟨column, .null⟩)
  | "array", [column, elementType] => .ok (array ⟨column, elementType⟩)
  | "jsonb", [column] => .ok (jsonb ⟨column⟩)
  | "ref", [name] => (reference name).map value
  | "raw", [sql] => (rawSql sql).map value
  | "sql", sql :: params => (sqlWith sql params).map value
  | "helpers", [] => .ok (value helpers)
  | _, _ =>
    if helperNames.tail.contains method || method = "helpers" then .error .arguments
    else .error (.noSuchMember method)

/-- Calls a method by its name. The fields of a record are no methods. -/
def call (t : Term) (method : String) (args : List Value) : Except Error Term :=
  match t with
  | factory => create method args
  | value v =>
    if (v.fields?.getD []).any (·.1 = method) then .error (.wrongType v.typeName)
    else .error (.noSuchMember method)
  | array a =>
    match arrayMethod? method, args with
    | none, _ => .error (.noSuchMember method)
    | some op, [operand] => (a.apply op operand).map value
    | some _, _ => .error .arguments
  | jsonb j =>
    match method, jsonbMethod? method, args with
    | "field", _, [name] => (j.field name).map field
    | "path", _, [keys] => (j.walk keys).map field
    | "field", _, _ | "path", _, _ => .error .arguments
    | _, none, _ => .error (.noSuchMember method)
    | _, some op, [operand] => (j.apply op operand).map value
    | _, some _, _ => .error .arguments
  | field f =>
    match method, fieldMethod? method, args with
    | "field", _, [name] => (f.field name).map field
    | "field", _, _ => .error .arguments
    | _, none, _ => .error (.noSuchMember method)
    | _, some (op, 1), [operand] => (f.apply op operand).map value
    | _, some (op, 0), [] => (f.apply op .null).map value
    | _, some _, _ => .error .arguments

end Term

end QueryBuilder
