import QueryBuilder.Operator

/-!
Values that callers pass in, and the conditions built from them. A condition is itself a value, and
a value may be bound inside a condition, so the two types are defined together.
-/
namespace QueryBuilder

/-- Things that are passed around but hold no data of their own. -/
inductive Handle where
  /-- An object of the caller about which nothing is known. -/
  | foreign
  | function
  /-- A type by its name; it can be called with one argument. -/
  | type (name : String)
  /-- The factory of conditions that a callback receives. -/
  | factory
  | arrayColumn
  | jsonbColumn
  | jsonbField
  | conflictBuilder
  | conflictClause
  deriving DecidableEq, Repr

/-- The kinds of condition, by the name that marks them in a mapping. -/
inductive ConditionKind where
  | comparison | logical | negation | array | jsonb | raw
  deriving DecidableEq, Repr

mutual

inductive Value where
  | null
  | bool (b : Bool)
  | int (n : Int)
  /-- A floating-point number, by its shortest decimal text. -/
  | float (text : String)
  | str (s : String)
  | bytes (data : List UInt8)
  | byteArray (data : List UInt8)
  | list (items : List Value)
  | tuple (items : List Value)
  | set (items : List Value)
  | frozenSet (items : List Value)
  | dict (entries : List (Value × Value))
  | constant (c : Constant)
  /-- A reference to a column, which is resolved and never bound. -/
  | column (name : String)
  /-- A reference to a column put together without checks, from any fields. -/
  | columnDraft (fields : List (String × Value))
  | condition (c : Condition)
  | handle (h : Handle)

inductive Condition where
  | comparison (column : String) (op : Comparison) (value : Value)
  | logical (op : Connective) (children : List Condition)
  | negation (child : Condition)
  | array (column : String) (op : ArrayOperator) (operand : Value) (elementType : Option String)
  | jsonb (column : String) (op : JsonbOperator) (path : List String) (operand : Value)
  | raw (sql : String) (params : List Value)
  /-- A value that stands where a condition belongs. -/
  | stray (value : Value)
  /-- A condition put together without checks, from fields that do not fit its kind. The field
  `kind` is one of them and comes first. -/
  | draft (kind : ConditionKind) (fields : List (String × Value))

end

instance : Inhabited Value := ⟨.null⟩
instance : Inhabited Condition := ⟨.raw "" []⟩

namespace Handle

def typeName : Handle → String
  | foreign => "Opaque"
  | function => "function"
  | type _ => "type"
  | factory => "ExpressionBuilder"
  | arrayColumn => "ArrayExpressionBuilder"
  | jsonbColumn => "JsonbExpressionBuilder"
  | jsonbField => "JsonbFieldExpression"
  | conflictBuilder => "OnConflictBuilder"
  | conflictClause => "OnConflictClause"

/-- Fields can be looked up on objects of a caller or of this library, not on built-in ones. -/
def hasFields : Handle → Bool
  | function | type _ => false
  | _ => true

end Handle

namespace ConditionKind

def all : List ConditionKind := [.comparison, .logical, .negation, .array, .jsonb, .raw]

/-- The word that marks the kind in a mapping. -/
def tag : ConditionKind → String
  | comparison => "comparison"
  | logical => "logical"
  | negation => "not"
  | array => "array"
  | jsonb => "structured"
  | raw => "raw"

def typeName : ConditionKind → String
  | comparison => "ComparisonNode"
  | logical => "LogicalNode"
  | negation => "NotNode"
  | array => "ArrayOpNode"
  | jsonb => "StructuredOpNode"
  | raw => "RawNode"

def ofTag? (s : String) : Option ConditionKind :=
  all.find? fun k => k.tag == s

end ConditionKind

def Condition.kind? : Condition → Option ConditionKind
  | .comparison .. => some .comparison
  | .logical .. => some .logical
  | .negation .. => some .negation
  | .array .. => some .array
  | .jsonb .. => some .jsonb
  | .raw .. => some .raw
  | .stray _ => none
  | .draft kind _ => some kind

mutual

def Value.typeName : Value → String
  | .null => "NoneType"
  | .bool _ => "bool"
  | .int _ => "int"
  | .float _ => "float"
  | .str _ => "str"
  | .bytes _ => "bytes"
  | .byteArray _ => "bytearray"
  | .list _ => "list"
  | .tuple _ => "tuple"
  | .set _ => "set"
  | .frozenSet _ => "frozenset"
  | .dict _ => "dict"
  | .constant c => c.typeName
  | .column _ | .columnDraft _ => "ColumnRef"
  | .condition c => c.typeName
  | .handle h => h.typeName
termination_by structural v => v

def Condition.typeName : Condition → String
  | .comparison .. => ConditionKind.comparison.typeName
  | .logical .. => ConditionKind.logical.typeName
  | .negation .. => ConditionKind.negation.typeName
  | .array .. => ConditionKind.array.typeName
  | .jsonb .. => ConditionKind.jsonb.typeName
  | .raw .. => ConditionKind.raw.typeName
  | .stray v => v.typeName
  | .draft kind _ => kind.typeName
termination_by structural c => c

end

namespace Value

/-- The text of a string, also of a constant, which is a string of its own. -/
def text? : Value → Option String
  | str s => some s
  | constant c => some c.text
  | _ => none

def isText (v : Value) : Bool :=
  v.text?.isSome

def isNull : Value → Bool
  | null => true
  | _ => false

/-- The items of a list, a tuple or a set: the values that count as a list of operands. -/
def items? : Value → Option (List Value)
  | list xs | tuple xs | set xs | frozenSet xs => some xs
  | _ => none

/-- Holds of lists, tuples and sets, but not of texts, byte strings and mappings. -/
def isSequence (v : Value) : Bool :=
  v.items?.isSome

def entries? : Value → Option (List (Value × Value))
  | dict es => some es
  | _ => none

/-- The condition that a value is, if it is one. -/
def condition? : Value → Option Condition
  | condition c => some c
  | _ => none

def isCondition (v : Value) : Bool :=
  v.condition?.isSome

end Value

end QueryBuilder
