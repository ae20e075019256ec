import QueryBuilder.Error
import QueryBuilder.Value.Content

/-!
Records put together without checks. Fields of the right types make an ordinary condition or column
reference, sound or not; any others are kept as they are, and what uses them looks them up by name.
-/
namespace QueryBuilder

/-- What a record of fields is to become: a condition or a reference to a column. -/
inductive NodeKind where
  | condition (kind : ConditionKind)
  | column
  deriving DecidableEq, Repr

namespace NodeKind

def tag : NodeKind → String
  | condition kind => kind.tag
  | column => "column_ref"

def ofTag? (s : String) : Option NodeKind :=
  if s == column.tag then some .column else (ConditionKind.ofTag? s).map .condition

/-- The fields of a record below its kind, in order. -/
def fieldNames : NodeKind → List String
  | condition .comparison => ["column", "operator", "value"]
  | condition .logical => ["operator", "children"]
  | condition .negation => ["child"]
  | condition .array => ["column", "operator", "operand", "element_type"]
  | condition .jsonb => ["column", "operator", "path", "operand"]
  | condition .raw => ["sql", "params"]
  | column => ["name"]

/-- What a field holds that was not given, where it has such a value. -/
def default? (kind : NodeKind) (name : String) : Option Value :=
  match kind, name with
  | condition .comparison, "value" | condition .array, "element_type"
  | condition .jsonb, "operand" => some .null
  | condition .logical, "children" | condition .jsonb, "path" | condition .raw, "params" =>
    some (.tuple [])
  | _, _ => none

/-- The field of a record of the kind, as given or by default. -/
def field? (kind : NodeKind) (fields : List (String × Value)) (name : String) :
    Option (String × Value) :=
  (fields.lookup name <|> kind.default? name).map fun v => (name, v)

/-- The ordinary record of the values, if they have the types that a checked record has. The
operators of the other kinds are passed as texts and not as constants, so those kinds stay
drafts. -/
def settle? : NodeKind → List Value → Option Value
  | .column, [.str name] => some (.column name)
  | .condition .comparison, [.str name, .constant (.comparison op), value] =>
    some (.condition (.comparison name op value))
  | .condition .negation, [.condition c] => some (.condition (.negation c))
  | .condition .raw, [.str sql, .tuple params] => some (.condition (.raw sql params))
  | _, _ => none

def draft (kind : NodeKind) (fields : List (String × Value)) : Value :=
  match kind with
  | condition kind => .condition (.draft kind fields)
  | column => .columnDraft fields

/-- Puts a record together without any check. -/
def assemble (kind : NodeKind) (fields : List (String × Value)) : Value :=
  let mark := (fields.lookup "kind").getD (.str kind.tag)
  let rest := kind.fieldNames.filterMap (kind.field? fields)
  let settled := match mark with
    | .str s => if s == kind.tag then kind.settle? (rest.map Prod.snd) else none
    | _ => none
  settled.getD (kind.draft (("kind", mark) :: rest))

end NodeKind

namespace Draft

def get (fields : List (String × Value)) (name : String) : Except Error Value :=
  match fields.lookup name with
  | some v => .ok v
  | none => .error (.noSuchMember name)

/-- The operator of a draft, to be looked up in a table. -/
def operator (fields : List (String × Value)) : Except Error Value := do
  let op ← get fields "operator"
  if op.isKey then .ok op else .error (.wrongType op.typeName)

/-- The operator of a draft, to be looked for among the members of a set. A set may be asked for
there, although it is no key. -/
def memberOperator (fields : List (String × Value)) : Except Error Value := do
  match ← get fields "operator" with
  | .set xs => .ok (.set xs)
  | _ => operator fields

/-- The kind of condition that a record claims to be, which can be any. -/
def mark? (fields : List (String × Value)) : Option ConditionKind :=
  ((fields.lookup "kind").bind Value.text?).bind ConditionKind.ofTag?

/-- What is written for an operator that is a value of its own: the text of a constant, the operand
of a comparison. -/
def sign : Value → Except Error Value
  | .constant c => .ok (.str c.text)
  | .condition (.comparison _ _ value) => .ok value
  | .condition (.draft .comparison fields) => get fields "value"
  | _ => .error (.noSuchMember "value")

def walk (v : Value) : Except Error (List Value) :=
  match v.walk? with
  | some vs => .ok vs
  | none => .error (.wrongType v.typeName)

def parts (v : Value) : Except Error (List Value) :=
  match v.parts? with
  | some vs => .ok vs
  | none => .error (.wrongType v.typeName)

def fragment (fields : List (String × Value)) : Except Error (String × List Value) := do
  let params ← parts (← get fields "params")
  let sql ← get fields "sql"
  match sql.text? with
  | some text => .ok (text, params)
  | none => .error (.wrongType sql.typeName)

end Draft

end QueryBuilder
