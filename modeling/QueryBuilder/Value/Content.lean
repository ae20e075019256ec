import QueryBuilder.Value.Key

/-!
What values consist of: the fields of records and the items of everything that can be walked.
-/
namespace QueryBuilder

def Condition.toValue : Condition → Value
  | .stray v => v
  | c => .condition c

/-- The condition that a value is, or the value in the place of one. -/
def Value.toCondition : Value → Condition
  | .condition c => c
  | v => .stray v

/-- The fields of a condition in order, its kind first. -/
def Condition.fields (c : Condition) : List (String × Value) :=
  let record (kind : ConditionKind) (fields : List (String × Value)) : List (String × Value) :=
    ("kind", .str kind.tag) :: fields
  match c with
  | .comparison column op value =>
    record .comparison
      [("column", .str column), ("operator", .constant (.comparison op)), ("value", value)]
  | .logical op children =>
    record .logical
      [("operator", .constant (.connective op)),
       ("children", .tuple (children.map Condition.toValue))]
  | .negation child => record .negation [("child", child.toValue)]
  | .array column op operand elementType =>
    record .array
      [("column", .str column), ("operator", .constant (.array op)), ("operand", operand),
       ("element_type", elementType.elim .null .str)]
  | .jsonb column op path operand =>
    record .jsonb
      [("column", .str column), ("operator", .constant (.jsonb op)),
       ("path", .tuple (path.map .str)), ("operand", operand)]
  | .raw sql params => record .raw [("sql", .str sql), ("params", .tuple params)]
  | .stray _ => []
  | .draft _ fields => fields

namespace Value

def fields? : Value → Option (List (String × Value))
  | column name => some [("kind", .str "column_ref"), ("name", .str name)]
  | columnDraft fields => some fields
  | condition c => some c.fields
  | _ => none

/-- The fields of a record as pairs of name and value. -/
def pairs? (v : Value) : Option (List Value) :=
  v.fields?.map fun fields => fields.map fun f => .tuple [.str f.1, f.2]

/-- The items of a value that can be read as a list: a list, a tuple, a set, or a record as
pairs. -/
def listed? (v : Value) : Option (List Value) :=
  v.items? <|> v.pairs?

/-- The items of a value that has a number of them: those of lists, tuples and sets, the characters
of a text, the bytes of a byte string and the keys of a mapping. -/
def parts? : Value → Option (List Value)
  | list xs | tuple xs | set xs | frozenSet xs => some xs
  | bytes bs | byteArray bs => some (bs.map fun b => .int b.toNat)
  | dict es => some (es.map Prod.fst)
  | v => v.text?.map fun s => s.toList.map fun c => .str (String.singleton c)

/-- What can be walked item by item: a value with parts, or a record as pairs. -/
def walk? (v : Value) : Option (List Value) :=
  v.parts? <|> v.pairs?

/-- Holds of nothing, zero and false, and of what has no parts. -/
def isVoid (v : Value) : Bool :=
  v.isNull || v.whole? == some 0 || v.parts?.any List.isEmpty

end Value

end QueryBuilder
