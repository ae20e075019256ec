import QueryBuilder.Value
import QueryBuilder.Text.Digit
import QueryBuilder.Text.Quoted

/-!
Values as messages show them: literals for data, and a name with fields for conditions.
-/
namespace QueryBuilder

/-- A constant of an enumeration, with the text it stands for. -/
def displayConstant (type symbol text : String) : String :=
  s!"<{type}.{symbol}: {Text.quote text}>"

def displayOption (text : Option String) : String :=
  match text with
  | some s => Text.quote s
  | none => "None"

/-- Items between parentheses; a single item is followed by a comma. -/
def displayTuple (items : List String) : String :=
  match items with
  | [x] => s!"({x},)"
  | xs => "(" ++ ", ".intercalate xs ++ ")"

def displayList (items : List String) : String :=
  "[" ++ ", ".intercalate items ++ "]"

def displaySet (items : List String) : String :=
  "\x7b" ++ ", ".intercalate items ++ "\x7d"

/-- A record: its type and its fields in order. -/
def displayRecord (type : String) (fields : List (String × String)) : String :=
  type ++ "(" ++ ", ".intercalate (fields.map fun f => f.1 ++ "=" ++ f.2) ++ ")"

def Constant.display (c : Constant) : String :=
  displayConstant c.typeName c.symbol c.text

def JoinKind.display (k : JoinKind) : String :=
  displayConstant "JoinKind" k.text k.text

/-- The field that marks the kind of a condition, with its text. -/
def ConditionKind.fieldText (kind : ConditionKind) : String × String :=
  ("kind", Text.quote kind.tag)

/-- Writes a condition whose fields have the given texts. -/
def Condition.frame (c : Condition) (fields : List (String × String)) : String :=
  match c.kind? with
  | some kind => displayRecord kind.typeName fields
  | none => String.join (fields.map Prod.snd)

mutual

def Value.display : Value → String
  | .null => "None"
  | .bool true => "True"
  | .bool false => "False"
  | .int n => toString n
  | .float text => text
  | .str s => Text.quote s
  | .bytes bs => Text.quoteBytes bs
  | .byteArray bs => Text.quoteByteArray bs
  | .list xs => displayList (displayAll xs)
  | .tuple xs => displayTuple (displayAll xs)
  | .set [] => "set()"
  | .set (x :: xs) => displaySet (x.display :: displayAll xs)
  | .frozenSet [] => "frozenset()"
  | .frozenSet (x :: xs) => s!"frozenset({displaySet (x.display :: displayAll xs)})"
  | .dict es => displaySet (displayEntries es)
  | .constant c => c.display
  | .column name => displayRecord "ColumnRef" [("kind", "'column_ref'"), ("name", Text.quote name)]
  | .columnDraft fields => displayRecord "ColumnRef" (displayFields fields)
  | .condition c => c.frame c.fieldTexts
  | .handle .foreign => "<opaque>"
  | .handle (.type name) => s!"<class '{name}'>"
  | .handle h => s!"<{h.typeName}>"
termination_by structural v => v

def displayAll : List Value → List String
  | [] => []
  | x :: xs => x.display :: displayAll xs
termination_by structural xs => xs

def displayEntries : List (Value × Value) → List String
  | [] => []
  | (k, v) :: es => s!"{k.display}: {v.display}" :: displayEntries es
termination_by structural es => es

/-- The fields of a condition, each with its text. -/
def Condition.fieldTexts : Condition → List (String × String)
  | .comparison column op value =>
    [ConditionKind.comparison.fieldText, ("column", Text.quote column),
     ("operator", (Constant.comparison op).display), ("value", value.display)]
  | .logical op children =>
    [ConditionKind.logical.fieldText, ("operator", (Constant.connective op).display),
     ("children", displayTuple (displayConditions children))]
  | .negation child =>
    [ConditionKind.negation.fieldText, ("child", child.frame child.fieldTexts)]
  | .array column op operand elementType =>
    [ConditionKind.array.fieldText, ("column", Text.quote column),
     ("operator", (Constant.array op).display), ("operand", operand.display),
     ("element_type", displayOption elementType)]
  | .jsonb column op path operand =>
    [ConditionKind.jsonb.fieldText, ("column", Text.quote column),
     ("operator", (Constant.jsonb op).display), ("path", displayTuple (path.map Text.quote)),
     ("operand", operand.display)]
  | .raw sql params =>
    [ConditionKind.raw.fieldText, ("sql", Text.quote sql),
     ("params", displayTuple (displayAll params))]
  | .stray value => [("value", value.display)]
  | .draft _ fields => displayFields fields
termination_by structural c => c

def displayConditions : List Condition → List String
  | [] => []
  | c :: cs => c.frame c.fieldTexts :: displayConditions cs
termination_by structural cs => cs

def displayFields : List (String × Value) → List (String × String)
  | [] => []
  | (name, v) :: fields => (name, v.display) :: displayFields fields
termination_by structural fields => fields

end

def Condition.display (c : Condition) : String :=
  c.frame c.fieldTexts

def joinFields (fields : List (String × String)) : String :=
  " ".intercalate (fields.map fun f => f.1 ++ "=" ++ f.2)

/-- The value as a text of its own: a string is itself, a record shows its fields alone. -/
def Value.text : Value → String
  | .str s => s
  | .constant c => s!"{c.typeName}.{c.symbol}"
  | .column name => joinFields [("kind", "'column_ref'"), ("name", Text.quote name)]
  | .columnDraft fields => joinFields (displayFields fields)
  | .condition c => if c.kind?.isSome then joinFields c.fieldTexts else c.display
  | v => v.display

mutual

/-- Holds of data without columns, conditions and known objects in it. -/
def Value.isData : Value → Bool
  | .list xs | .tuple xs | .set xs | .frozenSet xs => areData xs
  | .dict es => areDataEntries es
  | .column _ | .columnDraft _ | .condition _ => false
  | .handle h => h == .foreign
  | _ => true
termination_by structural v => v

def areData : List Value → Bool
  | [] => true
  | x :: xs => x.isData && areData xs
termination_by structural xs => xs

def areDataEntries : List (Value × Value) → Bool
  | [] => true
  | (k, v) :: es => k.isData && v.isData && areDataEntries es
termination_by structural es => es

end

mutual

/-- Holds of values that have a text: no integer in them has more digits than can be written. -/
def Value.isWritable : Value → Bool
  | .int n => Text.isWritable n.natAbs
  | .list xs | .tuple xs | .set xs | .frozenSet xs => areWritable xs
  | .dict es => areWritableEntries es
  | .columnDraft fields => areWritableFields fields
  | .condition c => c.isWritable
  | _ => true
termination_by structural v => v

def areWritable : List Value → Bool
  | [] => true
  | x :: xs => x.isWritable && areWritable xs
termination_by structural xs => xs

def areWritableEntries : List (Value × Value) → Bool
  | [] => true
  | (k, v) :: es => k.isWritable && v.isWritable && areWritableEntries es
termination_by structural es => es

def Condition.isWritable : Condition → Bool
  | .comparison _ _ v | .array _ _ v _ | .jsonb _ _ _ v | .stray v => v.isWritable
  | .logical _ children => areWritableConditions children
  | .negation child => child.isWritable
  | .raw _ params => areWritable params
  | .draft _ fields => areWritableFields fields
termination_by structural c => c

def areWritableConditions : List Condition → Bool
  | [] => true
  | c :: cs => c.isWritable && areWritableConditions cs
termination_by structural cs => cs

def areWritableFields : List (String × Value) → Bool
  | [] => true
  | (_, v) :: fields => v.isWritable && areWritableFields fields
termination_by structural fields => fields

end

/-- Data is shown in full, everything else by the name of its type. -/
def Value.summary (v : Value) : String :=
  if v.isData then v.display else s!"<{v.typeName}>"

end QueryBuilder
