import QueryBuilder.Condition.Draft
import QueryBuilder.Identifier
import QueryBuilder.Reading

/-!
Conditions made from fields. Each kind of condition says which operands suit its operator, and a
condition that is made here satisfies them.
-/
namespace QueryBuilder

def readComparison (v : Value) : Except Error Comparison :=
  match v with
  | .constant (.comparison op) => .ok op
  | _ =>
    match v.text? with
    | none => .error (.operand (.operatorNotText v.typeName) v)
    | some s =>
      match Comparison.read? s with
      | some op => .ok op
      | none => .error (.operand (.operatorUnknown v) .null)

def readDirection (v : Value) : Except Error SortDirection :=
  match v with
  | .constant (.direction d) => .ok d
  | _ =>
    match v.text?.bind SortDirection.read? with
    | some d => .ok d
    | none => .error (.operand (.direction v) v)

namespace ElementType

def isStart (c : Char) : Bool :=
  Identifier.isStart c

def isPart (c : Char) : Bool :=
  Identifier.isPart c || c == ' '

/-- Digits and, behind a comma, more digits, up to the closing parenthesis. -/
def isModifier (cs : List Char) : Bool :=
  let first := cs.takeWhile Text.isDigit
  let rest := cs.dropWhile Text.isDigit
  first ≠ [] &&
    match rest with
    | [')'] => true
    | ',' :: rest =>
      let rest := rest.dropWhile Text.isBlank
      rest.takeWhile Text.isDigit ≠ [] && rest.dropWhile Text.isDigit == [')']
    | _ => false

/-- A type name of words, with an optional modifier such as `(10, 2)`. -/
def isValid (s : String) : Bool :=
  match s.toList with
  | [] => false
  | c :: cs =>
    isStart c &&
      match cs.dropWhile isPart with
      | [] => true
      | '(' :: rest => isModifier rest
      | _ => false

/-- A type name of words alone. -/
def isPlain (s : String) : Bool :=
  match s.toList with
  | [] => false
  | c :: cs => isStart c && cs.all isPart

end ElementType

namespace Condition

/-- The value suits the comparison: a list for membership, nothing for a null test, and anything but
nothing otherwise. -/
def checkComparison (op : Comparison) (value : Value) : Except Error Unit :=
  if op.isMembership then
    match value.items? with
    | none => .error (.operand (.membershipNotList op value.typeName) value)
    | some [] => .error (.operand (.membershipEmpty op) value)
    | some _ => .ok ()
  else if op.isNullTest then
    if value.isNull then .ok () else .error (.operand (.nullTestOperand op) value)
  else if value.isNull then .error (.operand (.comparedWithNull (.str op.text)) .null)
  else .ok ()

/-- Containment and overlap take a list, the quantifiers a single value. -/
def checkArray (op : ArrayOperator) (operand : Value) : Except Error Unit :=
  if op.takesList == operand.isSequence then .ok ()
  else .error (.operand (.arrayOperand op.takesList (.str op.text)) operand)

def checkElementType (text : String) : Except Error String :=
  let name := Text.trim text
  if ElementType.isValid name then .ok name
  else .error (.operand (.elementType text) (.str text))

def checkPath (path : List String) : Except Error (List String) :=
  if path.contains "" then .error (.empty .jsonbKey (.str "")) else .ok path

/-- Field operators need a path and the others none; key operators take keys, existence and null
tests nothing, and the rest a value. -/
def checkJsonb (op : JsonbOperator) (path : List String) (operand : Value) : Except Error Unit :=
  if op.isField && path.isEmpty then .error (.operand (.pathMissing op) .null)
  else if !op.isField && !path.isEmpty then
    .error (.operand (.pathUnexpected (.str op.text)) .null)
  else
    match op with
    | .hasKey =>
      match operand.text? with
      | none | some "" => .error (.operand .keyMissing operand)
      | some _ => .ok ()
    | .hasAnyKey | .hasAllKeys =>
      match operand.items? with
      | none | some [] => .error (.operand (.keysMissing op) operand)
      | some keys =>
        if keys.all Value.isText then .ok () else .error (.operand (.keysNotText op) operand)
    | .fieldExists | .fieldIsNull =>
      if operand.isNull then .ok () else .error (.operand (.operandUnexpected op) operand)
    | _ =>
      if operand.isNull then .error (.operand (.operandMissing (.str op.text)) .null) else .ok ()

/-- Refuses blank text, whose error shows no text. -/
def checkRaw (sql : String) : Except Error String :=
  if Text.isBlankText sql then .error (.empty .rawSql (.str "")) else .ok sql

end Condition

namespace Draft

/-- An operator that does not suit its operand is refused by what is written for it. -/
def refuse (op : Value) (fault : Value → OperandFault) (operand : Value) : Except Error Unit := do
  throw (.operand (fault (← sign op)) operand)

/-- The check of a comparison, where only a constant is an operator with a sign of its own. -/
def checkComparison (fields : List (String × Value)) : Except Error Unit := do
  let op ← memberOperator fields
  let value ← get fields "value"
  match op, op.text?.bind Comparison.ofText? with
  | .constant (.comparison op), _ => Condition.checkComparison op value
  | _, some known =>
    match Condition.checkComparison known value with
    | .ok _ => .ok ()
    | .error _ => refuse op .comparedWithNull .null
  | _, none => if value.isNull then refuse op .comparedWithNull .null else .ok ()

def checkArray (fields : List (String × Value)) : Except Error Unit := do
  let op ← memberOperator fields
  let operand ← get fields "operand"
  let takesList := (op.text?.bind ArrayOperator.ofText?).any ArrayOperator.takesList
  if takesList == operand.isSequence then .ok ()
  else refuse op (.arrayOperand takesList) operand

/-- The check of an operator on documents. Only the constant itself asks for a key; its text asks
for any operand. -/
def checkJsonb (fields : List (String × Value)) : Except Error Unit := do
  let op ← memberOperator fields
  let path ← get fields "path"
  let operand ← get fields "operand"
  let known := op.text?.bind JsonbOperator.ofText?
  if known.any JsonbOperator.isField == path.isVoid then refuse op .pathUnexpected .null
  let suits : Bool := match known with
    | some .hasAnyKey | some .hasAllKeys =>
      operand.items?.any fun keys => !keys.isEmpty && keys.all Value.isText
    | some .fieldExists | some .fieldIsNull => operand.isNull
    | _ => !operand.isNull
  if suits then .ok () else refuse op .operandMissing .null

end Draft

namespace Condition

/-- The check that a condition has to pass wherever it becomes part of something else. -/
def check : Condition → Except Error Unit
  | .comparison _ op value => checkComparison op value
  | .array _ op operand _ => checkArray op operand
  | .jsonb _ op path operand => checkJsonb op path operand
  | .draft .comparison fields => Draft.checkComparison fields
  | .draft .array fields => Draft.checkArray fields
  | .draft .jsonb fields => Draft.checkJsonb fields
  | _ => .ok ()

/-- The kind by which a condition is told from others. -/
def mark? : Condition → Option ConditionKind
  | .draft _ fields => Draft.mark? fields
  | c => c.kind?

end Condition

/-- The issue of a record that is not of the kind it claims to be. -/
def claimIssue {α : Type} (mark : Option ConditionKind) : Reading α :=
  match mark with
  | none => .issue .unionTagUnknown
  | some mark => Reading.below (.name mark.tag) (.issue .recordType)

namespace Condition

/-- A condition as a part of another one: it is of the kind it claims to be, and passes its
check. -/
def accept (c : Condition) : Reading Condition :=
  if c.mark?.isSome && c.mark? == c.kind? then (Reading.ok c).check fun c => c.check.map fun _ => c
  else claimIssue c.mark?

/-- Conditions joined by a connective, each of which is accepted. -/
def join (op : Connective) (children : List Condition) : Except Error Condition :=
  (((Reading.items accept 0 children).below (.name "children")).map (.logical op)).toExcept

theorem accept_eq_ok {c : Condition} {kind : ConditionKind} (hk : c.kind? = some kind)
    (hm : c.mark? = some kind) (hc : c.check = .ok ()) : c.accept = .ok c := by
  simp [accept, hk, hm, Reading.check, hc, Except.map]

theorem join_eq_ok {children : List Condition} (op : Connective)
    (h : ∀ c ∈ children, c.accept = .ok c) : join op children = .ok (.logical op children) := by
  rw [join, Reading.items_eq_ok h]
  rfl

def negate (child : Condition) : Except Error Condition :=
  ((child.accept.below (.name "child")).map .negation).toExcept

end Condition

/-- An entry of a record, with what its value would be as a condition and as a list of them. -/
structure ConditionEntry where
  key : Value
  value : Value
  asCondition : Reading Condition
  asConditions : Reading (List Condition)

namespace ConditionEntry

def find? (es : List ConditionEntry) (name : String) : Option ConditionEntry :=
  es.find? fun e => e.key.text? == some name

def entries (es : List ConditionEntry) : Entries :=
  es.map fun e => (e.key, e.value)

/-- Refuses a kind that is given and is another one. -/
def kindIs (es : List ConditionEntry) (tag : String) : Reading Unit :=
  (entries es).optional "kind" () fun v =>
    if v.text? == some tag then .ok () else .issue .literal

def column (es : List ConditionEntry) (name : String) : Reading String :=
  (entries es).required name fun v => v.readText.check readColumn

end ConditionEntry

open ConditionEntry in
def Condition.ofEntries (kind : ConditionKind) (es : List ConditionEntry) : Reading Condition :=
  match kind with
  | .comparison =>
    ((fun _ column op value (_ : Unit) => (column, op, value))
      <$> kindIs es kind.tag
      <*> column es "column"
      <*> (entries es).required "operator" (fun v => .ofExcept (readComparison v))
      <*> (entries es).optional "value" .null .ok
      <*> (entries es).only ["kind", "column", "operator", "value"]).check
    fun (column, op, value) => do
      checkComparison op value
      .ok (.comparison column op value)
  | .logical =>
    (fun _ op children (_ : Unit) => .logical op children)
      <$> kindIs es kind.tag
      <*> (entries es).required "operator" (fun v =>
        v.readConstant fun s => Connective.ofText? (if v.isText then Text.upperKeyword s else s))
      <*> (match find? es "children" with
        | some e => e.asConditions.below (.name "children")
        | none => .ok [])
      <*> (entries es).only ["kind", "operator", "children"]
  | .negation =>
    (fun _ child (_ : Unit) => .negation child)
      <$> kindIs es kind.tag
      <*> (match find? es "child" with
        | some e => e.asCondition
        | none => .issue .missing).below (.name "child")
      <*> (entries es).only ["kind", "child"]
  | .array =>
    ((fun _ column op operand elementType (_ : Unit) => (column, op, operand, elementType))
      <$> kindIs es kind.tag
      <*> column es "column"
      <*> (entries es).required "operator" (Value.readConstant ArrayOperator.ofText?)
      <*> (entries es).required "operand" .ok
      <*> (entries es).optional "element_type" none (Value.readOption fun v =>
        v.readText.check checkElementType)
      <*> (entries es).only ["kind", "column", "operator", "operand", "element_type"]).check
    fun (column, op, operand, elementType) => do
      checkArray op operand
      .ok (.array column op operand elementType)
  | .jsonb =>
    ((fun _ column op path operand (_ : Unit) => (column, op, path, operand))
      <$> kindIs es kind.tag
      <*> column es "column"
      <*> (entries es).required "operator" (Value.readConstant JsonbOperator.ofText?)
      <*> (entries es).optional "path" [] (fun v =>
        (v.readTuple Value.readText).check checkPath)
      <*> (entries es).optional "operand" .null .ok
      <*> (entries es).only ["kind", "column", "operator", "path", "operand"]).check
    fun (column, op, path, operand) => do
      checkJsonb op path operand
      .ok (.jsonb column op path operand)
  | .raw =>
    (fun _ sql params (_ : Unit) => .raw sql params)
      <$> kindIs es kind.tag
      <*> (entries es).required "sql" (fun v => v.readText.check checkRaw)
      <*> (entries es).optional "params" [] (Value.readTuple .ok)
      <*> (entries es).only ["kind", "sql", "params"]

/-- Makes a condition from a mapping that names its kind. -/
def Condition.ofTagged (es : List ConditionEntry) : Reading Condition :=
  match ConditionEntry.find? es "kind" with
  | none => .issue .unionTagMissing
  | some e =>
    match e.value.text?.bind ConditionKind.ofTag? with
    | none => .issue .unionTagUnknown
    | some kind => (Condition.ofEntries kind es).below (.name kind.tag)

mutual

/-- A condition where one is expected: itself, or a mapping that names its kind. -/
def Value.asCondition : Value → Reading Condition
  | .condition c => c.accept
  | .dict es => Condition.ofTagged (conditionEntries es)
  | .column _ => .issue .unionTagUnknown
  | .columnDraft fields => claimIssue (Draft.mark? fields)
  | .constant _ => .issue .unionTagMissing
  | .handle h => .issue (if h.hasFields then .unionTagMissing else .unionType)
  | _ => .issue .unionType
termination_by structural v => v

/-- Conditions where a list of them is expected. The pairs of a record are none. -/
def Value.asConditions : Value → Reading (List Condition)
  | .list xs | .tuple xs | .set xs | .frozenSet xs => readConditions 0 xs
  | v =>
    match v.pairs? with
    | some pairs => Reading.items (fun _ => .issue .unionType) 0 pairs
    | none => .issue .tupleType
termination_by structural v => v

def conditionEntries : List (Value × Value) → List ConditionEntry
  | [] => []
  | (k, v) :: es => ⟨k, v, v.asCondition, v.asConditions⟩ :: conditionEntries es
termination_by structural es => es

def readConditions (start : Nat) : List Value → Reading (List Condition)
  | [] => .ok []
  | v :: vs =>
    .seq ((v.asCondition.below (.index start)).map List.cons) (readConditions (start + 1) vs)
termination_by structural vs => vs

end

def NodeKind.ofEntries (kind : NodeKind) (es : List ConditionEntry) : Reading Value :=
  match kind with
  | .condition kind => (Condition.ofEntries kind es).map .condition
  | .column =>
    (fun _ name (_ : Unit) => .column name)
      <$> ConditionEntry.kindIs es "column_ref"
      <*> ConditionEntry.column es "name"
      <*> (ConditionEntry.entries es).only ["kind", "name"]

def NodeKind.make (kind : NodeKind) (fields : List (String × Value)) : Except Error Value :=
  (kind.ofEntries (conditionEntries (fields.map fun f => (.str f.1, f.2)))).toExcept

/-- Accepts what is of the kind already and passes its check, and a mapping of its fields. -/
def NodeKind.validate (kind : NodeKind) (v : Value) : Except Error Value :=
  match kind, v with
  | _, .dict es => (kind.ofEntries (conditionEntries es)).toExcept
  | .column, .column _ | .column, .columnDraft _ => .ok v
  | .condition kind, .condition c =>
    if c.kind? == some kind then c.check.map fun _ => v
    else .error (.invalid [⟨.recordType, []⟩])
  | _, _ => .error (.invalid [⟨.recordType, []⟩])

end QueryBuilder
