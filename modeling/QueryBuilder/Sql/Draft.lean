import QueryBuilder.Sql.Leaf

/-!
Conditions put together without checks as pieces of SQL. The fields are used in the order in which
the text is written, and the first that does not do is the error.
-/
namespace QueryBuilder

namespace Draft

/-- What a draft of a comparison writes for an operator that is no constant: the text of a
fragment. -/
def comparisonSign : Value → Except Error Value
  | .condition (.raw sql _) => .ok (.str sql)
  | .condition (.draft .raw fields) => get fields "sql"
  | _ => .error (.noSuchMember "sql")

end Draft

namespace Context

def draftColumn (ctx : Context) (fields : List (String × Value)) : Except Error ResolvedColumn := do
  ctx.scope.resolveValue (← Draft.get fields "column")

/-- The text of an operator is taken for the operator when it is classed, but it writes none: the
items of a membership test are still looked at. -/
def draftComparison (ctx : Context) (fields : List (String × Value)) :
    Except Error (List Piece) := do
  let column ← ctx.draftColumn fields
  let op ← Draft.memberOperator fields
  let value ← Draft.get fields "value"
  match op, op.text?.bind Comparison.ofText? with
  | .constant (.comparison op), _ => ctx.comparison column op value
  | _, some known =>
    if known.isMembership then
      let _ ← ctx.operands (← Draft.walk value)
    .error (.noSuchMember "sql")
  | _, none =>
    let sign ← (← Draft.comparisonSign op).written
    .ok [.text s!"{ctx.resolvedText column} {sign} ", ← ctx.operand value]

/-- An element type counts unless it is void. It is written only where there are no items. -/
def draftArray (ctx : Context) (fields : List (String × Value)) : Except Error (List Piece) := do
  let column ← ctx.draftColumn fields
  let op ← Draft.operator fields
  match op.text?.bind ArrayOperator.ofText? with
  | none => .error (.noSuchKey op.text)
  | some op =>
    let operand ← Draft.get fields "operand"
    let type ← Draft.get fields "element_type"
    if op.takesList && (operand.walk?.any List.isEmpty) && !type.isWritable then
      .error .tooManyDigits
    else ctx.array column op operand (if type.isVoid then none else some type.text)

/-- The field at the end of a path of any values. A path that has no number of keys has no last one
either. -/
def draftPath (ctx : Context) (column : String) (asText : Bool) (path : Value) :
    Except Error String := do
  let keys ← Draft.walk path
  if asText && !keys.isEmpty then
    let _ ← Draft.parts path
  .ok (jsonbPathText column asText (← forEach ctx.dialect.literalOf keys))

/-- Only constants stand for containment the other way round, for equality, existence and null
tests; their texts stand for containment and inequality, or for nothing. -/
def draftJsonb (ctx : Context) (fields : List (String × Value)) : Except Error (List Piece) := do
  let column ← ctx.draftColumn fields
  let name := ctx.resolvedText column
  let op ← Draft.operator fields
  let path ← Draft.get fields "path"
  let operand ← Draft.get fields "operand"
  match op.text?.bind JsonbOperator.ofText? with
  | some .contains | some .containedBy | some .fieldContains =>
    let target ← ctx.draftPath name false path
    match operand.document with
    | .ok text => .ok [.text s!"{target} @> ", .bind (.str text), .text "::jsonb"]
    | .error _ => .error (.noSuchMember "value")
  | some .fieldEquals | some .fieldNotEquals =>
    let target ← ctx.draftPath name true path
    .ok [.text s!"{target} != ", .bind (.str (← jsonbText operand))]
  | some .hasKey => .ok [.text s!"{name} ? ", ← jsonbKeysPiece operand]
  | some .hasAnyKey => .ok [.text s!"{name} ?| ", ← jsonbKeysPiece operand]
  | some .hasAllKeys => .ok [.text s!"{name} ?& ", ← jsonbKeysPiece operand]
  | _ => do .error (.compilation (.jsonbOperator (← op.written)))

def draftLeaf (ctx : Context) (kind : ConditionKind) (fields : List (String × Value)) :
    Except Error (List Piece) :=
  match kind with
  | .comparison => ctx.draftComparison fields
  | .array => ctx.draftArray fields
  | .jsonb => ctx.draftJsonb fields
  | .raw => do
    let (sql, params) ← Draft.fragment fields
    .ok [← Piece.fragment sql params]
  | .logical | .negation => .error (.compilation (.condition kind.typeName))

end Context

end QueryBuilder
