import QueryBuilder.Sql.Context

/-!
Comparisons and the operators on arrays and documents as pieces of SQL, behind a column that has
been resolved.
-/
namespace QueryBuilder

namespace Context

def comparison (ctx : Context) (column : ResolvedColumn) (op : Comparison) (value : Value) :
    Except Error (List Piece) := do
  let name := ctx.resolvedText column
  if op.isNullTest then .ok [.text s!"{name} {op.sql} NULL"]
  else if op.isMembership then
    let operands ← ctx.operands (← Draft.walk value)
    .ok (.text s!"{name} {op.sql} (" :: operands ++ [.text ")"])
  else .ok [.text s!"{name} {op.sql} ", ← ctx.operand value]

def array (ctx : Context) (column : ResolvedColumn) (op : ArrayOperator) (operand : Value)
    (elementType : Option String) : Except Error (List Piece) := do
  let name := ctx.resolvedText column
  if op.takesList then
    match ← Draft.walk operand with
    | [] =>
      let type := (givenName elementType).getD (ctx.elementType column)
      .ok [.text s!"{name} {op.sql} {ctx.dialect.emptyArray type}"]
    | vs => .ok (.text s!"{name} {op.sql} ARRAY[" :: (← ctx.operands vs) ++ [.text "]"])
  else .ok [← ctx.operand operand, .text s!" = {op.sql}({name})"]

end Context

/-- The field at the end of a path of literals, either as a document or, at the last step, as
text. -/
def jsonbPathText (column : String) (asText : Bool) : List String → String
  | [] => column
  | [key] =>
    let arrow := if asText then "->>" else "->"
    s!"{column} {arrow} {key}"
  | key :: keys => jsonbPathText s!"{column} -> {key}" asText keys

/-- The text that a field has whose document is the value. -/
def jsonbText (v : Value) : Except Error String :=
  match v.text? with
  | some s => .ok s
  | none => v.document.mapError .ofDocument

/-- The error about an operand without a document shows the operand, which fails in turn if the
operand cannot be shown. -/
def documentError (op : JsonbOperator) (operand : Value) (fault : DocumentFault) : Error :=
  if operand.isWritable then .operand (.document op fault) operand else .tooManyDigits

/-- A document to compare with. -/
def jsonbDocument (op : JsonbOperator) (operand : Value) : Except Error (List Piece) :=
  match operand.document with
  | .ok text => .ok [.bind (.str text), .text "::jsonb"]
  | .error fault => .error (documentError op operand fault)

/-- Keys are bound as they are, lists of keys as a list. -/
def jsonbKeysPiece (operand : Value) : Except Error Piece :=
  if operand.isText then .ok (.bind operand)
  else do .ok (.bind (.list (← Draft.walk operand)))

namespace Context

def jsonbPath (ctx : Context) (column : String) (asText : Bool) (keys : List String) : String :=
  jsonbPathText column asText (keys.map ctx.dialect.literal)

def jsonb (ctx : Context) (column : ResolvedColumn) (op : JsonbOperator) (path : List String)
    (operand : Value) : Except Error (List Piece) := do
  let name := ctx.resolvedText column
  match op with
  | .contains | .containedBy | .fieldContains =>
    .ok (.text s!"{ctx.jsonbPath name false path} {op.sql} " :: (← jsonbDocument op operand))
  | .hasKey | .hasAnyKey | .hasAllKeys =>
    .ok [.text s!"{name} {op.sql} ", ← jsonbKeysPiece operand]
  | .fieldExists =>
    match path.getLast? with
    | some key =>
      .ok [.text s!"{ctx.jsonbPath name false path.dropLast} {op.sql} ", .bind (.str key)]
    | none => .error (.noSuchKey "path")
  | .fieldIsNull => .ok [.text s!"{ctx.jsonbPath name true path} {op.sql}"]
  | .fieldEquals | .fieldNotEquals =>
    .ok [.text s!"{ctx.jsonbPath name true path} {op.sql} ", .bind (.str (← jsonbText operand))]

end Context

end QueryBuilder
