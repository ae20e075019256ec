import QueryBuilder.Sql.Draft
import QueryBuilder.Sql.Layout

/-!
Conditions as pieces of SQL, token by token.
-/
namespace QueryBuilder

namespace Context

/-- A condition without connectives. -/
def leaf (ctx : Context) : Condition → Except Error (List Piece)
  | .comparison column op value => do
    ctx.comparison (← ctx.scope.resolveName column) op value
  | .array column op operand elementType => do
    ctx.array (← ctx.scope.resolveName column) op operand elementType
  | .jsonb column op path operand => do
    ctx.jsonb (← ctx.scope.resolveName column) op path operand
  | .raw sql params => do .ok [← Piece.fragment sql params]
  | .draft kind fields => ctx.draftLeaf kind fields
  | c => .error (.compilation (.condition c.typeName))

def token (ctx : Context) : LogicToken → Except Error (List Piece)
  | .opening => .ok [.text "("]
  | .closing => .ok [.text ")"]
  | .connective op => .ok [.text s!" {op.text} "]
  | .negation => .ok [.text "NOT "]
  | .truth b => .ok [.text (if b then "true" else "false")]
  | .leaf c => ctx.leaf c
  | .word text => .ok [.text text]
  | .fault e => .error e

def tokens (ctx : Context) (ts : List LogicToken) : Except Error (List Piece) :=
  (forEach ctx.token ts).map List.flatten

/-- The condition after WHERE. -/
def predicate (ctx : Context) (c : Condition) : Except Error (List Piece) :=
  ctx.tokens (c.layout .root)

end Context

end QueryBuilder
