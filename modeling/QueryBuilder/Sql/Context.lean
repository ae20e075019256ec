import QueryBuilder.Condition.Draft
import QueryBuilder.Dialect
import QueryBuilder.Scope
import QueryBuilder.Settings
import QueryBuilder.Sql.Piece

/-!
What the parts of one statement have in common, and the columns and operands in it. Columns are
resolved in the scope of the statement; every operand is bound, unless it is a column or a fragment
itself.
-/
namespace QueryBuilder

structure Context where
  dialect : Dialect
  scope : Scope
  settings : Settings
  schema : Option Schema

namespace Context

/-- A reference as it is written, each part as an identifier of its own. -/
def referenceText (ctx : Context) (reference : String) : String :=
  ".".intercalate ((Text.parts reference).map ctx.dialect.identifier)

def resolvedText (ctx : Context) (column : ResolvedColumn) : String :=
  ctx.referenceText column.reference.text

def columnText (ctx : Context) (column : String) (default? : Option String := none)
    (extra : List String := []) : Except Error String := do
  let resolved ← ctx.scope.resolveName column default? extra
  .ok (ctx.resolvedText resolved)

/-- The element type of an empty array: what the schema says of the column, or the default. -/
def elementType (ctx : Context) (column : ResolvedColumn) : String :=
  let found := do
    let schema ← ctx.schema
    let table ← column.table
    givenName (schema.elementType? table.name column.reference.column)
  found.getD ctx.settings.elementType

def draftColumnText (ctx : Context) (fields : List (String × Value)) : Except Error String := do
  let resolved ← ctx.scope.resolveValue (← Draft.get fields "name")
  .ok (ctx.resolvedText resolved)

/-- An operand: a column, a fragment, or a value to bind. -/
def operand (ctx : Context) (v : Value) : Except Error Piece :=
  match v with
  | .column name => (ctx.columnText name).map .text
  | .columnDraft fields => (ctx.draftColumnText fields).map .text
  | .condition (.raw sql params) => Piece.fragment sql params
  | .condition (.draft .raw fields) => do
    let (sql, params) ← Draft.fragment fields
    Piece.fragment sql params
  | v => .ok (.bind v)

/-- Operands with commas between them. -/
def operands (ctx : Context) (vs : List Value) : Except Error (List Piece) := do
  let pieces ← forEach ctx.operand vs
  .ok (Piece.separated ", " (pieces.map fun p => [p]))

end Context

end QueryBuilder
