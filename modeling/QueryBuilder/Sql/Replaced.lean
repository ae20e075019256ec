import QueryBuilder.Sql.Compile

/-!
Statements of which some parts have been replaced by values of any type. Nothing is checked when a
part is replaced: a clause takes of the value what it can use and fails at the first thing it lacks.
-/
namespace QueryBuilder

/-- The values in the places of parts, by the names of the parts. -/
abbrev Replacements := List (String × Value)

namespace Replacements

/-- The name of the column that an item of a list would have. -/
def itemName : Value → Except Error Value
  | .column name => .ok (.str name)
  | .columnDraft fields => Draft.get fields "name"
  | .constant c => .ok (.str c.symbol)
  | _ => .error (.noSuchMember "name")

/-- The column of an item to sort by: of the values, only conditions have columns. -/
def sortColumn : Value → Except Error Value
  | .condition c => Draft.get c.fields "column"
  | _ => .error (.noSuchMember "column")

/-- The items of a void value, which has none. -/
def noItems (v : Value) : Except Error (List String) := do
  let _ ← Draft.walk v
  .ok []

/-- The columns that rows name, in the order in which they first occur. -/
def columns (rows : List Value) : Except Error (List Value) := do
  let keys ← forEach (fun row => do
    forEach (fun k => if k.isKey then .ok k else .error (.wrongType k.typeName))
      (← Draft.walk row)) rows
  .ok (keys.flatten.foldl (fun ks k => if ks.any (·.sameKey k) then ks else ks ++ [k]) [])

end Replacements

namespace Context

/-- Values in the place of items: the first one names a column, but no value has an alias. -/
def replacedItems {α : Type} (ctx : Context) (v : Value) : Except Error α := do
  match ← Draft.walk v with
  | [] => .error (.wrongType v.typeName)
  | item :: _ =>
    let _ ← ctx.scope.resolveValue (← Replacements.itemName item)
    .error (.noSuchMember "alias")

/-- Values in the place of items to sort by: the first one may have a column, but no value has a
direction. -/
def replacedOrder {α : Type} (ctx : Context) (outputNames : List String) (v : Value) :
    Except Error α := do
  match ← Draft.walk v with
  | [] => .error (.wrongType v.typeName)
  | item :: _ =>
    let _ ← ctx.scope.resolveValue (← Replacements.sortColumn item) outputNames
    .error (.noSuchMember "direction")

/-- The words LIMIT or OFFSET with a replaced count. -/
def replacedCount (word : String) (count : Option Nat) :
    Option Value → Except Error (List (List Piece))
  | none => countClause word count
  | some .null => .ok []
  | some v => do
    let count ← v.written
    .ok [[.text s!"{word} {count}"]]

/-- The clauses of a SELECT with replaced parts. Joins can only be replaced by none. -/
def replacedSelect (ctx : Context) (q : SelectQuery) (parts : Replacements) :
    Except Error (List (List Piece)) := do
  let select ← match parts.lookup "selections" with
    | none => ctx.selectClause q.items
    | some v => if v.isVoid then ctx.selectClause [] else ctx.replacedItems v
  let joins ← forEach ctx.joinClause q.joins
  let filter ← ctx.filterClause <|
    match parts.lookup "where" with
    | none => q.filter
    | some v => if v.isNull then none else some v.toCondition
  let outputNames : Except Error (List String) :=
    match parts.lookup "selections" with
    | none => .ok (outputNames q.items)
    | some v => Replacements.noItems v
  let order ← match parts.lookup "order_by" with
    | none => if q.orderBy.isEmpty then .ok [] else do ctx.orderClause (← outputNames) q.orderBy
    | some v => if v.isVoid then .ok [] else do ctx.replacedOrder (← outputNames) v
  let limit ← replacedCount "LIMIT" q.limit (parts.lookup "limit")
  let offset ← replacedCount "OFFSET" q.offset (parts.lookup "offset")
  .ok ([.text select] :: [.text s!"FROM {ctx.tableText q.table}"] ::
    joins.map (fun j => [.text j]) ++ filter ++ order ++ limit ++ offset)

/-- The entry of a replaced row in a column. Only mappings are asked for the value; other rows have
an entry in no column, or fail. -/
def replacedCell (ctx : Context) (row column : Value) : Except Error Piece :=
  match row with
  | .dict es =>
    match es.find? fun e => e.1.sameKey column with
    | some e => ctx.operand e.2
    | none => .ok (.text "DEFAULT")
  | .bytes _ | .byteArray _ => .error (.wrongType row.typeName)
  | _ => if row.isVoid then .ok (.text "DEFAULT") else .error (.wrongType row.typeName)

def replacedRow (ctx : Context) (columns : List Value) (row : Value) :
    Except Error (List Piece) := do
  let cells ← forEach (ctx.replacedCell row) columns
  .ok (.text "(" :: Piece.separated ", " (cells.map fun c => [c]) ++ [.text ")"])

def replacedRows (ctx : Context) (table : TableRef) (v : Value) : Except Error (List Piece) := do
  let rows ← Draft.walk v
  let columns ← Replacements.columns rows
  if columns.isEmpty then throw (.operand .insertEmpty (.list rows))
  let names ← forEach (fun c => do .ok (ctx.resolvedText (← ctx.scope.resolveValue c))) columns
  .ok (ctx.insertText table names (← forEach (ctx.replacedRow columns) rows))

/-- The clauses of an INSERT with replaced parts. No value has a conflict target. -/
def replacedInsert (ctx : Context) (q : InsertQuery) (parts : Replacements) :
    Except Error (List (List Piece)) := do
  let insert ← match parts.lookup "rows" with
    | none => ctx.insertClause q
    | some v => ctx.replacedRows q.table v
  let conflict ← match parts.lookup "on_conflict" with
    | none => ctx.conflictClauses q.conflict
    | some v => if v.isNull then .ok [] else .error (.noSuchMember "constraint")
  let returning ← match parts.lookup "returning" with
    | none => ctx.returningClause q.returning
    | some v => if v.isVoid then .ok [] else ctx.replacedItems v
  .ok (insert :: conflict ++ returning)

end Context

namespace Client

/-- The tables of a SELECT with replaced parts; no value has a table. -/
def replacedTables (q : SelectQuery) (parts : Replacements) : Except Error SelectQuery := do
  match parts.lookup "joins" with
  | none => .ok q
  | some v =>
    match ← Draft.walk v with
    | [] => .ok { q with joins := [] }
    | _ :: _ => .error (.noSuchMember "table")

/-- Compiles a statement with replaced parts. No value serves as a table. -/
def compileReplaced (client : Client) (s : Statement) (parts : Replacements) :
    Except Error Compiled := do
  let clauses ← match s with
    | .select q => do
      let q ← replacedTables q parts
      if (parts.lookup "table").isSome then throw (.noSuchMember "qualifier")
      (← client.context q.tables).replacedSelect q parts
    | .insert q => do
      if (parts.lookup "table").isSome then throw (.noSuchMember "qualifier")
      (← client.context [q.table]).replacedInsert q parts
  .ok (Compiled.ofPieces client.dialect (Piece.separated " " clauses))

end Client

end QueryBuilder
