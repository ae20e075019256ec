import QueryBuilder.Query
import QueryBuilder.Sql.Predicate

/-!
The clauses of SELECT and INSERT as pieces of SQL, in the order of the statement.
-/
namespace QueryBuilder

namespace Context

/-- A name, and behind AS its alias. -/
def withAlias (ctx : Context) (name : String) (aliasName : Option String) : String :=
  match givenName aliasName with
  | some aliasName => s!"{name} AS {ctx.dialect.identifier aliasName}"
  | none => name

def tableText (ctx : Context) (t : TableRef) : String :=
  ctx.withAlias (ctx.dialect.identifier t.name) t.aliasName

def itemText (ctx : Context) (item : SelectItem) : Except Error String := do
  .ok (ctx.withAlias (← ctx.columnText item.name) item.aliasName)

def itemsText (ctx : Context) (items : List SelectItem) : Except Error String := do
  .ok (", ".intercalate (← forEach ctx.itemText items))

def selectClause (ctx : Context) (items : List SelectItem) : Except Error String :=
  if items.isEmpty then .ok "SELECT *"
  else do .ok ("SELECT " ++ (← ctx.itemsText items))

/-- A bare column on the left belongs to the first table, one on the right to the joined table. -/
def joinClause (ctx : Context) (j : Join) : Except Error String := do
  let left ← ctx.columnText j.left (ctx.scope.root?.map TableRef.qualifier)
  let right ← ctx.columnText j.right (some j.table.qualifier)
  .ok s!"{j.kind.text} JOIN {ctx.tableText j.table} ON {left} = {right}"

def orderItem (ctx : Context) (outputNames : List String) (o : OrderItem) :
    Except Error String := do
  let column ← ctx.columnText o.column none outputNames
  .ok s!"{column} {o.direction.text}"

/-- The aliases of a SELECT list, by which its rows may be sorted. -/
def outputNames (items : List SelectItem) : List String :=
  items.filterMap fun i => givenName i.aliasName

def orderClause (ctx : Context) (outputNames : List String) (orderBy : List OrderItem) :
    Except Error (List (List Piece)) :=
  if orderBy.isEmpty then .ok []
  else do
    let parts ← forEach (ctx.orderItem outputNames) orderBy
    .ok [[.text ("ORDER BY " ++ ", ".intercalate parts)]]

def filterClause (ctx : Context) : Option Condition → Except Error (List (List Piece))
  | none => .ok []
  | some c => do .ok [.text "WHERE " :: (← ctx.predicate c)]

/-- The words LIMIT or OFFSET with a number. -/
def countClause (word : String) : Option Nat → Except Error (List (List Piece))
  | none => .ok []
  | some n => do
    let count ← writeNumber n
    .ok [[.text s!"{word} {count}"]]

def selectClauses (ctx : Context) (q : SelectQuery) : Except Error (List (List Piece)) := do
  let select ← ctx.selectClause q.items
  let joins ← forEach ctx.joinClause q.joins
  let filter ← ctx.filterClause q.filter
  let order ← ctx.orderClause (outputNames q.items) q.orderBy
  let limit ← countClause "LIMIT" q.limit
  let offset ← countClause "OFFSET" q.offset
  .ok ([.text select] :: [.text s!"FROM {ctx.tableText q.table}"] ::
    joins.map (fun j => [.text j]) ++ filter ++ order ++ limit ++ offset)

/-- The entry of a row in a column: its value there, or the default of the column. -/
def cell (ctx : Context) (row : Row) (column : String) : Except Error Piece :=
  match row.lookup column with
  | some v => ctx.operand v
  | none => .ok (.text "DEFAULT")

def row (ctx : Context) (columns : List String) (r : Row) : Except Error (List Piece) := do
  let cells ← forEach (ctx.cell r) columns
  .ok (.text "(" :: Piece.separated ", " (cells.map fun c => [c]) ++ [.text ")"])

/-- The rows as values, to show in an error. -/
def rowsValue (rows : List Row) : Value :=
  .list (rows.map fun r => .dict (r.map fun e => (.str e.1, e.2)))

/-- The text of an INSERT from the names of its columns and the tuples of its rows. -/
def insertText (ctx : Context) (table : TableRef) (names : List String) (rows : List (List Piece)) :
    List Piece :=
  let list := ", ".intercalate names
  .text s!"INSERT INTO {ctx.tableText table} ({list}) VALUES " :: Piece.separated ", " rows

/-- One tuple for each row, with one entry for each column. -/
def insertClause (ctx : Context) (q : InsertQuery) : Except Error (List Piece) :=
  let columns := q.columns
  if q.rows.isEmpty || columns.isEmpty then
    .error (.operand .insertEmpty (rowsValue q.rows))
  else do
    let names ← forEach (fun c => ctx.columnText c) columns
    let rows ← forEach (ctx.row columns) q.rows
    .ok (ctx.insertText q.table names rows)

/-- The scope of assignments, where the row that was not inserted is known as `excluded`. -/
def withExcluded (ctx : Context) : Except Error Context :=
  match ctx.scope.root? with
  | none => .ok ctx
  | some root =>
    if ctx.scope.qualifiers.contains "excluded" then .ok ctx
    else do
      .ok { ctx with scope := ← ctx.scope.add ⟨root.name, some "excluded"⟩ }

/-- One assignment: the column belongs to the table, the value may refer to `excluded`. -/
def assignment (ctx values : Context) (update : String × Value) : Except Error (List Piece) := do
  let column ← ctx.columnText update.1
  .ok [.text s!"{column} = ", ← values.operand update.2]

/-- The conflict target: a constraint, or columns, or nothing. -/
def conflictTarget (ctx : Context) (c : ConflictClause) : Except Error (Option String) :=
  match givenName c.constraint with
  | some name => .ok (some s!"ON CONSTRAINT {ctx.dialect.identifier name}")
  | none =>
    if c.columns.isEmpty then .ok none
    else do
      let names ← forEach (fun n => ctx.columnText n) c.columns
      .ok (some ("(" ++ ", ".intercalate names ++ ")"))

def conflictClause (ctx : Context) (c : ConflictClause) : Except Error (List Piece) := do
  let values ← ctx.withExcluded
  let target ← ctx.conflictTarget c
  match c.action, target with
  | .nothing, none => .ok [.text "ON CONFLICT DO NOTHING"]
  | .nothing, some target => .ok [.text s!"ON CONFLICT {target} DO NOTHING"]
  | .update, none => .error (.operand .conflictTargetMissing .null)
  | .update, some target =>
    if c.updates.isEmpty then .error (.operand .conflictAssignmentsMissing .null)
    else do
      let assignments ← forEach (ctx.assignment values) c.updates
      .ok (.text s!"ON CONFLICT {target} DO UPDATE SET " :: Piece.separated ", " assignments)

def conflictClauses (ctx : Context) : Option ConflictClause → Except Error (List (List Piece))
  | none => .ok []
  | some c => do .ok [← ctx.conflictClause c]

def returningClause (ctx : Context) (items : List SelectItem) : Except Error (List (List Piece)) :=
  if items.isEmpty then .ok []
  else do .ok [[.text ("RETURNING " ++ (← ctx.itemsText items))]]

def insertClauses (ctx : Context) (q : InsertQuery) : Except Error (List (List Piece)) := do
  let insert ← ctx.insertClause q
  let conflict ← ctx.conflictClauses q.conflict
  let returning ← ctx.returningClause q.returning
  .ok (insert :: conflict ++ returning)

end Context

end QueryBuilder
