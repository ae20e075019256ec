import QueryBuilder.Condition.Check

/-!
What a statement consists of. A statement is plain data; the text is made of it later.
-/
namespace QueryBuilder

structure Join where
  kind : JoinKind := .inner
  table : TableRef
  left : String
  right : String

structure OrderItem where
  column : String
  direction : SortDirection := .asc
  deriving DecidableEq, Repr

structure SelectQuery where
  table : TableRef
  joins : List Join := []
  /-- The selected columns; none stand for all. -/
  items : List SelectItem := []
  filter : Option Condition := none
  orderBy : List OrderItem := []
  limit : Option Nat := none
  offset : Option Nat := none

/-- The table after FROM, then the joined ones. -/
def SelectQuery.tables (q : SelectQuery) : List TableRef :=
  q.table :: q.joins.map Join.table

inductive ConflictAction where
  | nothing | update
  deriving DecidableEq, Repr

def ConflictAction.text : ConflictAction → String
  | nothing => "nothing"
  | update => "update"

/-- What an INSERT does about rows that are there already. -/
structure ConflictClause where
  columns : List String := []
  constraint : Option String := none
  action : ConflictAction := .nothing
  updates : List (String × Value) := []

/-- The values of a row by column, in the order in which they were given. -/
abbrev Row := List (String × Value)

structure InsertQuery where
  table : TableRef
  rows : List Row := []
  conflict : Option ConflictClause := none
  returning : List SelectItem := []

/-- The columns that any row names, in the order in which they first occur. -/
def InsertQuery.columns (q : InsertQuery) : List String :=
  (q.rows.flatMap fun row => row.map Prod.fst).eraseDups

inductive Statement where
  | select (query : SelectQuery)
  | insert (query : InsertQuery)

namespace Join

/-- Reads a join from named values; the table is given apart. -/
def read (table : Option TableRef) (es : Entries) : Reading Join :=
  (fun kind table left right (_ : Unit) => ⟨kind, table, left, right⟩)
    <$> es.optional "kind" .inner (Value.readConstant JoinKind.ofText?)
    <*> (match table with
      | some t => .ok t
      | none => Reading.below (.name "table") (.issue .missing))
    <*> es.required "left" Value.readText
    <*> es.required "right" Value.readText
    <*> es.only ["kind", "table", "left", "right"]

end Join

namespace OrderItem

def read (es : Entries) : Reading OrderItem :=
  (fun column direction (_ : Unit) => ⟨column, direction⟩)
    <$> es.required "column" Value.readText
    <*> es.optional "direction" .asc (Value.readConstant SortDirection.ofText?)
    <*> es.only ["column", "direction"]

end OrderItem

namespace SelectQuery

def read (base : SelectQuery) (filter limit offset : Value) : Reading SelectQuery :=
  (fun filter limit offset => { base with filter, limit, offset })
    <$> (Value.readOption Value.asCondition filter).below (.name "where")
    <*> limit.readCount.below (.name "limit")
    <*> offset.readCount.below (.name "offset")

end SelectQuery

namespace ConflictClause

def readAction (v : Value) : Reading ConflictAction :=
  match v.text? with
  | some "nothing" => .ok .nothing
  | some "update" => .ok .update
  | _ => .issue .literal

def read (es : Entries) : Reading ConflictClause :=
  (fun columns constraint action updates (_ : Unit) => ⟨columns, constraint, action, updates⟩)
    <$> es.optional "columns" [] (Value.readTuple Value.readText)
    <*> es.optional "constraint" none (Value.readOption Value.readText)
    <*> es.optional "action" .nothing readAction
    <*> es.optional "updates" [] Value.readFields
    <*> es.only ["columns", "constraint", "action", "updates"]

end ConflictClause

namespace InsertQuery

def read (base : InsertQuery) (rows : Value) : Reading InsertQuery :=
  (fun rows => { base with rows })
    <$> (rows.readTuple Value.readFields).below (.name "rows")

end InsertQuery

/-! How statements are shown. -/

def TableRef.display (t : TableRef) : String :=
  displayRecord "TableRef" [("name", Text.quote t.name), ("alias", displayOption t.aliasName)]

def SelectItem.display (i : SelectItem) : String :=
  displayRecord "ColumnExpression"
    [("name", Text.quote i.name), ("alias", displayOption i.aliasName)]

def Join.display (j : Join) : String :=
  displayRecord "JoinClause"
    [("kind", j.kind.display), ("table", j.table.display), ("left", Text.quote j.left),
     ("right", Text.quote j.right)]

def OrderItem.display (o : OrderItem) : String :=
  displayRecord "OrderByItem"
    [("column", Text.quote o.column),
     ("direction", (Constant.direction o.direction).display)]

def displayCount (n : Option Nat) : String :=
  n.elim "None" toString

def displayRow (row : Row) : String :=
  displaySet (row.map fun e => Text.quote e.1 ++ ": " ++ e.2.display)

def ConflictClause.display (c : ConflictClause) : String :=
  displayRecord "OnConflictClause"
    [("columns", displayTuple (c.columns.map Text.quote)),
     ("constraint", displayOption c.constraint), ("action", Text.quote c.action.text),
     ("updates", displayRow c.updates)]

def SelectQuery.display (q : SelectQuery) : String :=
  displayRecord "SelectQuery"
    [("table", q.table.display), ("joins", displayTuple (q.joins.map Join.display)),
     ("selections", displayTuple (q.items.map SelectItem.display)),
     ("where", q.filter.elim "None" Condition.display),
     ("order_by", displayTuple (q.orderBy.map OrderItem.display)),
     ("limit", displayCount q.limit), ("offset", displayCount q.offset)]

def InsertQuery.display (q : InsertQuery) : String :=
  displayRecord "InsertQuery"
    [("table", q.table.display), ("rows", displayTuple (q.rows.map displayRow)),
     ("on_conflict", q.conflict.elim "None" ConflictClause.display),
     ("returning", displayTuple (q.returning.map SelectItem.display))]

end QueryBuilder
