import QueryBuilder.Call
import QueryBuilder.Query
import QueryBuilder.Scope

/-!
Building a SELECT call by call. A call that fails leaves the builder as it was, and every call
yields a new builder.
-/
namespace QueryBuilder

/-- A SELECT in the making, with the tables that it names so far. -/
structure SelectBuilder where
  query : SelectQuery
  scope : Scope

/-- What a filter can be made from: a value, or a function that answers with a condition. -/
inductive FilterTarget where
  | value (v : Value)
  | callback (c : Callback)

inductive SelectCall where
  | columns (names : List Value)
  | allColumns
  | filter (target : FilterTarget) (op value : Value)
  | join (kind : JoinKind) (table left right : Value)
  | orderBy (items direction : Value)
  | limit (count : Value)
  | offset (count : Value)

/-- The names of columns, given one by one or as a single list or tuple. -/
def columnNames (method : Method) (args : List Value) : Except Error (List Value) :=
  let names := match args with
    | [.list xs] | [.tuple xs] => xs
    | vs => vs
  match names.find? fun v => !v.isText with
  | some v => .error (.operand (.namesNotText method v.typeName) v)
  | none => .ok names

/-- Reads the items of a SELECT or RETURNING list. -/
def parseItems : List Value → Except Error (List SelectItem)
  | [] => .ok []
  | v :: vs => do
    let item ← SelectItem.parse v
    .ok (item :: (← parseItems vs))

/-- A count of rows: an integer that is not negative and no truth value. -/
def rowCount (method : Method) (v : Value) : Except Error Nat :=
  match v with
  | .int n => if n < 0 then .error (.operand (.countNegative method) v) else .ok n.toNat
  | _ => .error (.operand (.countNotInteger method v.typeName) v)

/-- Reads an item of a sort: a column, a pair of column and direction, or a mapping of both. -/
def orderItem (v : Value) : Except Error OrderItem :=
  let make (column direction : Value) : Except Error OrderItem := do
    let column ← plainColumn .orderBy column
    .ok ⟨column, ← readDirection direction⟩
  if v.isText then make v (.str "asc")
  else
    match v with
    | .dict es =>
      make ((Entries.get? es "column").getD .null) ((Entries.get? es "direction").getD (.str "asc"))
    | .list [column, direction] | .tuple [column, direction] => make column direction
    | _ => .error (.operand .orderByItem v)

def orderItems : List Value → Except Error (List OrderItem)
  | [] => .ok []
  | v :: vs => do
    let item ← orderItem v
    .ok (item :: (← orderItems vs))

namespace SelectBuilder

def start (table : Value) : Except Error SelectBuilder := do
  let table ← TableRef.parse table
  .ok ⟨{ table }, ← Scope.add {} table⟩

/-- The condition that a filter asks for. -/
def filterCondition (target : FilterTarget) (op value : Value) : Except Error Condition :=
  let ofAnswer (v : Value) : Except Error Condition :=
    match v with
    | .condition c => .ok c
    | v => .error (.operand (.filterAnswer v.typeName) v)
  match target with
  | .callback c => c.invoke.bind ofAnswer
  | .value (.condition c) => .ok c
  | .value v =>
    if !v.isText then .error (.operand (.filterTarget v.typeName) v)
    else if op.isNull then .error (.operand .filterOperatorMissing v)
    else (compare v op value).bind ofAnswer

/-- A further filter is joined to the one that is there. -/
def addFilter (current : Option Condition) (c : Condition) : Except Error Condition :=
  match current with
  | none => .ok c
  | some d => Condition.join .and [d, c]

def apply (b : SelectBuilder) : SelectCall → Except Error SelectBuilder
  | .columns names => do
    let items ← parseItems (← columnNames .select names)
    .ok { b with query := { b.query with items := b.query.items ++ items } }
  | .allColumns =>
    .ok { b with query := { b.query with items := b.query.items ++ [⟨"*", none⟩] } }
  | .filter target op value => do
    let c ← filterCondition target op value
    let filter ← addFilter b.query.filter c
    .ok { b with query := { b.query with filter := some filter } }
  | .join kind table left right => do
    let table ← TableRef.parse table
    let scope ← b.scope.add table
    let left ← plainColumn .join left
    let right ← plainColumn .join right
    let join : Join := ⟨kind, table, left, right⟩
    .ok ⟨{ b.query with joins := b.query.joins ++ [join] }, scope⟩
  | .orderBy items direction => do
    let items ←
      if items.isText then orderItems [.tuple [items, direction]]
      else
        match items with
        | .list xs | .tuple xs => orderItems xs
        | v => .error (.operand .orderByNotList v)
    .ok { b with query := { b.query with orderBy := b.query.orderBy ++ items } }
  | .limit count => do
    let n ← rowCount .limit count
    .ok { b with query := { b.query with limit := some n } }
  | .offset count => do
    let n ← rowCount .offset count
    .ok { b with query := { b.query with offset := some n } }

def display (b : SelectBuilder) : String :=
  "SelectQueryBuilder(" ++ b.query.display ++ ")"

end SelectBuilder

end QueryBuilder
