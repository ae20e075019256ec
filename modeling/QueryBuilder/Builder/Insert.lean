import QueryBuilder.Builder.Conflict

/-!
Building an INSERT call by call. Rows may name different columns.
-/
namespace QueryBuilder

structure InsertBuilder where
  query : InsertQuery

inductive InsertCall where
  | values (rows : Value)
  | returning (names : List Value)
  | returningAll
  | onConflict (function : ConflictFunction)

def readRows : List Value → Except Error (List Row)
  | [] => .ok []
  | .dict (e :: es) :: vs => do
    let row ← readRow (e :: es)
    .ok (row :: (← readRows vs))
  | v :: _ => .error (.operand .rowNotMapping v)

namespace InsertBuilder

def start (table : Value) : Except Error InsertBuilder := do
  .ok ⟨{ table := ← TableRef.parse table }⟩

/-- The rows of a call: one mapping, or a list of them. -/
def rowsOf (v : Value) : Except Error (List Row) :=
  match v with
  | .dict _ => readRows [v]
  | .list (x :: xs) | .tuple (x :: xs) => readRows (x :: xs)
  | v => .error (.operand .rowsMissing v)

def apply (b : InsertBuilder) : InsertCall → Except Error InsertBuilder
  | .values rows => do
    let rows ← rowsOf rows
    .ok ⟨{ b.query with rows := b.query.rows ++ rows }⟩
  | .returning names => do
    let items ← parseItems (← columnNames .returning names)
    .ok ⟨{ b.query with returning := b.query.returning ++ items }⟩
  | .returningAll =>
    .ok ⟨{ b.query with returning := b.query.returning ++ [⟨"*", none⟩] }⟩
  | .onConflict function => do
    match ← function {} with
    | .builder c => .ok ⟨{ b.query with conflict := some (← c.build) }⟩
    | .value v => .error (.operand (.conflictAnswer v.typeName) v)

def display (b : InsertBuilder) : String :=
  "InsertQueryBuilder(" ++ b.query.display ++ ")"

end InsertBuilder

end QueryBuilder
