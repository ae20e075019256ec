import QueryBuilder.Builder.Select

/-!
Building the ON CONFLICT clause of an INSERT: a target, and an action that has to be chosen. The
last target and the last action count.
-/
namespace QueryBuilder

structure ConflictBuilder where
  clause : ConflictClause := {}
  /-- Whether an action has been chosen. -/
  decided : Bool := false

inductive ConflictCall where
  | columns (names : List Value)
  | constraint (name : Value)
  | doNothing
  | doUpdate (assignments : Value)

/-- Reads plain column names. -/
def insertColumns : List Value → Except Error (List String)
  | [] => .ok []
  | v :: vs => do
    let name ← insertColumn v
    .ok (name :: (← insertColumns vs))

/-- Reads values by column; of two keys that name one column, the last value counts. -/
def readRow (entries : List (Value × Value)) : Except Error Row := do
  let names ← insertColumns (entries.map Prod.fst)
  .ok ((names.zip (entries.map Prod.snd)).foldl (fun row e => putField e.1 e.2 row) [])

namespace ConflictBuilder

def apply (b : ConflictBuilder) : ConflictCall → Except Error ConflictBuilder
  | .columns names => do
    let columns ← insertColumns (← columnNames .columns names)
    if columns.isEmpty then throw (.operand .conflictColumnsMissing .null)
    .ok { b with clause := { b.clause with columns, constraint := none } }
  | .constraint name => do
    if !name.isText then throw (.operand .constraintNotText name)
    let name ← insertColumn name
    .ok { b with clause := { b.clause with constraint := some name, columns := [] } }
  | .doNothing =>
    .ok ⟨{ b.clause with action := .nothing, updates := [] }, true⟩
  | .doUpdate assignments => do
    match assignments with
    | .dict (e :: es) =>
      let updates ← readRow (e :: es)
      .ok ⟨{ b.clause with action := .update, updates }, true⟩
    | v => .error (.operand .assignmentsMissing v)

/-- The clause, once an action has been chosen; an update needs a target. -/
def build (b : ConflictBuilder) : Except Error ConflictClause :=
  if !b.decided then .error (.operand .conflictActionMissing .null)
  else if b.clause.action == .update && b.clause.columns.isEmpty &&
      (givenName b.clause.constraint).isNone then
    .error (.operand .conflictTargetMissing .null)
  else .ok b.clause

end ConflictBuilder

inductive ConflictAnswer where
  | builder (b : ConflictBuilder)
  | value (v : Value)

/-- A function that is given a fresh builder and chooses target and action. -/
abbrev ConflictFunction := ConflictBuilder → Except Error ConflictAnswer

end QueryBuilder
