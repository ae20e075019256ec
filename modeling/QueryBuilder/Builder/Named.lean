import QueryBuilder.Builder.Insert

/-!
Calls on builders by the name of the method, with arguments by position and by name.
-/
namespace QueryBuilder

/-- An argument of a call: a value, and what it does if it is called back. -/
structure Argument where
  value : Value
  callback? : Option Callback := none
  conflict : ConflictFunction

/-- A value that cannot be called back; where a conflict function is due, it is the answer. -/
def Argument.ofValue (v : Value) : Argument :=
  ⟨v, none, fun _ => .ok (.value v)⟩

def Argument.target (a : Argument) : FilterTarget :=
  match a.callback? with
  | some c => .callback c
  | none => .value a.value

/-- Parameters that take their arguments by position or by name. -/
def positional (required : List String) (optional : List String := []) : List Parameter :=
  required.map (⟨·, .positional false⟩) ++ optional.map (⟨·, .positional true⟩)

/-- The values of a method's parameters, or a default. -/
def boundArguments (parameters : List Parameter) (args : Arguments Argument)
    (default : Value := .null) : Except Error (List Argument) :=
  match bindParameters parameters args with
  | none => .error .arguments
  | some received =>
    .ok <| received.map fun r =>
      match r.2 with
      | .argument a => a
      | _ => Argument.ofValue default

/-- The arguments of a method that takes any number of positions. -/
def allPositions (args : Arguments Argument) : Except Error (List Value) :=
  if args.names.isEmpty then .ok (args.positions.map Argument.value) else .error .arguments

def joinKind? : String → Option JoinKind
  | "inner_join" => some .inner
  | "left_join" => some .left
  | "right_join" => some .right
  | "full_join" => some .full
  | _ => none

def SelectCall.named (method : String) (args : Arguments Argument) : Except Error SelectCall :=
  match joinKind? method with
  | some kind => do
    match ← boundArguments (positional ["table", "left", "right"]) args with
    | [table, left, right] => .ok (.join kind table.value left.value right.value)
    | _ => .error .arguments
  | none =>
    match method with
    | "select" => do .ok (.columns (← allPositions args))
    | "select_all" => do
      let _ ← boundArguments [] args
      .ok .allColumns
    | "where" => do
      match ← boundArguments (positional ["column_or_expression"] ["operator", "value"]) args with
      | [target, op, value] => .ok (.filter target.target op.value value.value)
      | _ => .error .arguments
    | "order_by" => do
      match ← boundArguments (positional ["column_or_items"] ["direction"]) args (.str "asc") with
      | [items, direction] => .ok (.orderBy items.value direction.value)
      | _ => .error .arguments
    | "limit" => do
      match ← boundArguments (positional ["count"]) args with
      | [count] => .ok (.limit count.value)
      | _ => .error .arguments
    | "offset" => do
      match ← boundArguments (positional ["count"]) args with
      | [count] => .ok (.offset count.value)
      | _ => .error .arguments
    | _ => .error (.noSuchMember method)

def InsertCall.named (method : String) (args : Arguments Argument) : Except Error InsertCall :=
  match method with
  | "values" => do
    match ← boundArguments (positional ["rows"]) args with
    | [rows] => .ok (.values rows.value)
    | _ => .error .arguments
  | "returning" => do .ok (.returning (← allPositions args))
  | "returning_all" => do
    let _ ← boundArguments [] args
    .ok .returningAll
  | "on_conflict" => do
    match ← boundArguments (positional ["callback"]) args with
    | [function] => .ok (.onConflict function.conflict)
    | _ => .error .arguments
  | _ => .error (.noSuchMember method)

def ConflictCall.named (method : String) (args : List Value) : Except Error ConflictCall :=
  match method, args with
  | "columns", names => .ok (.columns names)
  | "column", [name] => .ok (.columns [name])
  | "constraint", [name] => .ok (.constraint name)
  | "do_nothing", [] => .ok .doNothing
  | "do_update", [assignments] => .ok (.doUpdate assignments)
  | "column", _ | "constraint", _ | "do_nothing", _ | "do_update", _ => .error .arguments
  | _, _ => .error (.noSuchMember method)

/-- The fields of a finished clause, which are no methods. -/
def ConflictClause.fieldNames : List String :=
  ["columns", "constraint", "action", "updates"]

/-- Calls a method by its name; a builder that is done answers with its clause. -/
def ConflictAnswer.call (answer : ConflictAnswer) (method : String) (args : List Value) :
    Except Error ConflictAnswer :=
  match answer with
  | .value v =>
    if ConflictClause.fieldNames.contains method then .error (.wrongType v.typeName)
    else .error (.noSuchMember method)
  | .builder b =>
    if method = "build" then do
      if !args.isEmpty then throw .arguments
      let _ ← b.build
      .ok (.value (.handle .conflictClause))
    else do
      .ok (.builder (← b.apply (← ConflictCall.named method args)))

inductive Builder where
  | select (b : SelectBuilder)
  | insert (b : InsertBuilder)

namespace Builder

def statement : Builder → Statement
  | select b => .select b.query
  | insert b => .insert b.query

def display : Builder → String
  | select b => b.display
  | insert b => b.display

def call (b : Builder) (method : String) (args : Arguments Argument) : Except Error Builder :=
  match b with
  | select b => do .ok (.select (← b.apply (← SelectCall.named method args)))
  | insert b => do .ok (.insert (← b.apply (← InsertCall.named method args)))

end Builder

end QueryBuilder
