import QueryBuilder.Condition.Factory

/-!
Calls by position and by name, and the functions that callers pass in to be called back.
-/
namespace QueryBuilder

/-- How a parameter takes its argument. -/
inductive ParameterKind where
  | positionOnly
  | positional (optional : Bool)
  /-- Takes all further positions. -/
  | rest
  | named (optional : Bool)
  /-- Takes all further names. -/
  | names
  deriving DecidableEq, Repr

structure Parameter where
  name : String
  kind : ParameterKind
  deriving DecidableEq, Repr

structure Arguments (α : Type) where
  positions : List α := []
  names : List (String × α) := []

inductive Received (α : Type) where
  | argument (a : α)
  | absent
  | rest (as : List α)
  | names (as : List (String × α))

variable {α : Type}

/-- Gives each parameter its argument, from the positions left and the names left. A call does not
fit if an argument is missing, or if positions or names are left over. -/
def bindParameters : List Parameter → Arguments α → Option (List (String × Received α))
  | [], args => if args.positions.isEmpty && args.names.isEmpty then some [] else none
  | p :: ps, args =>
    let take (r : Received α) (left : Arguments α) : Option (List (String × Received α)) :=
      (bindParameters ps left).map ((p.name, r) :: ·)
    let byName (optional : Bool) : Option (List (String × Received α)) :=
      match args.names.lookup p.name with
      | some a => take (.argument a) ⟨args.positions, args.names.filter (·.1 ≠ p.name)⟩
      | none => if optional then take .absent args else none
    match p.kind, args.positions with
    | .positionOnly, a :: as => take (.argument a) ⟨as, args.names⟩
    | .positionOnly, [] => none
    | .positional _, a :: as => take (.argument a) ⟨as, args.names⟩
    | .positional optional, [] => byName optional
    | .rest, as => take (.rest as) ⟨[], args.names⟩
    | .named optional, _ => byName optional
    | .names, _ => take (.names args.names) ⟨args.positions, []⟩

/-- A function that answers with a condition. -/
structure Callback where
  /-- Nothing if the parameters cannot be found out. -/
  parameters : Option (List Parameter)
  /-- What the function returns once it has been entered. -/
  answer : Except Error Value

namespace Callback

def isNamed (p : Parameter) : Bool :=
  match p.kind with
  | .named _ => true
  | _ => false

def isPositional (p : Parameter) : Bool :=
  match p.kind with
  | .positionOnly | .positional _ => true
  | _ => false

/-- A callback whose parameters are all names of helpers receives those; any other callback receives
the factory in the first position. -/
def arguments (parameters : List Parameter) : Arguments String :=
  let named := (parameters.filter isNamed).map Parameter.name
  if !named.isEmpty && !parameters.any isPositional && named.all helperNames.contains then
    ⟨[], named.map fun n => (n, n)⟩
  else ⟨["eb"], []⟩

/-- What each parameter receives, unless the call does not fit. -/
def received? (c : Callback) : Option (List (String × Received String)) :=
  match c.parameters with
  | none => some []
  | some parameters => bindParameters parameters (arguments parameters)

/-- A list of conditions stands for all of them together. -/
def joined (v : Value) : Except Error Value :=
  match v with
  | .list _ => combine .and [v]
  | v => .ok v

def invoke (c : Callback) : Except Error Value :=
  match c.received? with
  | none => .error .arguments
  | some _ => c.answer.bind joined

/-- Calls the function with one argument in the first position. -/
def callWith (c : Callback) : Except Error Value :=
  match c.parameters with
  | none => c.answer
  | some parameters =>
    match bindParameters parameters (⟨[()], []⟩ : Arguments Unit) with
    | none => .error .arguments
    | some _ => c.answer

end Callback

end QueryBuilder
