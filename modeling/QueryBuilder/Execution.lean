import QueryBuilder.Sql.Compile
import QueryBuilder.Sql.Format

/-!
Handing compiled statements to executors. What happens on the way is reported as events.
-/
namespace QueryBuilder

inductive Event where
  | compiled (sql : String) (parameters : Nat)
  | executing (sql : String) (parameters : Nat)
  /-- A statement goes to the cursor of a database. -/
  | sending (sql : String)
  deriving DecidableEq, Repr

def Event.message : Event → String
  | compiled sql n => s!"Compiled {sql} ({n} parameters)"
  | executing sql n => s!"Executing {sql} with {n} parameters"
  | sending sql => s!"psycopg execute: {sql}"

/-- Compiles a statement unless that has been done before. -/
def Client.compileOnce (client : Client) (s : Statement) (known : Option Compiled) :
    Except Error (Compiled × List Event) :=
  match known with
  | some c => .ok (c, [])
  | none => do
    let c ← client.compile s
    .ok (c, [.compiled c.sql c.parameters.length])

/-- Compiles a statement for the executor given, or else for the client's. -/
def Client.dispatch {ε : Type} (client : Client) (s : Statement) (known : Option Compiled)
    (given default : Option ε) : Except Error (ε × Compiled × List Event) :=
  match given <|> default with
  | none => .error .noExecutor
  | some executor => do
    let (c, events) ← client.compileOnce s known
    .ok (executor, c, events ++ [.executing c.sql c.parameters.length])

/-- What is asked of the cursor of a database. -/
inductive CursorCall where
  | openOn (connection rowFactory : String)
  | enter
  | execute (sql : String) (parameters : List Value)
  | fetchAll
  | exit

/-- Runs a statement on a cursor whose result, if there is one, is a list of rows. -/
def runOnCursor (connection : String) (c : Compiled) (result : Option Value) :
    Value × List CursorCall :=
  let fetch := if result.isSome then [CursorCall.fetchAll] else []
  (result.getD (.list []),
    [.openOn connection "dict_row", .enter, .execute c.sql c.parameters] ++ fetch ++ [.exit])

end QueryBuilder
