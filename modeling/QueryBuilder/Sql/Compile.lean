import QueryBuilder.Sql.Clause

/-!
Compilation of statements to SQL text with numbered parameters.
-/
namespace QueryBuilder

/-- What all statements of one client have in common. -/
structure Client where
  dialect : Dialect := Dialect.postgres
  settings : Settings := {}
  schema : Option Schema := none

namespace Client

/-- A client of PostgreSQL that quotes as its settings say. -/
def ofSettings (settings : Settings) (schema : Option Schema) : Client :=
  ⟨Dialect.postgres settings.quoteReserved, settings, schema⟩

/-- The scope of the given tables; the schema takes part if columns are checked. -/
def scope (client : Client) (tables : List TableRef) : Except Error Scope :=
  Scope.addAll ⟨[], if client.settings.checkColumns then client.schema else none⟩ tables

def context (client : Client) (tables : List TableRef) : Except Error Context := do
  .ok ⟨client.dialect, ← client.scope tables, client.settings, client.schema⟩

def clauses (client : Client) : Statement → Except Error (List (List Piece))
  | .select q => do (← client.context q.tables).selectClauses q
  | .insert q => do (← client.context [q.table]).insertClauses q

/-- The pieces of a statement: its clauses with spaces between them. -/
def pieces (client : Client) (s : Statement) : Except Error (List Piece) :=
  (client.clauses s).map (Piece.separated " ")

def compile (client : Client) (s : Statement) : Except Error Compiled :=
  (client.pieces s).map (Compiled.ofPieces client.dialect)

/-- A value is no statement. -/
def compileValue (v : Value) : Except Error Compiled :=
  .error (.compilation (.statement v.typeName))

end Client

end QueryBuilder
