import QueryBuilder.Identifier
import QueryBuilder.Schema

/-!
The tables that a statement can refer to, and the columns that belong to them. An aliased table is
known by its alias alone.
-/
namespace QueryBuilder

/-- Tables in the order in which they were added, the first one after FROM. -/
structure Scope where
  tables : List TableRef := []
  schema : Option Schema := none
  deriving Repr

/-- A column as it is to be written, and the table it belongs to where that is known. -/
structure ResolvedColumn where
  reference : ColumnReference
  table : Option TableRef
  deriving DecidableEq, Repr

namespace Scope

def qualifiers (s : Scope) : List String :=
  s.tables.map TableRef.qualifier

def find? (s : Scope) (qualifier : String) : Option TableRef :=
  s.tables.find? fun t => t.qualifier == qualifier

def root? (s : Scope) : Option TableRef :=
  s.tables.head?

/-- Adds a table under its qualifier, which must be new. -/
def add (s : Scope) (t : TableRef) : Except Error Scope :=
  match s.find? t.qualifier with
  | some existing => .error (.duplicateQualifier t.qualifier existing.name t.name)
  | none => .ok { s with tables := s.tables ++ [t] }

def addAll (s : Scope) : List TableRef → Except Error Scope
  | [] => .ok s
  | t :: ts => do
    let s ← s.add t
    s.addAll ts

def columnsOf (t : TableRef) (info : TableInfo) : List (String × TableRef) :=
  info.columnNames.map fun c => (c, t)

/-- The columns of all tables in order, if the schema describes every table. -/
def describedColumns (schema : Schema) : List TableRef → Option (List (String × TableRef))
  | [] => some []
  | t :: ts => do
    let info ← schema.table? t.name
    let rest ← describedColumns schema ts
    some (columnsOf t info ++ rest)

/-- The columns in scope with their tables, if there is a schema that describes all of them. -/
def columns? (s : Scope) : Option (List (String × TableRef)) :=
  match s.schema with
  | none => none
  | some schema => if s.tables.isEmpty then none else describedColumns schema s.tables

/-- The tables that own a column, once for each time they list it. -/
def owners (columns : List (String × TableRef)) (name : String) : List TableRef :=
  (columns.filter fun c => c.1 == name).map Prod.snd

/-- Names in code point order, each once. -/
def sortedNames (names : List String) : List String :=
  names.eraseDups.mergeSort fun a b => a ≤ b

/-- The bare names that belong to one column only, in code point order. -/
def unambiguous? (s : Scope) : Option (List String) :=
  s.columns?.map fun columns =>
    sortedNames ((columns.map Prod.fst).filter fun c => (owners columns c).length == 1)

/-- Why a qualifier that no table has cannot be used. -/
def qualifierError (s : Scope) (r : ColumnReference) (qualifier : String) : Error :=
  let aliased := s.tables.findSome? fun t =>
    (givenName t.aliasName).bind fun aliasName =>
      if t.name == qualifier then some (t.name, aliasName) else none
  match aliased with
  | some (table, aliasName) => .aliasedTable r.text table aliasName
  | none => .unresolved (.str r.text) (.unknownQualifier qualifier) s.qualifiers

/-- The schema, if it describes the table, lists the column. -/
def checkColumn (s : Scope) (t : TableRef) (r : ColumnReference) : Except Error Unit :=
  match s.schema.bind fun schema => schema.table? t.name with
  | none => .ok ()
  | some info =>
    if r.column == "*" || info.columnNames.contains r.column then .ok ()
    else .error (.unresolved (.str r.text) (.unknownColumn t.name r.column) info.columnNames)

/-- The table of a bare column: the only table, or the only owner if all tables are described.
Errors show `name`. -/
def ownerOfBare (s : Scope) (column : String) (name : Value) : Except Error (Option TableRef) :=
  match s.columns? with
  | none =>
    match s.tables with
    | [t] => .ok (some t)
    | _ => .ok none
  | some columns =>
    match owners columns column with
    | [] => .error (.unresolved name .unowned (sortedNames (columns.map Prod.fst)))
    | [t] => .ok (some t)
    | ts => .error (.unresolved name .ambiguous (ts.map fun t => s!"{t.qualifier}.{name.text}"))

/-- Finds the table of a column. A bare column takes the default qualifier if there is one; the
extra names are accepted as they are. -/
def resolve (s : Scope) (r : ColumnReference) (default? : Option String := none)
    (extra : List String := []) : Except Error ResolvedColumn :=
  match r.qualifier with
  | some q =>
    match s.find? q with
    | none => .error (s.qualifierError r q)
    | some t => do
      s.checkColumn t r
      .ok ⟨r, some t⟩
  | none =>
    match default? with
    | some q =>
      match s.find? q with
      | none => .error (.unresolved (.str r.text) (.unknownQualifier q) s.qualifiers)
      | some t => do
        s.checkColumn t r
        .ok ⟨r.withQualifier q, some t⟩
    | none =>
      if r.column == "*" || extra.contains r.column then .ok ⟨r, none⟩
      else do .ok ⟨r, ← s.ownerOfBare r.column (.str r.text)⟩

/-- Reads a column name and finds its table. -/
def resolveName (s : Scope) (name : String) (default? : Option String := none)
    (extra : List String := []) : Except Error ResolvedColumn := do
  s.resolve (← ColumnReference.parse name) default? extra

/-- Finds the table of a column that is named by any value. A constant names the column of its text;
byte strings are only looked at for blanks. -/
def resolveValue (s : Scope) (name : Value) (extra : List String := []) :
    Except Error ResolvedColumn :=
  match name with
  | .str text => s.resolveName text none extra
  | .bytes bs | .byteArray bs =>
    if bs.all Text.isBlankByte then .error (.empty .column name)
    else .error (.wrongType name.typeName)
  | _ =>
    match name.text? with
    | none => .error (.noSuchMember "strip")
    | some text => do
      checkColumnName text name
      .ok ⟨⟨none, text⟩, ← if extra.contains text then .ok none else s.ownerOfBare text name⟩

end Scope

end QueryBuilder
