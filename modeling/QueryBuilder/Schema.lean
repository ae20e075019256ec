import QueryBuilder.Reading

/-!
Descriptions of the tables and columns of a database.
-/
namespace QueryBuilder

structure ColumnInfo where
  name : String
  type : String
  nullable : Bool := true
  deriving DecidableEq, Repr

namespace ColumnInfo

/-- Array types end in brackets or begin with an underscore. -/
def isArray (c : ColumnInfo) : Bool :=
  c.type.endsWith "[]" || c.type.startsWith "_"

/-- The type of the elements of an array column, in lower case. -/
def elementType? (c : ColumnInfo) : Option String :=
  let cs := c.type.toList
  if c.type.endsWith "[]" then
    some (Text.lower (Text.trim (String.ofList (cs.take (cs.length - 2)))))
  else if c.type.startsWith "_" then some (Text.lower (String.ofList (cs.drop 1)))
  else none

end ColumnInfo

structure TableInfo where
  name : String
  columns : List ColumnInfo
  deriving DecidableEq, Repr

def TableInfo.columnNames (t : TableInfo) : List String :=
  t.columns.map ColumnInfo.name

structure Schema where
  tables : List TableInfo
  deriving DecidableEq, Repr

namespace Schema

def tableNames (s : Schema) : List String :=
  s.tables.map TableInfo.name

def table? (s : Schema) (name : String) : Option TableInfo :=
  s.tables.find? fun t => t.name == name

def column? (s : Schema) (table column : String) : Option ColumnInfo :=
  (s.table? table).bind fun t => t.columns.find? fun c => c.name == column

def columnNames (s : Schema) (table : String) : List String :=
  (s.table? table).elim [] TableInfo.columnNames

def elementType? (s : Schema) (table column : String) : Option String :=
  (s.column? table column).bind ColumnInfo.elementType?

end Schema

def readRecord {α : Type} (read : Entries → Reading α) (v : Value) : Reading α :=
  match v.entries? with
  | some es => read es
  | none => .issue .recordType

namespace Schema

def readColumn (v : Value) : Reading ColumnInfo :=
  readRecord (fun es =>
    (fun name type nullable (_ : Unit) => ⟨name, type, nullable⟩)
      <$> es.required "name" Value.readText
      <*> es.required "type" Value.readText
      <*> es.optional "nullable" true Value.readBool
      <*> es.only ["name", "type", "nullable"]) v

def readTable (v : Value) : Reading TableInfo :=
  readRecord (fun es =>
    (fun name columns (_ : Unit) => ⟨name, columns⟩)
      <$> es.required "name" Value.readText
      <*> es.required "columns" (Value.readList readColumn)
      <*> es.only ["name", "columns"]) v

def read (v : Value) : Reading Schema :=
  readRecord (fun es =>
    (fun tables (_ : Unit) => ⟨tables⟩)
      <$> es.required "tables" (Value.readList readTable)
      <*> es.only ["tables"]) v

end Schema

/-- A column as a database reports it. A name may be any value; a description takes only text. -/
structure ReportedColumn where
  name : Value
  type : String
  /-- Nothing if the database does not say. -/
  nullable : Option Bool

structure ReportedTable where
  name : Value
  columns : List ReportedColumn

namespace Schema

/-- Reads a name on its own, so that a fault is located at the name. -/
def readName (name : Value) : Except Error String :=
  (name.readText.below (.name "name")).toExcept

/-- A column is nullable unless it is said not to be. -/
def ofReportedColumn (c : ReportedColumn) : Except Error ColumnInfo := do
  .ok ⟨← readName c.name, c.type, c.nullable != some false⟩

/-- Reads the columns before the table's name. -/
def ofReportedTable (t : ReportedTable) : Except Error TableInfo := do
  let columns ← t.columns.mapM ofReportedColumn
  .ok ⟨← readName t.name, columns⟩

/-- Describes reported tables in the order given. -/
def ofReport (tables : List ReportedTable) : Except Error Schema := do
  .ok ⟨← tables.mapM ofReportedTable⟩

/-- Describes the tables of a database in the order of their names: all, or those asked for. -/
def reflect (tables : List TableInfo) (include? : Option (List String)) : Except Error Schema :=
  let sorted := tables.mergeSort fun a b => a.name ≤ b.name
  match include? with
  | none => .ok ⟨sorted⟩
  | some names =>
    match names.find? fun n => !tables.any fun t => t.name == n with
    | some n => .error (.noSuchTable n)
    | none => .ok ⟨sorted.filter fun t => names.contains t.name⟩

end Schema

end QueryBuilder
