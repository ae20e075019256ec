import QueryBuilder.Condition.Check

/-!
Options of compilation.
-/
namespace QueryBuilder

structure Settings where
  /-- The element type of an empty array for which nothing else names one. -/
  elementType : String := "text"
  /-- Whether names that are reserved words are quoted. -/
  quoteReserved : Bool := true
  /-- Whether column names are checked against the schema. -/
  checkColumns : Bool := true
  deriving DecidableEq, Repr

namespace Settings

/-- Reads a type name of words. -/
def readElementType (v : Value) : Reading String :=
  match v.readText with
  | .ok s =>
    let name := Text.trim s
    if ElementType.isPlain name then .ok name else .issue .rejected
  | r => r

def read (es : Entries) : Reading Settings :=
  (fun elementType quoteReserved checkColumns (_ : Unit) =>
      ⟨elementType, quoteReserved, checkColumns⟩)
    <$> es.optional "default_array_element_type" "text" readElementType
    <*> es.optional "quote_reserved_identifiers" true Value.readBool
    <*> es.optional "check_columns" true Value.readBool
    <*> es.only ["default_array_element_type", "quote_reserved_identifiers", "check_columns"]

def make (fields : List (String × Value)) : Except Error Settings :=
  (read (fields.map fun f => (.str f.1, f.2))).toExcept

end Settings

end QueryBuilder
