import QueryBuilder.Identifier

/-!
How a database writes placeholders, names, literals and empty arrays.
-/
namespace QueryBuilder

structure Dialect where
  /-- The placeholder of the parameter with the given number, counted from one. -/
  placeholder : Int → String
  identifier : String → String
  literal : String → String
  /-- A literal of a value that need not be a text. -/
  literalOf : Value → Except Error String
  /-- An empty array of the given element type. -/
  emptyArray : String → String

namespace Dialect

/-- Encloses a text in marks and doubles the marks inside. -/
def enclose (mark : Char) (s : String) : String :=
  String.ofList
    (mark :: s.toList.flatMap (fun c => if c = mark then [c, c] else [c]) ++ [mark])

/-- PostgreSQL with numbered placeholders. Only reserved words are quoted, and only if asked for. -/
def postgres (quoteReserved : Bool := true) : Dialect where
  placeholder n := s!"${n}"
  identifier name :=
    if name ≠ "*" && quoteReserved && Identifier.isReserved name then enclose '"' name else name
  literal s := enclose '\'' s
  literalOf v :=
    match v with
    | .bytes _ | .byteArray _ => .error (.wrongType v.typeName)
    | _ =>
      match v.text? with
      | some s => .ok (enclose '\'' s)
      | none => .error (.noSuchMember "replace")
  emptyArray type := s!"ARRAY[]::{type}[]"

end Dialect

end QueryBuilder
