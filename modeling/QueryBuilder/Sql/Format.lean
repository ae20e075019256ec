import QueryBuilder.Sql.Piece

/-!
Statements for drivers that take unnumbered placeholders. A placeholder that occurs twice passes its
value twice.
-/
namespace QueryBuilder

namespace Compiled

/-- Percent signs are doubled, so that they stand for themselves. -/
def doublePercent (cs : List Char) : List Char :=
  cs.flatMap fun c => if c = '%' then ['%', '%'] else [c]

/-- The parameter whose number the digits of a placeholder spell. -/
def argument (parameters : List Value) (digits : List Char) : Except Error Value := do
  let n ← readNumber digits
  match if n = 0 then none else parameters[n - 1]? with
  | none => .error (.compilation (.placeholder n))
  | some v => .ok v

/-- The text of tokens with unnumbered placeholders, and the values in the order of occurrence. -/
def formatTokens (parameters : List Value) :
    List Text.SqlToken → Except Error (List Char × List Value)
  | [] => .ok ([], [])
  | .placeholder digits :: ts => do
    let v ← argument parameters digits
    let (cs, vs) ← formatTokens parameters ts
    .ok ('%' :: 's' :: cs, v :: vs)
  | t :: ts => do
    let (cs, vs) ← formatTokens parameters ts
    .ok (t.chars ++ cs, vs)

/-- The statement with `%s` for every placeholder. -/
def toFormat (c : Compiled) : Except Error Compiled := do
  let (cs, vs) ← formatTokens c.parameters (Text.sqlTokens (doublePercent c.sql.toList))
  .ok ⟨String.ofList cs, vs⟩

end Compiled

end QueryBuilder
