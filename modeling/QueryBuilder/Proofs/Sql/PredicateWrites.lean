import QueryBuilder.Proofs.Sql.Assembly
import QueryBuilder.Proofs.Sql.LeafWrites

/-!
The pieces of sound conditions. Between two leaves there is always a connective or a parenthesis, so
the pieces of a tree write the sites of its leaves from left to right.
-/
namespace QueryBuilder

theorem isSpacer_connective (op : Connective) : isSpacer s!" {op.text} " = true := by
  cases op <;> decide

theorem writes_assembles : Assembles Writes where
  truth b := .text (.of_plain (by cases b <;> decide))
  group h := .tail (.lead (.of_plain (by decide)) (by decide) h) (.of_plain (by decide)) (by decide)
  negation h := .lead (.of_plain (by decide)) (by decide) h
  connective op hx hy := hx.join (isSpacer_connective op) hy

/-- The condition after WHERE writes its sites. -/
theorem Context.predicate_writes {ctx : Context} (hp : ctx.Plain) {c : Condition} (hs : c.Sound)
    {ps : List Piece} (h : ctx.predicate c = .ok ps) : Writes ps c.sites :=
  predicate_assembled writes_assembles hs
    (fun d hd _ hl => leaf_writes hp (hs.of_mem_leaves d hd).1 hl) h

end QueryBuilder
