import QueryBuilder.Proofs.Builder.Filter
import QueryBuilder.Proofs.Identifier.Bare
import QueryBuilder.Proofs.Sql.FormulaText

/-!
Parentheses keep the tree of a condition: the text after WHERE is read as the formula of the
condition, and so as all the filters together.
-/
namespace QueryBuilder

namespace Condition

/-- The text of a condition, where each condition without connectives stands for its own text. -/
def stretches (c : Condition) : List Stretch :=
  (c.layout .root).map LogicToken.stretch

end Condition

/-- Holds of tokens that spell a formula; inside a group they do so as one part. -/
def SpellsAt : Position → List LogicToken → Formula → Prop
  | .nested => SpellsPart
  | .root | .negated => Spells

theorem SpellsPart.at {ts : List LogicToken} {f : Formula} (h : SpellsPart ts f)
    (position : Position) : SpellsAt position ts f := by
  cases position with
  | nested => exact h
  | root | negated => exact .part h

/-- Wherever parentheses are left out, a run of parts may stand without. -/
theorem Spells.wrapped {ts : List LogicToken} {f : Formula} (h : Spells ts f) (position : Position)
    (count : Nat) (isDeep : Bool) :
    SpellsAt position (grouped (position.wraps count isDeep) ts) f := by
  cases position with
  | nested => exact .group h
  | negated => exact h
  | root =>
    unfold grouped
    split
    next => exact .part (.group h)
    next => exact h

mutual

/-- The tokens of a tree spell its formula. -/
theorem Condition.spells_layout : ∀ {c : Condition}, c.IsTree → ∀ position : Position,
    SpellsAt position (c.layout position) c.formula
  | .logical op [], _, position => (SpellsPart.truth op.identity).at position
  | .logical _ [_], h, position => Condition.spells_layout h.1 position
  | .logical op (_ :: _ :: _), h, position =>
    (Spells.run (Condition.spells_layout h.1 .nested) (spells_layoutRest op h.2)).wrapped
      position _ _
  | .negation c, h, position =>
    (SpellsPart.negation (Condition.spells_layout (c := c) h .negated)).at position
  | .comparison .., _, position => (SpellsPart.leaf _).at position
  | .array .., _, position => (SpellsPart.leaf _).at position
  | .jsonb .., _, position => (SpellsPart.leaf _).at position
  | .raw .., _, position => (SpellsPart.leaf _).at position
  | .stray _, _, position => (SpellsPart.leaf _).at position
  | .draft kind _, h, position => by
    cases kind with
    | comparison | array | jsonb | raw => exact (SpellsPart.leaf _).at position
    | logical | negation => exact h.elim

theorem spells_layoutRest (op : Connective) : ∀ {cs : List Condition}, AreTrees cs →
    SpellsRest op (Condition.layoutRest op cs) (formulas cs)
  | [], _ => .nil op
  | _ :: _, h => .cons (Condition.spells_layout h.1 .nested) (spells_layoutRest op h.2)

end

/-- The text of a tree is read as its formula. -/
theorem Condition.readFormula_stretches {c : Condition} (h : c.IsTree) :
    readFormula c.stretches = some c.formula :=
  readFormula_spelled (c.spells_layout h .root)

namespace Context

/-- What a stretch of text stands for as pieces. -/
def stretch (ctx : Context) : Stretch → Except Error (List Piece)
  | .text s => .ok [.text s]
  | .leaf c => ctx.leaf c

/-- A text with its conditions written out. -/
def written (ctx : Context) (text : List Stretch) : Except Error (List Piece) :=
  (forEach ctx.stretch text).map List.flatten

end Context

mutual

theorem SpellsPart.token (ctx : Context) : ∀ {ts : List LogicToken} {f : Formula},
    SpellsPart ts f → ∀ t ∈ ts, ctx.token t = ctx.stretch t.stretch
  | _, _, .truth b => by simp [Context.token, Context.stretch, LogicToken.stretch]
  | _, _, .leaf c => by simp [Context.token, Context.stretch, LogicToken.stretch]
  | _, _, .group h => by
    have hts := Spells.token ctx h
    simpa [or_imp, forall_and, Context.token, Context.stretch, LogicToken.stretch] using hts
  | _, _, .negation h => by
    have hts := Spells.token ctx h
    simpa [or_imp, forall_and, Context.token, Context.stretch, LogicToken.stretch] using hts

theorem Spells.token (ctx : Context) : ∀ {ts : List LogicToken} {f : Formula},
    Spells ts f → ∀ t ∈ ts, ctx.token t = ctx.stretch t.stretch
  | _, _, .part h => SpellsPart.token ctx h
  | _, _, .run h hs => fun t ht =>
    (List.mem_append.mp ht).elim (SpellsPart.token ctx h t) (SpellsRest.token ctx hs t)

theorem SpellsRest.token (ctx : Context) : ∀ {op : Connective} {ts : List LogicToken}
    {fs : List Formula}, SpellsRest op ts fs → ∀ t ∈ ts, ctx.token t = ctx.stretch t.stretch
  | _, _, _, .nil _ => by simp
  | op, _, _, .cons h hs => by
    intro t ht
    rw [List.cons_append, List.mem_cons, List.mem_append] at ht
    rcases ht with rfl | ht | ht
    · rfl
    · exact SpellsPart.token ctx h t ht
    · exact SpellsRest.token ctx hs t ht

end

/-- The text of a condition is what is written after WHERE. -/
theorem Context.predicate_eq_written (ctx : Context) {c : Condition} (h : c.IsTree) :
    ctx.predicate c = ctx.written c.stretches := by
  rw [Context.predicate, Context.tokens, Context.written, Condition.stretches, forEach_map]
  rw [forEach_congr (Spells.token ctx (c.spells_layout h .root))]

namespace SelectBuilder

def adult : Condition :=
  .comparison "age" .greater (.int 18)

def kept : Condition :=
  .raw "deleted_at IS NULL" []

def nestedTree : Condition :=
  .logical .and [.negation (.logical .or [adult, .logical .and []]), .logical .or [kept]]

/-- A function that answers with a list of conditions. -/
def listing : Callback :=
  ⟨some [⟨"eb", .positional false⟩], .ok (.list [.condition kept, .condition nestedTree])⟩

def nestedCalls : List SelectCall :=
  [.filter (.value (.str " age ")) (.str ">") (.int 18), .filter (.value .null) .null .null,
    .filter (.value (.condition nestedTree)) .null .null, .filter (.callback listing) .null .null]

end SelectBuilder

end QueryBuilder
