import Mathlib.Data.List.Forall2
import QueryBuilder.Query
import QueryBuilder.Sql.Predicate

/-!
Statements that differ in bound values only. Columns and fragments in the place of a value are part
of the statement and stay, and so do the lengths of lists.
-/
namespace QueryBuilder

/-- Fields of drafts that differ at most in the one of the given name, where they are related. -/
structure AlikeBut (name : String) (r : Value → Value → Prop) (fs gs : List (String × Value)) :
    Prop where
  others : ∀ n, n ≠ name → fs.lookup n = gs.lookup n
  related : Option.Rel r (fs.lookup name) (gs.lookup name)

namespace Value

/-- Holds of values of which both have the same number of parts, if both have one. -/
def AlikeParams (v w : Value) : Prop :=
  ∀ vs ws, v.parts? = some vs → w.parts? = some ws → vs.length = ws.length

/-- Holds of values that are bound where an operand is written. -/
def isBound : Value → Bool
  | .column _ | .columnDraft _ | .condition (.raw _ _) | .condition (.draft .raw _) => false
  | _ => true

/-- Operands of which both are bound, or that write the same text with as many parameters. -/
inductive Alike : Value → Value → Prop
  | bound {v w : Value} (hv : v.isBound = true) (hw : w.isBound = true) : v.Alike w
  | fragment {sql : String} {ps qs : List Value} (h : ps.length = qs.length) :
      (Value.condition (.raw sql ps)).Alike (.condition (.raw sql qs))
  | draft {fs gs : List (String × Value)} (h : AlikeBut "params" AlikeParams fs gs) :
      (Value.condition (.draft .raw fs)).Alike (.condition (.draft .raw gs))
  | same (v : Value) : v.Alike v

/-- The items that are written one by one where a list is expected. -/
def elements (v : Value) : List Value :=
  v.walk?.getD []

/-- The items of a list or a tuple. -/
def row? : Value → Option (List Value)
  | list xs | tuple xs => some xs
  | _ => none

end Value

/-- Operands of a comparison: items one by one for membership, nothing for a null test. -/
def Comparison.AlikeOperands (op : Comparison) (v w : Value) : Prop :=
  if op.isNullTest then True
  else if op.isMembership then List.Forall₂ Value.Alike v.elements w.elements
  else v.Alike w

def ArrayOperator.AlikeOperands (op : ArrayOperator) (v w : Value) : Prop :=
  if op.takesList then List.Forall₂ Value.Alike v.elements w.elements else v.Alike w

/-- Operands of a draft of a comparison, whose operator need not be one. -/
def Draft.AlikeComparison (fields : List (String × Value)) (v w : Value) : Prop :=
  match fields.lookup "operator" with
  | some (.constant (.comparison op)) => op.AlikeOperands v w
  | _ => v.Alike w

/-- Operands of a draft of an array condition, whose operator is known by its text. -/
def Draft.AlikeArray (fields : List (String × Value)) (v w : Value) : Prop :=
  ∀ op, ((fields.lookup "operator").bind Value.text?).bind ArrayOperator.ofText? = some op →
    op.AlikeOperands v w

mutual

/-- Conditions of one form with one set of columns and operators, and alike in their operands. The
operand of an operator on documents is bound whatever it is. -/
inductive Condition.Alike : Condition → Condition → Prop
  | comparison {column : String} {op : Comparison} {v w : Value} (h : op.AlikeOperands v w) :
      (Condition.comparison column op v).Alike (.comparison column op w)
  | logical {op : Connective} {cs ds : List Condition} (h : AlikeAll cs ds) :
      (Condition.logical op cs).Alike (.logical op ds)
  | negation {c d : Condition} (h : c.Alike d) : (Condition.negation c).Alike (.negation d)
  | array {column : String} {op : ArrayOperator} {v w : Value} {elementType : Option String}
      (h : op.AlikeOperands v w) :
      (Condition.array column op v elementType).Alike (.array column op w elementType)
  | jsonb {column : String} {op : JsonbOperator} {path : List String} {v w : Value} :
      (Condition.jsonb column op path v).Alike (.jsonb column op path w)
  | raw {sql : String} {ps qs : List Value} (h : ps.length = qs.length) :
      (Condition.raw sql ps).Alike (.raw sql qs)
  | comparisonDraft {fs gs : List (String × Value)}
      (h : AlikeBut "value" (Draft.AlikeComparison fs) fs gs) :
      (Condition.draft .comparison fs).Alike (.draft .comparison gs)
  | arrayDraft {fs gs : List (String × Value)}
      (h : AlikeBut "operand" (Draft.AlikeArray fs) fs gs) :
      (Condition.draft .array fs).Alike (.draft .array gs)
  | jsonbDraft {fs gs : List (String × Value)} (h : AlikeBut "operand" (fun _ _ => True) fs gs) :
      (Condition.draft .jsonb fs).Alike (.draft .jsonb gs)
  | rawDraft {fs gs : List (String × Value)} (h : AlikeBut "params" Value.AlikeParams fs gs) :
      (Condition.draft .raw fs).Alike (.draft .raw gs)
  | negationDraft {fs gs : List (String × Value)} {c d : Condition}
      (hc : fs.lookup "child" = some (.condition c)) (hd : gs.lookup "child" = some (.condition d))
      (h : c.Alike d) : (Condition.draft .negation fs).Alike (.draft .negation gs)
  | logicalDraft {fs gs : List (String × Value)} {v w : Value} {vs ws : List Value}
      (ho : fs.lookup "operator" = gs.lookup "operator") (hv : fs.lookup "children" = some v)
      (hw : gs.lookup "children" = some w) (hvs : v.row? = some vs) (hws : w.row? = some ws)
      (h : AlikeParts vs ws) : (Condition.draft .logical fs).Alike (.draft .logical gs)
  | same (c : Condition) : c.Alike c

inductive AlikeAll : List Condition → List Condition → Prop
  | nil : AlikeAll [] []
  | cons {c d : Condition} {cs ds : List Condition} (h : c.Alike d) (hs : AlikeAll cs ds) :
      AlikeAll (c :: cs) (d :: ds)

/-- Alike conditions among values that are the same. -/
inductive AlikeParts : List Value → List Value → Prop
  | nil : AlikeParts [] []
  | condition {c d : Condition} {vs ws : List Value} (h : c.Alike d) (hs : AlikeParts vs ws) :
      AlikeParts (.condition c :: vs) (.condition d :: ws)
  | same {v : Value} {vs ws : List Value} (hs : AlikeParts vs ws) : AlikeParts (v :: vs) (v :: ws)

end

/-- Rows and assignments with the same columns in the same order. -/
def AlikeFields (fs gs : List (String × Value)) : Prop :=
  List.Forall₂ (fun f g => f.1 = g.1 ∧ f.2.Alike g.2) fs gs

structure ConflictClause.Alike (c d : ConflictClause) : Prop where
  columns : c.columns = d.columns
  constraint : c.constraint = d.constraint
  action : c.action = d.action
  updates : AlikeFields c.updates d.updates

structure SelectQuery.Alike (q r : SelectQuery) : Prop where
  table : q.table = r.table
  joins : q.joins = r.joins
  items : q.items = r.items
  filter : Option.Rel Condition.Alike q.filter r.filter
  orderBy : q.orderBy = r.orderBy
  limit : q.limit = r.limit
  offset : q.offset = r.offset

structure InsertQuery.Alike (q r : InsertQuery) : Prop where
  table : q.table = r.table
  rows : List.Forall₂ AlikeFields q.rows r.rows
  conflict : Option.Rel ConflictClause.Alike q.conflict r.conflict
  returning : q.returning = r.returning

/-- Statements that differ in bound values only. -/
inductive Statement.Alike : Statement → Statement → Prop
  | select {q r : SelectQuery} (h : q.Alike r) : (Statement.select q).Alike (.select r)
  | insert {q r : InsertQuery} (h : q.Alike r) : (Statement.insert q).Alike (.insert r)

/-- Pieces of the same text that bind as many values. -/
inductive Piece.Alike : Piece → Piece → Prop
  | text (s : String) : (Piece.text s).Alike (.text s)
  | bind (v w : Value) : (Piece.bind v).Alike (.bind w)
  | raw {sql : String} {ps qs : List Value} {readable : Text.isReadable sql = true}
      (h : ps.length = qs.length) : (Piece.raw sql ps readable).Alike (.raw sql qs readable)

namespace Piece

theorem Alike.refl (p : Piece) : p.Alike p := by
  cases p with
  | text s => exact .text s
  | bind v => exact .bind v v
  | raw sql params => exact .raw rfl

theorem Alike.values {p q : Piece} (h : p.Alike q) : p.values.length = q.values.length := by
  cases h with
  | text s | bind v w => rfl
  | raw h => exact h

theorem Alike.render {p q : Piece} (h : p.Alike q) (d : Dialect) (offset : Nat) :
    p.render d offset = q.render d offset := by
  cases h with
  | text s | bind v w => rfl
  | raw h => simp only [Piece.render, h]

/-- Alike pieces make one text and bind as many values. -/
theorem renderAll_alike {ps qs : List Piece} (h : List.Forall₂ Alike ps qs) (d : Dialect)
    (offset : Nat) :
    renderAll d offset ps = renderAll d offset qs ∧ (bound ps).length = (bound qs).length := by
  induction h generalizing offset with
  | nil => exact ⟨rfl, rfl⟩
  | @cons p q ps qs hp _ ih =>
    obtain ⟨htext, hlength⟩ := ih (offset + q.values.length)
    constructor
    · rw [renderAll, renderAll, hp.render, hp.values, htext]
    · simp only [bound, List.flatMap_cons, List.length_append] at hlength ⊢
      rw [hp.values, hlength]

theorem separated_alike {w : String} {xss yss : List (List Piece)}
    (h : List.Forall₂ (List.Forall₂ Alike) xss yss) :
    List.Forall₂ Alike (separated w xss) (separated w yss) := by
  induction h with
  | nil => exact .nil
  | cons hx hr ih =>
    cases hr with
    | nil => exact hx
    | cons hy hr => exact List.rel_append hx (.cons (.text w) ih)

end Piece

end QueryBuilder
