import QueryBuilder.Proofs.Sql.Filled
import QueryBuilder.Sql.Clause

/-!
The places of a statement where values are bound, read off the statement itself.
-/
namespace QueryBuilder

/-- A place where a value or the parameters of a fragment are bound. -/
inductive Site where
  | value (v : Value)
  | fragment (sql : String) (params : List Value)

namespace Site

/-- What the site binds: one value, or the parameters of its fragment once and in order. -/
def values : Site → List Value
  | value v => [v]
  | fragment _ params => params

/-- Holds unless the site is a fragment with an open quote or a placeholder that is not its own. -/
def IsClosed : Site → Prop
  | value _ => True
  | fragment sql params => ClosedFragment sql.toList params.length

end Site

/-- An operand is bound unless it is a column; a fragment brings its own parameters. -/
def Value.sites : Value → List Site
  | .column _ | .columnDraft _ => []
  | .condition (.raw sql params) => [.fragment sql params]
  | v => [.value v]

def Value.itemSites (v : Value) : List Site :=
  (v.items?.getD []).flatMap Value.sites

/-- The text that stands for the value in a document. -/
def Value.documentText (v : Value) : String :=
  match v.document with
  | .ok text => text
  | .error _ => ""

def Comparison.sites (op : Comparison) (value : Value) : List Site :=
  if op.isNullTest then []
  else if op.isMembership then value.itemSites
  else value.sites

def ArrayOperator.sites (op : ArrayOperator) (operand : Value) : List Site :=
  if op.takesList then operand.itemSites else operand.sites

/-- Documents and texts of fields are bound as texts, keys as they are, lists of keys as lists. -/
def JsonbOperator.sites (op : JsonbOperator) (path : List String) (operand : Value) : List Site :=
  match op with
  | .contains | .containedBy | .fieldContains => [.value (.str operand.documentText)]
  | .hasKey | .hasAnyKey | .hasAllKeys =>
    [.value (if operand.isText then operand else .list (operand.items?.getD []))]
  | .fieldExists => path.getLast?.toList.map fun key => .value (.str key)
  | .fieldEquals | .fieldNotEquals => [.value (.str (operand.text?.getD operand.documentText))]
  | .fieldIsNull => []

mutual

/-- The sites of a condition from left to right. -/
def Condition.sites : Condition → List Site
  | .comparison _ op value => op.sites value
  | .logical _ children => sitesOf children
  | .negation child => child.sites
  | .array _ op operand _ => op.sites operand
  | .jsonb _ op path operand => op.sites path operand
  | .raw sql params => [.fragment sql params]
  | .stray _ | .draft _ _ => []
termination_by structural c => c

def sitesOf : List Condition → List Site
  | [] => []
  | c :: cs => c.sites ++ sitesOf cs
termination_by structural cs => cs

end

/-- Row by row, the values of the columns of the statement; a row without one has a default. -/
def InsertQuery.rowSites (q : InsertQuery) : List Site :=
  q.rows.flatMap fun row => q.columns.flatMap fun column => (row.lookup column).elim [] Value.sites

def ConflictClause.sites (c : ConflictClause) : List Site :=
  match c.action with
  | .nothing => []
  | .update => c.updates.flatMap fun u => u.2.sites

/-- The sites of a statement in the order in which it is written. -/
def Statement.sites : Statement → List Site
  | .select q => q.filter.elim [] Condition.sites
  | .insert q => q.rowSites ++ q.conflict.elim [] ConflictClause.sites

namespace Piece

def site? : Piece → Option Site
  | text _ => none
  | bind v => some (.value v)
  | raw sql params _ => some (.fragment sql params)

theorem bound_eq_sites (ps : List Piece) : bound ps = (ps.filterMap site?).flatMap Site.values := by
  induction ps with
  | nil => rfl
  | cons p ps ih =>
    have hb : bound (p :: ps) = p.values ++ bound ps := rfl
    rw [hb, ih]
    cases p <;> rfl

end Piece

end QueryBuilder
