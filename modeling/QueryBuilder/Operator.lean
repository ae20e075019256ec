import QueryBuilder.Text.Blank
import QueryBuilder.Text.Case

/-!
The operators of conditions, the directions of a sort and the kinds of a join, with their spellings,
and the constants that are values of their own.
-/
namespace QueryBuilder

inductive Comparison where
  | equal | notEqual | less | lessOrEqual | greater | greaterOrEqual
  | like | ilike | isIn | isNotIn | is | isNot
  deriving DecidableEq, Repr, Inhabited

namespace Comparison

/-- Every comparison, in the order in which messages list them. -/
def all : List Comparison :=
  [.equal, .notEqual, .less, .lessOrEqual, .greater, .greaterOrEqual, .like, .ilike, .isIn,
   .isNotIn, .is, .isNot]

def text : Comparison → String
  | equal => "="
  | notEqual => "!="
  | less => "<"
  | lessOrEqual => "<="
  | greater => ">"
  | greaterOrEqual => ">="
  | like => "like"
  | ilike => "ilike"
  | isIn => "in"
  | isNotIn => "not in"
  | is => "is"
  | isNot => "is not"

def sql : Comparison → String
  | like => "LIKE"
  | ilike => "ILIKE"
  | isIn => "IN"
  | isNotIn => "NOT IN"
  | is => "IS"
  | isNot => "IS NOT"
  | op => op.text

def symbol : Comparison → String
  | equal => "EQ"
  | notEqual => "NE"
  | less => "LT"
  | lessOrEqual => "LTE"
  | greater => "GT"
  | greaterOrEqual => "GTE"
  | like => "LIKE"
  | ilike => "ILIKE"
  | isIn => "IN"
  | isNotIn => "NOT_IN"
  | is => "IS"
  | isNot => "IS_NOT"

/-- Membership takes a list of values. -/
def isMembership : Comparison → Bool
  | isIn | isNotIn => true
  | _ => false

/-- Null tests bind no value. -/
def isNullTest : Comparison → Bool
  | is | isNot => true
  | _ => false

def ofText? (s : String) : Option Comparison :=
  all.find? fun op => op.text == s

/-- Runs of blanks become one space; `gap` tells that a run has just been written. -/
def collapse (gap : Bool) : List Char → List Char
  | [] => []
  | c :: cs =>
    if Text.isBlank c then if gap then collapse true cs else ' ' :: collapse true cs
    else c :: collapse false cs

/-- Reads an operator in any case and with any blanks; `<>` and `==` are accepted too. -/
def read? (s : String) : Option Comparison :=
  let key := String.ofList (collapse false (Text.lower (Text.trim s)).toList)
  if key == "<>" then some notEqual
  else if key == "==" then some equal
  else ofText? key

end Comparison

inductive Connective where
  | and | or
  deriving DecidableEq, Repr, Inhabited

namespace Connective

def text : Connective → String
  | and => "AND"
  | or => "OR"

/-- What a connective of no conditions means. -/
def identity : Connective → Bool
  | and => true
  | or => false

/-- The name of the function that combines conditions with this connective. -/
def combinator : Connective → String
  | and => "and_"
  | or => "or_"

def ofText? (s : String) : Option Connective :=
  [and, or].find? fun op => op.text == s

end Connective

inductive ArrayOperator where
  | contains | containedBy | overlaps | hasAny | hasAll
  deriving DecidableEq, Repr, Inhabited

namespace ArrayOperator

def all : List ArrayOperator := [.contains, .containedBy, .overlaps, .hasAny, .hasAll]

def text : ArrayOperator → String
  | contains => "contains"
  | containedBy => "contained_by"
  | overlaps => "overlaps"
  | hasAny => "has_any"
  | hasAll => "has_all"

def symbol : ArrayOperator → String
  | contains => "CONTAINS"
  | containedBy => "CONTAINED_BY"
  | overlaps => "OVERLAPS"
  | hasAny => "HAS_ANY"
  | hasAll => "HAS_ALL"

def sql : ArrayOperator → String
  | contains => "@>"
  | containedBy => "<@"
  | overlaps => "&&"
  | hasAny => "ANY"
  | hasAll => "ALL"

/-- Holds of the operators whose right side is an array; the others quantify over the column. -/
def takesList : ArrayOperator → Bool
  | hasAny | hasAll => false
  | _ => true

def ofText? (s : String) : Option ArrayOperator :=
  all.find? fun op => op.text == s

end ArrayOperator

/-- Operators on a jsonb column or on a field inside it. -/
inductive JsonbOperator where
  | contains | containedBy | hasKey | hasAnyKey | hasAllKeys
  | fieldEquals | fieldNotEquals | fieldContains | fieldExists | fieldIsNull
  deriving DecidableEq, Repr, Inhabited

namespace JsonbOperator

def all : List JsonbOperator :=
  [.contains, .containedBy, .hasKey, .hasAnyKey, .hasAllKeys, .fieldEquals, .fieldNotEquals,
   .fieldContains, .fieldExists, .fieldIsNull]

def text : JsonbOperator → String
  | contains => "contains"
  | containedBy => "contained_by"
  | hasKey => "has_key"
  | hasAnyKey => "has_any_key"
  | hasAllKeys => "has_all_keys"
  | fieldEquals => "field_equals"
  | fieldNotEquals => "field_not_equals"
  | fieldContains => "field_contains"
  | fieldExists => "field_exists"
  | fieldIsNull => "field_is_null"

def symbol : JsonbOperator → String
  | contains => "CONTAINS"
  | containedBy => "CONTAINED_BY"
  | hasKey => "HAS_KEY"
  | hasAnyKey => "HAS_ANY_KEY"
  | hasAllKeys => "HAS_ALL_KEYS"
  | fieldEquals => "FIELD_EQUALS"
  | fieldNotEquals => "FIELD_NOT_EQUALS"
  | fieldContains => "FIELD_CONTAINS"
  | fieldExists => "FIELD_EXISTS"
  | fieldIsNull => "FIELD_IS_NULL"

def sql : JsonbOperator → String
  | contains | fieldContains => "@>"
  | containedBy => "<@"
  | hasKey | fieldExists => "?"
  | hasAnyKey => "?|"
  | hasAllKeys => "?&"
  | fieldEquals => "="
  | fieldNotEquals => "!="
  | fieldIsNull => "IS NULL"

/-- Field operators apply to a path below the column, the others to the whole document. -/
def isField : JsonbOperator → Bool
  | fieldEquals | fieldNotEquals | fieldContains | fieldExists | fieldIsNull => true
  | _ => false

def ofText? (s : String) : Option JsonbOperator :=
  all.find? fun op => op.text == s

end JsonbOperator

inductive SortDirection where
  | asc | desc
  deriving DecidableEq, Repr, Inhabited

namespace SortDirection

def text : SortDirection → String
  | asc => "ASC"
  | desc => "DESC"

def ofText? (s : String) : Option SortDirection :=
  [asc, desc].find? fun d => d.text == s

/-- Reads a direction in any case and with blanks around it. -/
def read? (s : String) : Option SortDirection :=
  ofText? (Text.upperKeyword (Text.trim s))

end SortDirection

inductive JoinKind where
  | inner | left | right | full
  deriving DecidableEq, Repr, Inhabited

namespace JoinKind

def text : JoinKind → String
  | inner => "INNER"
  | left => "LEFT"
  | right => "RIGHT"
  | full => "FULL"

def ofText? (s : String) : Option JoinKind :=
  [inner, left, right, full].find? fun k => k.text == s

end JoinKind

/-- A constant of an enumeration, as it can be passed as a value. -/
inductive Constant where
  | comparison (op : Comparison)
  | connective (op : Connective)
  | array (op : ArrayOperator)
  | jsonb (op : JsonbOperator)
  | direction (d : SortDirection)
  deriving DecidableEq, Repr

namespace Constant

def typeName : Constant → String
  | comparison _ => "ComparisonOp"
  | connective _ => "LogicalOp"
  | array _ => "ArrayOp"
  | jsonb _ => "StructuredOp"
  | direction _ => "SortDirection"

def symbol : Constant → String
  | comparison op => op.symbol
  | connective op => op.text
  | array op => op.symbol
  | jsonb op => op.symbol
  | direction d => d.text

def text : Constant → String
  | comparison op => op.text
  | connective op => op.text
  | array op => op.text
  | jsonb op => op.text
  | direction d => d.text

end Constant

end QueryBuilder
