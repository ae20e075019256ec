import QueryBuilder.Proofs.Condition.Formula
import QueryBuilder.Sql.Layout

/-!
Reading a formula with the precedence of SQL: parentheses, then NOT, then AND, then OR. Conditions
without connectives are read as single letters. A run of one connective is one group, and
parentheses around a single part add nothing.
-/
namespace QueryBuilder

/-- A stretch of text, or all of what a condition without connectives writes. -/
inductive Stretch where
  | text (s : String)
  | leaf (c : Condition)

/-- A letter of a text in which a condition without connectives counts as one. -/
inductive Letter where
  | char (c : Char)
  | leaf (c : Condition)

def Stretch.letters : Stretch → List Letter
  | text s => s.toList.map .char
  | leaf c => [.leaf c]

namespace Letter

def char? : Letter → Option Char
  | char c => some c
  | leaf _ => none

/-- What a letter means that ends the word before it. -/
def delimiter? : Letter → Option (List LogicToken)
  | char '(' => some [.opening]
  | char ')' => some [.closing]
  | char ' ' => some []
  | _ => none

end Letter

def keywords : List (String × LogicToken) :=
  [("NOT", .negation), ("AND", .connective .and), ("OR", .connective .or), ("true", .truth true),
    ("false", .truth false)]

/-- The token of a word: a condition by itself, or a keyword. -/
def wordTokens : List Letter → Option (List LogicToken)
  | [] => some []
  | [.leaf c] => some [.leaf c]
  | ls => do
    let cs ← ls.mapM Letter.char?
    let token ← keywords.lookup (String.ofList cs)
    some [token]

/-- The tokens of a text, behind the letters of a word that has begun. -/
def lex (word : List Letter) : List Letter → Option (List LogicToken)
  | [] => wordTokens word
  | l :: ls =>
    match l.delimiter? with
    | some ts => do some ((← wordTokens word) ++ ts ++ (← lex [] ls))
    | none => lex (word ++ [l]) ls

/-- Several parts make a group, one is the formula itself. -/
def groupOf (op : Connective) : List Formula → Formula
  | [f] => f
  | fs => .group op fs

def negateTimes : Nat → Formula → Formula
  | 0, f => f
  | n + 1, f => negateTimes n (.negation f)

/-- A formula that is being read, up to the next parenthesis that closes it: the parts of its OR
that are complete, those of the AND behind them, and the negations of the part that comes next.
The latest parts come first. -/
structure Partial where
  ors : List Formula := []
  ands : List Formula := []
  nots : Nat := 0

namespace Partial

def take (p : Partial) (f : Formula) : Partial :=
  ⟨p.ors, negateTimes p.nots f :: p.ands, 0⟩

/-- Goes on behind a connective; OR completes the AND before it. -/
def next (p : Partial) : Connective → Partial
  | .and => p
  | .or => ⟨groupOf .and p.ands.reverse :: p.ors, [], p.nots⟩

def formula (p : Partial) : Formula :=
  groupOf .or (groupOf .and p.ands.reverse :: p.ors).reverse

end Partial

mutual

/-- Reads a part of a formula and all that follows, inside the parentheses that are open. -/
def readPart (p : Partial) (outer : List Partial) : List LogicToken → Option Formula
  | .negation :: ts => readPart { p with nots := p.nots + 1 } outer ts
  | .opening :: ts => readPart {} (p :: outer) ts
  | .leaf c :: ts => readBehind (p.take (.atom c)) outer ts
  | .truth b :: ts => readBehind (p.take (.truth b)) outer ts
  | _ => none
termination_by structural ts => ts

def readBehind (p : Partial) (outer : List Partial) : List LogicToken → Option Formula
  | .connective op :: ts => readPart (p.next op) outer ts
  | .closing :: ts =>
    match outer with
    | [] => none
    | q :: outer => readBehind (q.take p.formula) outer ts
  | [] => if outer.isEmpty then some p.formula else none
  | _ => none
termination_by structural ts => ts

end

/-- Reads the formula that a text spells. -/
def readFormula (text : List Stretch) : Option Formula := do
  let tokens ← lex [] (text.flatMap Stretch.letters)
  readPart {} [] tokens

/-- AND binds tighter than OR, and NOT tighter than both; parentheses come first. -/
example (a b c : Condition) :
    readFormula [.text "NOT ", .leaf a, .text " AND ", .leaf b, .text " OR NOT (", .leaf b,
      .text " OR ", .leaf c, .text ")"] =
    some (.group .or [.group .and [.negation (.atom a), .atom b],
      .negation (.group .or [.atom b, .atom c])]) := rfl

end QueryBuilder
