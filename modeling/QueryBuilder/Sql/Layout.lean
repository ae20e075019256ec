import QueryBuilder.Condition.Draft

/-!
The logical structure of a condition as a row of tokens: connectives, parentheses, constants, and
the other conditions as leaves. Parentheses are written where precedence would read another tree.
-/
namespace QueryBuilder

inductive LogicToken where
  | opening
  | closing
  | connective (op : Connective)
  | negation
  | truth (b : Bool)
  | leaf (c : Condition)
  /-- What a draft has in the place of a connective. -/
  | word (text : String)
  /-- Where a draft has no further tokens. -/
  | fault (error : Error)

/-- Where a condition stands: at the top, inside another connective, or inside the parentheses of a
negation. -/
inductive Position where
  | root | nested | negated
  deriving DecidableEq, Repr

namespace Condition

def isLogical : Condition → Bool
  | logical .. | draft .logical _ => true
  | _ => false

end Condition

/-- Whether a group is put in parentheses: one of more than two conditions, or of conditions of
which one `isDeep`, or one inside another. -/
def Position.wraps (position : Position) (count : Nat) (isDeep : Bool) : Bool :=
  match position with
  | .negated => false
  | .nested => true
  | .root => 2 < count || isDeep

/-- Puts tokens in parentheses if asked for. -/
def grouped (wrap : Bool) (tokens : List LogicToken) : List LogicToken :=
  if wrap then .opening :: tokens ++ [.closing] else tokens

/-- A value with the tokens that it has as a condition. -/
structure LogicPart where
  value : Value
  tokens : Position → List LogicToken

namespace LogicPart

/-- A value that is no condition. -/
def stray (v : Value) : LogicPart :=
  ⟨v, fun _ => [.leaf (.stray v)]⟩

def isLogical (p : LogicPart) : Bool :=
  p.value.condition?.any Condition.isLogical

def first : List LogicPart → Except Error LogicPart
  | [] => .error (.noSuchKey "0")
  | p :: _ => .ok p

end LogicPart

/-- A field of a draft, as one condition and as several. -/
structure DraftField where
  name : String
  whole : LogicPart
  /-- The items that the value has, if it has a number of them. -/
  parts : Option (List LogicPart)
  /-- The item at position zero. -/
  first : Except Error LogicPart

namespace DraftField

def find? (fields : List DraftField) (name : String) : Option DraftField :=
  fields.find? fun f => f.name == name

def negation (fields : List DraftField) : List LogicToken :=
  match find? fields "child" with
  | none => [.fault (.noSuchMember "child")]
  | some f => .negation :: .opening :: f.whole.tokens .negated ++ [.closing]

/-- Conditions inside a group, with a word between them. -/
def joined (word : String) : List LogicPart → List LogicToken
  | [] => []
  | [p] => p.tokens .nested
  | p :: q :: ps => p.tokens .nested ++ .word word :: joined word (q :: ps)

/-- What is written between the conditions of a group. -/
def word (fields : List DraftField) : Except Error String :=
  match find? fields "operator" with
  | none => .error (.noSuchMember "operator")
  | some f => (Draft.sign f.whole.value).map fun v => s!" {v.text} "

/-- The tokens of a group put together without checks. Of no conditions it has no meaning, as only
a connective has one. -/
def group (position : Position) (fields : List DraftField) : List LogicToken :=
  match find? fields "children" with
  | none => [.fault (.noSuchMember "children")]
  | some f =>
    match f.parts with
    | none =>
      [.fault (if f.whole.value.isVoid then .noSuchMember "identity"
        else .wrongType f.whole.value.typeName)]
    | some [] => [.fault (.noSuchMember "identity")]
    | some [_] =>
      match f.first with
      | .ok p => p.tokens position
      | .error e => [.fault e]
    | some ps =>
      match word fields with
      | .ok text => grouped (position.wraps ps.length (ps.any LogicPart.isLogical)) (joined text ps)
      | .error e => [.fault e]

end DraftField

namespace Condition

mutual

/-- Connectives of one condition are the condition itself, connectives of none a constant. -/
def layout (position : Position) : Condition → List LogicToken
  | .logical op [] => [.truth op.identity]
  | .logical _ [c] => layout position c
  | .logical op (c :: d :: cs) =>
    grouped (position.wraps (cs.length + 2) ((c :: d :: cs).any isLogical))
      (layout .nested c ++ layoutRest op (d :: cs))
  | .negation c => .negation :: .opening :: layout .negated c ++ [.closing]
  | .draft .logical fields => DraftField.group position (draftFields fields)
  | .draft .negation fields => DraftField.negation (draftFields fields)
  | c => [.leaf c]
termination_by structural c => c

/-- The further conditions of a group, each behind the connective. -/
def layoutRest (op : Connective) : List Condition → List LogicToken
  | [] => []
  | c :: cs => .connective op :: layout .nested c ++ layoutRest op cs
termination_by structural cs => cs

def draftFields : List (String × Value) → List DraftField
  | [] => []
  | (name, v) :: fields => ⟨name, valuePart v, valueParts v, firstPart v⟩ :: draftFields fields
termination_by structural fields => fields

def valuePart : Value → LogicPart
  | .condition c => ⟨.condition c, fun position => layout position c⟩
  | v => .stray v
termination_by structural v => v

def valueParts : Value → Option (List LogicPart)
  | .list xs | .tuple xs | .set xs | .frozenSet xs => some (itemParts xs)
  | .dict es => some (keyParts es)
  | v => v.parts?.map fun vs => vs.map LogicPart.stray
termination_by structural v => v

/-- The item at position zero: the first of a list, a text or a byte string, and what a mapping has
for the key zero. -/
def firstPart : Value → Except Error LogicPart
  | .list xs | .tuple xs => LogicPart.first (itemParts xs)
  | .dict es => zeroPart es
  | .set _ => .error (.wrongType "set")
  | .frozenSet _ => .error (.wrongType "frozenset")
  | v => LogicPart.first ((v.parts?.getD []).map LogicPart.stray)
termination_by structural v => v

def itemParts : List Value → List LogicPart
  | [] => []
  | v :: vs => valuePart v :: itemParts vs
termination_by structural vs => vs

def keyParts : List (Value × Value) → List LogicPart
  | [] => []
  | (k, _) :: es => valuePart k :: keyParts es
termination_by structural es => es

def zeroPart : List (Value × Value) → Except Error LogicPart
  | [] => .error (.noSuchKey "0")
  | (k, v) :: es => if k.sameKey (.int 0) then .ok (valuePart v) else zeroPart es
termination_by structural es => es

end

end Condition

end QueryBuilder
