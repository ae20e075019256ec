import QueryBuilder.Error

/-!
Identifiers, reserved words, and the expressions `table AS alias` and `column AS alias`.
-/
namespace QueryBuilder

/-- The words that no alias may be; a name that is one of them is quoted in SQL. -/
def reservedWords : List String :=
  ["select", "from", "where", "and", "or", "not", "in", "as", "on", "join", "left", "right",
   "inner", "outer", "full", "cross", "group", "order", "by", "having", "limit", "offset",
   "union", "intersect", "except", "case", "when", "then", "else", "end", "null", "true", "false",
   "distinct", "exists", "between", "like", "ilike", "similar", "is", "all", "any", "some", "asc",
   "desc", "table", "user", "with", "insert", "into", "values", "returning", "default",
   "conflict", "do", "update", "set"]

namespace Identifier

/-- Letters of ASCII and the underscore. -/
def isStart (c : Char) : Bool :=
  c.isAlpha || c == '_'

def isPart (c : Char) : Bool :=
  isStart c || c.isDigit

/-- A letter or underscore, then letters, digits and underscores. -/
def isValidChars : List Char → Bool
  | [] => false
  | c :: cs => isStart c && cs.all isPart

def isValid (name : String) : Bool :=
  isValidChars name.toList

def isReserved (name : String) : Bool :=
  reservedWords.contains (Text.lower name)

end Identifier

structure TableRef where
  name : String
  aliasName : Option String := none
  deriving DecidableEq, Repr, Inhabited

/-- An optional name that is not empty. -/
def givenName (name : Option String) : Option String :=
  name.filter (· ≠ "")

namespace TableRef

/-- The name that qualifies the columns of the table. -/
def qualifier (t : TableRef) : String :=
  (givenName t.aliasName).getD t.name

def text (t : TableRef) : String :=
  match givenName t.aliasName with
  | some aliasName => s!"{t.name} AS {aliasName}"
  | none => t.name

end TableRef

structure SelectItem where
  name : String
  aliasName : Option String := none
  deriving DecidableEq, Repr, Inhabited

/-- Holds of `*` and of `qualifier.*`. -/
def isStarName (name : String) : Bool :=
  name == "*" || name.endsWith ".*"

def SelectItem.isStar (item : SelectItem) : Bool :=
  isStarName item.name

namespace Text

/-- The parts of a text between the occurrences of a character. -/
def splitAt (mark : Char) : List Char → List (List Char)
  | [] => [[]]
  | c :: cs =>
    if c = mark then [] :: splitAt mark cs
    else
      match splitAt mark cs with
      | part :: parts => (c :: part) :: parts
      | [] => [[c]]

/-- The parts of a reference between its dots. -/
def parts (s : String) : List String :=
  (splitAt '.' s.toList).map String.ofList

end Text

/-- Checks that the parts of a column name are identifiers; `expression` is what errors report. -/
def checkParts (expression : Value) : List String → Except Error Unit
  | [] => .ok ()
  | part :: parts =>
    if part == "" then .error (.empty .column expression)
    else if !Identifier.isValid part then .error (.malformed expression (.notIdentifier part))
    else checkParts expression parts

/-- Accepts `column`, `qualifier.column`, `*` and `qualifier.*`. -/
def checkColumnName (name : String) (expression : Value) : Except Error Unit :=
  if Text.isBlankText name then .error (.empty .column expression)
  else if name == "*" then .ok ()
  else
    match Text.parts name with
    | [qualifier, column] =>
      checkParts expression (if column == "*" then [qualifier] else [qualifier, column])
    | [column] => checkParts expression [column]
    | _ => .error (.malformed expression .tooManyQualifiers)

namespace AliasSyntax

def isLetterA (c : Char) : Bool :=
  c == 'a' || c == 'A'

/-- The long s counts as a letter s. -/
def isLetterS (c : Char) : Bool :=
  c == 's' || c == 'S' || c == '\u017f'

/-- Holds if the text begins with the word AS. -/
def startsWithAs : List Char → Bool
  | [a, s] => isLetterA a && isLetterS s
  | a :: s :: c :: _ => isLetterA a && isLetterS s && Text.isBlank c
  | _ => false

/-- Holds if the text ends with the word AS. -/
def endsWithAs (cs : List Char) : Bool :=
  match cs.reverse with
  | [s, a] => isLetterS s && isLetterA a
  | s :: a :: c :: _ => isLetterS s && isLetterA a && Text.isBlank c
  | _ => false

/-- What follows the separator AS and its blanks, if the text begins with them. -/
def afterSeparator? (cs : List Char) : Option (List Char) :=
  match cs with
  | [] => none
  | c :: _ =>
    if !Text.isBlank c then none
    else
      match cs.dropWhile Text.isBlank with
      | a :: s :: b :: rest =>
        if isLetterA a && isLetterS s && Text.isBlank b then some (rest.dropWhile Text.isBlank)
        else none
      | _ => none

theorem length_of_afterSeparator? {cs rest : List Char} (h : afterSeparator? cs = some rest) :
    rest.length < cs.length := by
  unfold afterSeparator? at h
  split at h
  next => simp at h
  next c r =>
    split at h
    next => simp at h
    next =>
      split at h
      next a s b t ht =>
        split at h
        next =>
          cases h
          have h1 := (List.dropWhile_sublist Text.isBlank (l := t)).length_le
          have h2 := (List.dropWhile_sublist Text.isBlank (l := c :: r)).length_le
          rw [ht] at h2
          simp only [List.length_cons] at h2 ⊢
          omega
        next => simp at h
      next => simp at h

/-- Cuts a text at every separator AS. -/
def split (cs : List Char) : List (List Char) :=
  match h : afterSeparator? cs with
  | some rest =>
    have := length_of_afterSeparator? h
    [] :: split rest
  | none =>
    match cs with
    | [] => [[]]
    | c :: cs =>
      match split cs with
      | part :: parts => (c :: part) :: parts
      | [] => [[c]]
termination_by cs.length

/-- Reads a name and an optional alias from a value's text. -/
def read (subject : Subject) (value : Value) : Except Error (String × Option String) :=
  let text := if value.isNull then "" else value.text
  let cs := Text.trimChars text.toList
  if cs = [] then .error (.empty subject (.str text))
  else if startsWithAs cs then .error (.malformed value (.nameMissing subject))
  else if endsWithAs cs then .error (.malformed value .aliasMissing)
  else
    match split cs with
    | [name] => .ok (String.ofList name, none)
    | [name, aliasName] =>
      let aliasName := String.ofList aliasName
      if !Identifier.isValid aliasName then
        .error (.malformed value (.aliasNotIdentifier aliasName))
      else if Identifier.isReserved aliasName then
        .error (.malformed value (.aliasReserved aliasName))
      else .ok (String.ofList name, some aliasName)
    | _ => .error (.malformed value .aliasRepeated)

end AliasSyntax

/-- Reads `table` or `table AS alias`. -/
def TableRef.parse (value : Value) : Except Error TableRef := do
  let (name, aliasName) ← AliasSyntax.read .table value
  if Identifier.isValid name then .ok ⟨name, aliasName⟩
  else .error (.malformed value (.tableNotIdentifier name))

/-- Reads `column` or `column AS alias`, where the column may be qualified or a star. -/
def SelectItem.parse (value : Value) : Except Error SelectItem := do
  let (name, aliasName) ← AliasSyntax.read .column value
  checkColumnName name value
  if aliasName.isSome && isStarName name then .error (.malformed value .starAliased)
  else .ok ⟨name, aliasName⟩

structure ColumnReference where
  qualifier : Option String
  column : String
  deriving DecidableEq, Repr, Inhabited

namespace ColumnReference

def parse (name : String) : Except Error ColumnReference := do
  checkColumnName name (.str name)
  match Text.parts name with
  | [qualifier, column] => .ok ⟨some qualifier, column⟩
  | _ => .ok ⟨none, name⟩

def withQualifier (r : ColumnReference) (qualifier : String) : ColumnReference :=
  ⟨some qualifier, r.column⟩

def isQualified (r : ColumnReference) : Bool :=
  r.qualifier.isSome

def text (r : ColumnReference) : String :=
  match givenName r.qualifier with
  | some q => s!"{q}.{r.column}"
  | none => r.column

end ColumnReference

/-- A column as conditions name it: trimmed, and no star. -/
def readColumn (name : String) : Except Error String := do
  let name := Text.trim name
  checkColumnName name (.str name)
  if isStarName name then .error (.malformed (.str name) .starOutsideSelect) else .ok name

/-- A column reference without a rename, as joins and sorts take it. -/
def plainColumn (method : Method) (value : Value) : Except Error String := do
  if !value.isText then throw (.operand (.columnNameNotText method value.typeName) value)
  let item ← SelectItem.parse value
  if item.aliasName.isSome then .error (.malformed value .renameOutsideSelect)
  else if item.isStar then .error (.malformed value .starOutsideSelect)
  else .ok (← ColumnReference.parse item.name).text

/-- An unqualified column, as INSERT and ON CONFLICT take it. -/
def insertColumn (value : Value) : Except Error String :=
  match value.text? with
  | none => .error (.operand (.insertColumnNotText value.typeName) value)
  | some text =>
    let name := Text.trim text
    if name == "" then .error (.empty .column value)
    else if !Identifier.isValid name then .error (.malformed value .notPlainColumn)
    else .ok name

end QueryBuilder
