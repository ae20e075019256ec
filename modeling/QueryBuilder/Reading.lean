import QueryBuilder.Error
import QueryBuilder.Text.Integer
import QueryBuilder.Value.Content

/-!
Reading typed data out of values. The issues of all fields of a record are collected in order, but
an error of the library itself ends the reading at once.
-/
namespace QueryBuilder

inductive Reading (α : Type) where
  | ok (a : α)
  /-- Fields that do not fit, at least one. -/
  | invalid (issues : List Issue)
  | failed (error : Error)

namespace Reading

variable {α β : Type}

def map (f : α → β) : Reading α → Reading β
  | ok a => ok (f a)
  | invalid issues => invalid issues
  | failed e => failed e

/-- Reads both, so that the issues of both are reported; the first failure wins. -/
def seq (f : Reading (α → β)) (x : Reading α) : Reading β :=
  match f, x with
  | failed e, _ => failed e
  | _, failed e => failed e
  | ok f, ok a => ok (f a)
  | ok _, invalid issues => invalid issues
  | invalid issues, ok _ => invalid issues
  | invalid issues, invalid more => invalid (issues ++ more)

instance : Applicative Reading where
  pure := ok
  map f x := x.map f
  seq f x := seq f (x ())

def issue (kind : IssueKind) : Reading α :=
  invalid [⟨kind, []⟩]

/-- Places the issues below a step of the path. -/
def below (step : Step) : Reading α → Reading α
  | invalid issues => invalid (issues.map fun i => ⟨i.kind, step :: i.path⟩)
  | r => r

/-- A further check, made only of data that could be read; its error ends the reading. -/
def check (r : Reading α) (f : α → Except Error β) : Reading β :=
  match r with
  | ok a =>
    match f a with
    | .ok b => ok b
    | .error e => failed e
  | invalid issues => invalid issues
  | failed e => failed e

def ofExcept : Except Error α → Reading α
  | .ok a => ok a
  | .error e => failed e

def toExcept : Reading α → Except Error α
  | ok a => .ok a
  | invalid issues => .error (.invalid issues)
  | failed e => .error e

/-- Reads the items of a list in order, each below its position. -/
def items (read : β → Reading α) (start : Nat) : List β → Reading (List α)
  | [] => ok []
  | v :: vs => seq ((below (.index start) (read v)).map List.cons) (items read (start + 1) vs)

theorem items_eq_ok {read : α → Reading α} {vs : List α} (h : ∀ v ∈ vs, read v = ok v)
    (start : Nat) : items read start vs = ok vs := by
  induction vs generalizing start with
  | nil => rfl
  | cons v vs ih =>
    rw [items, h v (by simp), ih (fun w hw => h w (by simp [hw]))]
    rfl

end Reading

/-- The text of bytes, if they are the encoding of one. -/
def decodeBytes (bs : List UInt8) : Option String :=
  String.fromUTF8? ⟨bs.toArray⟩

namespace Value

/-- A string; bytes are decoded. -/
def readText (v : Value) : Reading String :=
  match v with
  | bytes bs | byteArray bs =>
    match decodeBytes bs with
    | some s => .ok s
    | none => .issue .textEncoding
  | _ =>
    match v.text? with
    | some s => .ok s
    | none => .issue .textType

def falseWords : List String := ["0", "off", "f", "false", "n", "no"]
def trueWords : List String := ["1", "on", "t", "true", "y", "yes"]

/-- A word for a truth value, in any case of ASCII. -/
def boolOfWord? (s : String) : Option Bool :=
  let word := s.map Char.toLower
  if falseWords.contains word then some false
  else if trueWords.contains word then some true
  else none

/-- The bounds of the integers that are compared as machine words. -/
def isWord (n : Int) : Bool :=
  -9223372036854775808 ≤ n && n ≤ 9223372036854775807

/-- A floating-point number inside the bounds; the lower bound itself counts as outside. -/
def isWordFloat (n : Int) : Bool :=
  isWord n && n ≠ -9223372036854775808

/-- A truth value, also as zero or one or as a word. -/
def readBool (v : Value) : Reading Bool :=
  let ofWord (s : Option String) : Reading Bool :=
    match s.bind boolOfWord? with
    | some b => .ok b
    | none => .issue .boolParsing
  let ofInt (n : Int) : Reading Bool :=
    if n = 0 then .ok false
    else if n = 1 then .ok true
    else if isWord n then .issue .boolParsing
    else .issue .boolType
  match v with
  | bool b => .ok b
  | int n => ofInt n
  | float text =>
    match Text.wholeNumber? text with
    | some n => if isWordFloat n then ofInt n else .issue .boolType
    | none => .issue .boolType
  | bytes bs => ofWord (decodeBytes bs)
  | _ =>
    match v.text? with
    | some s => ofWord (some s)
    | none => .issue .boolType

/-- An integer, also as a truth value, a whole floating-point number or a text. -/
def readInt (v : Value) : Reading Int :=
  let ofText (s : Option String) : Reading Int :=
    match s.bind Text.integer? with
    | some n => .ok n
    | none => .issue .intParsing
  match v with
  | bool b => .ok (if b then 1 else 0)
  | int n => .ok n
  | float text =>
    if (Text.Decimal.read text.toList).isNone then .issue .notFinite
    else
      match Text.wholeNumber? text with
      | none => .issue .intFraction
      | some n => if isWordFloat n then .ok n else .issue .intParsingSize
  | bytes bs => ofText (decodeBytes bs)
  | _ =>
    match v.text? with
    | some s => ofText (some s)
    | none => .issue .intType

/-- An integer that is not negative, or nothing. -/
def readCount (v : Value) : Reading (Option Nat) :=
  if v.isNull then .ok none
  else
    match v.readInt with
    | .ok n => if n < 0 then .issue .belowMinimum else .ok (some n.toNat)
    | .invalid issues => .invalid issues
    | .failed e => .failed e

/-- A constant of an enumeration, by its text. -/
def readConstant {α : Type} (ofText? : String → Option α) (v : Value) : Reading α :=
  match v.readText with
  | .ok s =>
    match ofText? s with
    | some a => .ok a
    | none => .issue .enumeration
  | _ => .issue .enumeration

def readOption {α : Type} (read : Value → Reading α) (v : Value) : Reading (Option α) :=
  if v.isNull then .ok none else (read v).map some

/-- The items of any list, tuple or set, or the pairs of a record. -/
def readTuple {α : Type} (read : Value → Reading α) (v : Value) : Reading (List α) :=
  match v.listed? with
  | some xs => Reading.items read 0 xs
  | none => .issue .tupleType

def readList {α : Type} (read : Value → Reading α) (v : Value) : Reading (List α) :=
  match v.listed? with
  | some xs => Reading.items read 0 xs
  | none => .issue .listType

def step (k : Value) : Step :=
  match k with
  | int n => if isWord n then .index n else .name (toString n)
  | bool b => .index (if b then 1 else 0)
  | _ => .name (k.text?.getD k.display)

end Value

/-- Sets the value of a name; a name that is there keeps its place. -/
def putField (name : String) (v : Value) : List (String × Value) → List (String × Value)
  | [] => [(name, v)]
  | f :: fs => if f.1 = name then (name, v) :: fs else f :: putField name v fs

/-- Reads the names of a mapping, each below its key. -/
def readNames : List (Value × Value) → Reading (List (String × Value))
  | [] => .ok []
  | (k, v) :: es =>
    (fun (name : String) fields => (name, v) :: fields)
      <$> (k.readText.below (.name "[key]")).below k.step <*> readNames es

/-- A mapping of names to values of any type. -/
def Value.readFields (v : Value) : Reading (List (String × Value)) :=
  match v.entries? with
  | some es =>
    (readNames es).map fun fields => fields.foldl (fun out f => putField f.1 f.2 out) []
  | none => .issue .mappingType

/-- The entries of a record that is being read. -/
abbrev Entries := List (Value × Value)

namespace Entries

def get? (es : Entries) (name : String) : Option Value :=
  (es.find? fun e => e.1.text? == some name).map Prod.snd

variable {α : Type}

def required (es : Entries) (name : String) (read : Value → Reading α) : Reading α :=
  (match es.get? name with
  | some v => read v
  | none => .issue .missing).below (.name name)

def optional (es : Entries) (name : String) (default : α) (read : Value → Reading α) : Reading α :=
  match es.get? name with
  | some v => (read v).below (.name name)
  | none => .ok default

/-- The issue of an entry that no field of the record takes. -/
def extraIssue (names : List String) (e : Value × Value) : Option Issue :=
  match e.1.text? with
  | some name => if names.contains name then none else some ⟨.extra, [.name name]⟩
  | none => some ⟨.invalidKey, [e.1.step]⟩

/-- Refuses entries beyond the named fields. -/
def only (es : Entries) (names : List String) : Reading Unit :=
  match es.filterMap (extraIssue names) with
  | [] => .ok ()
  | issues => .invalid issues

end Entries

end QueryBuilder
