import QueryBuilder.Dialect
import QueryBuilder.Numeral
import QueryBuilder.Text.Sql

/-!
Pieces of a statement before its parameters are numbered. The values that a list of pieces binds and
the text it makes are two functions of the list, so a value cannot reach the text.
-/
namespace QueryBuilder

inductive Piece where
  | text (s : String)
  /-- One value, written as a placeholder. -/
  | bind (value : Value)
  /-- A fragment that numbers its own parameters from one. The numbers in it can be read. -/
  | raw (sql : String) (params : List Value) (readable : Text.isReadable sql = true)

namespace Piece

def values : Piece → List Value
  | text _ => []
  | bind v => [v]
  | raw _ params _ => params

/-- The values that pieces bind, in the order in which they are written. -/
def bound (pieces : List Piece) : List Value :=
  pieces.flatMap values

/-- A token of a fragment, where placeholders of its own parameters move behind `offset` others. -/
def renumberToken (placeholder : Int → String) (offset count : Nat) :
    Text.SqlToken → Except Error (List Char)
  | .placeholder digits => do
    let k ← readNumber digits
    .ok (if 1 ≤ k ∧ k ≤ count then (placeholder (offset + k)).toList else '$' :: digits)
  | token => .ok token.chars

/-- A fragment with its own placeholders moved behind `offset` others. Quoted regions and numbers
that are not its own stay as they are, but every number is read. -/
def renumber (placeholder : Int → String) (offset count : Nat) (sql : String) :
    Except Error String := do
  let parts ← forEach (renumberToken placeholder offset count) (Text.sqlTokens sql.toList)
  .ok (String.ofList parts.flatten)

theorem renumberToken_ok {placeholder : Int → String} {offset count : Nat} {t : Text.SqlToken}
    (h : t.isReadable = true) : ∃ cs, renumberToken placeholder offset count t = .ok cs := by
  cases t with
  | placeholder digits =>
    obtain ⟨k, hk⟩ := Option.isSome_iff_exists.mp h
    exact ⟨_, by rw [renumberToken, readNumber, hk]; rfl⟩
  | quoted cs | plain c => exact ⟨_, rfl⟩

theorem renumber_isSome {sql : String} (h : Text.isReadable sql = true)
    (placeholder : Int → String) (offset count : Nat) :
    (renumber placeholder offset count sql).toOption.isSome = true := by
  have hall : ∀ ts : List Text.SqlToken, ts.all Text.SqlToken.isReadable = true →
      ∃ parts, forEach (renumberToken placeholder offset count) ts = .ok parts := by
    intro ts hts
    induction ts with
    | nil => exact ⟨_, rfl⟩
    | cons t ts ih =>
      obtain ⟨ht, hts⟩ := Bool.and_eq_true_iff.mp (List.all_cons ▸ hts)
      obtain ⟨cs, hcs⟩ := renumberToken_ok ht
      obtain ⟨parts, hparts⟩ := ih hts
      exact ⟨cs :: parts, by rw [forEach, hcs, hparts]; rfl⟩
  obtain ⟨parts, hparts⟩ := hall _ h
  rw [renumber, hparts]
  rfl

/-- The fragment as a piece, unless a number in it has too many digits. -/
def fragment (sql : String) (params : List Value) : Except Error Piece :=
  if h : Text.isReadable sql = true then .ok (.raw sql params h) else .error .tooManyDigits

theorem fragment_eq_ok {sql : String} {params : List Value} {p : Piece}
    (h : fragment sql params = .ok p) : ∃ readable, p = .raw sql params readable := by
  unfold fragment at h
  split at h
  next readable =>
    cases h
    exact ⟨readable, rfl⟩
  next => cases h

theorem fragment_eq_error {sql : String} {params : List Value} {e : Error}
    (h : fragment sql params = .error e) :
    Text.isReadable sql = false ∧ e = .tooManyDigits := by
  unfold fragment at h
  split at h
  next => cases h
  next hr =>
    cases h
    exact ⟨by simpa using hr, rfl⟩

/-- The text of a piece that stands behind `offset` bound values. -/
def render (d : Dialect) (offset : Nat) : Piece → String
  | text s => s
  | bind _ => d.placeholder (offset + 1)
  | raw sql params readable =>
    (renumber d.placeholder offset params.length sql).toOption.get (renumber_isSome readable _ _ _)

/-- The text of pieces, the first of which stands behind `offset` bound values. -/
def renderAll (d : Dialect) (offset : Nat) : List Piece → String
  | [] => ""
  | p :: ps => p.render d offset ++ renderAll d (offset + p.values.length) ps

def separated (separator : String) : List (List Piece) → List Piece
  | [] => []
  | [x] => x
  | x :: y :: xs => x ++ text separator :: separated separator (y :: xs)

theorem bound_append (xs ys : List Piece) : bound (xs ++ ys) = bound xs ++ bound ys := by
  simp [bound]

theorem renderAll_append (d : Dialect) (offset : Nat) (xs ys : List Piece) :
    renderAll d offset (xs ++ ys) =
      renderAll d offset xs ++ renderAll d (offset + (bound xs).length) ys := by
  induction xs generalizing offset with
  | nil => simp [renderAll, bound]
  | cons p ps ih =>
    simp [renderAll, ih, bound, String.append_assoc, Nat.add_assoc]

end Piece

/-- A statement as text with placeholders, and the values of the placeholders in order. -/
structure Compiled where
  sql : String
  parameters : List Value

/-- Numbers the parameters of a statement from one. -/
def Compiled.ofPieces (d : Dialect) (pieces : List Piece) : Compiled :=
  ⟨Piece.renderAll d 0 pieces, Piece.bound pieces⟩

/-- The values bound so far while a statement is written piece by piece. -/
structure Parameters where
  values : List Value := []

namespace Parameters

/-- Binds a value and tells its number. -/
def add (p : Parameters) (v : Value) : Parameters × Nat :=
  (⟨p.values ++ [v]⟩, p.values.length + 1)

/-- Binds the parameters of a fragment and tells its text with the new numbers. A fragment that
cannot be read binds nothing. -/
def addRaw (p : Parameters) (d : Dialect) (sql : String) (params : List Value) :
    Parameters × Except Error String :=
  match Piece.renumber d.placeholder p.values.length params.length sql with
  | .ok text => (⟨p.values ++ params⟩, .ok text)
  | .error e => (p, .error e)

end Parameters

end QueryBuilder
