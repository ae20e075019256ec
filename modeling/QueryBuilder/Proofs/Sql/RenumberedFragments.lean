import QueryBuilder.Proofs.Sql.FormatStyle
import QueryBuilder.Proofs.Text.LongestMatch

/-!
Fragments read a second time. A fragment behind other parameters has the tokens that it had alone,
but for the numbers of its own placeholders, so the format style finds just these placeholders and
their moved numbers. Nothing is asked of the quotes or of the numbers in the fragment, except that
no number is too long to be read.
-/
namespace QueryBuilder

open Text

theorem Text.SqlToken.formatChars_respell (f : List Char → List Char) (t : SqlToken) :
    (t.respell f).formatChars = t.formatChars := by
  cases t <;> rfl

/-- The digits of the placeholders change with the tokens, and no placeholder comes or goes. -/
theorem Text.SqlToken.digits?_respell (f : List Char → List Char) (ts : List SqlToken) :
    (ts.map (respell f)).filterMap digits? = (ts.filterMap digits?).map f := by
  rw [List.filterMap_map, List.map_filterMap]
  refine List.filterMap_congr fun t _ => ?_
  cases t <;> rfl

namespace Piece

/-- The number of a parameter of a fragment behind `offset` others. Numbers beyond the `count`
parameters of the fragment stay. -/
def movedNumber (offset count n : Nat) : Nat :=
  if 1 ≤ n ∧ n ≤ count then offset + n else n

theorem number_renumbered (offset count : Nat) (ds : List Char) :
    number (renumbered offset count ds) = movedNumber offset count (number ds) := by
  rw [renumbered, movedNumber]
  split
  next => exact number_toDigits _
  next => rfl

end Piece

namespace Compiled

/-- In format style a text with other numbers has the text that it had, and the values of its
numbers. -/
theorem toFormat_respelled {f : List Char → List Char} (hf : KeepsDigits f) {sql text : String}
    (h : text.toList = respelled f sql.toList) (vs : List Value) :
    toFormat ⟨text, vs⟩ =
      (forEach (argument vs) (((sqlTokens sql.toList).filterMap SqlToken.digits?).map f)).map
        fun args =>
          ⟨String.ofList ((sqlTokens sql.toList).flatMap SqlToken.formatChars), args⟩ := by
  have hchars : ((sqlTokens sql.toList).map (SqlToken.respell f)).flatMap SqlToken.formatChars =
      (sqlTokens sql.toList).flatMap SqlToken.formatChars := by
    rw [List.flatMap_map]
    exact List.flatMap_congr fun t _ => t.formatChars_respell _
  rw [toFormat_eq, placeholders, h, sqlTokens_respelled hf, SqlToken.digits?_respell, hchars]

end Compiled

namespace Parameters

/-- A fragment that can be read is bound behind the parameters that are there, and its own numbers
move behind theirs. -/
theorem addRaw_of_readable (quoteReserved : Bool) (p : Parameters) {sql : String}
    (h : isReadable sql = true) (params : List Value) :
    ∃ text, p.addRaw (Dialect.postgres quoteReserved) sql params =
        (⟨p.values ++ params⟩, .ok text) ∧
      text.toList = respelled (Piece.renumbered p.values.length params.length) sql.toList := by
  refine ⟨_, by rw [addRaw, Piece.renumber_eq, if_pos h], ?_⟩
  rw [String.toList_ofList]

theorem addRaw_of_unreadable (quoteReserved : Bool) (p : Parameters) {sql : String}
    (h : isReadable sql = false) (params : List Value) :
    p.addRaw (Dialect.postgres quoteReserved) sql params = (p, .error .tooManyDigits) := by
  rw [addRaw, Piece.renumber_eq, if_neg (Bool.eq_false_iff.mp h)]

/-- A fragment has one list of tokens. If a placeholder among them has too many digits, the fragment
is refused and binds nothing. Otherwise its parameters are put behind those bound before, and its
text is that of these tokens with the fragment's own numbers moved, which are the only tokens of
that text. Its format style has a slot for each placeholder of the fragment and the values of the
moved numbers, or the error of the first number without a value. -/
theorem addRaw_movesNumbers (quoteReserved : Bool) (p : Parameters) (sql : String)
    (params : List Value) :
    ∃ ts, (∀ us, Scans us sql.toList ↔ us = ts) ∧
      let r := p.addRaw (Dialect.postgres quoteReserved) sql params
      let digits := Piece.renumbered p.values.length params.length
      let moved := SqlToken.respell digits
      ((∃ ds, .placeholder ds ∈ ts ∧ digitLimit < ds.length) → r = (p, .error .tooManyDigits)) ∧
      ((∀ ds, .placeholder ds ∈ ts → ds.length ≤ digitLimit) →
        ∃ text, r = (⟨p.values ++ params⟩, .ok text) ∧
          text.toList = ts.flatMap (fun t => (moved t).chars) ∧
          (∀ us, Scans us text.toList ↔ us = ts.map moved) ∧
          (∀ ds, number (digits ds) =
            Piece.movedNumber p.values.length params.length (number ds)) ∧
          ∀ vs, Compiled.toFormat ⟨text, vs⟩ =
            (forEach (Compiled.argument vs) ((ts.filterMap SqlToken.digits?).map digits)).map
              fun args => ⟨String.ofList (ts.flatMap SqlToken.formatChars), args⟩) := by
  refine ⟨sqlTokens sql.toList, fun us => scans_iff, ?_, fun h => ?_⟩
  · rintro ⟨ds, hds, hlt⟩
    refine addRaw_of_unreadable quoteReserved p (Bool.eq_false_iff.mpr fun hr => ?_) params
    exact Nat.not_le_of_lt hlt (isReadable_iff.mp hr ds hds)
  · obtain ⟨text, hr, htext⟩ := addRaw_of_readable quoteReserved p (isReadable_iff.mpr h) params
    have hkeeps := Piece.renumbered_keepsDigits p.values.length params.length
    refine ⟨text, hr, htext, fun us => ?_, Piece.number_renumbered _ _,
      Compiled.toFormat_respelled hkeeps htext⟩
    rw [scans_iff, htext, sqlTokens_respelled hkeeps]

/-- A region keeps its text, and a quote without an end protects none. -/
theorem addRaw_movesNumbers_openQuote :
    addRaw ⟨[.int 7]⟩ Dialect.postgres "a = '$1' AND b = $01 OR $9 = '$1" [.str "x"] =
      (⟨[.int 7, .str "x"]⟩, .ok "a = '$1' AND b = $2 OR $9 = '$2") := by
  let sql := "a = '$1' AND b = $01 OR $9 = '$1"
  obtain ⟨ts, hts, _, hmoved⟩ := addRaw_movesNumbers true ⟨[.int 7]⟩ sql [.str "x"]
  obtain rfl : sqlTokens sql.toList = ts := (hts _).mp (scans_iff.mpr rfl)
  have hreadable : isReadable sql = true := by decide +kernel
  obtain ⟨text, hr, htext, _⟩ := hmoved (isReadable_iff.mp hreadable)
  have hchars : (sqlTokens sql.toList).flatMap
      (fun t => (t.respell (Piece.renumbered 1 1)).chars) =
        "a = '$1' AND b = $2 OR $9 = '$2".toList := by
    decide +kernel
  rw [hr, String.toList_injective (htext.trans hchars)]
  rfl

/-- A number that is out of range need not stay as it is. -/
theorem addRaw_longPlaceholder : ¬ ∀ (p : Parameters) (sql : String) (params : List Value),
    ∃ text, p.addRaw Dialect.postgres sql params = (⟨p.values ++ params⟩, .ok text) := by
  intro h
  obtain ⟨text, htext⟩ := h {} longPlaceholder []
  cases (addRaw_of_unreadable true {} longPlaceholder_unreadable []).symm.trans htext

end Parameters

end QueryBuilder
