import Mathlib.Data.List.Chain
import QueryBuilder.Proofs.Text.Respelled
import QueryBuilder.Sql.Piece

/-!
Placeholders filled with their values. If no piece of a statement leaves a quote open and no two
pieces touch inside a token, filling the numbered text gives every value at its own place.
-/
namespace QueryBuilder

open Text

/-- A character of a statement, or a value where it is written out. -/
inductive Written where
  | char (c : Char)
  | value (v : Value)

/-- A token with a parameter in the place of its placeholder; other tokens, and placeholders of no
parameter, stay as they are. -/
def fillToken (parameters : List Value) : SqlToken → List Written
  | .placeholder digits =>
    let k := number digits
    match if k = 0 then none else parameters[k - 1]? with
    | some v => [.value v]
    | none => (SqlToken.placeholder digits).chars.map .char
  | t => t.chars.map .char

/-- A text with the parameters in the place of the placeholders outside quoted regions. -/
def fill (parameters : List Value) (cs : List Char) : List Written :=
  (sqlTokens cs).flatMap (fillToken parameters)

/-- Every quote of the text has its end, and every placeholder its parameter. -/
structure ClosedFragment (cs : List Char) (count : Nat) : Prop where
  closed : Closed cs
  numbered : ∀ ds, .placeholder ds ∈ sqlTokens cs → 1 ≤ number ds ∧ number ds ≤ count

/-- Holds unless the token is an open quote or a placeholder beyond the parameters. -/
def isFillable (count : Nat) : SqlToken → Bool
  | .plain c => !isQuote c
  | .quoted _ => true
  | .placeholder ds => 1 ≤ number ds && number ds ≤ count

theorem closedFragment_iff {cs : List Char} {count : Nat} :
    ClosedFragment cs count ↔ ∀ t ∈ sqlTokens cs, isFillable count t = true := by
  constructor
  · intro h t ht
    cases t with
    | plain c => simpa [isFillable, SqlToken.isLooseQuote] using h.closed _ ht
    | quoted cs => rfl
    | placeholder ds => simpa [isFillable] using h.numbered ds ht
  · intro h
    refine ⟨fun t ht => ?_, fun ds ht => by simpa [isFillable] using h _ ht⟩
    cases t with
    | plain c => simpa [isFillable, SqlToken.isLooseQuote] using h _ ht
    | quoted cs | placeholder ds => rfl

instance (cs : List Char) (count : Nat) : Decidable (ClosedFragment cs count) :=
  decidable_of_iff _ closedFragment_iff.symm

/-- Holds of texts that begin with a character that continues no token. -/
def softStart (cs : List Char) : Bool :=
  cs.head?.any fun c => !isQuote c && !isDigit c

/-- Holds of texts that end with a character that no token continues. -/
def softEnd (cs : List Char) : Bool :=
  cs.getLast?.any fun c => !isQuote c && !isDigit c && c != '$'

theorem seam_of_softEnd {xs ys : List Char} (h : softEnd xs = true) : Seam xs ys := by
  intro x hx y _
  rw [softEnd, Option.mem_def.mp hx] at h
  simp only [Option.any_some, Bool.and_eq_true, Bool.not_eq_true', bne_iff_ne] at h
  simp [h.1.1, h.1.2, h.2]

theorem seam_of_softStart {xs ys : List Char} (h : softStart ys = true) : Seam xs ys := by
  intro x hx y hy
  rw [softStart, Option.mem_def.mp hy] at h
  simp only [Option.any_some, Bool.and_eq_true, Bool.not_eq_true'] at h
  refine ⟨?_, by simp [h.2]⟩
  rintro ⟨hq, rfl⟩
  simp [hq] at h

theorem softStart_append {xs ys : List Char} (h : softStart xs = true) :
    softStart (xs ++ ys) = true := by
  cases xs with
  | nil => simp [softStart] at h
  | cons x xs => exact h

theorem readNumber_of_le {ds : List Char} (h : ds.length ≤ digitLimit) :
    readNumber ds = .ok (number ds) := by
  rw [readNumber, number?, if_pos h]

theorem readNumber_of_lt {ds : List Char} (h : digitLimit < ds.length) :
    readNumber ds = .error .tooManyDigits := by
  rw [readNumber, number?, if_neg (Nat.not_le_of_lt h)]

namespace Piece

/-- The piece with each value written at its place. -/
def written : Piece → List Written
  | text s => s.toList.map .char
  | bind v => [.value v]
  | raw sql params _ => fill params sql.toList

/-- Holds of text without placeholders and of fragments that number their own parameters. -/
def IsClosed : Piece → Prop
  | text s => ClosedFragment s.toList 0
  | bind _ => True
  | raw sql params _ => ClosedFragment sql.toList params.length

/-- Holds if the piece cannot touch what is before it. -/
def softStart : Piece → Bool
  | text s => QueryBuilder.softStart s.toList
  | bind _ => true
  | raw _ _ _ => false

def softEnd : Piece → Bool
  | text s => QueryBuilder.softEnd s.toList
  | _ => false

/-- The pieces are closed, and of two neighbours one is soft where they meet. -/
structure Sealed (ps : List Piece) : Prop where
  closed : ∀ p ∈ ps, p.IsClosed
  seams : ps.IsChain fun p q => p.softEnd = true ∨ q.softStart = true

/-- The digits of a fragment's placeholder behind `offset` other parameters. -/
def shifted (offset : Nat) (ds : List Char) : List Char :=
  Nat.toDigits 10 (offset + number ds)

/-- The tokens of the piece behind `offset` bound values. -/
def tokens (offset : Nat) : Piece → List SqlToken
  | text s => sqlTokens s.toList
  | bind _ => [.placeholder (Nat.toDigits 10 (offset + 1))]
  | raw sql _ _ => (sqlTokens sql.toList).map (SqlToken.respell (shifted offset))

theorem shifted_keepsDigits (offset : Nat) : KeepsDigits (shifted offset) :=
  fun _ _ _ => ⟨Nat.toDigits_ne_nil, isDigit_of_mem_toDigits⟩

/-- The digits of a placeholder behind `offset` other parameters. Numbers beyond the `count`
parameters of the fragment stay as they are written. -/
def renumbered (offset count : Nat) (ds : List Char) : List Char :=
  if 1 ≤ number ds ∧ number ds ≤ count then shifted offset ds else ds

theorem renumbered_keepsDigits (offset count : Nat) : KeepsDigits (renumbered offset count) := by
  intro ds hn hd
  rw [renumbered]
  split
  next => exact shifted_keepsDigits offset ds hn hd
  next => exact ⟨hn, hd⟩

theorem toList_placeholder (quoteReserved : Bool) (n : Nat) :
    ((Dialect.postgres quoteReserved).placeholder n).toList = '$' :: Nat.toDigits 10 n := by
  have h : (Dialect.postgres quoteReserved).placeholder n = "$" ++ n.repr := rfl
  simp [h, Nat.repr_eq_ofList_toDigits]

theorem renumberToken_eq (quoteReserved : Bool) (offset count : Nat) (t : SqlToken) :
    renumberToken (Dialect.postgres quoteReserved).placeholder offset count t =
      if t.isReadable = true then .ok (t.respell (renumbered offset count)).chars
      else .error .tooManyDigits := by
  cases t with
  | quoted cs | plain c => rfl
  | placeholder ds =>
    have hp := toList_placeholder quoteReserved (offset + number ds)
    rw [Int.natCast_add] at hp
    by_cases hd : ds.length ≤ digitLimit
    · rw [if_pos (isReadable_placeholder_iff.mpr hd), renumberToken, readNumber_of_le hd,
        SqlToken.respell, SqlToken.chars, renumbered]
      change Except.ok _ = _
      split
      next => rw [hp, shifted]
      next => rfl
    · rw [if_neg (mt isReadable_placeholder_iff.mp hd), renumberToken,
        readNumber_of_lt (Nat.lt_of_not_le hd)]
      rfl

/-- Renumbering fails if a number has too many digits, and else puts other numbers in the text. -/
theorem renumber_eq (quoteReserved : Bool) (offset count : Nat) (sql : String) :
    renumber (Dialect.postgres quoteReserved).placeholder offset count sql =
      if isReadable sql = true then
        .ok (String.ofList (respelled (renumbered offset count) sql.toList))
      else .error .tooManyDigits := by
  have hall : ∀ ts : List SqlToken,
      forEach (renumberToken (Dialect.postgres quoteReserved).placeholder offset count) ts =
        if ts.all SqlToken.isReadable = true then
          .ok (ts.map fun t => (t.respell (renumbered offset count)).chars)
        else .error .tooManyDigits := by
    intro ts
    induction ts with
    | nil => rfl
    | cons t ts ih =>
      rw [forEach, ih, renumberToken_eq, List.all_cons]
      cases t.isReadable <;> cases ts.all SqlToken.isReadable <;> rfl
  rw [renumber, hall, isReadable, respelled, List.flatMap_def]
  split <;> rfl

theorem toList_render_raw (quoteReserved : Bool) (offset : Nat) (sql : String)
    (params : List Value) (h : isReadable sql = true) :
    ((raw sql params h).render (Dialect.postgres quoteReserved) offset).toList =
      respelled (renumbered offset params.length) sql.toList := by
  have hrenumber := renumber_eq quoteReserved offset params.length sql
  rw [if_pos h] at hrenumber
  simp [render, hrenumber, Except.toOption]

/-- A fragment that numbers its own parameters has no placeholder that stays. -/
theorem respell_renumbered {cs : List Char} {count : Nat} (h : ClosedFragment cs count)
    (offset : Nat) :
    ∀ t ∈ sqlTokens cs, t.respell (renumbered offset count) = t.respell (shifted offset) := by
  intro t ht
  cases t with
  | quoted cs | plain c => rfl
  | placeholder ds => rw [SqlToken.respell, renumbered, if_pos (h.numbered ds ht), SqlToken.respell]

theorem fragment_of_isReadable {sql : String} (h : isReadable sql = true) (params : List Value) :
    fragment sql params = .ok (.raw sql params h) :=
  dif_pos h

theorem fragment_of_unreadable {sql : String} (h : isReadable sql = false) (params : List Value) :
    fragment sql params = .error .tooManyDigits :=
  dif_neg (Bool.eq_false_iff.mp h)

variable {quoteReserved : Bool}

/-- A closed piece is read as its tokens wherever it stands. -/
theorem sqlTokens_render {p : Piece} (h : p.IsClosed) (offset : Nat) :
    sqlTokens (p.render (Dialect.postgres quoteReserved) offset).toList = p.tokens offset := by
  cases p with
  | text s => rfl
  | bind v =>
    have hp := toList_placeholder quoteReserved (offset + 1)
    have hnumber : sqlTokens ('$' :: Nat.toDigits 10 (offset + 1)) =
        [.placeholder (Nat.toDigits 10 (offset + 1))] :=
      sqlTokens_number Nat.toDigits_ne_nil isDigit_of_mem_toDigits
    rw [render, ← Int.natCast_add_one, hp, hnumber, tokens]
  | raw sql params readable =>
    have hshifted := List.map_congr_left (respell_renumbered h offset)
    rw [toList_render_raw, sqlTokens_respelled (renumbered_keepsDigits _ _), hshifted, tokens]

theorem isLooseQuote_of_mem_tokens {p : Piece} (h : p.IsClosed) {offset : Nat} {t : SqlToken}
    (ht : t ∈ p.tokens offset) : t.isLooseQuote = false := by
  cases p with
  | text s => exact ClosedFragment.closed h t ht
  | bind v =>
    cases List.mem_singleton.mp ht
    rfl
  | raw sql params =>
    obtain ⟨u, hu, rfl⟩ := List.mem_map.mp ht
    have hl := ClosedFragment.closed h u hu
    cases u with
    | quoted cs | plain c => exact hl
    | placeholder ds => rfl

theorem closed_render {p : Piece} (h : p.IsClosed) (offset : Nat) :
    Closed (p.render (Dialect.postgres quoteReserved) offset).toList := by
  intro t ht
  rw [sqlTokens_render h] at ht
  exact isLooseQuote_of_mem_tokens h ht

/-- The tokens of pieces, the first of which stands behind `offset` bound values. -/
def tokensAll : Nat → List Piece → List SqlToken
  | _, [] => []
  | offset, p :: ps => p.tokens offset ++ tokensAll (offset + p.values.length) ps

theorem softStart_renderAll {p : Piece} (h : p.softStart = true) (offset : Nat)
    (ps : List Piece) :
    QueryBuilder.softStart
      (renderAll (Dialect.postgres quoteReserved) offset (p :: ps)).toList = true := by
  rw [renderAll, String.toList_append]
  apply softStart_append
  cases p with
  | text s => exact h
  | bind v =>
    have hp := toList_placeholder quoteReserved (offset + 1)
    rw [render, ← Int.natCast_add_one, hp]
    rfl
  | raw sql params => cases h

theorem Sealed.tail {p : Piece} {ps : List Piece} (h : Sealed (p :: ps)) : Sealed ps :=
  ⟨fun q hq => h.closed q (by simp [hq]), h.seams.tail⟩

/-- Sealed pieces do not touch inside a token where the first ends. -/
theorem Sealed.seam {p : Piece} {ps : List Piece} (h : Sealed (p :: ps)) (offset : Nat) :
    Seam (p.render (Dialect.postgres quoteReserved) offset).toList
      (renderAll (Dialect.postgres quoteReserved) (offset + p.values.length) ps).toList := by
  cases ps with
  | nil => simp [Seam, renderAll]
  | cons q ps =>
    rcases (List.isChain_cons_cons.mp h.seams).1 with hend | hstart
    · cases p with
      | text s => exact seam_of_softEnd hend
      | bind v | raw sql params => cases hend
    · exact seam_of_softStart (softStart_renderAll hstart _ _)

/-- Sealed pieces are read one by one. -/
theorem sqlTokens_renderAll {ps : List Piece} (h : Sealed ps) (offset : Nat) :
    sqlTokens (renderAll (Dialect.postgres quoteReserved) offset ps).toList =
      tokensAll offset ps := by
  induction ps generalizing offset with
  | nil => simp [renderAll, sqlTokens, tokensAll]
  | cons p ps ih =>
    have hp := h.closed p (by simp)
    rw [renderAll, String.toList_append, sqlTokens_append (closed_render hp offset) (h.seam offset),
      sqlTokens_render hp, ih h.tail, tokensAll]

theorem fillToken_of_number {parameters : List Value} {ds : List Char} {v : Value}
    (hn : 1 ≤ number ds) (hv : parameters[number ds - 1]? = some v) :
    fillToken parameters (.placeholder ds) = [.value v] := by
  have hz : number ds ≠ 0 := by omega
  simp [fillToken, hz, hv]

theorem getElem?_between {before vs after : List Value} {k : Nat} (h : k < vs.length) :
    (before ++ vs ++ after)[before.length + k]? = vs[k]? := by
  rw [List.append_assoc, List.getElem?_append_right (by omega), Nat.add_sub_cancel_left,
    List.getElem?_append_left h]

/-- A closed piece is filled as it is written, if its values stand behind `before`. -/
theorem fill_tokens {p : Piece} (h : p.IsClosed) (before after : List Value) :
    (p.tokens before.length).flatMap (fillToken (before ++ p.values ++ after)) = p.written := by
  cases p with
  | text s =>
    have ht : ∀ t ∈ sqlTokens s.toList,
        fillToken (before ++ [] ++ after) t = t.chars.map .char := by
      intro t ht
      cases t with
      | quoted cs | plain c => rfl
      | placeholder ds =>
        have hn := ClosedFragment.numbered h ds ht
        omega
    rw [tokens, values, List.flatMap_congr ht, written, ← flatMap_chars_sqlTokens s.toList,
      List.map_flatMap]
    simp only [flatMap_chars_sqlTokens]
  | bind v =>
    have hn := number_toDigits (before.length + 1)
    have hi : number (Nat.toDigits 10 (before.length + 1)) - 1 = before.length + 0 := by omega
    have hv : (before ++ [v] ++ after)[number (Nat.toDigits 10 (before.length + 1)) - 1]? =
        some v := by
      rw [hi, getElem?_between (by simp)]
      rfl
    rw [tokens, values, written, List.flatMap_singleton, fillToken_of_number (by omega) hv]
  | raw sql params =>
    rw [tokens, List.flatMap_map, values, written, fill]
    refine List.flatMap_congr fun t ht => ?_
    cases t with
    | quoted cs | plain c => rfl
    | placeholder ds =>
      have hk := ClosedFragment.numbered h ds ht
      have hn : number (shifted before.length ds) = before.length + number ds :=
        number_toDigits _
      have hlt : number ds - 1 < params.length := by omega
      have hv : params[number ds - 1]? = some params[number ds - 1] := List.getElem?_eq_getElem _
      have hi : number (shifted before.length ds) - 1 = before.length + (number ds - 1) := by omega
      have hw : (before ++ params ++ after)[number (shifted before.length ds) - 1]? =
          some params[number ds - 1] := by
        rw [hi, getElem?_between hlt, hv]
      rw [SqlToken.respell, fillToken_of_number (by omega) hw, fillToken_of_number hk.1 hv]

theorem fill_tokensAll {ps : List Piece} (h : ∀ p ∈ ps, p.IsClosed) (before after : List Value) :
    (tokensAll before.length ps).flatMap (fillToken (before ++ bound ps ++ after)) =
      ps.flatMap written := by
  induction ps generalizing before with
  | nil => rfl
  | cons p ps ih =>
    have hp := fill_tokens (h p (by simp)) before (bound ps ++ after)
    have hps := ih (fun q hq => h q (by simp [hq])) (before ++ p.values)
    have hb : bound (p :: ps) = p.values ++ bound ps := rfl
    simp only [List.append_assoc, List.length_append] at hp hps
    rw [tokensAll, List.flatMap_append, hb, List.flatMap_cons]
    simp only [List.append_assoc, hp, hps]

/-- The placeholders of a closed piece are those of its own values. -/
theorem number_tokens {p : Piece} (h : p.IsClosed) {offset : Nat} {ds : List Char}
    (hd : .placeholder ds ∈ p.tokens offset) :
    offset + 1 ≤ number ds ∧ number ds ≤ offset + p.values.length := by
  cases p with
  | text s =>
    have hn := ClosedFragment.numbered h ds hd
    omega
  | bind v =>
    cases List.mem_singleton.mp hd
    simp [number_toDigits, values]
  | raw sql params =>
    obtain ⟨t, ht, he⟩ := List.mem_map.mp hd
    cases t with
    | quoted cs | plain c => cases he
    | placeholder es =>
      cases he
      have hn := ClosedFragment.numbered h es ht
      rw [shifted, number_toDigits]
      exact ⟨by omega, by simpa [values] using hn.2⟩

theorem number_tokensAll {ps : List Piece} (h : ∀ p ∈ ps, p.IsClosed) {offset : Nat}
    {ds : List Char} (hd : .placeholder ds ∈ tokensAll offset ps) :
    offset + 1 ≤ number ds ∧ number ds ≤ offset + (bound ps).length := by
  induction ps generalizing offset with
  | nil => cases hd
  | cons p ps ih =>
    have hb : (bound (p :: ps)).length = p.values.length + (bound ps).length := by
      simp [bound]
    rcases List.mem_append.mp hd with hd | hd
    · have hn := number_tokens (h p (by simp)) hd
      omega
    · have hn := ih (fun q hq => h q (by simp [hq])) hd
      omega

theorem isLooseQuote_of_mem_tokensAll {ps : List Piece} (h : ∀ p ∈ ps, p.IsClosed) {offset : Nat}
    {t : SqlToken} (ht : t ∈ tokensAll offset ps) : t.isLooseQuote = false := by
  induction ps generalizing offset with
  | nil => cases ht
  | cons p ps ih =>
    rcases List.mem_append.mp ht with ht | ht
    · exact isLooseQuote_of_mem_tokens (h p (by simp)) ht
    · exact ih (fun q hq => h q (by simp [hq])) ht

/-- The text of sealed pieces is itself a fragment that numbers its own parameters, and filling it
gives what the pieces write. -/
theorem Sealed.ofPieces {ps : List Piece} (h : Sealed ps) {c : Compiled}
    (hc : c = Compiled.ofPieces (Dialect.postgres quoteReserved) ps) :
    ClosedFragment c.sql.toList c.parameters.length ∧
      fill c.parameters c.sql.toList = ps.flatMap written := by
  subst hc
  have ht : sqlTokens (renderAll (Dialect.postgres quoteReserved) 0 ps).toList = tokensAll 0 ps :=
    sqlTokens_renderAll h 0
  refine ⟨⟨fun t hm => ?_, fun ds hm => ?_⟩, ?_⟩
  · rw [Compiled.ofPieces, ht] at hm
    exact isLooseQuote_of_mem_tokensAll h.closed hm
  · rw [Compiled.ofPieces, ht] at hm
    have hn := number_tokensAll h.closed hm
    simpa [Compiled.ofPieces] using hn
  · have hf := fill_tokensAll h.closed [] []
    simpa [fill, Compiled.ofPieces, ht] using hf

end Piece

end QueryBuilder
