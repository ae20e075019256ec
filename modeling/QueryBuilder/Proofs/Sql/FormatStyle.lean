import QueryBuilder.Proofs.Outcome
import QueryBuilder.Proofs.Sql.Filled
import QueryBuilder.Sql.Format

/-!
Statements in format style, read back. A reader that knows percent signs only gets the text with
every parameter at the place of its placeholder, whatever the text and its quotes are.
-/
namespace QueryBuilder

open Text

/-- A character of a text in format style, or a place for an argument. -/
inductive FormatUnit where
  | char (c : Char)
  | slot

namespace FormatUnit

def isSlot : FormatUnit → Bool
  | slot => true
  | char _ => false

end FormatUnit

/-- Reads a text in format style. A percent sign is doubled where it stands for itself and otherwise
begins `%s`; there is no other use of it. -/
def readFormat : List Char → Option (List FormatUnit)
  | [] => some []
  | [c] => if c = '%' then none else some [.char c]
  | c :: d :: ds =>
    if c ≠ '%' then (readFormat (d :: ds)).map (.char c :: ·)
    else if d = '%' then (readFormat ds).map (.char '%' :: ·)
    else if d = 's' then (readFormat ds).map (.slot :: ·)
    else none

/-- Puts arguments into the slots of a text in order. There must be as many of both. -/
def fillSlots : List FormatUnit → List Value → Option (List Written)
  | [], [] => some []
  | .char c :: us, vs => (fillSlots us vs).map (.char c :: ·)
  | .slot :: us, v :: vs => (fillSlots us vs).map (.value v :: ·)
  | _, _ => none

theorem readFormat_char {c : Char} (hc : c ≠ '%') (cs : List Char) :
    readFormat (c :: cs) = (readFormat cs).map (.char c :: ·) := by
  cases cs with
  | nil => simp [readFormat, hc]
  | cons d ds => simp [readFormat, hc]

theorem readFormat_slot (cs : List Char) :
    readFormat ('%' :: 's' :: cs) = (readFormat cs).map (.slot :: ·) := by
  simp [readFormat]

/-- Filling leaves no argument over and no slot empty. -/
theorem length_of_fillSlots {us : List FormatUnit} {vs : List Value} {ws : List Written}
    (h : fillSlots us vs = some ws) : (us.filter FormatUnit.isSlot).length = vs.length := by
  fun_induction fillSlots us vs generalizing ws with
  | case1 => rfl
  | case2 c us vs ih =>
    obtain ⟨ws, hw, rfl⟩ := Option.map_eq_some_iff.mp h
    simpa [FormatUnit.isSlot] using ih hw
  | case3 us v vs ih =>
    obtain ⟨ws, hw, rfl⟩ := Option.map_eq_some_iff.mp h
    rw [List.filter_cons_of_pos rfl, List.length_cons, ih hw, List.length_cons]
  | case4 => cases h

theorem fillSlots_chars (cs : List Char) (us : List FormatUnit) (vs : List Value) :
    fillSlots (cs.map .char ++ us) vs = (fillSlots us vs).map (cs.map .char ++ ·) := by
  induction cs with
  | nil => simp
  | cons c cs ih => simp [fillSlots, ih, Function.comp_def]

namespace Compiled

@[simp] theorem doublePercent_nil : doublePercent [] = [] := rfl

theorem doublePercent_percent (cs : List Char) :
    doublePercent ('%' :: cs) = '%' :: '%' :: doublePercent cs := rfl

theorem doublePercent_cons {c : Char} (hc : c ≠ '%') (cs : List Char) :
    doublePercent (c :: cs) = c :: doublePercent cs := by
  simp [doublePercent, hc]

/-- Doubled percent signs are read as single ones. -/
theorem readFormat_doublePercent (cs rest : List Char) :
    readFormat (doublePercent cs ++ rest) = (readFormat rest).map (cs.map .char ++ ·) := by
  induction cs with
  | nil => simp
  | cons c cs ih =>
    by_cases hc : c = '%'
    · subst hc
      rw [doublePercent_percent, List.cons_append, List.cons_append, readFormat]
      simp [ih, Function.comp_def]
    · rw [doublePercent_cons hc, List.cons_append, readFormat_char hc, ih]
      simp [Function.comp_def]

end Compiled

namespace Text.SqlToken

open Compiled

/-- The tokens of a token with its percent signs doubled. -/
def doubled : SqlToken → List SqlToken
  | .quoted cs => [.quoted (doublePercent cs)]
  | .placeholder ds => [.placeholder ds]
  | .plain c => (doublePercent [c]).map .plain

/-- The digits of a placeholder. -/
def digits? : SqlToken → Option (List Char)
  | .placeholder ds => some ds
  | _ => none

/-- What a token is read as, once its placeholder has lost its number. -/
def formatUnits : SqlToken → List FormatUnit
  | .placeholder _ => [.slot]
  | t => t.chars.map .char

/-- A token in format style: a slot for a placeholder, and doubled percent signs elsewhere. -/
def formatChars : SqlToken → List Char
  | .placeholder _ => ['%', 's']
  | t => doublePercent t.chars

end Text.SqlToken

namespace Compiled

/-- Doubling percent signs moves no end of a region: a percent sign is no quote. -/
theorem splitRegion_doublePercent {mark : Char} (hm : mark ≠ '%') (cs : List Char) :
    splitRegion mark (doublePercent cs) =
      (splitRegion mark cs).map fun p => (doublePercent p.1, doublePercent p.2) := by
  have hp : '%' ≠ mark := fun h => hm h.symm
  -- Along the scan, with the two branches of its backtracking as cases of their own.
  fun_induction splitRegion mark cs with
  | case1 => rfl
  | case2 c cs hc ih =>
    by_cases h : c = '%'
    · subst h
      rw [doublePercent_percent, splitRegion_of_ne hp, splitRegion_of_ne hp, ih]
      simp [Function.comp_def, doublePercent_percent]
    · rw [doublePercent_cons h, splitRegion_of_ne hc, ih]
      simp [Function.comp_def, doublePercent_cons h]
  | case3 c hc =>
    have hc : c = mark := by simpa using hc
    subst hc
    simp [doublePercent_cons hm, splitRegion]
  | case4 c hc d ds hd =>
    have hc : c = mark := by simpa using hc
    subst hc
    by_cases h : d = '%'
    · subst h
      simp [doublePercent_cons hm, doublePercent_percent, splitRegion, hd]
    · simp [doublePercent_cons hm, doublePercent_cons h, splitRegion, hd]
  | case5 c hc d ds hd p hp ih =>
    obtain ⟨rfl, rfl⟩ : c = mark ∧ d = c := by
      have hc : c = mark := by simpa using hc
      have hd : d = mark := by simpa using hd
      exact ⟨hc, hd.trans hc.symm⟩
    simp [doublePercent_cons hm, splitRegion, ih, hp]
  | case6 c hc d ds hd hn ih =>
    obtain ⟨rfl, rfl⟩ : c = mark ∧ d = c := by
      have hc : c = mark := by simpa using hc
      have hd : d = mark := by simpa using hd
      exact ⟨hc, hd.trans hc.symm⟩
    simp [doublePercent_cons hm, splitRegion, ih, hn]

theorem isDigit_percent : isDigit '%' = false := by
  decide

/-- Digits stay, and end where they ended. -/
theorem digits_doublePercent (cs : List Char) :
    (doublePercent cs).takeWhile isDigit = cs.takeWhile isDigit ∧
      (doublePercent cs).dropWhile isDigit = doublePercent (cs.dropWhile isDigit) := by
  induction cs with
  | nil => exact ⟨rfl, rfl⟩
  | cons c cs ih =>
    by_cases hc : c = '%'
    · subst hc
      simp [doublePercent_percent, isDigit_percent]
    · rw [doublePercent_cons hc]
      by_cases hd : isDigit c = true
      · simp [hd, ih]
      · simp [hd, doublePercent_cons hc]

/-- Doubling percent signs keeps the regions and the placeholders of a text. -/
theorem sqlTokens_doublePercent (cs : List Char) :
    sqlTokens (doublePercent cs) = (sqlTokens cs).flatMap SqlToken.doubled := by
  have hpercent : ∀ ds : List Char, sqlTokens ('%' :: ds) = .plain '%' :: sqlTokens ds :=
    fun ds => sqlTokens_plain rfl (by simp)
  have hquote : ∀ {c : Char}, isQuote c = true → c ≠ '%' := by
    rintro c h rfl
    cases h
  -- Each case needs that the scan of the doubled text takes the same branch.
  fun_induction sqlTokens cs with
  | case1 => simp [sqlTokens]
  | case2 c cs hq region rest h _ ih =>
    have hc := hquote (isQuote_iff.mpr hq)
    have hsplit : splitRegion c (doublePercent cs) =
        some (doublePercent region, doublePercent rest) := by
      rw [splitRegion_doublePercent hc, h]
      rfl
    rw [doublePercent_cons hc, sqlTokens_region (isQuote_iff.mpr hq) hsplit, ih]
    simp [SqlToken.doubled, doublePercent_cons hc]
  | case3 c cs hq h ih =>
    have hc := hquote (isQuote_iff.mpr hq)
    have hsplit : splitRegion c (doublePercent cs) = none := by
      rw [splitRegion_doublePercent hc, h]
      rfl
    rw [doublePercent_cons hc, sqlTokens_loose (isQuote_iff.mpr hq) hsplit, ih]
    simp [SqlToken.doubled, doublePercent_cons hc]
  | case4 c cs hq hd _ ih =>
    obtain ⟨rfl, hd⟩ := hd
    obtain ⟨htake, hdrop⟩ := digits_doublePercent cs
    rw [doublePercent_cons (by decide), sqlTokens_placeholder (htake ▸ hd), htake, hdrop, ih]
    rfl
  | case5 c cs hq hd ih =>
    have hq : isQuote c = false := by simpa [isQuote] using hq
    by_cases hc : c = '%'
    · subst hc
      rw [doublePercent_percent, hpercent, hpercent, ih]
      rfl
    · have hd' : ¬ (c = '$' ∧ (doublePercent cs).takeWhile isDigit ≠ []) := by
        rwa [(digits_doublePercent cs).1]
      rw [doublePercent_cons hc, sqlTokens_plain hq hd', ih]
      simp [SqlToken.doubled, doublePercent_cons hc]

variable {parameters : List Value}

theorem formatTokens_plain (cs : List Char) (ts : List SqlToken) :
    formatTokens parameters (cs.map .plain ++ ts) =
      (formatTokens parameters ts >>= fun p => .ok (cs ++ p.1, p.2)) := by
  induction cs with
  | nil =>
    rw [List.map_nil, List.nil_append]
    cases formatTokens parameters ts <;> rfl
  | cons c cs ih =>
    rw [List.map_cons, List.cons_append, formatTokens, ih]
    · cases formatTokens parameters ts <;> rfl
    · simp

/-- Text and values in format style have nothing to do with each other: the text comes from the
tokens alone, the values from the numbers of the placeholders in their order. -/
theorem formatTokens_eq (ts : List SqlToken) :
    formatTokens parameters (ts.flatMap SqlToken.doubled) =
      (forEach (argument parameters) (ts.filterMap SqlToken.digits?)).map fun vs =>
        (ts.flatMap SqlToken.formatChars, vs) := by
  induction ts with
  | nil => rfl
  | cons t ts ih =>
    cases t with
    | placeholder ds =>
      have hdigits : (SqlToken.placeholder ds :: ts).filterMap SqlToken.digits? =
          ds :: ts.filterMap SqlToken.digits? := rfl
      rw [List.flatMap_cons, SqlToken.doubled, List.singleton_append, formatTokens, ih, hdigits,
        forEach]
      cases argument parameters ds with
      | error e => rfl
      | ok v => cases forEach (argument parameters) (ts.filterMap SqlToken.digits?) <;> rfl
    | quoted cs =>
      rw [List.flatMap_cons, SqlToken.doubled, List.singleton_append, formatTokens, ih]
      · change _ = (forEach (argument parameters) (ts.filterMap SqlToken.digits?)).map _
        cases forEach (argument parameters) (ts.filterMap SqlToken.digits?) <;> rfl
      · simp
    | plain c =>
      rw [List.flatMap_cons, SqlToken.doubled, formatTokens_plain, ih]
      change _ = (forEach (argument parameters) (ts.filterMap SqlToken.digits?)).map _
      cases forEach (argument parameters) (ts.filterMap SqlToken.digits?) <;> rfl

/-- The digits of the placeholders outside quoted regions, in order. -/
def placeholders (c : Compiled) : List (List Char) :=
  (sqlTokens c.sql.toList).filterMap SqlToken.digits?

theorem toFormat_eq (c : Compiled) :
    c.toFormat = (forEach (argument c.parameters) c.placeholders).map fun vs =>
      ⟨String.ofList ((sqlTokens c.sql.toList).flatMap SqlToken.formatChars), vs⟩ := by
  rw [toFormat, sqlTokens_doublePercent, formatTokens_eq, placeholders]
  cases forEach (argument c.parameters) ((sqlTokens c.sql.toList).filterMap SqlToken.digits?) with
  | error e => rfl
  | ok vs => rfl

/-- The digits can be read, and there is a parameter with their number. -/
structure Fits (parameters : List Value) (ds : List Char) : Prop where
  short : ds.length ≤ digitLimit
  positive : 1 ≤ number ds
  bounded : number ds ≤ parameters.length

instance (parameters : List Value) (ds : List Char) : Decidable (Fits parameters ds) :=
  decidable_of_iff (ds.length ≤ digitLimit ∧ 1 ≤ number ds ∧ number ds ≤ parameters.length)
    ⟨fun h => ⟨h.1, h.2.1, h.2.2⟩, fun h => ⟨h.short, h.positive, h.bounded⟩⟩

/-- A placeholder that fits has the value with which it is filled. -/
theorem argument_of_fits {ds : List Char} (h : Fits parameters ds) :
    ∃ v, argument parameters ds = .ok v ∧ fillToken parameters (.placeholder ds) = [.value v] := by
  have hz : number ds ≠ 0 := Nat.ne_zero_of_lt h.positive
  have hlt : number ds - 1 < parameters.length := by
    have hbounded := h.bounded
    omega
  have hv := List.getElem?_eq_getElem hlt
  refine ⟨_, ?_, Piece.fillToken_of_number h.positive hv⟩
  simp only [argument, readNumber_of_le h.short, bind, Except.bind, if_neg hz, hv]

/-- A number of too many digits is an error of its own, also where it would be in range. -/
theorem argument_of_lt {ds : List Char} (h : digitLimit < ds.length) :
    argument parameters ds = .error .tooManyDigits := by
  rw [argument, readNumber_of_lt h]
  rfl

theorem argument_of_not_fits {ds : List Char} (hs : ds.length ≤ digitLimit)
    (h : ¬ Fits parameters ds) :
    argument parameters ds = .error (.compilation (.placeholder (number ds))) := by
  have hnone : (if number ds = 0 then none else parameters[number ds - 1]?) = none := by
    split
    next => rfl
    next hz =>
      refine List.getElem?_eq_none ?_
      by_contra hlt
      exact h ⟨hs, by omega, by omega⟩
  simp only [argument, readNumber_of_le hs, bind, Except.bind, hnone]

theorem exists_argument_iff {ds : List Char} :
    (∃ v, argument parameters ds = .ok v) ↔ Fits parameters ds := by
  constructor
  · rintro ⟨v, hv⟩
    by_contra h
    rcases Nat.lt_or_ge digitLimit ds.length with hlt | hle
    · cases (argument_of_lt hlt).symm.trans hv
    · cases (argument_of_not_fits hle h).symm.trans hv
  · intro h
    obtain ⟨v, hv, _⟩ := argument_of_fits h
    exact ⟨v, hv⟩

theorem fillSlots_slot (us : List FormatUnit) (v : Value) (vs : List Value) :
    fillSlots (.slot :: us) (v :: vs) = (fillSlots us vs).map (.value v :: ·) :=
  rfl

/-- Read back, the text has the units of its tokens, and the values of its placeholders fill them
with what the tokens stand for. -/
theorem formatChars_reads {ts : List SqlToken}
    (h : ∀ ds ∈ ts.filterMap SqlToken.digits?, Fits parameters ds) :
    ∃ vs, forEach (argument parameters) (ts.filterMap SqlToken.digits?) = .ok vs ∧
      readFormat (ts.flatMap SqlToken.formatChars) = some (ts.flatMap SqlToken.formatUnits) ∧
      fillSlots (ts.flatMap SqlToken.formatUnits) vs =
        some (ts.flatMap (fillToken parameters)) := by
  induction ts with
  | nil => exact ⟨[], rfl, rfl, rfl⟩
  | cons t ts ih =>
    have htail : ∀ ds ∈ ts.filterMap SqlToken.digits?, Fits parameters ds := by
      intro ds hds
      refine h ds ?_
      rw [List.mem_filterMap] at hds ⊢
      obtain ⟨u, hu, hd⟩ := hds
      exact ⟨u, List.mem_cons_of_mem t hu, hd⟩
    obtain ⟨vs, hvs, hread, hfill⟩ := ih htail
    cases t with
    | placeholder ds =>
      obtain ⟨v, hv, hw⟩ := argument_of_fits (h ds (by simp [SqlToken.digits?]))
      refine ⟨v :: vs, ?_, ?_, ?_⟩
      · have hdigits : (SqlToken.placeholder ds :: ts).filterMap SqlToken.digits? =
            ds :: ts.filterMap SqlToken.digits? := rfl
        rw [hdigits, forEach, hv, hvs]
        rfl
      · have hslot := readFormat_slot (ts.flatMap SqlToken.formatChars)
        rw [hread] at hslot
        exact hslot
      · rw [List.flatMap_cons, List.flatMap_cons, hw]
        have hslot := fillSlots_slot (ts.flatMap SqlToken.formatUnits) v vs
        rw [hfill] at hslot
        exact hslot
    | quoted cs | plain c =>
      refine ⟨vs, hvs, ?_, ?_⟩
      · rw [List.flatMap_cons, List.flatMap_cons, SqlToken.formatChars,
          readFormat_doublePercent, hread]
        · rfl
        · simp
      · rw [List.flatMap_cons, List.flatMap_cons, SqlToken.formatUnits, fillSlots_chars, hfill]
        · rfl
        · simp

/-- Every placeholder outside quoted regions can be read and has a parameter. -/
def IsNumbered (c : Compiled) : Prop :=
  ∀ ds ∈ c.placeholders, Fits c.parameters ds

instance (c : Compiled) : Decidable c.IsNumbered :=
  inferInstanceAs (Decidable (∀ ds ∈ c.placeholders, Fits c.parameters ds))

/-- The digits are those of the first placeholder that does not fit. -/
def StopsAt (c : Compiled) (ds : List Char) : Prop :=
  ∃ before after, c.placeholders = before ++ ds :: after ∧
    (∀ es ∈ before, Fits c.parameters es) ∧ ¬ Fits c.parameters ds

/-- The error of a statement is that of the first placeholder that does not fit. -/
theorem toFormat_eq_error_iff {c : Compiled} {e : Error} :
    c.toFormat = .error e ↔ ∃ ds, c.StopsAt ds ∧ argument c.parameters ds = .error e := by
  rw [toFormat_eq, map_eq_error_iff, forEach_eq_error_iff]
  constructor
  · rintro ⟨before, ds, after, h, hbefore, he⟩
    refine ⟨ds, ⟨before, after, h, fun es hes => exists_argument_iff.mp (hbefore es hes), ?_⟩, he⟩
    intro hfits
    obtain ⟨v, hv⟩ := exists_argument_iff.mpr hfits
    cases hv.symm.trans he
  · rintro ⟨ds, ⟨before, after, h, hbefore, _⟩, he⟩
    exact ⟨before, ds, after, h, fun es hes => exists_argument_iff.mpr (hbefore es hes), he⟩

/-- Only a statement whose placeholders all fit has a format style. -/
theorem exists_error_iff {c : Compiled} : (∃ e, c.toFormat = .error e) ↔ ¬ c.IsNumbered := by
  constructor
  · rintro ⟨e, he⟩ hn
    obtain ⟨ds, ⟨before, after, h, _, hds⟩, _⟩ := toFormat_eq_error_iff.mp he
    exact hds (hn ds (by simp [h]))
  · intro hn
    -- from success, since the lemma on errors would ask which placeholder is the first
    cases hr : c.toFormat with
    | error e => exact ⟨e, rfl⟩
    | ok r =>
      rw [toFormat_eq] at hr
      obtain ⟨vs, hvs, _⟩ := map_eq_ok_iff.mp hr
      exact absurd (fun ds hds => exists_argument_iff.mp (forEach_ok_of_mem hvs hds)) hn

theorem exists_compilation_iff {c : Compiled} :
    (∃ fault, c.toFormat = .error (.compilation fault)) ↔
      ∃ ds, c.StopsAt ds ∧ ds.length ≤ digitLimit := by
  constructor
  · rintro ⟨fault, he⟩
    obtain ⟨ds, hstops, hds⟩ := toFormat_eq_error_iff.mp he
    refine ⟨ds, hstops, Nat.le_of_not_lt fun hlt => ?_⟩
    cases (argument_of_lt hlt).symm.trans hds
  · rintro ⟨ds, hstops, hle⟩
    have hfits : ¬ Fits c.parameters ds := by
      obtain ⟨_, _, _, _, hds⟩ := hstops
      exact hds
    exact ⟨_, toFormat_eq_error_iff.mpr ⟨ds, hstops, argument_of_not_fits hle hfits⟩⟩

theorem tooManyDigits_iff {c : Compiled} :
    c.toFormat = .error .tooManyDigits ↔ ∃ ds, c.StopsAt ds ∧ digitLimit < ds.length := by
  rw [toFormat_eq_error_iff]
  refine exists_congr fun ds => and_congr_right fun hstops => ⟨fun he => ?_, argument_of_lt⟩
  obtain ⟨_, _, _, _, hfits⟩ := hstops
  by_contra hlt
  cases (argument_of_not_fits (Nat.le_of_not_lt hlt) hfits).symm.trans he

theorem exists_format {c : Compiled} (h : c.IsNumbered) : ∃ r units, c.toFormat = .ok r ∧
    readFormat r.sql.toList = some units ∧
    fillSlots units r.parameters = some (fill c.parameters c.sql.toList) ∧
    (units.filter FormatUnit.isSlot).length = r.parameters.length := by
  obtain ⟨vs, hvs, hread, hfill⟩ := formatChars_reads h
  refine ⟨_, _, by rw [toFormat_eq, placeholders, hvs]; rfl, ?_, hfill, length_of_fillSlots hfill⟩
  rwa [String.toList_ofList]

/-- The statement has a format style just if all its placeholders can be read and have parameters.
Otherwise the first that does not fit decides on the error: its number is out of range, or it has
too many digits. In the format style percent signs are all doubled or slots, there are as many slots
as arguments, and with the arguments in the slots it is the text with each parameter at the place of
its placeholder. -/
theorem toFormat_reads_back (c : Compiled) :
    ((∃ e, c.toFormat = .error e) ↔ ¬ c.IsNumbered) ∧
      ((∃ fault, c.toFormat = .error (.compilation fault)) ↔
        ∃ ds, c.StopsAt ds ∧ ds.length ≤ digitLimit) ∧
      (c.toFormat = .error .tooManyDigits ↔ ∃ ds, c.StopsAt ds ∧ digitLimit < ds.length) ∧
      (c.IsNumbered → ∃ r units, c.toFormat = .ok r ∧ readFormat r.sql.toList = some units ∧
        fillSlots units r.parameters = some (fill c.parameters c.sql.toList) ∧
        (units.filter FormatUnit.isSlot).length = r.parameters.length) :=
  ⟨exists_error_iff, exists_compilation_iff, tooManyDigits_iff, exists_format⟩

/-- An open quote hides no placeholder, and a quoted `%s` is no slot. -/
theorem toFormat_reads_back_percents :
    let c : Compiled := ⟨"100% '$9 %s' $2%$1 '$2", [.int 1, .str "x"]⟩
    c.IsNumbered ∧ ∃ r units, c.toFormat = .ok r ∧ readFormat r.sql.toList = some units ∧
      fillSlots units r.parameters = some (fill c.parameters c.sql.toList) ∧
      (units.filter FormatUnit.isSlot).length = r.parameters.length := by
  intro c
  have hc : c.IsNumbered := by
    decide +kernel
  obtain ⟨_, _, _, hreads⟩ := toFormat_reads_back c
  exact ⟨hc, hreads hc⟩

/-- A number that is out of range need not be a compilation error. -/
theorem toFormat_longPlaceholder : ¬ ∀ c : Compiled,
    (∃ fault, c.toFormat = .error (.compilation fault)) ↔
      ∃ ds ∈ c.placeholders, ¬ (1 ≤ number ds ∧ number ds ≤ c.parameters.length) := by
  intro h
  have hone : placeholders ⟨longPlaceholder, []⟩ = [longDigits] := by
    rw [placeholders, sqlTokens_longPlaceholder]
    rfl
  have hstops : StopsAt ⟨longPlaceholder, []⟩ longDigits :=
    ⟨[], [], hone, by simp, fun hfits => Nat.not_le_of_lt digitLimit_lt_longDigits hfits.short⟩
  have hlong : toFormat ⟨longPlaceholder, []⟩ = .error .tooManyDigits :=
    tooManyDigits_iff.mpr ⟨longDigits, hstops, digitLimit_lt_longDigits⟩
  have hout : ¬ (1 ≤ number longDigits ∧ number longDigits ≤ ([] : List Value).length) := by
    rw [List.length_nil]
    omega
  obtain ⟨fault, hfault⟩ := (h ⟨longPlaceholder, []⟩).mpr ⟨longDigits, by simp [hone], hout⟩
  cases hlong.symm.trans hfault

end Compiled

end QueryBuilder
