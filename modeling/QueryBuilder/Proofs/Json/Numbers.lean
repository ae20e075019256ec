import QueryBuilder.Proofs.Json.Reading
import QueryBuilder.Proofs.Text.Respelled

/-!
Numbers in JSON texts. Every finite number is spelled as the grammar has it and is read as the
decimal that it denotes.
-/
namespace QueryBuilder

namespace Text

/-- Digits, and at least one. -/
def IsDigits (ds : List Char) : Prop :=
  ds ≠ [] ∧ ∀ d ∈ ds, d.isDigit = true

/-- A fraction as it is spelled, if there is one. -/
def IsFraction (cs : List Char) : Prop :=
  cs = [] ∨ ∃ ds, cs = '.' :: ds ∧ IsDigits ds

/-- A power of ten as it is spelled, if there is one. -/
def IsPower (cs : List Char) : Prop :=
  cs = [] ∨ ∃ sign ds, cs = 'e' :: sign :: ds ∧ (sign = '+' ∨ sign = '-') ∧ IsDigits ds

/-- The texts of finite numbers. -/
inductive IsNumeral : List Char → Prop
  | mk (negative : Bool) (whole : Nat) {fraction power : List Char} :
    IsFraction fraction → IsPower power →
      IsNumeral ((if negative then ['-'] else []) ++ (Nat.toDigits 10 whole ++ (fraction ++ power)))

/-- The texts of the floating-point numbers that are no decimals. -/
def nonFinite : List String := ["nan", "inf", "-inf"]

/-- The texts of floating-point numbers: an optional sign, digits, then a fraction and a power of
ten where they are needed, or else a name. -/
def IsFloat (text : String) : Prop :=
  text ∈ nonFinite ∨ IsNumeral text.toList

theorem isDigits_toDigits (n : Nat) : IsDigits (Nat.toDigits 10 n) :=
  ⟨Nat.toDigits_ne_nil, fun _ hc => Nat.isDigit_of_mem_toDigits (by decide) (by decide) hc⟩

/-- No digits begin with a needless zero. -/
theorem toDigits_eq_zero {n : Nat} (h : (Nat.toDigits 10 n).head? = some '0') :
    Nat.toDigits 10 n = ['0'] := by
  induction n using Nat.strongRecOn with
  | ind n ih =>
    rw [Nat.toDigits_eq_if (by decide)] at h ⊢
    split at h
    next hn =>
      rw [if_pos hn]
      rw [List.head?_cons, Option.some.injEq] at h
      rw [h]
    next hn =>
      rw [List.head?_append_of_ne_nil _ Nat.toDigits_ne_nil] at h
      have hzero : number (Nat.toDigits 10 (n / 10)) = 0 := by
        rw [ih (n / 10) (by omega) h]
        rfl
      rw [number_toDigits] at hzero
      omega

/-- The digits of a whole number begin with no sign, and with a zero only if that is all. -/
theorem toDigits_eq_cons (n : Nat) :
    ∃ d ds, Nat.toDigits 10 n = d :: ds ∧ d ≠ '-' ∧ (d = '0' → d :: ds = ['0']) := by
  obtain ⟨d, ds, h⟩ := List.exists_cons_of_ne_nil (isDigits_toDigits n).1
  refine ⟨d, ds, h, ?_, fun hzero => ?_⟩
  · rintro rfl
    have hdigit := (isDigits_toDigits n).2 '-' (by simp [h])
    cases hdigit
  · have hone := toDigits_eq_zero (n := n) (by rw [h, hzero, List.head?_cons])
    rwa [h] at hone

theorem IsPower.isDigit_head? {power : List Char} (h : IsPower power) :
    ∀ c ∈ power.head?, c.isDigit = false := by
  rcases h with rfl | ⟨_, _, rfl, _⟩
  · simp
  · rintro _ ⟨⟩
    rfl

theorem isDigit_head?_tail {fraction power : List Char} (hf : IsFraction fraction)
    (hp : IsPower power) : ∀ c ∈ (fraction ++ power).head?, c.isDigit = false := by
  rcases hf with rfl | ⟨_, rfl, _⟩
  · exact hp.isDigit_head?
  · rintro _ ⟨⟩
    rfl

theorem readExponent_signed {sign : Char} {ds : List Char} (hs : sign = '+' ∨ sign = '-')
    (hd : IsDigits ds) : ∃ e, readExponent (sign :: ds) = some e := by
  have hall : ds.all Char.isDigit = true := List.all_eq_true.mpr hd.2
  rcases hs with rfl | rfl <;> simp [readExponent, hd.1, hall]

end Text

namespace Json

open Text

/-- The grammar of numbers asks for more than the reading of decimals does. Numbers as they are
spelled have all that. -/
theorem read_numeral {cs : List Char} (h : IsNumeral cs) :
    ∃ d, Decimal.read cs = some d ∧ readNumber cs = some d := by
  obtain ⟨negative, whole, hf, hp⟩ := h
  obtain ⟨d, ds, hwhole, hsign, hzero⟩ := toDigits_eq_cons whole
  obtain ⟨htake, hdrop⟩ := span_append (isDigits_toDigits whole).2 (isDigit_head?_tail hf hp)
  rw [hwhole, List.cons_append] at htake hdrop
  rw [hwhole]
  rcases hf with rfl | ⟨fs, rfl, hfraction⟩
  · rcases hp with rfl | ⟨sign, es, rfl, hs, he⟩
    · simp only [List.append_nil] at htake hdrop
      cases negative <;> simpa [Decimal.read, readNumber, hsign, htake, hdrop] using hzero
    · obtain ⟨e, he⟩ := readExponent_signed hs he
      simp only [List.nil_append] at htake hdrop
      cases negative <;> simpa [Decimal.read, readNumber, hsign, htake, hdrop, he] using hzero
  · obtain ⟨htake', hdrop'⟩ := span_append hfraction.2 hp.isDigit_head?
    have hne := hfraction.1
    rcases hp with rfl | ⟨sign, es, rfl, hs, he⟩
    · simp only [List.append_nil] at htake hdrop htake' hdrop'
      cases negative <;>
        simpa [Decimal.read, readNumber, hsign, htake, hdrop, htake', hdrop', hne] using hzero
    · obtain ⟨e, he⟩ := readExponent_signed hs he
      simp only [List.cons_append] at htake hdrop
      cases negative <;>
        simpa [Decimal.read, readNumber, hsign, htake, hdrop, htake', hdrop', hne, he] using hzero

/-- A whole number as a decimal. -/
def ofInt (n : Int) : Decimal :=
  ⟨n < 0, n.natAbs, 0⟩

theorem toList_int (n : Int) :
    (toString n).toList = (if n < 0 then ['-'] else []) ++ Nat.toDigits 10 n.natAbs := by
  cases n with
  | ofNat m => exact Nat.toList_repr
  | negSucc m =>
    rw [if_pos (Int.negSucc_lt_zero m), Int.natAbs_negSucc, ← Nat.toList_repr]
    exact String.toList_append

/-- The digits of a whole number are read as the number. -/
theorem readNumber_int (n : Int) :
    readNumber (toString n).toList = some (ofInt n) := by
  obtain ⟨d, ds, hwhole, hsign, hzero⟩ := toDigits_eq_cons n.natAbs
  have hend : ∀ c ∈ ([] : List Char).head?, c.isDigit = false := by simp
  obtain ⟨htake, hdrop⟩ := span_append (isDigits_toDigits n.natAbs).2 hend
  have hvalue := number_toDigits n.natAbs
  rw [List.append_nil, hwhole] at htake hdrop
  rw [hwhole] at hvalue
  rw [toList_int, hwhole]
  by_cases hn : n < 0 <;> simpa [readNumber, ofInt, hn, hsign, htake, hdrop, hvalue] using hzero

/-- Holds of the characters that numbers are spelled with. -/
def isNumberChar (c : Char) : Bool :=
  c.isDigit || ['-', '+', '.', 'e'].contains c

theorem isNumberChar_digits {ds : List Char} (h : IsDigits ds) :
    ∀ d ∈ ds, isNumberChar d = true := by
  intro d hm
  rw [isNumberChar, h.2 d hm, Bool.true_or]

theorem isNumberChar_int (n : Int) : ∀ c ∈ (toString n).toList, isNumberChar c = true := by
  rw [toList_int]
  have hdigits := isNumberChar_digits (isDigits_toDigits n.natAbs)
  by_cases hn : n < 0
  · simpa [hn] using ⟨by decide, hdigits⟩
  · simpa [hn] using hdigits

theorem isNumberChar_numeral {cs : List Char} (h : IsNumeral cs) :
    ∀ c ∈ cs, isNumberChar c = true := by
  obtain ⟨negative, whole, hf, hp⟩ := h
  have hsign : (if negative then ['-'] else []).all isNumberChar = true := by
    cases negative <;> rfl
  simp only [List.mem_append]
  rintro c (hc | hc | hc | hc)
  · exact List.all_eq_true.mp hsign c hc
  · exact isNumberChar_digits (isDigits_toDigits whole) c hc
  · rcases hf with rfl | ⟨ds, rfl, hd⟩
    · cases hc
    · rcases List.mem_cons.mp hc with rfl | hc
      · decide
      · exact isNumberChar_digits hd c hc
  · rcases hp with rfl | ⟨sign, ds, rfl, hs, hd⟩
    · cases hc
    · rcases List.mem_cons.mp hc with rfl | hc
      · decide
      · rcases List.mem_cons.mp hc with rfl | hc
        · rcases hs with rfl | rfl <;> decide
        · exact isNumberChar_digits hd c hc

theorem isLetter_of_isNumberChar {c : Char} (h : isNumberChar c = true) : isLetter c = true := by
  have hmarks : ('"' :: (blanks ++ marks)).all (!isNumberChar ·) = true := by decide
  have hc : c ∉ '"' :: (blanks ++ marks) := by
    intro hm
    have hmark := List.all_eq_true.mp hmarks c hm
    rw [h] at hmark
    cases hmark
  simp only [List.mem_cons, List.mem_append, not_or] at hc
  simp [isLetter, delimiter?, hc]

/-- Numbers are words of their own. -/
theorem Yields.number {cs : List Char} {d : Decimal} (hc : ∀ c ∈ cs, isNumberChar c = true)
    (h : readNumber cs = some d) : Yields cs (some [.leaf (.number d)]) := by
  have hne : cs ≠ [] := by
    rintro rfl
    cases h
  have hname : ∀ name : List Char, name.all isNumberChar = false → cs ≠ name := by
    rintro name hn rfl
    rw [List.all_eq_true.mpr hc] at hn
    cases hn
  have hword : ofWord? cs = some (.number d) := by
    rw [ofWord?, if_neg (hname _ (by decide)), if_neg (hname _ (by decide)),
      if_neg (hname _ (by decide)), h]
    rfl
  have hletters : cs.all isLetter = true :=
    List.all_eq_true.mpr fun c hm => isLetter_of_isNumberChar (hc c hm)
  have hyields := Yields.word hne hletters
  rwa [hword] at hyields

theorem Yields.int (n : Int) :
    Yields (toString n).toList (some [.leaf (.number (ofInt n))]) :=
  .number (isNumberChar_int n) (readNumber_int n)

theorem Yields.numeral {cs : List Char} (h : IsNumeral cs) :
    ∃ d, Decimal.read cs = some d ∧ Yields cs (some [.leaf (.number d)]) := by
  obtain ⟨d, hd, hread⟩ := read_numeral h
  exact ⟨d, hd, .number (isNumberChar_numeral h) hread⟩

end Json

end QueryBuilder
