import Mathlib.Tactic.SplitIfs
import QueryBuilder.Proofs.Json.Reading
import QueryBuilder.Value.Document

/-!
Strings in JSON texts. A character stands for itself or is escaped, and either way it is read as
itself again.
-/
namespace QueryBuilder

namespace Text

theorem hex_one {n : Nat} (h : n < 16) : hex 1 n = [n.digitChar] := by
  rw [hex, Nat.toDigits_of_lt_base h]
  rfl

/-- The last digit stands behind the digits of what it leaves. -/
theorem hex_succ (width n : Nat) :
    hex (width + 2) n = hex (width + 1) (n / 16) ++ [(n % 16).digitChar] := by
  unfold hex
  rw [Nat.toDigits_eq_if (by decide)]
  split
  next h =>
    rw [Nat.div_eq_of_lt h, Nat.mod_eq_of_lt h]
    simp [← List.replicate_succ']
  next h =>
    simp

theorem hex_four {n : Nat} (h : n < 0x10000) :
    hex 4 n = [(n / 16 / 16 / 16).digitChar, (n / 16 / 16 % 16).digitChar, (n / 16 % 16).digitChar,
      (n % 16).digitChar] := by
  rw [hex_succ, hex_succ, hex_succ, hex_one (by omega)]
  rfl

end Text

namespace Json

theorem hexDigit?_digitChar {n : Nat} (h : n < 16) : hexDigit? n.digitChar = some n := by
  have hall : ∀ n, n < 16 → hexDigit? n.digitChar = some n := by decide
  exact hall n h

/-- Holds of a text inside a string that is read as certain characters, whatever stands around
it. -/
def Spells (text cs : List Char) : Prop :=
  ∃ parts, (∀ before rest,
    scan (.string before) (text ++ rest) = scan (.string (before ++ parts)) rest) ∧
      ∀ more, joinParts none (parts ++ more) = (joinParts none more).map (cs ++ ·)

namespace Spells

theorem nil : Spells [] [] :=
  ⟨[], by simp, by simp⟩

theorem append {a b cs ds : List Char} (h : Spells a cs) (h' : Spells b ds) :
    Spells (a ++ b) (cs ++ ds) := by
  obtain ⟨first, hscan, hjoin⟩ := h
  obtain ⟨others, hscans, hjoins⟩ := h'
  refine ⟨first ++ others, fun before rest => ?_, fun more => ?_⟩
  · rw [List.append_assoc, hscan, hscans, List.append_assoc]
  · rw [List.append_assoc, hjoin, hjoins, Option.map_map]
    simp [Function.comp_def]

theorem plain {c : Char} (hq : c ≠ '"') (hb : c ≠ '\\') (hc : 0x20 ≤ c.toNat) :
    Spells [c] [c] := by
  refine ⟨[.char c], fun before rest => ?_, fun more => rfl⟩
  rw [List.singleton_append, scan, if_neg hq, if_neg hb, if_neg (by omega)]

theorem escaped {c d : Char} (hd : d ≠ 'u') (h : escaped? d = some c) : Spells ['\\', d] [c] := by
  refine ⟨[.char c], fun before rest => ?_, fun more => rfl⟩
  simp [scan, hd, h]

theorem scan_unit {n : Nat} (h : n < 0x10000) (before : List Part) (rest : List Char) :
    scan (.string before) (Document.unit n ++ rest) =
      scan (.string (before ++ [.unit n])) rest := by
  have hn :
      16 * (16 * (16 * (n / 16 / 16 / 16) + n / 16 / 16 % 16) + n / 16 % 16) + n % 16 = n := by
    omega
  have h0 := hexDigit?_digitChar (show n / 16 / 16 / 16 < 16 by omega)
  have h1 := hexDigit?_digitChar (show n / 16 / 16 % 16 < 16 by omega)
  have h2 := hexDigit?_digitChar (show n / 16 % 16 < 16 by omega)
  have h3 := hexDigit?_digitChar (show n % 16 < 16 by omega)
  simp [Document.unit, Text.hex_four h, scan, h0, h1, h2, h3, hn]

/-- No character has the number of a half. -/
theorem not_half (c : Char) : isHigh c.toNat = false ∧ isLow c.toNat = false := by
  have hc : c.toNat < 0xd800 ∨ 0xdfff < c.toNat ∧ c.toNat < 0x110000 := c.valid
  simp only [isHigh, isLow, Bool.and_eq_false_iff, decide_eq_false_iff_not]
  omega

theorem unit {c : Char} (h : c.toNat < 0x10000) : Spells (Document.unit c.toNat) [c] := by
  obtain ⟨hhigh, hlow⟩ := not_half c
  refine ⟨[.unit c.toNat], scan_unit h, fun more => ?_⟩
  simp [joinParts, hhigh, hlow]

/-- The characters beyond 16 bits are read from two halves. -/
theorem pair {c : Char} (h : 0x10000 ≤ c.toNat) :
    Spells (Document.unit (0xd800 + (c.toNat - 0x10000) / 0x400) ++
      Document.unit (0xdc00 + (c.toNat - 0x10000) % 0x400)) [c] := by
  have hc : c.toNat < 0xd800 ∨ 0xdfff < c.toNat ∧ c.toNat < 0x110000 := c.valid
  obtain ⟨high, hdiv⟩ : ∃ high, high = (c.toNat - 0x10000) / 0x400 := ⟨_, rfl⟩
  obtain ⟨low, hmod⟩ : ∃ low, low = (c.toNat - 0x10000) % 0x400 := ⟨_, rfl⟩
  rw [← hdiv, ← hmod]
  have hhigh : isHigh (0xd800 + high) = true := by
    simp only [isHigh, Bool.and_eq_true, decide_eq_true_eq]
    omega
  have hlow : isLow (0xdc00 + low) = true := by
    simp only [isLow, Bool.and_eq_true, decide_eq_true_eq]
    omega
  have hpaired : paired (0xd800 + high) (0xdc00 + low) = c := by
    have hn : 0x10000 + (0xd800 + high - 0xd800) * 0x400 + (0xdc00 + low - 0xdc00) = c.toNat := by
      omega
    rw [paired, hn, Char.ofNat_toNat]
  refine ⟨[.unit (0xd800 + high), .unit (0xdc00 + low)], fun before rest => ?_, fun more => ?_⟩
  · rw [List.append_assoc, scan_unit (by omega), scan_unit (by omega), List.append_assoc]
    rfl
  · simp [joinParts, hhigh, hlow, hpaired]

end Spells

/-- Holds of ways to write the characters of a string, each so that it is read as itself again. -/
def Escapes (escape : Char → List Char) : Prop :=
  ∀ c, Spells (escape c) [c]

theorem Escapes.flatMap {escape : Char → List Char} (h : Escapes escape) (cs : List Char) :
    Spells (cs.flatMap escape) cs := by
  induction cs with
  | nil => exact .nil
  | cons c cs ih => exact (h c).append ih

/-- A string in quotes. -/
def quoted (escape : Char → List Char) (s : String) : List Char :=
  '"' :: s.toList.flatMap escape ++ ['"']

theorem Yields.string {escape : Char → List Char} (h : Escapes escape) (s : String) :
    Yields (quoted escape s) (some [.leaf (.string s)]) := by
  obtain ⟨parts, hscan, hjoin⟩ := h.flatMap s.toList
  have hparts : joinParts none parts = some s.toList := by
    have hnil := hjoin []
    rwa [List.append_nil, joinParts, Option.map_some, List.append_nil] at hnil
  intro rest _
  have hopen : scan (.word []) (quoted escape s ++ rest) =
      scan (.string []) (s.toList.flatMap escape ++ '"' :: rest) := by
    simp only [quoted, List.cons_append, List.append_assoc, List.nil_append, scan, if_true,
      wordTokens]
    cases scan (.string []) (s.toList.flatMap escape ++ '"' :: rest) <;> rfl
  rw [hopen, hscan, List.nil_append, scan, if_pos rfl, hparts]
  cases scan (.word []) rest <;> simp

/-- A character of a string as the database writes it: only quotes, backslashes and the characters
in front of the blank are escaped. -/
def databaseChar (c : Char) : List Char :=
  if c = '"' ∨ c = '\\' then ['\\', c]
  else if c = '\n' then ['\\', 'n']
  else if c = '\r' then ['\\', 'r']
  else if c = '\t' then ['\\', 't']
  else if c.toNat = 8 then ['\\', 'b']
  else if c.toNat = 12 then ['\\', 'f']
  else if c.toNat < 0x20 then Document.unit c.toNat
  else [c]

theorem escapes_databaseChar : Escapes databaseChar := by
  intro c
  unfold databaseChar
  split_ifs with hmark hn hr ht hb hf hunit
  · rcases hmark with rfl | rfl
    · exact .escaped (by decide) rfl
    · exact .escaped (by decide) rfl
  · exact .escaped (by decide) (by rw [hn]; rfl)
  · exact .escaped (by decide) (by rw [hr]; rfl)
  · exact .escaped (by decide) (by rw [ht]; rfl)
  · have hc : '\x08' = c := Char.toNat_inj.mp hb.symm
    exact .escaped (by decide) (by rw [← hc]; rfl)
  · have hc : '\x0c' = c := Char.toNat_inj.mp hf.symm
    exact .escaped (by decide) (by rw [← hc]; rfl)
  · exact .unit (by omega)
  · rw [not_or] at hmark
    exact .plain hmark.1 hmark.2 (by omega)

/-- Below the last control character, documents are written as the database writes them. -/
theorem stringChar_of_lt {c : Char} (h : c.toNat < 0x7f) :
    Document.stringChar c = databaseChar c := by
  simp only [Document.stringChar, databaseChar, Bool.or_eq_true, beq_iff_eq, Bool.and_eq_true,
    decide_eq_true_eq, and_true, h, show c.toNat < 0x10000 by omega, if_true]
  have hplain : (if 0x20 ≤ c.toNat then [c] else Document.unit c.toNat) =
      if c.toNat < 0x20 then Document.unit c.toNat else [c] := by
    split_ifs <;> first | rfl | omega
  rw [hplain]

theorem not_named_of_le {c : Char} (h : 0x7f ≤ c.toNat) :
    ¬ (c = '"' ∨ c = '\\') ∧ c ≠ '\n' ∧ c ≠ '\r' ∧ c ≠ '\t' := by
  have hne : ∀ d : Char, d.toNat < 0x7f → c ≠ d := by
    rintro d hd rfl
    omega
  exact ⟨not_or.mpr ⟨hne _ (by decide), hne _ (by decide)⟩, hne _ (by decide), hne _ (by decide),
    hne _ (by decide)⟩

/-- Documents write all other characters by number. -/
theorem stringChar_of_le {c : Char} (h : 0x7f ≤ c.toNat) :
    Document.stringChar c = if c.toNat < 0x10000 then Document.unit c.toNat else
      Document.unit (0xd800 + (c.toNat - 0x10000) / 0x400) ++
        Document.unit (0xdc00 + (c.toNat - 0x10000) % 0x400) := by
  obtain ⟨hmark, hn, hr, ht⟩ := not_named_of_le h
  simp only [Document.stringChar, Bool.or_eq_true, beq_iff_eq, Bool.and_eq_true,
    decide_eq_true_eq]
  rw [if_neg hmark, if_neg hn, if_neg hr, if_neg ht, if_neg (by omega), if_neg (by omega),
    if_neg (by omega)]

/-- In the database the characters that documents write by number stand for themselves. -/
theorem databaseChar_of_le {c : Char} (h : 0x7f ≤ c.toNat) : databaseChar c = [c] := by
  obtain ⟨hmark, hn, hr, ht⟩ := not_named_of_le h
  rw [databaseChar, if_neg hmark, if_neg hn, if_neg hr, if_neg ht, if_neg (by omega),
    if_neg (by omega), if_neg (by omega)]

theorem escapes_stringChar : Escapes Document.stringChar := by
  intro c
  by_cases h : c.toNat < 0x7f
  · rw [stringChar_of_lt h]
    exact escapes_databaseChar c
  · rw [stringChar_of_le (by omega)]
    split_ifs with hunit
    · exact .unit hunit
    · exact .pair (by omega)

/-- Holds of the characters that documents consist of: ASCII without the last one, which is a
control character. -/
def isAscii (c : Char) : Bool :=
  c.toNat < 0x7f

theorem isAscii_iff {c : Char} : isAscii c = true ↔ c.toNat < 0x7f :=
  decide_eq_true_iff

theorem isAscii_unit {n : Nat} (h : n < 0x10000) : (Document.unit n).all isAscii = true := by
  have hdigit : ∀ k, k < 16 → isAscii k.digitChar = true := by decide
  rw [Document.unit, Text.hex_four h]
  simp only [List.all_cons, List.all_nil, Bool.and_true, Bool.and_eq_true]
  exact ⟨rfl, rfl, hdigit _ (by omega), hdigit _ (by omega), hdigit _ (by omega),
    hdigit _ (by omega)⟩

theorem isAscii_databaseChar {c : Char} (h : isAscii c = true) :
    (databaseChar c).all isAscii = true := by
  unfold databaseChar
  split_ifs with _ _ _ _ _ _ hunit
  · simp [h, show isAscii '\\' = true from rfl]
  · rfl
  · rfl
  · rfl
  · rfl
  · rfl
  · exact isAscii_unit (by omega)
  · simp [h]

theorem isAscii_stringChar (c : Char) : (Document.stringChar c).all isAscii = true := by
  by_cases h : c.toNat < 0x7f
  · rw [stringChar_of_lt h]
    exact isAscii_databaseChar (isAscii_iff.mpr h)
  · have hc : c.toNat < 0xd800 ∨ 0xdfff < c.toNat ∧ c.toNat < 0x110000 := c.valid
    rw [stringChar_of_le (by omega)]
    split_ifs with hunit
    · exact isAscii_unit hunit
    · rw [List.all_append, isAscii_unit (by omega), isAscii_unit (by omega)]
      rfl

theorem isAscii_quoted (s : String) : (quoted Document.stringChar s).all isAscii = true := by
  have hchars : (s.toList.flatMap Document.stringChar).all isAscii = true := by
    rw [List.all_flatMap]
    exact List.all_eq_true.mpr fun c _ => isAscii_stringChar c
  rw [quoted, List.cons_append, List.all_cons, List.all_append, hchars]
  rfl

end Json

end QueryBuilder
