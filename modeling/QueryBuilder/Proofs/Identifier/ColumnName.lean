import Mathlib.Data.List.Basic
import QueryBuilder.Identifier

/-!
The names that columns can have. A checked name is an identifier, perhaps behind a qualifier, or a
star; reading the name as a reference gives back these parts.
-/
namespace QueryBuilder

namespace Identifier

theorem isPart_of_isValid {name : String} (h : isValid name = true) {c : Char}
    (hc : c ∈ name.toList) : isPart c = true := by
  unfold isValid at h
  cases hn : name.toList with
  | nil => simp [hn] at hc
  | cons d ds =>
    simp only [hn, isValidChars, Bool.and_eq_true, List.all_eq_true] at h
    rw [hn] at hc
    rcases List.mem_cons.mp hc with rfl | hd
    · simp [isPart, h.1]
    · exact h.2 c hd

theorem toList_ne_nil {name : String} (h : isValid name = true) : name.toList ≠ [] := by
  intro hn
  simp [isValid, hn, isValidChars] at h

theorem ne_empty {name : String} (h : isValid name = true) : name ≠ "" := by
  rintro rfl
  simp [isValid, isValidChars] at h

theorem ne_star {name : String} (h : isValid name = true) : name ≠ "*" := by
  rintro rfl
  exact absurd h (by decide)

theorem dot_notMem {name : String} (h : isValid name = true) : '.' ∉ name.toList := by
  intro hc
  exact absurd (isPart_of_isValid h hc) (by decide)

theorem toNat_of_isUpper {c : Char} (h : c.isUpper = true) : 65 ≤ c.toNat ∧ c.toNat ≤ 90 := by
  have hv : 'A'.val ≤ c.val ∧ c.val ≤ 'Z'.val := of_decide_eq_true h
  rw [UInt32.le_iff_toNat_le, UInt32.le_iff_toNat_le] at hv
  exact hv

theorem toNat_of_isLower {c : Char} (h : c.isLower = true) : 97 ≤ c.toNat ∧ c.toNat ≤ 122 := by
  obtain ⟨ha, hz⟩ := Bool.and_eq_true_iff.mp h
  have hv : 'a'.val ≤ c.val ∧ c.val ≤ 'z'.val := ⟨of_decide_eq_true ha, of_decide_eq_true hz⟩
  rw [UInt32.le_iff_toNat_le, UInt32.le_iff_toNat_le] at hv
  exact hv

/-- Identifiers consist of ASCII characters that are no blanks. -/
theorem isBlank_of_isPart {c : Char} (h : isPart c = true) : Text.isBlank c = false := by
  have hn : (65 ≤ c.toNat ∧ c.toNat ≤ 90) ∨ (97 ≤ c.toNat ∧ c.toNat ≤ 122) ∨ c.toNat = 95 ∨
      (48 ≤ c.toNat ∧ c.toNat ≤ 57) := by
    rcases Bool.or_eq_true_iff.mp h with hs | hd
    · rcases Bool.or_eq_true_iff.mp hs with ha | hu
      · rcases Bool.or_eq_true_iff.mp ha with ha | ha
        · exact Or.inl (toNat_of_isUpper ha)
        · exact Or.inr (Or.inl (toNat_of_isLower ha))
      · cases beq_iff_eq.mp hu
        exact Or.inr (Or.inr (Or.inl rfl))
    · exact Or.inr (Or.inr (Or.inr (Char.isDigit_iff_toNat.mp hd)))
  simp only [Text.isBlank, Bool.or_eq_false_iff, Bool.and_eq_false_iff, decide_eq_false_iff_not,
    beq_eq_false_iff_ne]
  omega

theorem noBlank {name : String} (h : isValid name = true) :
    ∀ c ∈ name.toList, Text.isBlank c = false :=
  fun _ hc => isBlank_of_isPart (isPart_of_isValid h hc)

theorem isBlankText_eq_false {name : String} (h : isValid name = true) :
    Text.isBlankText name = false := by
  obtain ⟨c, hc⟩ := List.exists_mem_of_ne_nil _ (toList_ne_nil h)
  rw [Text.isBlankText, List.all_eq_false]
  exact ⟨c, hc, by simp [noBlank h c hc]⟩

end Identifier

namespace Text

theorem splitAt_ne_nil (mark : Char) (cs : List Char) : splitAt mark cs ≠ [] := by
  fun_cases splitAt mark cs <;> simp

theorem splitAt_of_notMem {mark : Char} {cs : List Char} (h : mark ∉ cs) :
    splitAt mark cs = [cs] := by
  induction cs with
  | nil => rfl
  | cons c cs ih =>
    simp only [List.mem_cons, not_or] at h
    simp [splitAt, Ne.symm h.1, ih h.2]

theorem splitAt_append {mark : Char} {cs : List Char} (h : mark ∉ cs) (ds : List Char) :
    splitAt mark (cs ++ mark :: ds) = cs :: splitAt mark ds := by
  induction cs with
  | nil => simp [splitAt]
  | cons c cs ih =>
    simp only [List.mem_cons, not_or] at h
    simp [splitAt, Ne.symm h.1, ih h.2]

/-- The parts of a text with the mark between them are the text. -/
theorem intercalate_splitAt (mark : Char) (cs : List Char) :
    [mark].intercalate (splitAt mark cs) = cs := by
  induction cs with
  | nil => rfl
  | cons c cs ih =>
    cases hs : splitAt mark cs with
    | nil => exact absurd hs (splitAt_ne_nil mark cs)
    | cons part parts =>
      rw [hs] at ih
      by_cases hc : c = mark
      · subst hc
        simp [splitAt, hs, ih]
      · simp only [splitAt, hc, if_false, hs]
        cases parts with
        | nil => simpa using ih
        | cons p ps => simpa using ih

theorem intercalate_parts (s : String) : ".".intercalate (parts s) = s := by
  apply String.toList_injective
  have h : ((splitAt '.' s.toList).map String.ofList).map String.toList = splitAt '.' s.toList := by
    simp
  rw [String.toList_intercalate, parts, h]
  exact intercalate_splitAt '.' s.toList

theorem parts_of_notMem {s : String} (h : '.' ∉ s.toList) : parts s = [s] := by
  simp [parts, splitAt_of_notMem h]

theorem parts_append {q c : String} (hq : '.' ∉ q.toList) (hc : '.' ∉ c.toList) :
    parts (q ++ "." ++ c) = [q, c] := by
  have h : (q ++ "." ++ c).toList = q.toList ++ '.' :: c.toList := by simp
  simp [parts, h, splitAt_append hq, splitAt_of_notMem hc]

end Text

/-- The names by which a condition or a sort can refer to a column. -/
inductive IsColumnName : String → Prop
  | bare {c : String} (hc : Identifier.isValid c = true) : IsColumnName c
  | qualified {q c : String} (hq : Identifier.isValid q = true)
      (hc : Identifier.isValid c = true) : IsColumnName (q ++ "." ++ c)

/-- The names that an item of a SELECT or RETURNING list can have. -/
inductive IsItemName : String → Prop
  | column {name : String} (h : IsColumnName name) : IsItemName name
  | star : IsItemName "*"
  | starOf {q : String} (hq : Identifier.isValid q = true) : IsItemName (q ++ "." ++ "*")

theorem checkParts_eq_ok_iff {e : Value} {ps : List String} :
    checkParts e ps = .ok () ↔ ∀ p ∈ ps, Identifier.isValid p = true := by
  induction ps with
  | nil => simp [checkParts]
  | cons p ps ih =>
    by_cases he : p = ""
    · subst he
      simp [checkParts, Identifier.isValid, Identifier.isValidChars]
    · by_cases hv : Identifier.isValid p = true
      · simp [checkParts, he, hv, ih]
      · simp [checkParts, he, hv]

theorem IsColumnName.parts {name : String} (h : IsColumnName name) :
    (Identifier.isValid name = true ∧ Text.parts name = [name]) ∨
      ∃ q c, name = q ++ "." ++ c ∧ Text.parts name = [q, c] ∧ Identifier.isValid q = true ∧
        Identifier.isValid c = true := by
  cases h with
  | bare hc => exact Or.inl ⟨hc, Text.parts_of_notMem (Identifier.dot_notMem hc)⟩
  | @qualified q c hq hc =>
    exact Or.inr ⟨q, c, rfl,
      Text.parts_append (Identifier.dot_notMem hq) (Identifier.dot_notMem hc), hq, hc⟩

theorem parts_starOf {q : String} (hq : Identifier.isValid q = true) :
    Text.parts (q ++ "." ++ "*") = [q, "*"] :=
  Text.parts_append (Identifier.dot_notMem hq) (by decide)

theorem qualified_ne_star (q c : String) : q ++ "." ++ c ≠ "*" := by
  intro h
  have hd : '.' ∈ (q ++ "." ++ c).toList := by simp
  rw [h] at hd
  exact absurd hd (by decide)

theorem IsItemName.isBlankText_eq_false {name : String} (h : IsItemName name) :
    Text.isBlankText name = false := by
  have part : ∀ q c : String, Identifier.isValid q = true →
      Text.isBlankText (q ++ "." ++ c) = false := by
    intro q c hq
    have hb := Identifier.isBlankText_eq_false hq
    simp only [Text.isBlankText, String.toList_append, List.all_append] at hb ⊢
    simp [hb]
  cases h with
  | column h =>
    cases h with
    | bare hc => exact Identifier.isBlankText_eq_false hc
    | qualified hq hc => exact part _ _ hq
  | star => decide
  | starOf hq => exact part _ _ hq

/-- The check of a column name accepts exactly the names of items, whatever its errors report. -/
theorem checkColumnName_eq_ok_iff {name : String} {e : Value} :
    checkColumnName name e = .ok () ↔ IsItemName name := by
  constructor
  · intro h
    have hp := Text.intercalate_parts name
    unfold checkColumnName at h
    split at h
    next => simp at h
    next =>
      split at h
      next hs => exact beq_iff_eq.mp hs ▸ .star
      next =>
        split at h
        next q c heq =>
          have hn : name = q ++ "." ++ c := by
            rw [← hp, heq]
            simp
          rw [checkParts_eq_ok_iff] at h
          by_cases hc : c = "*"
          · subst hc
            exact hn ▸ .starOf (h q (by simp))
          · exact hn ▸ .column (.qualified (h q (by simp [hc])) (h c (by simp [hc])))
        next c heq =>
          have hn : name = c := by
            rw [← hp, heq]
            simp
          exact .column (.bare (hn ▸ checkParts_eq_ok_iff.mp h c (by simp)))
        next => simp at h
  · intro h
    have hb := h.isBlankText_eq_false
    cases h with
    | star => rfl
    | starOf hq =>
      simp [checkColumnName, hb, parts_starOf hq, checkParts_eq_ok_iff, hq]
    | column h =>
      rcases h.parts with ⟨hv, hp⟩ | ⟨q, c, hn, hp, hq, hc⟩
      · simp [checkColumnName, hb, hp, Identifier.ne_star hv, checkParts_eq_ok_iff, hv]
      · simp [checkColumnName, hb, hp, hn ▸ qualified_ne_star q c, Identifier.ne_star hc,
          checkParts_eq_ok_iff, hq, hc]

end QueryBuilder
