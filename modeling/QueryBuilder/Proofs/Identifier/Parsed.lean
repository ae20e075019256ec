import QueryBuilder.Proofs.Identifier.ColumnName
import QueryBuilder.Proofs.Outcome

/-!
What the readers of names yield: tables and items have names and aliases of the right form, and the
columns of conditions, joins and sorts are columns.
-/
namespace QueryBuilder

/-- The name is an identifier and the alias one that may stand without quotes. -/
structure TableRef.WellNamed (t : TableRef) : Prop where
  name : Identifier.isValid t.name = true
  aliasName : ∀ a ∈ t.aliasName, Identifier.isValid a = true ∧ Identifier.isReserved a = false

structure SelectItem.WellNamed (i : SelectItem) : Prop where
  name : IsItemName i.name
  aliasName : ∀ a ∈ i.aliasName, Identifier.isValid a = true ∧ Identifier.isReserved a = false

theorem givenName_eq_self {name : Option String}
    (h : ∀ a ∈ name, Identifier.isValid a = true) : givenName name = name := by
  cases name with
  | none => rfl
  | some a => simp [givenName, Identifier.ne_empty (h a rfl)]

theorem mem_of_givenName {name : Option String} {a : String} (h : givenName name = some a) :
    name = some a := by
  unfold givenName at h
  exact (Option.filter_eq_some_iff.mp h).1

theorem TableRef.WellNamed.givenName {t : TableRef} (h : t.WellNamed) :
    givenName t.aliasName = t.aliasName :=
  givenName_eq_self fun a ha => (h.aliasName a ha).1

theorem TableRef.WellNamed.qualifier {t : TableRef} (h : t.WellNamed) :
    Identifier.isValid t.qualifier = true := by
  unfold TableRef.qualifier
  rw [h.givenName]
  cases ha : t.aliasName with
  | none => exact h.name
  | some a => exact (h.aliasName a ha).1

theorem AliasSyntax.read_alias {subject : Subject} {v : Value} {name a : String}
    (h : AliasSyntax.read subject v = .ok (name, some a)) :
    Identifier.isValid a = true ∧ Identifier.isReserved a = false := by
  unfold AliasSyntax.read at h
  simp only at h
  generalize Text.trimChars (if v.isNull then "" else v.text).toList = cs at h
  split at h
  next => cases h
  next =>
    split at h
    next => cases h
    next =>
      split at h
      next => cases h
      next =>
        split at h
        next => cases h
        next b _ =>
          by_cases hv : Identifier.isValid (String.ofList b) = true
          · cases hr : Identifier.isReserved (String.ofList b) with
            | true => simp [hv, hr] at h
            | false =>
              simp only [hv, hr, Bool.not_true, Bool.false_eq_true, ↓reduceIte, Except.ok.injEq,
                Prod.mk.injEq, Option.some.injEq] at h
              exact h.2 ▸ ⟨hv, hr⟩
          · simp [hv] at h
        next => cases h

theorem TableRef.parse_wellNamed {v : Value} {t : TableRef} (h : TableRef.parse v = .ok t) :
    t.WellNamed := by
  obtain ⟨⟨name, aliasName⟩, hr, h⟩ := bind_eq_ok_iff.mp h
  by_cases hv : Identifier.isValid name = true
  · simp only [hv, ↓reduceIte, Except.ok.injEq] at h
    subst h
    refine ⟨hv, fun a ha => ?_⟩
    cases ha
    exact AliasSyntax.read_alias hr
  · simp [hv] at h

theorem SelectItem.parse_wellNamed {v : Value} {i : SelectItem} (h : SelectItem.parse v = .ok i) :
    i.WellNamed := by
  obtain ⟨⟨name, aliasName⟩, hr, h⟩ := bind_eq_ok_iff.mp h
  obtain ⟨_, hc, h⟩ := bind_eq_ok_iff.mp h
  split at h
  next => cases h
  next =>
    cases h
    refine ⟨checkColumnName_eq_ok_iff.mp hc, fun a ha => ?_⟩
    cases ha
    exact AliasSyntax.read_alias hr

theorem endsWith_iff {pattern s : String} :
    s.endsWith pattern = true ↔ pattern.toList <:+ s.toList := by
  rw [← String.endsWith_toSlice, String.Slice.endsWith_string_iff, String.copy_toSlice]

/-- Without stars, the names of items are the names of columns. -/
theorem IsItemName.isColumnName {name : String} (h : IsItemName name)
    (hs : isStarName name = false) : IsColumnName name := by
  cases h with
  | column h => exact h
  | star => exact absurd hs (by decide)
  | @starOf q hq =>
    have hd : (q ++ "." ++ "*").endsWith ".*" = true := by
      rw [endsWith_iff]
      exact ⟨q.toList, by simp⟩
    simp [isStarName, hd] at hs

theorem readColumn_isColumnName {s name : String} (h : readColumn s = .ok name) :
    IsColumnName name := by
  obtain ⟨_, hc, h⟩ := bind_eq_ok_iff.mp h
  cases hs : isStarName (Text.trim s) with
  | true => simp [hs] at h
  | false =>
    simp only [hs, Bool.false_eq_true, ↓reduceIte, Except.ok.injEq] at h
    exact h ▸ (checkColumnName_eq_ok_iff.mp hc).isColumnName hs

/-- The reference that a name stands for: what is before the dot is the qualifier. -/
def referenceOf (name : String) : ColumnReference :=
  match Text.parts name with
  | [qualifier, column] => ⟨some qualifier, column⟩
  | _ => ⟨none, name⟩

theorem ColumnReference.parse_eq_ok {name : String} (h : IsItemName name) :
    ColumnReference.parse name = .ok (referenceOf name) := by
  unfold ColumnReference.parse referenceOf
  rw [checkColumnName_eq_ok_iff.mpr h]
  simp only [bind, Except.bind]
  split <;> simp_all

theorem referenceOf_of_isValid {name : String} (h : Identifier.isValid name = true) :
    referenceOf name = ⟨none, name⟩ := by
  rw [referenceOf, Text.parts_of_notMem (Identifier.dot_notMem h)]

/-- The name of an item is a bare column or star, or one behind a qualifier. -/
theorem IsItemName.reference {name : String} (h : IsItemName name) :
    (referenceOf name = ⟨none, name⟩ ∧ (name = "*" ∨ Identifier.isValid name = true)) ∨
      ∃ q c, name = q ++ "." ++ c ∧ referenceOf name = ⟨some q, c⟩ ∧
        Identifier.isValid q = true ∧ (c = "*" ∨ Identifier.isValid c = true) := by
  cases h with
  | column h =>
    rcases h.parts with ⟨hc, hp⟩ | ⟨q, c, hn, hp, hq, hc⟩
    · exact Or.inl ⟨by simp [referenceOf, hp], Or.inr hc⟩
    · exact Or.inr ⟨q, c, hn, by simp [referenceOf, hp], hq, Or.inr hc⟩
  | star => exact Or.inl ⟨rfl, Or.inl rfl⟩
  | @starOf q hq =>
    exact Or.inr ⟨q, "*", rfl, by simp [referenceOf, parts_starOf hq], hq, Or.inl rfl⟩

/-- A reference is written as the name it was read from. -/
theorem text_referenceOf {name : String} (h : IsItemName name) :
    (referenceOf name).text = name := by
  rcases h.reference with ⟨hr, _⟩ | ⟨q, c, hn, hr, hq, _⟩
  · rw [hr]
    rfl
  · have hg : givenName (some q) = some q := by simp [givenName, Identifier.ne_empty hq]
    simp only [ColumnReference.text, hr, hg]
    exact hn.symm

theorem plainColumn_isColumnName {m : Method} {v : Value} {name : String}
    (h : plainColumn m v = .ok name) : IsColumnName name := by
  unfold plainColumn at h
  cases ht : v.isText with
  | false => simp [ht, throw, throwThe, MonadExceptOf.throw, bind, Except.bind] at h
  | true =>
    simp only [ht, Bool.not_true, Bool.false_eq_true, ↓reduceIte] at h
    obtain ⟨item, hi, h⟩ := bind_eq_ok_iff.mp h
    have hn := (SelectItem.parse_wellNamed hi).name
    split at h
    next => cases h
    next =>
      split at h
      next => cases h
      next hs =>
        rw [ColumnReference.parse_eq_ok hn] at h
        simp only [bind, Except.bind, Except.ok.injEq, text_referenceOf hn] at h
        exact h ▸ hn.isColumnName (by simpa [SelectItem.isStar] using hs)

theorem insertColumn_isValid {v : Value} {name : String} (h : insertColumn v = .ok name) :
    Identifier.isValid name = true := by
  unfold insertColumn at h
  split at h
  next => cases h
  next text _ =>
    simp only at h
    split at h
    next => cases h
    next =>
      by_cases hv : Identifier.isValid (Text.trim text) = true
      · simp only [hv, Bool.not_true, Bool.false_eq_true, ↓reduceIte, Except.ok.injEq] at h
        exact h ▸ hv
      · simp [hv] at h

end QueryBuilder
