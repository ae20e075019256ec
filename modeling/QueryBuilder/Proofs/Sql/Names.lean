import QueryBuilder.Proofs.Sql.Inert

/-!
The columns that a statement writes. Whatever a scope makes of a name, the parts of the reference
are identifiers or stars.
-/
namespace QueryBuilder

open Text

/-- The parts of the name between dots are identifiers or stars. -/
def IsWritable (name : String) : Prop :=
  ∀ p ∈ parts name, p = "*" ∨ Identifier.isValid p = true

theorem isWritable_qualified {q c : String} (hq : Identifier.isValid q = true)
    (hc : c = "*" ∨ Identifier.isValid c = true) : IsWritable (q ++ "." ++ c) := by
  have hd : '.' ∉ c.toList := by
    rcases hc with rfl | hc
    · decide
    · exact Identifier.dot_notMem hc
  rw [IsWritable, parts_append (Identifier.dot_notMem hq) hd]
  simp [hq, hc]

theorem isWritable_bare {c : String} (hc : c = "*" ∨ Identifier.isValid c = true) :
    IsWritable c := by
  have hd : '.' ∉ c.toList := by
    rcases hc with rfl | hc
    · decide
    · exact Identifier.dot_notMem hc
  rw [IsWritable, parts_of_notMem hd]
  simpa using hc

theorem IsItemName.isWritable {name : String} (h : IsItemName name) : IsWritable name := by
  rcases h.reference with ⟨_, hc⟩ | ⟨q, c, rfl, _, hq, hc⟩
  · exact isWritable_bare hc
  · exact isWritable_qualified hq hc

/-- The column behind its qualifier, or behind the given one if it has none. -/
def qualifiedBy (qualifier name : String) : String :=
  if (referenceOf name).isQualified then name else qualifier ++ "." ++ name

theorem qualifiedBy_isWritable {qualifier name : String}
    (hq : Identifier.isValid qualifier = true) (hn : IsItemName name) :
    IsWritable (qualifiedBy qualifier name) := by
  rcases hn.reference with ⟨hr, hc⟩ | ⟨q, c, rfl, hr, hv, hc⟩
  · rw [qualifiedBy, hr]
    exact isWritable_qualified hq hc
  · rw [qualifiedBy, hr]
    exact isWritable_qualified hv hc

namespace Scope

/-- A resolved column is the reference itself, but a bare one is put behind the default qualifier if
there is one. -/
theorem resolve_reference {s : Scope} {r : ColumnReference} {default? : Option String}
    {extra : List String} {column : ResolvedColumn}
    (h : s.resolve r default? extra = .ok column) :
    column.reference = if r.isQualified then r else default?.elim r r.withQualifier := by
  unfold resolve at h
  split at h
  next q hr =>
    rw [ColumnReference.isQualified, hr]
    split at h
    next => cases h
    next =>
      obtain ⟨_, _, h⟩ := bind_eq_ok_iff.mp h
      cases h
      rfl
  next hr =>
    rw [ColumnReference.isQualified, hr]
    split at h
    next q =>
      split at h
      next => cases h
      next =>
        obtain ⟨_, _, h⟩ := bind_eq_ok_iff.mp h
        cases h
        rfl
    next =>
      split at h
      next =>
        cases h
        rfl
      next =>
        obtain ⟨_, _, h⟩ := bind_eq_ok_iff.mp h
        cases h
        rfl

/-- Only the names of items are resolved. -/
theorem resolveName_isItemName {s : Scope} {name : String} {default? : Option String}
    {extra : List String} {column : ResolvedColumn}
    (h : s.resolveName name default? extra = .ok column) : IsItemName name := by
  obtain ⟨_, hr, _⟩ := bind_eq_ok_iff.mp h
  obtain ⟨_, hc, _⟩ := bind_eq_ok_iff.mp hr
  exact checkColumnName_eq_ok_iff.mp hc

/-- A name is written as it is, but a bare one behind the default qualifier if there is one. -/
theorem resolveName_text {s : Scope} {name : String} {default? : Option String}
    {extra : List String} {column : ResolvedColumn}
    (hq : ∀ q ∈ default?, Identifier.isValid q = true)
    (h : s.resolveName name default? extra = .ok column) :
    column.reference.text = default?.elim name (qualifiedBy · name) := by
  have hn := resolveName_isItemName h
  rw [resolveName, ColumnReference.parse_eq_ok hn] at h
  rw [resolve_reference h]
  cases default? with
  | none => simp [text_referenceOf hn]
  | some q =>
    rw [Option.elim_some, Option.elim_some, qualifiedBy]
    split
    next => exact text_referenceOf hn
    next hb =>
      have hg : givenName (some q) = some q := by
        simp [givenName, Identifier.ne_empty (hq q rfl)]
      rcases hn.reference with ⟨he, _⟩ | ⟨_, _, _, he, _, _⟩
      · rw [he]
        simp only [ColumnReference.withQualifier, ColumnReference.text, hg]
        rfl
      · rw [he] at hb
        exact absurd rfl hb

theorem resolveName_isWritable {s : Scope} {name : String} {default? : Option String}
    {extra : List String} {column : ResolvedColumn} (hn : IsItemName name)
    (hq : ∀ q ∈ default?, Identifier.isValid q = true)
    (h : s.resolveName name default? extra = .ok column) :
    IsWritable column.reference.text := by
  rw [resolveName_text hq h]
  cases default? with
  | none => exact hn.isWritable
  | some q => exact qualifiedBy_isWritable (hq q rfl) hn

end Scope

end QueryBuilder
