import QueryBuilder.Proofs.Identifier.Renames

/-!
Which texts are tables and items of a list, and what they are read as. A text that is refused is
blank, or malformed, or has an empty part where an identifier must stand.
-/
namespace QueryBuilder

open Text

/-- The text spells a table: an identifier that is not the word AS, perhaps with an alias. -/
structure IsTableExpression (s : String) (t : TableRef) : Prop where
  spelled : AliasSyntax.Spelled s.toList t.name t.aliasName
  wellNamed : t.WellNamed
  notAs : ¬ AliasSyntax.IsAs t.name.toList

/-- The text spells an item: a column that is not the word AS, perhaps with an alias, or a star. -/
structure IsItemExpression (s : String) (i : SelectItem) : Prop where
  spelled : AliasSyntax.Spelled s.toList i.name i.aliasName
  wellNamed : i.WellNamed
  notAs : ¬ AliasSyntax.IsAs i.name.toList
  bareStar : i.isStar = true → i.aliasName = none

/-- A column name consists of identifiers, perhaps with a dot between them. -/
theorem IsColumnName.isPart_or_dot {name : String} (h : IsColumnName name) :
    ∀ c ∈ name.toList, Identifier.isPart c = true ∨ c = '.' := by
  intro d hd
  cases h with
  | bare hc => exact Or.inl (Identifier.isPart_of_isValid hc hd)
  | qualified hq hc =>
    simp only [String.toList_append, List.mem_append] at hd
    rcases hd with (hd | hd) | hd
    · exact Or.inl (Identifier.isPart_of_isValid hq hd)
    · exact Or.inr (by simpa using hd)
    · exact Or.inl (Identifier.isPart_of_isValid hc hd)

theorem IsColumnName.isStarName {name : String} (h : IsColumnName name) :
    isStarName name = false := by
  have hstar : '*' ∉ name.toList := fun hm =>
    (h.isPart_or_dot _ hm).elim (by decide) (by decide)
  have hne : name ≠ "*" := by
    rintro rfl
    exact hstar (by decide)
  have hd : name.endsWith ".*" = false := by
    cases he : name.endsWith ".*" with
    | false => rfl
    | true => exact absurd ((endsWith_iff.mp he).subset (by decide)) hstar
  simp [QueryBuilder.isStarName, hne, hd]

theorem IsColumnName.noBlank {name : String} (h : IsColumnName name) :
    ∀ c ∈ name.toList, isBlank c = false := by
  intro c hc
  rcases h.isPart_or_dot c hc with hc | rfl
  · exact Identifier.isBlank_of_isPart hc
  · decide

theorem IsItemName.noBlank {name : String} (h : IsItemName name) :
    ∀ c ∈ name.toList, isBlank c = false := by
  cases h with
  | column h => exact h.noBlank
  | star => simp [isBlank]
  | starOf hq =>
    have hstar : ∀ c ∈ ".".toList ++ "*".toList, isBlank c = false := by simp [isBlank]
    rw [String.toList_append, String.toList_append, List.append_assoc]
    exact List.forall_mem_append.mpr ⟨Identifier.noBlank hq, hstar⟩

theorem IsItemName.ne_empty {name : String} (h : IsItemName name) : name ≠ "" := by
  rintro rfl
  cases h.isBlankText_eq_false

theorem TableRef.parse_eq_ok_iff {s : String} {t : TableRef} :
    TableRef.parse (.str s) = .ok t ↔ IsTableExpression s t := by
  constructor
  · intro h
    have hw := TableRef.parse_wellNamed h
    obtain ⟨⟨name, aliasName⟩, hread, h⟩ := bind_eq_ok_iff.mp h
    obtain ⟨hs, _, has⟩ := AliasSyntax.spelled_of_read hread
    by_cases hv : Identifier.isValid name = true
    · simp only [hv, ↓reduceIte, Except.ok.injEq] at h
      exact h ▸ ⟨hs, h ▸ hw, has (Identifier.noBlank hv)⟩
    · simp [hv] at h
  · rintro ⟨hs, hw, has⟩
    have hread := AliasSyntax.read_of_spelled .table hs (Identifier.ne_empty hw.name)
      (Identifier.noBlank hw.name) has hw.aliasName
    exact bind_eq_ok_iff.mpr ⟨_, hread, if_pos hw.name⟩

theorem SelectItem.parse_eq_ok_iff {s : String} {i : SelectItem} :
    SelectItem.parse (.str s) = .ok i ↔ IsItemExpression s i := by
  constructor
  · intro h
    have hw := SelectItem.parse_wellNamed h
    obtain ⟨⟨name, aliasName⟩, hread, h⟩ := bind_eq_ok_iff.mp h
    obtain ⟨_, _, h⟩ := bind_eq_ok_iff.mp h
    split at h
    next => cases h
    next hstar =>
      cases h
      obtain ⟨hs, _, has⟩ := AliasSyntax.spelled_of_read hread
      refine ⟨hs, hw, has hw.name.noBlank, fun hstarred => ?_⟩
      simpa [show isStarName name = true from hstarred] using hstar
  · rintro ⟨hs, hw, has, hbare⟩
    have hread := AliasSyntax.read_of_spelled .column hs hw.name.ne_empty
      hw.name.noBlank has hw.aliasName
    have hstar : ¬ (i.aliasName.isSome && isStarName i.name) = true := by
      cases hi : isStarName i.name with
      | false => simp
      | true => simp [hbare hi]
    exact bind_eq_ok_iff.mpr ⟨_, hread, bind_eq_ok_iff.mpr
      ⟨(), checkColumnName_eq_ok_iff.mpr hw.name, if_neg hstar⟩⟩

/-- A name without an alias is spelled by itself between blanks. -/
theorem AliasSyntax.spelled_none_iff {s name : String}
    (hn : ∀ c ∈ name.toList, isBlank c = false) : Spelled s.toList name none ↔ trim s = name := by
  have htrim : trim s = name ↔ trimChars s.toList = name.toList := by
    rw [trim, ← String.toList_inj, String.toList_ofList]
  rw [htrim]
  constructor
  · generalize s.toList = cs
    rintro ⟨hb, ha⟩
    exact trimChars_append hb ha (.of_noBlank hn)
  · intro h
    obtain ⟨before, after, hb, ha, hs⟩ := exists_blanks s.toList
    rw [hs, h]
    exact .bare hb ha

/-- A plain column is an item that is neither renamed nor a star. -/
theorem plainColumn_eq_ok_iff_parse {method : Method} {s name : String} :
    plainColumn method (.str s) = .ok name ↔
      SelectItem.parse (.str s) = .ok ⟨name, none⟩ ∧ isStarName name = false := by
  have hread : plainColumn method (.str s) = SelectItem.parse (.str s) >>= fun item =>
      if item.aliasName.isSome then .error (.malformed (.str s) .renameOutsideSelect)
      else if item.isStar then .error (.malformed (.str s) .starOutsideSelect)
      else ColumnReference.parse item.name >>= fun r => Except.ok r.text := rfl
  rw [hread, bind_eq_ok_iff]
  constructor
  · rintro ⟨⟨word, aliasName⟩, hitem, h⟩
    have hword := (SelectItem.parse_wellNamed hitem).name
    split at h
    next => cases h
    next hbare =>
      split at h
      next => cases h
      next hstar =>
        rw [ColumnReference.parse_eq_ok hword] at h
        have hname : word = name := (text_referenceOf hword).symm.trans (Except.ok.inj h)
        have hnone : aliasName = none := by simpa using hbare
        subst hname hnone
        exact ⟨hitem, by simpa [SelectItem.isStar] using hstar⟩
  · rintro ⟨hitem, hstar⟩
    have hname := (SelectItem.parse_wellNamed hitem).name
    refine ⟨_, hitem, ?_⟩
    simp [SelectItem.isStar, hstar, ColumnReference.parse_eq_ok hname, text_referenceOf hname,
      bind, Except.bind]

/-- A plain column is the trimmed text, if that names a column and is not the word AS. -/
theorem plainColumn_eq_ok_iff {method : Method} {s name : String} :
    plainColumn method (.str s) = .ok name ↔
      trim s = name ∧ IsColumnName name ∧ ¬ AliasSyntax.IsAs name.toList := by
  rw [plainColumn_eq_ok_iff_parse, SelectItem.parse_eq_ok_iff]
  constructor
  · rintro ⟨⟨hspelled, hwell, has, _⟩, hstar⟩
    have hname : IsColumnName name := hwell.name.isColumnName hstar
    exact ⟨(AliasSyntax.spelled_none_iff hname.noBlank).mp hspelled, hname, has⟩
  · rintro ⟨htrim, hname, has⟩
    exact ⟨⟨(AliasSyntax.spelled_none_iff hname.noBlank).mpr htrim, ⟨.column hname, by simp⟩, has,
      fun _ => rfl⟩, hname.isStarName⟩

/-- A column of a condition is the trimmed text, if that names a column. -/
theorem readColumn_eq_ok_iff {s name : String} :
    readColumn s = .ok name ↔ trim s = name ∧ IsColumnName name := by
  constructor
  · intro h
    have hname := readColumn_isColumnName h
    obtain ⟨_, _, h⟩ := bind_eq_ok_iff.mp h
    split at h
    next => cases h
    next => exact ⟨Except.ok.inj h, hname⟩
  · rintro ⟨rfl, hname⟩
    have hcheck : checkColumnName (trim s) (.str (trim s)) = .ok () :=
      checkColumnName_eq_ok_iff.mpr (.column hname)
    refine bind_eq_ok_iff.mpr ⟨(), hcheck, if_neg ?_⟩
    simp [hname.isStarName]

/-- A part of a column name that is refused is empty or no identifier. -/
theorem checkParts_error {expression : Value} {ps : List String} {e : Error}
    (h : checkParts expression ps = .error e) :
    (∃ fault, e = .malformed expression fault) ∨ e = .empty .column expression ∧ "" ∈ ps := by
  induction ps with
  | nil => cases h
  | cons p ps ih =>
    rw [checkParts] at h
    split at h
    next hp =>
      cases h
      exact Or.inr ⟨rfl, by simp [beq_iff_eq.mp hp]⟩
    next =>
      split at h
      next =>
        cases h
        exact Or.inl ⟨_, rfl⟩
      next => exact (ih h).imp_right (And.imp_right (List.mem_cons_of_mem p))

theorem checkColumnName_error {name : String} {expression : Value} {e : Error}
    (hb : isBlankText name = false) (h : checkColumnName name expression = .error e) :
    (∃ fault, e = .malformed expression fault) ∨
      e = .empty .column expression ∧ "" ∈ Text.parts name := by
  unfold checkColumnName at h
  rw [hb] at h
  simp only [Bool.false_eq_true, ↓reduceIte] at h
  split at h
  next => cases h
  next =>
    split at h
    next qualifier column hparts =>
      refine (checkParts_error h).imp id fun ⟨he, hm⟩ => ⟨he, ?_⟩
      rw [hparts]
      split at hm
      next => exact List.mem_cons.mpr (Or.inl (List.mem_singleton.mp hm))
      next => exact hm
    next column hparts =>
      rw [hparts]
      exact checkParts_error h
    next =>
      cases h
      exact Or.inl ⟨_, rfl⟩

theorem TableRef.parse_error {s : String} {e : Error} (hb : isBlankText s = false)
    (h : TableRef.parse (.str s) = .error e) : ∃ fault, e = .malformed (.str s) fault := by
  rcases bind_eq_error_iff.mp h with hread | ⟨⟨name, aliasName⟩, _, h⟩
  · exact AliasSyntax.read_error hb hread
  · by_cases hv : Identifier.isValid name = true
    · simp [hv] at h
    · simp only [hv, Bool.false_eq_true, ↓reduceIte, Except.error.injEq] at h
      exact ⟨_, h.symm⟩

/-- An item is refused as malformed, or because a part of the name that it spells is empty. -/
theorem SelectItem.parse_error {s : String} {e : Error} (hb : isBlankText s = false)
    (h : SelectItem.parse (.str s) = .error e) :
    (∃ fault, e = .malformed (.str s) fault) ∨ e = .empty .column (.str s) ∧
      ∃ name aliasName, AliasSyntax.Spelled s.toList name aliasName ∧ "" ∈ Text.parts name := by
  rcases bind_eq_error_iff.mp h with hread | ⟨⟨name, aliasName⟩, hread, h⟩
  · exact Or.inl (AliasSyntax.read_error hb hread)
  · obtain ⟨hs, hname, _⟩ := AliasSyntax.spelled_of_read hread
    rcases bind_eq_error_iff.mp h with hcheck | ⟨_, _, h⟩
    · exact (checkColumnName_error hname hcheck).imp id
        fun ⟨he, hm⟩ => ⟨he, name, aliasName, hs, hm⟩
    · split at h
      next =>
        cases h
        exact Or.inl ⟨_, rfl⟩
      next => cases h

/-- A name is spelled by itself, and with an alias behind the word AS. -/
theorem AliasSyntax.spelled_text {t : TableRef} (h : t.WellNamed) :
    Spelled t.text.toList t.name t.aliasName := by
  unfold TableRef.text
  rw [h.givenName]
  cases t.aliasName with
  | none =>
    have hbare := @Spelled.bare [] [] t.name (by simp [IsBlanks]) (by simp [IsBlanks])
    simpa using hbare
  | some a =>
    have hrenamed := @Spelled.renamed [] _ [] t.name a (by simp [IsBlanks]) isSeparator_as
      (by simp [IsBlanks])
    simpa [toString] using hrenamed

/-- A table is read back from its text. -/
theorem TableRef.parse_text {s : String} {t : TableRef} (h : TableRef.parse (.str s) = .ok t) :
    TableRef.parse (.str t.text) = .ok t := by
  obtain ⟨_, hw, has⟩ := TableRef.parse_eq_ok_iff.mp h
  exact TableRef.parse_eq_ok_iff.mpr ⟨AliasSyntax.spelled_text hw, hw, has⟩

theorem TableRef.parse_blank {s : String} (h : isBlankText s = true) :
    TableRef.parse (.str s) = .error (.empty .table (.str s)) :=
  bind_eq_error_iff.mpr (Or.inl (AliasSyntax.read_blank h))

theorem SelectItem.parse_blank {s : String} (h : isBlankText s = true) :
    SelectItem.parse (.str s) = .error (.empty .column (.str s)) :=
  bind_eq_error_iff.mpr (Or.inl (AliasSyntax.read_blank h))

/-- Tables and items are read from exactly the texts that spell them. A blank text is empty, every
other one that is refused is malformed or has an empty part, and a table is read back from its
text. -/
theorem expressions_read (s : String) :
    (∀ t, TableRef.parse (.str s) = .ok t ↔ IsTableExpression s t) ∧
      (∀ i, SelectItem.parse (.str s) = .ok i ↔ IsItemExpression s i) ∧
      (isBlankText s = true → TableRef.parse (.str s) = .error (.empty .table (.str s)) ∧
        SelectItem.parse (.str s) = .error (.empty .column (.str s))) ∧
      (isBlankText s = false →
        (∀ e, TableRef.parse (.str s) = .error e → ∃ fault, e = .malformed (.str s) fault) ∧
        ∀ e, SelectItem.parse (.str s) = .error e →
          (∃ fault, e = .malformed (.str s) fault) ∨ e = .empty .column (.str s) ∧
            ∃ name aliasName, AliasSyntax.Spelled s.toList name aliasName ∧
              "" ∈ Text.parts name) ∧
      ∀ t, TableRef.parse (.str s) = .ok t → TableRef.parse (.str t.text) = .ok t :=
  ⟨fun _ => TableRef.parse_eq_ok_iff, fun _ => SelectItem.parse_eq_ok_iff,
    fun hb => ⟨TableRef.parse_blank hb, SelectItem.parse_blank hb⟩,
    fun hb => ⟨fun _ => TableRef.parse_error hb, fun _ => SelectItem.parse_error hb⟩,
    fun _ => TableRef.parse_text⟩

end QueryBuilder
