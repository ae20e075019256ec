import QueryBuilder.Proofs.Condition.ColumnFields

/-!
Names as callers write them. An identifier that is not the word AS is read as itself, and so is the
name of a column.
-/
namespace QueryBuilder

open Text

namespace AliasSyntax

theorem read_bare {subject : Subject} {name : String} (hn : Identifier.isValid name = true)
    (hs : startsWithAs name.toList = false) (he : endsWithAs name.toList = false) :
    read subject (.str name) = .ok (name, none) := by
  have hb := Identifier.noBlank hn
  rw [read_eq_ok_iff, trimChars_eq_self_of_all hb]
  exact ⟨Identifier.toList_ne_nil hn, hs, he, split_of_noBlank hb, by simp⟩

end AliasSyntax

theorem TableRef.parse_bare {name : String} (hn : Identifier.isValid name = true)
    (hs : AliasSyntax.startsWithAs name.toList = false)
    (he : AliasSyntax.endsWithAs name.toList = false) :
    TableRef.parse (.str name) = .ok ⟨name, none⟩ := by
  simp [TableRef.parse, AliasSyntax.read_bare hn hs he, hn, bind, Except.bind]

/-- A table is read with the alias that stands behind it. -/
theorem TableRef.parse_aliased {name aliasName text : String}
    (htext : text = s!"{name} AS {aliasName}")
    (hn : Identifier.isValid name = true) (ha : Identifier.isValid aliasName = true)
    (hr : Identifier.isReserved aliasName = false) (ht : trimChars text.toList = text.toList)
    (hs : AliasSyntax.startsWithAs text.toList = false)
    (he : AliasSyntax.endsWithAs text.toList = false) :
    TableRef.parse (.str text) = .ok ⟨name, some aliasName⟩ := by
  have hsplit : AliasSyntax.split text.toList = [name.toList, aliasName.toList] := by
    rw [← AliasSyntax.split_renamed (Identifier.noBlank hn) AliasSyntax.isSeparator_as
      (Identifier.noBlank ha), htext]
    simp [toString]
  have hne : text.toList ≠ [] := by
    intro h
    rw [h, AliasSyntax.split_of_noBlank (by simp)] at hsplit
    simp at hsplit
  have hread : AliasSyntax.read .table (.str text) = .ok (name, some aliasName) := by
    rw [AliasSyntax.read_eq_ok_iff, ht]
    exact ⟨hne, hs, he, hsplit, by simp [ha, hr]⟩
  simp [TableRef.parse, hread, hn, bind, Except.bind]

theorem plainColumn_bare {method : Method} {name : String} (hn : Identifier.isValid name = true)
    (hs : AliasSyntax.startsWithAs name.toList = false)
    (he : AliasSyntax.endsWithAs name.toList = false) :
    plainColumn method (.str name) = .ok name := by
  have hitem : IsItemName name := .column (.bare hn)
  have hparse : SelectItem.parse (.str name) = .ok ⟨name, none⟩ := by
    simp [SelectItem.parse, AliasSyntax.read_bare hn hs he, checkColumnName_eq_ok_iff.mpr hitem,
      bind, Except.bind]
  exact plainColumn_eq_ok_iff_parse.mpr ⟨hparse, (IsColumnName.bare hn).isStarName⟩

/-- A column name is read as it is. -/
theorem IsColumnName.readColumn {name : String} (h : IsColumnName name) :
    readColumn name = .ok name :=
  readColumn_eq_ok_iff.mpr
    ⟨by rw [trim, trimChars_eq_self_of_all h.noBlank, String.ofList_toList], h⟩

/-- A comparison of a column is made as given if the operator suits the value. -/
theorem IsColumnName.compare {name : String} {op : Comparison} {value : Value}
    (h : IsColumnName name) (hc : Condition.checkComparison op value = .ok ()) :
    compare (.str name) (.constant (.comparison op)) value =
      .ok (.condition (.comparison name op value)) :=
  (compare_eq_ok_iff rfl).mpr ⟨name, op, h.readColumn, ⟨rfl, hc⟩, rfl⟩

end QueryBuilder
