import Mathlib.Data.List.TakeWhile
import QueryBuilder.Proofs.Outcome
import QueryBuilder.Proofs.Sql.Inert

/-!
The element types that a statement writes: those of conditions and settings are words, and a type of
the schema in lower case has no other quotes or dollar signs than the type itself.
-/
namespace QueryBuilder

open Text

namespace ElementType

theorem isPlainText_of_isPlain {t : String} (h : isPlain t = true) : isPlainText t = true := by
  unfold isPlain at h
  rw [isPlainText]
  split at h
  next => cases h
  next c cs hcs =>
    rw [hcs]
    simp only [Bool.and_eq_true, List.all_eq_true] at h
    simp only [List.all_cons, Bool.and_eq_true, List.all_eq_true]
    exact ⟨isPlainChar_of_class (by decide) h.1,
      fun d hd => isPlainChar_of_class (by decide) (h.2 d hd)⟩

theorem all_isPlainChar_of_span {p : Char → Bool} {cs : List Char}
    (hp : p '\'' = false ∧ p '"' = false ∧ p '$' = false)
    (hr : (cs.dropWhile p).all isPlainChar = true) : cs.all isPlainChar = true := by
  rw [← List.takeWhile_append_dropWhile (p := p) (l := cs), List.all_append, hr, Bool.and_true,
    List.all_eq_true]
  exact fun c hc => isPlainChar_of_class hp (List.mem_takeWhile_imp hc)

theorem all_isPlainChar_of_isModifier {cs : List Char} (h : isModifier cs = true) :
    cs.all isPlainChar = true := by
  unfold isModifier at h
  simp only [Bool.and_eq_true] at h
  refine all_isPlainChar_of_span (p := isDigit) (by decide) ?_
  replace h := h.2
  split at h
  next hr =>
    rw [hr]
    decide
  next rest hr =>
    rw [hr]
    simp only [Bool.and_eq_true, beq_iff_eq] at h
    rw [List.all_cons]
    refine Bool.and_eq_true_iff.mpr ⟨by decide, ?_⟩
    refine all_isPlainChar_of_span (p := isBlank) (by decide) ?_
    refine all_isPlainChar_of_span (p := isDigit) (by decide) ?_
    rw [h.2]
    decide
  next => cases h

theorem isPlainText_of_isValid {t : String} (h : isValid t = true) : isPlainText t = true := by
  unfold isValid at h
  rw [isPlainText]
  split at h
  next => cases h
  next c cs hcs =>
    simp only [Bool.and_eq_true] at h
    rw [hcs, List.all_cons]
    refine Bool.and_eq_true_iff.mpr ⟨isPlainChar_of_class (by decide) h.1, ?_⟩
    refine all_isPlainChar_of_span (p := isPart) (by decide) ?_
    replace h := h.2
    split at h
    next hr =>
      rw [hr]
      rfl
    next rest hr =>
      rw [hr, List.all_cons]
      exact Bool.and_eq_true_iff.mpr ⟨by decide, all_isPlainChar_of_isModifier h⟩
    next => cases h

end ElementType

namespace Text

/-- No letter beyond ASCII has a quote or a dollar sign as its lower case. -/
theorem lowerRuns_above {r : Nat × Nat × Nat × Int} (h : r ∈ lowerRuns) :
    (0x27 : Int) < r.1 + r.2.2.2 := by
  have hall : lowerRuns.all (fun r => decide ((0x27 : Int) < r.1 + r.2.2.2)) = true := by
    decide +kernel
  exact of_decide_eq_true (List.all_eq_true.mp hall r h)

theorem isPlainChar_of_toNat {c : Char} (h : c.toNat = 0 ∨ 0x27 < c.toNat) :
    isPlainChar c = true := by
  cases hq : isPlainChar c with
  | true => rfl
  | false =>
    simp only [isPlainChar, Bool.and_eq_false_iff, Bool.not_eq_false', bne_eq_false_iff_eq] at hq
    rcases hq with hq | rfl
    · rcases isQuote_iff.mp hq with rfl | rfl
      · exact absurd h (by decide)
      · exact absurd h (by decide)
    · exact absurd h (by decide)

theorem isPlainChar_toLower {c : Char} (h : isPlainChar c = true) :
    isPlainChar c.toLower = true := by
  unfold Char.toLower
  split
  next hc =>
    apply isPlainChar_of_toNat
    right
    have hlow : 65 ≤ c.val.toNat := UInt32.le_iff_toNat_le.mp hc.1
    have hhigh : c.val.toNat ≤ 90 := UInt32.le_iff_toNat_le.mp hc.2
    have hsum : (c.val + ('a'.val - 'A'.val)).toNat = (c.val.toNat + 32) % 2 ^ 32 :=
      UInt32.toNat_add _ _
    change 0x27 < (c.val + ('a'.val - 'A'.val)).toNat
    omega
  next => exact h

theorem toNat_ofNat (n : Nat) : (Char.ofNat n).toNat = 0 ∨ (Char.ofNat n).toNat = n := by
  by_cases h : n.isValidChar
  · refine Or.inr ?_
    rw [Char.ofNat, dif_pos h]
    rfl
  · refine Or.inl ?_
    rw [Char.ofNat, dif_neg h]
    rfl

theorem isPlainChar_lowerChar {c : Char} (h : isPlainChar c = true) :
    isPlainChar (lowerChar c) = true := by
  unfold lowerChar
  simp only
  split
  next => exact isPlainChar_toLower h
  next =>
    split
    next r hr =>
      have habove := lowerRuns_above (List.mem_of_find?_eq_some hr)
      have hfrom := List.find?_some hr
      simp only [Bool.and_eq_true, decide_eq_true_eq] at hfrom
      apply isPlainChar_of_toNat
      rcases toNat_ofNat (c.toNat + r.2.2.2).toNat with hz | hn
      · exact Or.inl hz
      · right
        rw [hn]
        omega
    next => exact h

theorem all_isPlainChar_lowerFrom {before cs : List Char} (h : cs.all isPlainChar = true) :
    (lowerFrom before cs).all isPlainChar = true := by
  induction cs generalizing before with
  | nil => rfl
  | cons c cs ih =>
    simp only [List.all_cons, Bool.and_eq_true] at h
    have hout : ∀ out : List Char, out.all isPlainChar = true →
        (out ++ lowerFrom (c :: before) cs).all isPlainChar = true := by
      intro out ho
      rw [List.all_append, ho, ih h.2]
      rfl
    rw [lowerFrom]
    apply hout
    split
    next => split <;> decide
    next =>
      split
      next => decide
      next => simp [isPlainChar_lowerChar h.1]

theorem isPlainText_lower {s : String} (h : isPlainText s = true) :
    isPlainText (lower s) = true := by
  rw [isPlainText, lower, String.toList_ofList]
  exact all_isPlainChar_lowerFrom h

theorem isPlainText_of_subset {s : String} {cs : List Char} (hs : cs ⊆ s.toList)
    (h : isPlainText s = true) : isPlainText (String.ofList cs) = true := by
  rw [isPlainText, String.toList_ofList, List.all_eq_true]
  exact fun c hc => List.all_eq_true.mp h c (hs hc)

theorem isPlainText_trim {s : String} (h : isPlainText s = true) : isPlainText (trim s) = true := by
  refine isPlainText_of_subset (fun c hc => ?_) h
  have hr := (List.dropWhile_sublist isBlank).subset (List.mem_reverse.mp hc)
  exact (List.dropWhile_sublist isBlank).subset (List.mem_reverse.mp hr)

end Text

/-- Every type of the schema is written without quotes and dollar signs. -/
def Schema.HasPlainTypes (schema : Schema) : Prop :=
  ∀ t ∈ schema.tables, ∀ c ∈ t.columns, isPlainText c.type = true

theorem ColumnInfo.isPlainText_elementType {c : ColumnInfo} {t : String}
    (hc : isPlainText c.type = true) (h : c.elementType? = some t) : isPlainText t = true := by
  unfold ColumnInfo.elementType? at h
  cases he : c.type.endsWith "[]" with
  | true =>
    rw [he, if_pos rfl, Option.some.injEq] at h
    subst h
    exact isPlainText_lower (isPlainText_trim (isPlainText_of_subset (List.take_subset _ _) hc))
  | false =>
    rw [he, if_neg Bool.false_ne_true] at h
    cases hs : c.type.startsWith "_" with
    | true =>
      rw [hs, if_pos rfl, Option.some.injEq] at h
      subst h
      exact isPlainText_lower (isPlainText_of_subset (List.drop_subset _ _) hc)
    | false =>
      rw [hs, if_neg Bool.false_ne_true] at h
      cases h

theorem Schema.HasPlainTypes.elementType {schema : Schema} {table column t : String}
    (hp : schema.HasPlainTypes) (h : schema.elementType? table column = some t) :
    isPlainText t = true := by
  obtain ⟨c, hc, h⟩ := Option.bind_eq_some_iff.mp h
  obtain ⟨info, hi, hc⟩ := Option.bind_eq_some_iff.mp hc
  exact ColumnInfo.isPlainText_elementType
    (hp info (List.mem_of_find?_eq_some hi) c (List.mem_of_find?_eq_some hc)) h

theorem Settings.isPlainText_elementType {fields : List (String × Value)} {settings : Settings}
    (h : Settings.make fields = .ok settings) : isPlainText settings.elementType = true := by
  simp only [Settings.make, Settings.read, Reading.toExcept_eq_ok, Reading.apply_eq_ok,
    Reading.functor_map_eq_ok] at h
  obtain ⟨_, _, ⟨_, _, ⟨_, _, ⟨t, ht, rfl⟩, _, rfl⟩, _, rfl⟩, _, rfl⟩ := h
  unfold Entries.optional at ht
  split at ht
  next v _ =>
    rw [Reading.below_eq_ok, Settings.readElementType] at ht
    split at ht
    next s _ =>
      simp only at ht
      split at ht
      next hp =>
        cases ht
        exact ElementType.isPlainText_of_isPlain hp
      next => cases ht
    next hn => exact absurd ht (hn t)
  next =>
    cases ht
    have htext : isPlainText "text" = true := by decide
    exact htext

/-- The database is PostgreSQL, and all types that can be written are plain. -/
structure Context.Plain (ctx : Context) : Prop where
  dialect : ∃ quoteReserved, ctx.dialect = Dialect.postgres quoteReserved
  settings : isPlainText ctx.settings.elementType = true
  schema : ∀ schema ∈ ctx.schema, schema.HasPlainTypes

theorem Context.Plain.elementType {ctx : Context} (h : ctx.Plain) (column : ResolvedColumn) :
    isPlainText (ctx.elementType column) = true := by
  unfold Context.elementType
  simp only
  cases hf : (do
      let schema ← ctx.schema
      let table ← column.table
      givenName (schema.elementType? table.name column.reference.column)) with
  | none => exact h.settings
  | some t =>
    obtain ⟨schema, hs, hf⟩ := Option.bind_eq_some_iff.mp hf
    obtain ⟨table, _, hf⟩ := Option.bind_eq_some_iff.mp hf
    exact (h.schema schema hs).elementType (mem_of_givenName hf)

end QueryBuilder
