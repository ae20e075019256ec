import QueryBuilder.Proofs.Identifier.Parsed
import QueryBuilder.Proofs.Sql.Filled
import QueryBuilder.Sql.Clause

/-!
Texts without placeholders and open quotes: the names, literals and types of a statement, and what
is put together of them with ordinary text in between.
-/
namespace QueryBuilder

open Text

/-- Holds of texts that leave no quote open and have no placeholder. -/
def Inert (s : String) : Prop :=
  ClosedFragment s.toList 0

/-- Holds of characters that begin neither a region nor a placeholder. -/
def isPlainChar (c : Char) : Bool :=
  !isQuote c && c != '$'

def isPlainText (s : String) : Bool :=
  s.toList.all isPlainChar

/-- A class that has none of the three other characters is one of plain characters. -/
theorem isPlainChar_of_class {p : Char → Bool} {c : Char}
    (hp : p '\'' = false ∧ p '"' = false ∧ p '$' = false) (h : p c = true) :
    isPlainChar c = true := by
  cases hq : isQuote c with
  | true =>
    rcases isQuote_iff.mp hq with rfl | rfl
    · simp [hp.1] at h
    · simp [hp.2.1] at h
  | false =>
    by_cases hd : c = '$'
    · subst hd
      simp [hp.2.2] at h
    · simp [isPlainChar, hq, hd]

/-- Holds of plain texts that touch no token on either side. -/
def isSpacer (s : String) : Bool :=
  isPlainText s && softStart s.toList && softEnd s.toList

theorem softEnd_append {xs ys : List Char} (h : softEnd ys = true) : softEnd (xs ++ ys) = true := by
  cases hy : ys.getLast? with
  | none => simp [softEnd, hy] at h
  | some y => simpa [softEnd, hy] using h

theorem isPlainText_append (x y : String) :
    isPlainText (x ++ y) = (isPlainText x && isPlainText y) := by
  simp [isPlainText]

theorem isQuote_of_isPlainText {s : String} (h : isPlainText s = true) :
    ∀ c ∈ s.toList, isQuote c = false := by
  intro c hc
  have hp := List.all_eq_true.mp h c hc
  simp only [isPlainChar, Bool.and_eq_true, Bool.not_eq_true'] at hp
  exact hp.1

theorem sqlTokens_of_plain {cs : List Char} (h : cs.all isPlainChar = true) :
    sqlTokens cs = cs.map .plain := by
  induction cs with
  | nil => simp [sqlTokens]
  | cons c cs ih =>
    simp only [List.all_cons, isPlainChar, Bool.and_eq_true, Bool.not_eq_true', bne_iff_ne] at h
    rw [sqlTokens_plain h.1.1 (fun hd => h.1.2 hd.1), ih h.2, List.map_cons]

namespace Inert

theorem of_plain {s : String} (h : isPlainText s = true) : Inert s := by
  have ht := sqlTokens_of_plain h
  refine ⟨fun t hm => ?_, fun ds hm => ?_⟩
  · rw [ht] at hm
    obtain ⟨c, hc, rfl⟩ := List.mem_map.mp hm
    exact isQuote_of_isPlainText h c hc
  · rw [ht] at hm
    obtain ⟨c, _, he⟩ := List.mem_map.mp hm
    cases he

theorem append {x y : String} (hx : Inert x) (hy : Inert y) (hs : Seam x.toList y.toList) :
    Inert (x ++ y) := by
  have ht := sqlTokens_append hx.closed hs
  rw [← String.toList_append] at ht
  refine ⟨fun t hm => ?_, fun ds hm => ?_⟩
  · rw [ht] at hm
    rcases List.mem_append.mp hm with hm | hm
    · exact hx.closed t hm
    · exact hy.closed t hm
  · rw [ht] at hm
    rcases List.mem_append.mp hm with hm | hm
    · exact hx.numbered ds hm
    · exact hy.numbered ds hm

theorem tail {x w : String} (hx : Inert x) (hw : isPlainText w = true)
    (hs : softStart w.toList = true) : Inert (x ++ w) :=
  hx.append (of_plain hw) (seam_of_softStart hs)

theorem lead {w x : String} (hw : isPlainText w = true) (hs : softEnd w.toList = true)
    (hx : Inert x) : Inert (w ++ x) :=
  (of_plain hw).append hx (seam_of_softEnd hs)

theorem join {x w y : String} (hx : Inert x) (hw : isSpacer w = true) (hy : Inert y) :
    Inert (x ++ w ++ y) := by
  simp only [isSpacer, Bool.and_eq_true] at hw
  refine (hx.tail hw.1.1 hw.1.2).append hy (seam_of_softEnd ?_)
  rw [String.toList_append]
  exact softEnd_append hw.2

theorem intercalate {w : String} {xs : List String} (hw : isSpacer w = true)
    (hx : ∀ x ∈ xs, Inert x) : Inert (w.intercalate xs) := by
  induction xs with
  | nil => exact of_plain rfl
  | cons x xs ih =>
    cases xs with
    | nil => simpa using hx
    | cons y ys =>
      rw [String.intercalate_cons_cons]
      exact join (hx x (by simp)) hw (ih fun z hz => hx z (by simp [hz]))

end Inert

/-- A text in marks, with the marks inside doubled, is a region to its end. -/
theorem splitRegion_enclosed (mark : Char) (cs : List Char) :
    splitRegion mark (cs.flatMap (fun c => if c = mark then [c, c] else [c]) ++ [mark]) =
      some (cs.flatMap (fun c => if c = mark then [c, c] else [c]) ++ [mark], []) := by
  induction cs with
  | nil => simp [splitRegion]
  | cons c cs ih =>
    by_cases hc : c = mark
    · subst hc
      simp only [List.flatMap_cons, if_true, List.cons_append, List.nil_append]
      rw [splitRegion.eq_def]
      simp [ih]
    · simp [hc, splitRegion_of_ne hc, ih]

theorem enclose_inert {mark : Char} (hm : isQuote mark = true) (s : String) :
    Inert (Dialect.enclose mark s) := by
  have ht := sqlTokens_region hm (splitRegion_enclosed mark s.toList)
  rw [sqlTokens] at ht
  refine ⟨fun t h => ?_, fun ds h => ?_⟩
  all_goals
    rw [Dialect.enclose, String.toList_ofList, List.cons_append, ht] at h
    cases List.mem_singleton.mp h
  rfl

theorem literal_inert (quoteReserved : Bool) (s : String) :
    Inert ((Dialect.postgres quoteReserved).literal s) :=
  enclose_inert (by decide) s

theorem isPlainText_of_isValid {name : String} (h : Identifier.isValid name = true) :
    isPlainText name = true :=
  List.all_eq_true.mpr fun _ hc =>
    isPlainChar_of_class (by decide) (Identifier.isPart_of_isValid h hc)

theorem identifier_inert (quoteReserved : Bool) {name : String}
    (h : name = "*" ∨ Identifier.isValid name = true) :
    Inert ((Dialect.postgres quoteReserved).identifier name) := by
  have hn : Inert name := by
    rcases h with rfl | h
    · exact .of_plain (by decide)
    · exact .of_plain (isPlainText_of_isValid h)
  simp only [Dialect.postgres]
  split
  next => exact enclose_inert (by decide) name
  next => exact hn

end QueryBuilder
