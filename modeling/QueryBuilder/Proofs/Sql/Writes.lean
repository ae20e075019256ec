import QueryBuilder.Proofs.Outcome
import QueryBuilder.Proofs.Sql.Inert
import QueryBuilder.Proofs.Sql.Sites

/-!
What it means that pieces write the sites of a part of a statement and nothing else, and how such
pieces are put together.
-/
namespace QueryBuilder

/-- The pieces bind at the sites in their order, and are sealed if the fragments are closed. -/
structure Writes (ps : List Piece) (sites : List Site) : Prop where
  located : ps.filterMap Piece.site? = sites
  isSealed : (∀ s ∈ sites, s.IsClosed) → Piece.Sealed ps

namespace Writes

variable {ps xs ys : List Piece} {σ τ : List Site} {s w : String}

theorem nil : Writes [] [] :=
  ⟨rfl, fun _ => ⟨by simp, .nil⟩⟩

theorem text (h : Inert s) : Writes [.text s] [] :=
  ⟨rfl, fun _ => ⟨List.forall_mem_singleton.mpr h, .singleton _⟩⟩

theorem bind (v : Value) : Writes [.bind v] [.value v] :=
  ⟨rfl, fun _ => ⟨by simp [Piece.IsClosed], .singleton _⟩⟩

theorem raw (sql : String) (params : List Value) (readable : Text.isReadable sql = true) :
    Writes [.raw sql params readable] [.fragment sql params] :=
  ⟨rfl, fun h => ⟨List.forall_mem_singleton.mpr (h (.fragment sql params) (by simp)),
    .singleton _⟩⟩

theorem append (hx : Writes xs σ) (hy : Writes ys τ)
    (h : ∀ x ∈ xs.getLast?, ∀ y ∈ ys.head?, x.softEnd = true ∨ y.softStart = true) :
    Writes (xs ++ ys) (σ ++ τ) := by
  refine ⟨by rw [List.filterMap_append, hx.located, hy.located], fun hc => ⟨fun p hp => ?_, ?_⟩⟩
  · rcases List.mem_append.mp hp with hp | hp
    · exact (hx.isSealed fun t ht => hc t (by simp [ht])).closed p hp
    · exact (hy.isSealed fun t ht => hc t (by simp [ht])).closed p hp
  · exact List.isChain_append.mpr ⟨(hx.isSealed fun t ht => hc t (by simp [ht])).seams,
      (hy.isSealed fun t ht => hc t (by simp [ht])).seams, h⟩

theorem lead (hs : Inert s) (he : softEnd s.toList = true) (h : Writes ps σ) :
    Writes (.text s :: ps) σ := by
  refine append (text hs) h fun x hx y _ => ?_
  cases hx
  exact Or.inl he

theorem tail (h : Writes ps σ) (hs : Inert s) (he : softStart s.toList = true) :
    Writes (ps ++ [.text s]) σ := by
  rw [← List.append_nil σ]
  refine append h (text hs) fun x _ y hy => ?_
  cases hy
  exact Or.inr he

theorem join (hx : Writes xs σ) (hw : isSpacer w = true) (hy : Writes ys τ) :
    Writes (xs ++ .text w :: ys) (σ ++ τ) := by
  simp only [isSpacer, Bool.and_eq_true] at hw
  refine append hx (lead (.of_plain hw.1.1) hw.2 hy) fun x _ y hz => ?_
  cases hz
  exact Or.inr hw.1.2

theorem separated {xss : List (List Piece)} {σs : List (List Site)} (hw : isSpacer w = true)
    (h : List.Forall₂ Writes xss σs) : Writes (Piece.separated w xss) σs.flatten := by
  induction h with
  | nil => exact nil
  | @cons xs σ xss σs hx hr ih =>
    cases hr with
    | nil => simpa [Piece.separated] using hx
    | cons hy hr => exact join hx hw ih

/-- Results with a text between them write the sites of the list one after the other. -/
theorem forEach {α β : Type} {f : α → Except Error β} {k : β → List Piece} {g : α → List Site}
    {as : List α} {bs : List β} (hw : isSpacer w = true)
    (hf : ∀ a ∈ as, ∀ b, f a = .ok b → Writes (k b) (g a))
    (h : QueryBuilder.forEach f as = .ok bs) :
    Writes (Piece.separated w (bs.map k)) (as.flatMap g) := by
  rw [List.flatMap_def]
  refine separated hw ?_
  rw [List.forall₂_map_left_iff, List.forall₂_map_right_iff]
  exact (forEach_forall₂ hf h).flip

end Writes

end QueryBuilder
