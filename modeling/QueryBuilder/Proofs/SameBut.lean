import QueryBuilder.Proofs.Refines

/-!
Lists that are the same but for gaps, and lists whose items are paired one by one. Both tell in
their order the names that stand in the gaps of the one and of the other.
-/
namespace QueryBuilder

variable {κ α β γ δ : Type}

/-- The two lists are the same, but where one has what the first name of a pair stands for, and the
other what the second does. -/
inductive SameBut (f : κ → List α) : List (κ × κ) → List α → List α → Prop
  | nil : SameBut f [] [] []
  | item {ks : List (κ × κ)} {xs ys : List α} (a : α) (h : SameBut f ks xs ys) :
      SameBut f ks (a :: xs) (a :: ys)
  | gap {ks : List (κ × κ)} {xs ys : List α} (k l : κ) (h : SameBut f ks xs ys) :
      SameBut f ((k, l) :: ks) (f k ++ xs) (f l ++ ys)

namespace SameBut

variable {f : κ → List α} {ks ls : List (κ × κ)} {xs ys us vs : List α}

theorem items (as : List α) (h : SameBut f ks xs ys) : SameBut f ks (as ++ xs) (as ++ ys) := by
  induction as with
  | nil => exact h
  | cons a as ih => exact .item a ih

theorem refl (as : List α) : SameBut f [] as as := by
  simpa using items as (nil (f := f))

theorem append (h : SameBut f ks xs ys) (g : SameBut f ls us vs) :
    SameBut f (ks ++ ls) (xs ++ us) (ys ++ vs) := by
  induction h with
  | nil => exact g
  | item a _ ih => exact .item a ih
  | gap k l _ ih =>
    rw [List.append_assoc, List.append_assoc]
    exact .gap k l ih

theorem append_same (h : SameBut f ks xs ys) (as : List α) :
    SameBut f ks (xs ++ as) (ys ++ as) := by
  simpa using h.append (refl as)

theorem flatMap (h : SameBut f ks xs ys) (g : α → List β) :
    SameBut (fun k => (f k).flatMap g) ks (xs.flatMap g) (ys.flatMap g) := by
  induction h with
  | nil => exact .nil
  | item a _ ih =>
    rw [List.flatMap_cons, List.flatMap_cons]
    exact items (g a) ih
  | gap k l _ ih =>
    rw [List.flatMap_append, List.flatMap_append]
    exact .gap k l ih

end SameBut

/-- The items of two lists are related one by one, each pair under names of its own. -/
inductive Paired (r : List κ → α → β → Prop) : List κ → List α → List β → Prop
  | nil : Paired r [] [] []
  | cons {ks ls : List κ} {a : α} {b : β} {as : List α} {bs : List β} (h : r ks a b)
      (hs : Paired r ls as bs) : Paired r (ks ++ ls) (a :: as) (b :: bs)

namespace Paired

variable {r : List κ → α → β → Prop} {ks ls : List κ} {as cs : List α} {bs ds : List β}

/-- A pair in front of pairs without names. -/
theorem lead {a : α} {b : β} (h : r ks a b) (hs : Paired r [] as bs) :
    Paired r ks (a :: as) (b :: bs) := by
  simpa using cons h hs

theorem single {a : α} {b : β} (h : r ks a b) : Paired r ks [a] [b] :=
  lead h nil

/-- A pair without names. -/
theorem item {a : α} {b : β} (h : r [] a b) (hs : Paired r ls as bs) :
    Paired r ls (a :: as) (b :: bs) :=
  cons h hs

theorem append (h : Paired r ks as bs) (g : Paired r ls cs ds) :
    Paired r (ks ++ ls) (as ++ cs) (bs ++ ds) := by
  induction h with
  | nil => exact g
  | cons h _ ih =>
    rw [List.append_assoc]
    exact cons h ih

theorem same {r : List κ → α → α → Prop} (hr : ∀ a, r [] a a) (as : List α) :
    Paired r [] as as := by
  induction as with
  | nil => exact nil
  | cons a as ih => exact item (hr a) ih

theorem same_append {r : List κ → α → α → Prop} (hr : ∀ a, r [] a a) {as bs : List α} (cs : List α)
    (h : Paired r ks as bs) : Paired r ks (cs ++ as) (cs ++ bs) :=
  append (same hr cs) h

theorem append_same {r : List κ → α → α → Prop} (hr : ∀ a, r [] a a) {as bs : List α} (cs : List α)
    (h : Paired r ks as bs) : Paired r ks (as ++ cs) (bs ++ cs) := by
  simpa using append h (same hr cs)

theorem flatten {ass : List (List α)} {bss : List (List β)} (h : Paired (Paired r) ks ass bss) :
    Paired r ks ass.flatten bss.flatten := by
  induction h with
  | nil => exact nil
  | cons h _ ih => exact append h ih

end Paired

theorem Refines.forEach_paired {r : List κ → α → β → Prop} {s : List κ → γ → δ → Prop}
    {f : α → Except Error γ} {g : β → Except Error δ} {ks : List κ} {as : List α} {bs : List β}
    (h : Paired r ks as bs) (hf : ∀ ks a b, r ks a b → Refines (s ks) (f a) (g b)) :
    Refines (Paired s ks) (QueryBuilder.forEach f as) (QueryBuilder.forEach g bs) := by
  induction h with
  | nil => exact ok .nil
  | cons h _ ih =>
    exact (hf _ _ _ h).bind fun c d hcd => ih.bind fun cs ds hs => ok (.cons hcd hs)

end QueryBuilder
