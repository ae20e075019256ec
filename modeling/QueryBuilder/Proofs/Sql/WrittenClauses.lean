import QueryBuilder.Proofs.Builder.Select
import QueryBuilder.Proofs.Sql.ClauseBodies

/-!
The parts of a SELECT as they are written. A name is written in one way only, and the blanks and
commas between names are in none of them, so a list of parts can be read back from its text.
-/
namespace QueryBuilder

open Text

/-- A list whose items have the same images is the same, if no two of the items share theirs. -/
theorem map_injective_on {α β : Type} {f : α → β} {xs ys : List α}
    (hf : ∀ x ∈ xs, ∀ y ∈ ys, f x = f y → x = y) (h : xs.map f = ys.map f) : xs = ys := by
  have hr : List.Forall₂ (fun x y => f x = f y) xs ys := by
    rw [← List.forall₂_eq_eq_eq, List.forall₂_map_left_iff, List.forall₂_map_right_iff] at h
    exact h
  clear h
  induction hr with
  | nil => rfl
  | @cons x y xs ys hxy _ ih =>
    rw [hf x (by simp) y (by simp) hxy,
      ih fun a ha b hb => hf a (by simp [ha]) b (by simp [hb])]

theorem intercalate_mark {mark w : String} (x : String) (xs : List String) :
    (mark ++ w).intercalate (x :: xs) = mark.intercalate (x :: xs.map (w ++ ·)) := by
  induction xs generalizing x with
  | nil => simp
  | cons y ys ih =>
    rw [String.intercalate_cons_cons, ih, List.map_cons, String.intercalate_cons_cons,
      String.intercalate_cons_append]
    simp [String.append_assoc]

/-- Texts with a separator between them can be told apart, if its first character is in none. -/
theorem intercalate_injective (mark : Char) (w : String) {xs ys : List String}
    (hw : mark ∉ w.toList) (hx : ∀ x ∈ xs, mark ∉ x.toList) (hy : ∀ y ∈ ys, mark ∉ y.toList)
    (hxs : xs ≠ []) (hys : ys ≠ [])
    (h : (String.singleton mark ++ w).intercalate xs =
      (String.singleton mark ++ w).intercalate ys) : xs = ys := by
  have split : ∀ (x : String) (xs : List String), (∀ y ∈ x :: xs, mark ∉ y.toList) →
      ((String.singleton mark ++ w).intercalate (x :: xs)).toList.splitOn mark =
        (x :: xs.map (w ++ ·)).map String.toList := by
    intro x xs hx
    rw [intercalate_mark, String.toList_intercalate, String.toList_singleton]
    refine List.splitOn_intercalate mark (fun l hl => ?_) (by simp)
    simp only [List.map_cons, List.map_map, List.mem_cons, List.mem_map, Function.comp_apply,
      String.toList_append] at hl
    rcases hl with rfl | ⟨y, hm, rfl⟩
    · exact hx x (by simp)
    · simpa [hw] using hx y (by simp [hm])
  cases xs with
  | nil => exact absurd rfl hxs
  | cons x xs =>
    cases ys with
    | nil => exact absurd rfl hys
    | cons y ys =>
      have hparts := congrArg (fun s => s.toList.splitOn mark) h
      simp only [split x xs hx, split y ys hy] at hparts
      have hparts := List.map_injective_iff.mpr (fun _ _ h => String.toList_injective h) hparts
      obtain ⟨rfl, htail⟩ := List.cons.inj hparts
      rw [List.map_injective_iff.mpr (fun _ _ => by simp) htail]

theorem enclose_injective {mark : Char} (hm : isQuote mark = true) {s t : String}
    (h : Dialect.enclose mark s = Dialect.enclose mark t) : s = t := by
  have read : ∀ s : String, lexemes (Dialect.enclose mark s).toList =
      some [.quoted mark s.toList] := by
    intro s
    rw [Dialect.enclose, String.toList_ofList]
    exact lexemes_chars_quoted hm s.toList
  have hlexemes := (read s).symm.trans (h ▸ read t)
  exact String.toList_injective (by simpa using hlexemes)

theorem identifier_injective {m n : String} (hm : m = "*" ∨ Identifier.isValid m = true)
    (hn : n = "*" ∨ Identifier.isValid n = true)
    (h : (Dialect.postgres true).identifier m = (Dialect.postgres true).identifier n) : m = n := by
  have hmark : ∀ {n : String}, n = "*" ∨ Identifier.isValid n = true → '"' ∉ n.toList := by
    rintro n (rfl | hn)
    · decide
    · exact fun hc => absurd (Identifier.isPart_of_isValid hn hc) (by decide)
  have quoted : ∀ s : String, '"' ∈ (Dialect.enclose '"' s).toList := by
    intro s
    simp [Dialect.enclose]
  simp only [Dialect.postgres, Bool.and_true] at h
  split at h
  next =>
    split at h
    next => exact enclose_injective (by decide) h
    next => exact absurd (h ▸ quoted m) (hmark hn)
  next =>
    split at h
    next => exact absurd (h ▸ quoted n) (hmark hm)
    next => exact h

theorem repr_injective {m n : Nat} (h : m.repr = n.repr) : m = n := by
  rw [← number_toDigits m, ← Nat.toList_repr, h, Nat.toList_repr, number_toDigits]

theorem writtenName_injective {m n : String} (hm : IsWritable m) (hn : IsWritable n)
    (h : writtenName m = writtenName n) : m = n := by
  have hdot : ∀ {n : String}, IsWritable n →
      ∀ s ∈ (parts n).map (Dialect.postgres true).identifier, '.' ∉ s.toList := by
    intro n hn s hs
    obtain ⟨p, hp, rfl⟩ := List.mem_map.mp hs
    exact notMem_identifier true (by decide) (hn p hp)
  have hne : ∀ n : String, (parts n).map (Dialect.postgres true).identifier ≠ [] := by
    intro n
    simp [parts, splitAt_ne_nil]
  have hparts := intercalate_injective '.' "" (by decide) (hdot hm) (hdot hn)
    (hne m) (hne n) h
  have hsame : parts m = parts n :=
    map_injective_on (fun p hp q hq => identifier_injective (hm p hp) (hn q hq)) hparts
  rw [← intercalate_parts m, hsame, intercalate_parts]

/-- A part of a clause between blanks, in which no clause begins. -/
structure IsPart (s : String) : Prop where
  body : IsBody s
  blank : ' ' ∉ s.toList
  comma : ',' ∉ s.toList

theorem identifier_isPart {name : String} (h : name = "*" ∨ Identifier.isValid name = true) :
    IsPart ((Dialect.postgres true).identifier name) :=
  ⟨identifier_isBody h, notMem_identifier true (by decide) h, notMem_identifier true (by decide) h⟩

theorem writtenName_isPart {name : String} (h : IsWritable name) : IsPart (writtenName name) := by
  refine ⟨writtenName_isBody h, ?_, ?_⟩
  all_goals
    refine notMem_intercalate (by decide) fun s hs => ?_
    obtain ⟨p, hp, rfl⟩ := List.mem_map.mp hs
    exact notMem_identifier true (by decide) (h p hp)

theorem keyword_isPart {k : String} (hk : k ∈ ["AS", "JOIN", "ON", "=", "ASC", "DESC"]) :
    IsPart k := by
  have h : ∀ k ∈ ["AS", "JOIN", "ON", "=", "ASC", "DESC"],
      avoids clauseWords k = true ∧ ' ' ∉ k.toList ∧ ',' ∉ k.toList := by decide
  exact ⟨.of_plain (h k hk).1, (h k hk).2.1, (h k hk).2.2⟩

/-- Parts with blanks between them. -/
def sentence (parts : List String) : String :=
  " ".intercalate parts

theorem sentence_isBody {ps : List String} (h : ∀ p ∈ ps, IsPart p) : IsBody (sentence ps) :=
  .intercalate (by decide) fun p hp => (h p hp).body

theorem sentence_comma {ps : List String} (h : ∀ p ∈ ps, IsPart p) :
    ',' ∉ (sentence ps).toList :=
  notMem_intercalate (by decide) fun p hp => (h p hp).comma

theorem sentence_injective {ps qs : List String} (hp : ∀ p ∈ ps, IsPart p)
    (hq : ∀ q ∈ qs, IsPart q) (hps : ps ≠ []) (hqs : qs ≠ []) (h : sentence ps = sentence qs) :
    ps = qs :=
  intercalate_injective ' ' "" (by decide) (fun p hm => (hp p hm).blank)
    (fun q hm => (hq q hm).blank) hps hqs h

/-- A name, and behind AS its alias. -/
def aliasedParts (name : String) (aliasName : Option String) : List String :=
  name :: aliasName.elim [] fun a => ["AS", (Dialect.postgres true).identifier a]

theorem aliasedParts_isPart {name : String} {aliasName : Option String} (hn : IsPart name)
    (ha : ∀ a ∈ aliasName, Identifier.isValid a = true) :
    ∀ p ∈ aliasedParts name aliasName, IsPart p := by
  refine List.forall_mem_cons.mpr ⟨hn, ?_⟩
  cases aliasName with
  | none => simp
  | some a =>
    have has : IsPart "AS" := keyword_isPart (by decide)
    simpa [has] using identifier_isPart (Or.inr (ha a rfl))

theorem aliasedParts_injective {m n : String} {a b : Option String}
    (ha : ∀ c ∈ a, Identifier.isValid c = true) (hb : ∀ c ∈ b, Identifier.isValid c = true)
    (h : aliasedParts m a = aliasedParts n b) : m = n ∧ a = b := by
  obtain ⟨hname, h⟩ := List.cons.inj h
  refine ⟨hname, ?_⟩
  cases a with
  | none =>
    cases b with
    | none => rfl
    | some b => cases h
  | some a =>
    cases b with
    | none => cases h
    | some b =>
      simp only [Option.elim_some, List.cons.injEq, and_true, true_and] at h
      rw [identifier_injective (Or.inr (ha a rfl)) (Or.inr (hb b rfl)) h]

namespace TableRef

def parts (t : TableRef) : List String :=
  aliasedParts ((Dialect.postgres true).identifier t.name) t.aliasName

theorem parts_isPart {t : TableRef} (h : t.WellNamed) : ∀ p ∈ t.parts, IsPart p :=
  aliasedParts_isPart (identifier_isPart (Or.inr h.name)) fun a ha => (h.aliasName a ha).1

theorem parts_injective {t u : TableRef} (ht : t.WellNamed) (hu : u.WellNamed)
    (h : t.parts = u.parts) : t = u := by
  obtain ⟨hname, halias⟩ := aliasedParts_injective (fun a ha => (ht.aliasName a ha).1)
    (fun a ha => (hu.aliasName a ha).1) h
  cases t
  cases u
  rw [mk.injEq]
  exact ⟨identifier_injective (Or.inr ht.name) (Or.inr hu.name) hname, halias⟩

end TableRef

namespace SelectItem

def parts (i : SelectItem) : List String :=
  aliasedParts (writtenName i.name) i.aliasName

theorem parts_isPart {i : SelectItem} (h : i.WellNamed) : ∀ p ∈ i.parts, IsPart p :=
  aliasedParts_isPart (writtenName_isPart h.name.isWritable) fun a ha => (h.aliasName a ha).1

theorem parts_injective {i j : SelectItem} (hi : i.WellNamed) (hj : j.WellNamed)
    (h : i.parts = j.parts) : i = j := by
  obtain ⟨hname, halias⟩ := aliasedParts_injective (fun a ha => (hi.aliasName a ha).1)
    (fun a ha => (hj.aliasName a ha).1) h
  cases i
  cases j
  rw [mk.injEq]
  exact ⟨writtenName_injective hi.name.isWritable hj.name.isWritable hname, halias⟩

end SelectItem

namespace OrderItem

def parts (o : OrderItem) : List String :=
  [writtenName o.column, o.direction.text]

theorem parts_isPart {o : OrderItem} (h : IsColumnName o.column) : ∀ p ∈ o.parts, IsPart p := by
  have hd : IsPart o.direction.text := keyword_isPart (by cases o.direction <;> decide)
  simpa [parts, hd] using writtenName_isPart (IsItemName.column h).isWritable

theorem parts_injective {o o' : OrderItem} (ho : IsColumnName o.column)
    (ho' : IsColumnName o'.column) (h : o.parts = o'.parts) : o = o' := by
  have hdirection : ∀ {d e : SortDirection}, d.text = e.text → d = e := by
    intro d e
    cases d <;> cases e <;> decide
  simp only [parts, List.cons.injEq, and_true] at h
  cases o
  cases o'
  rw [mk.injEq]
  exact ⟨writtenName_injective (IsItemName.column ho).isWritable (IsItemName.column ho').isWritable
    h.1, hdirection h.2⟩

end OrderItem

namespace Join

/-- The join with qualifiers on both sides: a bare column on the left belongs to the first table,
one on the right to the joined table. -/
def qualified (root : TableRef) (j : Join) : Join :=
  { j with
    left := qualifiedBy root.qualifier j.left
    right := qualifiedBy j.table.qualifier j.right }

/-- A join of a table with a proper name on columns that can be written. -/
structure IsWritten (j : Join) : Prop where
  table : j.table.WellNamed
  left : IsWritable j.left
  right : IsWritable j.right

theorem qualified_isWritten {root : TableRef} {j : Join} (hr : root.WellNamed)
    (ht : j.table.WellNamed) (hj : IsColumnName j.left ∧ IsColumnName j.right) :
    (j.qualified root).IsWritten :=
  ⟨ht, qualifiedBy_isWritable hr.qualifier (.column hj.1),
    qualifiedBy_isWritable ht.qualifier (.column hj.2)⟩

def parts (j : Join) : List String :=
  "JOIN" :: j.table.parts ++ ["ON", writtenName j.left, "=", writtenName j.right]

theorem parts_isPart {j : Join} (h : j.IsWritten) : ∀ p ∈ j.parts, IsPart p := by
  have hon : IsPart "ON" := keyword_isPart (by decide)
  have heq : IsPart "=" := keyword_isPart (by decide)
  refine List.forall_mem_append.mpr ⟨List.forall_mem_cons.mpr ⟨keyword_isPart (by decide), ?_⟩, ?_⟩
  · exact TableRef.parts_isPart h.table
  · simpa [hon, heq] using ⟨writtenName_isPart h.left, writtenName_isPart h.right⟩

theorem parts_injective {j k : Join} (hj : j.IsWritten) (hk : k.IsWritten) (hkind : j.kind = k.kind)
    (h : j.parts = k.parts) : j = k := by
  obtain ⟨htable, hcolumns⟩ := List.append_inj' h rfl
  simp only [List.cons.injEq, and_true, true_and] at htable hcolumns
  have ht := TableRef.parts_injective hj.table hk.table htable
  have hl := writtenName_injective hj.left hk.left hcolumns.1
  have hr := writtenName_injective hj.right hk.right hcolumns.2
  cases j
  cases k
  rw [mk.injEq]
  exact ⟨hkind, ht, hl, hr⟩

end Join

end QueryBuilder
