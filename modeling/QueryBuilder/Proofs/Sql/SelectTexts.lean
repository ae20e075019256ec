import QueryBuilder.Proofs.Sql.ClauseTexts
import QueryBuilder.Proofs.Sql.WrittenClauses

/-!
The text of a SELECT as a text for each of its clauses. Apart from the condition after WHERE these
are functions of the query, whatever the scope is in which its columns were found.
-/
namespace QueryBuilder

open Text

/-- The clauses of a SELECT behind their first words. -/
structure SelectTexts where
  items : String
  table : String
  joins : List (JoinKind × String)
  filter : Option String
  order : Option String
  limit : Option String
  offset : Option String

namespace SelectTexts

def clauses (t : SelectTexts) : List (String × String) :=
  ("SELECT", t.items) :: ("FROM", t.table) :: t.joins.map (fun j => (j.1.text, j.2)) ++
    t.filter.toList.map (("WHERE", ·)) ++ t.order.toList.map (("ORDER", ·)) ++
    t.limit.toList.map (("LIMIT", ·)) ++ t.offset.toList.map (("OFFSET", ·))

def text (t : SelectTexts) : String :=
  " ".intercalate (t.clauses.map clauseText)

/-- The join that a clause is. -/
def join? (clause : String × String) : Option (JoinKind × String) :=
  (JoinKind.ofText? clause.1).map (·, clause.2)

theorem ofText?_text (kind : JoinKind) : JoinKind.ofText? kind.text = some kind := by
  cases kind <;> decide

theorem lookup_toList_map (key word : String) (body : Option String) :
    (body.toList.map (word, ·)).lookup key = if key == word then body else none := by
  cases body with
  | none => simp
  | some b => by_cases h : key = word <;> simp [h]

theorem lookup_joins {key : String} (hk : JoinKind.ofText? key = none)
    (joins : List (JoinKind × String)) :
    (joins.map fun j => (j.1.text, j.2)).lookup key = none := by
  refine List.lookup_eq_none_iff.mpr fun c hc => ?_
  obtain ⟨j, _, rfl⟩ := List.mem_map.mp hc
  rw [bne_iff_ne]
  rintro rfl
  rw [ofText?_text] at hk
  cases hk

theorem join?_toList_map {word : String} (hw : JoinKind.ofText? word = none)
    (body : Option String) : (body.toList.map (word, ·)).filterMap join? = [] := by
  cases body <;> simp [join?, hw]

theorem join?_joins (joins : List (JoinKind × String)) :
    (joins.map fun j => (j.1.text, j.2)).filterMap join? = joins := by
  induction joins with
  | nil => rfl
  | cons j joins ih => simp [join?, ofText?_text, ih]

theorem join?_clauses (t : SelectTexts) : t.clauses.filterMap join? = t.joins := by
  have hselect : JoinKind.ofText? "SELECT" = none := by decide
  have hfrom : JoinKind.ofText? "FROM" = none := by decide
  simp only [clauses, List.filterMap_append, List.filterMap_cons, join?_joins]
  rw [join?_toList_map (by decide), join?_toList_map (by decide), join?_toList_map (by decide),
    join?_toList_map (by decide)]
  simp [join?, hselect, hfrom]

/-- Every other clause has a first word of its own. -/
theorem lookup_clauses (t : SelectTexts) :
    t.clauses.lookup "SELECT" = some t.items ∧ t.clauses.lookup "FROM" = some t.table ∧
      t.clauses.lookup "WHERE" = t.filter ∧ t.clauses.lookup "ORDER" = t.order ∧
      t.clauses.lookup "LIMIT" = t.limit ∧ t.clauses.lookup "OFFSET" = t.offset := by
  have hjoins : ∀ key ∈ ["WHERE", "ORDER", "LIMIT", "OFFSET"],
      (t.joins.map fun j => (j.1.text, j.2)).lookup key = none := by
    have hnone : ∀ key ∈ ["WHERE", "ORDER", "LIMIT", "OFFSET"], JoinKind.ofText? key = none := by
      decide
    exact fun key hk => lookup_joins (hnone key hk) t.joins
  refine ⟨rfl, rfl, ?_, ?_, ?_, ?_⟩
  all_goals simp [clauses, List.lookup_append, List.lookup_cons, hjoins, lookup_toList_map]

/-- The clauses can be told apart by their first words. -/
theorem eq_of_clauses {t u : SelectTexts} (h : t.clauses = u.clauses) : t = u := by
  obtain ⟨hitems, htable, hfilter, horder, hlimit, hoffset⟩ := t.lookup_clauses
  have hjoins := t.join?_clauses
  rw [h] at hitems htable hfilter horder hlimit hoffset hjoins
  obtain ⟨hitems', htable', hfilter', horder', hlimit', hoffset'⟩ := u.lookup_clauses
  cases t
  cases u
  rw [mk.injEq]
  exact ⟨Option.some.inj (hitems.symm.trans hitems'), Option.some.inj (htable.symm.trans htable'),
    hjoins.symm.trans (join?_clauses _), hfilter.symm.trans hfilter', horder.symm.trans horder',
    hlimit.symm.trans hlimit', hoffset.symm.trans hoffset'⟩

end SelectTexts

namespace SelectQuery

/-- The select list; an empty one stands for all columns. -/
def selected (q : SelectQuery) : List SelectItem :=
  if q.items.isEmpty then [⟨"*", none⟩] else q.items

/-- The joins with qualifiers on both sides. -/
def qualifiedJoins (q : SelectQuery) : List Join :=
  q.joins.map (Join.qualified q.table)

/-- The clauses of the query as they are written, with a text for its filter. -/
def texts (q : SelectQuery) (filter : Option String) : SelectTexts where
  items := ", ".intercalate (q.selected.map fun i => sentence i.parts)
  table := sentence q.table.parts
  joins := q.qualifiedJoins.map fun j => (j.kind, sentence j.parts)
  filter := filter
  order := if q.orderBy.isEmpty then none
    else some ("BY " ++ ", ".intercalate (q.orderBy.map fun o => sentence o.parts))
  limit := q.limit.map Nat.repr
  offset := q.offset.map Nat.repr

/-- The queries have the same clauses, whatever is after WHERE. -/
structure SameClauses (q r : SelectQuery) : Prop where
  table : q.table = r.table
  joins : q.qualifiedJoins = r.qualifiedJoins
  items : q.selected = r.selected
  filter : q.filter.isSome = r.filter.isSome
  orderBy : q.orderBy = r.orderBy
  limit : q.limit = r.limit
  offset : q.offset = r.offset

namespace Sound

variable {q r : SelectQuery}

theorem root (h : q.Sound) : q.table.WellNamed :=
  h.tables _ q.table_mem_tables

theorem selected_wellNamed (h : q.Sound) : ∀ i ∈ q.selected, i.WellNamed := by
  unfold selected
  split
  next =>
    have hstar : SelectItem.WellNamed ⟨"*", none⟩ := ⟨.star, by simp⟩
    simpa using hstar
  next => exact h.items

theorem qualifiedJoins_isWritten (h : q.Sound) : ∀ j ∈ q.qualifiedJoins, j.IsWritten := by
  intro k hk
  obtain ⟨j, hj, rfl⟩ := List.mem_map.mp hk
  exact Join.qualified_isWritten h.root (h.tables _ (joined_mem_tables hj)) (h.joins j hj)

end Sound

/-- A list of parts with commas between them can be read back. -/
theorem list_injective {α : Type} {parts : α → List String} {xs ys : List α}
    (hne : ∀ x, parts x ≠ []) (hx : ∀ x ∈ xs, ∀ p ∈ parts x, IsPart p)
    (hy : ∀ y ∈ ys, ∀ p ∈ parts y, IsPart p) (hxs : xs ≠ []) (hys : ys ≠ [])
    (hi : ∀ x ∈ xs, ∀ y ∈ ys, parts x = parts y → x = y)
    (h : ", ".intercalate (xs.map fun x => sentence (parts x)) =
      ", ".intercalate (ys.map fun y => sentence (parts y))) : xs = ys := by
  have hcomma : ∀ {zs : List α}, (∀ z ∈ zs, ∀ p ∈ parts z, IsPart p) →
      ∀ s ∈ zs.map (fun z => sentence (parts z)), ',' ∉ s.toList := by
    intro zs hz s hs
    obtain ⟨z, hm, rfl⟩ := List.mem_map.mp hs
    exact sentence_comma (hz z hm)
  have hsentences := intercalate_injective ',' " " (by decide) (hcomma hx)
    (hcomma hy) (by simpa using hxs) (by simpa using hys) h
  exact map_injective_on (fun x hm y hn he => hi x hm y hn
    (sentence_injective (hx x hm) (hy y hn) (hne x) (hne y) he)) hsentences

section texts

variable {q r : SelectQuery} {f g : Option String}

theorem selected_ne_nil (q : SelectQuery) : q.selected ≠ [] := by
  unfold selected
  split <;> simp_all

theorem selected_of_texts (hq : q.Sound) (hr : r.Sound)
    (h : (q.texts f).items = (r.texts g).items) : q.selected = r.selected :=
  list_injective (fun _ => by simp [SelectItem.parts, aliasedParts])
    (fun i hi => SelectItem.parts_isPart (hq.selected_wellNamed i hi))
    (fun i hi => SelectItem.parts_isPart (hr.selected_wellNamed i hi)) q.selected_ne_nil
    r.selected_ne_nil (fun i hi j hj => SelectItem.parts_injective (hq.selected_wellNamed i hi)
      (hr.selected_wellNamed j hj)) h

theorem table_of_texts (hq : q.Sound) (hr : r.Sound)
    (h : (q.texts f).table = (r.texts g).table) : q.table = r.table :=
  TableRef.parts_injective hq.root hr.root
    (sentence_injective (TableRef.parts_isPart hq.root) (TableRef.parts_isPart hr.root)
      (by simp [TableRef.parts, aliasedParts]) (by simp [TableRef.parts, aliasedParts]) h)

theorem qualifiedJoins_of_texts (hq : q.Sound) (hr : r.Sound)
    (h : (q.texts f).joins = (r.texts g).joins) : q.qualifiedJoins = r.qualifiedJoins := by
  refine map_injective_on (fun j hj k hk he => ?_) h
  have hjw := hq.qualifiedJoins_isWritten j hj
  have hkw := hr.qualifiedJoins_isWritten k hk
  obtain ⟨hkind, htext⟩ := Prod.mk.inj he
  exact Join.parts_injective hjw hkw hkind (sentence_injective (Join.parts_isPart hjw)
    (Join.parts_isPart hkw) (by simp [Join.parts]) (by simp [Join.parts]) htext)

theorem orderBy_of_texts (hq : q.Sound) (hr : r.Sound)
    (h : (q.texts f).order = (r.texts g).order) : q.orderBy = r.orderBy := by
  simp only [texts] at h
  split at h
  next hqe =>
    split at h
    next hre => rw [List.isEmpty_iff.mp hqe, List.isEmpty_iff.mp hre]
    next => cases h
  next hqe =>
    split at h
    next => cases h
    next hre =>
      simp only [Option.some.injEq, String.append_right_inj] at h
      exact list_injective (fun _ => by simp [OrderItem.parts])
        (fun o hm => OrderItem.parts_isPart (hq.orderBy o hm))
        (fun o hm => OrderItem.parts_isPart (hr.orderBy o hm)) (by simpa using hqe)
        (by simpa using hre) (fun o hm o' hm' => OrderItem.parts_injective (hq.orderBy o hm)
          (hr.orderBy o' hm')) h

theorem sameClauses_of_texts (hq : q.Sound) (hr : r.Sound) (hf : f.isSome = q.filter.isSome)
    (hg : g.isSome = r.filter.isSome) (h : q.texts f = r.texts g) : q.SameClauses r := by
  have hnumber : ∀ {m n : Option Nat}, m.map Nat.repr = n.map Nat.repr → m = n := fun h =>
    Option.map_injective (fun _ _ => repr_injective) h
  have hfilter : f = g := congrArg SelectTexts.filter h
  exact {
    table := table_of_texts hq hr (congrArg SelectTexts.table h)
    joins := qualifiedJoins_of_texts hq hr (congrArg SelectTexts.joins h)
    items := selected_of_texts hq hr (congrArg SelectTexts.items h)
    filter := by rw [← hf, hfilter, hg]
    orderBy := orderBy_of_texts hq hr (congrArg SelectTexts.order h)
    limit := hnumber (congrArg SelectTexts.limit h)
    offset := hnumber (congrArg SelectTexts.offset h) }

end texts

theorem list_isBody {α : Type} {parts : α → List String} {xs : List α}
    (h : ∀ x ∈ xs, ∀ p ∈ parts x, IsPart p) :
    IsBody (", ".intercalate (xs.map fun x => sentence (parts x))) := by
  refine .intercalate (by decide) fun s hs => ?_
  obtain ⟨x, hx, rfl⟩ := List.mem_map.mp hs
  exact sentence_isBody (h x hx)

/-- No clause begins inside of another. -/
theorem texts_isClause {q : SelectQuery} {f : Option String} (hq : q.Sound)
    (hf : ∀ s ∈ f, IsBody s) : ∀ c ∈ (q.texts f).clauses, IsClause c := by
  have given : ∀ {word : String} {body : Option String}, word ∈ clauseWords →
      (∀ s ∈ body, IsBody s) → ∀ c ∈ body.toList.map (word, ·), IsClause c := by
    intro word body hw hb c hc
    obtain ⟨s, hs, rfl⟩ := List.mem_map.mp hc
    exact ⟨hw, hb s (Option.mem_toList.mp hs)⟩
  have number : ∀ {n : Option Nat}, ∀ s ∈ n.map Nat.repr, IsBody s := by
    intro n s hs
    obtain ⟨k, _, rfl⟩ := Option.map_eq_some_iff.mp hs
    exact repr_isBody k
  have hselect : "SELECT" ∈ clauseWords := by decide
  have hfrom : "FROM" ∈ clauseWords := by decide
  have hkind : ∀ kind : JoinKind, kind.text ∈ clauseWords := by
    intro kind
    cases kind <;> decide
  refine List.forall_mem_append.mpr ⟨List.forall_mem_append.mpr ⟨List.forall_mem_append.mpr
    ⟨List.forall_mem_append.mpr ⟨?_, given (by decide) hf⟩, given (by decide) ?_⟩,
    given (by decide) number⟩, given (by decide) number⟩
  · refine List.forall_mem_cons.mpr ⟨⟨hselect, ?_⟩, List.forall_mem_cons.mpr ⟨⟨hfrom, ?_⟩, ?_⟩⟩
    · exact list_isBody fun i hi => SelectItem.parts_isPart (hq.selected_wellNamed i hi)
    · exact sentence_isBody (TableRef.parts_isPart hq.root)
    · intro c hc
      obtain ⟨p, hp, rfl⟩ := List.mem_map.mp hc
      obtain ⟨j, hj, rfl⟩ := List.mem_map.mp hp
      exact ⟨hkind j.kind, sentence_isBody (Join.parts_isPart (hq.qualifiedJoins_isWritten j hj))⟩
  · intro s hs
    simp only [texts] at hs
    split at hs
    next => cases hs
    next =>
      cases hs
      exact .lead (by decide) (by decide)
        (list_isBody fun o ho => OrderItem.parts_isPart (hq.orderBy o ho))

end SelectQuery

end QueryBuilder
