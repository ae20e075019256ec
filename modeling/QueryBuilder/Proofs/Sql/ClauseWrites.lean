import QueryBuilder.Proofs.Builder.Insert
import QueryBuilder.Proofs.Sql.PredicateWrites
import QueryBuilder.Proofs.Sql.Rendering

/-!
The clauses of sound statements: their texts are inert, and what they bind are the sites of the
statement in its order.
-/
namespace QueryBuilder

open Text

/-- The clauses write the sites one clause after the other. -/
def WriteClauses (xss : List (List Piece)) (σ : List Site) : Prop :=
  ∃ σs, List.Forall₂ Writes xss σs ∧ σs.flatten = σ

namespace WriteClauses

variable {xss yss : List (List Piece)} {xs : List Piece} {σ τ : List Site}

theorem nil : WriteClauses [] [] :=
  ⟨[], .nil, rfl⟩

theorem single (h : Writes xs σ) : WriteClauses [xs] σ :=
  ⟨[σ], .cons h .nil, by simp⟩

theorem append (hx : WriteClauses xss σ) (hy : WriteClauses yss τ) :
    WriteClauses (xss ++ yss) (σ ++ τ) := by
  obtain ⟨σs, hσ, rfl⟩ := hx
  obtain ⟨τs, hτ, rfl⟩ := hy
  exact ⟨σs ++ τs, List.rel_append hσ hτ, by simp⟩

theorem texts {ss : List String} (h : ∀ s ∈ ss, Inert s) :
    WriteClauses (ss.map fun s => [.text s]) [] := by
  induction ss with
  | nil => exact nil
  | cons s ss ih =>
    exact append (single (.text (h s (by simp)))) (ih fun t ht => h t (by simp [ht]))

theorem separated (h : WriteClauses xss σ) : Writes (Piece.separated " " xss) σ := by
  obtain ⟨σs, hσ, rfl⟩ := h
  exact .separated (by decide) hσ

end WriteClauses

variable {ctx : Context}

namespace Context

theorem identifier_inert (hp : ctx.Plain) {name : String} (h : Identifier.isValid name = true) :
    Inert (ctx.dialect.identifier name) := by
  obtain ⟨q, hd⟩ := hp.dialect
  rw [hd]
  exact QueryBuilder.identifier_inert q (Or.inr h)

theorem withAlias_inert (hp : ctx.Plain) {name : String} {aliasName : Option String}
    (hn : Inert name) (ha : ∀ a ∈ aliasName, Identifier.isValid a = true) :
    Inert (ctx.withAlias name aliasName) := by
  unfold withAlias
  split
  next a hg => exact hn.join (by decide) (identifier_inert hp (ha a (mem_of_givenName hg)))
  next => exact hn

theorem tableText_inert (hp : ctx.Plain) {t : TableRef} (h : t.WellNamed) :
    Inert (ctx.tableText t) :=
  withAlias_inert hp (identifier_inert hp h.name) fun a ha => (h.aliasName a ha).1

theorem itemsText_inert (hp : ctx.Plain) {items : List SelectItem} {text : String}
    (hi : ∀ i ∈ items, i.WellNamed) (h : ctx.itemsText items = .ok text) : Inert text := by
  obtain ⟨texts, hf, h⟩ := bind_eq_ok_iff.mp h
  cases h
  refine Inert.intercalate (by decide) (forEach_all (fun i hm t ht => ?_) hf)
  obtain ⟨name, hn, ht⟩ := bind_eq_ok_iff.mp ht
  cases ht
  exact withAlias_inert hp (columnText_inert hp (hi i hm).name (by simp) hn) fun a ha =>
    ((hi i hm).aliasName a ha).1

theorem selectClause_inert (hp : ctx.Plain) {items : List SelectItem} {text : String}
    (hi : ∀ i ∈ items, i.WellNamed) (h : ctx.selectClause items = .ok text) : Inert text := by
  unfold selectClause at h
  split at h
  next =>
    cases h
    exact .of_plain (by decide)
  next =>
    obtain ⟨list, hl, h⟩ := bind_eq_ok_iff.mp h
    cases h
    exact .lead (by decide) (by decide) (itemsText_inert hp hi hl)

theorem joinClause_inert (hp : ctx.Plain) {j : Join} {text : String}
    (ht : j.table.WellNamed) (hr : ∀ t ∈ ctx.scope.root?, t.WellNamed)
    (hj : IsColumnName j.left ∧ IsColumnName j.right) (h : ctx.joinClause j = .ok text) :
    Inert text := by
  obtain ⟨left, hl, h⟩ := bind_eq_ok_iff.mp h
  obtain ⟨right, hr', h⟩ := bind_eq_ok_iff.mp h
  cases h
  have hroot : ∀ q ∈ ctx.scope.root?.map TableRef.qualifier, Identifier.isValid q = true := by
    intro q hq
    obtain ⟨t, hm, rfl⟩ := Option.map_eq_some_iff.mp hq
    exact (hr t hm).qualifier
  have hleft := columnText_inert hp (.column hj.1) hroot hl
  have hright := columnText_inert hp (.column hj.2) (by simpa using ht.qualifier) hr'
  have hkind : isPlainText (j.kind.text ++ " JOIN ") = true := by
    cases j.kind <;> decide
  have htable := Inert.lead hkind (softEnd_toList_append (by decide)) (tableText_inert hp ht)
  have hi := (htable.join (by decide : isSpacer " ON " = true) hleft).join
    (by decide : isSpacer " = " = true) hright
  exact hi

theorem orderItem_inert (hp : ctx.Plain) {outputNames : List String} {o : OrderItem} {text : String}
    (ho : IsColumnName o.column) (h : ctx.orderItem outputNames o = .ok text) : Inert text := by
  obtain ⟨column, hc, h⟩ := bind_eq_ok_iff.mp h
  cases h
  have hn := columnText_inert hp (.column ho) (by simp) hc
  have hw : isPlainText (" " ++ o.direction.text) = true := by
    cases o.direction <;> decide
  have hi := hn.tail hw (by rw [String.toList_append]; exact softStart_append (by decide))
  rw [← String.append_assoc] at hi
  exact hi

theorem isPlainText_toString (n : Nat) : isPlainText (toString n) = true := by
  rw [Nat.toString_eq_repr, Nat.repr_eq_ofList_toDigits, isPlainText, String.toList_ofList,
    List.all_eq_true]
  exact fun c hc => isPlainChar_of_class (by decide) (isDigit_of_mem_toDigits c hc)

theorem orderClause_writes (hp : ctx.Plain) {outputNames : List String} {orderBy : List OrderItem}
    {xss : List (List Piece)} (ho : ∀ o ∈ orderBy, IsColumnName o.column)
    (h : ctx.orderClause outputNames orderBy = .ok xss) : WriteClauses xss [] := by
  unfold orderClause at h
  split at h
  next =>
    cases h
    exact .nil
  next =>
    obtain ⟨parts, hf, h⟩ := bind_eq_ok_iff.mp h
    cases h
    refine .single (.text (.lead (by decide) (by decide) ?_))
    exact .intercalate (by decide) (forEach_all (fun o hm _ h => orderItem_inert hp (ho o hm) h) hf)

theorem filterClause_writes (hp : ctx.Plain) {filter : Option Condition} {xss : List (List Piece)}
    (hs : ∀ c ∈ filter, c.Sound) (h : ctx.filterClause filter = .ok xss) :
    WriteClauses xss (filter.elim [] Condition.sites) := by
  cases filter with
  | none =>
    cases h
    exact .nil
  | some c =>
    obtain ⟨ps, hc, h⟩ := bind_eq_ok_iff.mp h
    cases h
    exact .single (.lead (.of_plain (by decide)) (by decide) (predicate_writes hp (hs c rfl) hc))

theorem bound_writes {front : String} (hf : isPlainText front = true) (n : Option Nat) :
    WriteClauses (n.toList.map fun n => [.text (front ++ toString n)]) [] := by
  cases n with
  | none => exact .nil
  | some n =>
    refine .single (.text (.of_plain ?_))
    rw [isPlainText_append, hf, isPlainText_toString]
    rfl

theorem selectClauses_write (hp : ctx.Plain) {q : SelectQuery} {xss : List (List Piece)}
    (hq : q.Sound) (hr : ∀ t ∈ ctx.scope.root?, t.WellNamed)
    (h : ctx.selectClauses q = .ok xss) : WriteClauses xss (Statement.select q).sites := by
  obtain ⟨select, joins, filter, order, hselect, hjoins, hfilter, horder, rfl⟩ :=
    selectClauses_eq_ok h
  have hfrom : Inert ("FROM " ++ ctx.tableText q.table) :=
    .lead (by decide) (by decide) (tableText_inert hp (hq.tables _ q.table_mem_tables))
  have hj : ∀ s ∈ joins, Inert s := by
    refine forEach_all (fun j hm s h => joinClause_inert hp ?_ hr (hq.joins j hm) h) hjoins
    exact hq.tables _ (SelectQuery.joined_mem_tables hm)
  have htexts : ∀ s ∈ select :: ("FROM " ++ ctx.tableText q.table) :: joins, Inert s :=
    List.forall_mem_cons.mpr ⟨selectClause_inert hp hq.items hselect,
      List.forall_mem_cons.mpr ⟨hfrom, hj⟩⟩
  have hc := ((((WriteClauses.texts htexts).append
    (filterClause_writes hp hq.filter hfilter)).append
    (orderClause_writes hp hq.orderBy horder)).append
    (bound_writes (by decide : isPlainText ("LIMIT" ++ " ") = true) q.limit)).append
    (bound_writes (by decide : isPlainText ("OFFSET" ++ " ") = true) q.offset)
  simp only [List.nil_append, List.append_nil] at hc
  exact hc

theorem row_writes (hp : ctx.Plain) {columns : List String} {row : Row} {ps : List Piece}
    (hr : SoundRow row) (h : ctx.row columns row = .ok ps) :
    Writes ps (columns.flatMap fun c => (row.lookup c).elim [] Value.sites) := by
  obtain ⟨cells, hc, h⟩ := bind_eq_ok_iff.mp h
  cases h
  refine .lead (.of_plain (by decide)) (by decide) (.tail ?_ (.of_plain (by decide)) (by decide))
  refine Writes.forEach (by decide) (fun column _ p hcell => ?_) hc
  unfold cell at hcell
  split at hcell
  next v hv =>
    rw [hv]
    obtain ⟨_, _, he, _⟩ := List.lookup_eq_some_iff.mp hv
    exact operand_writes hp (hr.values (column, v) (by simp [he])) hcell
  next hn =>
    cases hcell
    rw [hn]
    exact .text (.of_plain (by decide))

theorem bareNames_inert (hp : ctx.Plain) {columns names : List String}
    (hc : ∀ c ∈ columns, Identifier.isValid c = true)
    (h : forEach (fun c => ctx.columnText c) columns = .ok names) : ∀ n ∈ names, Inert n :=
  forEach_all (fun c hm _ h => columnText_inert hp (.column (.bare (hc c hm))) (by simp) h) h

theorem insertClause_writes (hp : ctx.Plain) {q : InsertQuery} {ps : List Piece} (hq : q.Sound)
    (h : ctx.insertClause q = .ok ps) : Writes ps q.rowSites := by
  unfold insertClause at h
  simp only at h
  split at h
  next => cases h
  next =>
    obtain ⟨names, hn, h⟩ := bind_eq_ok_iff.mp h
    obtain ⟨rows, hr, h⟩ := bind_eq_ok_iff.mp h
    cases h
    have hlist : Inert (", ".intercalate names) :=
      .intercalate (by decide) (bareNames_inert hp hq.columns hn)
    have htable := Inert.lead (by decide : isPlainText "INSERT INTO " = true) (by decide)
      (tableText_inert hp hq.table)
    have hfront := (htable.join (by decide : isSpacer " (" = true) hlist).tail
      (by decide : isPlainText ") VALUES " = true) (by decide)
    have hrows := Writes.forEach (k := id) (by decide : isSpacer ", " = true)
      (fun row hm ps h => row_writes hp (hq.rows row hm) h) hr
    rw [List.map_id] at hrows
    exact .lead hfront (softEnd_toList_append (by decide)) hrows

theorem assignment_writes {values : Context} (hp : ctx.Plain) (hv : values.Plain)
    {update : String × Value} {ps : List Piece} (hn : Identifier.isValid update.1 = true)
    (hs : update.2.Sound) (h : ctx.assignment values update = .ok ps) :
    Writes ps update.2.sites := by
  obtain ⟨column, hc, h⟩ := bind_eq_ok_iff.mp h
  obtain ⟨p, hp', h⟩ := bind_eq_ok_iff.mp h
  cases h
  have hi := columnText_inert hp (.column (.bare hn)) (by simp) hc
  exact .lead (hi.tail (by decide) (by decide)) (softEnd_toList_append (by decide))
    (operand_writes hv hs hp')

theorem conflictTarget_inert (hp : ctx.Plain) {c : ConflictClause} {target : Option String}
    (hc : c.Sound) (h : ctx.conflictTarget c = .ok target) : ∀ t ∈ target, Inert t := by
  unfold conflictTarget at h
  split at h
  next name hname =>
    cases h
    intro t ht
    cases ht
    exact .lead (by decide) (by decide)
      (identifier_inert hp (hc.constraint name (mem_of_givenName hname)))
  next =>
    split at h
    next =>
      cases h
      simp
    next =>
      obtain ⟨names, hn, h⟩ := bind_eq_ok_iff.mp h
      cases h
      intro t ht
      cases ht
      have hlist : Inert (", ".intercalate names) :=
        .intercalate (by decide) (bareNames_inert hp hc.columns hn)
      exact .tail (.lead (by decide) (by decide) hlist) (by decide) (by decide)

/-- The scope of assignments changes nothing else. -/
theorem withExcluded_plain {values : Context} (hp : ctx.Plain)
    (h : ctx.withExcluded = .ok values) : values.Plain := by
  unfold withExcluded at h
  split at h
  next =>
    cases h
    exact hp
  next =>
    split at h
    next =>
      cases h
      exact hp
    next =>
      obtain ⟨scope, _, h⟩ := bind_eq_ok_iff.mp h
      cases h
      exact ⟨hp.dialect, hp.settings, hp.schema⟩

theorem conflictClause_writes (hp : ctx.Plain) {c : ConflictClause} {ps : List Piece}
    (hc : c.Sound) (h : ctx.conflictClause c = .ok ps) : Writes ps c.sites := by
  obtain ⟨values, hv, h⟩ := bind_eq_ok_iff.mp h
  obtain ⟨target, ht, h⟩ := bind_eq_ok_iff.mp h
  have htarget := conflictTarget_inert hp hc ht
  unfold ConflictClause.sites
  split at h
  next ha =>
    cases h
    rw [ha]
    exact .text (.of_plain (by decide))
  next t ha =>
    cases h
    rw [ha]
    exact .text (.tail (.lead (by decide) (by decide) (htarget t rfl)) (by decide) (by decide))
  next => cases h
  next t ha =>
    split at h
    next => cases h
    next =>
      obtain ⟨assignments, hf, h⟩ := bind_eq_ok_iff.mp h
      cases h
      have hu := hc.updates ha
      have hrows := Writes.forEach (k := id) (by decide : isSpacer ", " = true)
        (fun u hm ps h => assignment_writes hp (withExcluded_plain hp hv) (hu.valid u hm)
          (hu.values u hm) h) hf
      rw [List.map_id] at hrows
      rw [ha]
      exact .lead (.tail (.lead (by decide) (by decide) (htarget t rfl)) (by decide) (by decide))
        (softEnd_toList_append (by decide)) hrows

theorem insertClauses_write (hp : ctx.Plain) {q : InsertQuery} {xss : List (List Piece)}
    (hq : q.Sound) (h : ctx.insertClauses q = .ok xss) :
    WriteClauses xss (Statement.insert q).sites := by
  obtain ⟨insert, hi, h⟩ := bind_eq_ok_iff.mp h
  obtain ⟨conflict, hc, h⟩ := bind_eq_ok_iff.mp h
  obtain ⟨returning, hr, h⟩ := bind_eq_ok_iff.mp h
  cases h
  have hconflict : WriteClauses conflict (q.conflict.elim [] ConflictClause.sites) := by
    cases ho : q.conflict with
    | none =>
      rw [ho] at hc
      cases hc
      exact .nil
    | some c =>
      rw [ho] at hc
      obtain ⟨ps, hps, hc⟩ := bind_eq_ok_iff.mp hc
      cases hc
      exact .single (conflictClause_writes hp (hq.conflict c ho) hps)
  have hreturning : WriteClauses returning [] := by
    unfold returningClause at hr
    split at hr
    next =>
      cases hr
      exact .nil
    next =>
      obtain ⟨items, hi, hr⟩ := bind_eq_ok_iff.mp hr
      cases hr
      exact .single (.text (.lead (by decide) (by decide) (itemsText_inert hp hq.returning hi)))
  have hall := ((WriteClauses.single (insertClause_writes hp hq hi)).append hconflict).append
    hreturning
  rw [List.append_nil] at hall
  exact hall

end Context

end QueryBuilder
