import QueryBuilder.Proofs.Sql.Alignment
import QueryBuilder.Proofs.Sql.Rendering
import QueryBuilder.Proofs.Sql.SelectTexts

/-!
What the text of a SELECT says. Where reserved words are quoted, two queries with one text have the
same clauses: no name and no key can be taken for a keyword.
-/
namespace QueryBuilder

open Text

namespace Context

variable {ctx : Context} {text : String}

theorem withAlias_eq (hd : ctx.dialect = Dialect.postgres true) (name : String)
    {aliasName : Option String} (ha : ∀ a ∈ aliasName, Identifier.isValid a = true) :
    ctx.withAlias name aliasName = sentence (aliasedParts name aliasName) := by
  rw [withAlias, givenName_eq_self ha, hd]
  cases aliasName with
  | none => simp [sentence, aliasedParts]
  | some a =>
    apply String.toList_injective
    simp [sentence, aliasedParts, toString]

theorem tableText_eq (hd : ctx.dialect = Dialect.postgres true) {t : TableRef} (h : t.WellNamed) :
    ctx.tableText t = sentence t.parts := by
  rw [tableText, withAlias_eq hd _ fun a ha => (h.aliasName a ha).1, hd]
  rfl

/-- A column is written as its name, with a default behind its qualifier or the default. -/
theorem columnText_eq (hd : ctx.dialect = Dialect.postgres true) {name : String}
    {default? : Option String} {extra : List String}
    (hq : ∀ q ∈ default?, Identifier.isValid q = true)
    (h : ctx.columnText name default? extra = .ok text) :
    text = writtenName (default?.elim name (qualifiedBy · name)) := by
  obtain ⟨column, hr, h⟩ := bind_eq_ok_iff.mp h
  cases h
  rw [resolvedText, referenceText_eq hd, Scope.resolveName_text hq hr]

theorem itemText_eq (hd : ctx.dialect = Dialect.postgres true) {i : SelectItem} (hi : i.WellNamed)
    (h : ctx.itemText i = .ok text) : text = sentence i.parts := by
  obtain ⟨name, hn, h⟩ := bind_eq_ok_iff.mp h
  cases h
  rw [withAlias_eq hd _ fun a ha => (hi.aliasName a ha).1, columnText_eq hd (by simp) hn]
  rfl

theorem selectClause_eq (hd : ctx.dialect = Dialect.postgres true) {q : SelectQuery} (hq : q.Sound)
    (filter : Option String) (h : ctx.selectClause q.items = .ok text) :
    text = clauseText ("SELECT", (q.texts filter).items) := by
  unfold selectClause at h
  unfold SelectQuery.texts SelectQuery.selected
  split at h
  next he =>
    cases h
    simp only [he, if_true]
    decide
  next he =>
    obtain ⟨list, hl, h⟩ := bind_eq_ok_iff.mp h
    obtain ⟨texts, ht, hl⟩ := bind_eq_ok_iff.mp hl
    cases h
    cases hl
    rw [forEach_eq_map (fun i hi _ h => itemText_eq hd (hq.items i hi) h) ht]
    simp only [he]
    rfl

theorem joinClause_eq (hd : ctx.dialect = Dialect.postgres true) {root : TableRef} {j : Join}
    (hroot : ctx.scope.root? = some root) (hr : root.WellNamed) (ht : j.table.WellNamed)
    (h : ctx.joinClause j = .ok text) :
    text = clauseText (j.kind.text, sentence (j.qualified root).parts) := by
  obtain ⟨left, hl, h⟩ := bind_eq_ok_iff.mp h
  obtain ⟨right, hr', h⟩ := bind_eq_ok_iff.mp h
  cases h
  rw [hroot] at hl
  rw [columnText_eq hd (by simpa using hr.qualifier) hl,
    columnText_eq hd (by simpa using ht.qualifier) hr', tableText_eq hd ht]
  have hne : j.table.parts ≠ [] := by simp [TableRef.parts, aliasedParts]
  have hparts : sentence (j.qualified root).parts = "JOIN " ++ sentence j.table.parts ++ " ON " ++
      writtenName (qualifiedBy root.qualifier j.left) ++ " = " ++
      writtenName (qualifiedBy j.table.qualifier j.right) := by
    simp only [sentence, Join.parts, Join.qualified]
    rw [String.intercalate_append_of_ne_nil (by simp) (by simp),
      String.intercalate_cons_of_ne_nil hne]
    apply String.toList_injective
    simp
  rw [hparts]
  apply String.toList_injective
  simp [clauseText, toString]

theorem orderItem_eq (hd : ctx.dialect = Dialect.postgres true) {outputNames : List String}
    {o : OrderItem} (h : ctx.orderItem outputNames o = .ok text) : text = sentence o.parts := by
  obtain ⟨column, hc, h⟩ := bind_eq_ok_iff.mp h
  cases h
  rw [columnText_eq hd (by simp) hc]
  apply String.toList_injective
  simp [sentence, OrderItem.parts, toString]

theorem orderClause_eq (hd : ctx.dialect = Dialect.postgres true) {q : SelectQuery}
    {outputNames : List String} (filter : Option String) {pss : List (List Piece)}
    (h : ctx.orderClause outputNames q.orderBy = .ok pss) :
    pss = ((q.texts filter).order.toList.map fun s => clauseText ("ORDER", s)).map
      fun s => [.text s] := by
  unfold orderClause at h
  unfold SelectQuery.texts
  split at h
  next he =>
    cases h
    simp only [he, if_true]
    rfl
  next he =>
    obtain ⟨parts, hp, h⟩ := bind_eq_ok_iff.mp h
    cases h
    rw [forEach_eq_map (fun o _ _ h => orderItem_eq hd h) hp]
    simp only [he]
    apply congrArg fun s => [[Piece.text s]]
    apply String.toList_injective
    simp [clauseText]

/-- The clause of the filter, which begins with WHERE and in which no other begins. -/
theorem filterClause_eq (hd : ctx.dialect = Dialect.postgres true) {filter : Option Condition}
    (hs : ∀ c ∈ filter, c.Sound) (hp : ∀ c ∈ filter, ∀ d ∈ c.leaves, d.IsPlainLeaf)
    {pss : List (List Piece)} (h : ctx.filterClause filter = .ok pss) (offset : Nat) :
    ∃ body : Option String, body.isSome = filter.isSome ∧ (∀ s ∈ body, IsBody s) ∧
      Piece.renderEach (Dialect.postgres true) offset pss =
        body.toList.map fun s => clauseText ("WHERE", s) := by
  cases filter with
  | none =>
    cases h
    exact ⟨none, rfl, by simp, rfl⟩
  | some c =>
    obtain ⟨ps, hc, h⟩ := bind_eq_ok_iff.mp h
    cases h
    have hbody := predicate_isBody hd (hs c rfl) (hp c rfl) hc
    exact ⟨some _, rfl, fun s hs => Option.mem_some.mp hs ▸ hbody.rendered offset, rfl⟩

theorem joinClauses_eq (hd : ctx.dialect = Dialect.postgres true) {q : SelectQuery}
    (hroot : ctx.scope.root? = some q.table) (hq : q.Sound) (filter : Option String)
    {joins : List String} (h : forEach ctx.joinClause q.joins = .ok joins) :
    joins = (q.texts filter).joins.map fun j => clauseText (j.1.text, j.2) := by
  rw [forEach_eq_map (fun j hj _ h => joinClause_eq hd hroot hq.root
    (hq.tables _ (SelectQuery.joined_mem_tables hj)) h) h]
  simp [SelectQuery.texts, SelectQuery.qualifiedJoins, Join.qualified, Function.comp_def]

theorem countClause_eq (word : String) (n : Option Nat) :
    n.toList.map (fun n => [Piece.text (word ++ " " ++ toString n)]) =
      ((n.map Nat.repr).toList.map fun s => clauseText (word, s)).map fun s => [.text s] := by
  cases n <;> rfl

/-- The text of a query is that of its clauses, and no clause begins in its filter. -/
theorem selectClauses_text (hd : ctx.dialect = Dialect.postgres true) {q : SelectQuery}
    (hroot : ctx.scope.root? = some q.table) (hq : q.Sound)
    (hp : ∀ c ∈ q.filter, ∀ d ∈ c.leaves, d.IsPlainLeaf) {pss : List (List Piece)}
    (h : ctx.selectClauses q = .ok pss) :
    ∃ body : Option String, body.isSome = q.filter.isSome ∧ (∀ s ∈ body, IsBody s) ∧
      Piece.renderAll (Dialect.postgres true) 0 (Piece.separated " " pss) =
        (q.texts body).text := by
  obtain ⟨select, joins, filter, order, hselect, hjoins, hfilter, horder, rfl⟩ :=
    selectClauses_eq_ok h
  have hlimit := countClause_eq "LIMIT" q.limit
  have hoffset := countClause_eq "OFFSET" q.offset
  obtain ⟨body, hsome, hbody, hrender⟩ := filterClause_eq hd hq.filter hp hfilter
    (0 + (Piece.bound ((select :: ("FROM " ++ ctx.tableText q.table) :: joins).map
      fun s => [.text s]).flatten).length)
  refine ⟨body, hsome, hbody, ?_⟩
  rw [Piece.renderAll_separated, SelectTexts.text, hlimit, hoffset,
    orderClause_eq hd body horder]
  simp only [Piece.renderEach_append, Piece.renderEach_texts, hrender]
  rw [selectClause_eq hd hq body hselect, tableText_eq hd hq.root,
    joinClauses_eq hd hroot hq body hjoins]
  have hfrom : "FROM " ++ sentence q.table.parts = clauseText ("FROM", (q.texts body).table) := rfl
  simp only [hfrom, SelectTexts.clauses, SelectQuery.texts, List.map_append, List.map_cons,
    List.map_map, Function.comp_def]

end Context

namespace SelectQuery

/-- The query is made by the builder, without fragments and empty arrays, and has the text for some
client that quotes reserved words. -/
structure HasText (q : SelectQuery) (text : String) : Prop where
  built : (Statement.select q).Built
  plain : ∀ d ∈ (Statement.select q).leaves, d.IsPlainLeaf
  compiled : ∃ (settings : Settings) (schema : Option Schema) (c : Compiled),
    settings.quoteReserved = true ∧
      (Client.ofSettings settings schema).compile (.select q) = .ok c ∧ c.sql = text

theorem HasText.sound {q : SelectQuery} {text : String} (h : q.HasText text) : q.Sound :=
  h.built.sound

theorem HasText.texts {q : SelectQuery} {text : String} (h : q.HasText text) :
    ∃ body : Option String, body.isSome = q.filter.isSome ∧ (∀ s ∈ body, IsBody s) ∧
      (q.texts body).text = text := by
  obtain ⟨settings, schema, c, hquote, hc, rfl⟩ := h.compiled
  obtain ⟨ps, hps, rfl⟩ := map_eq_ok_iff.mp hc
  obtain ⟨pss, hpss, rfl⟩ := map_eq_ok_iff.mp hps
  obtain ⟨ctx, hctx, hpss⟩ := bind_eq_ok_iff.mp hpss
  obtain ⟨hdialect, _, _, htables⟩ := Client.context_eq_ok hctx
  have hd : ctx.dialect = Dialect.postgres true := by rw [hdialect, ← hquote]; rfl
  have hroot : ctx.scope.root? = some q.table := by rw [Scope.root?, htables]; rfl
  have hplain : ∀ c ∈ q.filter, ∀ d ∈ c.leaves, d.IsPlainLeaf := by
    intro c hc d hm
    refine h.plain d ?_
    rw [Statement.leaves, Option.mem_def.mp hc]
    exact hm
  obtain ⟨body, hsome, hbody, htext⟩ := Context.selectClauses_text hd hroot h.sound hplain hpss
  refine ⟨body, hsome, hbody, htext.symm.trans ?_⟩
  rw [← hquote]
  rfl

/-- The text of a SELECT determines its clauses. Two queries that have one text have the same table,
joins, select list, sort and bounds, and both or none of them have a filter. -/
theorem sameClauses_of_hasText {q r : SelectQuery} {text : String} (hq : q.HasText text)
    (hr : r.HasText text) : q.SameClauses r := by
  obtain ⟨f, hf, hfbody, hqt⟩ := hq.texts
  obtain ⟨g, hg, hgbody, hrt⟩ := hr.texts
  have hclauses : (q.texts f).clauses = (r.texts g).clauses :=
    clauses_injective (texts_isClause hq.sound hfbody) (texts_isClause hr.sound hgbody)
      (by simp [SelectTexts.clauses]) (by simp [SelectTexts.clauses]) (hqt.trans hrt.symm)
  exact sameClauses_of_texts hq.sound hr.sound hf hg (SelectTexts.eq_of_clauses hclauses)

/-- Reserved words for names, and a key that reads like another clause. -/
def reservedQuery (items : List SelectItem) (value : String) : SelectQuery :=
  { table := ⟨"order", none⟩
    joins := [⟨.left, ⟨"limit", some "l"⟩, "id", "offset"⟩]
    items
    filter := some (.jsonb "from" .fieldEquals ["' LIMIT 1"] (.str value)) }

theorem reservedQuery_built {items : List SelectItem} (hi : items = [] ∨ items = [⟨"*", none⟩])
    (value : String) : (Statement.select (reservedQuery items value)).Built := by
  have horder : TableRef.parse (.str "order") = .ok ⟨"order", none⟩ :=
    TableRef.parse_bare (by decide) (by decide) (by decide)
  have hlimit : TableRef.parse (.str "limit AS l") = .ok ⟨"limit", some "l"⟩ :=
    TableRef.parse_aliased rfl (by decide) (by decide) (by decide) rfl rfl rfl
  have hstart : SelectBuilder.start (.str "order") =
      .ok ⟨{ table := ⟨"order", none⟩ }, { tables := [⟨"order", none⟩] }⟩ :=
    SelectBuilder.start_bare (by decide) (by decide) (by decide)
  have hjoin : SelectBuilder.apply
      ⟨{ table := ⟨"order", none⟩ }, { tables := [⟨"order", none⟩] }⟩
      (.join .left (.str "limit AS l") (.str "id") (.str "offset")) =
      .ok ⟨{ reservedQuery [] value with filter := none },
        { tables := [⟨"order", none⟩, ⟨"limit", some "l"⟩] }⟩ := by
    rw [SelectBuilder.apply, hlimit, plainColumn_bare (by decide) (by decide) (by decide),
      plainColumn_bare (by decide) (by decide) (by decide)]
    rfl
  have hfield : (JsonbField.mk (.str "from") ["' LIMIT 1"]).apply .fieldEquals (.str value) =
      .ok (.condition (.jsonb "from" .fieldEquals ["' LIMIT 1"] (.str value))) :=
    JsonbField.apply_of_isColumnName (.bare (by decide)) (by decide) rfl
  have hmade := Term.field_apply_made (.atom rfl) (.atom rfl) hfield
  have hcall : SelectCall.Made (.join .left (.str "limit AS l") (.str "id") (.str "offset")) :=
    trivial
  have hall : SelectCall.Made .allColumns := trivial
  have hjoined := (SelectBuilder.Reached.start hstart).apply hcall hjoin
  rcases hi with rfl | rfl
  · exact .select (hjoined.filter hmade rfl)
  · exact .select ((hjoined.apply hall rfl).filter hmade rfl)

theorem reservedQuery_hasText {items : List SelectItem} {value text : String}
    (hi : items = [] ∨ items = [⟨"*", none⟩])
    (ht : ((Client.ofSettings {} none).compile
      (.select (reservedQuery items value))).toOption.map Compiled.sql = some text) :
    (reservedQuery items value).HasText text := by
  refine ⟨reservedQuery_built hi value, fun d hd => ?_, {}, none, ?_⟩
  · cases List.mem_singleton.mp hd
    exact ⟨by simp [Condition.sites, JsonbOperator.sites, Site.IsValue], id⟩
  · cases hc : (Client.ofSettings {} none).compile (.select (reservedQuery items value)) with
    | error e => simp [hc, Except.toOption] at ht
    | ok c => exact ⟨c, rfl, rfl, by simpa [hc, Except.toOption] using ht⟩

def reservedText : String :=
  "SELECT * FROM \"order\" LEFT JOIN \"limit\" AS l ON \"order\".id = l.\"offset\" " ++
    "WHERE \"from\" ->> ''' LIMIT 1' = $1"

/-- Queries for all columns, in two ways and for two values. -/
theorem sameClauses_of_hasText_reservedQuery :
    (reservedQuery [] "a").HasText reservedText ∧
      (reservedQuery [⟨"*", none⟩] "b").HasText reservedText ∧
      (reservedQuery [] "a").SameClauses (reservedQuery [⟨"*", none⟩] "b") := by
  have ha : (reservedQuery [] "a").HasText reservedText :=
    reservedQuery_hasText (.inl rfl) (by decide +kernel)
  have hb : (reservedQuery [⟨"*", none⟩] "b").HasText reservedText :=
    reservedQuery_hasText (.inr rfl) (by decide +kernel)
  exact ⟨ha, hb, sameClauses_of_hasText ha hb⟩

end SelectQuery

end QueryBuilder
