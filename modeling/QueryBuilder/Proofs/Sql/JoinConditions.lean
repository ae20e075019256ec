import QueryBuilder.Proofs.Sql.Qualifiers

/-!
The tables that the condition of a join names in the text of a SELECT. A side is looked up among all
tables of the statement, so it may name a table that is joined only later.
-/
namespace QueryBuilder

open Text

/-- A column behind the qualifier of a table. -/
def columnOf (quoteReserved : Bool) (t : TableRef) (column : String) : String :=
  t.emitted quoteReserved ++ "." ++ (Dialect.postgres quoteReserved).identifier column

/-- A join whose condition compares a column of one table with a column of another. -/
def Join.written (quoteReserved : Bool) (j : Join) (left right : TableRef) : String :=
  j.kind.text ++ " JOIN " ++ j.table.written quoteReserved ++ " ON " ++
    columnOf quoteReserved left (referenceOf j.left).column ++ " = " ++
    columnOf quoteReserved right (referenceOf j.right).column

/-- The table that a side of a condition names. A bare side names the given table, any other the one
whose qualifier it has. The table is not among those seen so far just if it is one of the later
tables by its qualifier. -/
structure IsSideOf (seen later : List TableRef) (bare : TableRef) (side : String) (t : TableRef) :
    Prop where
  mem : t ∈ seen ++ later
  bare : (referenceOf side).qualifier = none → t = bare
  qualified : ∀ q ∈ (referenceOf side).qualifier, t.qualifier = q
  joined : t ∈ seen ↔ ∀ u ∈ later, (referenceOf side).qualifier ≠ some u.qualifier

/-- A resolved column belongs to the table that has its qualifier, or the default one. -/
theorem Scope.resolve_default {s : Scope} {r : ColumnReference} {qualifier : String}
    {column : ResolvedColumn} (h : s.resolve r (some qualifier) = .ok column) :
    ∃ t ∈ s.tables, t.qualifier = r.qualifier.getD qualifier := by
  unfold resolve at h
  split at h
  next q hr =>
    rw [hr]
    split at h
    next => cases h
    next t ht => exact ⟨t, mem_of_find? ht⟩
  next hr =>
    rw [hr]
    simp only at h
    split at h
    next => cases h
    next t ht => exact ⟨t, mem_of_find? ht⟩

namespace Context

variable {ctx : Context} {quoteReserved : Bool}

theorem referenceText_qualifiedBy (hd : ctx.dialect = Dialect.postgres quoteReserved)
    {name : String} {t : TableRef} {qualifier : String} (hn : IsItemName name)
    (hq : Identifier.isValid qualifier = true)
    (ht : t.qualifier = (referenceOf name).qualifier.getD qualifier) :
    ctx.referenceText (qualifiedBy qualifier name) =
      columnOf quoteReserved t (referenceOf name).column := by
  have two : ∀ {q c : String}, Identifier.isValid q = true →
      (c = "*" ∨ Identifier.isValid c = true) →
      ctx.referenceText (q ++ "." ++ c) = (Dialect.postgres quoteReserved).identifier q ++ "." ++
        (Dialect.postgres quoteReserved).identifier c := by
    intro q c hq hc
    have hdot : '.' ∉ c.toList := by
      rcases hc with rfl | hc
      · decide
      · exact Identifier.dot_notMem hc
    rw [referenceText, parts_append (Identifier.dot_notMem hq) hdot, hd]
    simp
  rw [columnOf, TableRef.emitted, ht]
  rcases hn.reference with ⟨hr, hc⟩ | ⟨q, c, rfl, hr, hv, hc⟩
  · rw [qualifiedBy, hr]
    exact two hq hc
  · rw [qualifiedBy, hr]
    exact two hv hc

/-- Where there is a table to go by, a column is written behind the qualifier of a table. -/
theorem columnText_default (hd : ctx.dialect = Dialect.postgres quoteReserved)
    {name qualifier text : String} (hq : Identifier.isValid qualifier = true)
    (h : ctx.columnText name (some qualifier) = .ok text) :
    ∃ t ∈ ctx.scope.tables, t.qualifier = (referenceOf name).qualifier.getD qualifier ∧
      text = columnOf quoteReserved t (referenceOf name).column := by
  obtain ⟨column, hr, h⟩ := bind_eq_ok_iff.mp h
  cases h
  have hn := Scope.resolveName_isItemName hr
  have htext := Scope.resolveName_text (by simpa using hq) hr
  rw [Scope.resolveName, ColumnReference.parse_eq_ok hn] at hr
  obtain ⟨t, hm, ht⟩ := Scope.resolve_default hr
  exact ⟨t, hm, ht, by rw [resolvedText, htext]; exact referenceText_qualifiedBy hd hn hq ht⟩

end Context

/-- A side is looked up by its qualifier, so it names the one table that has it. -/
theorem isSideOf_of_qualifier {seen later : List TableRef} {bare t : TableRef} {side : String}
    (hn : ((seen ++ later).map TableRef.qualifier).Nodup) (hb : bare ∈ seen)
    (ht : t ∈ seen ++ later) (hq : t.qualifier = (referenceOf side).qualifier.getD bare.qualifier) :
    IsSideOf seen later bare side t := by
  have hbare : (referenceOf side).qualifier = none → t = bare := by
    intro h
    rw [h] at hq
    exact List.inj_on_of_nodup_map hn ht (List.mem_append_left later hb) hq
  have hqualified : ∀ q ∈ (referenceOf side).qualifier, t.qualifier = q := by
    intro q h
    rw [hq, Option.mem_def.mp h]
    rfl
  refine ⟨ht, hbare, hqualified, fun hseen u hu h => ?_, fun h => ?_⟩
  · have htu := List.inj_on_of_nodup_map hn ht (List.mem_append_right seen hu) (hqualified _ h)
    exact List.disjoint_of_nodup_append (List.Nodup.of_map _ hn) hseen (htu ▸ hu)
  · refine (List.mem_append.mp ht).elim id fun hlater => ?_
    cases hr : (referenceOf side).qualifier with
    | none => exact hbare hr ▸ hb
    | some q => exact absurd (hr.trans (congrArg some (hqualified q hr).symm)) (h t hlater)

/-- The text joins a table where both sides of the condition name tables. -/
def SelectQuery.JoinsAt (q : SelectQuery) (quoteReserved : Bool) (i : Nat) (j : Join)
    (text : String) : Prop :=
  ∃ left right, IsSideOf (q.tables.take (i + 2)) (q.tables.drop (i + 2)) q.table j.left left ∧
    IsSideOf (q.tables.take (i + 2)) (q.tables.drop (i + 2)) j.table j.right right ∧
    text = j.written quoteReserved left right

theorem SelectQuery.joined_mem_take {q : SelectQuery} {i : Nat} {j : Join}
    (h : q.joins[i]? = some j) : j.table ∈ q.tables.take (i + 2) := by
  have hi : (q.tables.take (i + 2))[i + 1]? = some j.table := by
    simp [tables, h]
  exact List.mem_of_getElem? hi

theorem Context.joinClause_joinsAt {ctx : Context} {quoteReserved : Bool} {q : SelectQuery}
    (hd : ctx.dialect = Dialect.postgres quoteReserved) (hs : ctx.scope.tables = q.tables)
    (hw : ∀ t ∈ q.tables, t.WellNamed) (hn : (q.tables.map TableRef.qualifier).Nodup) {i : Nat}
    {j : Join} {text : String} (hj : q.joins[i]? = some j) (h : ctx.joinClause j = .ok text) :
    q.JoinsAt quoteReserved i j text := by
  have hroot : ctx.scope.root?.map TableRef.qualifier = some q.table.qualifier := by
    rw [Scope.root?, hs]
    rfl
  rw [joinClause, hroot] at h
  obtain ⟨left, hleft, h⟩ := bind_eq_ok_iff.mp h
  obtain ⟨right, hright, h⟩ := bind_eq_ok_iff.mp h
  cases h
  have hjoined := SelectQuery.joined_mem_take hj
  obtain ⟨t, ht, htq, rfl⟩ := columnText_default hd (hw _ q.table_mem_tables).qualifier hleft
  obtain ⟨u, hu, huq, rfl⟩ :=
    columnText_default hd (hw _ (List.mem_of_mem_take hjoined)).qualifier hright
  rw [hs] at ht hu
  rw [← List.take_append_drop (i + 2) q.tables] at ht hu hn
  refine ⟨t, u, isSideOf_of_qualifier hn (by simp [SelectQuery.tables]) ht htq,
    isSideOf_of_qualifier hn hjoined hu huq, ?_⟩
  rw [tableText_eq_written hd]
  simp [Join.written, toString]

namespace SelectBuilder

/-- The text joins the tables in their order, and both sides of every condition name tables. -/
def JoinsTables (b : SelectBuilder) (quoteReserved : Bool) (sql : String) : Prop :=
  ∃ select joins more, joins.length = b.query.joins.length ∧
    (∀ i j text, b.query.joins[i]? = some j → joins[i]? = some text →
      b.query.JoinsAt quoteReserved i j text) ∧
    sql = " ".intercalate
      (select :: ("FROM " ++ b.query.table.written quoteReserved) :: joins ++ more)

/-- After any calls each side of a condition names a table of the query: one that is joined only
later if the side has the qualifier of such a table, else one that is seen so far. -/
theorem run_joinsTables {table : Value} {b : SelectBuilder} (h : start table = .ok b)
    (calls : List SelectCall) {settings : Settings} {schema : Option Schema} {c : Compiled}
    (hc : (Client.ofSettings settings schema).compile (.select (b.run calls).query) = .ok c) :
    (b.run calls).JoinsTables settings.quoteReserved c.sql := by
  have hstep := (run_inStep (start_inStep h) calls).1
  obtain ⟨ctx, select, joins, more, hctx, hjoins, hsql⟩ := Client.compile_select hc
  obtain ⟨hd, _, _, htables⟩ := Client.context_eq_ok hctx
  refine ⟨select, joins, more, length_forEach hjoins, fun i j text hj htext => ?_, hsql⟩
  obtain ⟨hi, rfl⟩ := List.getElem?_eq_some_iff.mp hj
  obtain ⟨hi', rfl⟩ := List.getElem?_eq_some_iff.mp htext
  exact Context.joinClause_joinsAt hd htables (run_wellNamed h calls) hstep.qualifiers hj
    ((forEach_eq_ok_iff.mp hjoins).get hi hi')

def laterJoins : List SelectCall :=
  [.join .inner (.str "posts") (.str "comments.post") (.str "id"),
    .join .inner (.str "comments") (.str "id") (.str "author")]

/-- What the calls lead to: the first join names a table that only the second one joins. -/
def laterQuery : SelectQuery :=
  { table := ⟨"users", none⟩
    joins := [⟨.inner, ⟨"posts", none⟩, "comments.post", "id"⟩,
      ⟨.inner, ⟨"comments", none⟩, "id", "author"⟩] }

def later (joins : List Join) : SelectBuilder :=
  ⟨{ laterQuery with joins }, { tables := { laterQuery with joins }.tables }⟩

theorem start_later : start (.str "users") = .ok (later []) :=
  start_bare (by decide) (by decide) (by decide)

theorem run_laterJoins : (later []).run laterJoins = later laterQuery.joins := by
  have hname : IsColumnName "comments.post" :=
    @IsColumnName.qualified "comments" "post" (by decide) (by decide)
  have hpost : plainColumn .join (.str "comments.post") = .ok "comments.post" :=
    plainColumn_eq_ok_iff.mpr ⟨rfl, hname, by decide⟩
  have hposts : (later []).apply (.join .inner (.str "posts") (.str "comments.post") (.str "id")) =
      .ok (later [⟨.inner, ⟨"posts", none⟩, "comments.post", "id"⟩]) := by
    rw [apply, TableRef.parse_bare (by decide) (by decide) (by decide), hpost,
      plainColumn_bare (by decide) (by decide) (by decide)]
    rfl
  have hcomments : (later [⟨.inner, ⟨"posts", none⟩, "comments.post", "id"⟩]).apply
      (.join .inner (.str "comments") (.str "id") (.str "author")) =
      .ok (later laterQuery.joins) := by
    rw [apply, TableRef.parse_bare (by decide) (by decide) (by decide),
      plainColumn_bare (by decide) (by decide) (by decide),
      plainColumn_bare (by decide) (by decide) (by decide)]
    rfl
  simp only [laterJoins, run, hposts, hcomments]

theorem run_joinsTables_laterJoins : ∃ b c, start (.str "users") = .ok b ∧
    (Client.ofSettings {} none).compile (.select (b.run laterJoins).query) = .ok c ∧
    (b.run laterJoins).JoinsTables true c.sql := by
  have hc : ∃ c, (Client.ofSettings {} none).compile
      (.select ((later []).run laterJoins).query) = .ok c := by
    rw [run_laterJoins]
    exact ⟨_, rfl⟩
  obtain ⟨c, hc⟩ := hc
  have hjoins := run_joinsTables start_later laterJoins hc
  exact ⟨_, c, start_later, hc, hjoins⟩

/-- A condition that names a table which is joined only later. -/
theorem compile_unseen_laterQuery : ∃ b c, start (.str "users") = .ok b ∧
    (b.run laterJoins).query = laterQuery ∧
    (Client.ofSettings {} none).compile (.select laterQuery) = .ok c ∧
    c.sql = " ".intercalate ["SELECT *", "FROM users",
      "INNER JOIN posts ON comments.post = posts.id",
      "INNER JOIN comments ON users.id = comments.author"] ∧
    ∃ j, laterQuery.joins[0]? = some j ∧ ¬ ∃ left ∈ laterQuery.tables.take 2,
      ∃ right ∈ laterQuery.tables.take 2,
        "INNER JOIN posts ON comments.post = posts.id" = j.written true left right := by
  have hquery : ((later []).run laterJoins).query = laterQuery := by
    rw [run_laterJoins]
    rfl
  refine ⟨_, _, start_later, hquery, rfl, by decide +kernel, _, rfl, ?_⟩
  decide +kernel

end SelectBuilder

end QueryBuilder
