import QueryBuilder.Proofs.Condition.Factory
import QueryBuilder.Proofs.Sql.Alignment
import QueryBuilder.Proofs.Sql.ClauseBlame

/-!
Without a schema, a statement compiles just if every column in it has a qualifier that is admissible
there and no number in it is too long, and is refused for one of them.
-/
namespace QueryBuilder

/-- The name and the alias of a table that is aliased and has the given name. -/
def TableRef.aliased? (q : String) (t : TableRef) : Option (String × String) :=
  (givenName t.aliasName).bind fun a => if t.name == q then some (t.name, a) else none

theorem TableRef.aliased?_eq_some {q table a : String} {t : TableRef}
    (h : t.aliased? q = some (table, a)) : table = q ∧ t.name = q ∧ a ∈ t.aliasName := by
  obtain ⟨b, hb, h⟩ := Option.bind_eq_some_iff.mp h
  split at h
  next hname =>
    cases h
    have hq := beq_iff_eq.mp hname
    exact ⟨hq, hq, mem_of_givenName hb⟩
  next => cases h

theorem TableRef.aliased?_of_ne {q : String} {t : TableRef} (h : t.name ≠ q) :
    t.aliased? q = none := by
  simp [aliased?, h]

theorem TableRef.WellNamed.aliased? {q : String} {t : TableRef} (hw : t.WellNamed)
    (hname : t.name = q) (ha : t.aliasName ≠ none) : (t.aliased? q).isSome = true := by
  obtain ⟨a, ha⟩ := Option.ne_none_iff_exists'.mp ha
  rw [TableRef.aliased?, hw.givenName, ha]
  simp [hname]

namespace Scope

theorem qualifierError_eq {s : Scope} {name q : String} (hn : IsItemName name) :
    s.qualifierError (referenceOf name) q = (s.tables.findSome? (TableRef.aliased? q)).elim
      (.unresolved (.str name) (.unknownQualifier q) s.qualifiers)
      fun p => .aliasedTable name p.1 p.2 := by
  rw [qualifierError, text_referenceOf hn]
  split
  next table a h =>
    change s.tables.findSome? (TableRef.aliased? q) = some (table, a) at h
    rw [h]
    rfl
  next h =>
    change s.tables.findSome? (TableRef.aliased? q) = none at h
    rw [h]
    rfl

/-- The error about a qualifier is about the tables of the statement, if those that were added
carry no further names. -/
theorem qualifierError_rejected {s : Scope} {tables added : List TableRef}
    (hs : s.tables = tables ++ added) (hw : ∀ t ∈ tables, t.WellNamed)
    (ha : ∀ u ∈ added, ∃ t ∈ tables, t.name = u.name) {name q : String} (hn : IsItemName name)
    (hq : (referenceOf name).qualifier = some q) (hm : q ∉ s.qualifiers) :
    (⟨name, s.qualifiers⟩ : ColumnUse).Rejected tables
      (s.qualifierError (referenceOf name) q) := by
  refine ⟨q, hq, hm, ?_⟩
  have haliased : ∀ t ∈ tables, t.name = q → t.aliasName ≠ none := by
    intro t ht hname hnone
    have hqualifier : t.qualifier = q := by
      rw [TableRef.qualifier, hnone]
      exact hname
    refine hm (List.mem_map.mpr ⟨t, ?_, hqualifier⟩)
    rw [hs]
    exact List.mem_append_left _ ht
  rw [qualifierError_eq hn, hs, List.findSome?_append]
  by_cases hname : ∃ t ∈ tables, t.name = q
  · obtain ⟨t, ht, hname⟩ := hname
    have hsome : (tables.findSome? (TableRef.aliased? q)).isSome = true :=
      List.findSome?_isSome_iff.mpr ⟨t, ht, (hw t ht).aliased? hname (haliased t ht hname)⟩
    obtain ⟨⟨table, a⟩, hfound⟩ := Option.isSome_iff_exists.mp hsome
    obtain ⟨u, hu, hfu⟩ := List.exists_of_findSome?_eq_some hfound
    obtain ⟨rfl, hname, halias⟩ := TableRef.aliased?_eq_some hfu
    rw [hfound]
    exact Or.inl ⟨u, hu, hname, a, halias, rfl⟩
  · push Not at hname
    have htables : tables.findSome? (TableRef.aliased? q) = none :=
      List.findSome?_eq_none_iff.mpr fun t ht => TableRef.aliased?_of_ne (hname t ht)
    have hadded : added.findSome? (TableRef.aliased? q) = none := by
      refine List.findSome?_eq_none_iff.mpr fun u hu => TableRef.aliased?_of_ne ?_
      obtain ⟨t, ht, he⟩ := ha u hu
      exact he ▸ hname t ht
    rw [htables, hadded]
    exact Or.inr ⟨fun t ht he => absurd he (hname t ht), rfl⟩

end Scope

namespace Context

/-- The faults of columns in a scope are those of the statement that it was made for. -/
theorem faults_rejected {ctx : Context} {tables added : List TableRef}
    (hschema : ctx.scope.schema = none) (hs : ctx.scope.tables = tables ++ added)
    (hw : ∀ t ∈ tables, t.WellNamed) (ha : ∀ u ∈ added, ∃ t ∈ tables, t.name = u.name) :
    ctx.Faults fun n => (⟨n, ctx.scope.qualifiers⟩ : ColumnUse).Rejected tables where
  schema := hschema
  bare := by
    rintro name hnone e ⟨q, hq, _⟩
    rw [hnone] at hq
    cases hq
  known := by
    rintro name q hsome hmem e ⟨r, hr, hm, _⟩
    cases hsome.symm.trans hr
    exact hm hmem
  unknown := Scope.qualifierError_rejected hs hw ha

end Context

namespace Scope

theorem addAll_of_nodup {s : Scope} {tables : List TableRef}
    (h : (s.qualifiers ++ tables.map TableRef.qualifier).Nodup) :
    s.addAll tables = .ok { s with tables := s.tables ++ tables } := by
  induction tables generalizing s with
  | nil => simp [addAll]
  | cons t ts ih =>
    have hnew : t.qualifier ∉ s.qualifiers := by
      rw [List.nodup_append] at h
      exact fun hm => h.2.2 _ hm _ (by simp) rfl
    have hadd : s.add t = .ok { s with tables := s.tables ++ [t] } :=
      add_eq_ok_iff.mpr ⟨hnew, rfl⟩
    have hrest : ({ s with tables := s.tables ++ [t] } : Scope).addAll ts =
        .ok { s with tables := s.tables ++ [t] ++ ts } := by
      refine ih ?_
      simpa [qualifiers] using h
    rw [addAll, hadd]
    simpa using hrest

end Scope

namespace Context

variable {ctx : Context} {t : TableRef}

/-- The values that a conflict clause assigns know the table and the row that was not inserted. -/
theorem withExcluded_of_table (ht : ctx.scope.tables = [t]) :
    ∃ values added, ctx.withExcluded = .ok values ∧ values.scope.schema = ctx.scope.schema ∧
      values.scope.tables = [t] ++ added ∧ (∀ u ∈ added, u.name = t.name) ∧
      values.scope.qualifiers = [t.qualifier, "excluded"].eraseDups := by
  have hroot : ctx.scope.root? = some t := by rw [Scope.root?, ht, List.head?_cons]
  have hqualifiers : ctx.scope.qualifiers = [t.qualifier] := by
    rw [Scope.qualifiers, ht]
    rfl
  unfold withExcluded
  rw [hroot, hqualifiers]
  by_cases he : t.qualifier = "excluded"
  · refine ⟨ctx, [], ?_, rfl, ht, by simp, ?_⟩
    · simp [he]
    · rw [hqualifiers, he]
      rfl
  · have hadd : ctx.scope.add ⟨t.name, some "excluded"⟩ =
        .ok { ctx.scope with tables := ctx.scope.tables ++ [⟨t.name, some "excluded"⟩] } := by
      refine Scope.add_eq_ok_iff.mpr ⟨?_, rfl⟩
      rw [hqualifiers, List.mem_singleton]
      exact fun h => he h.symm
    refine ⟨{ ctx with
        scope := { ctx.scope with tables := ctx.scope.tables ++ [⟨t.name, some "excluded"⟩] } },
      [⟨t.name, some "excluded"⟩], ?_, rfl, by rw [ht], by simp, ?_⟩
    · have hne : ([t.qualifier].contains "excluded") = false := by
        simpa using fun h => he h.symm
      simp only [hne, hadd]
      rfl
    · have hnew : ("excluded" == t.qualifier) = false := beq_eq_false_iff_ne.mpr (Ne.symm he)
      have hexcluded : TableRef.qualifier ⟨t.name, some "excluded"⟩ = "excluded" := rfl
      simp [Scope.qualifiers, ht, hexcluded, List.eraseDups_cons, hnew]

end Context

namespace Client

variable {client : Client}

theorem context_of_nodup (hc : client.settings.checkColumns = true → client.schema = none)
    {tables : List TableRef} (h : (tables.map TableRef.qualifier).Nodup) :
    client.context tables =
      .ok ⟨client.dialect, ⟨tables, none⟩, client.settings, client.schema⟩ := by
  have hschema : (if client.settings.checkColumns then client.schema else none) = none := by
    split
    next hcheck => exact hc hcheck
    next => rfl
  have hadd := Scope.addAll_of_nodup (s := ⟨[], none⟩) (by simpa [Scope.qualifiers] using h)
  unfold context scope
  rw [hschema, hadd]
  rfl

/-- The context of a statement whose columns are not checked against a schema. -/
def uncheckedContext (client : Client) (tables : List TableRef) : Context :=
  ⟨client.dialect, ⟨tables, none⟩, client.settings, client.schema⟩

theorem uncheckedContext_faults (client : Client) {tables : List TableRef}
    (hw : ∀ t ∈ tables, t.WellNamed) :
    (client.uncheckedContext tables).Faults fun n =>
      (⟨n, tables.map TableRef.qualifier⟩ : ColumnUse).Rejected tables := by
  have hs : (client.uncheckedContext tables).scope.tables = tables ++ [] :=
    (List.append_nil tables).symm
  exact Context.faults_rejected rfl hs hw (by simp)

/-- A table under an alias, and a filter that uses the name of the table instead. -/
def aliasedQuery : SelectQuery :=
  { table := ⟨"users", some "u"⟩, filter := some (.comparison "users.age" .greater (.int 18)) }

theorem aliasedQuery_built : (Statement.select aliasedQuery).Built := by
  have hstart : SelectBuilder.start (.str "users AS u") =
      .ok ⟨{ table := ⟨"users", some "u"⟩ }, { tables := [⟨"users", some "u"⟩] }⟩ := by
    have hparse : TableRef.parse (.str "users AS u") = .ok ⟨"users", some "u"⟩ :=
      TableRef.parse_aliased rfl (by decide) (by decide) (by decide) rfl rfl rfl
    rw [SelectBuilder.start, hparse]
    rfl
  have hname : IsColumnName ("users" ++ "." ++ "age") := .qualified (by decide) (by decide)
  have hcompare : (Value.condition (.comparison "users.age" .greater (.int 18))).Made :=
    .of_compare (.atom rfl) (.atom rfl) (.atom rfl) (hname.compare rfl)
  exact .select ((SelectBuilder.Reached.start hstart).filter hcompare rfl)

/-- A fragment that has no column, but a number of five thousand digits. -/
def longQuery : SelectQuery :=
  { table := ⟨"users", none⟩, filter := some (.raw Text.longPlaceholder []) }

theorem longQuery_built : (Statement.select longQuery).Built := by
  have hstart : SelectBuilder.start (.str "users") =
      .ok ⟨{ table := ⟨"users", none⟩ }, { tables := [⟨"users", none⟩] }⟩ :=
    SelectBuilder.start_bare (by decide) (by decide) (by decide)
  have hvisible : Text.isBlankText Text.longPlaceholder = false :=
    Text.isBlankText_cons (by decide) _
  have hmade : (Value.condition (.raw Text.longPlaceholder [])).Made := by
    refine .of_make (fun f hf => ?_) (sqlWith_of_visible hvisible [])
    rcases List.mem_pair.mp hf with rfl | rfl
    · exact .atom rfl
    · exact .sequence rfl (by simp)
  exact .select ((SelectBuilder.Reached.start hstart).filter hmade rfl)

theorem longQuery_refused :
    (ofSettings {} none).compile (.select longQuery) = .error .tooManyDigits := by
  let ctx := (ofSettings {} none).uncheckedContext [⟨"users", none⟩]
  have hleaf : ctx.token (.leaf (.raw Text.longPlaceholder [])) = .error .tooManyDigits := by
    rw [Context.token, Context.leaf, Piece.fragment_of_unreadable Text.longPlaceholder_unreadable]
    rfl
  have hpredicate : ctx.predicate (.raw Text.longPlaceholder []) = .error .tooManyDigits :=
    map_eq_error_iff.mpr (bind_eq_error_iff.mpr (Or.inl hleaf))
  have hfilter : ctx.filterClause longQuery.filter = .error .tooManyDigits :=
    bind_eq_error_iff.mpr (Or.inl hpredicate)
  have hclauses : ctx.selectClauses longQuery = .error .tooManyDigits :=
    bind_eq_error_iff.mpr (Or.inr ⟨"SELECT *", rfl, bind_eq_error_iff.mpr (Or.inr ⟨[], rfl,
      bind_eq_error_iff.mpr (Or.inl hfilter)⟩)⟩)
  exact map_eq_error_iff.mpr (map_eq_error_iff.mpr
    (bind_eq_error_iff.mpr (Or.inr ⟨ctx, rfl, hclauses⟩)))

end Client

end QueryBuilder
