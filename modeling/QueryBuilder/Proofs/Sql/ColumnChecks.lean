import QueryBuilder.Proofs.Condition.Factory
import QueryBuilder.Proofs.Sql.Alignment
import QueryBuilder.Proofs.Sql.Unchecked

/-!
Columns checked and not checked. A statement that compiles with checks compiles without them and
binds the same values. Its text is the same too, unless an empty array without a type is compared
with a bare column in a statement of several tables: the checks also find the owner of the column,
and with it the type.
-/
namespace QueryBuilder

theorem separated_recast {d : Dialect} {r : String → String → Prop} {w : String}
    {xss yss : List (List Piece)}
    (h : List.Forall₂ (List.Forall₂ (Piece.Recast d r)) xss yss) :
    List.Forall₂ (Piece.Recast d r) (Piece.separated w xss) (Piece.separated w yss) := by
  induction h with
  | nil => exact .nil
  | cons hx hr ih =>
    cases hr with
    | nil => exact hx
    | cons hy hr => exact List.rel_append hx (.cons (.same (.text w)) ih)

theorem bound_recast {d : Dialect} {r : String → String → Prop} {ps qs : List Piece}
    (h : List.Forall₂ (Piece.Recast d r) ps qs) : Piece.bound ps = Piece.bound qs := by
  induction h with
  | nil => rfl
  | cons hp _ ih =>
    rw [Piece.bound, List.flatMap_cons, Piece.bound, List.flatMap_cons]
    rw [Piece.bound, Piece.bound] at ih
    rw [ih]
    cases hp <;> rfl

theorem eq_of_recast {d : Dialect} {r : String → String → Prop} {ps qs : List Piece}
    (hr : ∀ t u, r t u → t = u) (h : List.Forall₂ (Piece.Recast d r) ps qs) : ps = qs := by
  induction h with
  | nil => rfl
  | cons hp _ ih =>
    rw [ih]
    cases hp with
    | same => rfl
    | emptyArray front ht => rw [hr _ _ ht]

theorem Piece.Recast.mono {d : Dialect} {r s : String → String → Prop} {p q : Piece}
    (h : p.Recast d r q) (hrs : ∀ t u, r t u → s t u) : p.Recast d s q := by
  cases h with
  | same => exact .same p
  | emptyArray front h => exact .emptyArray front (hrs _ _ h)

namespace Context

variable {ctx ctx' : Context} {r : String → String → Prop}

/-- An empty list in the filter is cast to related types, wherever one is. -/
def CastsRelated (ctx ctx' : Context) (r : String → String → Prop) (filter : Condition) : Prop :=
  ∀ d, .leaf d ∈ filter.layout .root → d.CastsEmpty → ∀ c c', ctx.ArrayColumn d c →
    c.Blurs ctx.scope.tables c' → r (ctx.elementType c) (ctx'.elementType c')

theorem withAlias_unchecked (h : ctx.Unchecks ctx') : ctx'.withAlias = ctx.withAlias := by
  funext name aliasName
  rw [withAlias, withAlias, h.dialect]

theorem itemsText_unchecked (h : ctx.Unchecks ctx') (items : List SelectItem) :
    Narrows Error.IsUnresolved Eq (ctx.itemsText items) (ctx'.itemsText items) := by
  have hitem : ∀ i, Narrows Error.IsUnresolved Eq (ctx.itemText i) (ctx'.itemText i) := by
    intro i
    rw [itemText, itemText, withAlias_unchecked h]
    exact (columnText_unchecked h i.name none []).andThen_eq _
  exact (Narrows.forEach_eq fun i _ => hitem i).andThen_eq _

theorem tableText_unchecked (h : ctx.Unchecks ctx') (t : TableRef) :
    ctx'.tableText t = ctx.tableText t := by
  rw [tableText, tableText, withAlias_unchecked h, h.dialect]

theorem joinClause_unchecked (h : ctx.Unchecks ctx') (j : Join) :
    Narrows Error.IsUnresolved Eq (ctx.joinClause j) (ctx'.joinClause j) := by
  have hroot : ctx'.scope.root? = ctx.scope.root? := by
    rw [Scope.root?, Scope.root?, h.scope.tables]
  unfold joinClause
  rw [hroot, tableText_unchecked h]
  exact (columnText_unchecked h _ _ []).bind_eq fun _ =>
    (columnText_unchecked h _ _ []).andThen_eq _

theorem orderClause_unchecked (h : ctx.Unchecks ctx') (names : List String)
    (orderBy : List OrderItem) :
    Narrows Error.IsUnresolved Eq (ctx.orderClause names orderBy)
      (ctx'.orderClause names orderBy) := by
  unfold orderClause
  split
  next => exact .ok rfl
  next =>
    have hitem : ∀ o, Narrows Error.IsUnresolved Eq (ctx.orderItem names o)
        (ctx'.orderItem names o) := fun o =>
      (columnText_unchecked h o.column none names).andThen_eq _
    exact (Narrows.forEach_eq fun o _ => hitem o).andThen_eq _

theorem filterClause_unchecked (h : ctx.Unchecks ctx') {filter : Option Condition}
    (hcast : ∀ c ∈ filter, ctx.CastsRelated ctx' r c) :
    Narrows Error.IsUnresolved (List.Forall₂ (List.Forall₂ (Piece.Recast ctx.dialect r)))
      (ctx.filterClause filter) (ctx'.filterClause filter) := by
  cases filter with
  | none => exact .ok .nil
  | some c =>
    exact (predicate_unchecked h (hcast c rfl)).bind fun _ _ hps =>
      .ok (.cons (.cons (.same _) hps) .nil)

theorem clauses_recast {d : Dialect} (xss : List (List Piece)) :
    List.Forall₂ (List.Forall₂ (Piece.Recast d r)) xss xss :=
  List.forall₂_same.mpr fun _ _ => recast_same rfl

theorem selectClauses_unchecked (h : ctx.Unchecks ctx') {q : SelectQuery}
    (hcast : ∀ c ∈ q.filter, ctx.CastsRelated ctx' r c) :
    Narrows Error.IsUnresolved (List.Forall₂ (List.Forall₂ (Piece.Recast ctx.dialect r)))
      (ctx.selectClauses q) (ctx'.selectClauses q) := by
  have hselect : Narrows Error.IsUnresolved Eq (ctx.selectClause q.items)
      (ctx'.selectClause q.items) := by
    unfold selectClause
    split
    next => exact .ok rfl
    next => exact (itemsText_unchecked h q.items).andThen_eq _
  unfold selectClauses
  rw [tableText_unchecked h]
  refine hselect.bind_eq fun select => ?_
  refine (Narrows.forEach_eq fun j _ => joinClause_unchecked h j).bind_eq fun joins => ?_
  refine (filterClause_unchecked h hcast).bind fun filter filter' hfilter => ?_
  refine (orderClause_unchecked h _ q.orderBy).bind_eq fun order => ?_
  refine .bind_same fun limit _ => .bind_same fun offset _ => .ok ?_
  exact List.rel_append (List.rel_append (List.rel_append (List.rel_append (clauses_recast _)
    hfilter) (clauses_recast _)) (clauses_recast _)) (clauses_recast _)

theorem columnTexts_unchecked (h : ctx.Unchecks ctx') (columns : List String) :
    Narrows Error.IsUnresolved Eq (forEach (fun c => ctx.columnText c) columns)
      (forEach (fun c => ctx'.columnText c) columns) :=
  .forEach_eq fun c _ => columnText_unchecked h c none []

theorem insertClause_unchecked (h : ctx.Unchecks ctx') (q : InsertQuery) :
    Narrows Error.IsUnresolved Eq (ctx.insertClause q) (ctx'.insertClause q) := by
  have hcell : ∀ row c, Narrows Error.IsUnresolved Eq (ctx.cell row c) (ctx'.cell row c) := by
    intro row c
    unfold cell
    split
    next v _ => exact operand_unchecked h v
    next => exact .ok rfl
  have hrow : ∀ row, Narrows Error.IsUnresolved Eq (ctx.row q.columns row)
      (ctx'.row q.columns row) := fun row =>
    (Narrows.forEach_eq fun c _ => hcell row c).andThen_eq _
  have htext : ctx'.insertText = ctx.insertText := by
    funext t names rows
    rw [insertText, insertText, tableText_unchecked h]
  unfold insertClause
  rw [htext]
  simp only
  split
  next => exact .fail _
  next =>
    exact (columnTexts_unchecked h q.columns).bind_eq fun names =>
      (Narrows.forEach_eq fun row _ => hrow row).andThen_eq _

theorem withExcluded_unchecked (h : ctx.Unchecks ctx') :
    Narrows Error.IsUnresolved Unchecks ctx.withExcluded ctx'.withExcluded := by
  have hqualifiers : ctx'.scope.qualifiers = ctx.scope.qualifiers := by
    rw [Scope.qualifiers, Scope.qualifiers, h.scope.tables]
  unfold withExcluded
  rw [Scope.root?, Scope.root?, h.scope.tables, hqualifiers]
  split
  next => exact .ok h
  next =>
    split
    next => exact .ok h
    next => exact (Scope.add_unchecked h.scope _).bind fun _ _ hs => .ok ⟨h.dialect, hs⟩

theorem conflictTarget_unchecked (h : ctx.Unchecks ctx') (c : ConflictClause) :
    Narrows Error.IsUnresolved Eq (ctx.conflictTarget c) (ctx'.conflictTarget c) := by
  unfold conflictTarget
  rw [h.dialect]
  split
  next => exact .ok rfl
  next =>
    split
    next => exact .ok rfl
    next => exact (columnTexts_unchecked h c.columns).andThen_eq _

theorem conflictClause_unchecked (h : ctx.Unchecks ctx') (c : ConflictClause) :
    Narrows Error.IsUnresolved Eq (ctx.conflictClause c) (ctx'.conflictClause c) := by
  refine (withExcluded_unchecked h).bind fun values values' hv =>
    (conflictTarget_unchecked h c).bind_eq fun target => ?_
  have hassignment : ∀ u, Narrows Error.IsUnresolved Eq (ctx.assignment values u)
      (ctx'.assignment values' u) := fun u => (columnText_unchecked h u.1 none []).bind_eq fun _ =>
      (operand_unchecked hv u.2).andThen_eq _
  split
  next => exact .ok rfl
  next => exact .ok rfl
  next => exact .fail _
  next =>
    split
    next => exact .fail _
    next => exact (Narrows.forEach_eq fun u _ => hassignment u).andThen_eq _

theorem insertClauses_unchecked (h : ctx.Unchecks ctx') (q : InsertQuery) :
    Narrows Error.IsUnresolved Eq (ctx.insertClauses q) (ctx'.insertClauses q) := by
  have hconflict : Narrows Error.IsUnresolved Eq (ctx.conflictClauses q.conflict)
      (ctx'.conflictClauses q.conflict) := by
    unfold conflictClauses
    split
    next => exact .ok rfl
    next c _ => exact (conflictClause_unchecked h c).andThen_eq _
  have hreturning : Narrows Error.IsUnresolved Eq (ctx.returningClause q.returning)
      (ctx'.returningClause q.returning) := by
    unfold returningClause
    split
    next => exact .ok rfl
    next => exact (itemsText_unchecked h q.returning).andThen_eq _
  exact (insertClause_unchecked h q).bind_eq fun _ => hconflict.bind_eq fun _ =>
    hreturning.andThen_eq _

end Context

/-- The column of a condition on arrays is named without a qualifier. -/
def Condition.HasBareColumn : Condition → Prop
  | .array column _ _ _ => (referenceOf column).qualifier = none
  | .draft .array fields => ∀ name, fields.lookup "column" = some (.str name) →
      (referenceOf name).qualifier = none
  | _ => False

theorem parse_eq_referenceOf {name : String} {r : ColumnReference}
    (h : ColumnReference.parse name = .ok r) : r = referenceOf name := by
  obtain ⟨_, hc, _⟩ := bind_eq_ok_iff.mp h
  rw [ColumnReference.parse_eq_ok (checkColumnName_eq_ok_iff.mp hc)] at h
  exact (Except.ok.inj h).symm

theorem Scope.resolveName_reference {s : Scope} {name : String} {c : ResolvedColumn}
    (h : s.resolveName name = .ok c) : c.reference = referenceOf name := by
  obtain ⟨r, hr, h⟩ := bind_eq_ok_iff.mp h
  rw [resolve_reference h, Option.elim_none, ite_self, parse_eq_referenceOf hr]

theorem Context.ArrayColumn.hasBareColumn {ctx : Context} {d : Condition} {c : ResolvedColumn}
    (h : ctx.ArrayColumn d c) (hc : c.reference.qualifier = none) : d.HasBareColumn := by
  unfold Context.ArrayColumn at h
  split at h
  next column _ _ _ =>
    rw [Condition.HasBareColumn, ← Scope.resolveName_reference h]
    exact hc
  next fields =>
    intro name hname
    obtain ⟨v, hv, h⟩ := bind_eq_ok_iff.mp h
    cases (lookup_of_get hv).symm.trans hname
    rw [← Scope.resolveName_reference h]
    exact hc
  next => exact h.elim

namespace Statement

/-- One of several tables may own a bare column that an empty array without a type is compared
with. -/
def CastsByOwner : Statement → Prop
  | .select q => q.tables.length ≠ 1 ∧ ∃ c ∈ q.filter, ∃ d, .leaf d ∈ c.layout .root ∧
      d.CastsEmpty ∧ d.HasBareColumn
  | .insert _ => False

end Statement

namespace Client

section

variable {client client' : Client}

/-- The second client writes like the first and has no schema to check columns by. -/
structure Unchecks (client client' : Client) : Prop where
  dialect : client'.dialect = client.dialect
  schema : client'.settings.checkColumns = true → client'.schema = none

theorem context_unchecked (h : client.Unchecks client') (tables : List TableRef) :
    Narrows Error.IsUnresolved Context.Unchecks (client.context tables)
      (client'.context tables) := by
  have hschema : (if client'.settings.checkColumns then client'.schema else none) = none := by
    split
    next hcheck => exact h.schema hcheck
    next => rfl
  have hstart : Scope.Unchecks
      ⟨[], if client.settings.checkColumns then client.schema else none⟩
      ⟨[], if client'.settings.checkColumns then client'.schema else none⟩ := ⟨rfl, hschema⟩
  exact (Scope.addAll_unchecked hstart tables).bind fun _ _ hs => .ok ⟨h.dialect, hs⟩

theorem clauses_narrowed (h : client.Unchecks client') {s : Statement}
    {r : String → String → Prop}
    (hcast : ∀ q, s = .select q → ∀ ctx ctx', client.context q.tables = .ok ctx →
      client'.context q.tables = .ok ctx' → ∀ c ∈ q.filter, ctx.CastsRelated ctx' r c) :
    Narrows Error.IsUnresolved (List.Forall₂ (List.Forall₂ (Piece.Recast client.dialect r)))
      (client.clauses s) (client'.clauses s) := by
  cases s with
  | select q =>
    refine (context_unchecked h q.tables).bind_ok fun ctx ctx' hctx hctx' hu => ?_
    rw [← (context_eq_ok hctx).1]
    exact Context.selectClauses_unchecked hu (hcast q rfl ctx ctx' hctx hctx')
  | insert q =>
    refine (context_unchecked h [q.table]).bind fun ctx ctx' hu =>
      (Context.insertClauses_unchecked hu q).mono fun xss yss heq => ?_
    subst heq
    exact Context.clauses_recast xss

end

variable {settings : Settings} {schema : Option Schema}

/-- The types are the same, or the second is the default in the place of one that the schema
gives. -/
def DefaultsTo (settings : Settings) (schema : Option Schema) (t u : String) : Prop :=
  t = u ∨ u = settings.elementType ∧ ∃ d ∈ schema, ∃ table column,
    d.elementType? table column = some t

/-- A client that checks columns, and the same client without the checks. -/
def checking (settings : Settings) (schema : Option Schema) (b : Bool) : Client :=
  ofSettings { settings with checkColumns := b } schema

variable {tables : List TableRef} {ctx ctx' : Context} {c c' : ResolvedColumn}

/-- The element type of a column is the same without checks, unless the column is bare and one of
several tables owns it. -/
theorem elementType_unchecked (h : (checking settings schema true).context tables = .ok ctx)
    (h' : (checking settings schema false).context tables = .ok ctx')
    (hc : c.Blurs ctx.scope.tables c') :
    ctx.elementType c = ctx'.elementType c' ∨ c.reference.qualifier = none ∧ tables.length ≠ 1 ∧
      DefaultsTo settings schema (ctx.elementType c) (ctx'.elementType c') := by
  obtain ⟨_, hs, hd, ht⟩ := context_eq_ok h
  obtain ⟨_, hs', hd', _⟩ := context_eq_ok h'
  rcases hc.table with htable | ⟨hbare, hl, htable⟩
  · refine Or.inl ?_
    rw [Context.elementType, Context.elementType, hs, hs', hd, hd', hc.reference, htable]
    rfl
  · refine Or.inr ⟨hbare, ht ▸ hl, ?_⟩
    -- The type is still looked up without checks, but there is no table to look it up in.
    have hdefault : ctx'.elementType c' = settings.elementType := by
      rw [Context.elementType, hs', hd', htable]
      cases schema <;> rfl
    rw [hdefault, Context.elementType, hs, hd]
    cases hf : (do
      let d ← schema
      let table ← c.table
      givenName (d.elementType? table.name c.reference.column)) with
    | none =>
      refine Or.inl ?_
      rw [checking, ofSettings, hf]
      rfl
    | some t =>
      rw [checking, ofSettings, hf]
      obtain ⟨d, hschema, hf⟩ := Option.bind_eq_some_iff.mp hf
      obtain ⟨table, _, hf⟩ := Option.bind_eq_some_iff.mp hf
      exact Or.inr ⟨rfl, d, hschema, table.name, _, (Option.filter_eq_some_iff.mp hf).1⟩

theorem clauses_unchecked (s : Statement) :
    Refines (List.Forall₂ (List.Forall₂ (Piece.Recast (Dialect.postgres settings.quoteReserved)
        fun t u => t = u ∨ s.CastsByOwner ∧ DefaultsTo settings schema t u)))
      ((checking settings schema true).clauses s) ((checking settings schema false).clauses s) := by
  have h : Unchecks (checking settings schema true) (checking settings schema false) :=
    ⟨rfl, fun hcheck => by cases hcheck⟩
  refine (clauses_narrowed h ?_).refines
  rintro q rfl ctx ctx' hctx hctx' c hc d hd hempty column column' hcolumn hblurs
  rcases elementType_unchecked hctx hctx' hblurs with heq | ⟨hbare, hl, hr⟩
  · exact Or.inl heq
  · exact Or.inr ⟨⟨hl, c, hc, d, hd, hempty, hcolumn.hasBareColumn hbare⟩, hr⟩

/-- Checks of columns only refuse: what compiles with them compiles without them, with the same
parameters. An empty array in the text may have the default type in the place of the one that the
schema gives for its column, but only if the column is bare and one of several tables owns it. -/
theorem compile_unchecked {s : Statement} {c : Compiled}
    (h : (checking settings schema true).compile s = .ok c) :
    ∃ c', (checking settings schema false).compile s = .ok c' ∧ c'.parameters = c.parameters ∧
      (¬ s.CastsByOwner → c'.sql = c.sql) ∧
      ∃ ps ps', c = .ofPieces (Dialect.postgres settings.quoteReserved) ps ∧
        c' = .ofPieces (Dialect.postgres settings.quoteReserved) ps' ∧
        List.Forall₂ (Piece.Recast (Dialect.postgres settings.quoteReserved)
          (DefaultsTo settings schema)) ps ps' := by
  obtain ⟨ps, hps, rfl⟩ := map_eq_ok_iff.mp h
  obtain ⟨xss, hxss, rfl⟩ := map_eq_ok_iff.mp hps
  obtain ⟨yss, hyss, hr⟩ := clauses_unchecked s xss hxss
  -- One relation of pieces serves twice: parameters always agree, texts where it is equality.
  have hpieces := separated_recast (w := " ") hr
  refine ⟨_, map_eq_ok_iff.mpr ⟨_, map_eq_ok_iff.mpr ⟨yss, hyss, rfl⟩, rfl⟩,
    (bound_recast hpieces).symm, fun hs => ?_, _, _, rfl, rfl, ?_⟩
  · have heq := eq_of_recast (fun t u ht => ht.resolve_right fun hd => hs hd.1) hpieces
    rw [heq]
    rfl
  · exact hpieces.imp fun p q hpq => hpq.mono fun t u ht => ht.elim Or.inl And.right

/-- Two tables, of which only the second has the column that is compared with an empty list. -/
def labelledSchema : Schema :=
  ⟨[⟨"users", [⟨"id", "integer", false⟩]⟩,
    ⟨"posts", [⟨"author", "integer", false⟩, ⟨"labels", "integer[]", true⟩]⟩]⟩

def labelledQuery : SelectQuery :=
  { table := ⟨"users", none⟩
    joins := [⟨.inner, ⟨"posts", none⟩, "id", "author"⟩]
    filter := some (.array "labels" .contains (.list []) none) }

theorem labelledQuery_built : (Statement.select labelledQuery).Built := by
  have hstart : SelectBuilder.start (.str "users") =
      .ok ⟨{ table := ⟨"users", none⟩ }, { tables := [⟨"users", none⟩] }⟩ :=
    SelectBuilder.start_bare (by decide) (by decide) (by decide)
  have hjoin : SelectBuilder.apply ⟨{ table := ⟨"users", none⟩ }, { tables := [⟨"users", none⟩] }⟩
      (.join .inner (.str "posts") (.str "id") (.str "author")) =
      .ok ⟨{ table := ⟨"users", none⟩, joins := [⟨.inner, ⟨"posts", none⟩, "id", "author"⟩] },
        { tables := [⟨"users", none⟩, ⟨"posts", none⟩] }⟩ := by
    rw [SelectBuilder.apply, TableRef.parse_bare (by decide) (by decide) (by decide),
      plainColumn_bare (by decide) (by decide) (by decide),
      plainColumn_bare (by decide) (by decide) (by decide)]
    rfl
  have harray : (ArrayColumn.mk (.str "labels") .null).apply .contains (.list []) =
      .ok (.condition (.array "labels" .contains (.list []) none)) :=
    ArrayColumn.apply_of_isColumnName (.bare (by decide)) rfl
  have hmade : (Value.condition (.array "labels" .contains (.list []) none)).Made := by
    refine .of_make (fun f hf => ?_) harray
    simp only [List.mem_cons, List.not_mem_nil, or_false] at hf
    rcases hf with rfl | rfl | rfl | rfl
    · exact .atom rfl
    · exact .atom rfl
    · exact .sequence rfl (by simp)
    · exact .atom rfl
  have hreached := ((SelectBuilder.Reached.start hstart).apply (by trivial) hjoin).filter hmade rfl
  exact .select hreached

/-- The text of a statement, if it compiles. -/
def text? (client : Client) (s : Statement) : Option String :=
  (client.compile s).toOption.map Compiled.sql

theorem text?_eq_some_iff {client : Client} {s : Statement} {text : String} :
    client.text? s = some text ↔ ∃ c, client.compile s = .ok c ∧ c.sql = text := by
  unfold text?
  cases client.compile s <;> simp [Except.toOption]

theorem labelledQuery_checked :
    (checking {} (some labelledSchema) true).text? (.select labelledQuery) =
      some ("SELECT * FROM users INNER JOIN posts ON users.id = posts.author " ++
        "WHERE labels @> ARRAY[]::integer[]") := by
  decide +kernel

theorem labelledQuery_unchecked :
    (checking {} (some labelledSchema) false).text? (.select labelledQuery) =
      some ("SELECT * FROM users INNER JOIN posts ON users.id = posts.author " ++
        "WHERE labels @> ARRAY[]::text[]") := by
  decide +kernel

/-- The text is not always the same without checks. -/
theorem text_differs_labelledQuery : ¬ ∀ (settings : Settings) (schema : Option Schema)
    (s : Statement) (c : Compiled), s.Built → (checking settings schema true).compile s = .ok c →
    ∃ c', (checking settings schema false).compile s = .ok c' ∧ c'.sql = c.sql ∧
      c'.parameters = c.parameters := by
  intro h
  obtain ⟨c, hc, htext⟩ := text?_eq_some_iff.mp labelledQuery_checked
  obtain ⟨d, hd, htext'⟩ := text?_eq_some_iff.mp labelledQuery_unchecked
  obtain ⟨c', hc', hsame, _⟩ := h _ _ _ _ labelledQuery_built hc
  cases hd.symm.trans hc'
  rw [htext, htext'] at hsame
  revert hsame
  decide

theorem compile_unchecked_labelledQuery : ∃ c c',
    (checking {} (some labelledSchema) true).compile (.select labelledQuery) = .ok c ∧
      (checking {} (some labelledSchema) false).compile (.select labelledQuery) = .ok c' ∧
      c'.parameters = c.parameters := by
  obtain ⟨c, hc, _⟩ := text?_eq_some_iff.mp labelledQuery_checked
  obtain ⟨c', hc', hp, _⟩ := compile_unchecked hc
  exact ⟨c, c', hc, hc', hp⟩

end Client

end QueryBuilder
