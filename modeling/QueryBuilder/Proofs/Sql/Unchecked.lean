import QueryBuilder.Proofs.Refines
import QueryBuilder.Proofs.Sql.LeafAlike
import QueryBuilder.Proofs.Sql.LeafBlame

/-!
Columns without a schema to check them by. What is resolved in a scope with a schema is resolved in
the same scope without it and written in the same way; only the table of a bare column is no longer
known, and with it the element type of an empty array. What is refused with a schema is refused
without it as well, unless it is a column that belongs to no table.
-/
namespace QueryBuilder

/-- The error is about a column that belongs to none of the tables. -/
def Error.IsUnresolved (e : Error) : Prop :=
  ∃ reference fault candidates, e = .unresolved reference fault candidates

/-- The scopes have the same tables, and the second has no schema. -/
structure Scope.Unchecks (s s' : Scope) : Prop where
  tables : s'.tables = s.tables
  schema : s'.schema = none

/-- A column of some tables, resolved with and without a schema. The table is the same, unless the
column is bare and there are several tables, or none, that it may belong to. -/
structure ResolvedColumn.Blurs (tables : List TableRef) (c c' : ResolvedColumn) : Prop where
  reference : c'.reference = c.reference
  table : c'.table = c.table ∨
    c.reference.qualifier = none ∧ tables.length ≠ 1 ∧ c'.table = none

namespace ResolvedColumn

theorem Blurs.refl (tables : List TableRef) (c : ResolvedColumn) : c.Blurs tables c :=
  ⟨rfl, Or.inl rfl⟩

end ResolvedColumn

namespace Scope

variable {s s' : Scope}

theorem owner_of_single {t u : TableRef} {schema : Schema} {columns : List (String × TableRef)}
    (h : describedColumns schema [t] = some columns) {name : String}
    (hu : u ∈ owners columns name) : u = t := by
  obtain ⟨info, _, h⟩ := Option.bind_eq_some_iff.mp h
  obtain ⟨rest, hrest, h⟩ := Option.bind_eq_some_iff.mp h
  cases hrest
  cases h
  simp only [owners, columnsOf, List.append_nil, List.mem_map, List.mem_filter] at hu
  obtain ⟨_, ⟨⟨_, _, rfl⟩, _⟩, rfl⟩ := hu
  rfl

/-- A bare column belongs to the only table, whether it is looked up or not. -/
theorem ownerOfBare_single {t : TableRef} (ht : s.tables = [t]) {column : String} {name : Value}
    {owner : Option TableRef} (h : s.ownerOfBare column name = .ok owner) : owner = some t := by
  unfold ownerOfBare at h
  rw [ht] at h
  split at h
  next =>
    cases h
    rfl
  next columns hcolumns =>
    rw [columns?, ht] at hcolumns
    split at hcolumns
    next => cases hcolumns
    next =>
      split at h
      next => cases h
      next u hu =>
        cases h
        have hmem : u ∈ owners columns column := by simp [hu]
        rw [owner_of_single hcolumns hmem]
      next => cases h

/-- Without a schema, the table of a bare column is the only one or is not known. -/
theorem ownerOfBare_of_schema (hs : s.schema = none) (column : String) (name : Value) :
    ∃ owner, s.ownerOfBare column name = .ok owner ∧ (s.tables.length ≠ 1 → owner = none) := by
  have hcolumns : s.columns? = none := by rw [columns?, hs]
  unfold ownerOfBare
  rw [hcolumns]
  simp only
  split
  next t ht => exact ⟨some t, rfl, by simp [ht]⟩
  next => exact ⟨none, rfl, fun _ => rfl⟩

theorem checkColumn_error {t : TableRef} {r : ColumnReference} {e : Error}
    (h : s.checkColumn t r = .error e) : e.IsUnresolved := by
  unfold checkColumn at h
  split at h
  next => cases h
  next =>
    split at h
    next => cases h
    next =>
      cases h
      exact ⟨_, _, _, rfl⟩

theorem ownerOfBare_error {column : String} {name : Value} {e : Error}
    (h : s.ownerOfBare column name = .error e) : e.IsUnresolved := by
  unfold ownerOfBare at h
  split at h
  next => split at h <;> cases h
  next =>
    split at h
    next =>
      cases h
      exact ⟨_, _, _, rfl⟩
    next => cases h
    next =>
      cases h
      exact ⟨_, _, _, rfl⟩

theorem ownerOfBare_unchecked (h : s.Unchecks s') (column : String) (name : Value) :
    Narrows Error.IsUnresolved (fun t t' => t' = t ∨ s.tables.length ≠ 1 ∧ t' = none)
      (s.ownerOfBare column name) (s'.ownerOfBare column name) := by
  refine ⟨fun owner howner => ?_, fun e he => Or.inl (ownerOfBare_error he)⟩
  obtain ⟨owner', howner', hnone⟩ := ownerOfBare_of_schema h.schema column name
  refine ⟨owner', howner', ?_⟩
  -- With one table both know the owner, with several only the scope with a schema can.
  by_cases hl : s.tables.length = 1
  · obtain ⟨t, ht⟩ := List.length_eq_one_iff.mp hl
    have ht' : s'.tables = [t] := h.tables.trans ht
    exact Or.inl ((ownerOfBare_single ht' howner').trans (ownerOfBare_single ht howner).symm)
  · exact Or.inr ⟨hl, hnone (h.tables ▸ hl)⟩

theorem resolve_unchecked (h : s.Unchecks s') (r : ColumnReference) (default? : Option String)
    (extra : List String) :
    Narrows Error.IsUnresolved (ResolvedColumn.Blurs s.tables) (s.resolve r default? extra)
      (s'.resolve r default? extra) := by
  have hfind : ∀ q, s'.find? q = s.find? q := fun q => by rw [find?, find?, h.tables]
  have herror : ∀ q, s'.qualifierError r q = s.qualifierError r q := fun q => by
    rw [qualifierError, qualifierError, qualifiers, qualifiers, h.tables]
  have hcheck : ∀ (t : TableRef) {column : ResolvedColumn},
      Narrows Error.IsUnresolved (ResolvedColumn.Blurs s.tables)
        (s.checkColumn t r >>= fun _ => .ok column)
        (s'.checkColumn t r >>= fun _ => .ok column) := by
    intro t column
    rw [checkColumn_of_schema h.schema]
    cases hc : s.checkColumn t r with
    | error e => exact .refuse (checkColumn_error hc)
    | ok => exact .ok (.refl _ column)
  unfold resolve
  cases hq : r.qualifier with
  | some q =>
    simp only [hfind, herror]
    cases s.find? q with
    | none => exact .fail _
    | some t => exact hcheck t
  | none =>
    cases default? with
    | some q =>
      simp only [hfind]
      cases s.find? q with
      | none => exact .refuse ⟨_, _, _, rfl⟩
      | some t => exact hcheck t
    | none =>
      simp only
      split
      next => exact .ok (.refl _ _)
      next =>
        refine (ownerOfBare_unchecked h r.column (.str r.text)).bind fun t t' ht => .ok ⟨rfl, ?_⟩
        exact ht.imp id fun hnone => ⟨hq, hnone⟩

theorem resolveName_unchecked (h : s.Unchecks s') (name : String) (default? : Option String)
    (extra : List String) :
    Narrows Error.IsUnresolved (ResolvedColumn.Blurs s.tables) (s.resolveName name default? extra)
      (s'.resolveName name default? extra) :=
  .bind_same fun r _ => resolve_unchecked h r default? extra

theorem resolveValue_unchecked (h : s.Unchecks s') (name : Value) (extra : List String) :
    Narrows Error.IsUnresolved (ResolvedColumn.Blurs s.tables) (s.resolveValue name extra)
      (s'.resolveValue name extra) := by
  unfold resolveValue
  split
  next text => exact resolveName_unchecked h text none extra
  next =>
    split
    next => exact .fail _
    next => exact .fail _
  next =>
    split
    next => exact .fail _
    next => exact .fail _
  next =>
    split
    next => exact .fail _
    next text _ =>
      refine .bind_same fun _ _ => ?_
      split
      next => exact .ok (.refl _ _)
      next =>
        refine (ownerOfBare_unchecked h text name).bind fun t t' ht => .ok ⟨rfl, ?_⟩
        exact ht.imp id fun ⟨hl, hn⟩ => ⟨rfl, hl, hn⟩

theorem add_unchecked (h : s.Unchecks s') (t : TableRef) :
    Narrows Error.IsUnresolved Unchecks (s.add t) (s'.add t) := by
  have hfind : s'.find? t.qualifier = s.find? t.qualifier := by rw [find?, find?, h.tables]
  unfold add
  rw [hfind]
  split
  next => exact .fail _
  next => exact .ok ⟨by rw [h.tables], h.schema⟩

theorem addAll_unchecked (h : s.Unchecks s') (ts : List TableRef) :
    Narrows Error.IsUnresolved Unchecks (s.addAll ts) (s'.addAll ts) := by
  induction ts generalizing s s' with
  | nil => exact .ok h
  | cons t ts ih => exact (add_unchecked h t).bind fun _ _ hu => ih hu

end Scope

/-- Pieces that are the same or cast an empty array, perhaps to another type. -/
inductive Piece.Recast (d : Dialect) (r : String → String → Prop) : Piece → Piece → Prop
  | same (p : Piece) : Piece.Recast d r p p
  | emptyArray (front : String) {t u : String} (h : r t u) :
      Piece.Recast d r (.text (front ++ d.emptyArray t)) (.text (front ++ d.emptyArray u))

theorem recast_same {d : Dialect} {r : String → String → Prop} {ps qs : List Piece} (h : ps = qs) :
    List.Forall₂ (Piece.Recast d r) ps qs :=
  h ▸ List.forall₂_same.mpr fun p _ => .same p

/-- The condition casts an empty list to an element type that was not given with it. -/
def Condition.CastsEmpty : Condition → Prop
  | .array _ op operand elementType =>
    op.takesList = true ∧ operand.elements = [] ∧ givenName elementType = none
  | .draft .array fields => ∃ operand type, fields.lookup "operand" = some operand ∧
      operand.elements = [] ∧ fields.lookup "element_type" = some type ∧
      givenName (if type.isVoid then none else some type.text) = none
  | _ => False

namespace Context

/-- Both contexts write alike, and the scope of the second has no schema. -/
structure Unchecks (ctx ctx' : Context) : Prop where
  dialect : ctx'.dialect = ctx.dialect
  scope : ctx.scope.Unchecks ctx'.scope

/-- The column of a condition on arrays. -/
def ArrayColumn (ctx : Context) : Condition → ResolvedColumn → Prop
  | .array column _ _ _, c => ctx.scope.resolveName column = .ok c
  | .draft .array fields, c => ctx.draftColumn fields = .ok c
  | _, _ => False

variable {ctx ctx' : Context} {r : String → String → Prop} {c c' : ResolvedColumn}

theorem resolvedText_unchecked (h : ctx.Unchecks ctx') (hc : c'.reference = c.reference) :
    ctx'.resolvedText c' = ctx.resolvedText c := by
  rw [resolvedText, resolvedText, referenceText, referenceText, h.dialect, hc]

theorem columnText_unchecked (h : ctx.Unchecks ctx') (column : String) (default? : Option String)
    (extra : List String) :
    Narrows Error.IsUnresolved Eq (ctx.columnText column default? extra)
      (ctx'.columnText column default? extra) :=
  (Scope.resolveName_unchecked h.scope column default? extra).bind fun _ _ hc =>
    .ok (resolvedText_unchecked h hc.reference).symm

theorem draftColumn_unchecked (h : ctx.Unchecks ctx') (fields : List (String × Value)) :
    Narrows Error.IsUnresolved (ResolvedColumn.Blurs ctx.scope.tables) (ctx.draftColumn fields)
      (ctx'.draftColumn fields) :=
  .bind_same fun name _ => Scope.resolveValue_unchecked h.scope name []

theorem operand_unchecked (h : ctx.Unchecks ctx') (v : Value) :
    Narrows Error.IsUnresolved Eq (ctx.operand v) (ctx'.operand v) := by
  unfold operand
  split
  next name => exact (columnText_unchecked h name none []).map_eq _
  next fields =>
    have htext : Narrows Error.IsUnresolved Eq (ctx.draftColumnText fields)
        (ctx'.draftColumnText fields) :=
      .bind_same fun name _ => (Scope.resolveValue_unchecked h.scope name []).bind fun _ _ hc =>
        .ok (resolvedText_unchecked h hc.reference).symm
    exact htext.map_eq _
  next => exact .same (fun _ => rfl) _
  next => exact .same (fun _ => rfl) _
  next => exact .ok rfl

theorem operands_unchecked (h : ctx.Unchecks ctx') (vs : List Value) :
    Narrows Error.IsUnresolved Eq (ctx.operands vs) (ctx'.operands vs) :=
  (Narrows.forEach_eq fun v _ => operand_unchecked h v).andThen_eq _

theorem comparison_unchecked (h : ctx.Unchecks ctx') (hc : c'.reference = c.reference)
    (op : Comparison) (value : Value) :
    Narrows Error.IsUnresolved Eq (ctx.comparison c op value) (ctx'.comparison c' op value) := by
  unfold comparison
  rw [resolvedText_unchecked h hc]
  simp only
  split
  next => exact .ok rfl
  next =>
    split
    next => exact .bind_same fun vs _ => (operands_unchecked h vs).andThen_eq _
    next => exact (operand_unchecked h value).andThen_eq _

/-- Only an empty list can be cast to another type, and only if no type was given with it. -/
theorem array_unchecked (h : ctx.Unchecks ctx') (hc : c'.reference = c.reference)
    {op : ArrayOperator} {operand : Value} {elementType : Option String}
    (hcast : op.takesList = true → operand.elements = [] → givenName elementType = none →
      r (ctx.elementType c) (ctx'.elementType c')) :
    Narrows Error.IsUnresolved (List.Forall₂ (Piece.Recast ctx.dialect r))
      (ctx.array c op operand elementType) (ctx'.array c' op operand elementType) := by
  unfold array
  rw [resolvedText_unchecked h hc, h.dialect]
  simp only
  split
  next hlist =>
    refine .bind_same fun vs hvs => ?_
    have helements := elements_of_walk hvs
    cases vs with
    | nil =>
      refine .ok (.cons ?_ .nil)
      cases hg : givenName elementType with
      | some type => exact .same _
      | none => exact .emptyArray _ (hcast hlist helements hg)
    | cons v vs =>
      exact (operands_unchecked h (v :: vs)).bind_eq fun _ => .ok (recast_same rfl)
  next => exact (operand_unchecked h operand).bind_eq fun _ => .ok (recast_same rfl)

theorem jsonb_unchecked (h : ctx.Unchecks ctx') (hc : c'.reference = c.reference)
    (op : JsonbOperator) (path : List String) (operand : Value) :
    ctx'.jsonb c' op path operand = ctx.jsonb c op path operand := by
  have hpath : ctx'.jsonbPath = ctx.jsonbPath := by
    funext column asText keys
    rw [jsonbPath, jsonbPath, h.dialect]
  unfold jsonb
  rw [resolvedText_unchecked h hc, hpath]

theorem draftComparison_unchecked (h : ctx.Unchecks ctx') (fields : List (String × Value)) :
    Narrows Error.IsUnresolved Eq (ctx.draftComparison fields) (ctx'.draftComparison fields) := by
  refine (draftColumn_unchecked h fields).bind fun c c' hc => .bind_same fun op _ =>
    .bind_same fun value _ => ?_
  split
  next => exact comparison_unchecked h hc.reference _ value
  next =>
    simp only
    split
    next =>
      exact .bind_same fun vs _ => (operands_unchecked h vs).bind_eq fun _ => .fail _
    next => exact .fail _
  next =>
    rw [resolvedText_unchecked h hc.reference]
    exact .bind_same fun sign _ => .bind_same fun text _ =>
      (operand_unchecked h value).andThen_eq _

theorem draftArray_unchecked (h : ctx.Unchecks ctx') {fields : List (String × Value)}
    (hcast : (Condition.draft .array fields).CastsEmpty → ∀ c c', ctx.draftColumn fields = .ok c →
      c.Blurs ctx.scope.tables c' → r (ctx.elementType c) (ctx'.elementType c')) :
    Narrows Error.IsUnresolved (List.Forall₂ (Piece.Recast ctx.dialect r)) (ctx.draftArray fields)
      (ctx'.draftArray fields) := by
  refine (draftColumn_unchecked h fields).bind_ok fun c c' hok _ hc => .bind_same fun op _ => ?_
  split
  next => exact .fail _
  next =>
    refine .bind_same fun operand hoperand => .bind_same fun type htype => ?_
    split
    next => exact .fail _
    next =>
      exact array_unchecked h hc.reference fun _ helements hgiven =>
        hcast ⟨operand, type, lookup_of_get hoperand, helements, lookup_of_get htype, hgiven⟩ c c'
          hok hc

theorem draftJsonb_unchecked (h : ctx.Unchecks ctx') (fields : List (String × Value)) :
    Narrows Error.IsUnresolved Eq (ctx.draftJsonb fields) (ctx'.draftJsonb fields) := by
  have hpath : ctx'.draftPath = ctx.draftPath := by
    funext column asText path
    rw [draftPath, draftPath, h.dialect]
  refine (draftColumn_unchecked h fields).bind fun c c' hc => ?_
  rw [resolvedText_unchecked h hc.reference, hpath]
  exact .same (fun _ => rfl) _

/-- A condition without connectives is written alike, but for the type that it casts an empty list
to. -/
theorem leaf_unchecked (h : ctx.Unchecks ctx') {d : Condition}
    (hcast : d.CastsEmpty → ∀ c c', ctx.ArrayColumn d c → c.Blurs ctx.scope.tables c' →
      r (ctx.elementType c) (ctx'.elementType c')) :
    Narrows Error.IsUnresolved (List.Forall₂ (Piece.Recast ctx.dialect r)) (ctx.leaf d)
      (ctx'.leaf d) := by
  have column := fun name => Scope.resolveName_unchecked h.scope name none []
  cases d with
  | comparison name op value =>
    exact (column name).bind fun c c' hc =>
      (comparison_unchecked h hc.reference op value).mono fun _ _ => recast_same
  | array name op operand elementType =>
    exact (column name).bind_ok fun c c' hok _ hc => array_unchecked h hc.reference
      fun hlist helements hgiven => hcast ⟨hlist, helements, hgiven⟩ c c' hok hc
  | jsonb name op path operand =>
    refine (column name).bind fun c c' hc => ?_
    rw [jsonb_unchecked h hc.reference]
    exact .same (fun _ => recast_same rfl) _
  | raw sql params => exact .same (fun _ => recast_same rfl) _
  | logical op children | negation child | stray v => exact .fail _
  | draft kind fields =>
    cases kind with
    | comparison => exact (draftComparison_unchecked h fields).mono fun _ _ => recast_same
    | array => exact draftArray_unchecked h hcast
    | jsonb => exact (draftJsonb_unchecked h fields).mono fun _ _ => recast_same
    | raw => exact .same (fun _ => recast_same rfl) _
    | logical | negation => exact .fail _

theorem predicate_unchecked (h : ctx.Unchecks ctx') {filter : Condition}
    (hcast : ∀ d, .leaf d ∈ filter.layout .root → d.CastsEmpty → ∀ c c', ctx.ArrayColumn d c →
      c.Blurs ctx.scope.tables c' → r (ctx.elementType c) (ctx'.elementType c')) :
    Narrows Error.IsUnresolved (List.Forall₂ (Piece.Recast ctx.dialect r)) (ctx.predicate filter)
      (ctx'.predicate filter) := by
  refine (Narrows.forEach (List.forall₂_same.mpr fun t ht => ?_)).map fun _ _ hs =>
    List.rel_flatten hs
  cases t with
  | leaf d => exact leaf_unchecked h (hcast d ht)
  | opening | closing | connective op | negation | truth b | word text =>
    exact .ok (recast_same rfl)
  | fault e => exact .fail _

end Context

end QueryBuilder
