import QueryBuilder.Proofs.Blame
import QueryBuilder.Proofs.Condition.Operand
import QueryBuilder.Proofs.Sql.References
import QueryBuilder.Proofs.Text.Respelled
import QueryBuilder.Sql.Predicate

/-!
Without a schema, a column is refused only for its qualifier, and a sound condition only for a
column or a number in it.
-/
namespace QueryBuilder

namespace Scope

variable {s : Scope} {r : ColumnReference} {q : String} {default? : Option String}
  {extra : List String}

theorem find?_eq_none_iff : s.find? q = none ↔ q ∉ s.qualifiers := by
  simp [find?, qualifiers]

theorem find?_of_mem (h : q ∈ s.qualifiers) : ∃ t, s.find? q = some t := by
  rw [← Option.ne_none_iff_exists']
  exact fun hn => find?_eq_none_iff.mp hn h

theorem checkColumn_of_schema (hs : s.schema = none) (t : TableRef) (r : ColumnReference) :
    s.checkColumn t r = .ok () := by
  rw [checkColumn, hs]
  rfl

theorem resolve_known (hs : s.schema = none) (hr : r.qualifier = some q) (hq : q ∈ s.qualifiers) :
    ∃ column, s.resolve r default? extra = .ok column := by
  obtain ⟨t, ht⟩ := find?_of_mem hq
  refine ⟨⟨r, some t⟩, ?_⟩
  simp only [resolve, hr, ht, checkColumn_of_schema hs]
  rfl

theorem resolve_unknown (hr : r.qualifier = some q) (hq : q ∉ s.qualifiers) :
    s.resolve r default? extra = .error (s.qualifierError r q) := by
  simp only [resolve, hr, find?_eq_none_iff.mpr hq]

theorem resolve_bare (hs : s.schema = none) (hr : r.qualifier = none)
    (hd : ∀ q ∈ default?, q ∈ s.qualifiers) :
    ∃ column, s.resolve r default? extra = .ok column := by
  cases default? with
  | some q =>
    obtain ⟨t, ht⟩ := find?_of_mem (hd q rfl)
    refine ⟨⟨r.withQualifier q, some t⟩, ?_⟩
    simp only [resolve, hr, ht, checkColumn_of_schema hs]
    rfl
  | none =>
    have howner : ∃ t, s.ownerOfBare r.column (.str r.text) = .ok t := by
      have hcolumns : s.columns? = none := by rw [columns?, hs]
      rw [ownerOfBare, hcolumns]
      cases s.tables with
      | nil => exact ⟨_, rfl⟩
      | cons t ts => cases ts <;> exact ⟨_, rfl⟩
    obtain ⟨t, ht⟩ := howner
    simp only [resolve, hr, ht]
    split <;> exact ⟨_, rfl⟩

end Scope

variable {ctx : Context} {fault : String → Error → Prop}

theorem Blames.column {α : Type} {x : Except Error α} {name : String} (h : Blames fault x [name]) :
    Blames (Mention.Fails fault) x [.column name] := by
  have hcolumn : Blames (fun n => Mention.Fails fault (.column n)) x [name] := h
  have hindex := Blames.index (g := Mention.column) hcolumn
  exact hindex

namespace Context

/-- No schema takes part, and the faults of columns are qualifiers that the scope does not have. -/
structure Faults (ctx : Context) (fault : String → Error → Prop) : Prop where
  schema : ctx.scope.schema = none
  bare : ∀ {name : String}, (referenceOf name).qualifier = none → ∀ e, ¬ fault name e
  known : ∀ {name q : String}, (referenceOf name).qualifier = some q → q ∈ ctx.scope.qualifiers →
    ∀ e, ¬ fault name e
  unknown : ∀ {name q : String}, IsItemName name → (referenceOf name).qualifier = some q →
    q ∉ ctx.scope.qualifiers → fault name (ctx.scope.qualifierError (referenceOf name) q)

theorem resolveName_blames (hf : ctx.Faults fault) {name : String} (hn : IsItemName name)
    {default? : Option String} (hd : ∀ q ∈ default?, q ∈ ctx.scope.qualifiers)
    (extra : List String) : Blames fault (ctx.scope.resolveName name default? extra) [name] := by
  have hparse : ctx.scope.resolveName name default? extra =
      ctx.scope.resolve (referenceOf name) default? extra := by
    rw [Scope.resolveName, ColumnReference.parse_eq_ok hn]
    rfl
  rw [hparse]
  cases hr : (referenceOf name).qualifier with
  | none =>
    exact .of_ok (Scope.resolve_bare hf.schema hr hd) (by simpa using hf.bare hr)
  | some q =>
    by_cases hq : q ∈ ctx.scope.qualifiers
    · exact .of_ok (Scope.resolve_known hf.schema hr hq) (by simpa using hf.known hr hq)
    · exact .of_error (Scope.resolve_unknown hr hq) (by simp) (hf.unknown hn hr hq)

theorem columnText_blames (hf : ctx.Faults fault) {name : String} (hn : IsItemName name)
    {default? : Option String} (hd : ∀ q ∈ default?, q ∈ ctx.scope.qualifiers)
    (extra : List String) :
    Blames (Mention.Fails fault) (ctx.columnText name default? extra) [.column name] :=
  Blames.column (resolveName_blames hf hn hd extra).andThen

/-- A fragment is refused for a number in it. -/
theorem fragment_blames (sql : String) (params : List Value) :
    Blames (Mention.Fails fault) (Piece.fragment sql params) [.fragment sql] := by
  by_cases h : Text.isReadable sql = true
  · refine .of_ok ⟨_, dif_pos h⟩ fun m hm e he => ?_
    cases List.mem_singleton.mp hm
    exact he.1 (Text.isReadable_iff.mp h)
  · exact .of_error (dif_neg h) (List.mem_singleton_self _) ⟨mt Text.isReadable_iff.mpr h, rfl⟩

theorem operand_blames (hf : ctx.Faults fault) {v : Value} (hs : v.Sound) :
    Blames (Mention.Fails fault) (ctx.operand v) v.mentions := by
  unfold operand
  split
  next name => exact (columnText_blames hf (.column hs) (by simp) []).map
  next => exact hs.elim
  next sql params => exact fragment_blames sql params
  next => exact hs.elim
  next hcolumn _ hraw _ =>
    have hv : v.mentions = [] := by
      unfold Value.mentions
      split
      next => exact (hcolumn _ rfl).elim
      next => exact (hraw _ _ rfl).elim
      next => rfl
    rw [hv]
    exact .success _

theorem operands_blames (hf : ctx.Faults fault) {vs : List Value} (hs : ∀ v ∈ vs, v.Sound) :
    Blames (Mention.Fails fault) (ctx.operands vs) (vs.flatMap Value.mentions) :=
  (Blames.forEach fun v hv => operand_blames hf (hs v hv)).andThen

theorem comparison_blames (hf : ctx.Faults fault) {column : ResolvedColumn} {op : Comparison}
    {value : Value} (hk : Condition.checkComparison op value = .ok ()) (hs : value.Sound) :
    Blames (Mention.Fails fault) (ctx.comparison column op value) (op.mentions value) := by
  unfold comparison Comparison.mentions
  simp only
  by_cases hmember : op.isMembership = true
  · have hnull : op.isNullTest = false := by
      cases op <;> first | rfl | cases hmember
    obtain ⟨v, vs, hvs⟩ := Condition.items_of_membership hk hmember
    simp only [hnull, hmember, if_true, walk_of_items hvs, Value.itemMentions, hvs]
    exact (operands_blames hf (hs.items hvs)).andThen
  · by_cases hnull : op.isNullTest = true
    · cases Condition.null_of_nullTest hk hnull
      simp only [hnull, hmember, if_true]
      exact .success _
    · simp only [hnull, hmember]
      exact (operand_blames hf hs).andThen

theorem array_blames (hf : ctx.Faults fault) {column : ResolvedColumn} {op : ArrayOperator}
    {operand : Value} {elementType : Option String}
    (hk : Condition.checkArray op operand = .ok ()) (hs : operand.Sound) :
    Blames (Mention.Fails fault) (ctx.array column op operand elementType)
      (op.mentions operand) := by
  unfold array ArrayOperator.mentions
  simp only
  by_cases hlist : op.takesList = true
  · obtain ⟨vs, hvs⟩ := Condition.items_of_takesList hk hlist
    simp only [hlist, if_true, walk_of_items hvs, Value.itemMentions, hvs]
    cases vs with
    | nil => exact .success _
    | cons v vs => exact (operands_blames hf (hs.items hvs)).andThen
  · simp only [hlist]
    exact (operand_blames hf hs).andThen

theorem jsonbKeysPiece_ok {operand : Value}
    (h : operand.isText = true ∨ ∃ ks, operand.items? = some ks) :
    ∃ p, jsonbKeysPiece operand = .ok p := by
  unfold jsonbKeysPiece
  split
  next => exact ⟨_, rfl⟩
  next ht =>
    obtain ⟨ks, hks⟩ := h.resolve_left ht
    rw [walk_of_items hks]
    exact ⟨_, rfl⟩

theorem jsonbText_ok {v : Value} {text : String} (h : v.document = .ok text) :
    ∃ s, jsonbText v = .ok s := by
  unfold jsonbText
  split
  next s _ => exact ⟨s, rfl⟩
  next =>
    rw [h]
    exact ⟨text, rfl⟩

/-- Operators on documents refer to no column but their own. -/
theorem jsonb_ok {column : ResolvedColumn} {op : JsonbOperator} {path : List String}
    {operand : Value} (hk : Condition.checkJsonb op path operand = .ok ())
    (hd : op.takesDocument = true → ∃ text, operand.document = .ok text) :
    ∃ ps, ctx.jsonb column op path operand = .ok ps := by
  unfold jsonb
  cases op with
  | contains | containedBy | fieldContains =>
    obtain ⟨text, ht⟩ := hd rfl
    simp only [jsonbDocument, ht]
    exact ⟨_, rfl⟩
  | hasKey =>
    obtain ⟨p, hp⟩ := jsonbKeysPiece_ok (Or.inl (Condition.isText_of_hasKey hk))
    simp only [hp]
    exact ⟨_, rfl⟩
  | hasAnyKey | hasAllKeys =>
    obtain ⟨k, ks, hks, _⟩ := Condition.keys_of_checkJsonb (by simp) hk
    obtain ⟨p, hp⟩ := jsonbKeysPiece_ok (Or.inr ⟨_, hks⟩)
    simp only [hp]
    exact ⟨_, rfl⟩
  | fieldExists =>
    have hpath := (Condition.path_of_checkJsonb hk).mp rfl
    simp only [List.getLast?_eq_some_getLast hpath]
    exact ⟨_, rfl⟩
  | fieldIsNull => exact ⟨_, rfl⟩
  | fieldEquals | fieldNotEquals =>
    obtain ⟨text, ht⟩ := hd rfl
    obtain ⟨s, hs⟩ := jsonbText_ok ht
    simp only [hs]
    exact ⟨_, rfl⟩

/-- A sound condition without connectives is refused for a column or a number in it. -/
theorem leaf_blames (hf : ctx.Faults fault) {c : Condition} (hs : c.Sound) (hd : c.Serializes)
    (hc : c.isLogical = false) (hn : ∀ d, c ≠ .negation d) :
    Blames (Mention.Fails fault) (ctx.leaf c) c.mentions := by
  have column : ∀ {name : String}, IsColumnName name →
      Blames (Mention.Fails fault) (ctx.scope.resolveName name) [.column name] :=
    fun hname => (resolveName_blames hf (.column hname) (by simp) []).column
  cases c with
  | comparison name op value =>
    exact (column hs.1).bind fun _ _ => comparison_blames hf hs.2.1 hs.2.2
  | array name op operand elementType =>
    exact (column hs.1).bind fun _ _ => array_blames hf hs.2.1 hs.2.2.1
  | jsonb name op path operand =>
    exact (column hs.1).bind fun _ _ => .of_ok (jsonb_ok hs.2.2 hd) (by simp)
  | raw sql params => exact (fragment_blames sql params).andThen
  | logical op children => cases hc
  | negation child => exact (hn child rfl).elim
  | stray v | draft kind fields => exact hs.elim

end Context

end QueryBuilder
