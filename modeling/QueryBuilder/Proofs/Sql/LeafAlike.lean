import QueryBuilder.Proofs.Sql.Alike
import QueryBuilder.Proofs.TwoRuns

/-!
Alike conditions without connectives are written alike, piece by piece.
-/
namespace QueryBuilder

variable {ctx : Context}

theorem pieces_same (ps : List Piece) : List.Forall₂ Piece.Alike ps ps :=
  List.forall₂_same.mpr fun p _ => .refl p

theorem elements_of_walk {v : Value} {vs : List Value} (h : Draft.walk v = .ok vs) :
    v.elements = vs := by
  unfold Draft.walk at h
  unfold Value.elements
  split at h
  next ws hw =>
    cases h
    rw [hw]
    rfl
  next => cases h

theorem walk_alike {v w : Value} (h : List.Forall₂ Value.Alike v.elements w.elements) :
    BothOk (List.Forall₂ Value.Alike) (Draft.walk v) (Draft.walk w) := by
  intro vs ws hv hw
  rwa [← elements_of_walk hv, ← elements_of_walk hw]

namespace AlikeBut

variable {name : String} {r : Value → Value → Prop} {fs gs : List (String × Value)}

theorem get_same (h : AlikeBut name r fs gs) {n : String} (hn : n ≠ name) :
    Draft.get fs n = Draft.get gs n := by
  rw [Draft.get, Draft.get, h.others n hn]

theorem get_related (h : AlikeBut name r fs gs) :
    BothOk r (Draft.get fs name) (Draft.get gs name) := by
  have hr := h.related
  unfold Draft.get
  generalize fs.lookup name = v at hr ⊢
  generalize gs.lookup name = w at hr ⊢
  cases hr with
  | none => exact .error_left
  | some h => exact .ok h

end AlikeBut

theorem lookup_of_get {fields : List (String × Value)} {n : String} {v : Value}
    (h : Draft.get fields n = .ok v) : fields.lookup n = some v := by
  unfold Draft.get at h
  split at h
  next w hw =>
    cases h
    exact hw
  next => cases h

theorem lookup_of_operator {fields : List (String × Value)} {op : Value}
    (h : Draft.operator fields = .ok op) : fields.lookup "operator" = some op := by
  obtain ⟨v, hv, h⟩ := bind_eq_ok_iff.mp h
  split at h
  next =>
    cases h
    exact lookup_of_get hv
  next => cases h

theorem lookup_of_memberOperator {fields : List (String × Value)} {op : Value}
    (h : Draft.memberOperator fields = .ok op) : fields.lookup "operator" = some op := by
  obtain ⟨v, hv, h⟩ := bind_eq_ok_iff.mp h
  split at h
  next =>
    cases h
    exact lookup_of_get hv
  next => exact lookup_of_operator h

theorem parts_eq_some {v : Value} {vs : List Value} (h : Draft.parts v = .ok vs) :
    v.parts? = some vs := by
  unfold Draft.parts at h
  split at h
  next ws hw =>
    cases h
    exact hw
  next => cases h

/-- Drafts of one fragment have one text and as many parameters. -/
theorem fragment_alike {fs gs : List (String × Value)}
    (h : AlikeBut "params" Value.AlikeParams fs gs) :
    BothOk (fun f g => f.1 = g.1 ∧ f.2.length = g.2.length) (Draft.fragment fs)
      (Draft.fragment gs) := by
  have hsql : Draft.get fs "sql" = Draft.get gs "sql" := h.get_same (by decide)
  unfold Draft.fragment
  refine h.get_related.bind fun v w hvw => ?_
  have hparts : BothOk (fun vs ws => vs.length = ws.length) (Draft.parts v) (Draft.parts w) :=
    fun vs ws hvs hws => hvw vs ws (parts_eq_some hvs) (parts_eq_some hws)
  refine hparts.bind fun ps qs hlength => ?_
  rw [hsql]
  refine .bind_same fun sql => ?_
  split
  next => exact .ok ⟨rfl, hlength⟩
  next => exact .error_left

/-- Fragments of one text are refused together. -/
theorem Piece.fragment_alike {sql : String} {ps qs : List Value} (h : ps.length = qs.length) :
    BothOk Piece.Alike (Piece.fragment sql ps) (Piece.fragment sql qs) := by
  intro p q hp hq
  obtain ⟨_, rfl⟩ := Piece.fragment_eq_ok hp
  obtain ⟨_, rfl⟩ := Piece.fragment_eq_ok hq
  exact .raw h

namespace Context

theorem operand_of_isBound {v : Value} (h : v.isBound = true) : ctx.operand v = .ok (.bind v) := by
  unfold operand
  split
  case h_1 | h_2 | h_3 | h_4 => cases h
  case h_5 => rfl

theorem operand_alike {v w : Value} (h : v.Alike w) :
    BothOk Piece.Alike (ctx.operand v) (ctx.operand w) := by
  cases h with
  | bound hv hw =>
    rw [operand_of_isBound hv, operand_of_isBound hw]
    exact .ok (.bind v w)
  | fragment h => exact Piece.fragment_alike h
  | draft h =>
    refine (fragment_alike h).bind fun f g hfg => ?_
    obtain ⟨sql, ps⟩ := f
    obtain ⟨sql', qs⟩ := g
    obtain ⟨rfl, hlength⟩ := hfg
    exact Piece.fragment_alike hlength
  | same => exact .same Piece.Alike.refl _

theorem operands_alike {vs ws : List Value} (h : List.Forall₂ Value.Alike vs ws) :
    BothOk (List.Forall₂ Piece.Alike) (ctx.operands vs) (ctx.operands ws) := by
  refine (BothOk.forEach h fun v w => operand_alike).bind fun ps qs hpq => .ok ?_
  refine Piece.separated_alike ?_
  rw [List.forall₂_map_left_iff, List.forall₂_map_right_iff]
  exact hpq.imp fun p q h => .cons h .nil

theorem comparison_alike {column : ResolvedColumn} {op : Comparison} {v w : Value}
    (h : op.AlikeOperands v w) :
    BothOk (List.Forall₂ Piece.Alike) (ctx.comparison column op v)
      (ctx.comparison column op w) := by
  unfold comparison
  unfold Comparison.AlikeOperands at h
  simp only
  by_cases hnull : op.isNullTest = true
  · simp only [hnull, if_true]
    exact .ok (.cons (.text _) .nil)
  · by_cases hmember : op.isMembership = true
    · simp only [hnull, hmember, if_true] at h ⊢
      refine (walk_alike h).bind fun vs ws hvw => (operands_alike hvw).bind fun ps qs hpq => .ok ?_
      exact .cons (.text _) (List.rel_append hpq (.cons (.text _) .nil))
    · simp only [hnull, hmember] at h ⊢
      exact (operand_alike h).bind fun p q hpq => .ok (.cons (.text _) (.cons hpq .nil))

theorem array_alike {column : ResolvedColumn} {op : ArrayOperator} {v w : Value}
    {elementType : Option String} (h : op.AlikeOperands v w) :
    BothOk (List.Forall₂ Piece.Alike) (ctx.array column op v elementType)
      (ctx.array column op w elementType) := by
  unfold array
  unfold ArrayOperator.AlikeOperands at h
  simp only
  by_cases hlist : op.takesList = true
  · simp only [hlist, if_true] at h ⊢
    refine (walk_alike h).bind fun vs ws hvw => ?_
    cases hvw with
    | nil => exact .ok (.cons (.text _) .nil)
    | cons hv hvs =>
      refine (operands_alike (.cons hv hvs)).bind fun ps qs hpq => .ok ?_
      exact .cons (.text _) (List.rel_append hpq (.cons (.text _) .nil))
  · simp only [hlist] at h ⊢
    exact (operand_alike h).bind fun p q hpq => .ok (.cons hpq (.cons (.text _) .nil))

theorem jsonbKeysPiece_alike (v w : Value) :
    BothOk Piece.Alike (jsonbKeysPiece v) (jsonbKeysPiece w) := by
  have binds : ∀ {v : Value} {p : Piece}, jsonbKeysPiece v = .ok p → ∃ u, p = .bind u := by
    intro v p h
    unfold jsonbKeysPiece at h
    split at h
    next =>
      cases h
      exact ⟨v, rfl⟩
    next =>
      obtain ⟨vs, _, h⟩ := bind_eq_ok_iff.mp h
      cases h
      exact ⟨_, rfl⟩
  intro p q hp hq
  obtain ⟨v, rfl⟩ := binds hp
  obtain ⟨w, rfl⟩ := binds hq
  exact .bind v w

theorem jsonbDocument_alike (op : JsonbOperator) (v w : Value) :
    BothOk (List.Forall₂ Piece.Alike) (jsonbDocument op v) (jsonbDocument op w) := by
  unfold jsonbDocument
  cases v.document with
  | error e => exact .error_left
  | ok s =>
    cases w.document with
    | error e => exact .error_right
    | ok t => exact .ok (.cons (.bind _ _) (.cons (.text _) .nil))

theorem jsonb_alike {column : ResolvedColumn} {op : JsonbOperator} {path : List String}
    {v w : Value} :
    BothOk (List.Forall₂ Piece.Alike) (ctx.jsonb column op path v)
      (ctx.jsonb column op path w) := by
  cases op with
  | contains | containedBy | fieldContains =>
    exact (jsonbDocument_alike _ v w).bind fun ps qs h => .ok (.cons (.text _) h)
  | hasKey | hasAnyKey | hasAllKeys =>
    exact (jsonbKeysPiece_alike v w).bind fun p q h => .ok (.cons (.text _) (.cons h .nil))
  | fieldExists | fieldIsNull => exact .same pieces_same _
  | fieldEquals | fieldNotEquals =>
    refine (BothOk.any (jsonbText v) (jsonbText w)).bind fun s t _ => .ok ?_
    exact .cons (.text _) (.cons (.bind _ _) .nil)

theorem draftColumn_alike {name : String} {r : Value → Value → Prop}
    {fs gs : List (String × Value)} (h : AlikeBut name r fs gs) (hn : "column" ≠ name) :
    ctx.draftColumn fs = ctx.draftColumn gs := by
  rw [draftColumn, draftColumn, h.get_same hn]

theorem draftComparison_alike {fs gs : List (String × Value)}
    (h : AlikeBut "value" (Draft.AlikeComparison fs) fs gs) :
    BothOk (List.Forall₂ Piece.Alike) (ctx.draftComparison fs) (ctx.draftComparison gs) := by
  have hoperator : Draft.memberOperator fs = Draft.memberOperator gs := by
    rw [Draft.memberOperator, Draft.memberOperator, Draft.operator, Draft.operator,
      h.get_same (by decide)]
  unfold draftComparison
  rw [← draftColumn_alike h (by decide), ← hoperator]
  refine .bind_same fun column => .bind_ok fun op hop => h.get_related.bind fun v w hvw => ?_
  have hlookup : fs.lookup "operator" = some op := lookup_of_memberOperator hop
  rw [Draft.AlikeComparison, hlookup] at hvw
  split
  next => exact comparison_alike hvw
  next =>
    -- The items are looked at, and then there is no text to write.
    intro ps _ hps
    simp only at hps
    split at hps
    next =>
      obtain ⟨vs, _, hps⟩ := bind_eq_ok_iff.mp hps
      obtain ⟨_, _, hps⟩ := bind_eq_ok_iff.mp hps
      cases hps
    next => cases hps
  next hconstant _ =>
    have hoperand : v.Alike w := by
      split at hvw
      next heq => exact (hconstant _ (Option.some.inj heq)).elim
      next => exact hvw
    refine .bind_same fun sign => .bind_same fun text =>
      (operand_alike hoperand).bind fun p q hpq => .ok ?_
    exact .cons (.text _) (.cons hpq .nil)

theorem draftArray_alike {fs gs : List (String × Value)}
    (h : AlikeBut "operand" (Draft.AlikeArray fs) fs gs) :
    BothOk (List.Forall₂ Piece.Alike) (ctx.draftArray fs) (ctx.draftArray gs) := by
  have hoperator : Draft.operator fs = Draft.operator gs := by
    rw [Draft.operator, Draft.operator, h.get_same (by decide)]
  unfold draftArray
  rw [← draftColumn_alike h (by decide), ← hoperator,
    ← h.get_same (n := "element_type") (by decide)]
  refine .bind_same fun column => .bind_ok fun op hop => ?_
  split
  next => exact .error_left
  next known hknown =>
    refine h.get_related.bind fun v w hvw => .bind_same fun type => ?_
    have harray := hvw known (by rwa [lookup_of_operator hop])
    exact (array_alike harray).guarded

theorem draftJsonb_alike {fs gs : List (String × Value)}
    (h : AlikeBut "operand" (fun _ _ => True) fs gs) :
    BothOk (List.Forall₂ Piece.Alike) (ctx.draftJsonb fs) (ctx.draftJsonb gs) := by
  have hoperator : Draft.operator fs = Draft.operator gs := by
    rw [Draft.operator, Draft.operator, h.get_same (by decide)]
  unfold draftJsonb
  rw [← draftColumn_alike h (by decide), ← hoperator, ← h.get_same (n := "path") (by decide)]
  refine .bind_same fun column => .bind_same fun op => .bind_same fun path =>
    h.get_related.bind fun v w _ => ?_
  split
  case h_1 | h_2 | h_3 =>
    refine .bind_same fun target => ?_
    cases v.document with
    | error e => exact .error_left
    | ok s =>
      cases w.document with
      | error e => exact .error_right
      | ok t => exact .ok (.cons (.text _) (.cons (.bind _ _) (.cons (.text _) .nil)))
  case h_4 | h_5 =>
    refine .bind_same fun target =>
      (BothOk.any (jsonbText v) (jsonbText w)).bind fun s t _ => .ok ?_
    exact .cons (.text _) (.cons (.bind _ _) .nil)
  case h_6 | h_7 | h_8 =>
    exact (jsonbKeysPiece_alike v w).bind fun p q h => .ok (.cons (.text _) (.cons h .nil))
  case h_9 => exact .bind_same fun text => .error_left

/-- Alike leaves are written alike. -/
theorem leaf_alike {c d : Condition} (h : c.Alike d) :
    BothOk (List.Forall₂ Piece.Alike) (ctx.leaf c) (ctx.leaf d) := by
  cases h with
  | comparison h => exact .bind_same fun column => comparison_alike h
  | array h => exact .bind_same fun column => array_alike h
  | jsonb => exact .bind_same fun column => jsonb_alike
  | raw h => exact (Piece.fragment_alike h).bind fun p q hpq => .ok (.cons hpq .nil)
  | comparisonDraft h => exact draftComparison_alike h
  | arrayDraft h => exact draftArray_alike h
  | jsonbDraft h => exact draftJsonb_alike h
  | rawDraft h =>
    refine (fragment_alike h).bind fun f g hfg => ?_
    obtain ⟨sql, ps⟩ := f
    obtain ⟨sql', qs⟩ := g
    obtain ⟨rfl, hlength⟩ := hfg
    exact (Piece.fragment_alike hlength).bind fun p q hpq => .ok (.cons hpq .nil)
  | logical | negation | logicalDraft | negationDraft => exact .error_left
  | same => exact .same pieces_same _

end Context

end QueryBuilder
