import QueryBuilder.Proofs.Sql.ClauseFailures

/-!
The errors of conditions and operands, also of those put together without checks. They are about a
name, about a value that does not have what is asked of it, about a number that is too long, or
about a condition that has no text; none is about the tables or the clauses of the statement.
-/
namespace QueryBuilder

/-- Holds of the errors of conditions and operands. -/
def Error.isOfCondition : Error → Bool
  | .operand (.document ..) _ | .compilation _ | .document _ | .tooManyDigits | .wrongType _
  | .noSuchMember _ | .noSuchKey _ => true
  | e => e.isNaming

theorem Error.isOfCondition_of_isNaming {e : Error} (h : e.isNaming = true) :
    e.isOfCondition = true := by
  cases e with
  | malformed | empty | aliasedTable | unresolved => rfl
  | _ => cases h

section

variable {p : Error → Prop} (hp : ∀ e, e.isOfCondition = true → p e)

include hp

theorem Error.naming_of_condition (e : Error) (he : e.isNaming = true) : p e :=
  hp e (isOfCondition_of_isNaming he)

namespace Draft

theorem get_fails (fields : List (String × Value)) (name : String) :
    FailsWith p (get fields name) := by
  unfold get
  split
  next => exact .ok _
  next => exact .error (hp _ rfl)

theorem operator_fails (fields : List (String × Value)) : FailsWith p (operator fields) := by
  refine (get_fails hp fields "operator").bind fun op _ => ?_
  split
  next => exact .ok _
  next => exact .error (hp _ rfl)

theorem memberOperator_fails (fields : List (String × Value)) :
    FailsWith p (memberOperator fields) := by
  refine (get_fails hp fields "operator").bind fun op _ => ?_
  split
  next => exact .ok _
  next => exact operator_fails hp fields

theorem sign_fails (v : Value) : FailsWith p (sign v) := by
  unfold sign
  split
  next => exact .ok _
  next => exact .ok _
  next => exact get_fails hp _ _
  next => exact .error (hp _ rfl)

theorem comparisonSign_fails (v : Value) : FailsWith p (comparisonSign v) := by
  unfold comparisonSign
  split
  next => exact .ok _
  next => exact get_fails hp _ _
  next => exact .error (hp _ rfl)

theorem walk_fails (v : Value) : FailsWith p (walk v) := by
  unfold walk
  split
  next => exact .ok _
  next => exact .error (hp _ rfl)

theorem parts_fails (v : Value) : FailsWith p (parts v) := by
  unfold parts
  split
  next => exact .ok _
  next => exact .error (hp _ rfl)

theorem fragment_fails (fields : List (String × Value)) : FailsWith p (fragment fields) := by
  refine (get_fails hp fields "params").bind fun v _ => (parts_fails hp v).bind fun params _ =>
    (get_fails hp fields "sql").bind fun sql _ => ?_
  split
  next => exact .ok _
  next => exact .error (hp _ rfl)

end Draft

end

/-- A token that stands for an error stands for an error of a condition. -/
def LogicToken.FaultOfCondition (t : LogicToken) : Prop :=
  ∀ e, t = .fault e → e.isOfCondition = true

/-- The tokens of the part, wherever it stands, have no other errors. -/
def LogicPart.FaultsOfCondition (p : LogicPart) : Prop :=
  ∀ position, ∀ t ∈ p.tokens position, t.FaultOfCondition

namespace LogicToken

theorem faultOfCondition_fault {e : Error} (he : e.isOfCondition = true) :
    ∀ t ∈ [LogicToken.fault e], t.FaultOfCondition := by
  rintro _ ht e' rfl
  cases List.mem_singleton.mp ht
  exact he

theorem faultOfCondition_leaf (c : Condition) : ∀ t ∈ [LogicToken.leaf c], t.FaultOfCondition := by
  rintro _ ht e rfl
  cases List.mem_singleton.mp ht

theorem faultOfCondition_cons {t : LogicToken} {ts : List LogicToken} (ht : ∀ e, t ≠ .fault e)
    (h : ∀ u ∈ ts, u.FaultOfCondition) : ∀ u ∈ t :: ts, u.FaultOfCondition :=
  List.forall_mem_cons.mpr ⟨fun e he => absurd he (ht e), h⟩

theorem faultOfCondition_grouped {wrap : Bool} {ts : List LogicToken}
    (h : ∀ t ∈ ts, t.FaultOfCondition) : ∀ t ∈ grouped wrap ts, t.FaultOfCondition := by
  cases wrap with
  | false => exact h
  | true =>
    refine faultOfCondition_cons (by simp) (List.forall_mem_append.mpr ⟨h, ?_⟩)
    exact faultOfCondition_cons (by simp) (by simp)

end LogicToken

open LogicToken

theorem LogicPart.stray_faults (v : Value) : (LogicPart.stray v).FaultsOfCondition :=
  fun _ => faultOfCondition_leaf _

/-- The computation yields a part without other errors, or fails with no other error itself. -/
structure LogicPart.Faulty (x : Except Error LogicPart) : Prop where
  part : ∀ p, x = .ok p → p.FaultsOfCondition
  error : FailsWith (·.isOfCondition = true) x

theorem LogicPart.faulty_ok {p : LogicPart} (h : p.FaultsOfCondition) : Faulty (.ok p) := by
  refine ⟨fun q hq => ?_, .ok p⟩
  cases hq
  exact h

theorem LogicPart.faulty_error {e : Error} (h : e.isOfCondition = true) : Faulty (.error e) := by
  refine ⟨fun q hq => ?_, .error h⟩
  cases hq

theorem LogicPart.faulty_first {ps : List LogicPart} (h : ∀ p ∈ ps, p.FaultsOfCondition) :
    Faulty (first ps) := by
  cases ps with
  | nil => exact faulty_error rfl
  | cons p ps => exact faulty_ok (h p (by simp))

/-- No part of the field has errors other than those of conditions. -/
structure DraftField.FaultsOfCondition (f : DraftField) : Prop where
  whole : f.whole.FaultsOfCondition
  parts : ∀ ps, f.parts = some ps → ∀ p ∈ ps, p.FaultsOfCondition
  first : LogicPart.Faulty f.first

namespace DraftField

variable {fields : List DraftField}

theorem of_find? (h : ∀ f ∈ fields, f.FaultsOfCondition) {name : String} {f : DraftField}
    (hf : find? fields name = some f) : f.FaultsOfCondition :=
  h f (List.mem_of_find?_eq_some hf)

theorem negation_faults (h : ∀ f ∈ fields, f.FaultsOfCondition) :
    ∀ t ∈ negation fields, t.FaultOfCondition := by
  unfold negation
  split
  next => exact faultOfCondition_fault rfl
  next f hf =>
    have hg := @faultOfCondition_grouped true _ ((of_find? h hf).whole .negated)
    exact faultOfCondition_cons (by simp) hg

theorem joined_faults {word : String} {ps : List LogicPart} (h : ∀ p ∈ ps, p.FaultsOfCondition) :
    ∀ t ∈ joined word ps, t.FaultOfCondition := by
  fun_induction joined word ps with
  | case1 => simp
  | case2 p => exact h p (by simp) .nested
  | case3 p q ps ih =>
    refine List.forall_mem_append.mpr ⟨h p (by simp) .nested, faultOfCondition_cons (by simp) ?_⟩
    exact ih fun r hr => h r (List.mem_cons_of_mem p hr)

theorem word_fails (fields : List DraftField) :
    FailsWith (·.isOfCondition = true) (word fields) := by
  unfold word
  split
  next => exact .error rfl
  next => exact (Draft.sign_fails (fun _ => id) _).map

theorem group_faults (h : ∀ f ∈ fields, f.FaultsOfCondition) (position : Position) :
    ∀ t ∈ group position fields, t.FaultOfCondition := by
  unfold group
  split
  next => exact faultOfCondition_fault rfl
  next f hf =>
    have hf := of_find? h hf
    split
    next => exact faultOfCondition_fault (by split <;> rfl)
    next => exact faultOfCondition_fault rfl
    next =>
      split
      next p hp => exact hf.first.part p hp position
      next e he => exact faultOfCondition_fault (hf.first.error e he)
    next ps _ hps =>
      split
      next => exact faultOfCondition_grouped (joined_faults (hf.parts _ hps))
      next e he => exact faultOfCondition_fault (word_fails fields e he)

/-- A field that holds items. -/
theorem faults_of_items {name : String} {v : Value} {ps : List LogicPart}
    {first : Except Error LogicPart} (h : ∀ p ∈ ps, p.FaultsOfCondition)
    (hf : LogicPart.Faulty first) : FaultsOfCondition ⟨name, .stray v, some ps, first⟩ where
  whole := LogicPart.stray_faults v
  parts := by
    rintro _ ⟨⟩
    exact h
  first := hf

/-- A field that holds no conditions. -/
theorem faults_of_strays {f : DraftField} {v : Value} (hwhole : f.whole = .stray v)
    (hparts : f.parts = v.parts?.map fun vs => vs.map LogicPart.stray)
    (hfirst : f.first = LogicPart.first ((v.parts?.getD []).map LogicPart.stray)) :
    f.FaultsOfCondition := by
  have hstrays : ∀ vs : List Value, ∀ p ∈ vs.map LogicPart.stray, p.FaultsOfCondition := by
    intro vs p hp
    obtain ⟨w, _, rfl⟩ := List.mem_map.mp hp
    exact LogicPart.stray_faults w
  refine ⟨hwhole ▸ LogicPart.stray_faults v, fun ps hps => ?_,
    hfirst ▸ LogicPart.faulty_first (hstrays _)⟩
  obtain ⟨vs, _, rfl⟩ := Option.map_eq_some_iff.mp (hparts.symm.trans hps)
  exact hstrays vs

end DraftField

namespace Condition

mutual

/-- All errors among the tokens of a condition are those of conditions. -/
theorem layout_faults : ∀ (c : Condition) (position : Position),
    ∀ t ∈ c.layout position, t.FaultOfCondition
  | .logical op [], _ => faultOfCondition_cons (by simp) (by simp)
  | .logical op [c], position => layout_faults c position
  | .logical op (c :: d :: cs), position =>
    faultOfCondition_grouped (List.forall_mem_append.mpr
      ⟨layout_faults c .nested, layoutRest_faults op (d :: cs)⟩)
  | .negation c, _ =>
    faultOfCondition_cons (by simp) (@faultOfCondition_grouped true _ (layout_faults c .negated))
  | .draft .logical fields, position => DraftField.group_faults (draftFields_faults fields) position
  | .draft .negation fields, _ => DraftField.negation_faults (draftFields_faults fields)
  | .draft .comparison _, _ | .draft .array _, _ | .draft .jsonb _, _ | .draft .raw _, _
  | .comparison .., _ | .array .., _ | .jsonb .., _ | .raw .., _ | .stray _, _ =>
    faultOfCondition_leaf _
termination_by structural c => c

theorem layoutRest_faults (op : Connective) : ∀ cs : List Condition,
    ∀ t ∈ layoutRest op cs, t.FaultOfCondition
  | [] => by simp [layoutRest]
  | c :: cs => faultOfCondition_cons (by simp)
      (List.forall_mem_append.mpr ⟨layout_faults c .nested, layoutRest_faults op cs⟩)
termination_by structural cs => cs

theorem draftFields_faults : ∀ fields : List (String × Value),
    ∀ f ∈ draftFields fields, f.FaultsOfCondition
  | [] => by simp [draftFields]
  | (name, v) :: fields =>
    List.forall_mem_cons.mpr ⟨draftField_faults name v, draftFields_faults fields⟩
termination_by structural fields => fields

theorem draftField_faults (name : String) : ∀ v : Value,
    DraftField.FaultsOfCondition ⟨name, valuePart v, valueParts v, firstPart v⟩
  | .condition c => ⟨layout_faults c, (fun _ h => by cases h), LogicPart.faulty_error rfl⟩
  | .list xs | .tuple xs =>
    DraftField.faults_of_items (itemParts_faults xs) (LogicPart.faulty_first (itemParts_faults xs))
  | .set xs | .frozenSet xs =>
    DraftField.faults_of_items (itemParts_faults xs) (LogicPart.faulty_error rfl)
  | .dict es => DraftField.faults_of_items (keyParts_faults es) (zeroPart_faulty es)
  | .null | .bool _ | .int _ | .float _ | .str _ | .bytes _ | .byteArray _ | .constant _
  | .column _ | .columnDraft _ | .handle _ => DraftField.faults_of_strays rfl rfl rfl
termination_by structural v => v

theorem valuePart_faults : ∀ v : Value, (valuePart v).FaultsOfCondition
  | .condition c => layout_faults c
  | .null | .bool _ | .int _ | .float _ | .str _ | .bytes _ | .byteArray _ | .list _ | .tuple _
  | .set _ | .frozenSet _ | .dict _ | .constant _ | .column _ | .columnDraft _ | .handle _ =>
    LogicPart.stray_faults _
termination_by structural v => v

theorem itemParts_faults : ∀ vs : List Value, ∀ p ∈ itemParts vs, p.FaultsOfCondition
  | [] => by simp [itemParts]
  | v :: vs => List.forall_mem_cons.mpr ⟨valuePart_faults v, itemParts_faults vs⟩
termination_by structural vs => vs

theorem keyParts_faults : ∀ es : List (Value × Value), ∀ p ∈ keyParts es, p.FaultsOfCondition
  | [] => by simp [keyParts]
  | (k, _) :: es => List.forall_mem_cons.mpr ⟨valuePart_faults k, keyParts_faults es⟩
termination_by structural es => es

theorem zeroPart_faulty : ∀ es : List (Value × Value), LogicPart.Faulty (zeroPart es)
  | [] => LogicPart.faulty_error rfl
  | (k, v) :: es => by
    rw [zeroPart]
    split
    next => exact LogicPart.faulty_ok (valuePart_faults v)
    next => exact zeroPart_faulty es
termination_by structural es => es

end

end Condition

section

variable {p : Error → Prop} (hp : ∀ e, e.isOfCondition = true → p e)

include hp

theorem Scope.resolveValue_fails (s : Scope) (name : Value) (extra : List String) :
    FailsWith p (s.resolveValue name extra) := by
  have hnaming := Error.naming_of_condition hp
  unfold resolveValue
  split
  next => exact resolveName_fails hnaming s _ none extra
  next =>
    split
    next => exact .error (hp _ rfl)
    next => exact .error (hp _ rfl)
  next =>
    split
    next => exact .error (hp _ rfl)
    next => exact .error (hp _ rfl)
  next =>
    split
    next => exact .error (hp _ rfl)
    next =>
      refine (checkColumnName_fails hnaming _ _).bind fun _ _ => ?_
      split
      next => exact .ok _
      next => exact (ownerOfBare_fails hnaming s _ _).andThen

theorem jsonbText_fails (v : Value) : FailsWith p (jsonbText v) := by
  unfold jsonbText
  split
  next => exact .ok _
  next =>
    cases v.document with
    | ok s => exact .ok _
    | error fault => cases fault <;> exact .error (hp _ rfl)

theorem written_fails (v : Value) : FailsWith p v.written := by
  unfold Value.written
  split
  next => exact .ok _
  next => exact .error (hp _ rfl)

theorem jsonbDocument_fails (op : JsonbOperator) (v : Value) :
    FailsWith p (jsonbDocument op v) := by
  unfold jsonbDocument documentError
  split
  next => exact .ok _
  next => split <;> exact .error (hp _ rfl)

theorem jsonbKeysPiece_fails (v : Value) : FailsWith p (jsonbKeysPiece v) := by
  unfold jsonbKeysPiece
  split
  next => exact .ok _
  next => exact (Draft.walk_fails hp v).andThen

theorem Dialect.literalOf_fails (quoteReserved : Bool) (v : Value) :
    FailsWith p ((postgres quoteReserved).literalOf v) := by
  unfold postgres
  simp only
  split
  next => exact .error (hp _ rfl)
  next => exact .error (hp _ rfl)
  next =>
    split
    next => exact .ok _
    next => exact .error (hp _ rfl)

namespace Context

variable {ctx : Context}

theorem draftColumn_fails (fields : List (String × Value)) : FailsWith p (ctx.draftColumn fields) :=
  (Draft.get_fails hp fields "column").bind fun name _ =>
    Scope.resolveValue_fails hp ctx.scope name []

/-- An operand need not be sound. -/
theorem anyOperand_fails (v : Value) : FailsWith p (ctx.operand v) := by
  unfold operand
  split
  next => exact (columnText_fails (Error.naming_of_condition hp) _ none []).map
  next fields =>
    refine FailsWith.map ((Draft.get_fails hp fields "name").bind fun name _ => ?_)
    exact (Scope.resolveValue_fails hp ctx.scope name []).andThen
  next => exact fragment_fails fun _ => hp _ rfl
  next fields =>
    exact (Draft.fragment_fails hp fields).bind fun _ _ => fragment_fails fun _ => hp _ rfl
  next => exact .ok _

theorem anyOperands_fails (vs : List Value) : FailsWith p (ctx.operands vs) :=
  (FailsWith.forEach fun v _ => anyOperand_fails hp v).andThen

theorem anyComparison_fails (c : ResolvedColumn) (op : Comparison) (value : Value) :
    FailsWith p (ctx.comparison c op value) := by
  unfold comparison
  simp only
  split
  next => exact .ok _
  next =>
    split
    next =>
      exact (Draft.walk_fails hp value).bind fun vs _ => (anyOperands_fails hp vs).andThen
    next => exact (anyOperand_fails hp value).andThen

theorem anyArray_fails (c : ResolvedColumn) (op : ArrayOperator) (operand : Value)
    (elementType : Option String) : FailsWith p (ctx.array c op operand elementType) := by
  unfold array
  simp only
  split
  next =>
    refine (Draft.walk_fails hp operand).bind fun vs _ => ?_
    split
    next => exact .ok _
    next => exact (anyOperands_fails hp _).andThen
  next => exact (anyOperand_fails hp operand).andThen

theorem anyJsonb_fails (c : ResolvedColumn) (op : JsonbOperator) (path : List String)
    (operand : Value) : FailsWith p (ctx.jsonb c op path operand) := by
  unfold jsonb
  cases op with
  | contains | containedBy | fieldContains => exact (jsonbDocument_fails hp _ operand).andThen
  | hasKey | hasAnyKey | hasAllKeys => exact (jsonbKeysPiece_fails hp operand).andThen
  | fieldExists =>
    simp only
    split
    next => exact .ok _
    next => exact .error (hp _ rfl)
  | fieldIsNull => exact .ok _
  | fieldEquals | fieldNotEquals => exact (jsonbText_fails hp operand).andThen

theorem draftComparison_fails (fields : List (String × Value)) :
    FailsWith p (ctx.draftComparison fields) := by
  refine (draftColumn_fails hp fields).bind fun c _ => (Draft.memberOperator_fails hp fields).bind
    fun op _ => (Draft.get_fails hp fields "value").bind fun value _ => ?_
  split
  next => exact anyComparison_fails hp c _ value
  next =>
    simp only
    split
    next =>
      exact (Draft.walk_fails hp value).bind fun vs _ => (anyOperands_fails hp vs).bind fun _ _ =>
        .error (hp _ rfl)
    next => exact .error (hp _ rfl)
  next =>
    exact (Draft.comparisonSign_fails hp _).bind fun _ _ => (written_fails hp _).bind fun _ _ =>
      (anyOperand_fails hp value).andThen

theorem draftArray_fails (fields : List (String × Value)) :
    FailsWith p (ctx.draftArray fields) := by
  refine (draftColumn_fails hp fields).bind fun c _ => (Draft.operator_fails hp fields).bind
    fun op _ => ?_
  split
  next => exact .error (hp _ rfl)
  next =>
    refine (Draft.get_fails hp fields "operand").bind fun operand _ =>
      (Draft.get_fails hp fields "element_type").bind fun _ _ => ?_
    split
    next => exact .error (hp _ rfl)
    next => exact anyArray_fails hp c _ operand _

section

variable (hl : ∀ v, FailsWith p (ctx.dialect.literalOf v))

include hl

theorem draftPath_fails (column : String) (asText : Bool) (path : Value) :
    FailsWith p (ctx.draftPath column asText path) := by
  have hkeys : ∀ keys, FailsWith p (forEach ctx.dialect.literalOf keys) := fun keys =>
    .forEach fun v _ => hl v
  refine (Draft.walk_fails hp path).bind fun keys _ => ?_
  split
  next => exact (Draft.parts_fails hp path).bind fun _ _ => (hkeys keys).andThen
  next => exact (hkeys keys).andThen

theorem draftJsonb_fails (fields : List (String × Value)) :
    FailsWith p (ctx.draftJsonb fields) := by
  have hpath := draftPath_fails hp hl
  refine (draftColumn_fails hp fields).bind fun c _ => (Draft.operator_fails hp fields).bind
    fun op _ => (Draft.get_fails hp fields "path").bind fun path _ =>
      (Draft.get_fails hp fields "operand").bind fun operand _ => ?_
  cases op.text?.bind JsonbOperator.ofText? with
  | none => exact (written_fails hp op).bind fun _ _ => .error (hp _ rfl)
  | some known =>
    cases known with
    | contains | containedBy | fieldContains =>
      refine (hpath _ _ path).bind fun _ _ => ?_
      split
      next => exact .ok _
      next => exact .error (hp _ rfl)
    | fieldEquals | fieldNotEquals =>
      exact (hpath _ _ path).bind fun _ _ => (jsonbText_fails hp operand).andThen
    | hasKey | hasAnyKey | hasAllKeys => exact (jsonbKeysPiece_fails hp operand).andThen
    | fieldExists | fieldIsNull => exact (written_fails hp op).bind fun _ _ => .error (hp _ rfl)

theorem anyLeaf_fails (c : Condition) : FailsWith p (ctx.leaf c) := by
  have column : ∀ name, FailsWith p (ctx.scope.resolveName name) := fun name =>
    Scope.resolveName_fails (Error.naming_of_condition hp) ctx.scope name none []
  cases c with
  | comparison name op value =>
    exact (column name).bind fun c _ => anyComparison_fails hp c op value
  | array name op operand elementType =>
    exact (column name).bind fun c _ => anyArray_fails hp c op operand elementType
  | jsonb name op path operand =>
    exact (column name).bind fun c _ => anyJsonb_fails hp c op path operand
  | raw sql params => exact (fragment_fails fun _ => hp _ rfl).andThen
  | logical | negation | stray => exact .error (hp _ rfl)
  | draft kind fields =>
    cases kind with
    | comparison => exact draftComparison_fails hp fields
    | array => exact draftArray_fails hp fields
    | jsonb => exact draftJsonb_fails hp hl fields
    | raw =>
      exact (Draft.fragment_fails hp fields).bind fun _ _ =>
        (fragment_fails fun _ => hp _ rfl).andThen
    | logical | negation => exact .error (hp _ rfl)

/-- A condition need not be sound to have only errors of conditions. -/
theorem anyPredicate_fails (c : Condition) : FailsWith p (ctx.predicate c) := by
  refine (FailsWith.forEach fun t ht => ?_).map
  cases t with
  | leaf d => exact anyLeaf_fails hp hl d
  | fault e => exact .error (hp e (Condition.layout_faults c .root _ ht e rfl))
  | opening | closing | connective | negation | truth | word => exact .ok _

end

end Context

end

end QueryBuilder
