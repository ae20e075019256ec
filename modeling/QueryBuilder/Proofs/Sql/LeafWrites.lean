import QueryBuilder.Proofs.Condition.Operand
import QueryBuilder.Proofs.Sql.Names
import QueryBuilder.Proofs.Sql.Types
import QueryBuilder.Proofs.Sql.Writes

/-!
The pieces of sound conditions without connectives: they bind what the condition binds, between
texts that are inert.
-/
namespace QueryBuilder

open Text

variable {ctx : Context}

namespace Context

theorem referenceText_inert (hd : ∃ q, ctx.dialect = Dialect.postgres q) {name : String}
    (h : IsWritable name) : Inert (ctx.referenceText name) := by
  obtain ⟨q, hd⟩ := hd
  refine Inert.intercalate (by decide) fun x hx => ?_
  obtain ⟨p, hm, rfl⟩ := List.mem_map.mp hx
  rw [hd]
  exact identifier_inert q (h p hm)

theorem columnText_inert (hp : ctx.Plain) {name text : String} {default? : Option String}
    {extra : List String} (hn : IsItemName name)
    (hq : ∀ q ∈ default?, Identifier.isValid q = true)
    (h : ctx.columnText name default? extra = .ok text) : Inert text := by
  obtain ⟨column, hr, h⟩ := bind_eq_ok_iff.mp h
  cases h
  exact referenceText_inert hp.dialect (Scope.resolveName_isWritable hn hq hr)

theorem operand_writes (hp : ctx.Plain) {v : Value} {p : Piece} (hs : v.Sound)
    (h : ctx.operand v = .ok p) : Writes [p] v.sites := by
  unfold operand at h
  split at h
  next name =>
    obtain ⟨text, ht, rfl⟩ := map_eq_ok_iff.mp h
    exact .text (columnText_inert hp (.column hs) (by simp) ht)
  next => exact hs.elim
  next sql params =>
    obtain ⟨readable, rfl⟩ := Piece.fragment_eq_ok h
    exact .raw sql params readable
  next => exact hs.elim
  next hcolumn hdraft hraw _ =>
    cases h
    have hv : v.sites = [.value v] := by
      unfold Value.sites
      split
      next => exact (hcolumn _ rfl).elim
      next => exact (hdraft _ rfl).elim
      next => exact (hraw _ _ rfl).elim
      next => rfl
    rw [hv]
    exact .bind v

end Context

theorem inert_operator {name op rest : String} (hn : Inert name) (ho : isPlainText op = true)
    (hr : isPlainText rest = true) : Inert (name ++ " " ++ op ++ rest) := by
  rw [String.append_assoc, String.append_assoc]
  refine hn.tail ?_ ?_
  · simp only [isPlainText_append, ho, hr, Bool.and_true]
    decide
  · rw [String.toList_append]
    exact softStart_append (by decide)

theorem softEnd_toList_append {x y : String} (h : softEnd y.toList = true) :
    softEnd (x ++ y).toList = true := by
  rw [String.toList_append]
  exact softEnd_append h

/-- A column and an operator in front of what is bound. -/
theorem operator_writes {name op rest : String} {ps : List Piece} {σ : List Site}
    (hn : Inert name) (ho : isPlainText op = true) (hr : isPlainText rest = true)
    (he : softEnd rest.toList = true) (h : Writes ps σ) :
    Writes (.text (name ++ " " ++ op ++ rest) :: ps) σ :=
  .lead (inert_operator hn ho hr) (softEnd_toList_append he) h

theorem Comparison.isPlainText_sql (op : Comparison) : isPlainText op.sql = true := by
  cases op <;> decide

theorem ArrayOperator.isPlainText_sql (op : ArrayOperator) : isPlainText op.sql = true := by
  cases op <;> decide

theorem JsonbOperator.isPlainText_sql (op : JsonbOperator) : isPlainText op.sql = true := by
  cases op <;> decide

namespace Context

theorem operands_write (hp : ctx.Plain) {vs : List Value} {ps : List Piece}
    (hs : ∀ v ∈ vs, v.Sound) (h : ctx.operands vs = .ok ps) :
    Writes ps (vs.flatMap Value.sites) := by
  obtain ⟨pieces, hf, h⟩ := bind_eq_ok_iff.mp h
  cases h
  exact Writes.forEach (by decide) (fun v hv _ h => operand_writes hp (hs v hv) h) hf

theorem comparison_writes (hp : ctx.Plain) {column : ResolvedColumn} {op : Comparison}
    {value : Value} {ps : List Piece} (hc : IsWritable column.reference.text)
    (hk : Condition.checkComparison op value = .ok ()) (hs : value.Sound)
    (h : ctx.comparison column op value = .ok ps) : Writes ps (op.sites value) := by
  have hn : Inert (ctx.resolvedText column) := referenceText_inert hp.dialect hc
  have ho := op.isPlainText_sql
  unfold comparison at h
  simp only at h
  unfold Comparison.sites
  by_cases hnull : op.isNullTest = true
  · simp only [hnull, if_true] at h ⊢
    cases h
    exact .text (inert_operator hn ho (by decide))
  · by_cases hmember : op.isMembership = true
    · simp only [hnull, hmember, if_true] at h ⊢
      obtain ⟨v, rest, hvs⟩ := Condition.items_of_membership hk hmember
      obtain ⟨_, hw, h⟩ := bind_eq_ok_iff.mp h
      cases (walk_of_items hvs).symm.trans hw
      obtain ⟨operands, ho', h⟩ := bind_eq_ok_iff.mp h
      cases h
      have hops := operands_write hp (hs.items hvs) ho'
      rw [Value.itemSites, hvs]
      exact operator_writes hn ho (by decide) (by decide)
        (.tail hops (.of_plain (by decide)) (by decide))
    · simp only [hnull, hmember] at h ⊢
      obtain ⟨p, hv, h⟩ := bind_eq_ok_iff.mp h
      cases h
      exact operator_writes hn ho (by decide) (by decide) (operand_writes hp hs hv)

theorem emptyArray_isPlainText (hp : ctx.Plain) {type : String} (ht : isPlainText type = true) :
    isPlainText (" " ++ ctx.dialect.emptyArray type) = true := by
  obtain ⟨q, hd⟩ := hp.dialect
  have he : ctx.dialect.emptyArray type = "ARRAY[]::" ++ type ++ "[]" := by
    rw [hd]
    rfl
  simp only [he, isPlainText_append, ht]
  decide

theorem array_writes (hp : ctx.Plain) {column : ResolvedColumn} {op : ArrayOperator}
    {operand : Value} {elementType : Option String} {ps : List Piece}
    (hc : IsWritable column.reference.text) (hk : Condition.checkArray op operand = .ok ())
    (hs : operand.Sound) (ht : ∀ t ∈ elementType, ElementType.isValid t = true)
    (h : ctx.array column op operand elementType = .ok ps) : Writes ps (op.sites operand) := by
  have hn : Inert (ctx.resolvedText column) := referenceText_inert hp.dialect hc
  have ho := op.isPlainText_sql
  unfold array at h
  simp only at h
  unfold ArrayOperator.sites
  by_cases hlist : op.takesList = true
  · simp only [hlist, if_true] at h ⊢
    obtain ⟨vs, hvs⟩ := Condition.items_of_takesList hk hlist
    obtain ⟨_, hw, h⟩ := bind_eq_ok_iff.mp h
    cases (walk_of_items hvs).symm.trans hw
    rw [Value.itemSites, hvs]
    split at h
    next =>
      cases h
      have htype : isPlainText ((givenName elementType).getD (ctx.elementType column)) = true := by
        cases hg : givenName elementType with
        | none => exact hp.elementType column
        | some t => exact ElementType.isPlainText_of_isValid (ht t (mem_of_givenName hg))
      have hrest := emptyArray_isPlainText hp htype
      have hi := inert_operator hn ho hrest
      rw [← String.append_assoc] at hi
      exact .text hi
    next =>
      obtain ⟨operands, ho', h⟩ := bind_eq_ok_iff.mp h
      cases h
      have hops := operands_write hp (hs.items hvs) ho'
      exact operator_writes hn ho (by decide) (by decide)
        (.tail hops (.of_plain (by decide)) (by decide))
  · simp only [hlist] at h ⊢
    obtain ⟨p, hv, h⟩ := bind_eq_ok_iff.mp h
    cases h
    refine .tail (operand_writes hp hs hv) ?_ ?_
    · have hfront : isPlainText (" = " ++ op.sql ++ "(") = true := by
        rw [isPlainText_append, isPlainText_append, ho]
        decide
      exact .tail (.lead hfront (softEnd_toList_append (by decide)) hn) (by decide) (by decide)
    · simp only [String.toList_append, List.append_assoc]
      exact softStart_append (by decide)

end Context

theorem jsonbPathText_inert {column : String} {asText : Bool} {keys : List String}
    (hc : Inert column) (hk : ∀ key ∈ keys, Inert key) :
    Inert (jsonbPathText column asText keys) := by
  fun_induction jsonbPathText column asText keys with
  | case1 column => exact hc
  | case2 column key arrow =>
    have ha : isSpacer (" " ++ arrow ++ " ") = true := by
      cases asText <;> decide
    have hj := hc.join ha (hk key (by simp))
    rw [← String.append_assoc, ← String.append_assoc] at hj
    exact hj
  | case3 column key keys hne ih =>
    refine ih ?_ fun k hm => hk k (by simp [hm])
    exact hc.join (by decide) (hk key (by simp))

theorem documentText_eq {v : Value} {text : String} (h : v.document = .ok text) :
    v.documentText = text := by
  rw [Value.documentText, h]

theorem jsonbText_eq {v : Value} {text : String} (h : jsonbText v = .ok text) :
    v.text?.getD v.documentText = text := by
  unfold jsonbText at h
  split at h
  next s hs =>
    cases h
    rw [hs]
    rfl
  next hn =>
    rw [hn]
    cases hd : v.document with
    | ok t =>
      rw [hd] at h
      cases h
      exact documentText_eq hd
    | error e =>
      rw [hd] at h
      cases h

theorem jsonbDocument_writes {op : JsonbOperator} {operand : Value} {ps : List Piece}
    (h : jsonbDocument op operand = .ok ps) : Writes ps [.value (.str operand.documentText)] := by
  unfold jsonbDocument at h
  split at h
  next text ht =>
    cases h
    rw [documentText_eq ht]
    exact .tail (.bind _) (.of_plain (by decide)) (by decide)
  next => cases h

theorem jsonbKeysPiece_writes {operand : Value} {p : Piece}
    (hk : operand.isText = true ∨ ∃ ks, operand.items? = some ks)
    (h : jsonbKeysPiece operand = .ok p) :
    Writes [p] [.value (if operand.isText then operand else .list (operand.items?.getD []))] := by
  unfold jsonbKeysPiece at h
  by_cases ht : operand.isText = true
  · simp only [ht, if_true] at h ⊢
    cases h
    exact .bind operand
  · simp only [ht] at h ⊢
    obtain ⟨ks, hks⟩ := hk.resolve_left ht
    obtain ⟨_, hw, h⟩ := bind_eq_ok_iff.mp h
    cases (walk_of_items hks).symm.trans hw
    cases h
    rw [hks]
    exact .bind _

namespace Context

theorem jsonbPath_inert (hp : ctx.Plain) {column : String} {asText : Bool} {keys : List String}
    (hc : Inert column) : Inert (ctx.jsonbPath column asText keys) := by
  obtain ⟨q, hd⟩ := hp.dialect
  refine jsonbPathText_inert hc fun key hk => ?_
  obtain ⟨k, _, rfl⟩ := List.mem_map.mp hk
  rw [hd]
  exact literal_inert q k

theorem jsonb_writes (hp : ctx.Plain) {column : ResolvedColumn} {op : JsonbOperator}
    {path : List String} {operand : Value} {ps : List Piece}
    (hc : IsWritable column.reference.text) (hk : Condition.checkJsonb op path operand = .ok ())
    (h : ctx.jsonb column op path operand = .ok ps) : Writes ps (op.sites path operand) := by
  have hn : Inert (ctx.resolvedText column) := referenceText_inert hp.dialect hc
  have ho := op.isPlainText_sql
  have target : ∀ {asText : Bool} {keys : List String},
      Inert (ctx.jsonbPath (ctx.resolvedText column) asText keys) := jsonbPath_inert hp hn
  cases op with
  | contains | containedBy | fieldContains =>
    obtain ⟨document, hd, h⟩ := bind_eq_ok_iff.mp h
    cases h
    exact operator_writes target ho (by decide) (by decide) (jsonbDocument_writes hd)
  | hasKey =>
    obtain ⟨p, hp', h⟩ := bind_eq_ok_iff.mp h
    cases h
    have hkey := jsonbKeysPiece_writes (Or.inl (Condition.isText_of_hasKey hk)) hp'
    exact operator_writes hn ho (by decide) (by decide) hkey
  | hasAnyKey | hasAllKeys =>
    obtain ⟨p, hp', h⟩ := bind_eq_ok_iff.mp h
    cases h
    obtain ⟨k, ks, hks, _⟩ := Condition.keys_of_checkJsonb (by simp) hk
    have hkeys := jsonbKeysPiece_writes (Or.inr ⟨_, hks⟩) hp'
    exact operator_writes hn ho (by decide) (by decide) hkeys
  | fieldExists =>
    simp only [jsonb] at h
    split at h
    next key hkey =>
      cases h
      simp only [JsonbOperator.sites, hkey]
      exact operator_writes target ho (by decide) (by decide) (.bind _)
    next => cases h
  | fieldIsNull =>
    cases h
    have hfield : Inert (ctx.jsonbPath (ctx.resolvedText column) true path) := target
    have hw : isPlainText (" " ++ JsonbOperator.fieldIsNull.sql) = true := by decide
    have hi := hfield.tail hw (by decide)
    rw [← String.append_assoc] at hi
    exact .text hi
  | fieldEquals | fieldNotEquals =>
    obtain ⟨text, ht, h⟩ := bind_eq_ok_iff.mp h
    cases h
    rw [JsonbOperator.sites, jsonbText_eq ht]
    exact operator_writes target ho (by decide) (by decide) (.bind _)

/-- A sound leaf writes the sites of its condition. -/
theorem leaf_writes (hp : ctx.Plain) {c : Condition} {ps : List Piece} (hs : c.Sound)
    (h : ctx.leaf c = .ok ps) : Writes ps c.sites := by
  have written : ∀ {name : String} {column : ResolvedColumn}, IsColumnName name →
      ctx.scope.resolveName name = .ok column → IsWritable column.reference.text :=
    fun hn hr => Scope.resolveName_isWritable (.column hn) (by simp) hr
  cases c with
  | comparison name op value =>
    obtain ⟨column, hr, h⟩ := bind_eq_ok_iff.mp h
    exact comparison_writes hp (written hs.1 hr) hs.2.1 hs.2.2 h
  | array name op operand elementType =>
    obtain ⟨column, hr, h⟩ := bind_eq_ok_iff.mp h
    exact array_writes hp (written hs.1 hr) hs.2.1 hs.2.2.1 hs.2.2.2 h
  | jsonb name op path operand =>
    obtain ⟨column, hr, h⟩ := bind_eq_ok_iff.mp h
    exact jsonb_writes hp (written hs.1 hr) hs.2.2 h
  | raw sql params =>
    obtain ⟨p, hp, h⟩ := bind_eq_ok_iff.mp h
    obtain ⟨readable, rfl⟩ := Piece.fragment_eq_ok hp
    cases h
    exact .raw sql params readable
  | logical op children | negation child => cases h
  | stray v | draft kind fields => exact hs.elim

end Context

end QueryBuilder
