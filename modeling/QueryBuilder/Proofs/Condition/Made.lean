import QueryBuilder.Call
import QueryBuilder.Proofs.Condition.Sound

/-!
Values that the factories yield. A column or a condition is only ever made by its check, by joining
or by negating, so every made value is sound.
-/
namespace QueryBuilder

/-- Holds of values that contain no other value. -/
def Value.isAtom : Value → Bool
  | .null | .bool _ | .int _ | .float _ | .str _ | .bytes _ | .byteArray _ | .constant _
  | .handle _ => true
  | _ => false

/-- The values that can be put together from data and the factories of columns and conditions. -/
inductive Value.Made : Value → Prop
  | atom {v : Value} (h : v.isAtom = true) : v.Made
  | sequence {v : Value} {vs : List Value} (hv : v.items? = some vs) (h : ∀ w ∈ vs, w.Made) :
      v.Made
  | mapping {es : List (Value × Value)} (h : ∀ e ∈ es, e.2.Made) : (Value.dict es).Made
  | record {kind : NodeKind} {es : List (Value × Value)} {v : Value} (he : ∀ e ∈ es, e.2.Made)
      (h : (kind.ofEntries (conditionEntries es)).toExcept = .ok v) : v.Made
  | join {op : Connective} {cs : List Condition} {c : Condition}
      (hs : ∀ d ∈ cs, (Value.condition d).Made) (h : Condition.join op cs = .ok c) :
      (Value.condition c).Made
  | negate {c d : Condition} (hc : (Value.condition c).Made) (h : Condition.negate c = .ok d) :
      (Value.condition d).Made

theorem NodeKind.ofEntries_sound {kind : NodeKind} {es : List ConditionEntry} {v : Value}
    (hs : ∀ e ∈ es, e.Sound) (h : kind.ofEntries es = .ok v) : v.Sound := by
  cases kind with
  | condition kind =>
    obtain ⟨c, hc, rfl⟩ := Reading.map_eq_ok.mp h
    exact Condition.ofEntries_sound hs hc
  | column =>
    simp only [NodeKind.ofEntries, Reading.apply_eq_ok, Reading.functor_map_eq_ok] at h
    obtain ⟨_, _, ⟨_, name, ⟨_, _, rfl⟩, hn, rfl⟩, _, rfl⟩ := h
    exact ConditionEntry.column_isColumnName hn

theorem Value.Made.sound {v : Value} (h : v.Made) : v.Sound := by
  induction h with
  | @atom v h => cases v <;> simp_all [Value.isAtom, Value.Sound]
  | @sequence v vs hv _ ih =>
    cases v with
    | list xs | tuple xs | set xs | frozenSet xs =>
      cases hv
      exact soundItems_iff.mpr ih
    | _ => cases hv
  | mapping _ ih => exact soundEntries_iff.mpr ih
  | record _ h ih =>
    have hs := conditionEntries_sound _ (soundEntries_iff.mpr ih)
    exact NodeKind.ofEntries_sound hs (Reading.toExcept_eq_ok.mp h)
  | join _ h ih => exact Condition.join_sound ih h
  | negate _ h ih => exact Condition.negate_sound ih h

/-- What fields make is a column or a condition and not a list or a mapping. -/
theorem NodeKind.ofEntries_isRecord {kind : NodeKind} {es : List ConditionEntry} {v : Value}
    (h : kind.ofEntries es = .ok v) : v.items? = none ∧ v.entries? = none := by
  cases kind with
  | condition kind =>
    obtain ⟨c, _, rfl⟩ := Reading.map_eq_ok.mp h
    exact ⟨rfl, rfl⟩
  | column =>
    simp only [NodeKind.ofEntries, Reading.apply_eq_ok, Reading.functor_map_eq_ok] at h
    obtain ⟨_, _, ⟨_, name, ⟨_, _, rfl⟩, _, rfl⟩, _, rfl⟩ := h
    exact ⟨rfl, rfl⟩

namespace Value

theorem Made.items {v : Value} {vs : List Value} (h : v.Made) (hv : v.items? = some vs) :
    ∀ w ∈ vs, w.Made := by
  cases h with
  | atom h => cases v <;> simp_all [isAtom, items?]
  | sequence hw h =>
    cases hw.symm.trans hv
    exact h
  | mapping h => cases hv
  | record _ h =>
    have hn := (NodeKind.ofEntries_isRecord (Reading.toExcept_eq_ok.mp h)).1
    cases hn.symm.trans hv
  | join _ h => cases hv
  | negate _ h => cases hv

theorem Made.entries {es : List (Value × Value)} (h : (Value.dict es).Made) :
    ∀ e ∈ es, e.2.Made := by
  cases h with
  | atom h => cases h
  | sequence hv _ => cases hv
  | mapping h => exact h
  | record _ h => cases (NodeKind.ofEntries_isRecord (Reading.toExcept_eq_ok.mp h)).2

theorem Made.of_make {kind : NodeKind} {fields : List (String × Value)} {v : Value}
    (hf : ∀ f ∈ fields, f.2.Made) (h : kind.make fields = .ok v) : v.Made := by
  refine .record (fun e he => ?_) h
  obtain ⟨f, hm, rfl⟩ := List.mem_map.mp he
  exact hf f hm

/-- Validating takes over what is made already, and makes the rest from its entries. -/
theorem Made.of_validate {kind : NodeKind} {v w : Value} (hv : v.Made)
    (h : kind.validate v = .ok w) : w.Made := by
  unfold NodeKind.validate at h
  split at h
  next => exact .record hv.entries h
  case h_2 | h_3 =>
    cases h
    exact hv
  next =>
    split at h
    next =>
      obtain ⟨_, _, rfl⟩ := map_eq_ok_iff.mp h
      exact hv
    next => cases h
  next => cases h

theorem Made.of_spread {args : List Value} (ha : ∀ a ∈ args, a.Made) :
    ∀ a ∈ spread args, a.Made := by
  unfold spread
  split
  next w =>
    cases hw : w.items? with
    | none => simpa using ha
    | some vs => simpa using (ha w (by simp)).items hw
  next => exact ha

theorem Made.of_conditionsOf {method : Method} {vs : List Value} {cs : List Condition}
    (hv : ∀ v ∈ vs, v.Made) (h : conditionsOf method vs = .ok cs) :
    ∀ c ∈ cs, (Value.condition c).Made := by
  fun_induction conditionsOf method vs generalizing cs with
  | case1 =>
    cases h
    simp
  | case2 c vs ih =>
    obtain ⟨ds, hd, h⟩ := bind_eq_ok_iff.mp h
    cases h
    intro d hm
    rcases List.mem_cons.mp hm with rfl | hm
    · exact hv _ (by simp)
    · exact ih (fun v hm => hv v (by simp [hm])) hd d hm
  | case3 v vs => simp at h

theorem Made.of_combine {op : Connective} {args : List Value} {v : Value}
    (ha : ∀ a ∈ args, a.Made) (h : combine op args = .ok v) : v.Made := by
  obtain ⟨cs, hcs, h⟩ := bind_eq_ok_iff.mp h
  have hm := of_conditionsOf (of_spread ha) hcs
  split at h
  next c =>
    cases h
    exact hm c (by simp)
  next =>
    obtain ⟨c, hj, rfl⟩ := map_eq_ok_iff.mp h
    exact .join hm hj

theorem Made.of_compare {column op value v : Value} (hc : column.Made) (ho : op.Made)
    (hv : value.Made) (h : compare column op value = .ok v) : v.Made :=
  of_make (by simp [hc, ho, hv]) h

end Value

theorem JsonbColumn.column_of_field {j : JsonbColumn} {name : Value} {f : JsonbField}
    (h : j.field name = .ok f) : f.column = j.column := by
  obtain ⟨_, _, h⟩ := bind_eq_ok_iff.mp h
  cases h
  rfl

theorem JsonbColumn.column_of_walk {j : JsonbColumn} {keys : Value} {f : JsonbField}
    (h : j.walk keys = .ok f) : f.column = j.column := by
  unfold walk at h
  split at h
  next => cases h
  next =>
    obtain ⟨path, _, h⟩ := bind_eq_ok_iff.mp h
    split at h
    next => cases h
    next =>
      cases h
      rfl

theorem JsonbField.column_of_field {f g : JsonbField} {name : Value} (h : f.field name = .ok g) :
    g.column = f.column := by
  obtain ⟨_, _, h⟩ := bind_eq_ok_iff.mp h
  cases h
  rfl

/-- What a call goes on from is made of made values. -/
def Term.Made : Term → Prop
  | .factory => True
  | .value v => v.Made
  | .array a => a.column.Made ∧ a.elementType.Made
  | .jsonb j => j.column.Made
  | .field f => f.column.Made

namespace Term

theorem create_made {method : String} {args : List Value} {u : Term}
    (ha : ∀ a ∈ args, a.Made) (h : create method args = .ok u) : u.Made := by
  unfold create at h
  split at h
  case h_1 | h_2 =>
    obtain ⟨v, hv, rfl⟩ := map_eq_ok_iff.mp h
    exact Value.Made.of_combine ha hv
  next node =>
    obtain ⟨v, hv, rfl⟩ := map_eq_ok_iff.mp h
    unfold QueryBuilder.negate at hv
    split at hv
    next c =>
      obtain ⟨d, hd, rfl⟩ := map_eq_ok_iff.mp hv
      exact .negate (ha _ (by simp)) hd
    next => cases hv
  next =>
    cases h
    exact ⟨ha _ (by simp), .atom rfl⟩
  next =>
    cases h
    exact ⟨ha _ (by simp), ha _ (by simp)⟩
  next =>
    cases h
    exact ha _ (by simp)
  case h_7 | h_8 =>
    obtain ⟨v, hv, rfl⟩ := map_eq_ok_iff.mp h
    exact Value.Made.of_make (by simpa using ha) hv
  next sql params =>
    obtain ⟨v, hv, rfl⟩ := map_eq_ok_iff.mp h
    have hp : (Value.tuple params).Made := .sequence rfl fun w hw => ha w (by simp [hw])
    exact Value.Made.of_make (by simp [ha sql, hp]) hv
  next =>
    cases h
    refine .mapping fun e he => ?_
    obtain ⟨name, _, rfl⟩ := List.mem_map.mp he
    exact .atom rfl
  next => split at h <;> cases h

theorem jsonb_apply_made {j : JsonbColumn} {op : JsonbOperator} {operand v : Value}
    (hj : j.column.Made) (ho : operand.Made) (h : j.apply op operand = .ok v) : v.Made := by
  have hs : (Value.str op.text).Made := .atom rfl
  exact Value.Made.of_make (by simp [hj, ho, hs]) h

theorem field_apply_made {f : JsonbField} {op : JsonbOperator} {operand v : Value}
    (hf : f.column.Made) (ho : operand.Made) (h : f.apply op operand = .ok v) : v.Made := by
  have hs : (Value.str op.text).Made := .atom rfl
  have hp : (Value.tuple (f.path.map .str)).Made := by
    refine .sequence rfl fun w hw => ?_
    obtain ⟨key, _, rfl⟩ := List.mem_map.mp hw
    exact .atom rfl
  exact Value.Made.of_make (by simp [hf, ho, hs, hp]) h

/-- Whatever is called on made values yields made values. -/
theorem call_made {t u : Term} {method : String} {args : List Value} (ht : t.Made)
    (ha : ∀ a ∈ args, a.Made) (h : t.call method args = .ok u) : u.Made := by
  unfold call at h
  split at h
  next => exact create_made ha h
  next => split at h <;> simp at h
  next a =>
    split at h
    next => cases h
    next op operand _ =>
      obtain ⟨v, hv, rfl⟩ := map_eq_ok_iff.mp h
      have hs : (Value.str op.text).Made := .atom rfl
      exact Value.Made.of_make (by simp [ht.1, ht.2, hs, ha operand]) hv
    next => cases h
  next j =>
    split at h
    next =>
      obtain ⟨f, hf, rfl⟩ := map_eq_ok_iff.mp h
      rw [Term.Made, JsonbColumn.column_of_field hf]
      exact ht
    next =>
      obtain ⟨f, hf, rfl⟩ := map_eq_ok_iff.mp h
      rw [Term.Made, JsonbColumn.column_of_walk hf]
      exact ht
    next => cases h
    next => cases h
    next => cases h
    next op operand _ _ _ =>
      obtain ⟨v, hv, rfl⟩ := map_eq_ok_iff.mp h
      exact jsonb_apply_made ht (ha operand (by simp)) hv
    next => cases h
  next f =>
    split at h
    next =>
      obtain ⟨g, hg, rfl⟩ := map_eq_ok_iff.mp h
      rw [Term.Made, JsonbField.column_of_field hg]
      exact ht
    next => cases h
    next => cases h
    next op operand _ _ =>
      obtain ⟨v, hv, rfl⟩ := map_eq_ok_iff.mp h
      exact field_apply_made ht (ha operand (by simp)) hv
    next =>
      obtain ⟨v, hv, rfl⟩ := map_eq_ok_iff.mp h
      exact field_apply_made ht (.atom rfl) hv
    next => cases h

/-- What a function can come by: the factory that it is called with, values that are made, and what
the factory and its methods yield from these. -/
inductive Obtained : Term → Prop
  | factory : Obtained .factory
  | value {v : Value} (h : v.Made) : Obtained (.value v)
  | compare {column op value v : Value} (hc : Obtained (.value column))
      (ho : Obtained (.value op)) (hv : Obtained (.value value))
      (h : QueryBuilder.compare column op value = .ok v) : Obtained (.value v)
  | call {t u : Term} {method : String} {args : List Value} (ht : Obtained t)
      (ha : ∀ a ∈ args, Obtained (.value a)) (h : t.call method args = .ok u) : Obtained u

/-- However many calls a function makes, it comes by made values only. -/
theorem Obtained.made {t : Term} (h : t.Obtained) : t.Made := by
  -- on how the function came by the term: a call on made terms is the only step
  induction h with
  | factory => trivial
  | value h => exact h
  | compare _ _ _ h hc ho hv => exact Value.Made.of_compare hc ho hv h
  | call _ _ h ht ha => exact call_made ht ha h

end Term

end QueryBuilder
