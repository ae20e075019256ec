import QueryBuilder.Proofs.Condition.Sound

/-!
What the checks say about operands: membership tests have items, the operand of an array operator is
a list just if the operator takes one, and key operators have their keys.
-/
namespace QueryBuilder

theorem walk_of_items {v : Value} {vs : List Value} (h : v.items? = some vs) :
    Draft.walk v = .ok vs := by
  cases v with
  | list xs | tuple xs | set xs | frozenSet xs =>
    cases h
    rfl
  | _ => cases h

namespace Condition

theorem items_of_membership {op : Comparison} {value : Value}
    (h : checkComparison op value = .ok ()) (hm : op.isMembership = true) :
    ∃ v vs, value.items? = some (v :: vs) := by
  unfold checkComparison at h
  rw [if_pos hm] at h
  split at h
  next => cases h
  next => cases h
  next vs hne hvs =>
    cases vs with
    | nil => exact (hne rfl).elim
    | cons v vs => exact ⟨v, vs, hvs⟩

theorem null_of_nullTest {op : Comparison} {value : Value}
    (h : checkComparison op value = .ok ()) (hn : op.isNullTest = true) : value = .null := by
  have hm : op.isMembership = false := by
    cases op <;> first | rfl | cases hn
  cases value with
  | null => rfl
  | _ => simp [checkComparison, hm, hn, Value.isNull] at h

theorem checkArray_eq_ok_iff {op : ArrayOperator} {operand : Value} :
    checkArray op operand = .ok () ↔ op.takesList = operand.isSequence := by
  unfold checkArray
  split
  next h => simpa using h
  next h => simpa using h

theorem items_of_takesList {op : ArrayOperator} {operand : Value}
    (h : checkArray op operand = .ok ()) (ht : op.takesList = true) :
    ∃ vs, operand.items? = some vs := by
  rw [checkArray_eq_ok_iff, ht] at h
  exact Option.isSome_iff_exists.mp h.symm

/-- The check of the path comes first, and that of the operand second. -/
theorem path_of_checkJsonb {op : JsonbOperator} {path : List String} {operand : Value}
    (h : checkJsonb op path operand = .ok ()) : op.isField = true ↔ path ≠ [] := by
  unfold checkJsonb at h
  cases hf : op.isField with
  | true =>
    cases path with
    | nil => simp [hf] at h
    | cons key keys => simp
  | false =>
    cases path with
    | nil => simp
    | cons key keys => simp [hf] at h

theorem isText_of_hasKey {path : List String} {operand : Value}
    (h : checkJsonb .hasKey path operand = .ok ()) : operand.isText = true := by
  have hp : path = [] := by simpa [JsonbOperator.isField] using path_of_checkJsonb h
  subst hp
  cases ht : operand.text? with
  | none => simp [checkJsonb, JsonbOperator.isField, ht] at h
  | some s => simp [Value.isText, ht]

/-- The keys of a list are texts, one at least. -/
theorem keys_of_checkJsonb {op : JsonbOperator} {path : List String} {operand : Value}
    (ho : op = .hasAnyKey ∨ op = .hasAllKeys) (h : checkJsonb op path operand = .ok ()) :
    ∃ k ks, operand.items? = some (k :: ks) ∧ ∀ key ∈ k :: ks, key.isText = true := by
  have hp : path = [] := by
    rcases ho with rfl | rfl <;> simpa [JsonbOperator.isField] using path_of_checkJsonb h
  subst hp
  cases hi : operand.items? with
  | none => rcases ho with rfl | rfl <;> simp [checkJsonb, JsonbOperator.isField, hi] at h
  | some ks =>
    cases ks with
    | nil => rcases ho with rfl | rfl <;> simp [checkJsonb, JsonbOperator.isField, hi] at h
    | cons k ks =>
      refine ⟨k, ks, rfl, ?_⟩
      have hall : (k :: ks).all Value.isText = true := by
        cases ha : (k :: ks).all Value.isText with
        | true => rfl
        | false =>
          rcases ho with rfl | rfl <;>
            simp only [checkJsonb, JsonbOperator.isField, hi, ha] at h <;> simp at h
      exact List.all_eq_true.mp hall

end Condition

end QueryBuilder
