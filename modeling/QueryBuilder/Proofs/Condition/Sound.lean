import QueryBuilder.Condition.Factory
import QueryBuilder.Proofs.Identifier.Parsed

/-!
Well-formed values and conditions. A condition is sound if its columns are columns and its operands
suit its operators, all the way down; conditions made from the fields of sound values are sound.
-/
namespace QueryBuilder

mutual

/-- Holds of values in which every column and condition is well formed. -/
def Value.Sound : Value → Prop
  | .list xs | .tuple xs | .set xs | .frozenSet xs => SoundItems xs
  | .dict es => SoundEntries es
  | .column name => IsColumnName name
  | .columnDraft _ => False
  | .condition c => c.Sound
  | .null | .bool _ | .int _ | .float _ | .str _ | .bytes _ | .byteArray _ | .constant _
  | .handle _ => True
termination_by structural v => v

def SoundItems : List Value → Prop
  | [] => True
  | v :: vs => v.Sound ∧ SoundItems vs
termination_by structural vs => vs

def SoundEntries : List (Value × Value) → Prop
  | [] => True
  | (_, v) :: es => v.Sound ∧ SoundEntries es
termination_by structural es => es

/-- Holds of conditions that pass their check, as do those they consist of. -/
def Condition.Sound : Condition → Prop
  | .comparison column op value =>
    IsColumnName column ∧ Condition.checkComparison op value = .ok () ∧ value.Sound
  | .logical _ children => SoundConditions children
  | .negation child => child.Sound
  | .array column op operand elementType =>
    IsColumnName column ∧ Condition.checkArray op operand = .ok () ∧ operand.Sound ∧
      ∀ t ∈ elementType, ElementType.isValid t = true
  | .jsonb column op path operand =>
    IsColumnName column ∧ "" ∉ path ∧ Condition.checkJsonb op path operand = .ok ()
  | .raw sql _ => Text.isBlankText sql = false
  | .stray _ | .draft _ _ => False
termination_by structural c => c

def SoundConditions : List Condition → Prop
  | [] => True
  | c :: cs => c.Sound ∧ SoundConditions cs
termination_by structural cs => cs

end

theorem soundItems_iff {vs : List Value} : SoundItems vs ↔ ∀ v ∈ vs, v.Sound := by
  induction vs with
  | nil => simp [SoundItems]
  | cons v vs ih => simp [SoundItems, ih]

theorem soundEntries_iff {es : List (Value × Value)} :
    SoundEntries es ↔ ∀ e ∈ es, e.2.Sound := by
  induction es with
  | nil => simp [SoundEntries]
  | cons e es ih => simp [SoundEntries, ih]

theorem soundConditions_iff {cs : List Condition} : SoundConditions cs ↔ ∀ c ∈ cs, c.Sound := by
  induction cs with
  | nil => simp [SoundConditions]
  | cons c cs ih => simp [SoundConditions, ih]

theorem Value.Sound.items {v : Value} {vs : List Value} (h : v.Sound) (hv : v.items? = some vs) :
    ∀ w ∈ vs, w.Sound := by
  cases v with
  | list xs | tuple xs | set xs | frozenSet xs =>
    cases hv
    exact soundItems_iff.mp h
  | _ => cases hv

namespace Condition

/-- A sound condition passes the check that is made wherever it becomes a part. -/
theorem Sound.accept {c : Condition} (h : c.Sound) : c.accept = .ok c := by
  cases c with
  | comparison column op value => exact accept_eq_ok rfl rfl h.2.1
  | logical op children => exact accept_eq_ok rfl rfl rfl
  | negation child => exact accept_eq_ok rfl rfl rfl
  | array column op operand elementType => exact accept_eq_ok rfl rfl h.2.1
  | jsonb column op path operand => exact accept_eq_ok rfl rfl h.2.2
  | raw sql params => exact accept_eq_ok rfl rfl rfl
  | stray v => exact h.elim
  | draft kind fields => exact h.elim

theorem accept_eq_self {c d : Condition} (h : c.accept = .ok d) : d = c := by
  unfold accept at h
  split at h
  next =>
    obtain ⟨a, ha, h⟩ := Reading.check_eq_ok.mp h
    obtain ⟨_, _, hd⟩ := map_eq_ok_iff.mp h
    cases ha
    exact hd.symm
  next =>
    unfold claimIssue at h
    split at h <;> simp at h

/-- Conditions are joined as they are, if each of them is accepted. -/
theorem join_eq_ok_iff {op : Connective} {children : List Condition} {c : Condition} :
    join op children = .ok c ↔ (∀ d ∈ children, d.accept = .ok d) ∧ c = .logical op children := by
  constructor
  · intro h
    obtain ⟨ds, hds, rfl⟩ := Reading.map_eq_ok.mp (Reading.toExcept_eq_ok.mp h)
    have haccept := Reading.items_eq_ok_iff.mp (Reading.below_eq_ok.mp hds)
    have heq : List.Forall₂ Eq ds children := haccept.flip.imp fun _ _ => accept_eq_self
    rw [List.forall₂_eq_eq_eq] at heq
    subst heq
    exact ⟨List.forall₂_same.mp haccept, rfl⟩
  · rintro ⟨h, rfl⟩
    exact join_eq_ok op h

theorem join_eq_logical {op : Connective} {children : List Condition} {c : Condition}
    (h : join op children = .ok c) : c = .logical op children :=
  (join_eq_ok_iff.mp h).2

theorem join_sound {op : Connective} {children : List Condition} {c : Condition}
    (hs : ∀ d ∈ children, d.Sound) (h : join op children = .ok c) : c.Sound := by
  cases join_eq_logical h
  exact soundConditions_iff.mpr hs

theorem negate_sound {child c : Condition} (hs : child.Sound) (h : negate child = .ok c) :
    c.Sound := by
  rw [negate, hs.accept] at h
  cases h
  exact hs

end Condition

/-- Whatever an entry of a record stands for is sound. -/
structure ConditionEntry.Sound (e : ConditionEntry) : Prop where
  value : e.value.Sound
  asCondition : ∀ {c}, e.asCondition = .ok c → c.Sound
  asConditions : ∀ {cs}, e.asConditions = .ok cs → ∀ c ∈ cs, c.Sound

namespace ConditionEntry

theorem column_isColumnName {es : List ConditionEntry} {name s : String}
    (h : column es name = .ok s) : IsColumnName s := by
  unfold column Entries.required at h
  rw [Reading.below_eq_ok] at h
  split at h
  next =>
    obtain ⟨_, _, hr⟩ := Reading.check_eq_ok.mp h
    exact readColumn_isColumnName hr
  next => simp at h

theorem get_sound {es : List ConditionEntry} (hs : ∀ e ∈ es, e.Sound) {name : String} {v : Value}
    (h : (entries es).get? name = some v) : v.Sound := by
  obtain ⟨e, he, hv⟩ := Option.map_eq_some_iff.mp h
  obtain ⟨f, hf, rfl⟩ := List.mem_map.mp (List.mem_of_find?_eq_some he)
  exact hv ▸ (hs f hf).value

theorem required_sound {es : List ConditionEntry} (hs : ∀ e ∈ es, e.Sound) {name : String}
    {v : Value} (h : (entries es).required name Reading.ok = .ok v) : v.Sound := by
  unfold Entries.required at h
  rw [Reading.below_eq_ok] at h
  split at h
  next w hw =>
    cases h
    exact get_sound hs hw
  next => simp at h

theorem optional_sound {es : List ConditionEntry} (hs : ∀ e ∈ es, e.Sound) {name : String}
    {v : Value} (h : (entries es).optional name .null Reading.ok = .ok v) : v.Sound := by
  unfold Entries.optional at h
  split at h
  next w hw =>
    cases Reading.below_eq_ok.mp h
    exact get_sound hs hw
  next =>
    cases h
    simp [Value.Sound]

end ConditionEntry

namespace Condition

theorem checkPath_eq_ok {path keys : List String} (h : checkPath path = .ok keys) :
    "" ∉ keys := by
  unfold checkPath at h
  split at h
  next => cases h
  next hp =>
    cases h
    simpa using hp

theorem checkElementType_eq_ok {text type : String} (h : checkElementType text = .ok type) :
    ElementType.isValid type = true := by
  unfold checkElementType at h
  simp only at h
  split at h
  next hv =>
    cases h
    exact hv
  next => cases h

theorem checkRaw_eq_ok {text sql : String} (h : checkRaw text = .ok sql) :
    Text.isBlankText sql = false := by
  unfold checkRaw at h
  split at h
  next => cases h
  next hb =>
    cases h
    simpa using hb

section

open ConditionEntry Reading

variable {es : List ConditionEntry} {c : Condition}

theorem jsonbEntries_sound (h : ofEntries .jsonb es = .ok c) : c.Sound := by
  simp only [ofEntries, check_eq_ok, apply_eq_ok, functor_map_eq_ok] at h
  obtain ⟨_, ⟨_, _, ⟨_, v, ⟨_, path, ⟨_, op, ⟨_, column, ⟨_, _, rfl⟩, hc, rfl⟩, _, rfl⟩, hp, rfl⟩,
    _, rfl⟩, _, rfl⟩, h⟩ := h
  obtain ⟨_, hk, h⟩ := bind_eq_ok_iff.mp h
  cases h
  refine ⟨column_isColumnName hc, ?_, hk⟩
  unfold Entries.optional at hp
  split at hp
  next w hw =>
    obtain ⟨_, _, hp⟩ := check_eq_ok.mp (below_eq_ok.mp hp)
    exact checkPath_eq_ok hp
  next => cases hp; simp

theorem rawEntries_sound (h : ofEntries .raw es = .ok c) : c.Sound := by
  simp only [ofEntries, apply_eq_ok, functor_map_eq_ok] at h
  obtain ⟨_, _, ⟨_, params, ⟨_, sql, ⟨_, _, rfl⟩, hq, rfl⟩, _, rfl⟩, _, rfl⟩ := h
  unfold Entries.required at hq
  rw [below_eq_ok] at hq
  split at hq
  next =>
    obtain ⟨_, _, hq⟩ := check_eq_ok.mp hq
    exact checkRaw_eq_ok hq
  next => simp at hq

variable (hs : ∀ e ∈ es, e.Sound)

include hs

theorem comparisonEntries_sound (h : ofEntries .comparison es = .ok c) : c.Sound := by
  simp only [ofEntries, check_eq_ok, apply_eq_ok, functor_map_eq_ok] at h
  obtain ⟨_, ⟨_, _, ⟨_, v, ⟨_, op, ⟨_, column, ⟨_, _, rfl⟩, hc, rfl⟩, _, rfl⟩, hv, rfl⟩, _, rfl⟩,
    h⟩ := h
  obtain ⟨_, hk, h⟩ := bind_eq_ok_iff.mp h
  cases h
  exact ⟨column_isColumnName hc, hk, optional_sound hs hv⟩

theorem logicalEntries_sound (h : ofEntries .logical es = .ok c) : c.Sound := by
  simp only [ofEntries, apply_eq_ok, functor_map_eq_ok] at h
  obtain ⟨_, _, ⟨_, children, ⟨_, op, ⟨_, _, rfl⟩, _, rfl⟩, hc, rfl⟩, _, rfl⟩ := h
  refine soundConditions_iff.mpr fun d hd => ?_
  split at hc
  next e he =>
    exact (hs e (List.mem_of_find?_eq_some he)).asConditions (below_eq_ok.mp hc) d hd
  next =>
    cases hc
    simp at hd

theorem negationEntries_sound (h : ofEntries .negation es = .ok c) : c.Sound := by
  simp only [ofEntries, apply_eq_ok, functor_map_eq_ok] at h
  obtain ⟨_, _, ⟨_, child, ⟨_, _, rfl⟩, hc, rfl⟩, _, rfl⟩ := h
  rw [below_eq_ok] at hc
  have hd : child.Sound := by
    split at hc
    next e he => exact (hs e (List.mem_of_find?_eq_some he)).asCondition hc
    next => simp at hc
  exact hd

theorem arrayEntries_sound (h : ofEntries .array es = .ok c) : c.Sound := by
  simp only [ofEntries, check_eq_ok, apply_eq_ok, functor_map_eq_ok] at h
  obtain ⟨_, ⟨_, _, ⟨_, t, ⟨_, v, ⟨_, op, ⟨_, column, ⟨_, _, rfl⟩, hc, rfl⟩, _, rfl⟩, hv, rfl⟩, ht,
    rfl⟩, _, rfl⟩, h⟩ := h
  obtain ⟨_, hk, h⟩ := bind_eq_ok_iff.mp h
  cases h
  refine ⟨column_isColumnName hc, hk, required_sound hs hv, fun s hs => ?_⟩
  unfold Entries.optional at ht
  split at ht
  next w hw =>
    rw [below_eq_ok, Value.readOption] at ht
    split at ht
    next => cases ht; cases hs
    next =>
      obtain ⟨_, hr, rfl⟩ := map_eq_ok.mp ht
      obtain ⟨_, _, hr⟩ := check_eq_ok.mp hr
      cases hs
      exact checkElementType_eq_ok hr
  next => cases ht; cases hs

/-- A condition made from sound entries is sound, whatever its kind. -/
theorem ofEntries_sound {kind : ConditionKind} (h : ofEntries kind es = .ok c) : c.Sound := by
  cases kind with
  | comparison => exact comparisonEntries_sound hs h
  | logical => exact logicalEntries_sound hs h
  | negation => exact negationEntries_sound hs h
  | array => exact arrayEntries_sound hs h
  | jsonb => exact jsonbEntries_sound h
  | raw => exact rawEntries_sound h

end

theorem ofTagged_sound {es : List ConditionEntry} {c : Condition}
    (hs : ∀ e ∈ es, e.Sound) (h : ofTagged es = .ok c) : c.Sound := by
  unfold ofTagged at h
  split at h
  next => simp at h
  next =>
    split at h
    next => simp at h
    next => exact ofEntries_sound hs (Reading.below_eq_ok.mp h)

end Condition

/-- The pairs of a record are no conditions. -/
theorem items_pairs_eq_ok {vs : List Value} {cs : List Condition}
    (h : Reading.items (fun _ => Reading.issue .unionType) 0 vs = .ok cs) : cs = [] := by
  cases Reading.items_eq_ok_iff.mp h with
  | nil => rfl
  | cons hp _ => simp at hp

mutual

/-- Where a condition is expected, a sound value can only stand for a sound one. -/
theorem asCondition_sound : ∀ (v : Value), v.Sound → ∀ {c}, v.asCondition = .ok c → c.Sound
  | .condition c, hs, d, h => by
    rw [Value.asCondition] at h
    exact Condition.accept_eq_self h ▸ hs
  | .dict es, hs, d, h => by
    rw [Value.asCondition] at h
    exact Condition.ofTagged_sound (conditionEntries_sound es hs) h
  | .column _, _, _, h => by simp [Value.asCondition] at h
  | .columnDraft _, hs, _, _ => hs.elim
  | .constant _, _, _, h => by simp [Value.asCondition] at h
  | .handle _, _, _, h => by simp [Value.asCondition] at h
  | .null, _, _, h | .bool _, _, _, h | .int _, _, _, h | .float _, _, _, h | .str _, _, _, h
  | .bytes _, _, _, h | .byteArray _, _, _, h | .list _, _, _, h | .tuple _, _, _, h
  | .set _, _, _, h | .frozenSet _, _, _, h => by simp [Value.asCondition] at h
termination_by structural v => v

theorem asConditions_sound :
    ∀ (v : Value), v.Sound → ∀ {cs}, v.asConditions = .ok cs → ∀ c ∈ cs, c.Sound
  | .list xs, hs, cs, h | .tuple xs, hs, cs, h | .set xs, hs, cs, h | .frozenSet xs, hs, cs, h => by
    rw [Value.asConditions] at h
    exact readConditions_sound xs hs h
  | .null, _, _, h | .bool _, _, _, h | .int _, _, _, h | .float _, _, _, h | .str _, _, _, h
  | .bytes _, _, _, h | .byteArray _, _, _, h | .dict _, _, _, h | .constant _, _, _, h
  | .column _, _, _, h | .columnDraft _, _, _, h | .condition _, _, _, h | .handle _, _, _, h => by
    rw [Value.asConditions] at h
    split at h
    next => simp [items_pairs_eq_ok h]
    next => simp at h
    all_goals simp
termination_by structural v => v

theorem conditionEntries_sound :
    ∀ (es : List (Value × Value)), SoundEntries es → ∀ e ∈ conditionEntries es, e.Sound
  | [], _, e, he => by simp [conditionEntries] at he
  | (k, v) :: es, hs, e, he => by
    rw [conditionEntries] at he
    rcases List.mem_cons.mp he with rfl | he
    · exact ⟨hs.1, asCondition_sound v hs.1, asConditions_sound v hs.1⟩
    · exact conditionEntries_sound es hs.2 e he
termination_by structural es => es

theorem readConditions_sound :
    ∀ (vs : List Value) {start}, SoundItems vs → ∀ {cs}, readConditions start vs = .ok cs →
      ∀ c ∈ cs, c.Sound
  | [], _, _, cs, h, c, hc => by
    cases h
    simp at hc
  | v :: vs, _, hs, cs, h, c, hc => by
    rw [readConditions, Reading.seq_eq_ok] at h
    obtain ⟨_, ds, hv, hvs, rfl⟩ := h
    obtain ⟨d, hd, rfl⟩ := Reading.map_eq_ok.mp hv
    rcases List.mem_cons.mp hc with rfl | hc
    · exact asCondition_sound v hs.1 (Reading.below_eq_ok.mp hd)
    · exact readConditions_sound vs hs.2 hvs c hc
termination_by structural vs => vs

end

end QueryBuilder
