import QueryBuilder.Proofs.Builder.Select
import QueryBuilder.Proofs.Condition.ColumnFields
import QueryBuilder.Proofs.Condition.Formula

/-!
The filter that a run of calls leaves: all the conditions that the calls pass, together.
-/
namespace QueryBuilder

/-- The conditions that a filter is given: a condition as it is, the comparison of a column with a
value, or what a function answers, which may be a list. Nothing if the arguments are no filter. -/
def FilterTarget.conditions? (op value : Value) : FilterTarget → Option (List Condition)
  | .value (.condition c) => some [c]
  | .value v => do
    let column ← v.text?
    let op ← (readComparison op).toOption
    some [.comparison (Text.trim column) op value]
  | .callback f =>
    match f.answer with
    | .ok (.list vs) => vs.mapM Value.condition?
    | .ok (.condition c) => some [c]
    | _ => none

/-- The conditions that a call passes, which are none if it is no call for a filter. -/
def SelectCall.conditions? : SelectCall → Option (List Condition)
  | .filter target op value => target.conditions? op value
  | _ => some []

/-- What is added for conditions that are passed: nothing if there are none, the only one as it is,
and any number of them joined by AND. -/
inductive StandsFor : Option Condition → List Condition → Prop
  | nothing : StandsFor none []
  | only (c : Condition) : StandsFor (some c) [c]
  | all (cs : List Condition) : StandsFor (some (.logical .and cs)) cs

theorem areTrees_iff {cs : List Condition} : AreTrees cs ↔ ∀ c ∈ cs, c.IsTree := by
  induction cs with
  | nil => simp [AreTrees]
  | cons c cs ih => simp [AreTrees, ih]

theorem conditionsHold_eq_map (σ : Condition → Bool) (cs : List Condition) :
    conditionsHold σ cs = cs.map (Condition.holds σ) := by
  induction cs with
  | nil => rfl
  | cons c cs ih => rw [conditionsHold, ih, List.map_cons]

namespace StandsFor

variable {c : Condition} {cs : List Condition}

theorem isTree (h : StandsFor (some c) cs) (hcs : ∀ d ∈ cs, d.IsTree) : c.IsTree := by
  cases h with
  | only => exact hcs c (by simp)
  | all => exact areTrees_iff.mpr hcs

theorem holds_eq (h : StandsFor (some c) cs) (σ : Condition → Bool) :
    c.holds σ = cs.all (Condition.holds σ) := by
  cases h with
  | only => simp
  | all => simp [Condition.holds, conditionsHold_eq_map, Connective.fold]

end StandsFor

theorem conditionsOf_eq_mapM {method : Method} {vs : List Value} {cs : List Condition}
    (h : conditionsOf method vs = .ok cs) : vs.mapM Value.condition? = some cs := by
  fun_induction conditionsOf method vs generalizing cs with
  | case1 =>
    cases h
    rfl
  | case2 c vs ih =>
    obtain ⟨ds, hds, h⟩ := bind_eq_ok_iff.mp h
    cases h
    simp [Value.condition?, ih hds]
  | case3 => cases h

/-- A list of conditions is joined by AND, unless it has only one. -/
theorem combine_standsFor {vs : List Value} {v : Value} (h : combine .and [.list vs] = .ok v) :
    ∃ cs c, vs.mapM Value.condition? = some cs ∧ v = .condition c ∧ StandsFor (some c) cs := by
  obtain ⟨cs, hcs, h⟩ := bind_eq_ok_iff.mp h
  have hmap := conditionsOf_eq_mapM hcs
  split at h
  next c =>
    cases h
    exact ⟨[c], c, hmap, rfl, .only c⟩
  next =>
    obtain ⟨c, hc, rfl⟩ := map_eq_ok_iff.mp h
    cases Condition.join_eq_logical hc
    exact ⟨cs, _, hmap, rfl, .all cs⟩

namespace SelectBuilder

variable {op value : Value} {c : Condition}

/-- A text is compared with a value as a column. -/
theorem filterCondition_text_iff {v : Value} {s : String} (hs : v.text? = some s) :
    filterCondition (.value v) op value = .ok c ↔
      ∃ name, ∃ o : Comparison, readColumn s = .ok name ∧
        (op.isNull = false ∧ readComparison op = .ok o ∧
          Condition.checkComparison o value = .ok ()) ∧ c = .comparison name o value := by
  have htext : v.isText = true := by simp [Value.isText, hs]
  -- a condition is passed as it is, so the branch for texts needs that `v` is none
  have hne : ∀ d, v ≠ .condition d := by
    intro d hd
    cases hd
    cases hs
  cases hop : op.isNull with
  | true => simp [filterCondition, htext, hop]
  | false =>
    have hanswer : filterCondition (.value v) op value = .ok c ↔
        compare v op value = .ok (.condition c) := by
      simp only [filterCondition, htext, hop]
      cases compare v op value with
      | error e => simp [Except.bind]
      | ok w => cases w <;> simp [Except.bind]
    rw [hanswer, compare_eq_ok_iff hs]
    constructor
    · rintro ⟨name, o, hname, ho, hc⟩
      cases hc
      exact ⟨name, o, hname, ⟨rfl, ho⟩, rfl⟩
    · rintro ⟨name, o, hname, ⟨_, ho⟩, rfl⟩
      exact ⟨name, o, hname, ho, rfl⟩

theorem conditions?_text {v : Value} {s : String} {o : Comparison} (hs : v.text? = some s)
    (ho : readComparison op = .ok o) : FilterTarget.conditions? op value (.value v) =
      some [.comparison (Text.trim s) o value] := by
  cases v with
  | str _ | constant _ =>
    cases hs
    simp [FilterTarget.conditions?, Value.text?, ho, Except.toOption]
  | _ => cases hs

/-- What a function answers is passed as it is, and a list as its conditions. -/
theorem invoke_standsFor {f : Callback} (h : f.invoke = .ok (.condition c)) :
    ∃ cs, FilterTarget.conditions? op value (.callback f) = some cs ∧ StandsFor (some c) cs := by
  unfold Callback.invoke at h
  split at h
  next => cases h
  next =>
    obtain ⟨v, hv, h⟩ := bind_eq_ok_iff.mp h
    rw [FilterTarget.conditions?, hv]
    unfold Callback.joined at h
    split at h
    next vs =>
      obtain ⟨cs, d, hcs, hd, hstands⟩ := combine_standsFor h
      cases hd
      exact ⟨cs, hcs, hstands⟩
    next =>
      cases h
      exact ⟨[c], rfl, .only c⟩

/-- A filter that is accepted stands for the conditions that it is given. -/
theorem filterCondition_standsFor {target : FilterTarget}
    (h : filterCondition target op value = .ok c) :
    ∃ cs, target.conditions? op value = some cs ∧ StandsFor (some c) cs := by
  cases target with
  | callback f =>
    obtain ⟨v, hv, h⟩ := bind_eq_ok_iff.mp h
    split at h
    next d =>
      cases h
      exact invoke_standsFor hv
    next => cases h
  | value v =>
    cases hs : v.text? with
    | some s =>
      obtain ⟨name, o, hname, ⟨_, ho, _⟩, rfl⟩ := (filterCondition_text_iff hs).mp h
      obtain ⟨rfl, _⟩ := readColumn_eq_ok_iff.mp hname
      exact ⟨[.comparison (Text.trim s) o value], conditions?_text hs ho, .only _⟩
    | none =>
      have htext : v.isText = false := by simp [Value.isText, hs]
      cases v with
      | condition d =>
        cases h
        exact ⟨[c], rfl, .only c⟩
      | _ => simp [filterCondition, htext] at h

/-- Makes calls one after another. A call that fails leaves the builder as it was. -/
def run (b : SelectBuilder) : List SelectCall → SelectBuilder
  | [] => b
  | call :: calls =>
    match b.apply call with
    | .ok next => next.run calls
    | .error _ => b.run calls

/-- The conditions that the calls pass that do not fail, in order. -/
def filters (b : SelectBuilder) : List SelectCall → Option (List Condition)
  | [] => some []
  | call :: calls =>
    match b.apply call with
    | .ok next => do
      let cs ← call.conditions?
      let rest ← next.filters calls
      some (cs ++ rest)
    | .error _ => b.filters calls

end SelectBuilder

/-- Holds of a filter that is a tree and means all of the conditions together. -/
def Conjoins (filter : Option Condition) (cs : List Condition) : Prop :=
  match filter with
  | none => cs = []
  | some c => c.IsTree ∧ ∀ σ, c.holds σ = cs.all (Condition.holds σ)

theorem Conjoins.addFilter {filter : Option Condition} {cs new : List Condition} {c d : Condition}
    (h : Conjoins filter cs) (hc : StandsFor (some c) new) (hnew : ∀ e ∈ new, e.IsTree)
    (hd : SelectBuilder.addFilter filter c = .ok d) : Conjoins (some d) (cs ++ new) := by
  cases filter with
  | none =>
    cases hd
    cases h
    exact ⟨hc.isTree hnew, hc.holds_eq⟩
  | some e =>
    cases Condition.join_eq_logical hd
    obtain ⟨he, hholds⟩ := h
    refine ⟨⟨he, hc.isTree hnew, trivial⟩, fun σ => ?_⟩
    rw [List.all_append, ← hholds, ← hc.holds_eq]
    simp [Condition.holds, conditionsHold, Connective.fold]

namespace SelectBuilder

theorem adds_standsFor {call : SelectCall} {added : Option Condition} (h : call.Adds added) :
    ∃ cs, call.conditions? = some cs ∧ StandsFor added cs := by
  cases call with
  | filter target op value =>
    obtain ⟨c, hc, rfl⟩ := h
    exact filterCondition_standsFor hc
  | columns | allColumns | join | orderBy | limit | offset =>
    cases h
    exact ⟨[], rfl, .nothing⟩

theorem Step.conjoins {b next : SelectBuilder} {added : Option Condition}
    {joined : Option TableRef} {cs new : List Condition} (h : b.Step added joined next)
    (hadded : StandsFor added new) (hb : Conjoins b.query.filter cs)
    (hnew : ∀ c ∈ new, c.IsTree) : Conjoins next.query.filter (cs ++ new) := by
  cases h with
  | filter hd => exact hb.addFilter hadded hnew hd
  | items | join | orderBy | bounds =>
    cases hadded
    simpa using hb

/-- Calls that do not fail pass conditions. -/
theorem exists_filters (b : SelectBuilder) (calls : List SelectCall) :
    ∃ cs, b.filters calls = some cs := by
  induction calls generalizing b with
  | nil => exact ⟨[], rfl⟩
  | cons call calls ih =>
    rw [filters]
    cases h : b.apply call with
    | ok next =>
      obtain ⟨added, hadded, _⟩ := apply_step h
      obtain ⟨cs, hcs, _⟩ := adds_standsFor hadded
      obtain ⟨rest, hrest⟩ := ih next
      exact ⟨cs ++ rest, by simp [hcs, hrest]⟩
    | error e => exact ih b

/-- After any calls the filter means all that the calls pass. -/
theorem run_conjoins {b : SelectBuilder} {cs new : List Condition} (hb : Conjoins b.query.filter cs)
    {calls : List SelectCall} (hcalls : b.filters calls = some new)
    (hnew : ∀ c ∈ new, c.IsTree) : Conjoins (b.run calls).query.filter (cs ++ new) := by
  -- a call extends the conditions before it, so those are any conditions that the filter means
  induction calls generalizing b cs new with
  | nil =>
    cases hcalls
    simpa [run] using hb
  | cons call calls ih =>
    rw [run]
    rw [filters] at hcalls
    cases h : b.apply call with
    | ok next =>
      obtain ⟨added, hadded, hstep⟩ := apply_step h
      obtain ⟨own, hown, hstands⟩ := adds_standsFor hadded
      obtain ⟨rest, hrest⟩ := next.exists_filters calls
      have heq : own ++ rest = new := by simpa [h, hown, hrest] using hcalls
      subst heq
      obtain ⟨hown, hnext⟩ := List.forall_mem_append.mp hnew
      rw [← List.append_assoc]
      exact ih (hstep.conjoins hstands hb hown) hrest hnext
    | error e =>
      rw [h] at hcalls
      exact ih hb hcalls hnew

theorem start_filter {table : Value} {b : SelectBuilder} (h : start table = .ok b) :
    b.query.filter = none := by
  obtain ⟨_, _, rfl⟩ := start_eq_ok h
  rfl

end SelectBuilder

end QueryBuilder
