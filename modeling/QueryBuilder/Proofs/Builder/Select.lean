import QueryBuilder.Builder.Select
import QueryBuilder.Proofs.Condition.Made
import QueryBuilder.Proofs.Identifier.Bare

/-!
The SELECTs that calls lead to. Every call keeps the query sound and the scope in step with its
tables, so both hold of any builder that has been reached.
-/
namespace QueryBuilder

/-- The parts of the query are well formed, and its tables can be told apart. -/
structure SelectQuery.Sound (q : SelectQuery) : Prop where
  tables : ∀ t ∈ q.tables, t.WellNamed
  items : ∀ i ∈ q.items, i.WellNamed
  joins : ∀ j ∈ q.joins, IsColumnName j.left ∧ IsColumnName j.right
  filter : ∀ c ∈ q.filter, c.Sound
  orderBy : ∀ o ∈ q.orderBy, IsColumnName o.column
  qualifiers : (q.tables.map TableRef.qualifier).Nodup

theorem SelectQuery.table_mem_tables (q : SelectQuery) : q.table ∈ q.tables := by
  simp [tables]

theorem SelectQuery.joined_mem_tables {q : SelectQuery} {j : Join} (h : j ∈ q.joins) :
    j.table ∈ q.tables :=
  List.mem_cons_of_mem _ (List.mem_map.mpr ⟨j, h, rfl⟩)

theorem parseItems_eq_forEach (vs : List Value) : parseItems vs = forEach SelectItem.parse vs := by
  induction vs with
  | nil => rfl
  | cons v vs ih => rw [parseItems, forEach, ih]

theorem parseItems_wellNamed {vs : List Value} {items : List SelectItem}
    (h : parseItems vs = .ok items) : ∀ i ∈ items, i.WellNamed :=
  forEach_all (fun _ _ _ => SelectItem.parse_wellNamed) (parseItems_eq_forEach vs ▸ h)

theorem orderItem_isColumnName {v : Value} {o : OrderItem} (h : orderItem v = .ok o) :
    IsColumnName o.column := by
  have make : ∀ {column direction : Value} {o : OrderItem},
      (plainColumn .orderBy column >>= fun name =>
        readDirection direction >>= fun d => Except.ok (OrderItem.mk name d)) = Except.ok o →
      IsColumnName o.column := by
    intro column direction o h
    obtain ⟨name, hn, h⟩ := bind_eq_ok_iff.mp h
    obtain ⟨d, _, h⟩ := bind_eq_ok_iff.mp h
    cases h
    exact plainColumn_isColumnName hn
  unfold orderItem at h
  simp only at h
  split at h
  next => exact make h
  next =>
    split at h
    next => exact make h
    next => exact make h
    next => exact make h
    next => cases h

theorem orderItems_eq_forEach (vs : List Value) : orderItems vs = forEach orderItem vs := by
  induction vs with
  | nil => rfl
  | cons v vs ih => rw [orderItems, forEach, ih]

theorem orderItems_isColumnName {vs : List Value} {items : List OrderItem}
    (h : orderItems vs = .ok items) : ∀ o ∈ items, IsColumnName o.column :=
  forEach_all (fun _ _ _ => orderItem_isColumnName) (orderItems_eq_forEach vs ▸ h)

namespace Scope

/-- A table is added behind the others, under a qualifier that none of them has. -/
theorem add_eq_ok_iff {s t : Scope} {table : TableRef} :
    s.add table = .ok t ↔
      table.qualifier ∉ s.qualifiers ∧ t = { s with tables := s.tables ++ [table] } := by
  unfold add
  split
  next found hf =>
    have hm : table.qualifier ∈ s.qualifiers := by
      have hq := List.find?_some hf
      have ht := List.mem_of_find?_eq_some hf
      exact List.mem_map.mpr ⟨found, ht, beq_iff_eq.mp hq⟩
    simp [hm]
  next hf =>
    have hm : table.qualifier ∉ s.qualifiers := by
      intro hm
      obtain ⟨u, hu, hq⟩ := List.mem_map.mp hm
      have hn := List.find?_eq_none.mp hf u hu
      exact hn (beq_iff_eq.mpr hq)
    simp [hm, eq_comm]

end Scope

/-- What a filter is given is made, and a callback answers with what it can come by. -/
def FilterTarget.Made : FilterTarget → Prop
  | .value v => v.Made
  | .callback c => ∀ v, c.answer = .ok v → (Term.value v).Obtained

/-- The values of a call that stay in the query are made. -/
def SelectCall.Made : SelectCall → Prop
  | .filter target op value => target.Made ∧ op.Made ∧ value.Made
  | _ => True

/-- What a call joins to the filter: a condition if it is a call for a filter, and else nothing. -/
def SelectCall.Adds (call : SelectCall) (added : Option Condition) : Prop :=
  match call with
  | .filter target op value =>
    ∃ c, SelectBuilder.filterCondition target op value = .ok c ∧ added = some c
  | _ => added = none

/-- The table that a call adds, if it is a join. -/
def SelectCall.joined? : SelectCall → Option TableRef
  | .join _ table _ _ => (TableRef.parse table).toOption
  | _ => none

namespace SelectBuilder

/-- The builders that calls lead to. -/
inductive Reached : SelectBuilder → Prop
  | start {table : Value} {b : SelectBuilder} (h : start table = .ok b) : b.Reached
  | apply {b next : SelectBuilder} {call : SelectCall} (hb : b.Reached) (hc : call.Made)
      (h : b.apply call = .ok next) : next.Reached

/-- The tables in scope are those of the query, and can be told apart. -/
structure InStep (b : SelectBuilder) : Prop where
  scope : b.scope = { tables := b.query.tables }
  qualifiers : (b.query.tables.map TableRef.qualifier).Nodup

theorem start_eq_ok {table : Value} {b : SelectBuilder} (h : start table = .ok b) :
    ∃ t, TableRef.parse table = .ok t ∧ b = ⟨{ table := t }, { tables := [t] }⟩ := by
  obtain ⟨t, ht, h⟩ := bind_eq_ok_iff.mp h
  obtain ⟨s, hs, h⟩ := bind_eq_ok_iff.mp h
  cases h
  obtain ⟨_, rfl⟩ := Scope.add_eq_ok_iff.mp hs
  exact ⟨t, ht, rfl⟩

/-- An identifier other than AS is the name of a table without an alias. -/
theorem start_bare {name : String} (hn : Identifier.isValid name = true)
    (hs : AliasSyntax.startsWithAs name.toList = false)
    (he : AliasSyntax.endsWithAs name.toList = false) :
    start (.str name) = .ok ⟨{ table := ⟨name, none⟩ }, { tables := [⟨name, none⟩] }⟩ := by
  rw [start, TableRef.parse_bare hn hs he]
  rfl

theorem start_inStep {table : Value} {b : SelectBuilder} (h : start table = .ok b) : b.InStep := by
  obtain ⟨t, _, rfl⟩ := start_eq_ok h
  exact ⟨rfl, by simp [SelectQuery.tables]⟩

/-- The query is sound and its tables are those in scope. -/
structure Sound (b : SelectBuilder) : Prop where
  query : b.query.Sound
  scope : b.scope = { tables := b.query.tables }

theorem start_sound {table : Value} {b : SelectBuilder} (h : start table = .ok b) : b.Sound := by
  obtain ⟨t, ht, rfl⟩ := start_eq_ok h
  have hw := TableRef.parse_wellNamed ht
  exact ⟨⟨by simpa [SelectQuery.tables] using hw, by simp, by simp, by simp, by simp,
    by simp [SelectQuery.tables]⟩, rfl⟩

theorem invoke_made {c : Callback} {v : Value}
    (hc : ∀ w, c.answer = .ok w → (Term.value w).Obtained) (h : c.invoke = .ok v) : v.Made := by
  unfold Callback.invoke at h
  split at h
  next => cases h
  next =>
    obtain ⟨a, ha, h⟩ := bind_eq_ok_iff.mp h
    have hmade : a.Made := (hc a ha).made
    unfold Callback.joined at h
    split at h
    next => exact Value.Made.of_combine (by simpa using hmade) h
    next =>
      cases h
      exact hmade

theorem filterCondition_made {target : FilterTarget} {op value : Value} {c : Condition}
    (ht : target.Made) (ho : op.Made) (hv : value.Made)
    (h : filterCondition target op value = .ok c) : (Value.condition c).Made := by
  have answer : ∀ {r : Except Error Value} {f : Value → Except Error Condition} {c : Condition},
      (∀ v d, f v = .ok d → v = .condition d) → (∀ v, r = .ok v → v.Made) →
      r.bind f = .ok c → (Value.condition c).Made := by
    intro r f c hf hr h
    obtain ⟨v, hv, h⟩ := bind_eq_ok_iff.mp h
    exact hf v c h ▸ hr v hv
  unfold filterCondition at h
  simp only at h
  split at h
  next c =>
    refine answer (fun v d hd => ?_) (fun v hv => invoke_made ht hv) h
    split at hd
    next =>
      cases hd
      rfl
    next => cases hd
  next =>
    cases h
    exact ht
  next =>
    split at h
    next => cases h
    next =>
      split at h
      next => cases h
      next =>
        refine answer (fun v d hd => ?_) (fun w hw => Value.Made.of_compare ht ho hv hw) h
        split at hd
        next =>
          cases hd
          rfl
        next => cases hd

theorem addFilter_sound {current : Option Condition} {c d : Condition}
    (hs : ∀ e ∈ current, e.Sound) (hc : c.Sound) (h : addFilter current c = .ok d) : d.Sound := by
  cases current with
  | none =>
    cases h
    exact hc
  | some e => exact Condition.join_sound (by simpa [hc] using hs) h

/-- What a call does to a builder if it adds a condition or a table, or none of both. -/
inductive Step (b : SelectBuilder) : Option Condition → Option TableRef → SelectBuilder → Prop
  | items {new : List SelectItem} (h : ∀ i ∈ new, i.WellNamed) :
      b.Step none none { b with query := { b.query with items := b.query.items ++ new } }
  | filter {c d : Condition} (h : addFilter b.query.filter c = .ok d) :
      b.Step (some c) none { b with query := { b.query with filter := some d } }
  | join {j : Join} (ht : j.table.WellNamed) (hn : j.table.qualifier ∉ b.scope.qualifiers)
      (hl : IsColumnName j.left) (hr : IsColumnName j.right) :
      b.Step none (some j.table) ⟨{ b.query with joins := b.query.joins ++ [j] },
        { b.scope with tables := b.scope.tables ++ [j.table] }⟩
  | orderBy {new : List OrderItem} (h : ∀ o ∈ new, IsColumnName o.column) :
      b.Step none none { b with query := { b.query with orderBy := b.query.orderBy ++ new } }
  | bounds (limit offset : Option Nat) :
      b.Step none none { b with query := { b.query with limit, offset } }

theorem apply_step {b next : SelectBuilder} {call : SelectCall} (h : b.apply call = .ok next) :
    ∃ added, call.Adds added ∧ b.Step added call.joined? next := by
  cases call with
  | columns names =>
    obtain ⟨_, _, h⟩ := bind_eq_ok_iff.mp h
    obtain ⟨items, hi, h⟩ := bind_eq_ok_iff.mp h
    cases h
    exact ⟨none, rfl, .items (parseItems_wellNamed hi)⟩
  | allColumns =>
    cases h
    exact ⟨none, rfl, .items (by simpa using ⟨.star, by simp⟩)⟩
  | filter target op value =>
    obtain ⟨c, hc, h⟩ := bind_eq_ok_iff.mp h
    obtain ⟨d, hd, h⟩ := bind_eq_ok_iff.mp h
    cases h
    exact ⟨some c, ⟨c, hc, rfl⟩, .filter hd⟩
  | join kind table left right =>
    obtain ⟨t, ht, h⟩ := bind_eq_ok_iff.mp h
    obtain ⟨s, hadd, h⟩ := bind_eq_ok_iff.mp h
    obtain ⟨l, hl, h⟩ := bind_eq_ok_iff.mp h
    obtain ⟨r, hr, h⟩ := bind_eq_ok_iff.mp h
    cases h
    obtain ⟨hn, rfl⟩ := Scope.add_eq_ok_iff.mp hadd
    refine ⟨none, rfl, ?_⟩
    rw [SelectCall.joined?, ht]
    exact @Step.join b ⟨kind, t, l, r⟩ (TableRef.parse_wellNamed ht) hn
      (plainColumn_isColumnName hl) (plainColumn_isColumnName hr)
  | orderBy items direction =>
    obtain ⟨vs, h⟩ : ∃ vs, (orderItems vs >>= fun new =>
        Except.ok { b with query := { b.query with orderBy := b.query.orderBy ++ new } }) =
        Except.ok next := by
      unfold apply at h
      simp only at h
      split at h
      next => exact ⟨_, h⟩
      next =>
        split at h
        next => exact ⟨_, h⟩
        next => exact ⟨_, h⟩
        next => cases h
    obtain ⟨new, hn, h⟩ := bind_eq_ok_iff.mp h
    cases h
    exact ⟨none, rfl, .orderBy (orderItems_isColumnName hn)⟩
  | limit count | offset count =>
    obtain ⟨n, _, h⟩ := bind_eq_ok_iff.mp h
    cases h
    exact ⟨none, rfl, .bounds _ _⟩

/-- A call that adds a table adds it behind the others, in the query and in scope. -/
theorem Step.inStep {b next : SelectBuilder} {added : Option Condition} {joined : Option TableRef}
    (hb : b.InStep) (h : b.Step added joined next) :
    next.InStep ∧ next.query.tables = b.query.tables ++ joined.toList := by
  obtain ⟨hs, hq⟩ := hb
  cases h with
  | @join j ht hn hl hr =>
    have htables : ({ b.query with joins := b.query.joins ++ [j] } : SelectQuery).tables =
        b.query.tables ++ [j.table] := by
      simp [SelectQuery.tables]
    rw [hs] at hn
    refine ⟨⟨by rw [htables, hs], ?_⟩, htables⟩
    rw [htables, List.map_append, List.nodup_append]
    refine ⟨hq, by simp, fun a ha c hc => ?_⟩
    cases List.mem_singleton.mp hc
    exact fun he => hn (he ▸ ha)
  | items | filter | orderBy | bounds => exact ⟨⟨hs, hq⟩, (List.append_nil _).symm⟩

theorem Step.sound {b next : SelectBuilder} {added : Option Condition} {joined : Option TableRef}
    (hb : b.Sound) (hc : ∀ c ∈ added, c.Sound) (h : b.Step added joined next) : next.Sound := by
  obtain ⟨hq, hs⟩ := hb
  obtain ⟨⟨hs', hqualifiers⟩, htables⟩ := h.inStep ⟨hs, hq.qualifiers⟩
  cases h with
  | items hn => exact ⟨{ hq with items := List.forall_mem_append.mpr ⟨hq.items, hn⟩ }, hs⟩
  | filter hd =>
    refine ⟨{ hq with filter := fun e he => ?_ }, hs⟩
    cases he
    exact addFilter_sound hq.filter (hc _ rfl) hd
  | join ht hn hl hr =>
    refine ⟨{ hq with tables := ?_, joins := ?_, qualifiers := hqualifiers }, hs'⟩
    · rw [htables]
      exact List.forall_mem_append.mpr ⟨hq.tables, by simpa using ht⟩
    · exact List.forall_mem_append.mpr ⟨hq.joins, by simpa using ⟨hl, hr⟩⟩
  | orderBy hn => exact ⟨{ hq with orderBy := List.forall_mem_append.mpr ⟨hq.orderBy, hn⟩ }, hs⟩
  | bounds => exact ⟨{ hq with }, hs⟩

theorem adds_made {call : SelectCall} {added : Option Condition} (h : call.Made)
    (ha : call.Adds added) : ∀ c ∈ added, (Value.condition c).Made := by
  cases call with
  | filter target op value =>
    obtain ⟨c, hc, rfl⟩ := ha
    intro d hd
    cases hd
    exact filterCondition_made h.1 h.2.1 h.2.2 hc
  | columns | allColumns | join | orderBy | limit | offset =>
    cases ha
    simp

/-- A filter by a made condition joins it to the filter that is there. -/
theorem Reached.filter {b : SelectBuilder} {c d : Condition} (hb : b.Reached)
    (hc : (Value.condition c).Made) (h : addFilter b.query.filter c = .ok d) :
    Reached { b with query := { b.query with filter := some d } } := by
  have hm : SelectCall.Made (.filter (.value (.condition c)) .null .null) :=
    ⟨hc, .atom rfl, .atom rfl⟩
  exact hb.apply hm (bind_eq_ok_iff.mpr ⟨c, rfl, bind_eq_ok_iff.mpr ⟨d, h, rfl⟩⟩)

theorem Reached.sound {b : SelectBuilder} (h : b.Reached) : b.Sound := by
  induction h with
  | start h => exact start_sound h
  | apply _ hc h ih =>
    obtain ⟨added, hadded, hstep⟩ := apply_step h
    exact hstep.sound ih fun c hm => (adds_made hc hadded c hm).sound

end SelectBuilder

end QueryBuilder
