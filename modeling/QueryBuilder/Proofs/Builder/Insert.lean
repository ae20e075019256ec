import QueryBuilder.Builder.Insert
import QueryBuilder.Proofs.Builder.Select

/-!
The INSERTs that calls lead to: rows and assignments are not empty and name plain columns, and a
conflict clause that updates has a target.
-/
namespace QueryBuilder

/-- The row names plain columns, one at least and each once, and its values are sound. -/
structure SoundRow (row : Row) : Prop where
  ne_nil : row ≠ []
  nodup : (row.map Prod.fst).Nodup
  valid : ∀ e ∈ row, Identifier.isValid e.1 = true
  values : ∀ e ∈ row, e.2.Sound

/-- The row names plain columns, one at least and each once. -/
structure NamedRow (row : Row) : Prop where
  ne_nil : row ≠ []
  nodup : (row.map Prod.fst).Nodup
  valid : ∀ e ∈ row, Identifier.isValid e.1 = true

/-- The names of the clause are plain columns. An update has assignments and a target, anything else
has no assignments. -/
structure ConflictClause.Sound (c : ConflictClause) : Prop where
  columns : ∀ n ∈ c.columns, Identifier.isValid n = true
  constraint : ∀ n ∈ c.constraint, Identifier.isValid n = true
  updates : c.action = .update → SoundRow c.updates
  idle : c.action = .nothing → c.updates = []
  target : c.action = .update → c.columns ≠ [] ∨ c.constraint.isSome

structure InsertQuery.Sound (q : InsertQuery) : Prop where
  table : q.table.WellNamed
  rows : ∀ r ∈ q.rows, SoundRow r
  conflict : ∀ c ∈ q.conflict, c.Sound
  returning : ∀ i ∈ q.returning, i.WellNamed

theorem InsertQuery.columns_valid {q : InsertQuery}
    (h : ∀ row ∈ q.rows, ∀ e ∈ row, Identifier.isValid e.1 = true) :
    ∀ c ∈ q.columns, Identifier.isValid c = true := by
  intro c hc
  obtain ⟨row, hr, hc⟩ := List.mem_flatMap.mp (List.mem_eraseDups.mp hc)
  obtain ⟨e, he, rfl⟩ := List.mem_map.mp hc
  exact h row hr e he

theorem InsertQuery.Sound.columns {q : InsertQuery} (h : q.Sound) :
    ∀ c ∈ q.columns, Identifier.isValid c = true :=
  q.columns_valid fun row hr => (h.rows row hr).valid

theorem insertColumns_eq_forEach (vs : List Value) :
    insertColumns vs = forEach insertColumn vs := by
  induction vs with
  | nil => rfl
  | cons v vs ih => rw [insertColumns, forEach, ih]

theorem insertColumns_isValid {vs : List Value} {names : List String}
    (h : insertColumns vs = .ok names) : ∀ n ∈ names, Identifier.isValid n = true :=
  forEach_all (fun _ _ _ => insertColumn_isValid) (insertColumns_eq_forEach vs ▸ h)

theorem length_insertColumns {vs : List Value} {names : List String}
    (h : insertColumns vs = .ok names) : names.length = vs.length :=
  length_forEach (insertColumns_eq_forEach vs ▸ h)

theorem putField_ne_nil (name : String) (v : Value) (fs : List (String × Value)) :
    putField name v fs ≠ [] := by
  cases fs with
  | nil => simp [putField]
  | cons f fs =>
    rw [putField]
    split <;> simp

theorem mem_putField {name : String} {v : Value} {fs : List (String × Value)}
    {e : String × Value} (h : e ∈ putField name v fs) : e = (name, v) ∨ e ∈ fs := by
  induction fs with
  | nil => exact Or.inl (List.mem_singleton.mp h)
  | cons f fs ih =>
    rw [putField] at h
    split at h
    next =>
      rcases List.mem_cons.mp h with rfl | h
      · exact Or.inl rfl
      · exact Or.inr (List.mem_cons_of_mem f h)
    next =>
      rcases List.mem_cons.mp h with rfl | h
      · exact Or.inr (by simp)
      · rcases ih h with h | h
        · exact Or.inl h
        · exact Or.inr (List.mem_cons_of_mem f h)

theorem names_putField (name : String) (v : Value) (fs : List (String × Value)) :
    (putField name v fs).map Prod.fst =
      if name ∈ fs.map Prod.fst then fs.map Prod.fst else fs.map Prod.fst ++ [name] := by
  induction fs with
  | nil => rfl
  | cons f fs ih =>
    rw [putField]
    by_cases h : f.1 = name
    · simp [h]
    · simp only [h, List.map_cons, List.mem_cons, Ne.symm h, false_or, if_false, ih]
      split <;> simp

theorem nodup_putField {name : String} {v : Value} {fs : List (String × Value)}
    (h : (fs.map Prod.fst).Nodup) : ((putField name v fs).map Prod.fst).Nodup := by
  rw [names_putField]
  split
  next => exact h
  next hn =>
    have hne : ∀ a ∈ fs.map Prod.fst, a ≠ name := fun a ha => ne_of_mem_of_not_mem ha hn
    exact List.nodup_append.mpr ⟨h, by simp, by simpa using hne⟩

theorem nodup_foldl_putField {pairs : List (String × Value)} {row : Row}
    (h : (row.map Prod.fst).Nodup) :
    ((pairs.foldl (fun row p => putField p.1 p.2 row) row).map Prod.fst).Nodup := by
  induction pairs generalizing row with
  | nil => exact h
  | cons p pairs ih => exact ih (nodup_putField h)

theorem mem_foldl_putField {pairs : List (String × Value)} {row : Row} {e : String × Value}
    (h : e ∈ pairs.foldl (fun row p => putField p.1 p.2 row) row) : e ∈ pairs ∨ e ∈ row := by
  induction pairs generalizing row with
  | nil => exact Or.inr h
  | cons p pairs ih =>
    rcases ih h with h | h
    · exact Or.inl (List.mem_cons_of_mem p h)
    · rcases mem_putField h with rfl | h
      · exact Or.inl (by simp)
      · exact Or.inr h

theorem lookup_of_mem {fs : List (String × Value)} (h : (fs.map Prod.fst).Nodup)
    {f : String × Value} (hf : f ∈ fs) : fs.lookup f.1 = some f.2 := by
  induction fs with
  | nil => cases hf
  | cons g fs ih =>
    rw [List.map_cons, List.nodup_cons] at h
    rw [List.lookup_cons]
    rcases List.mem_cons.mp hf with rfl | hf
    · simp
    · have hne : (f.1 == g.1) = false :=
        beq_eq_false_iff_ne.mpr fun he => h.1 (he ▸ List.mem_map_of_mem hf)
      simp [hne, ih h.2 hf]

theorem foldl_putField_ne_nil {pairs : List (String × Value)} {row : Row}
    (h : pairs ≠ [] ∨ row ≠ []) : pairs.foldl (fun row p => putField p.1 p.2 row) row ≠ [] := by
  induction pairs generalizing row with
  | nil => simpa using h
  | cons p pairs ih => exact ih (Or.inr (putField_ne_nil p.1 p.2 row))

theorem readRow_ne_nil {e : Value × Value} {es : List (Value × Value)} {row : Row}
    (h : readRow (e :: es) = .ok row) : row ≠ [] := by
  obtain ⟨names, hn, h⟩ := bind_eq_ok_iff.mp h
  cases h
  have hlen := length_insertColumns hn
  refine foldl_putField_ne_nil (Or.inl ?_)
  cases names with
  | nil => simp at hlen
  | cons name names => simp

theorem mem_readRow {es : List (Value × Value)} {row : Row} (h : readRow es = .ok row) :
    ∀ f ∈ row, Identifier.isValid f.1 = true ∧ f.2 ∈ es.map Prod.snd := by
  obtain ⟨names, hn, h⟩ := bind_eq_ok_iff.mp h
  cases h
  intro f hf
  rcases mem_foldl_putField hf with hf | hf
  · obtain ⟨hname, hvalue⟩ := List.of_mem_zip hf
    exact ⟨insertColumns_isValid hn f.1 hname, hvalue⟩
  · cases hf

theorem readRow_named {e : Value × Value} {es : List (Value × Value)} {row : Row}
    (h : readRow (e :: es) = .ok row) : NamedRow row := by
  have hnodup : (row.map Prod.fst).Nodup := by
    obtain ⟨names, _, h⟩ := bind_eq_ok_iff.mp h
    cases h
    exact nodup_foldl_putField List.nodup_nil
  exact ⟨readRow_ne_nil h, hnodup, fun f hf => (mem_readRow h f hf).1⟩

theorem readRow_sound {e : Value × Value} {es : List (Value × Value)} {row : Row}
    (hs : ∀ f ∈ e :: es, f.2.Sound) (h : readRow (e :: es) = .ok row) : SoundRow row := by
  obtain ⟨hne, hnodup, hvalid⟩ := readRow_named h
  refine ⟨hne, hnodup, hvalid, fun f hf => ?_⟩
  obtain ⟨g, hg, he⟩ := List.mem_map.mp (mem_readRow h f hf).2
  exact he ▸ hs g hg

/-- What holds of every mapping's row holds of all rows that are read. -/
theorem readRows_all {p : Row → Prop} {vs : List Value} {rows : List Row}
    (hp : ∀ e es, Value.dict (e :: es) ∈ vs → ∀ row, readRow (e :: es) = .ok row → p row)
    (h : readRows vs = .ok rows) : ∀ r ∈ rows, p r := by
  fun_induction readRows vs generalizing rows with
  | case1 =>
    cases h
    simp
  | case2 e es vs ih =>
    obtain ⟨row, hr, h⟩ := bind_eq_ok_iff.mp h
    obtain ⟨rest, hrest, h⟩ := bind_eq_ok_iff.mp h
    cases h
    have hrow := hp e es (by simp) row hr
    have hmore := ih (fun f fs hm => hp f fs (List.mem_cons_of_mem _ hm)) hrest
    exact List.forall_mem_cons.mpr ⟨hrow, hmore⟩
  | case3 v vs => cases h

theorem readRows_sound {vs : List Value} {rows : List Row} (hs : ∀ v ∈ vs, v.Made)
    (h : readRows vs = .ok rows) : ∀ r ∈ rows, SoundRow r := by
  refine readRows_all (fun e es hm row hr => ?_) h
  have he := (hs (.dict (e :: es)) hm).entries
  exact readRow_sound (fun f hf => (he f hf).sound) hr

/-- The values that a conflict clause keeps are made. -/
def ConflictCall.Made : ConflictCall → Prop
  | .doUpdate assignments => assignments.Made
  | _ => True

namespace ConflictBuilder

/-- The builders that calls lead to from a fresh one. -/
inductive Reached : ConflictBuilder → Prop
  | start : Reached {}
  | apply {b next : ConflictBuilder} {call : ConflictCall} (hb : b.Reached) (hc : call.Made)
      (h : b.apply call = .ok next) : next.Reached

/-- The names are plain columns, and an update has assignments, but nothing else has. -/
structure Sound (b : ConflictBuilder) : Prop where
  columns : ∀ n ∈ b.clause.columns, Identifier.isValid n = true
  constraint : ∀ n ∈ b.clause.constraint, Identifier.isValid n = true
  updates : b.clause.action = .update → SoundRow b.clause.updates
  idle : b.clause.action = .nothing → b.clause.updates = []

theorem apply_sound {b next : ConflictBuilder} {call : ConflictCall} (hb : b.Sound)
    (hc : call.Made) (h : b.apply call = .ok next) : next.Sound := by
  cases call with
  | columns names =>
    obtain ⟨_, _, h⟩ := bind_eq_ok_iff.mp h
    obtain ⟨columns, hn, h⟩ := bind_eq_ok_iff.mp h
    split at h
    next => cases h
    next =>
      cases h
      exact ⟨insertColumns_isValid hn, by simp, hb.updates, hb.idle⟩
  | constraint name =>
    unfold apply at h
    simp only at h
    split at h
    next => cases h
    next =>
      obtain ⟨n, hn, h⟩ := bind_eq_ok_iff.mp h
      cases h
      exact ⟨by simp, by simpa using insertColumn_isValid hn, hb.updates, hb.idle⟩
  | doNothing =>
    cases h
    exact ⟨hb.columns, hb.constraint, by simp, fun _ => rfl⟩
  | doUpdate assignments =>
    simp only [apply] at h
    split at h
    next e es =>
      obtain ⟨updates, hu, h⟩ := bind_eq_ok_iff.mp h
      cases h
      have he := Value.Made.entries hc
      exact ⟨hb.columns, hb.constraint, fun _ => readRow_sound (fun f hf => (he f hf).sound) hu,
        by simp⟩
    next => cases h

theorem Reached.sound {b : ConflictBuilder} (h : b.Reached) : b.Sound := by
  induction h with
  | start => exact ⟨by simp, by simp, by simp, fun _ => rfl⟩
  | apply _ hc h ih => exact apply_sound ih hc h

theorem build_sound {b : ConflictBuilder} {c : ConflictClause} (hb : b.Sound)
    (h : b.build = .ok c) : c.Sound := by
  unfold build at h
  split at h
  next => cases h
  next =>
    split at h
    next => cases h
    next ht =>
      cases h
      refine ⟨hb.columns, hb.constraint, hb.updates, hb.idle, fun ha => ?_⟩
      by_cases hc : b.clause.columns = []
      · refine Or.inr ?_
        have hg := givenName_eq_self hb.constraint
        simp only [ha, hc, hg, List.isEmpty_nil, beq_self_eq_true, Bool.and_self, Bool.true_and,
          Option.isNone_iff_eq_none] at ht
        simpa [Option.isSome_iff_ne_none] using ht
      · exact Or.inl hc

end ConflictBuilder

/-- The values of a call that stay in the query are made; a conflict function answers with a
builder that calls have led to from the one it was given. -/
def InsertCall.Made : InsertCall → Prop
  | .values rows => rows.Made
  | .onConflict function => ∀ b, function {} = .ok (.builder b) → b.Reached
  | _ => True

namespace InsertBuilder

inductive Reached : InsertBuilder → Prop
  | start {table : Value} {b : InsertBuilder} (h : start table = .ok b) : b.Reached
  | apply {b next : InsertBuilder} {call : InsertCall} (hb : b.Reached) (hc : call.Made)
      (h : b.apply call = .ok next) : next.Reached

theorem rowsOf_sound {v : Value} {rows : List Row} (hv : v.Made) (h : rowsOf v = .ok rows) :
    ∀ r ∈ rows, SoundRow r := by
  unfold rowsOf at h
  split at h
  next => exact readRows_sound (by simpa using hv) h
  next => exact readRows_sound (hv.items rfl) h
  next => exact readRows_sound (hv.items rfl) h
  next => cases h

theorem apply_sound {b next : InsertBuilder} {call : InsertCall} (hb : b.query.Sound)
    (hc : call.Made) (h : b.apply call = .ok next) : next.query.Sound := by
  cases call with
  | values rows =>
    obtain ⟨new, hr, h⟩ := bind_eq_ok_iff.mp h
    cases h
    exact { hb with rows := List.forall_mem_append.mpr ⟨hb.rows, rowsOf_sound hc hr⟩ }
  | returning names =>
    obtain ⟨_, _, h⟩ := bind_eq_ok_iff.mp h
    obtain ⟨items, hi, h⟩ := bind_eq_ok_iff.mp h
    cases h
    have hn := List.forall_mem_append.mpr ⟨hb.returning, parseItems_wellNamed hi⟩
    exact { hb with returning := hn }
  | returningAll =>
    cases h
    have hstar : ∀ i ∈ [(⟨"*", none⟩ : SelectItem)], i.WellNamed := by
      simpa using ⟨.star, by simp⟩
    exact { hb with returning := List.forall_mem_append.mpr ⟨hb.returning, hstar⟩ }
  | onConflict function =>
    obtain ⟨answer, ha, h⟩ := bind_eq_ok_iff.mp h
    split at h
    next c =>
      obtain ⟨clause, hclause, h⟩ := bind_eq_ok_iff.mp h
      cases h
      refine { hb with conflict := fun d hd => ?_ }
      cases hd
      exact ConflictBuilder.build_sound (hc c ha).sound hclause
    next => cases h

theorem Reached.sound {b : InsertBuilder} (h : b.Reached) : b.query.Sound := by
  induction h with
  | start h =>
    obtain ⟨t, ht, h⟩ := bind_eq_ok_iff.mp h
    cases h
    exact ⟨TableRef.parse_wellNamed ht, by simp, by simp, by simp⟩
  | apply _ hc h ih => exact apply_sound ih hc h

end InsertBuilder

/-- The statements of the builders that calls lead to. -/
inductive Statement.Built : Statement → Prop
  | select {b : SelectBuilder} (h : b.Reached) : (Statement.select b.query).Built
  | insert {b : InsertBuilder} (h : b.Reached) : (Statement.insert b.query).Built

def Statement.Sound : Statement → Prop
  | .select q => q.Sound
  | .insert q => q.Sound

theorem Statement.Built.sound {s : Statement} (h : s.Built) : s.Sound := by
  cases h with
  | select h => exact h.sound.query
  | insert h => exact h.sound

end QueryBuilder
