import QueryBuilder.Proofs.Builder.Insert
import QueryBuilder.Proofs.Sql.LeafBlame
import QueryBuilder.Sql.Clause

/-!
The clauses of sound statements are refused for a column in them, each in the scope that it is
written in.
-/
namespace QueryBuilder

variable {ctx : Context} {fault : String → Error → Prop}

/-- What fails in a scope fails as a use with the qualifiers of the scope. -/
theorem Blames.use {α : Type} {x : Except Error α} {rejected : ColumnUse → Error → Prop}
    {qualifiers : List String} {ms : List Mention}
    (h : Blames (Mention.Fails fun name => rejected ⟨name, qualifiers⟩) x ms) :
    Blames (Use.Fails rejected) x (ms.map (⟨·, qualifiers⟩)) := by
  have huse : Blames (fun m => Use.Fails rejected ⟨m, qualifiers⟩) x ms := h
  exact huse.index

namespace Context

theorem tokens_blames_append {ts us : List LogicToken} {xs ys : List Mention}
    (ht : Blames (Mention.Fails fault) (forEach ctx.token ts) xs)
    (hu : Blames (Mention.Fails fault) (forEach ctx.token us) ys) :
    Blames (Mention.Fails fault) (forEach ctx.token (ts ++ us)) (xs ++ ys) := by
  rw [forEach_append]
  exact ht.bind fun _ _ => hu.map

theorem tokens_blames_text {t : LogicToken} {ts : List LogicToken} {xs : List Mention} {s : String}
    (h : ctx.token t = .ok [.text s])
    (ht : Blames (Mention.Fails fault) (forEach ctx.token ts) xs) :
    Blames (Mention.Fails fault) (forEach ctx.token (t :: ts)) xs := by
  rw [forEach, h]
  exact ht.andThen

theorem grouped_blames {wrap : Bool} {ts : List LogicToken} {xs : List Mention}
    (h : Blames (Mention.Fails fault) (forEach ctx.token ts) xs) :
    Blames (Mention.Fails fault) (forEach ctx.token (grouped wrap ts)) xs := by
  cases wrap with
  | false => exact h
  | true =>
    have hclosing : Blames (Mention.Fails fault) (forEach ctx.token [.closing]) [] :=
      tokens_blames_text rfl (.success _)
    have hall := tokens_blames_append h hclosing
    rw [List.append_nil] at hall
    exact tokens_blames_text rfl hall

theorem tokens_blames_leaf (hf : ctx.Faults fault) {c : Condition} (hs : c.Sound)
    (hd : c.Serializes) (hc : c.isLogical = false) (hn : ∀ d, c ≠ .negation d) :
    Blames (Mention.Fails fault) (forEach ctx.token [.leaf c]) c.mentions := by
  exact (leaf_blames hf hs hd hc hn).andThen

mutual

theorem layout_blames (hf : ctx.Faults fault) : ∀ (c : Condition) (position : Position), c.Sound →
    c.Serializes → Blames (Mention.Fails fault) (forEach ctx.token (c.layout position)) c.mentions
  | .logical op [], _, _, _ => tokens_blames_text rfl (.success _)
  | .logical op [c], position, hs, hd => by
    have hc := layout_blames hf c position hs.1 hd.1
    rwa [Condition.mentions, mentionsOf, mentionsOf, List.append_nil]
  | .logical op (c :: d :: cs), position, hs, hd => by
    rw [Condition.layout, Condition.mentions, mentionsOf]
    exact grouped_blames (tokens_blames_append (layout_blames hf c .nested hs.1 hd.1)
      (layoutRest_blames hf (d :: cs) op hs.2 hd.2))
  | .negation c, _, hs, hd => by
    have hg : Blames (Mention.Fails fault)
        (forEach ctx.token (grouped true (c.layout .negated))) c.mentions :=
      grouped_blames (layout_blames hf c .negated hs hd)
    exact tokens_blames_text rfl hg
  | .comparison .., _, hs, hd => tokens_blames_leaf hf hs hd rfl (by simp)
  | .array .., _, hs, hd => tokens_blames_leaf hf hs hd rfl (by simp)
  | .jsonb .., _, hs, hd => tokens_blames_leaf hf hs hd rfl (by simp)
  | .raw .., _, hs, hd => tokens_blames_leaf hf hs hd rfl (by simp)
  | .stray _, _, hs, _ => hs.elim
  | .draft .., _, hs, _ => hs.elim
termination_by structural c => c

theorem layoutRest_blames (hf : ctx.Faults fault) : ∀ (cs : List Condition) (op : Connective),
    SoundConditions cs → SerializeAll cs →
      Blames (Mention.Fails fault) (forEach ctx.token (Condition.layoutRest op cs)) (mentionsOf cs)
  | [], _, _, _ => .success _
  | c :: cs, op, hs, hd => by
    rw [Condition.layoutRest, mentionsOf]
    exact tokens_blames_text rfl (tokens_blames_append (layout_blames hf c .nested hs.1 hd.1)
      (layoutRest_blames hf cs op hs.2 hd.2))
termination_by structural cs => cs

end

theorem filterClause_blames (hf : ctx.Faults fault) {filter : Option Condition}
    (hs : ∀ c ∈ filter, c.Sound) (hd : ∀ c ∈ filter, c.Serializes) :
    Blames (Mention.Fails fault) (ctx.filterClause filter) (filter.elim [] Condition.mentions) := by
  cases filter with
  | none => exact .success _
  | some c => exact (layout_blames hf c .root (hs c rfl) (hd c rfl)).map.andThen

theorem itemsText_blames (hf : ctx.Faults fault) {items : List SelectItem}
    (hi : ∀ i ∈ items, i.WellNamed) :
    Blames (Mention.Fails fault) (ctx.itemsText items) (items.map fun i => .column i.name) :=
  (Blames.forEach_map fun i hm =>
    (columnText_blames hf (hi i hm).name (by simp) []).andThen).andThen

theorem selectClause_blames (hf : ctx.Faults fault) {items : List SelectItem}
    (hi : ∀ i ∈ items, i.WellNamed) :
    Blames (Mention.Fails fault) (ctx.selectClause items) (items.map fun i => .column i.name) := by
  unfold selectClause
  cases items with
  | nil => exact .success _
  | cons i items => exact (itemsText_blames hf hi).andThen

theorem joinClause_blames (hf : ctx.Faults fault) {j : Join}
    (ht : j.table.qualifier ∈ ctx.scope.qualifiers)
    (hj : IsColumnName j.left ∧ IsColumnName j.right) :
    Blames (Mention.Fails fault) (ctx.joinClause j) [.column j.left, .column j.right] := by
  have hroot : ∀ q ∈ ctx.scope.root?.map TableRef.qualifier, q ∈ ctx.scope.qualifiers := by
    intro q hq
    obtain ⟨t, hm, rfl⟩ := Option.map_eq_some_iff.mp hq
    exact List.mem_map_of_mem (List.mem_of_mem_head? hm)
  have hright : Blames (Mention.Fails fault)
      (ctx.columnText j.right (some j.table.qualifier)) [.column j.right] :=
    columnText_blames hf (.column hj.2) (by simpa using ht) []
  exact (columnText_blames hf (.column hj.1) hroot []).bind fun _ _ => hright.andThen

theorem orderClause_blames (hf : ctx.Faults fault) (outputNames : List String)
    {orderBy : List OrderItem} (ho : ∀ o ∈ orderBy, IsColumnName o.column) :
    Blames (Mention.Fails fault) (ctx.orderClause outputNames orderBy)
      (orderBy.map fun o => .column o.column) := by
  unfold orderClause
  cases orderBy with
  | nil => exact .success _
  | cons o orderBy =>
    refine Blames.andThen (Blames.forEach_map fun p hp => ?_)
    exact (columnText_blames hf (.column (ho p hp)) (by simp) outputNames).andThen

theorem countClause_blames (word : String) (count : Option Nat) :
    Blames (Mention.Fails fault) (countClause word count) (count.toList.map .count) := by
  cases count with
  | none => exact .success _
  | some n =>
    have hlimit : Text.isWritable n = true ↔ (Mention.count n).IsReadable := decide_eq_true_iff
    have hn : Blames (Mention.Fails fault) (writeNumber n) [.count n] := by
      by_cases h : Text.isWritable n = true
      · refine .of_ok ⟨_, if_pos h⟩ fun m hm e he => ?_
        cases List.mem_singleton.mp hm
        exact he.1 (hlimit.mp h)
      · exact .of_error (if_neg h) (List.mem_singleton_self _) ⟨mt hlimit.mpr h, rfl⟩
    exact hn.andThen

/-- A SELECT is refused for one of its columns or for a number in it. -/
theorem selectClauses_blames (hf : ctx.Faults fault) {q : SelectQuery} (hq : q.Sound)
    (hd : ∀ c ∈ q.filter, c.Serializes) (ht : ctx.scope.tables = q.tables) :
    Blames (Mention.Fails fault) (ctx.selectClauses q) q.mentions := by
  have hjoins : Blames (Mention.Fails fault) (forEach ctx.joinClause q.joins)
      (q.joins.flatMap fun j => [.column j.left, .column j.right]) := by
    refine Blames.forEach fun j hj => joinClause_blames hf ?_ (hq.joins j hj)
    rw [Scope.qualifiers, ht]
    exact List.mem_map_of_mem (SelectQuery.joined_mem_tables hj)
  simp only [SelectQuery.mentions, List.append_assoc]
  refine (selectClause_blames hf hq.items).bind fun _ _ => hjoins.bind fun _ _ => ?_
  refine (filterClause_blames hf hq.filter hd).bind fun _ _ => ?_
  refine (orderClause_blames hf _ hq.orderBy).bind fun _ _ => ?_
  exact (countClause_blames "LIMIT" q.limit).bind fun _ _ =>
    (countClause_blames "OFFSET" q.offset).andThen

theorem cell_blames (hf : ctx.Faults fault) {row : Row} (hr : SoundRow row) (column : String) :
    Blames (Mention.Fails fault) (ctx.cell row column)
      ((row.lookup column).elim [] Value.mentions) := by
  unfold cell
  split
  next v hv =>
    obtain ⟨_, _, he, _⟩ := List.lookup_eq_some_iff.mp hv
    rw [hv]
    exact operand_blames hf (hr.values (column, v) (by simp [he]))
  next hn =>
    rw [hn]
    exact .success _

theorem row_blames (hf : ctx.Faults fault) {columns : List String} {row : Row} (hr : SoundRow row)
    (hc : ∀ e ∈ row, e.1 ∈ columns) :
    Blames (Mention.Fails fault) (ctx.row columns row) (row.flatMap fun e => e.2.mentions) := by
  have hcells := (Blames.forEach fun c (_ : c ∈ columns) => cell_blames hf hr c).andThen
    (f := fun cells =>
      Piece.text "(" :: Piece.separated ", " (cells.map fun c => [c]) ++ [.text ")"])
  refine hcells.of_mem_iff fun name => ?_
  simp only [List.mem_flatMap]
  constructor
  · rintro ⟨c, _, hname⟩
    cases hv : row.lookup c with
    | none => simp [hv] at hname
    | some v =>
      obtain ⟨_, _, he, _⟩ := List.lookup_eq_some_iff.mp hv
      rw [hv] at hname
      exact ⟨(c, v), by simp [he], hname⟩
  · rintro ⟨e, he, hname⟩
    refine ⟨e.1, hc e he, ?_⟩
    rw [lookup_of_mem hr.nodup he]
    exact hname

theorem bareNames_blame (hf : ctx.Faults fault) {columns : List String}
    (hc : ∀ c ∈ columns, Identifier.isValid c = true) :
    Blames (Mention.Fails fault) (forEach (fun c => ctx.columnText c) columns)
      (columns.map .column) :=
  .forEach_map fun c hm => columnText_blames hf (.column (.bare (hc c hm))) (by simp) []

theorem insertClause_blames (hf : ctx.Faults fault) {q : InsertQuery} (hq : q.Sound)
    (hr : q.rows ≠ []) :
    Blames (Mention.Fails fault) (ctx.insertClause q)
      (q.columns.map .column ++ q.rows.flatMap fun row => row.flatMap fun e => e.2.mentions) := by
  have hmem : ∀ row ∈ q.rows, ∀ e ∈ row, e.1 ∈ q.columns := by
    intro row hrow e he
    exact List.mem_eraseDups.mpr (List.mem_flatMap.mpr ⟨row, hrow, List.mem_map_of_mem he⟩)
  have hcolumns : q.columns ≠ [] := by
    obtain ⟨row, hrow⟩ := List.exists_mem_of_ne_nil _ hr
    obtain ⟨e, he⟩ := List.exists_mem_of_ne_nil _ (hq.rows row hrow).ne_nil
    exact List.ne_nil_of_mem (hmem row hrow e he)
  unfold insertClause
  simp only [List.isEmpty_eq_false_iff.mpr hr, List.isEmpty_eq_false_iff.mpr hcolumns, Bool.or_self,
    Bool.false_eq_true, if_false]
  refine (bareNames_blame hf hq.columns).bind fun _ _ => Blames.andThen ?_
  exact Blames.forEach fun row hrow => row_blames hf (hq.rows row hrow) (hmem row hrow)

theorem returningClause_blames (hf : ctx.Faults fault) {items : List SelectItem}
    (hi : ∀ i ∈ items, i.WellNamed) :
    Blames (Mention.Fails fault) (ctx.returningClause items)
      (items.map fun i => .column i.name) := by
  unfold returningClause
  cases items with
  | nil => exact .success _
  | cons i items => exact (itemsText_blames hf hi).andThen

/-- The columns of a target are bare, so they are never refused. -/
theorem conflictTarget_blames (hf : ctx.Faults fault) {c : ConflictClause} (hc : c.Sound) :
    Blames (Mention.Fails fault) (ctx.conflictTarget c) (c.columns.map .column) := by
  have hbare : ∀ m ∈ c.columns.map Mention.column, ∀ e, ¬ m.Fails fault e := by
    intro m hm
    obtain ⟨n, hn, rfl⟩ := List.mem_map.mp hm
    exact hf.bare (by rw [referenceOf_of_isValid (hc.columns n hn)])
  unfold conflictTarget
  split
  next => exact .of_ok ⟨_, rfl⟩ hbare
  next =>
    split
    next => exact .of_ok ⟨_, rfl⟩ hbare
    next => exact (bareNames_blame hf hc.columns).andThen

theorem target_of_update {c : ConflictClause} (hc : c.Sound) (ha : c.action = .update)
    {target : Option String} (h : ctx.conflictTarget c = .ok target) :
    ∃ text, target = some text := by
  unfold conflictTarget at h
  split at h
  next =>
    cases h
    exact ⟨_, rfl⟩
  next hn =>
    rw [givenName_eq_self hc.constraint] at hn
    have hcolumns : c.columns ≠ [] := (hc.target ha).resolve_right (by simp [hn])
    rw [if_neg (by simpa using hcolumns)] at h
    obtain ⟨_, _, h⟩ := bind_eq_ok_iff.mp h
    cases h
    exact ⟨_, rfl⟩

variable {rejected : ColumnUse → Error → Prop} {qs ps : List String}

theorem assignment_blames {values : Context} (hf : ctx.Faults fun n => rejected ⟨n, qs⟩)
    (hv : values.Faults fun n => rejected ⟨n, ps⟩) {update : String × Value}
    (hn : Identifier.isValid update.1 = true) (hs : update.2.Sound) :
    Blames (Use.Fails rejected) (ctx.assignment values update)
      (⟨.column update.1, qs⟩ :: update.2.mentions.map (⟨·, ps⟩)) := by
  have hcolumn : Blames (Use.Fails rejected) (ctx.columnText update.1) [⟨.column update.1, qs⟩] :=
    Blames.use (columnText_blames hf (.column (.bare hn)) (by simp) [])
  exact hcolumn.bind fun _ _ => (Blames.use (operand_blames hv hs)).andThen

theorem assignments_blame {values : Context} (hf : ctx.Faults fun n => rejected ⟨n, qs⟩)
    (hv : values.Faults fun n => rejected ⟨n, ps⟩) {updates : List (String × Value)}
    (hu : SoundRow updates) :
    Blames (Use.Fails rejected) (forEach (ctx.assignment values) updates)
      ((updates.map fun u => .column u.1).map (⟨·, qs⟩) ++
        (updates.flatMap fun u => u.2.mentions).map (⟨·, ps⟩)) := by
  have hall := Blames.forEach fun u hm =>
    assignment_blames hf hv (hu.valid u hm) (hu.values u hm)
  refine hall.of_mem_iff fun use => ?_
  simp only [List.mem_flatMap, List.mem_cons, List.mem_append, List.mem_map]
  constructor
  · rintro ⟨u, hm, rfl | ⟨mention, hn, rfl⟩⟩
    · exact Or.inl ⟨_, ⟨u, hm, rfl⟩, rfl⟩
    · exact Or.inr ⟨mention, ⟨u, hm, hn⟩, rfl⟩
  · rintro (⟨_, ⟨u, hm, rfl⟩, rfl⟩ | ⟨mention, ⟨u, hm, hn⟩, rfl⟩)
    · exact ⟨u, hm, Or.inl rfl⟩
    · exact ⟨u, hm, Or.inr ⟨mention, hn, rfl⟩⟩

/-- The columns of the clause are resolved in the scope of the statement, the values that it assigns
in a scope of their own. -/
theorem conflictClause_blames {values : Context} (hf : ctx.Faults fun n => rejected ⟨n, qs⟩)
    (hv : values.Faults fun n => rejected ⟨n, ps⟩) (h : ctx.withExcluded = .ok values)
    {c : ConflictClause} (hc : c.Sound) :
    Blames (Use.Fails rejected) (ctx.conflictClause c)
      (c.mentions.map (⟨·, qs⟩) ++ c.assignedMentions.map (⟨·, ps⟩)) := by
  have htarget := Blames.use (conflictTarget_blames hf hc)
  unfold conflictClause
  rw [h]
  cases ha : c.action with
  | nothing =>
    have hupdates := hc.idle ha
    rw [ConflictClause.mentions, ConflictClause.assignedMentions, hupdates]
    simp only [List.map_nil, List.append_nil, List.flatMap_nil]
    exact htarget.bind_nil fun target _ => by cases target <;> exact .success _
  | update =>
    have hu := hc.updates ha
    rw [ConflictClause.mentions, List.map_append, List.append_assoc]
    refine htarget.bind fun target ht => ?_
    obtain ⟨text, rfl⟩ := target_of_update hc ha ht
    simp only [List.isEmpty_eq_false_iff.mpr hu.ne_nil, Bool.false_eq_true, if_false]
    exact (assignments_blame hf hv hu).andThen

/-- An INSERT with rows is refused for one of its columns or numbers, or for one in the values that
it assigns. -/
theorem insertClauses_blame {values : Context} (hf : ctx.Faults fun n => rejected ⟨n, qs⟩)
    (hv : values.Faults fun n => rejected ⟨n, ps⟩) (h : ctx.withExcluded = .ok values)
    {q : InsertQuery} (hq : q.Sound) (hr : q.rows ≠ []) :
    Blames (Use.Fails rejected) (ctx.insertClauses q)
      (q.mentions.map (⟨·, qs⟩) ++
        (q.conflict.elim [] ConflictClause.assignedMentions).map (⟨·, ps⟩)) := by
  have hinsert := Blames.use (insertClause_blames hf hq hr)
  have hreturning := Blames.use (returningClause_blames hf hq.returning)
  have hconflict : Blames (Use.Fails rejected) (ctx.conflictClauses q.conflict)
      ((q.conflict.elim [] ConflictClause.mentions).map (⟨·, qs⟩) ++
        (q.conflict.elim [] ConflictClause.assignedMentions).map (⟨·, ps⟩)) := by
    cases ho : q.conflict with
    | none => exact .success _
    | some c => exact (conflictClause_blames hf hv h (hq.conflict c ho)).andThen
  have hall : Blames (Use.Fails rejected) (ctx.insertClauses q) _ :=
    hinsert.bind fun _ _ => hconflict.bind fun _ _ => hreturning.andThen
  refine hall.of_mem_iff fun use => ?_
  simp only [InsertQuery.mentions, List.map_append, List.mem_append]
  tauto

end Context

end QueryBuilder
