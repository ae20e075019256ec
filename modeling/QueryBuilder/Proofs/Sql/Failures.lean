import QueryBuilder.Proofs.Builder.Insert
import QueryBuilder.Proofs.Condition.Factory
import QueryBuilder.Proofs.Condition.Leaves
import QueryBuilder.Proofs.Sql.ClauseFailures
import QueryBuilder.Proofs.Json.Documents
import QueryBuilder.Proofs.Sql.LeafBlame

/-!
The errors of compilation. A statement that the builders made is refused with an error about the
query, unless a field of a document is compared with a value that has no text or a number has too
many digits.
-/
namespace QueryBuilder

namespace Error

/-- Holds of the errors that the library has of its own. The others come up where a value does not
have what is asked of it. -/
def isLibrary : Error → Bool
  | .malformed .. | .empty .. | .duplicateQualifier .. | .aliasedTable .. | .unresolved ..
  | .operand .. | .compilation _ | .noExecutor => true
  | .invalid _ | .document _ | .tooManyDigits | .arguments | .wrongType _ | .noSuchMember _
  | .noSuchKey _ | .noSuchTable _ => false

end Error

/-- The condition compares a field with a value that is no text and cannot be written as one either,
and the error says just that. -/
def Condition.LacksText (c : Condition) (e : Error) : Prop :=
  ∃ column op path operand fault, c = .jsonb column op path operand ∧
    (op = .fieldEquals ∨ op = .fieldNotEquals) ∧ operand.isText = false ∧
    operand.document = .error fault ∧ e = .document fault

/-- The condition takes a value as a document in which an integer has too many digits. -/
def Condition.HasLongOperand (c : Condition) : Prop :=
  ∃ column op path operand, c = .jsonb column op path operand ∧ op.takesDocument = true ∧
    operand.isWritable = false

/-- The condition takes a value as a document that cannot be written as one, and the error says just
that. -/
def Condition.LacksDocument (c : Condition) (e : Error) : Prop :=
  c.LacksText e ∨ c.HasLongOperand ∧ e = .tooManyDigits ∨
    ∃ column op path operand fault, c = .jsonb column op path operand ∧
      op.takesDocument = true ∧ operand.document = .error fault ∧
        e = .operand (.document op fault) operand

namespace Condition

mutual

/-- What a condition mentions is mentioned at its leaves. -/
theorem flatMap_mentions_leaves : ∀ c : Condition, c.leaves.flatMap mentions = c.mentions
  | .logical _ children => flatMap_mentions_leavesOf children
  | .negation child => flatMap_mentions_leaves child
  | .comparison .. | .array .. | .jsonb .. | .raw .. | .stray _ | .draft .. =>
    List.flatMap_singleton _ _
termination_by structural c => c

theorem flatMap_mentions_leavesOf : ∀ cs : List Condition,
    (leavesOf cs).flatMap mentions = mentionsOf cs
  | [] => rfl
  | c :: cs => by
    rw [leavesOf, List.flatMap_append, flatMap_mentions_leaves c, flatMap_mentions_leavesOf cs,
      mentionsOf]
termination_by structural cs => cs

end

end Condition

/-- A number in the statement has too many digits: in a fragment, as a count, or as an integer of a
document. -/
def Statement.HasLongNumber (s : Statement) : Prop :=
  ¬ s.IsReadable ∨ ∃ c ∈ s.leaves, c.HasLongOperand

/-- The errors that the compilation of a statement can end with. -/
def Statement.MayFail (s : Statement) (e : Error) : Prop :=
  e.isLibrary = true ∨ (∃ c ∈ s.leaves, c.LacksText e) ∨ s.HasLongNumber ∧ e = .tooManyDigits

theorem Error.isLibrary_of_isNaming {e : Error} (h : e.isNaming = true) : e.isLibrary = true := by
  cases e with
  | malformed | empty | aliasedTable | unresolved => rfl
  | _ => cases h

theorem Error.of_isNaming {p : Error → Prop} (hp : ∀ e, e.isLibrary = true → p e) (e : Error)
    (he : e.isNaming = true) : p e :=
  hp e (isLibrary_of_isNaming he)

section

variable {p : Error → Prop} (hp : ∀ q existing added, p (.duplicateQualifier q existing added))

include hp

namespace Scope

theorem add_fails (s : Scope) (t : TableRef) : FailsWith p (s.add t) := by
  unfold add
  split
  next => exact .error (hp _ _ _)
  next => exact .ok _

theorem addAll_fails (s : Scope) (ts : List TableRef) : FailsWith p (s.addAll ts) := by
  induction ts generalizing s with
  | nil => exact .ok s
  | cons t ts ih => exact (add_fails hp s t).bind fun s' _ => ih s'

end Scope

theorem Client.context_fails (client : Client) (tables : List TableRef) :
    FailsWith p (client.context tables) :=
  (Scope.addAll_fails hp _ tables).andThen

end

section

variable {p : Error → Prop} {ctx : Context} (hp : ∀ e, e.isNaming = true → p e)

include hp

namespace Context

theorem operand_fails {v : Value} (hs : v.Sound)
    (hr : ∀ m ∈ v.mentions, ¬ m.IsReadable → p .tooManyDigits) : FailsWith p (ctx.operand v) := by
  unfold operand
  split
  next => exact (columnText_fails hp _ none []).map
  next => exact hs.elim
  next sql params => exact fragment_fails (hr (.fragment sql) (List.mem_singleton_self _))
  next => exact hs.elim
  next => exact .ok _

theorem operands_fails {vs : List Value} (hs : ∀ v ∈ vs, v.Sound)
    (hr : ∀ m ∈ vs.flatMap Value.mentions, ¬ m.IsReadable → p .tooManyDigits) :
    FailsWith p (ctx.operands vs) := by
  refine (FailsWith.forEach fun v hv => operand_fails hp (hs v hv) fun m hm => ?_).andThen
  exact hr m (List.mem_flatMap.mpr ⟨v, hv, hm⟩)

theorem comparison_fails {column : ResolvedColumn} {op : Comparison} {value : Value}
    (hk : Condition.checkComparison op value = .ok ()) (hs : value.Sound)
    (hr : ∀ m ∈ op.mentions value, ¬ m.IsReadable → p .tooManyDigits) :
    FailsWith p (ctx.comparison column op value) := by
  unfold comparison
  unfold Comparison.mentions at hr
  simp only
  split
  next => exact .ok _
  next =>
    split
    next hmember =>
      obtain ⟨v, vs, hvs⟩ := Condition.items_of_membership hk hmember
      rw [if_pos hmember, Value.itemMentions, hvs] at hr
      rw [walk_of_items hvs]
      exact (operands_fails hp (hs.items hvs) hr).andThen
    next hmember =>
      rw [if_neg hmember] at hr
      exact (operand_fails hp hs hr).andThen

theorem array_fails {column : ResolvedColumn} {op : ArrayOperator} {operand : Value}
    {elementType : Option String} (hk : Condition.checkArray op operand = .ok ())
    (hs : operand.Sound) (hr : ∀ m ∈ op.mentions operand, ¬ m.IsReadable → p .tooManyDigits) :
    FailsWith p (ctx.array column op operand elementType) := by
  unfold array
  unfold ArrayOperator.mentions at hr
  simp only
  split
  next hlist =>
    obtain ⟨vs, hvs⟩ := Condition.items_of_takesList hk hlist
    rw [if_pos hlist, Value.itemMentions, hvs] at hr
    rw [walk_of_items hvs]
    cases vs with
    | nil => exact .ok _
    | cons v vs => exact (operands_fails hp (hs.items hvs) hr).andThen
  next hlist =>
    rw [if_neg hlist] at hr
    exact (operand_fails hp hs hr).andThen

omit hp in
/-- The operators that take a document name themselves in their error, but for those that compare a
field. -/
theorem jsonb_fails {name : String} {column : ResolvedColumn} {op : JsonbOperator}
    {path : List String} {operand : Value} (hk : Condition.checkJsonb op path operand = .ok ())
    (ht : ∀ e, (Condition.jsonb name op path operand).LacksDocument e → p e) :
    FailsWith p (ctx.jsonb column op path operand) := by
  have hkeys : (operand.isText = true ∨ ∃ ks, operand.items? = some ks) →
      FailsWith p (jsonbKeysPiece operand) := fun h => .of_ok (jsonbKeysPiece_ok h)
  have hdocument : op.takesDocument = true → FailsWith p (jsonbDocument op operand) := by
    intro hop
    unfold jsonbDocument documentError
    split
    next => exact .ok _
    next fault hd =>
      split
      next => exact .error (ht _ (Or.inr (Or.inr ⟨_, _, _, _, fault, rfl, hop, hd, rfl⟩)))
      next hw =>
        have hlong : (Condition.jsonb name op path operand).HasLongOperand :=
          ⟨_, _, _, _, rfl, hop, Bool.eq_false_iff.mpr hw⟩
        exact .error (ht _ (Or.inr (Or.inl ⟨hlong, rfl⟩)))
  have htext : op = .fieldEquals ∨ op = .fieldNotEquals → FailsWith p (jsonbText operand) := by
    intro hop e he
    unfold jsonbText at he
    split at he
    next => cases he
    next hn =>
      cases hd : operand.document with
      | ok s =>
        rw [hd] at he
        cases he
      | error fault =>
        rw [hd] at he
        cases he
        have hn : operand.isText = false := by simp [Value.isText, hn]
        cases fault with
        | digits =>
          have hdocument : op.takesDocument = true := by rcases hop with rfl | rfl <;> rfl
          have hlong : (Condition.jsonb name op path operand).HasLongOperand :=
            ⟨_, _, _, _, rfl, hdocument, Value.isWritable_of_digits hd⟩
          exact ht _ (Or.inr (Or.inl ⟨hlong, rfl⟩))
        | value type | key type => exact ht _ (Or.inl ⟨_, _, _, _, _, rfl, hop, hn, hd, rfl⟩)
  unfold jsonb
  cases op with
  | contains | containedBy | fieldContains => exact (hdocument rfl).andThen
  | hasKey => exact (hkeys (Or.inl (Condition.isText_of_hasKey hk))).andThen
  | hasAnyKey | hasAllKeys =>
    obtain ⟨k, ks, hks, _⟩ := Condition.keys_of_checkJsonb (by simp) hk
    exact (hkeys (Or.inr ⟨_, hks⟩)).andThen
  | fieldExists =>
    have hpath := (Condition.path_of_checkJsonb hk).mp rfl
    simp only [List.getLast?_eq_some_getLast hpath]
    exact .ok _
  | fieldIsNull => exact .ok _
  | fieldEquals => exact (htext (Or.inl rfl)).andThen
  | fieldNotEquals => exact (htext (Or.inr rfl)).andThen

theorem leaf_fails {c : Condition} (hs : c.Sound) (hc : c.isLeaf = true)
    (ht : ∀ e, c.LacksDocument e → p e)
    (hr : ∀ m ∈ c.mentions, ¬ m.IsReadable → p .tooManyDigits) : FailsWith p (ctx.leaf c) := by
  have column : ∀ name, FailsWith p (ctx.scope.resolveName name) :=
    fun name => Scope.resolveName_fails hp ctx.scope name none []
  cases c with
  | comparison name op value =>
    exact (column name).bind fun _ _ => comparison_fails hp hs.2.1 hs.2.2 fun m hm =>
      hr m (List.mem_cons_of_mem _ hm)
  | array name op operand elementType =>
    exact (column name).bind fun _ _ => array_fails hp hs.2.1 hs.2.2.1 fun m hm =>
      hr m (List.mem_cons_of_mem _ hm)
  | jsonb name op path operand =>
    exact (column name).bind fun _ _ => jsonb_fails hs.2.2 ht
  | raw sql params => exact (fragment_fails (hr _ (List.mem_singleton_self _))).andThen
  | logical op children | negation child => cases hc
  | stray v | draft kind fields => exact hs.elim

theorem predicate_fails {c : Condition} (hs : c.Sound)
    (ht : ∀ d ∈ c.leaves, ∀ e, d.LacksDocument e → p e)
    (hr : ∀ m ∈ c.mentions, ¬ m.IsReadable → p .tooManyDigits) : FailsWith p (ctx.predicate c) := by
  -- Signs are always written, so only a leaf can be refused.
  refine (FailsWith.forEach fun t hm => ?_).map
  rcases Condition.layout_isAmong c .root hs t hm with hsign | ⟨d, hd, rfl⟩
  · obtain ⟨s, hs⟩ := LogicToken.token_of_isSign hsign
    exact .of_ok ⟨_, hs ctx⟩
  · obtain ⟨hsound, hleaf⟩ := hs.of_mem_leaves d hd
    refine leaf_fails hp hsound hleaf (ht d hd) fun m hm => hr m ?_
    rw [← c.flatMap_mentions_leaves]
    exact List.mem_flatMap.mpr ⟨d, hd, hm⟩

end Context

end

section

variable {p : Error → Prop} (hp : ∀ e, e.isLibrary = true → p e)

include hp

namespace Context

variable {ctx : Context}

theorem selectClauses_fails {q : SelectQuery} (hq : q.Sound)
    (ht : ∀ c ∈ q.filter, ∀ d ∈ c.leaves, ∀ e, d.LacksText e → p e)
    (hl : ∀ c ∈ q.filter, ∀ d ∈ c.leaves, d.HasLongOperand → p .tooManyDigits)
    (hr : ∀ m ∈ q.mentions, ¬ m.IsReadable → p .tooManyDigits) :
    FailsWith p (ctx.selectClauses q) := by
  refine selectClauses_fails_of_filter (Error.of_isNaming hp) (fun c hc => ?_) fun n hn => ?_
  · refine predicate_fails (Error.of_isNaming hp) (hq.filter c hc) (fun d hd e he => ?_)
      fun m hm => hr m (SelectQuery.mem_mentions_of_filter hc hm)
    rcases he with he | ⟨hlong, rfl⟩ | ⟨_, _, _, _, _, _, _, _, rfl⟩
    · exact ht c hc d hd e he
    · exact hl c hc d hd hlong
    · exact hp _ rfl
  · exact hr _ (SelectQuery.count_mem_mentions hn)

theorem conflictClause_fails {c : ConflictClause} (hc : c.Sound)
    (hr : ∀ m ∈ c.assignedMentions, ¬ m.IsReadable → p .tooManyDigits) :
    FailsWith p (ctx.conflictClause c) := by
  have hcomplete : c.IsComplete := by
    rw [ConflictClause.IsComplete, givenName_eq_self hc.constraint]
    exact fun ha => ⟨(hc.updates ha).ne_nil, hc.target ha⟩
  refine conflictClause_fails_of_isComplete (Error.of_isNaming hp) hcomplete
    fun values u hu => ?_
  cases ha : c.action with
  | nothing =>
    rw [hc.idle ha] at hu
    cases hu
  | update =>
    refine operand_fails (Error.of_isNaming hp) ((hc.updates ha).values u hu) fun m hm => hr m ?_
    exact List.mem_flatMap.mpr ⟨u, hu, hm⟩

theorem insertClauses_fails {q : InsertQuery} (hq : q.Sound)
    (hr : ∀ u ∈ (Statement.insert q).uses, ¬ u.mention.IsReadable → p .tooManyDigits) :
    FailsWith p (ctx.insertClauses q) := by
  refine insertClauses_fails_of_values (Error.of_isNaming hp) (hp _ rfl)
    (fun row hrow e he => ?_) fun c hc => conflictClause_fails hp (hq.conflict c hc) fun m hm => ?_
  · refine operand_fails (Error.of_isNaming hp) ((hq.rows row hrow).values e he) fun m hm => ?_
    have hmention : m ∈ q.mentions := by
      have hrows : m ∈ q.rows.flatMap fun row => row.flatMap fun e => e.2.mentions :=
        List.mem_flatMap.mpr ⟨row, hrow, List.mem_flatMap.mpr ⟨e, he, hm⟩⟩
      simp only [InsertQuery.mentions, List.mem_append]
      exact Or.inl (Or.inl (Or.inr hrows))
    exact hr ⟨m, _⟩ (List.mem_append_left _ (List.mem_map_of_mem hmention))
  · have hmention : m ∈ q.conflict.elim [] ConflictClause.assignedMentions := by rwa [hc]
    exact hr ⟨m, _⟩ (List.mem_append_right _ (List.mem_map_of_mem hmention))

end Context

end

namespace Client

/-- Whatever a client and the builders are given, a statement is refused with one of the library's
own errors, or else because a field is compared with a value that has no text, or because a number
has too many digits. -/
theorem error_isLibrary_or_lacksText {s : Statement} (hs : s.Built) {client : Client} {e : Error}
    (h : client.compile s = .error e) : e.isLibrary = true ∨ (∃ c ∈ s.leaves, c.LacksText e) ∨
      s.HasLongNumber ∧ e = .tooManyDigits := by
  have hlibrary : ∀ e : Error, e.isLibrary = true → s.MayFail e := fun _ => Or.inl
  have hcontext : ∀ tables, FailsWith s.MayFail (client.context tables) :=
    client.context_fails fun _ _ _ => hlibrary _ rfl
  have hread : ∀ u ∈ s.uses, ¬ u.mention.IsReadable → s.MayFail .tooManyDigits :=
    fun u hu hn => Or.inr (Or.inr ⟨Or.inl fun hr => hn (hr u hu), rfl⟩)
  have hclauses : FailsWith s.MayFail (client.clauses s) := by
    cases s with
    | select q =>
      have hleaf : ∀ c ∈ q.filter, ∀ d ∈ c.leaves, d ∈ (Statement.select q).leaves := by
        intro c hc d hd
        rwa [Statement.leaves, hc]
      refine (hcontext q.tables).bind fun ctx _ => Context.selectClauses_fails hlibrary
        hs.sound
        (fun c hc d hd e he => Or.inr (Or.inl ⟨d, hleaf c hc d hd, he⟩))
        (fun c hc d hd hlong => Or.inr (Or.inr ⟨Or.inr ⟨d, hleaf c hc d hd, hlong⟩, rfl⟩))
        fun m hm => hread ⟨m, _⟩ (List.mem_map_of_mem hm)
    | insert q =>
      exact (hcontext [q.table]).bind fun ctx _ =>
        Context.insertClauses_fails hlibrary hs.sound hread
  exact hclauses.map.map e h

/-- Names and tables apart, a query is refused only as its filter is, or for a count. -/
theorem compile_fails_of_filter {p : Error → Prop} (hn : ∀ e, e.isNaming = true → p e)
    (hd : ∀ q existing added, p (.duplicateQualifier q existing added)) {client : Client}
    {q : SelectQuery} (hf : ∀ ctx : Context, ∀ c ∈ q.filter, FailsWith p (ctx.predicate c))
    (hc : ∀ n, n ∈ q.limit ∨ n ∈ q.offset → ¬ (Mention.count n).IsReadable → p .tooManyDigits) :
    FailsWith p (client.compile (.select q)) := by
  have hclauses : FailsWith p (client.clauses (.select q)) :=
    (client.context_fails hd q.tables).bind fun ctx _ =>
      Context.selectClauses_fails_of_filter hn (hf ctx) hc
  exact hclauses.map.map

/-- A field compared with an object that has no document. -/
def opaqueComparison : Condition :=
  .jsonb "metadata" .fieldEquals ["a"] (.handle .foreign)

def opaqueQuery : SelectQuery :=
  { table := ⟨"users", none⟩, filter := some opaqueComparison }

theorem opaqueQuery_built : (Statement.select opaqueQuery).Built := by
  have hstart : SelectBuilder.start (.str "users") =
      .ok ⟨{ table := ⟨"users", none⟩ }, { tables := [⟨"users", none⟩] }⟩ :=
    SelectBuilder.start_bare (by decide) (by decide) (by decide)
  have hfield : (JsonbField.mk (.str "metadata") ["a"]).apply .fieldEquals (.handle .foreign) =
      .ok (.condition opaqueComparison) :=
    JsonbField.apply_of_isColumnName (.bare (by decide)) (by decide) rfl
  have hmade : (Value.condition opaqueComparison).Made :=
    Term.field_apply_made (.atom rfl) (.atom rfl) hfield
  exact .select ((SelectBuilder.Reached.start hstart).filter hmade rfl)

theorem opaqueQuery_fails : (ofSettings {} none).compile (.select opaqueQuery) =
    .error (.document (.value "Opaque")) :=
  rfl

/-- The error of such a comparison is none of the library's own. -/
theorem foreign_error_opaqueQuery : ¬ ∀ (s : Statement) (client : Client) (e : Error), s.Built →
    client.compile s = .error e → e.isLibrary = true := by
  intro h
  cases h _ _ _ opaqueQuery_built opaqueQuery_fails

/-- Containment in a field refuses the same operand with an error of the library. -/
example : (ofSettings {} none).compile (.select { opaqueQuery with
      filter := some (.jsonb "metadata" .fieldContains ["a"] (.handle .foreign)) }) =
    .error (.operand (.document .fieldContains (.value "Opaque")) (.handle .foreign)) :=
  rfl

theorem error_isLibrary_or_lacksText_opaqueQuery :
    ∃ e, (ofSettings {} none).compile (.select opaqueQuery) = .error e ∧
      (e.isLibrary = true ∨ (∃ c ∈ (Statement.select opaqueQuery).leaves, c.LacksText e) ∨
        (Statement.select opaqueQuery).HasLongNumber ∧ e = .tooManyDigits) :=
  ⟨_, opaqueQuery_fails, error_isLibrary_or_lacksText opaqueQuery_built opaqueQuery_fails⟩

end Client

end QueryBuilder
