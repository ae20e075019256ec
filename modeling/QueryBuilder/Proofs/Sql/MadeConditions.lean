import QueryBuilder.Proofs.Sql.Failures
import QueryBuilder.Proofs.Sql.KeyLiterals
import QueryBuilder.Proofs.Sql.Rendering
import QueryBuilder.Proofs.Sql.TablesInScope

/-!
Conditions that passed their checks, when they are written. The writer takes lists, keys and paths
for granted that only the checks establish. They are always there: no list is written empty, each
document is bound once, and no error is about the writer itself.
-/
namespace QueryBuilder

open Text

namespace Error

/-- Holds of the errors of a writer that meets what it cannot write: a node or an operator that it
does not know, and values that lack what is asked of them. -/
def isInternal : Error → Bool
  | .compilation _ | .wrongType _ | .noSuchMember _ | .noSuchKey _ | .noSuchTable _ | .arguments
  | .invalid _ => true
  | _ => false

theorem isInternal_of_isNaming {e : Error} (h : e.isNaming = true) : e.isInternal = false := by
  cases e with
  | malformed | empty | aliasedTable | unresolved => rfl
  | _ => cases h

theorem isInternal_of_isDuplicate {e : Error} (h : e.isDuplicate = true) :
    e.isInternal = false := by
  cases e with
  | duplicateQualifier => rfl
  | _ => cases h

end Error

/-- The error is about what a query says: a name, a qualifier that two tables have, an operand of
the filter that cannot be written as a document, or a number that has too many digits. -/
def Error.IsOfQuery (q : SelectQuery) (e : Error) : Prop :=
  e.isNaming = true ∨ e.isDuplicate = true ∨
    (∃ c ∈ (Statement.select q).leaves, c.LacksDocument e) ∨
    ¬ (Statement.select q).IsReadable ∧ e = .tooManyDigits

theorem Condition.LacksDocument.isInternal {c : Condition} {e : Error} (h : c.LacksDocument e) :
    e.isInternal = false := by
  rcases h with ⟨_, _, _, _, _, _, _, _, _, rfl⟩ | ⟨_, rfl⟩ | ⟨_, _, _, _, _, _, _, _, rfl⟩ <;> rfl

theorem Error.IsOfQuery.isInternal {q : SelectQuery} {e : Error} (h : e.IsOfQuery q) :
    e.isInternal = false := by
  rcases h with hn | hd | ⟨_, _, hc⟩ | ⟨_, rfl⟩
  · exact isInternal_of_isNaming hn
  · exact isInternal_of_isDuplicate hd
  · exact hc.isInternal
  · rfl

namespace Text

theorem isBlankText_eq_false_iff {s : String} :
    isBlankText s = false ↔ ∃ c ∈ s.toList, isBlank c = false := by
  simp [isBlankText]

theorem isBlankText_intercalate {w s : String} {ss : List String} (h : isBlankText s = false) :
    isBlankText (w.intercalate (s :: ss)) = false := by
  obtain ⟨c, hc, hb⟩ := isBlankText_eq_false_iff.mp h
  refine isBlankText_eq_false_iff.mpr ⟨c, ?_, hb⟩
  cases ss with
  | nil => simpa using hc
  | cons t ss => simp [String.intercalate_cons_cons, hc]

end Text

theorem Dialect.isBlankText_identifier (quoteReserved : Bool) {name : String}
    (h : name = "*" ∨ Identifier.isValid name = true) :
    isBlankText ((Dialect.postgres quoteReserved).identifier name) = false := by
  have hname : isBlankText name = false := by
    rcases h with rfl | h
    · decide
    · exact Identifier.isBlankText_eq_false h
  simp only [Dialect.postgres]
  split
  next => exact isBlankText_eq_false_iff.mpr ⟨'"', by simp [enclose], by decide⟩
  next => exact hname

theorem Dialect.isBlankText_placeholder (quoteReserved : Bool) (n : Nat) :
    isBlankText ((Dialect.postgres quoteReserved).placeholder n) = false :=
  isBlankText_eq_false_iff.mpr ⟨'$', by simp [Piece.toList_placeholder], by decide⟩

namespace Piece

variable {quoteReserved : Bool}

/-- A number that takes the place of another one is not blank either. -/
theorem isBlankText_render_raw {sql : String} (h : isBlankText sql = false) (params : List Value)
    (readable : isReadable sql = true) (offset : Nat) :
    isBlankText ((raw sql params readable).render (Dialect.postgres quoteReserved) offset) =
      false := by
  obtain ⟨c, hc, hb⟩ := isBlankText_eq_false_iff.mp h
  rw [← flatMap_chars_sqlTokens sql.toList] at hc
  obtain ⟨t, ht, hc⟩ := List.mem_flatMap.mp hc
  have hvisible : ∃ d ∈ (t.respell (renumbered offset params.length)).chars, isBlank d = false := by
    cases t with
    | placeholder digits => exact ⟨'$', List.mem_cons_self, by decide⟩
    | quoted cs | plain d => exact ⟨c, hc, hb⟩
  obtain ⟨d, hd, hb⟩ := hvisible
  refine isBlankText_eq_false_iff.mpr ⟨d, ?_, hb⟩
  rw [toList_render_raw]
  exact List.mem_flatMap.mpr ⟨t, ht, hd⟩

/-- Holds of a piece that cannot be overlooked in the text, whatever is bound before it. -/
def IsVisible (d : Dialect) (p : Piece) : Prop :=
  ∀ offset, isBlankText (p.render d offset) = false

end Piece

/-- How a leaf is written. A test of membership has a list of as many entries as there are values,
none of them blank and one at least; a condition on a document binds one value, or none if it is a
null test. -/
structure Context.WritesLeaf (ctx : Context) (c : Condition) (ps : List Piece) : Prop where
  membership : ∀ name op value, c = .comparison name op value → op.isMembership = true →
    ∃ column vs items, ctx.columnText name = .ok column ∧ value.items? = some vs ∧
      ps = .text s!"{column} {op.sql} (" ::
        Piece.separated ", " (items.map fun p => [p]) ++ [.text ")"] ∧
      items.length = vs.length ∧ items ≠ [] ∧ ∀ p ∈ items, p.IsVisible ctx.dialect
  document : ∀ name op path operand, c = .jsonb name op path operand →
    (Piece.bound ps).length = if op = .fieldIsNull then 0 else 1

namespace Context

variable {ctx : Context} {quoteReserved : Bool} {ps : List Piece}

theorem isBlankText_referenceText (hd : ctx.dialect = Dialect.postgres quoteReserved)
    {name : String} (hn : IsWritable name) : isBlankText (ctx.referenceText name) = false := by
  obtain ⟨p, rest, hparts⟩ : ∃ p rest, parts name = p :: rest :=
    List.exists_cons_of_ne_nil (by simp [parts, splitAt_ne_nil])
  rw [referenceText, hparts, hd, List.map_cons]
  exact isBlankText_intercalate (Dialect.isBlankText_identifier _ (hn p (by simp [hparts])))

theorem operand_isVisible (hd : ctx.dialect = Dialect.postgres quoteReserved) {v : Value}
    (hs : v.Sound) {p : Piece} (h : ctx.operand v = .ok p) : p.IsVisible ctx.dialect := by
  intro offset
  rw [hd]
  unfold operand at h
  split at h
  next name =>
    obtain ⟨text, htext, rfl⟩ := map_eq_ok_iff.mp h
    obtain ⟨column, hr, hc⟩ := bind_eq_ok_iff.mp htext
    cases hc
    exact isBlankText_referenceText hd
      (Scope.resolveName_isWritable (.column hs) (by simp) hr)
  next => exact hs.elim
  next =>
    obtain ⟨readable, rfl⟩ := Piece.fragment_eq_ok h
    exact Piece.isBlankText_render_raw hs _ readable offset
  next => exact hs.elim
  next =>
    cases h
    exact Dialect.isBlankText_placeholder quoteReserved (offset + 1)

/-- The list of a membership test has an entry for each value. -/
theorem membership_writes (hd : ctx.dialect = Dialect.postgres quoteReserved)
    {column : ResolvedColumn} {op : Comparison} {value : Value}
    (hk : Condition.checkComparison op value = .ok ()) (hs : value.Sound)
    (hm : op.isMembership = true) (h : ctx.comparison column op value = .ok ps) :
    ∃ vs items, value.items? = some vs ∧
      ps = .text s!"{ctx.resolvedText column} {op.sql} (" ::
        Piece.separated ", " (items.map fun p => [p]) ++ [.text ")"] ∧
      items.length = vs.length ∧ items ≠ [] ∧ ∀ p ∈ items, p.IsVisible ctx.dialect := by
  have hnull : op.isNullTest = false := by
    cases op <;> first | rfl | cases hm
  obtain ⟨v, vs, hvs⟩ := Condition.items_of_membership hk hm
  simp only [comparison, hnull, hm, if_true, walk_of_items hvs] at h
  obtain ⟨_, hwalk, h⟩ := bind_eq_ok_iff.mp h
  cases hwalk
  obtain ⟨operands, hoperands, h⟩ := bind_eq_ok_iff.mp h
  cases h
  obtain ⟨items, hitems, hseparated⟩ := bind_eq_ok_iff.mp hoperands
  cases hseparated
  have hlength : items.length = (v :: vs).length := length_forEach hitems
  have hvisible : ∀ p ∈ items, p.IsVisible ctx.dialect :=
    forEach_all (fun w hw p hp => operand_isVisible hd (hs.items hvs w hw) hp) hitems
  exact ⟨v :: vs, items, hvs, rfl, hlength, List.ne_nil_of_length_eq_add_one hlength, hvisible⟩

end Context

namespace JsonbOperator

variable {op : JsonbOperator} {path : List String} {operand : Value} {ps : List Piece}

/-- A null test binds nothing, and every other operator one value: the key that it asks for, or its
operand. -/
theorem length_bound_operandPieces (h : op.operandPieces path operand = .ok ps) :
    (Piece.bound ps).length = if op = .fieldIsNull then 0 else 1 := by
  cases op with
  | contains | containedBy | fieldContains =>
    simp only [operandPieces, jsonbDocument] at h
    split at h
    next =>
      cases h
      rfl
    next => cases h
  | hasKey | hasAnyKey | hasAllKeys =>
    obtain ⟨p, hp, h⟩ := bind_eq_ok_iff.mp h
    cases h
    obtain ⟨v, rfl⟩ := bind_of_jsonbKeysPiece hp
    rfl
  | fieldExists =>
    simp only [operandPieces] at h
    split at h
    next =>
      cases h
      rfl
    next => cases h
  | fieldIsNull =>
    cases h
    rfl
  | fieldEquals | fieldNotEquals =>
    obtain ⟨text, _, h⟩ := bind_eq_ok_iff.mp h
    cases h
    rfl

end JsonbOperator

namespace Context

variable {ctx : Context} {quoteReserved : Bool} {ps : List Piece}

theorem length_bound_jsonb {column : ResolvedColumn} {op : JsonbOperator} {path : List String}
    {operand : Value} (h : ctx.jsonb column op path operand = .ok ps) :
    (Piece.bound ps).length = if op = .fieldIsNull then 0 else 1 := by
  rw [jsonb_eq] at h
  obtain ⟨qs, hq, rfl⟩ := map_eq_ok_iff.mp h
  rw [Piece.bound_text_cons]
  exact JsonbOperator.length_bound_operandPieces hq

theorem leaf_writesLeaf (hd : ctx.dialect = Dialect.postgres quoteReserved) {c : Condition}
    (hs : c.Sound) (h : ctx.leaf c = .ok ps) : ctx.WritesLeaf c ps where
  membership name op value hc hm := by
    subst hc
    obtain ⟨column, hr, h⟩ := bind_eq_ok_iff.mp h
    obtain ⟨vs, items, hvs, hps, hitems⟩ := membership_writes hd hs.2.1 hs.2.2 hm h
    exact ⟨_, vs, items, bind_eq_ok_iff.mpr ⟨column, hr, rfl⟩, hvs, hps, hitems⟩
  document name op path operand hc := by
    subst hc
    obtain ⟨column, _, h⟩ := bind_eq_ok_iff.mp h
    exact length_bound_jsonb h

end Context

namespace Client

variable {settings : Settings} {schema : Option Schema} {q : SelectQuery} {c : Condition}

theorem compile_fails_of_sound {client : Client} (hq : q.filter = some c) (hs : c.Sound) :
    FailsWith (Error.IsOfQuery q) (client.compile (.select q)) := by
  have hread : ∀ m ∈ q.mentions, ¬ m.IsReadable → Error.IsOfQuery q .tooManyDigits :=
    fun m hm hn => Or.inr (Or.inr (Or.inr ⟨Statement.not_isReadable_of_mem hm hn, rfl⟩))
  have hleaves : (Statement.select q).leaves = c.leaves := by rw [Statement.leaves, hq]; rfl
  refine compile_fails_of_filter (p := Error.IsOfQuery q) (fun _ => Or.inl)
    (fun _ _ _ => Or.inr (Or.inl rfl)) (fun ctx c' hc' => ?_)
    fun n hn => hread _ (SelectQuery.count_mem_mentions hn)
  cases hq.symm.trans hc'
  refine Context.predicate_fails (fun _ => Or.inl) hs (fun d hd e he => ?_)
    fun m hm => hread m (SelectQuery.mem_mentions_of_filter hq hm)
  exact Or.inr (Or.inr (Or.inl ⟨d, hleaves ▸ hd, he⟩))

/-- A condition that passed its checks is written without a fault of the writer: where the query is
refused, the error is about what the query says, and where it is not, each leaf of the condition is
written as it is meant. -/
theorem compile_made (hq : q.filter = some c) (hc : (Value.condition c).Made) :
    (∀ e, (ofSettings settings schema).compile (.select q) = .error e →
      e.isInternal = false ∧ e.IsOfQuery q) ∧
    ∀ compiled, (ofSettings settings schema).compile (.select q) = .ok compiled →
      ∃ ctx ps, (ofSettings settings schema).context q.tables = .ok ctx ∧
        compiled = Compiled.ofPieces ctx.dialect ps ∧
        ∀ d ∈ c.leaves, ∃ part, ctx.leaf d = .ok part ∧ part <:+: ps ∧ ctx.WritesLeaf d part := by
  have hs : c.Sound := hc.sound
  refine ⟨fun e he => ?_, fun compiled hcompiled => ?_⟩
  · have hquery : e.IsOfQuery q := compile_fails_of_sound hq hs e he
    exact ⟨hquery.isInternal, hquery⟩
  · obtain ⟨ps, hps, rfl⟩ := map_eq_ok_iff.mp hcompiled
    obtain ⟨ctx, hctx, hleaves⟩ := pieces_leaf_infix hps
    obtain ⟨hdialect, _⟩ := context_eq_ok hctx
    refine ⟨ctx, _, hctx, by rw [hdialect], fun d hd => ?_⟩
    obtain ⟨hsound, hleaf⟩ := hs.of_mem_leaves d hd
    have hdraft : ∀ kind fields, d ≠ .draft kind fields := by
      rintro kind fields rfl
      exact hsound.elim
    have hmem : d ∈ (Statement.select q).leaves := by
      rw [Statement.leaves, hq]
      exact hd
    obtain ⟨part, hpart, hinfix⟩ := hleaves d hmem hdraft
    exact ⟨part, hpart, hinfix, Context.leaf_writesLeaf hdialect hsound hpart⟩

/-- A list of a value, a column and a fragment. -/
def listedMembership : Condition :=
  .comparison "id" .isIn (.list [.int 1, .column "age", .condition (.raw "now()" [])])

/-- Two conditions on a document, of which the first binds nothing. -/
def listedFields : List Condition :=
  [.jsonb "metadata" .fieldIsNull ["a"] .null, .jsonb "metadata" .fieldExists ["a", "b"] .null]

def listedFilter : Condition :=
  .logical .or [.negation listedMembership, .logical .and listedFields]

def listedQuery : SelectQuery :=
  { table := ⟨"users", none⟩, filter := some listedFilter }

theorem listedMembership_made : (Value.condition listedMembership).Made := by
  have hage : (Value.column "age").Made :=
    .of_make (by simpa using .atom rfl) (IsColumnName.bare (by decide)).reference
  have hnow : (Value.condition (.raw "now()" [])).Made :=
    .of_make (by simpa using .atom rfl) (show rawSql (.str "now()") = _ from rfl)
  have hlist : (Value.list [.int 1, .column "age", .condition (.raw "now()" [])]).Made := by
    refine .sequence rfl fun v hv => ?_
    simp only [List.mem_cons, List.not_mem_nil, or_false] at hv
    rcases hv with rfl | rfl | rfl
    · exact .atom rfl
    · exact hage
    · exact hnow
  exact .of_compare (.atom rfl) (.atom rfl) hlist ((IsColumnName.bare (by decide)).compare rfl)

theorem listedFilter_made : (Value.condition listedFilter).Made := by
  have hfield : ∀ (op : JsonbOperator) path, "" ∉ path →
      Condition.checkJsonb op path .null = .ok () →
        (Value.condition (.jsonb "metadata" op path .null)).Made := fun op path hp hk =>
    Term.field_apply_made (.atom rfl) (.atom rfl)
      (JsonbField.apply_of_isColumnName (.bare (by decide)) hp hk)
  have hand : Condition.join .and listedFields = .ok (.logical .and listedFields) := rfl
  have hfields : (Value.condition (.logical .and listedFields)).Made := by
    refine .join (fun d hd => ?_) hand
    rcases List.mem_pair.mp hd with rfl | rfl <;> exact hfield _ _ (by decide) rfl
  have hor : Condition.join .or [.negation listedMembership, .logical .and listedFields] =
      .ok listedFilter := rfl
  have hjoined : (Value.condition listedFilter).Made := by
    refine .join (fun d hd => ?_) hor
    rcases List.mem_pair.mp hd with rfl | rfl
    · exact .negate listedMembership_made rfl
    · exact hfields
  have hvalidate : (NodeKind.condition .logical).validate (.condition listedFilter) =
      .ok (.condition listedFilter) := rfl
  exact .of_validate hjoined hvalidate

/-- The list has three entries, of which one is bound, and of the conditions on the document only
the second binds something. -/
theorem compile_made_listedFilter :
    ∃ compiled, ∃ ctx : Context, (ofSettings {} none).compile (.select listedQuery) = .ok compiled ∧
      compiled.sql = "SELECT * FROM users WHERE (NOT (id IN ($1, age, now())) OR " ++
        "(metadata ->> 'a' IS NULL AND metadata -> 'a' ? $2))" ∧
      compiled.parameters = [.int 1, .str "b"] ∧
      ∀ d ∈ listedFilter.leaves, ∃ part, ctx.leaf d = .ok part ∧ ctx.WritesLeaf d part := by
  have hcompile : ∃ compiled, (ofSettings {} none).compile (.select listedQuery) = .ok compiled ∧
      compiled.sql = "SELECT * FROM users WHERE (NOT (id IN ($1, age, now())) OR " ++
        "(metadata ->> 'a' IS NULL AND metadata -> 'a' ? $2))" ∧
      compiled.parameters = [.int 1, .str "b"] :=
    ⟨_, by with_unfolding_all rfl, by decide +kernel, rfl⟩
  obtain ⟨compiled, hc, hsql, hparameters⟩ := hcompile
  have hfilter : listedQuery.filter = some listedFilter := rfl
  obtain ⟨_, hwritten⟩ := compile_made hfilter listedFilter_made
  obtain ⟨ctx, _, _, _, hleaves⟩ := hwritten compiled hc
  refine ⟨compiled, ctx, hc, hsql, hparameters, fun d hd => ?_⟩
  obtain ⟨part, hpart, _, hshape⟩ := hleaves d hd
  exact ⟨part, hpart, hshape⟩

end Client

end QueryBuilder
