import QueryBuilder.Proofs.Condition.Leaves
import QueryBuilder.Proofs.SameBut
import QueryBuilder.Proofs.Sql.Alignment
import QueryBuilder.Proofs.Sql.PathKeys

/-!
Statements that differ in the keys of their paths only. They have the same pieces, but for the texts
of the paths.
-/
namespace QueryBuilder

open Text

/-- The keys that the leaf writes as literals. -/
def Condition.ownKeys : Condition → List String
  | .jsonb _ op path _ => op.inlined path
  | _ => []

/-- The keys that the condition writes as literals, from left to right. -/
def Condition.inlinedKeys (c : Condition) : List String :=
  c.leaves.flatMap Condition.ownKeys

def inlinedKeysOf (cs : List Condition) : List String :=
  (Condition.leavesOf cs).flatMap Condition.ownKeys

def Statement.inlinedKeys (s : Statement) : List String :=
  s.leaves.flatMap Condition.ownKeys

mutual

/-- The second condition is the first with other keys in its paths, as many in each. -/
inductive Condition.Rekeyed : Condition → Condition → Prop
  | jsonb {column : String} {op : JsonbOperator} {path keys : List String} {operand : Value}
      (h : path.length = keys.length) :
      (Condition.jsonb column op path operand).Rekeyed (.jsonb column op keys operand)
  | logical {op : Connective} {cs ds : List Condition} (h : RekeyedAll cs ds) :
      (Condition.logical op cs).Rekeyed (.logical op ds)
  | negation {c d : Condition} (h : c.Rekeyed d) : (Condition.negation c).Rekeyed (.negation d)
  | same {c : Condition} (h : c.inlinedKeys = []) : c.Rekeyed c

inductive RekeyedAll : List Condition → List Condition → Prop
  | nil : RekeyedAll [] []
  | cons {c d : Condition} {cs ds : List Condition} (h : c.Rekeyed d) (hs : RekeyedAll cs ds) :
      RekeyedAll (c :: cs) (d :: ds)

end

/-- The second statement is the first with other keys. -/
inductive Statement.Rekeyed : Statement → Statement → Prop
  | select {q : SelectQuery} {filter : Option Condition}
      (h : Option.Rel Condition.Rekeyed q.filter filter) :
      (Statement.select q).Rekeyed (.select { q with filter })
  | insert (q : InsertQuery) : (Statement.insert q).Rekeyed (.insert q)

namespace Condition

theorem inlinedKeys_logical (op : Connective) (c : Condition) (cs : List Condition) :
    (Condition.logical op (c :: cs)).inlinedKeys = c.inlinedKeys ++ inlinedKeysOf cs := by
  rw [inlinedKeys, leaves, leavesOf, List.flatMap_append]
  rfl

theorem inlinedKeysOf_cons (c : Condition) (cs : List Condition) :
    inlinedKeysOf (c :: cs) = c.inlinedKeys ++ inlinedKeysOf cs := by
  rw [inlinedKeysOf, leavesOf, List.flatMap_append]
  rfl

theorem inlinedKeys_jsonb (column : String) (op : JsonbOperator) (path : List String)
    (operand : Value) : (Condition.jsonb column op path operand).inlinedKeys = op.inlined path := by
  simp [inlinedKeys, leaves, ownKeys]

end Condition

theorem JsonbOperator.length_inlined (op : JsonbOperator) {path keys : List String}
    (h : path.length = keys.length) : (op.inlined path).length = (op.inlined keys).length := by
  cases op <;> simp [inlined, h]

mutual

theorem Condition.Rekeyed.length_inlinedKeys : ∀ {c d : Condition}, c.Rekeyed d →
    c.inlinedKeys.length = d.inlinedKeys.length
  | _, _, .jsonb h => by
    rw [Condition.inlinedKeys_jsonb, Condition.inlinedKeys_jsonb, JsonbOperator.length_inlined _ h]
  | .logical _ _, .logical _ _, .logical h => h.length_inlinedKeysOf
  | .negation _, .negation _, .negation h => h.length_inlinedKeys
  | _, _, .same _ => rfl

theorem RekeyedAll.length_inlinedKeysOf : ∀ {cs ds : List Condition}, RekeyedAll cs ds →
    (inlinedKeysOf cs).length = (inlinedKeysOf ds).length
  | _, _, .nil => rfl
  | _, _, .cons h hs => by
    rw [Condition.inlinedKeysOf_cons, Condition.inlinedKeysOf_cons, List.length_append,
      List.length_append, h.length_inlinedKeys, hs.length_inlinedKeysOf]

end

/-- Tokens that differ at most in keys, with the keys that the one and the other write. -/
inductive LogicToken.Rekeyed : List (String × String) → LogicToken → LogicToken → Prop
  | jsonb {column : String} {op : JsonbOperator} {path keys : List String} {operand : Value}
      (h : path.length = keys.length) :
      LogicToken.Rekeyed ((op.inlined path).zip (op.inlined keys))
        (.leaf (.jsonb column op path operand)) (.leaf (.jsonb column op keys operand))
  | same (t : LogicToken) : LogicToken.Rekeyed [] t t

theorem Condition.Rekeyed.isLogical {c d : Condition} (h : c.Rekeyed d) :
    c.isLogical = d.isLogical := by
  cases h <;> rfl

theorem RekeyedAll.any_isLogical {cs ds : List Condition} (h : RekeyedAll cs ds) :
    cs.any Condition.isLogical = ds.any Condition.isLogical ∧ cs.length = ds.length := by
  induction cs generalizing ds with
  | nil =>
    cases h
    exact ⟨rfl, rfl⟩
  | cons c cs ih =>
    cases h with
    | cons hc hs =>
      obtain ⟨hany, hlength⟩ := ih hs
      exact ⟨by rw [List.any_cons, List.any_cons, hc.isLogical, hany], by simp [hlength]⟩

theorem grouped_rekeyed {wrap : Bool} {ks : List (String × String)} {ts us : List LogicToken}
    (h : Paired LogicToken.Rekeyed ks ts us) :
    Paired LogicToken.Rekeyed ks (grouped wrap ts) (grouped wrap us) := by
  cases wrap with
  | false => exact h
  | true =>
    have happend := h.append (.item (.same .closing) .nil)
    rw [List.append_nil] at happend
    exact .item (.same .opening) happend

mutual

theorem layout_rekeyed : ∀ {c d : Condition}, c.Rekeyed d → ∀ position : Position,
    Paired LogicToken.Rekeyed (c.inlinedKeys.zip d.inlinedKeys) (c.layout position)
      (d.layout position)
  | _, _, .jsonb h, _ => by
    rw [Condition.inlinedKeys_jsonb, Condition.inlinedKeys_jsonb]
    exact .single (.jsonb h)
  | .negation c, .negation d, .negation h, _ =>
    .item (.same .negation) (@grouped_rekeyed true _ _ _ (layout_rekeyed h .negated))
  | .logical op [], .logical _ [], .logical .nil, _ => .item (.same _) .nil
  | .logical op (c :: cs), .logical _ (d :: ds), .logical (.cons h hs), position => by
    have hrest := layoutRest_rekeyed hs op
    obtain ⟨hany, hlength⟩ := (RekeyedAll.cons h hs).any_isLogical
    -- The first children write equally many keys, so the pairs divide where the children do.
    rw [Condition.inlinedKeys_logical, Condition.inlinedKeys_logical,
      List.zip_append h.length_inlinedKeys]
    cases hs with
    | nil =>
      have hc := layout_rekeyed h position
      simpa [inlinedKeysOf, Condition.leavesOf, Condition.layout] using hc
    | cons =>
      simp only [List.length_cons, Nat.add_right_cancel_iff] at hlength
      rw [Condition.layout, Condition.layout, hany, hlength]
      exact grouped_rekeyed ((layout_rekeyed h .nested).append hrest)
  | _, _, .same h, position => by
    rw [h]
    exact .same .same _

theorem layoutRest_rekeyed : ∀ {cs ds : List Condition}, RekeyedAll cs ds → ∀ op : Connective,
    Paired LogicToken.Rekeyed ((inlinedKeysOf cs).zip (inlinedKeysOf ds))
      (Condition.layoutRest op cs) (Condition.layoutRest op ds)
  | _, _, .nil, _ => .nil
  | _, _, .cons h hs, op => by
    rw [Condition.inlinedKeysOf_cons, Condition.inlinedKeysOf_cons,
      List.zip_append h.length_inlinedKeys]
    exact .item (.same _) ((layout_rekeyed h .nested).append (layoutRest_rekeyed hs op))

end

namespace Piece

/-- Pieces of which one is the text of a path, and the other that of a path with other keys below
the same column; or which are the same text, or both bound. -/
inductive Rekeyed (quoteReserved : Bool) : List (String × String) → Piece → Piece → Prop
  | path {column sign : String} {asText : Bool} {path keys : List String} (hc : Inert column)
      (hl : path.length = keys.length) (hs : sign.toList.head? = some ' ')
      (hp : isPlainText sign = true) :
      Rekeyed quoteReserved (path.zip keys)
        (.text (jsonbPathText column asText (path.map (Dialect.postgres quoteReserved).literal) ++
          sign))
        (.text (jsonbPathText column asText (keys.map (Dialect.postgres quoteReserved).literal) ++
          sign))
  | bind (v w : Value) : Rekeyed quoteReserved [] (.bind v) (.bind w)
  | same (p : Piece) : Rekeyed quoteReserved [] p p

theorem separated_paired {κ : Type} {r : List κ → Piece → Piece → Prop} {w : String}
    (hw : r [] (.text w) (.text w)) {ks : List κ} {xss yss : List (List Piece)}
    (h : Paired (Paired r) ks xss yss) :
    Paired r ks (separated w xss) (separated w yss) := by
  induction h with
  | nil => exact .nil
  | cons hx hr ih =>
    cases hr with
    | nil => simpa [separated] using hx
    | cons => exact hx.append (.item hw ih)

end Piece

/-- The keys of a path change what is bound by their last at most. -/
theorem JsonbOperator.operandPieces_rekeyed (quoteReserved : Bool) (op : JsonbOperator)
    {path keys : List String} (operand : Value) (h : path.length = keys.length) :
    Refines (Paired (Piece.Rekeyed quoteReserved) []) (op.operandPieces path operand)
      (op.operandPieces keys operand) := by
  cases op with
  | fieldExists =>
    simp only [operandPieces]
    cases hp : path.getLast? with
    | none => exact .error
    | some key =>
      cases hk : keys.getLast? with
      | none =>
        rw [List.getLast?_eq_none_iff] at hk
        rw [hk, List.length_nil, List.length_eq_zero_iff] at h
        simp [h] at hp
      | some key' => exact .ok (.single (.bind _ _))
  | _ => exact .same (Paired.same .same) _

namespace Context

variable {ctx : Context} {quoteReserved : Bool}

theorem leaf_rekeyed (hd : ctx.dialect = Dialect.postgres quoteReserved) {column : String}
    {op : JsonbOperator} {path keys : List String} {operand : Value}
    (h : path.length = keys.length) :
    Refines (Paired (Piece.Rekeyed quoteReserved) ((op.inlined path).zip (op.inlined keys)))
      (ctx.leaf (.jsonb column op path operand)) (ctx.leaf (.jsonb column op keys operand)) := by
  refine .bind_same fun resolved hr => ?_
  have hc := (lexemes_columnText hd hr).1
  rw [jsonb_eq, jsonb_eq, jsonbPath, jsonbPath, hd]
  exact (op.operandPieces_rekeyed quoteReserved operand h).map fun ps qs hps =>
    .lead (.path hc (op.length_inlined h) op.head?_sign op.isPlainText_sign) hps

theorem token_rekeyed (hd : ctx.dialect = Dialect.postgres quoteReserved)
    {ks : List (String × String)} {t u : LogicToken} (h : LogicToken.Rekeyed ks t u) :
    Refines (Paired (Piece.Rekeyed quoteReserved) ks) (ctx.token t) (ctx.token u) := by
  cases h with
  | jsonb h => exact leaf_rekeyed hd h
  | same => exact .same (Paired.same .same) _

theorem predicate_rekeyed (hd : ctx.dialect = Dialect.postgres quoteReserved) {c d : Condition}
    (h : c.Rekeyed d) :
    Refines (Paired (Piece.Rekeyed quoteReserved) (c.inlinedKeys.zip d.inlinedKeys))
      (ctx.predicate c) (ctx.predicate d) :=
  (Refines.forEach_paired (layout_rekeyed h .root) fun _ _ _ => token_rekeyed hd).map
    fun _ _ => Paired.flatten

theorem selectClauses_rekeyed (hd : ctx.dialect = Dialect.postgres quoteReserved) {q : SelectQuery}
    {filter : Option Condition} (h : Option.Rel Condition.Rekeyed q.filter filter) :
    Refines (Paired (Paired (Piece.Rekeyed quoteReserved))
        ((Statement.select q).inlinedKeys.zip (Statement.select { q with filter }).inlinedKeys))
      (ctx.selectClauses q) (ctx.selectClauses { q with filter }) := by
  have hsame : ∀ ps : List Piece, Paired (Piece.Rekeyed quoteReserved) [] ps ps :=
    Paired.same .same
  have hfilter : Refines (Paired (Paired (Piece.Rekeyed quoteReserved))
      ((Statement.select q).inlinedKeys.zip (Statement.select { q with filter }).inlinedKeys))
      (ctx.filterClause q.filter) (ctx.filterClause filter) := by
    cases q with
    | mk table joins items filter' orderBy limit offset =>
      cases h with
      | none => exact .ok .nil
      | some hc =>
        exact (predicate_rekeyed hd hc).bind fun ps qs hps => .ok (.single (.item (.same _) hps))
  refine .bind_same fun select _ => .bind_same fun joins _ => hfilter.bind fun xss yss hxs =>
    .bind_same fun order _ => .bind_same fun limit _ => .bind_same fun offset _ => .ok ?_
  exact (((hxs.same_append hsame _).append_same hsame _).append_same hsame _).append_same hsame _

end Context

namespace Client

variable {settings : Settings} {schema : Option Schema}

/-- Other keys change the pieces of a statement only in the texts of their paths. -/
theorem pieces_rekeyed {s t : Statement} (h : s.Rekeyed t) :
    Refines (Paired (Piece.Rekeyed settings.quoteReserved) (s.inlinedKeys.zip t.inlinedKeys))
      ((ofSettings settings schema).pieces s) ((ofSettings settings schema).pieces t) := by
  cases h with
  | select h =>
    refine Refines.map (.bind_same fun ctx hctx => ?_) fun _ _ => Piece.separated_paired (.same _)
    obtain ⟨hd, _⟩ := context_eq_ok hctx
    exact Context.selectClauses_rekeyed hd h
  | insert q => exact .same (Paired.same .same) _

end Client

end QueryBuilder
