import QueryBuilder.Proofs.Sql.LeafBlame
import QueryBuilder.Proofs.Sql.PieceLexemes
import QueryBuilder.Proofs.Sql.Rendering
import QueryBuilder.Proofs.Sql.Tokens

/-!
Keys stay in their literals. In the text of a whole statement every key that is written is one
literal, which is read as the key, and other keys change the text nowhere else.
-/
namespace QueryBuilder

open Text

namespace Piece

theorem infix_separated {w : String} {xs : List Piece} {xss : List (List Piece)} (h : xs ∈ xss) :
    xs <:+: separated w xss := by
  induction xss with
  | nil => cases h
  | cons ys xss ih =>
    cases xss with
    | nil =>
      cases List.mem_singleton.mp h
      exact List.infix_rfl
    | cons zs xss =>
      rcases List.mem_cons.mp h with rfl | h
      · exact (List.prefix_append _ _).isInfix
      · exact (ih h).trans ((List.suffix_cons _ _).trans (List.suffix_append _ _)).isInfix

/-- Pieces among sealed ones are read where they stand. -/
theorem lexemes_infix (quoteReserved : Bool) {ps qs : List Piece} (hs : Sealed ps)
    (h : qs <:+: ps) :
    ∃ before after offset ls,
      lexemes (renderAll (Dialect.postgres quoteReserved) offset qs).toList = some ls ∧
        lexemes (renderAll (Dialect.postgres quoteReserved) 0 ps).toList =
          some (before ++ ls ++ after) := by
  obtain ⟨pre, post, rfl⟩ := h
  have hqs : Sealed qs := ⟨fun q hq => hs.closed q (by simp [hq]),
    hs.seams.infix ⟨pre, post, rfl⟩⟩
  have hall : lexemes (renderAll (Dialect.postgres quoteReserved) 0
      (pre ++ qs ++ post)).toList = _ := lexemes_renderAll hs 0
  rw [lexemesAll_append, lexemesAll_append] at hall
  exact ⟨_, _, _, _, lexemes_renderAll hqs _, hall⟩

end Piece

namespace Context

variable {ctx : Context} {d : Condition} {ps : List Piece}

/-- The pieces of a leaf are among those of its condition. -/
theorem leaf_infix {c : Condition} (hd : ∀ kind fields, d ≠ .draft kind fields)
    (hm : d ∈ c.leaves) (h : ctx.predicate c = .ok ps) :
    ∃ qs, ctx.leaf d = .ok qs ∧ qs <:+: ps := by
  obtain ⟨ts, us, hl⟩ := List.append_of_mem (Condition.leaf_mem_layout hd c .root hm)
  rw [predicate, hl] at h
  obtain ⟨xs, ys, _, hy, rfl⟩ := tokens_append_eq_ok.mp h
  obtain ⟨qs, zs, hq, _, rfl⟩ := tokens_cons_eq_ok.mp hy
  exact ⟨qs, hq, xs, zs, by rw [List.append_assoc]⟩

theorem leaf_infix_selectClauses {q : SelectQuery} {xss : List (List Piece)}
    (hd : ∀ kind fields, d ≠ .draft kind fields) (hm : d ∈ (Statement.select q).leaves)
    (h : ctx.selectClauses q = .ok xss) :
    ∃ qs, ctx.leaf d = .ok qs ∧ qs <:+: Piece.separated " " xss := by
  obtain ⟨select, joins, filter, order, _, _, hf, _, rfl⟩ := selectClauses_eq_ok h
  cases hc : q.filter with
  | none =>
    rw [Statement.leaves, hc] at hm
    cases hm
  | some c =>
    rw [Statement.leaves, hc] at hm
    rw [hc] at hf
    obtain ⟨ps, hp, hf⟩ := bind_eq_ok_iff.mp hf
    cases hf
    obtain ⟨qs, hq, hi⟩ := leaf_infix hd hm hp
    have hclause : qs <:+: .text "WHERE " :: ps := hi.trans (List.suffix_cons _ _).isInfix
    exact ⟨qs, hq, hclause.trans (Piece.infix_separated (by simp))⟩

/-- A condition on a document is written whatever its keys are: only its column and its operand
can be refused. -/
theorem leaf_jsonb_ok {name text : String} {op : JsonbOperator} {path : List String}
    {operand : Value} (hk : Condition.checkJsonb op path operand = .ok ())
    (hn : ctx.columnText name = .ok text)
    (hd : op.takesDocument = true → ∃ document, operand.document = .ok document) :
    ∃ ps, ctx.leaf (.jsonb name op path operand) = .ok ps := by
  obtain ⟨column, hr, _⟩ := bind_eq_ok_iff.mp hn
  have hjsonb : ∃ ps, ctx.jsonb column op path operand = .ok ps := jsonb_ok hk hd
  obtain ⟨ps, hp⟩ := hjsonb
  exact ⟨ps, bind_eq_ok_iff.mpr ⟨column, hr, hp⟩⟩

end Context

/-- The whole text of the statement can be split: the builders made it for a client with settings
and types as they are read, and its fragments leave no quote open. -/
structure Statement.Readable (settings : Settings) (schema : Option Schema) (s : Statement) :
    Prop where
  built : s.Built
  settings : ∃ fields, Settings.make fields = .ok settings
  types : ∀ d ∈ schema, d.HasPlainTypes
  fragments : ∀ site ∈ s.sites, site.IsClosed

namespace Client

variable {settings : Settings} {schema : Option Schema}

theorem pieces_sealed {s : Statement} (hs : s.Readable settings schema) {ps : List Piece}
    (h : (ofSettings settings schema).pieces s = .ok ps) : Piece.Sealed ps := by
  obtain ⟨fields, hf⟩ := hs.settings
  exact (pieces_write hf hs.types hs.built.sound h).isSealed hs.fragments

/-- The pieces of every leaf are among those of the query. -/
theorem pieces_leaf_infix {client : Client} {q : SelectQuery} {ps : List Piece}
    (h : client.pieces (.select q) = .ok ps) :
    ∃ ctx, client.context q.tables = .ok ctx ∧ ∀ d ∈ (Statement.select q).leaves,
      (∀ kind fields, d ≠ .draft kind fields) → ∃ part, ctx.leaf d = .ok part ∧ part <:+: ps := by
  obtain ⟨clauses, hclauses, rfl⟩ := map_eq_ok_iff.mp h
  obtain ⟨ctx, hctx, hclauses⟩ := bind_eq_ok_iff.mp hclauses
  exact ⟨ctx, hctx, fun d hm hd => Context.leaf_infix_selectClauses hd hm hclauses⟩

/-- In the text of a whole statement every condition on a document is read as it is by itself. -/
theorem lexemes_of_mem_leaves {q : SelectQuery} {c : Compiled}
    (hs : (Statement.select q).Readable settings schema)
    (h : (ofSettings settings schema).compile (.select q) = .ok c) :
    ∃ ctx, (ofSettings settings schema).context q.tables = .ok ctx ∧
      ∀ name op path operand, .jsonb name op path operand ∈ (Statement.select q).leaves →
        ∃ (offset : Nat) (before ls after : List Lexeme),
          lexemes c.sql.toList = some (before ++ ls ++ after) ∧
            ctx.JsonbLexemes name op path (ctx.dialect.placeholder (offset + 1)) ls := by
  obtain ⟨ps, hps, rfl⟩ := map_eq_ok_iff.mp h
  have hsealed := pieces_sealed hs hps
  obtain ⟨ctx, hctx, hleaves⟩ := pieces_leaf_infix hps
  obtain ⟨hd, _⟩ := context_eq_ok hctx
  refine ⟨ctx, hctx, fun name op path operand hm => ?_⟩
  obtain ⟨qs, hq, hi⟩ := hleaves _ hm (by simp)
  obtain ⟨before, after, offset, ls, hl, hall⟩ :=
    Piece.lexemes_infix settings.quoteReserved hsealed hi
  -- Read by itself, the leaf must be numbered from where it stands in the statement.
  obtain ⟨ls', hl', hread⟩ := Context.lexemes_leaf hd hq offset
  rw [hd] at hl'
  cases hl.symm.trans hl'
  exact ⟨offset, before, ls, after, hall, hread⟩

/-- Other keys change a statement only in the literals of the keys. -/
theorem compile_rekeyed {s t : Statement} {c : Compiled} (h : s.Rekeyed t)
    (hc : (ofSettings settings schema).compile s = .ok c) :
    ∃ c', (ofSettings settings schema).compile t = .ok c' ∧
      SameBut (fun k => ((Dialect.postgres settings.quoteReserved).literal k).toList)
        (s.inlinedKeys.zip t.inlinedKeys) c.sql.toList c'.sql.toList ∧
      (s.Readable settings schema → ∃ ls ms, lexemes c.sql.toList = some ls ∧
        lexemes c'.sql.toList = some ms ∧
          SameBut (fun k => [keyLexeme k]) (s.inlinedKeys.zip t.inlinedKeys) ls ms) := by
  obtain ⟨ps, hps, rfl⟩ := map_eq_ok_iff.mp hc
  obtain ⟨qs, hqs, hpaired⟩ := pieces_rekeyed h ps hps
  refine ⟨_, map_eq_ok_iff.mpr ⟨qs, hqs, rfl⟩, Piece.renderAll_rekeyed hpaired 0, fun hs => ?_⟩
  have hsealed := pieces_sealed hs hps
  exact ⟨_, _, Piece.lexemes_renderAll hsealed 0,
    Piece.lexemes_renderAll (Piece.sealed_rekeyed hpaired hsealed) 0,
    Piece.lexemesAll_rekeyed hpaired 0⟩

/-- The keys of a path are literals of the text and nothing else. -/
structure KeysAreLiterals (settings : Settings) (schema : Option Schema) : Prop where
  /-- A walk along keys and a chain of fields reach one field, which has just these keys. -/
  fields : ∀ (j : JsonbColumn) (key : String) (path : List String) (keys : Value),
    "" ∉ key :: path → keys.items? = some ((key :: path).map .str) →
      j.walk keys = .ok ⟨j.column, key :: path⟩ ∧ j.fields key path = .ok ⟨j.column, key :: path⟩
  /-- A condition on a field has the keys of the field. -/
  conditions : ∀ (f : JsonbField) (op : JsonbOperator) (operand v : Value),
    f.apply op operand = .ok v → ∃ name, v = .condition (.jsonb name op f.path operand)
  /-- A checked condition is written whatever its keys are, if its column and its document are. -/
  written : ∀ (ctx : Context) name op path operand text,
    Condition.checkJsonb op path operand = .ok () → ctx.columnText name = .ok text →
      (op.takesDocument = true → ∃ document, operand.document = .ok document) →
        ∃ ps, ctx.leaf (.jsonb name op path operand) = .ok ps
  /-- The text of a condition is read as its column and its path, and its literals are the keys:
  all, or all but the last where that one is bound. -/
  texts : ∀ tables ctx, (ofSettings settings schema).context tables = .ok ctx →
    ∀ name op path operand ps, ctx.leaf (.jsonb name op path operand) = .ok ps →
      (∀ offset : Nat, ∃ ls, lexemes (Piece.renderAll ctx.dialect offset ps).toList = some ls ∧
        ctx.JsonbLexemes name op path (ctx.dialect.placeholder (offset + 1)) ls ∧
          literals ls = op.inlined path) ∧
      (op = .fieldExists → ∃ key, path = op.inlined path ++ [key] ∧ Piece.bound ps = [.str key])
  /-- In a whole statement the text of a condition is read as it is by itself. -/
  statements : ∀ q c, (Statement.select q).Readable settings schema →
    (ofSettings settings schema).compile (.select q) = .ok c →
      ∃ ctx, (ofSettings settings schema).context q.tables = .ok ctx ∧
        ∀ name op path operand, .jsonb name op path operand ∈ (Statement.select q).leaves →
          ∃ (offset : Nat) (before ls after : List Lexeme),
            lexemes c.sql.toList = some (before ++ ls ++ after) ∧
              ctx.JsonbLexemes name op path (ctx.dialect.placeholder (offset + 1)) ls
  /-- A statement with other keys compiles too, and its text is the same but for the literals of the
  keys. These are lexemes of both texts if the text can be split at all. -/
  changes : ∀ s t c, s.Rekeyed t → (ofSettings settings schema).compile s = .ok c →
    ∃ c', (ofSettings settings schema).compile t = .ok c' ∧
      SameBut (fun k => ((Dialect.postgres settings.quoteReserved).literal k).toList)
        (s.inlinedKeys.zip t.inlinedKeys) c.sql.toList c'.sql.toList ∧
      (s.Readable settings schema → ∃ ls ms, lexemes c.sql.toList = some ls ∧
        lexemes c'.sql.toList = some ms ∧
          SameBut (fun k => [keyLexeme k]) (s.inlinedKeys.zip t.inlinedKeys) ls ms)

/-- Whatever characters the keys have, they cannot leave their literals. -/
theorem keys_are_literals (settings : Settings) (schema : Option Schema) :
    KeysAreLiterals settings schema where
  fields j _ _ _ hne hkeys := ⟨j.walk_str hkeys hne, j.fields_str hne⟩
  conditions _ _ _ _ h := by
    obtain ⟨name, _, _, _, hv⟩ := JsonbField.apply_eq_ok_iff.mp h
    exact ⟨name, hv⟩
  written _ _ _ _ _ _ hk hn hd := Context.leaf_jsonb_ok hk hn hd
  texts tables ctx hctx name op path operand ps h := by
    obtain ⟨hd, _⟩ := context_eq_ok hctx
    refine ⟨fun offset => ?_, fun hop => ?_⟩
    · obtain ⟨ls, hl, hread⟩ := Context.lexemes_leaf hd h offset
      exact ⟨ls, hl, hread, hread.literals_eq⟩
    · subst hop
      obtain ⟨column, _, h⟩ := bind_eq_ok_iff.mp h
      exact Context.bound_fieldExists h
  statements _ _ hs h := lexemes_of_mem_leaves hs h
  changes _ _ _ h hc := compile_rekeyed h hc

/-- A document with a quote and a placeholder among its keys. -/
def quotedCondition : Condition :=
  .jsonb "metadata" .fieldEquals ["o'brien", "$1"] (.str "x")

def quotedQuery : SelectQuery :=
  { table := ⟨"users", none⟩, filter := some quotedCondition }

theorem quotedQuery_readable : (Statement.select quotedQuery).Readable {} none := by
  have hstart : SelectBuilder.start (.str "users") =
      .ok ⟨{ table := ⟨"users", none⟩ }, { tables := [⟨"users", none⟩] }⟩ :=
    SelectBuilder.start_bare (by decide) (by decide) (by decide)
  have hfield : (JsonbField.mk (.str "metadata") ["o'brien", "$1"]).apply .fieldEquals (.str "x") =
      .ok (.condition quotedCondition) :=
    JsonbField.apply_of_isColumnName (.bare (by decide)) (by decide) rfl
  have hmade : (Value.condition quotedCondition).Made :=
    Term.field_apply_made (.atom rfl) (.atom rfl) hfield
  refine ⟨.select ((SelectBuilder.Reached.start hstart).filter hmade rfl), ⟨[], rfl⟩, by simp, ?_⟩
  intro site hm
  cases List.mem_singleton.mp hm
  trivial

def quotedPieces : List Piece :=
  [.text "SELECT *", .text " ", .text "FROM users", .text " ", .text "WHERE ",
    .text "metadata -> 'o''brien' ->> '$1' = ", .bind (.str "x")]

/-- The keys are read out of the text of the query, and with other keys it has another text. -/
theorem keys_are_literals_quotedQuery :
    ∃ c, (ofSettings {} none).compile (.select quotedQuery) = .ok c ∧
      c.sql = "SELECT * FROM users WHERE metadata -> 'o''brien' ->> '$1' = $1" ∧
      (∃ before ls after, lexemes c.sql.toList = some (before ++ ls ++ after) ∧
        literals ls = ["o'brien", "$1"]) ∧
      ∃ c', (ofSettings {} none).compile (.select { quotedQuery with
          filter := some (.jsonb "metadata" .fieldEquals ["a", "'b"] (.str "x")) }) = .ok c' ∧
        SameBut (fun k => ((Dialect.postgres true).literal k).toList)
          [("o'brien", "a"), ("$1", "'b")] c.sql.toList c'.sql.toList := by
  have hc : (ofSettings {} none).compile (.select quotedQuery) =
      .ok (Compiled.ofPieces (Dialect.postgres true) quotedPieces) := rfl
  have htext : (Compiled.ofPieces (Dialect.postgres true) quotedPieces).sql =
      "SELECT * FROM users WHERE metadata -> 'o''brien' ->> '$1' = $1" := by decide +kernel
  obtain ⟨ctx, _, hread⟩ := (keys_are_literals {} none).statements _ _ quotedQuery_readable hc
  have hleaf : quotedCondition ∈ (Statement.select quotedQuery).leaves := List.mem_singleton_self _
  obtain ⟨_, before, ls, after, hl, hls⟩ := hread _ _ _ _ hleaf
  have hrekeyed : (Statement.select quotedQuery).Rekeyed (.select { quotedQuery with
      filter := some (.jsonb "metadata" .fieldEquals ["a", "'b"] (.str "x")) }) :=
    .select (.some (.jsonb rfl))
  obtain ⟨c', hc', hsame, _⟩ := (keys_are_literals {} none).changes _ _ _ hrekeyed hc
  exact ⟨_, hc, htext, ⟨before, ls, after, hl, hls.literals_eq⟩, c', hc', hsame⟩

end Client

end QueryBuilder
