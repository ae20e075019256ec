import QueryBuilder.Proofs.Identifier.Bare
import QueryBuilder.Proofs.Sql.ClauseWrites
import QueryBuilder.Sql.Compile

/-!
Parameters and placeholders agree. The compiled text of a statement, with its placeholders filled
from the parameters, is the statement with every value written at its own site.
-/
namespace QueryBuilder

theorem Scope.addAll_eq_ok {s t : Scope} {tables : List TableRef} (h : s.addAll tables = .ok t) :
    t = { s with tables := s.tables ++ tables } := by
  induction tables generalizing s with
  | nil =>
    cases h
    simp
  | cons table tables ih =>
    obtain ⟨u, hu, h⟩ := bind_eq_ok_iff.mp h
    rw [ih h, (Scope.add_eq_ok_iff.mp hu).2]
    simp

namespace Client

variable {client : Client} {tables : List TableRef} {ctx : Context}

theorem context_eq_ok (h : client.context tables = .ok ctx) :
    ctx.dialect = client.dialect ∧ ctx.settings = client.settings ∧ ctx.schema = client.schema ∧
      ctx.scope.tables = tables := by
  obtain ⟨scope, hs, h⟩ := bind_eq_ok_iff.mp h
  cases h
  refine ⟨rfl, rfl, rfl, ?_⟩
  rw [Scope.addAll_eq_ok hs]
  rfl

theorem root_wellNamed (h : client.context tables = .ok ctx) (ht : ∀ t ∈ tables, t.WellNamed) :
    ∀ t ∈ ctx.scope.root?, t.WellNamed := by
  intro t hm
  rw [Scope.root?, (context_eq_ok h).2.2.2] at hm
  exact ht t (List.mem_of_mem_head? hm)

variable {settings : Settings} {schema : Option Schema} {fields : List (String × Value)}

theorem context_plain (hf : Settings.make fields = .ok settings)
    (ht : ∀ d ∈ schema, d.HasPlainTypes)
    (h : (ofSettings settings schema).context tables = .ok ctx) : ctx.Plain := by
  obtain ⟨hd, hs, hc, _⟩ := context_eq_ok h
  refine ⟨⟨settings.quoteReserved, hd⟩, ?_, ?_⟩
  · rw [hs]
    exact Settings.isPlainText_elementType hf
  · rw [hc]
    exact ht

/-- The pieces of a sound statement write its sites. -/
theorem pieces_write {s : Statement} {ps : List Piece} (hf : Settings.make fields = .ok settings)
    (ht : ∀ d ∈ schema, d.HasPlainTypes) (hs : s.Sound)
    (h : (ofSettings settings schema).pieces s = .ok ps) : Writes ps s.sites := by
  obtain ⟨clauses, hc, rfl⟩ := map_eq_ok_iff.mp h
  cases s with
  | select q =>
    obtain ⟨ctx, hctx, hc⟩ := bind_eq_ok_iff.mp hc
    exact (Context.selectClauses_write (context_plain hf ht hctx) hs
      (root_wellNamed hctx hs.tables) hc).separated
  | insert q =>
    obtain ⟨ctx, hctx, hc⟩ := bind_eq_ok_iff.mp hc
    exact (Context.insertClauses_write (context_plain hf ht hctx) hs hc).separated

/-- The parameters are what the sites bind, one after the other. Filling the text with them gives
the pieces of the statement with each value at its own site, and neither a quote is open nor a
placeholder without its parameter. -/
theorem parameters_aligned {s : Statement} {c : Compiled} (hs : s.Built)
    (hf : Settings.make fields = .ok settings) (ht : ∀ d ∈ schema, d.HasPlainTypes)
    (hr : ∀ site ∈ s.sites, site.IsClosed)
    (hc : (ofSettings settings schema).compile s = .ok c) :
    c.parameters = s.sites.flatMap Site.values ∧
      (∃ ps, (ofSettings settings schema).pieces s = .ok ps ∧ ps.filterMap Piece.site? = s.sites ∧
        fill c.parameters c.sql.toList = ps.flatMap Piece.written) ∧
      ClosedFragment c.sql.toList c.parameters.length := by
  obtain ⟨ps, hps, hcp⟩ := map_eq_ok_iff.mp hc
  have hw := pieces_write hf ht hs.sound hps
  obtain ⟨hclosed, hfill⟩ := (hw.isSealed hr).ofPieces hcp.symm
  refine ⟨?_, ⟨ps, hps, hw.located, hfill⟩, hclosed⟩
  rw [← hcp, ← hw.located]
  exact Piece.bound_eq_sites ps

/-- A fragment that uses a parameter twice and out of order, beside a column that is quoted. -/
def mixedFragment : Condition :=
  .raw "a = $2 or b = '$1' or c = $2 or d = $1" [.int 1, .str "x"]

def mixedQuery : SelectQuery :=
  { table := ⟨"users", none⟩
    filter := some (.logical .and [mixedFragment, .comparison "order" .equal (.int 7)]) }

theorem mixedFragment_made : (Value.condition mixedFragment).Made := by
  have hsql : sqlWith (.str "a = $2 or b = '$1' or c = $2 or d = $1") [.int 1, .str "x"] =
      .ok (.condition mixedFragment) := rfl
  refine .of_make (fun f hf => ?_) hsql
  rcases List.mem_pair.mp hf with rfl | rfl
  · exact .atom rfl
  · refine .sequence rfl fun w hw => ?_
    rcases List.mem_pair.mp hw with rfl | rfl <;> exact .atom rfl

theorem mixedQuery_built : (Statement.select mixedQuery).Built := by
  have hstart : SelectBuilder.start (.str "users") =
      .ok ⟨{ table := ⟨"users", none⟩ }, { tables := [⟨"users", none⟩] }⟩ :=
    SelectBuilder.start_bare (by decide) (by decide) (by decide)
  have hcompare : (Value.condition (.comparison "order" .equal (.int 7))).Made :=
    .of_compare (.atom rfl) (.atom rfl) (.atom rfl)
      (IsColumnName.compare (.bare (by decide)) rfl)
  have hreached := ((SelectBuilder.Reached.start hstart).filter mixedFragment_made rfl).filter
    hcompare rfl
  exact .select hreached

theorem mixedFragment_isReadable :
    Text.isReadable "a = $2 or b = '$1' or c = $2 or d = $1" = true := by
  decide +kernel

/-- What the filter of the query is written as. -/
def mixedParts : List Piece :=
  [.raw "a = $2 or b = '$1' or c = $2 or d = $1" [.int 1, .str "x"] mixedFragment_isReadable,
    .text " AND ", .text "\"order\" = ", .bind (.int 7)]

def mixedPieces : List Piece :=
  [.text "SELECT *", .text " ", .text "FROM users", .text " ", .text "WHERE "] ++ mixedParts

theorem mixedQuery_pieces : (ofSettings {} none).pieces (.select mixedQuery) = .ok mixedPieces := by
  let ctx : Context := ⟨Dialect.postgres true, ⟨[⟨"users", none⟩], none⟩, {}, none⟩
  have hfragment : ctx.token (.leaf mixedFragment) =
      .ok [.raw _ [.int 1, .str "x"] mixedFragment_isReadable] := by
    rw [Context.token, mixedFragment, Context.leaf,
      Piece.fragment_of_isReadable mixedFragment_isReadable]
    rfl
  have hparts : ctx.tokens [.leaf mixedFragment, .connective .and,
      .leaf (.comparison "order" .equal (.int 7))] = .ok mixedParts :=
    Context.tokens_cons_eq_ok.mpr ⟨_, _, hfragment, rfl, rfl⟩
  have hfilter : ctx.filterClause mixedQuery.filter = .ok [.text "WHERE " :: mixedParts] :=
    bind_eq_ok_iff.mpr ⟨_, hparts, rfl⟩
  have hclauses : ctx.selectClauses mixedQuery =
      .ok [[.text "SELECT *"], [.text "FROM users"], .text "WHERE " :: mixedParts] :=
    bind_eq_ok_iff.mpr ⟨"SELECT *", rfl, bind_eq_ok_iff.mpr ⟨[], rfl,
      bind_eq_ok_iff.mpr ⟨_, hfilter, rfl⟩⟩⟩
  exact map_eq_ok_iff.mpr ⟨_, bind_eq_ok_iff.mpr ⟨ctx, rfl, hclauses⟩, rfl⟩

/-- The text has four placeholders for three parameters, and one more that is quoted. -/
theorem parameters_aligned_mixedQuery :
    ∃ c, (ofSettings {} none).compile (.select mixedQuery) = .ok c ∧
      c.parameters = [.int 1, .str "x", .int 7] ∧
      fill c.parameters c.sql.toList = mixedPieces.flatMap Piece.written ∧
      ClosedFragment c.sql.toList 3 := by
  have hc : (ofSettings {} none).compile (.select mixedQuery) =
      .ok (Compiled.ofPieces (Dialect.postgres true) mixedPieces) :=
    map_eq_ok_iff.mpr ⟨_, mixedQuery_pieces, rfl⟩
  have hsites : (Statement.select mixedQuery).sites =
      [.fragment "a = $2 or b = '$1' or c = $2 or d = $1" [.int 1, .str "x"], .value (.int 7)] :=
    rfl
  have hr : ∀ site ∈ (Statement.select mixedQuery).sites, site.IsClosed := by
    rw [hsites]
    have hclosed : ClosedFragment "a = $2 or b = '$1' or c = $2 or d = $1".toList 2 := by
      decide +kernel
    intro site hm
    rcases List.mem_pair.mp hm with rfl | rfl
    · exact hclosed
    · trivial
  have hf : Settings.make [] = .ok {} := rfl
  obtain ⟨hp, ⟨ps, hps', _, hfill⟩, hclosed⟩ :=
    parameters_aligned mixedQuery_built hf (by simp) hr hc
  cases mixedQuery_pieces.symm.trans hps'
  exact ⟨_, hc, hp, hfill, hclosed⟩

end Client

end QueryBuilder
