import QueryBuilder.Proofs.Builder.Rows
import QueryBuilder.Proofs.Sql.Alignment
import QueryBuilder.Proofs.Sql.LeafAlike
import QueryBuilder.Proofs.Sql.Rendering
import QueryBuilder.Proofs.Sql.RowEntries

/-!
The rows of an INSERT can be read back from its text and its parameters.
-/
namespace QueryBuilder

namespace Row

def cell (row : Row) (column : String) : Piece :=
  match row.lookup column with
  | some v => .bind v
  | none => .text "DEFAULT"

def pieces (columns : List String) (row : Row) : List Piece :=
  .text "(" :: Piece.separated ", " (columns.map fun c => [row.cell c]) ++ [.text ")"]

theorem bound_cells (columns : List String) (row : Row) :
    (columns.map fun c => [row.cell c]).flatMap Piece.bound = row.valuesOf columns := by
  induction columns with
  | nil => rfl
  | cons c cs ih =>
    rw [List.map_cons, List.flatMap_cons, ih, cell]
    cases h : row.lookup c with
    | none => exact (valuesOf_none h cs).symm
    | some v => exact (valuesOf_some h cs).symm

theorem bound_pieces (columns : List String) (row : Row) :
    Piece.bound (pieces columns row) = row.valuesOf columns := by
  have hclose : Piece.bound [.text ")"] = [] := rfl
  rw [pieces, List.cons_append, Piece.bound_text_cons, Piece.bound_append, hclose,
    Piece.bound_separated, bound_cells, List.append_nil]

theorem renderEach_cells (quoteReserved : Bool) (offset : Nat) (columns : List String) (row : Row) :
    Piece.renderEach (Dialect.postgres quoteReserved) offset (columns.map fun c => [row.cell c]) =
      (entries offset row columns).map RowEntry.text := by
  induction columns generalizing offset with
  | nil => rfl
  | cons c cs ih =>
    rw [List.map_cons, Piece.renderEach, ih, cell]
    cases h : row.lookup c with
    | none =>
      rw [entries_none h]
      rfl
    | some v =>
      have hplaceholder : Piece.renderAll (Dialect.postgres quoteReserved) offset [.bind v] =
          (RowEntry.parameter (offset + 1)).text := by
        rw [Piece.renderAll, Piece.renderAll, String.append_empty]
        exact RowEntry.text_parameter quoteReserved (offset + 1)
      rw [entries_some h, List.map_cons, ← hplaceholder]
      rfl

theorem renderAll_pieces (quoteReserved : Bool) (offset : Nat) (columns : List String) (row : Row) :
    Piece.renderAll (Dialect.postgres quoteReserved) offset (pieces columns row) =
      tupleText (entries offset row columns) := by
  rw [pieces, List.cons_append, Piece.renderAll_text_cons, Piece.renderAll_append,
    Piece.renderAll_separated, renderEach_cells, Piece.renderAll_text_cons, Piece.renderAll,
    String.append_empty, tupleText, String.append_assoc]

end Row

theorem renderEach_rows (quoteReserved : Bool) (offset : Nat) (columns : List String)
    (rows : List Row) :
    Piece.renderEach (Dialect.postgres quoteReserved) offset (rows.map (Row.pieces columns)) =
      (rowTuples offset columns rows).map tupleText := by
  induction rows generalizing offset with
  | nil => rfl
  | cons row rows ih =>
    rw [List.map_cons, Piece.renderEach, ih, Row.renderAll_pieces, Row.bound_pieces, rowTuples,
      List.map_cons]

theorem bound_rows (columns : List String) (rows : List Row) :
    (rows.map (Row.pieces columns)).flatMap Piece.bound = rows.flatMap (Row.valuesOf columns) := by
  rw [List.flatMap_map]
  exact List.flatMap_congr fun row _ => Row.bound_pieces columns row

namespace Context

variable {ctx : Context} {quoteReserved : Bool}

theorem cell_eq {row : Row} (hb : ∀ e ∈ row, e.2.isBound = true) (column : String) :
    ctx.cell row column = .ok (row.cell column) := by
  unfold cell Row.cell
  cases hv : row.lookup column with
  | none => rfl
  | some v =>
    obtain ⟨before, after, rfl, _⟩ := List.lookup_eq_some_iff.mp hv
    exact operand_of_isBound (hb (column, v) (by simp))

theorem row_eq {columns : List String} {row : Row} (hb : ∀ e ∈ row, e.2.isBound = true)
    {ps : List Piece} (h : ctx.row columns row = .ok ps) : ps = row.pieces columns := by
  obtain ⟨cells, hcells, h⟩ := bind_eq_ok_iff.mp h
  cases h
  have hcell : ∀ c ∈ columns, ∀ p, ctx.cell row c = .ok p → p = row.cell c := by
    intro c _ p hp
    rw [cell_eq hb] at hp
    exact (Except.ok.inj hp).symm
  rw [forEach_eq_map hcell hcells, List.map_map]
  rfl

theorem renderAll_insertText (hd : ctx.dialect = Dialect.postgres quoteReserved) (t : TableRef)
    (columns : List String) (rows : List Row) :
    Piece.renderAll (Dialect.postgres quoteReserved) 0 (ctx.insertText t
        (columns.map (Dialect.postgres quoteReserved).identifier)
        (rows.map (Row.pieces columns))) =
      insertHead quoteReserved t columns ++
        ", ".intercalate ((rowTuples 0 columns rows).map tupleText) := by
  have htable := tableText_eq_written hd t
  have hrows := renderEach_rows quoteReserved 0 columns rows
  rw [insertText, Piece.renderAll_text_cons, Piece.renderAll_separated, hrows, htable]
  rfl

theorem bound_insertText (t : TableRef) (names columns : List String) (rows : List Row) :
    Piece.bound (ctx.insertText t names (rows.map (Row.pieces columns))) =
      rows.flatMap (Row.valuesOf columns) := by
  rw [insertText, Piece.bound_text_cons, Piece.bound_separated, bound_rows]

theorem insertClause_eq (hd : ctx.dialect = Dialect.postgres quoteReserved) {q : InsertQuery}
    (hrows : ∀ row ∈ q.rows, NamedRow row)
    (hb : ∀ row ∈ q.rows, ∀ e ∈ row, e.2.isBound = true) {ps : List Piece}
    (h : ctx.insertClause q = .ok ps) :
    q.rows ≠ [] ∧ q.columns ≠ [] ∧
      ps = ctx.insertText q.table (q.columns.map (Dialect.postgres quoteReserved).identifier)
        (q.rows.map (Row.pieces q.columns)) := by
  unfold insertClause at h
  simp only at h
  split at h
  next => cases h
  next hne =>
    obtain ⟨names, hn, h⟩ := bind_eq_ok_iff.mp h
    obtain ⟨rows, hr, h⟩ := bind_eq_ok_iff.mp h
    cases h
    have hnonempty : q.rows ≠ [] ∧ q.columns ≠ [] := by simpa using hne
    have hvalid := q.columns_valid fun row hr => (hrows row hr).valid
    have hnames : names = q.columns.map (Dialect.postgres quoteReserved).identifier :=
      forEach_eq_map (fun c hc _ h => columnText_bare hd (hvalid c hc) h) hn
    have htuples : rows = q.rows.map (Row.pieces q.columns) :=
      forEach_eq_map (fun row hm _ h => row_eq (hb row hm) h) hr
    exact ⟨hnonempty.1, hnonempty.2, by rw [hnames, htuples]⟩

end Context

/-- What follows the first part begins with the separator. -/
theorem separated_cons (w : String) (ps : List Piece) (pss : List (List Piece)) :
    ∃ tail, Piece.separated w (ps :: pss) = ps ++ tail ∧
      (tail = [] ∨ ∃ more, tail = .text w :: more) := by
  cases pss with
  | nil => exact ⟨[], (List.append_nil ps).symm, Or.inl rfl⟩
  | cons qs pss => exact ⟨_, rfl, Or.inr ⟨_, rfl⟩⟩

namespace Client

variable {settings : Settings} {schema : Option Schema} {c : Compiled}

/-- The text of an INSERT begins with the clause of its rows, and no comma follows that clause. -/
theorem compile_insert {q : InsertQuery}
    (h : (ofSettings settings schema).compile (.insert q) = .ok c) :
    ∃ (ctx : Context) (insert tail : List Piece),
      ctx.dialect = Dialect.postgres settings.quoteReserved ∧
      ctx.insertClause q = .ok insert ∧ c = Compiled.ofPieces ctx.dialect (insert ++ tail) ∧
      ∀ offset, (Piece.renderAll ctx.dialect offset tail).toList.head? ≠ some ',' := by
  obtain ⟨ps, hps, rfl⟩ := map_eq_ok_iff.mp h
  obtain ⟨clauses, hclauses, rfl⟩ := map_eq_ok_iff.mp hps
  obtain ⟨ctx, hctx, hclauses⟩ := bind_eq_ok_iff.mp hclauses
  obtain ⟨insert, hinsert, hclauses⟩ := bind_eq_ok_iff.mp hclauses
  obtain ⟨conflict, _, hclauses⟩ := bind_eq_ok_iff.mp hclauses
  obtain ⟨returning, _, hclauses⟩ := bind_eq_ok_iff.mp hclauses
  cases hclauses
  have hdialect : ctx.dialect = Dialect.postgres settings.quoteReserved := (context_eq_ok hctx).1
  obtain ⟨tail, htail, hstart⟩ := separated_cons " " insert (conflict ++ returning)
  refine ⟨ctx, insert, tail, hdialect, hinsert, ?_, fun offset => ?_⟩
  · rw [hdialect, List.cons_append, htail]
    rfl
  -- clauses about conflicts and returned rows begin behind a blank
  · rcases hstart with rfl | ⟨more, rfl⟩
    · simp [Piece.renderAll]
    · simp [Piece.renderAll_text_cons]

end Client

theorem InsertQuery.compile_spells {q : InsertQuery} {settings : Settings}
    {schema : Option Schema} {c : Compiled} (ht : q.table.WellNamed)
    (hrows : ∀ row ∈ q.rows, NamedRow row)
    (hb : ∀ row ∈ q.rows, ∀ e ∈ row, e.2.isBound = true)
    (h : (Client.ofSettings settings schema).compile (.insert q) = .ok c) :
    ∃ w, readInsert c.sql.toList = some w ∧ w.Spells c.parameters q.rows := by
  obtain ⟨ctx, insert, tail, hd, hinsert, rfl, htail⟩ := Client.compile_insert h
  obtain ⟨hne, hcolumns, rfl⟩ := Context.insertClause_eq hd hrows hb hinsert
  have hvalid := q.columns_valid fun row hr => (hrows row hr).valid
  have hspells := q.entries_spell (fun row hr => (hrows row hr).nodup) (Piece.bound tail)
  refine ⟨⟨q.columns, rowTuples 0 q.columns q.rows⟩, ?_, ?_⟩
  · rw [Compiled.ofPieces, Piece.renderAll_append, String.toList_append, hd,
      Context.renderAll_insertText hd]
    rw [hd] at htail
    exact readInsert_text ht hcolumns hvalid (rowTuples_ne_nil hne 0)
      (ne_nil_of_mem_rowTuples hcolumns) (htail _)
  · rw [Compiled.ofPieces, Piece.bound_append, Context.bound_insertText]
    exact hspells

namespace InsertBuilder

/-- Whatever calls are made, the rows are those that the calls pass, and text and parameters say
them all. -/
theorem run_reads_back {table : Value} {b : InsertBuilder}
    (hstart : start table = .ok b) (calls : List InsertCall) {settings : Settings}
    {schema : Option Schema} {c : Compiled}
    (hb : ∀ row ∈ b.passed calls, ∀ e ∈ row, e.2.isBound = true)
    (h : (Client.ofSettings settings schema).compile (.insert (b.run calls).query) = .ok c) :
    (b.run calls).query.rows = b.passed calls ∧
      ∃ w, readInsert c.sql.toList = some w ∧ w.Spells c.parameters (b.passed calls) := by
  obtain ⟨hrows, hnamed, htable⟩ := run_named hstart calls
  rw [← hrows] at hnamed
  have hspells := InsertQuery.compile_spells htable hnamed (by rwa [hrows]) h
  rw [hrows] at hspells
  exact ⟨hrows, hspells⟩

def unevenCalls : List InsertCall :=
  [.values (.dict [(.str "name", .str "Ann"), (.str "order", .int 1)]), .values .null,
    .returningAll,
    .values (.list [.dict [(.str "age", .null), (.str "order", .int 2)],
      .dict [(.str "name", .str "Bob")]])]

def unevenRows : List Row :=
  [[("name", .str "Ann"), ("order", .int 1)], [("age", .null), ("order", .int 2)],
    [("name", .str "Bob")]]

theorem run_reads_back_uneven : ∃ b c w, start (.str "users") = .ok b ∧
    (Client.ofSettings {} none).compile (.insert (b.run unevenCalls).query) = .ok c ∧
    c.sql = "INSERT INTO users (name, \"order\", age) VALUES ($1, $2, DEFAULT), " ++
      "(DEFAULT, $3, $4), ($5, DEFAULT, DEFAULT) RETURNING *" ∧
    readInsert c.sql.toList = some w ∧ w.Spells c.parameters unevenRows := by
  have hstart : start (.str "users") = .ok ⟨{ table := ⟨"users", none⟩ }⟩ := by
    rw [start, TableRef.parse_bare (by decide) (by decide) (by decide)]
    rfl
  have hrows : passed ⟨{ table := ⟨"users", none⟩ }⟩ unevenCalls = unevenRows := rfl
  have hbound : ∀ row ∈ passed ⟨{ table := ⟨"users", none⟩ }⟩ unevenCalls, ∀ e ∈ row,
      e.2.isBound = true := by
    rw [hrows]
    decide
  have hquery : (run ⟨{ table := ⟨"users", none⟩ }⟩ unevenCalls).query =
      { table := ⟨"users", none⟩, rows := unevenRows, returning := [⟨"*", none⟩] } := rfl
  have hcompile : ∃ c, (Client.ofSettings {} none).compile
      (.insert (run ⟨{ table := ⟨"users", none⟩ }⟩ unevenCalls).query) = .ok c ∧
      c.sql = "INSERT INTO users (name, \"order\", age) VALUES ($1, $2, DEFAULT), " ++
        "(DEFAULT, $3, $4), ($5, DEFAULT, DEFAULT) RETURNING *" := by
    rw [hquery]
    exact ⟨_, rfl, by decide +kernel⟩
  obtain ⟨c, hc, hsql⟩ := hcompile
  obtain ⟨_, w, hw, hspells⟩ := run_reads_back hstart unevenCalls hbound hc
  exact ⟨_, c, w, hstart, hc, hsql, hw, hspells⟩

end InsertBuilder

end QueryBuilder
