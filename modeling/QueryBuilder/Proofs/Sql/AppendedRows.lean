import QueryBuilder.Proofs.Builder.Rows
import QueryBuilder.Proofs.FirstSeen
import QueryBuilder.Proofs.Sql.Alignment
import QueryBuilder.Proofs.Sql.Rendering

/-!
Rows that are added to an INSERT. They may name columns that no earlier row has. The columns and the
parameters so far stay where they are, and an earlier row gains a default for each column that is
new.
-/
namespace QueryBuilder

/-- What an INSERT consists of: the names in its head, the entries of each row, the clauses behind
the rows, and the parameters. -/
structure InsertParts where
  table : String
  columns : List String
  tuples : List (List String)
  returning : List String
  parameters : List Value

namespace InsertParts

def tuple (entries : List String) : String :=
  "(" ++ ", ".intercalate entries ++ ")"

/-- What stands before the rows. -/
def heading (table : String) (columns : List String) : String :=
  let list := ", ".intercalate columns
  s!"INSERT INTO {table} ({list}) VALUES "

/-- One tuple for each row, and the further clauses behind them. -/
def text (w : InsertParts) : String :=
  let rows := heading w.table w.columns ++ ", ".intercalate (w.tuples.map tuple)
  " ".intercalate (rows :: w.returning)

def compiled (w : InsertParts) : Compiled :=
  ⟨w.text, w.parameters⟩

/-- More columns and more rows: nothing else changes but that each row so far has a default in each
of the new columns. -/
structure ExtendedBy (w w' : InsertParts) (more : List String) (added : List (List String)) :
    Prop where
  table : w'.table = w.table
  columns : w'.columns = w.columns ++ more
  tuples : w'.tuples = w.tuples.map (· ++ List.replicate more.length "DEFAULT") ++ added
  returning : w'.returning = w.returning
  parameters : w.parameters <+: w'.parameters

end InsertParts

namespace Piece

/-- The texts of the entries of rows, the first of which stands behind `offset` bound values. -/
def renderRows (d : Dialect) : Nat → List (List Piece) → List (List String)
  | _, [] => []
  | offset, cells :: rows =>
    renderEach d offset (cells.map fun p => [p]) ::
      renderRows d (offset + (bound cells).length) rows

theorem length_renderRows (d : Dialect) (offset : Nat) (rows : List (List Piece)) :
    (renderRows d offset rows).length = rows.length := by
  induction rows generalizing offset with
  | nil => rfl
  | cons cells rows ih => rw [renderRows, List.length_cons, ih, List.length_cons]

/-- The pieces of one row. -/
def tuple (cells : List Piece) : List Piece :=
  .text "(" :: separated ", " (cells.map fun p => [p]) ++ [.text ")"]

/-- The entries of a row in columns that it does not name. -/
def defaults (n : Nat) : List Piece :=
  List.replicate n (.text "DEFAULT")

variable (d : Dialect)

theorem bound_tuple (cells : List Piece) : bound (tuple cells) = bound cells := by
  have hclose : bound [.text ")"] = [] := rfl
  have hcells : (cells.map fun p => [p]).flatMap bound = bound cells := by
    simp [List.flatMap_map, bound]
  rw [tuple, List.cons_append, bound_text_cons, bound_append, hclose, bound_separated, hcells,
    List.append_nil]

theorem renderAll_tuple (offset : Nat) (cells : List Piece) :
    renderAll d offset (tuple cells) =
      InsertParts.tuple (renderEach d offset (cells.map fun p => [p])) := by
  rw [tuple, List.cons_append, renderAll_text_cons, renderAll_append, renderAll_separated,
    renderAll_text_cons, renderAll, String.append_empty, InsertParts.tuple, String.append_assoc]

theorem renderEach_tuples (offset : Nat) (rows : List (List Piece)) :
    renderEach d offset (rows.map tuple) = (renderRows d offset rows).map InsertParts.tuple := by
  induction rows generalizing offset with
  | nil => rfl
  | cons cells rows ih =>
    rw [List.map_cons, renderEach, ih, renderAll_tuple, bound_tuple, renderRows, List.map_cons]

theorem bound_defaults (n : Nat) : bound (defaults n) = [] := by
  simp [defaults, bound, values]

theorem renderEach_defaults (offset n : Nat) :
    renderEach d offset ((defaults n).map fun p => [p]) = List.replicate n "DEFAULT" := by
  have htexts : ((defaults n).map fun p => [p]) =
      (List.replicate n "DEFAULT").map fun s => [text s] := by simp [defaults]
  rw [htexts, renderEach_texts]

theorem bound_extended (cells : List Piece) (n : Nat) :
    bound (cells ++ defaults n) = bound cells := by
  rw [bound_append, bound_defaults, List.append_nil]

/-- Defaults behind the entries of rows change none of these, and none of the rows that follow. -/
theorem renderRows_extended (offset n : Nat) (rows added : List (List Piece)) :
    renderRows d offset (rows.map (· ++ defaults n) ++ added) =
      (renderRows d offset rows).map (· ++ List.replicate n "DEFAULT") ++
        renderRows d (offset + (rows.flatMap bound).length) added := by
  induction rows generalizing offset with
  | nil => rfl
  | cons cells rows ih =>
    have hcells : renderEach d offset ((cells ++ defaults n).map fun p => [p]) =
        renderEach d offset (cells.map fun p => [p]) ++ List.replicate n "DEFAULT" := by
      rw [List.map_append, renderEach_append, renderEach_defaults]
    rw [List.map_cons, List.cons_append, renderRows, bound_extended, hcells, ih, renderRows,
      List.map_cons, List.cons_append, List.flatMap_cons, List.length_append, Nat.add_assoc]

end Piece

namespace Context

/-- The parts of an INSERT without a conflict clause. -/
def insertParts (ctx : Context) (q : InsertQuery) : Except Error InsertParts := do
  let columns ← forEach (fun c => ctx.columnText c) q.columns
  let rows ← forEach (fun row => forEach (ctx.cell row) q.columns) q.rows
  let returning ← ctx.returningClause q.returning
  .ok ⟨ctx.tableText q.table, columns, Piece.renderRows ctx.dialect 0 rows,
    Piece.renderEach ctx.dialect 0 returning, rows.flatMap Piece.bound⟩

variable {ctx : Context}

theorem forEach_row {columns : List String} {rows : List Row} {tuples : List (List Piece)}
    (h : forEach (ctx.row columns) rows = .ok tuples) :
    ∃ cells, forEach (fun row => forEach (ctx.cell row) columns) rows = .ok cells ∧
      tuples = cells.map Piece.tuple := by
  induction rows generalizing tuples with
  | nil =>
    cases h
    exact ⟨[], rfl, rfl⟩
  | cons row rows ih =>
    obtain ⟨tuple, ht, h⟩ := bind_eq_ok_iff.mp h
    obtain ⟨rest, hr, h⟩ := bind_eq_ok_iff.mp h
    cases h
    obtain ⟨cells, hc, ht⟩ := bind_eq_ok_iff.mp ht
    cases ht
    obtain ⟨cellss, hcs, rfl⟩ := ih hr
    exact ⟨cells :: cellss, by simp [forEach, hc, hcs], rfl⟩

theorem insertClause_cells {q : InsertQuery} {ps : List Piece} (h : ctx.insertClause q = .ok ps) :
    ∃ names cells, forEach (fun c => ctx.columnText c) q.columns = .ok names ∧
      forEach (fun row => forEach (ctx.cell row) q.columns) q.rows = .ok cells ∧
      ps = ctx.insertText q.table names (cells.map Piece.tuple) := by
  unfold insertClause at h
  simp only at h
  split at h
  next => cases h
  next =>
    obtain ⟨names, hn, h⟩ := bind_eq_ok_iff.mp h
    obtain ⟨tuples, ht, h⟩ := bind_eq_ok_iff.mp h
    cases h
    obtain ⟨cells, hc, rfl⟩ := forEach_row ht
    exact ⟨names, cells, hn, hc, rfl⟩

theorem insertParts_eq {q : InsertQuery} {names : List String} {cells : List (List Piece)}
    {returning : List (List Piece)} (hn : forEach (fun c => ctx.columnText c) q.columns = .ok names)
    (hc : forEach (fun row => forEach (ctx.cell row) q.columns) q.rows = .ok cells)
    (hr : ctx.returningClause q.returning = .ok returning) :
    ctx.insertParts q = .ok ⟨ctx.tableText q.table, names, Piece.renderRows ctx.dialect 0 cells,
      Piece.renderEach ctx.dialect 0 returning, cells.flatMap Piece.bound⟩ := by
  simp only [insertParts, hn, hc, hr]
  rfl

theorem renderAll_tuples (t : TableRef) (names : List String) (cells : List (List Piece)) :
    Piece.renderAll ctx.dialect 0 (ctx.insertText t names (cells.map Piece.tuple)) =
      InsertParts.heading (ctx.tableText t) names ++
        ", ".intercalate ((Piece.renderRows ctx.dialect 0 cells).map InsertParts.tuple) := by
  rw [insertText, Piece.renderAll_text_cons, Piece.renderAll_separated, Piece.renderEach_tuples]
  rfl

theorem bound_tuples (t : TableRef) (names : List String) (cells : List (List Piece)) :
    Piece.bound (ctx.insertText t names (cells.map Piece.tuple)) = cells.flatMap Piece.bound := by
  rw [insertText, Piece.bound_text_cons, Piece.bound_separated, List.flatMap_map]
  exact List.flatMap_congr fun row _ => Piece.bound_tuple row

/-- What is returned binds nothing. -/
theorem returningClause_texts {items : List SelectItem} {clauses : List (List Piece)}
    (h : ctx.returningClause items = .ok clauses) :
    ∃ texts : List String, clauses = texts.map fun s => [.text s] := by
  unfold returningClause at h
  split at h
  next =>
    cases h
    exact ⟨[], rfl⟩
  next =>
    obtain ⟨text, _, h⟩ := bind_eq_ok_iff.mp h
    cases h
    exact ⟨["RETURNING " ++ text], rfl⟩

/-- A row has the default in columns that it does not name. -/
theorem cells_default (ctx : Context) {row : Row} {columns : List String}
    (h : ∀ c ∈ columns, row.lookup c = none) :
    forEach (ctx.cell row) columns = .ok (Piece.defaults columns.length) := by
  induction columns with
  | nil => rfl
  | cons c columns ih =>
    have hcell : ctx.cell row c = .ok (.text "DEFAULT") := by rw [cell, h c (by simp)]
    rw [forEach, hcell, ih fun d hd => h d (by simp [hd])]
    rfl

/-- Further columns that none of the rows names leave the entries of the rows as they are. -/
theorem cells_extended {columns fresh : List String} {rows : List Row} {cells : List (List Piece)}
    (hfresh : ∀ row ∈ rows, ∀ c ∈ fresh, row.lookup c = none)
    (h : forEach (fun row => forEach (ctx.cell row) columns) rows = .ok cells) :
    forEach (fun row => forEach (ctx.cell row) (columns ++ fresh)) rows =
      .ok (cells.map (· ++ Piece.defaults fresh.length)) := by
  induction rows generalizing cells with
  | nil =>
    cases h
    rfl
  | cons row rows ih =>
    obtain ⟨first, hf, h⟩ := bind_eq_ok_iff.mp h
    obtain ⟨rest, hr, h⟩ := bind_eq_ok_iff.mp h
    cases h
    have hdefaults := cells_default ctx (hfresh row (by simp))
    have hfirst : forEach (ctx.cell row) columns = .ok first := hf
    have hrow : forEach (ctx.cell row) (columns ++ fresh) =
        .ok (first ++ Piece.defaults fresh.length) := by
      rw [forEach_append, hfirst, hdefaults]
      rfl
    rw [forEach, hrow, ih (fun r hr => hfresh r (by simp [hr])) hr]
    rfl

end Context

/-- Further rows add columns behind those that are there, and the rows so far name none of these. -/
theorem InsertQuery.columns_append (q : InsertQuery) (rows : List Row) :
    ∃ fresh, InsertQuery.columns { q with rows := q.rows ++ rows } = q.columns ++ fresh ∧
      ∀ row ∈ q.rows, ∀ c ∈ fresh, row.lookup c = none := by
  refine ⟨_, by rw [columns, List.flatMap_append, List.eraseDups_append]; rfl, ?_⟩
  intro row hrow c hc
  have hnew : c ∉ q.rows.flatMap fun row => row.map Prod.fst := by
    have hmem := List.mem_eraseDups.mp hc
    simpa [List.removeAll] using (List.mem_filter.mp hmem).2
  refine List.lookup_eq_none_iff.mpr fun e he => ?_
  have hne : c ≠ e.1 := by
    rintro rfl
    exact hnew (List.mem_flatMap.mpr ⟨row, hrow, List.mem_map_of_mem he⟩)
  simpa using hne

namespace Context

variable {ctx : Context} {q : InsertQuery}

/-- Whatever rows are added, the parts of an INSERT only grow. -/
theorem insertParts_extended {rows : List Row} {w w' : InsertParts}
    (h : ctx.insertParts q = .ok w)
    (h' : ctx.insertParts { q with rows := q.rows ++ rows } = .ok w') :
    ∃ fresh more added, InsertQuery.columns { q with rows := q.rows ++ rows } = q.columns ++ fresh ∧
      forEach (fun c => ctx.columnText c) fresh = .ok more ∧ w.ExtendedBy w' more added ∧
        added.length = rows.length := by
  obtain ⟨columns, hcolumns, h⟩ := bind_eq_ok_iff.mp h
  obtain ⟨cells, hcells, h⟩ := bind_eq_ok_iff.mp h
  obtain ⟨returning, hreturning, h⟩ := bind_eq_ok_iff.mp h
  cases h
  obtain ⟨columns', hcolumns', h'⟩ := bind_eq_ok_iff.mp h'
  obtain ⟨cells', hcells', h'⟩ := bind_eq_ok_iff.mp h'
  obtain ⟨returning', hreturning', h'⟩ := bind_eq_ok_iff.mp h'
  cases h'
  cases hreturning.symm.trans hreturning'
  obtain ⟨fresh, hfresh, hnew⟩ := q.columns_append rows
  rw [hfresh] at hcolumns' hcells'
  rw [forEach_append, hcolumns] at hcolumns'
  obtain ⟨more, hmore, rfl⟩ := map_eq_ok_iff.mp hcolumns'
  rw [forEach_append, cells_extended hnew hcells] at hcells'
  obtain ⟨added, hadded, rfl⟩ := map_eq_ok_iff.mp hcells'
  rw [← length_forEach hmore]
  refine ⟨fresh, more, _, hfresh, hmore, ⟨rfl, rfl, Piece.renderRows_extended .., rfl, ?_⟩, ?_⟩
  · rw [List.flatMap_append, List.flatMap_map]
    simp only [Piece.bound_extended]
    exact List.prefix_append _ _
  · rw [Piece.length_renderRows, length_forEach hadded]

end Context

namespace Client

variable {client : Client} {q : InsertQuery} {c : Compiled}

/-- The text of an INSERT without a conflict clause is that of its parts. -/
theorem compile_insertParts (hq : q.conflict = none) (h : client.compile (.insert q) = .ok c) :
    ∃ ctx w, client.context [q.table] = .ok ctx ∧ ctx.insertParts q = .ok w ∧ c = w.compiled := by
  obtain ⟨ps, hps, rfl⟩ := map_eq_ok_iff.mp h
  obtain ⟨clauses, hclauses, rfl⟩ := map_eq_ok_iff.mp hps
  obtain ⟨ctx, hctx, hclauses⟩ := bind_eq_ok_iff.mp hclauses
  obtain ⟨hdialect, _⟩ := context_eq_ok hctx
  obtain ⟨insert, hinsert, hclauses⟩ := bind_eq_ok_iff.mp hclauses
  obtain ⟨conflict, hconflict, hclauses⟩ := bind_eq_ok_iff.mp hclauses
  obtain ⟨returning, hreturning, hclauses⟩ := bind_eq_ok_iff.mp hclauses
  cases hclauses
  rw [hq] at hconflict
  cases hconflict
  obtain ⟨names, cells, hnames, hcells, rfl⟩ := Context.insertClause_cells hinsert
  obtain ⟨texts, rfl⟩ := Context.returningClause_texts hreturning
  refine ⟨ctx, _, hctx, Context.insertParts_eq hnames hcells hreturning, ?_⟩
  have hrendered : ∀ offset, Piece.renderEach ctx.dialect offset
      (texts.map fun s => [Piece.text s]) = texts :=
    fun offset => Piece.renderEach_texts ctx.dialect offset texts
  have hbound : (texts.map fun s => [Piece.text s]).flatMap Piece.bound = [] := by
    rw [List.flatMap_map, List.flatMap_eq_nil_iff]
    exact fun _ _ => rfl
  rw [InsertParts.compiled, InsertParts.text, Compiled.ofPieces, ← hdialect,
    Piece.renderAll_separated, Piece.bound_separated]
  simp only [List.cons_append, List.nil_append, Piece.renderEach, List.flatMap_cons, hrendered,
    hbound, List.append_nil, Context.renderAll_tuples, Context.bound_tuples]

end Client

theorem readRows_append (xs ys : List Value) : readRows (xs ++ ys) =
    (readRows xs >>= fun rows => (readRows ys).map (rows ++ ·)) := by
  fun_induction readRows xs with
  | case1 =>
    rw [List.nil_append]
    cases readRows ys <;> rfl
  | case2 e es vs ih =>
    rw [List.cons_append, readRows, ih]
    cases readRow (e :: es) with
    | error fault => rfl
    | ok row =>
      cases readRows vs with
      | error fault => rfl
      | ok rows => cases readRows ys <;> rfl
  | case3 v vs hv =>
    rw [List.cons_append, readRows]
    · rfl
    · exact hv

namespace InsertBuilder

/-- The rows of two calls are those of one call with both lists, and so are the errors. -/
theorem apply_values_append {seq : List Value → Value} (hs : seq = .list ∨ seq = .tuple)
    (b : InsertBuilder) {xs ys : List Value} (hx : xs ≠ []) (hy : ys ≠ []) :
    (b.apply (.values (seq xs)) >>= fun next => next.apply (.values (seq ys))) =
      b.apply (.values (seq (xs ++ ys))) := by
  have hrows : ∀ {vs : List Value}, vs ≠ [] → rowsOf (seq vs) = readRows vs := by
    intro vs hvs
    obtain ⟨v, vs, rfl⟩ := List.exists_cons_of_ne_nil hvs
    rcases hs with rfl | rfl <;> rfl
  simp only [apply, hrows hx, hrows hy, hrows (List.append_ne_nil_of_left_ne_nil hx ys),
    readRows_append]
  cases readRows xs with
  | error e => rfl
  | ok rows =>
    cases readRows ys with
    | error e => rfl
    | ok more => simp [bind, Except.bind, Except.map]

/-- Rows that are added to an INSERT without a conflict clause leave what is there in its place, and
whether they are added in one call or in two makes no difference. -/
theorem values_extend (client : Client) (b : InsertBuilder) :
    (∀ rows next c c', b.query.conflict = none → b.apply (.values rows) = .ok next →
      client.compile (.insert b.query) = .ok c → client.compile (.insert next.query) = .ok c' →
        ∃ ctx w w' fresh more added, client.context [b.query.table] = .ok ctx ∧
          ctx.insertParts b.query = .ok w ∧ ctx.insertParts next.query = .ok w' ∧
          c = w.compiled ∧ c' = w'.compiled ∧
          next.query.columns = b.query.columns ++ fresh ∧
          forEach (fun name => ctx.columnText name) fresh = .ok more ∧
          w.ExtendedBy w' more added) ∧
    ∀ seq : List Value → Value, seq = .list ∨ seq = .tuple → ∀ xs ys, xs ≠ [] → ys ≠ [] →
      (b.apply (.values (seq xs)) >>= fun next => next.apply (.values (seq ys))) =
        b.apply (.values (seq (xs ++ ys))) := by
  refine ⟨?_, fun seq hs xs ys hx hy => apply_values_append hs b hx hy⟩
  intro rows next c c' hconflict hnext hc hc'
  obtain ⟨new, _, hnext⟩ := bind_eq_ok_iff.mp hnext
  cases hnext
  obtain ⟨ctx, w, hctx, hw, rfl⟩ := Client.compile_insertParts hconflict hc
  have hconflict' : InsertQuery.conflict { b.query with rows := b.query.rows ++ new } = none :=
    hconflict
  obtain ⟨ctx', w', hctx', hw', rfl⟩ := Client.compile_insertParts hconflict' hc'
  cases hctx.symm.trans hctx'
  obtain ⟨fresh, more, added, hcolumns, hmore, hextended, _⟩ :=
    Context.insertParts_extended hw hw'
  exact ⟨ctx, w, w', fresh, more, added, hctx, hw, hw', rfl, rfl, hcolumns, hmore, hextended⟩

def datedBuilder : InsertBuilder :=
  ⟨{ table := ⟨"users", none⟩
     rows := [[("name", .str "Ann"), ("seen", .condition (.raw "now() - $1" [.int 3]))]]
     returning := [⟨"*", none⟩] }⟩

/-- A row that lacks a column and names a new one. -/
def datedRow : Value :=
  .dict [(.str "age", .int 5), (.str "name", .condition (.raw "lower($1)" [.str "BOB"]))]

theorem values_extend_datedBuilder :
    ∃ next c c', datedBuilder.apply (.values datedRow) = .ok next ∧
      (Client.ofSettings {} none).compile (.insert datedBuilder.query) = .ok c ∧
      (Client.ofSettings {} none).compile (.insert next.query) = .ok c' ∧
      c.sql = "INSERT INTO users (name, seen) VALUES ($1, now() - $2) RETURNING *" ∧
      c'.sql = "INSERT INTO users (name, seen, age) VALUES ($1, now() - $2, DEFAULT), " ++
        "(lower($3), DEFAULT, $4) RETURNING *" ∧
      (∃ (w w' : InsertParts) (more : List String) (added : List (List String)),
        c = w.compiled ∧ c' = w'.compiled ∧ w.ExtendedBy w' more added ∧ more.length = 1) ∧
      (datedBuilder.apply (.values (.list [datedRow])) >>= fun next =>
        next.apply (.values (.list [datedRow, datedRow]))) =
          datedBuilder.apply (.values (.list [datedRow, datedRow, datedRow])) := by
  have hnext : ∃ next, datedBuilder.apply (.values datedRow) = .ok next ∧
      next.query = { datedBuilder.query with
        rows := datedBuilder.query.rows ++ [[("age", .int 5),
          ("name", .condition (.raw "lower($1)" [.str "BOB"]))]] } := ⟨_, rfl, rfl⟩
  obtain ⟨next, hnext, hquery⟩ := hnext
  have hsql : ((Client.ofSettings {} none).compile (.insert datedBuilder.query)).toOption.map
      Compiled.sql =
        some "INSERT INTO users (name, seen) VALUES ($1, now() - $2) RETURNING *" := by
    decide +kernel
  have hsql' : ((Client.ofSettings {} none).compile (.insert next.query)).toOption.map
      Compiled.sql =
        some ("INSERT INTO users (name, seen, age) VALUES ($1, now() - $2, DEFAULT), " ++
          "(lower($3), DEFAULT, $4) RETURNING *") := by
    rw [hquery]
    decide +kernel
  obtain ⟨c, hc, hsql⟩ := exists_ok_of_toOption hsql
  obtain ⟨c', hc', hsql'⟩ := exists_ok_of_toOption hsql'
  obtain ⟨hextend, hsplit⟩ := values_extend (Client.ofSettings {} none) datedBuilder
  obtain ⟨ctx, w, w', fresh, more, added, hctx, _, _, hw, hw', hcolumns, hmore, hextended⟩ :=
    hextend datedRow next c c' rfl hnext hc hc'
  have hfresh : fresh = ["age"] := by
    rw [hquery] at hcolumns
    have hnames : ["name", "seen"] ++ ["age"] = ["name", "seen"] ++ fresh := hcolumns
    exact (List.append_cancel_left hnames).symm
  have hone : more.length = 1 := by
    rw [length_forEach hmore, hfresh]
    rfl
  exact ⟨next, c, c', hnext, hc, hc', hsql, hsql', ⟨w, w', more, added, hw, hw', hextended, hone⟩,
    hsplit .list (Or.inl rfl) [datedRow] [datedRow, datedRow] (by simp) (by simp)⟩

end InsertBuilder

end QueryBuilder
