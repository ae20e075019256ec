import QueryBuilder.Proofs.Sql.EmittedNames
import QueryBuilder.Proofs.Sql.Filled
import QueryBuilder.Proofs.Text.Listed

/-!
Reading the text of an INSERT: a list of columns, and behind VALUES one tuple for each row, which
has a default or a parameter for each column.
-/
namespace QueryBuilder

open Text

inductive RowEntry where
  | default
  | parameter (number : Nat)
  deriving DecidableEq

structure WrittenRows where
  columns : List String
  tuples : List (List RowEntry)

/-- The name that a list of columns spells. -/
def spelledName : List Lexeme → String
  | [.quoted '"' content] => String.ofList content
  | item => String.ofList (item.flatMap Lexeme.chars)

namespace RowEntry

def text : RowEntry → String
  | default => "DEFAULT"
  | parameter n => (Dialect.postgres true).placeholder n

def read (item : List Lexeme) : Option RowEntry :=
  match item.flatMap Lexeme.chars with
  | '$' :: ds => if ds ≠ [] ∧ ds.all isDigit then some (.parameter (number ds)) else none
  | cs => if cs = "DEFAULT".toList then some .default else none

end RowEntry

/-- Reads tuples up to the first that no comma follows. -/
def readTuples (cs : List Char) : Option (List (List RowEntry)) :=
  match cs with
  | '(' :: cs =>
    match h : lexemesTo ')' cs with
    | some (ls, ',' :: ' ' :: more) =>
      have : more.length < cs.length := by
        have hlt := length_of_lexemesTo h
        simp only [List.length_cons] at hlt
        omega
      (listed ls).mapM RowEntry.read >>= fun tuple => (readTuples more).map (tuple :: ·)
    | some (ls, _) => ((listed ls).mapM RowEntry.read).map ([·])
    | none => none
  | _ => none
termination_by cs.length

/-- Reads the columns in the first parentheses, and the tuples behind VALUES. -/
def readInsert (cs : List Char) : Option WrittenRows := do
  let (_, cs) ← lexemesTo '(' cs
  let (names, cs) ← lexemesTo ')' cs
  let cs ← cs.dropPrefix? " VALUES ".toList
  some ⟨(listed names).map spelledName, ← readTuples cs⟩

def tupleText (tuple : List RowEntry) : String :=
  "(" ++ ", ".intercalate (tuple.map RowEntry.text) ++ ")"

theorem spelledName_lexemes (quoteReserved : Bool) (name : String) :
    spelledName (Identifier.lexemes quoteReserved name) = name := by
  unfold spelledName
  split
  next content hl =>
    obtain ⟨_, _, rfl⟩ := Identifier.lexemes_eq_quoted_iff.mp hl
    exact String.ofList_toList
  next hl =>
    have hplain : Identifier.lexemes quoteReserved name = plainLexemes name := by
      unfold Identifier.lexemes
      split
      next hq => exact absurd (by rw [Identifier.lexemes, if_pos hq]) (hl name.toList)
      next => rfl
    rw [hplain]
    simp [plainLexemes, flatMap_chars_map_char]

namespace RowEntry

theorem text_parameter (quoteReserved : Bool) (n : Nat) :
    (Dialect.postgres quoteReserved).placeholder n = (parameter n).text :=
  rfl

theorem toList_parameter (n : Nat) : (parameter n).text.toList = '$' :: Nat.toDigits 10 n :=
  Piece.toList_placeholder true n

theorem notMem_text (e : RowEntry) {c : Char} (hp : Identifier.isPart c = false)
    (hd : isDigit c = false) (hc : c ≠ '$') : c ∉ e.text.toList := by
  cases e with
  | default =>
    have hletters : ∀ d ∈ default.text.toList, Identifier.isPart d = true :=
      List.all_eq_true.mp (by decide)
    intro hm
    simp [hletters c hm] at hp
  | parameter n =>
    rw [toList_parameter]
    intro hm
    rcases List.mem_cons.mp hm with rfl | hm
    · exact hc rfl
    · simp [isDigit_of_mem_toDigits c hm] at hd

theorem lexemes_text (e : RowEntry) : lexemes e.text.toList = some (plainLexemes e.text) := by
  refine lexemes_plain fun c hm => ?_
  by_contra hq
  rcases isQuote_iff.mp (by simpa using hq) with rfl | rfl
  · exact e.notMem_text (by decide) (by decide) (by decide) hm
  · exact e.notMem_text (by decide) (by decide) (by decide) hm

theorem read_text (e : RowEntry) : read (plainLexemes e.text) = some e := by
  have hchars : (plainLexemes e.text).flatMap Lexeme.chars = e.text.toList := by
    simp [plainLexemes, flatMap_chars_map_char]
  unfold read
  rw [hchars]
  cases e with
  | default => rfl
  | parameter n =>
    have hdigits : (Nat.toDigits 10 n).all isDigit = true :=
      List.all_eq_true.mpr isDigit_of_mem_toDigits
    rw [toList_parameter]
    simp [Nat.toDigits_ne_nil, hdigits, number_toDigits]

end RowEntry

theorem toList_tupleText (tuple : List RowEntry) (rest : List Char) :
    (tupleText tuple).toList ++ rest =
      '(' :: ((", ".intercalate (tuple.map RowEntry.text)).toList ++ ')' :: rest) := by
  simp [tupleText]

theorem RowEntry.notMem_lexemes (e : RowEntry) {c : Char} (hp : Identifier.isPart c = false)
    (hd : isDigit c = false) (hc : c ≠ '$') : Lexeme.char c ∉ plainLexemes e.text := by
  intro hm
  obtain ⟨d, hd', he⟩ := List.mem_map.mp hm
  cases he
  exact e.notMem_text hp hd hc hd'

theorem lexemesTo_tuple (tuple : List RowEntry) (rest : List Char) :
    lexemesTo ')' ((", ".intercalate (tuple.map RowEntry.text)).toList ++ ')' :: rest) =
      some (comma.intercalate (tuple.map fun e => plainLexemes e.text), rest) := by
  refine lexemesTo_append (by decide) (lexemes_intercalate fun e _ => e.lexemes_text) ?_ rest
  refine notMem_intercalate_comma (by decide) fun item hm => ?_
  obtain ⟨e, _, rfl⟩ := List.mem_map.mp hm
  exact e.notMem_lexemes (by decide) (by decide) (by decide)

theorem mapM_read_tuple {tuple : List RowEntry} (hne : tuple ≠ []) :
    (listed (comma.intercalate (tuple.map fun e => plainLexemes e.text))).mapM RowEntry.read =
      some tuple := by
  have hitems : ∀ item ∈ tuple.map fun e => plainLexemes e.text,
      Lexeme.char ',' ∉ item ∧ item.head? ≠ some (.char ' ') := by
    intro item hm
    obtain ⟨e, _, rfl⟩ := List.mem_map.mp hm
    have hcomma := e.notMem_lexemes (c := ',') (by decide) (by decide) (by decide)
    have hblank := e.notMem_lexemes (c := ' ') (by decide) (by decide) (by decide)
    exact ⟨hcomma, fun hh => hblank (List.mem_of_mem_head? hh)⟩
  rw [listed_intercalate (by simpa using hne) hitems]
  clear hitems hne
  induction tuple with
  | nil => rfl
  | cons e tuple ih =>
    rw [List.map_cons, List.mapM_cons, e.read_text, ih]
    rfl

theorem readTuples_more {tuple : List RowEntry} (hne : tuple ≠ []) (more : List Char) :
    readTuples ((tupleText tuple).toList ++ ',' :: ' ' :: more) =
      (readTuples more).map (tuple :: ·) := by
  have hto := lexemesTo_tuple tuple (',' :: ' ' :: more)
  rw [toList_tupleText, readTuples]
  split
  next ls rest h =>
    cases hto.symm.trans h
    rw [mapM_read_tuple hne]
    rfl
  next ls rest hrest h =>
    cases hto.symm.trans h
    exact absurd rfl (hrest more)
  next h => cases hto.symm.trans h

theorem readTuples_last {tuple : List RowEntry} (hne : tuple ≠ []) {rest : List Char}
    (hr : rest.head? ≠ some ',') :
    readTuples ((tupleText tuple).toList ++ rest) = some [tuple] := by
  have hto := lexemesTo_tuple tuple rest
  rw [toList_tupleText, readTuples]
  split
  next ls more h =>
    cases hto.symm.trans h
    exact absurd rfl hr
  next ls after _ h =>
    cases hto.symm.trans h
    rw [mapM_read_tuple hne]
    rfl
  next h => cases hto.symm.trans h

/-- Tuples with commas between them are read one by one, up to what follows the last. -/
theorem readTuples_intercalate {tuples : List (List RowEntry)} (hne : tuples ≠ [])
    (ht : ∀ tuple ∈ tuples, tuple ≠ []) {rest : List Char} (hr : rest.head? ≠ some ',') :
    readTuples ((", ".intercalate (tuples.map tupleText)).toList ++ rest) = some tuples := by
  induction tuples with
  | nil => exact absurd rfl hne
  | cons tuple tuples ih =>
    cases tuples with
    | nil => simpa using readTuples_last (ht tuple (by simp)) hr
    | cons next tuples =>
      have hmore := ih (by simp) fun u hu => ht u (by simp [hu])
      have hfirst := readTuples_more (ht tuple (by simp))
        ((", ".intercalate ((next :: tuples).map tupleText)).toList ++ rest)
      rw [hmore, Option.map_some] at hfirst
      rw [← hfirst, List.map_cons, List.map_cons, String.intercalate_cons_cons]
      simp

def insertHead (quoteReserved : Bool) (t : TableRef) (columns : List String) : String :=
  "INSERT INTO " ++ t.written quoteReserved ++ " (" ++
    ", ".intercalate (columns.map (Dialect.postgres quoteReserved).identifier) ++ ") VALUES "

variable {quoteReserved : Bool} {t : TableRef} {columns : List String}

theorem lexemesTo_table (ht : t.WellNamed) (rest : List Char) :
    lexemesTo '('
        ("INSERT INTO ".toList ++ (t.written quoteReserved).toList ++ ' ' :: '(' :: rest) =
      some (plainLexemes "INSERT INTO " ++ t.lexemes quoteReserved ++ [.char ' '], rest) := by
  have hblank : lexemes [' '] = some [.char ' '] :=
    lexemes_plain (List.forall_mem_singleton.mpr rfl)
  have htable := @TableRef.lexemes_written_append quoteReserved t ht [' '] (by simp)
  have hall := @lexemes_plain_append "INSERT INTO ".toList (isQuote_of_isPlainText (by decide))
    ((t.written quoteReserved).toList ++ [' '])
  rw [htable, hblank, Option.map_some, Option.map_some] at hall
  have hnone : Lexeme.char '(' ∉
      plainLexemes "INSERT INTO " ++ (t.lexemes quoteReserved ++ [.char ' ']) := by
    have hname := @TableRef.notMem_lexemes quoteReserved t ht '(' (by decide) (by decide)
    have hhead : Lexeme.char '(' ∉ plainLexemes "INSERT INTO " := by decide
    simp [hname, hhead]
  have hread := lexemesTo_append (by decide) hall hnone rest
  simpa [plainLexemes] using hread

theorem lexemesTo_columns (hc : ∀ c ∈ columns, Identifier.isValid c = true) (rest : List Char) :
    lexemesTo ')' ((", ".intercalate
        (columns.map (Dialect.postgres quoteReserved).identifier)).toList ++ ')' :: rest) =
      some (comma.intercalate (columns.map (Identifier.lexemes quoteReserved)), rest) := by
  refine lexemesTo_append (by decide)
    (lexemes_intercalate fun c hm => Identifier.lexemes_identifier (hc c hm)) ?_ rest
  refine notMem_intercalate_comma (by decide) fun item hm => ?_
  obtain ⟨c, hmem, rfl⟩ := List.mem_map.mp hm
  exact Identifier.notMem_lexemes (hc c hmem) (by decide)

theorem spelledNames_columns (hne : columns ≠ [])
    (hc : ∀ c ∈ columns, Identifier.isValid c = true) :
    (listed (comma.intercalate (columns.map (Identifier.lexemes quoteReserved)))).map spelledName =
      columns := by
  have hitems : ∀ item ∈ columns.map (Identifier.lexemes quoteReserved),
      Lexeme.char ',' ∉ item ∧ item.head? ≠ some (.char ' ') := by
    intro item hm
    obtain ⟨c, hmem, rfl⟩ := List.mem_map.mp hm
    have hcomma := @Identifier.notMem_lexemes quoteReserved c (hc c hmem) ',' (by decide)
    have hblank := @Identifier.notMem_lexemes quoteReserved c (hc c hmem) ' ' (by decide)
    exact ⟨hcomma, fun hh => hblank (List.mem_of_mem_head? hh)⟩
  rw [listed_intercalate (by simpa using hne) hitems, List.map_map]
  exact List.map_congr_left (fun c _ => spelledName_lexemes quoteReserved c) |>.trans
    (List.map_id columns)

/-- The columns and the rows of an INSERT are read from its text, whatever clauses follow. -/
theorem readInsert_text (ht : t.WellNamed) (hne : columns ≠ [])
    (hc : ∀ c ∈ columns, Identifier.isValid c = true) {tuples : List (List RowEntry)}
    (hts : tuples ≠ []) (htuple : ∀ tuple ∈ tuples, tuple ≠ []) {rest : List Char}
    (hr : rest.head? ≠ some ',') :
    readInsert ((insertHead quoteReserved t columns ++
        ", ".intercalate (tuples.map tupleText)).toList ++ rest) = some ⟨columns, tuples⟩ := by
  have hsplit : (insertHead quoteReserved t columns ++
      ", ".intercalate (tuples.map tupleText)).toList ++ rest =
      "INSERT INTO ".toList ++ (t.written quoteReserved).toList ++ ' ' :: '(' ::
        ((", ".intercalate (columns.map (Dialect.postgres quoteReserved).identifier)).toList ++
          ')' :: (" VALUES ".toList ++
            ((", ".intercalate (tuples.map tupleText)).toList ++ rest))) := by
    -- the equation of `insertHead` takes seconds to make
    delta insertHead
    simp only [String.toList_append, List.append_assoc]
    rfl
  have hdrop : ∀ cs : List Char, (" VALUES ".toList ++ cs).dropPrefix? " VALUES ".toList =
      some cs := fun cs => List.dropPrefix?_eq_some_iff.mpr ⟨_, rfl, by simp⟩
  rw [hsplit, readInsert, lexemesTo_table ht]
  simp only [Option.bind_eq_bind, Option.bind_some]
  rw [lexemesTo_columns hc]
  simp only [Option.bind_some]
  rw [hdrop, Option.bind_some, readTuples_intercalate hts htuple hr, spelledNames_columns hne hc]
  rfl

end QueryBuilder
