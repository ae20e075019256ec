import QueryBuilder.Proofs.Condition.Factory
import QueryBuilder.Proofs.Sql.LeafWrites
import QueryBuilder.Proofs.Text.Lexeme

/-!
The keys of a path in the text. Each is one literal behind its arrow and is read as itself, whatever
characters it has.
-/
namespace QueryBuilder

open Text

namespace JsonbOperator

/-- The keys of a path that are written as literals: all of them, or all but the last where that one
is a parameter. The operators on the keys of a whole document write none. -/
def inlined (op : JsonbOperator) (path : List String) : List String :=
  match op with
  | hasKey | hasAnyKey | hasAllKeys => []
  | fieldExists => path.dropLast
  | _ => path

/-- Holds of the operators for which the field at the end of a path is a text. -/
def takesText : JsonbOperator → Bool
  | fieldEquals | fieldNotEquals | fieldIsNull => true
  | _ => false

/-- The sign behind a column and its path, with a blank if something is bound behind it. -/
def sign : JsonbOperator → String
  | fieldIsNull => " IS NULL"
  | op => " " ++ op.sql ++ " "

/-- What is bound behind the sign. -/
def operandPieces (op : JsonbOperator) (path : List String) (operand : Value) :
    Except Error (List Piece) :=
  match op with
  | contains | containedBy | fieldContains => jsonbDocument op operand
  | hasKey | hasAnyKey | hasAllKeys => do .ok [← jsonbKeysPiece operand]
  | fieldExists =>
    match path.getLast? with
    | some key => .ok [.bind (.str key)]
    | none => .error (.noSuchKey "path")
  | fieldIsNull => .ok []
  | fieldEquals | fieldNotEquals => do .ok [.bind (.str (← jsonbText operand))]

/-- The sign and the placeholder of what is bound behind it. -/
def behind (op : JsonbOperator) (placeholder : String) : String :=
  match op with
  | contains | containedBy | fieldContains => op.sign ++ placeholder ++ "::jsonb"
  | fieldIsNull => op.sign
  | _ => op.sign ++ placeholder

end JsonbOperator

/-- A key as the one literal that it is. -/
def keyLexeme (key : String) : Lexeme :=
  .quoted '\'' key.toList

def stepLexemes (arrow key : String) : List Lexeme :=
  arrow.toList.map .char ++ [keyLexeme key]

/-- The steps of a path, an arrow and a literal for each key. Only the last may yield a text. -/
def pathLexemes (asText : Bool) : List String → List Lexeme
  | [] => []
  | [key] => stepLexemes (if asText then " ->> " else " -> ") key
  | key :: keys => stepLexemes " -> " key ++ pathLexemes asText keys

/-- The lexemes of a condition on a document behind those of its column. -/
def JsonbOperator.lexemes (op : JsonbOperator) (path : List String) (placeholder : String) :
    List Lexeme :=
  pathLexemes op.takesText (op.inlined path) ++ (op.behind placeholder).toList.map .char

theorem pathLexemes_cons (asText : Bool) (key next : String) (keys : List String) :
    pathLexemes asText (key :: next :: keys) =
      stepLexemes " -> " key ++ pathLexemes asText (next :: keys) :=
  rfl

theorem chars_keyLexeme (quoteReserved : Bool) (key : String) :
    (keyLexeme key).chars = ((Dialect.postgres quoteReserved).literal key).toList := by
  simp only [Dialect.postgres, Dialect.enclose, String.toList_ofList]
  rfl

theorem flatMap_chars_stepLexemes (quoteReserved : Bool) (arrow key : String) :
    (stepLexemes arrow key).flatMap Lexeme.chars =
      (arrow ++ (Dialect.postgres quoteReserved).literal key).toList := by
  simp [stepLexemes, flatMap_chars_map_char, chars_keyLexeme quoteReserved]

theorem jsonbPathText_single (column key : String) (asText : Bool) :
    jsonbPathText column asText [key] =
      column ++ ((if asText then " ->> " else " -> ") ++ key) := by
  cases asText <;> simp [jsonbPathText, toString, String.append_assoc]

theorem jsonbPathText_cons (column key next : String) (asText : Bool) (keys : List String) :
    jsonbPathText column asText (key :: next :: keys) =
      jsonbPathText (column ++ (" -> " ++ key)) asText (next :: keys) := by
  rw [← String.append_assoc]
  rfl

/-- A path is written as its lexemes. -/
theorem toList_jsonbPathText {quoteReserved asText : Bool} (keys : List String) (column : String) :
    (jsonbPathText column asText (keys.map (Dialect.postgres quoteReserved).literal)).toList =
      column.toList ++ (pathLexemes asText keys).flatMap Lexeme.chars := by
  induction keys generalizing column with
  | nil => simp [jsonbPathText, pathLexemes]
  | cons key keys ih =>
    cases keys with
    | nil =>
      rw [pathLexemes, flatMap_chars_stepLexemes quoteReserved, ← String.toList_append]
      exact congrArg String.toList (jsonbPathText_single column _ asText)
    | cons next keys =>
      rw [List.map_cons, List.map_cons, jsonbPathText_cons, ← List.map_cons, ih, pathLexemes_cons,
        List.flatMap_append, flatMap_chars_stepLexemes quoteReserved, String.toList_append,
        List.append_assoc]

/-- Behind a path stands a blank, if anything. -/
theorem head?_path_append {asText : Bool} {keys : List String} {rest : List Char}
    (hr : rest.head? = some ' ') :
    ((pathLexemes asText keys).flatMap Lexeme.chars ++ rest).head? = some ' ' := by
  cases keys with
  | nil => exact hr
  | cons key keys =>
    cases keys with
    | nil => cases asText <;> rfl
    | cons next keys => rfl

theorem lexemes_step_append {arrow key : String} {rest : List Char}
    (ha : isPlainText arrow = true) (hr : rest.head? = some ' ') :
    lexemes ((stepLexemes arrow key).flatMap Lexeme.chars ++ rest) =
      (lexemes rest).map (stepLexemes arrow key ++ ·) := by
  have hr' : rest.head? ≠ some '\'' := by simp [hr]
  have hchars : (stepLexemes arrow key).flatMap Lexeme.chars ++ rest =
      arrow.toList ++ ((keyLexeme key).chars ++ rest) := by
    simp [stepLexemes, flatMap_chars_map_char]
  rw [hchars, lexemes_plain_append (isQuote_of_isPlainText ha), keyLexeme,
    lexemes_quoted_append (by decide) hr', Option.map_map]
  simp [stepLexemes, keyLexeme, Function.comp_def]

/-- A path is read back as its lexemes. -/
theorem lexemes_path_append (asText : Bool) (keys : List String) {rest : List Char}
    (hr : rest.head? = some ' ') :
    lexemes ((pathLexemes asText keys).flatMap Lexeme.chars ++ rest) =
      (lexemes rest).map (pathLexemes asText keys ++ ·) := by
  -- A literal ends at its mark because a blank follows: that of the next arrow, or of the rest.
  induction keys with
  | nil => simp [pathLexemes]
  | cons key keys ih =>
    cases keys with
    | nil =>
      refine lexemes_step_append ?_ hr
      cases asText <;> decide
    | cons next keys =>
      rw [pathLexemes_cons, List.flatMap_append, List.append_assoc,
        lexemes_step_append (by decide) (head?_path_append hr), ih, Option.map_map]
      simp [Function.comp_def]

/-- A column, a path below it and a rest without quotes are read one after the other. -/
theorem lexemes_field {quoteReserved asText : Bool} {keys : List String} {column rest : String}
    {col : List Lexeme} (hc : lexemes column.toList = some col) (hr : rest.toList.head? = some ' ')
    (hq : ∀ c ∈ rest.toList, isQuote c = false) :
    lexemes (jsonbPathText column asText (keys.map (Dialect.postgres quoteReserved).literal) ++
        rest).toList =
      some (col ++ pathLexemes asText keys ++ rest.toList.map .char) := by
  have hpath := lexemes_path_append asText keys hr
  rw [lexemes_plain hq, Option.map_some] at hpath
  have hseam : Seam column.toList
      ((pathLexemes asText keys).flatMap Lexeme.chars ++ rest.toList) := by
    refine seam_of_softStart ?_
    rw [softStart, head?_path_append hr]
    decide
  rw [String.toList_append, toList_jsonbPathText, List.append_assoc,
    lexemes_append hc hpath hseam, List.append_assoc]

namespace JsonbOperator

theorem head?_sign (op : JsonbOperator) : op.sign.toList.head? = some ' ' := by
  cases op <;> simp [sign]

theorem isPlainText_sign (op : JsonbOperator) : isPlainText op.sign = true := by
  cases op <;> decide

theorem head?_behind (op : JsonbOperator) (placeholder : String) :
    (op.behind placeholder).toList.head? = some ' ' := by
  cases op <;> simp [behind, sign]

theorem isQuote_behind {op : JsonbOperator} {placeholder : String}
    (hp : ∀ c ∈ placeholder.toList, isQuote c = false) :
    ∀ c ∈ (op.behind placeholder).toList, isQuote c = false := by
  have hcast : isPlainText "::jsonb" = true := by decide
  intro c hc
  have hmem : c ∈ op.sign.toList ∨ c ∈ placeholder.toList ∨ c ∈ "::jsonb".toList := by
    cases op <;> simp only [behind, String.toList_append, List.mem_append] at hc <;> tauto
  rcases hmem with hc | hc | hc
  · exact isQuote_of_isPlainText op.isPlainText_sign c hc
  · exact hp c hc
  · exact isQuote_of_isPlainText hcast c hc

variable {op : JsonbOperator} {path : List String} {operand : Value} {ps : List Piece}

theorem bind_of_jsonbKeysPiece {p : Piece} (h : jsonbKeysPiece operand = .ok p) :
    ∃ v, p = .bind v := by
  unfold jsonbKeysPiece at h
  split at h
  next =>
    cases h
    exact ⟨_, rfl⟩
  next =>
    obtain ⟨vs, _, h⟩ := bind_eq_ok_iff.mp h
    cases h
    exact ⟨_, rfl⟩

theorem renderAll_operandPieces (d : Dialect) (h : op.operandPieces path operand = .ok ps)
    (offset : Nat) :
    op.sign ++ Piece.renderAll d offset ps = op.behind (d.placeholder (offset + 1)) := by
  have hbind : ∀ v, Piece.renderAll d offset [.bind v] = d.placeholder (offset + 1) := fun v => by
    simp [Piece.renderAll, Piece.render]
  cases op with
  | contains | containedBy | fieldContains =>
    simp only [operandPieces, jsonbDocument] at h
    split at h
    next =>
      cases h
      simp [Piece.renderAll, Piece.render, behind, String.append_assoc]
    next => cases h
  | hasKey | hasAnyKey | hasAllKeys =>
    obtain ⟨p, hp, h⟩ := bind_eq_ok_iff.mp h
    cases h
    obtain ⟨v, rfl⟩ := bind_of_jsonbKeysPiece hp
    rw [hbind]
    rfl
  | fieldExists =>
    simp only [operandPieces] at h
    split at h
    next =>
      cases h
      rw [hbind]
      rfl
    next => cases h
  | fieldIsNull =>
    cases h
    rfl
  | fieldEquals | fieldNotEquals =>
    obtain ⟨text, _, h⟩ := bind_eq_ok_iff.mp h
    cases h
    rw [hbind]
    rfl

end JsonbOperator

theorem literals_step (arrow key : String) : literals (stepLexemes arrow key) = [key] := by
  rw [stepLexemes, literals_append, literals_chars]
  simp [literals, keyLexeme]

/-- A path has one literal for each of its keys. -/
theorem literals_path (asText : Bool) (keys : List String) :
    literals (pathLexemes asText keys) = keys := by
  induction keys with
  | nil => rfl
  | cons key keys ih =>
    cases keys with
    | nil => exact literals_step _ key
    | cons next keys =>
      rw [pathLexemes_cons, literals_append, literals_step, ih, List.singleton_append]

theorem notMem_intercalate {c : Char} {w : String} {xs : List String} (hw : c ∉ w.toList)
    (hx : ∀ x ∈ xs, c ∉ x.toList) : c ∉ (w.intercalate xs).toList := by
  induction xs with
  | nil => simp
  | cons x xs ih =>
    cases xs with
    | nil => simpa using hx x (by simp)
    | cons y ys =>
      have hrest := ih fun z hz => hx z (by simp [hz])
      rw [String.intercalate_cons_cons, String.toList_append, String.toList_append]
      simpa only [List.mem_append, not_or] using ⟨⟨hx x (by simp), hw⟩, hrest⟩

/-- A name is written with the characters of identifiers, stars and quotes. -/
theorem notMem_identifier (quoteReserved : Bool) {name : String} {c : Char}
    (hc : Identifier.isPart c = false ∧ c ≠ '*' ∧ c ≠ '"')
    (h : name = "*" ∨ Identifier.isValid name = true) :
    c ∉ ((Dialect.postgres quoteReserved).identifier name).toList := by
  obtain ⟨hpart, hstar, hmark⟩ := hc
  have hname : c ∉ name.toList := by
    rcases h with rfl | h
    · simpa using hstar
    · intro hm
      simp [Identifier.isPart_of_isValid h hm] at hpart
  simp only [Dialect.postgres]
  split
  next =>
    intro hm
    simp only [Dialect.enclose, String.toList_ofList, List.cons_append, List.mem_cons,
      List.mem_append, List.mem_flatMap, List.not_mem_nil, hmark, false_or, or_false] at hm
    obtain ⟨d, hd, hm⟩ := hm
    have he : c = d := by split at hm <;> simpa using hm
    exact hname (he ▸ hd)
  next => exact hname

theorem Context.notMem_referenceText {ctx : Context} (hd : ∃ q, ctx.dialect = Dialect.postgres q)
    {name : String} (h : IsWritable name) : '\'' ∉ (ctx.referenceText name).toList := by
  obtain ⟨q, hd⟩ := hd
  refine notMem_intercalate (by decide) fun x hx => ?_
  obtain ⟨p, hm, rfl⟩ := List.mem_map.mp hx
  rw [hd]
  exact notMem_identifier q (by decide) (h p hm)

theorem isQuote_placeholder (quoteReserved : Bool) (n : Nat) :
    ∀ c ∈ ((Dialect.postgres quoteReserved).placeholder n).toList, isQuote c = false := by
  intro c hc
  rw [Piece.toList_placeholder] at hc
  rcases List.mem_cons.mp hc with rfl | hc
  · decide
  · exact isQuote_of_isDigit (isDigit_of_mem_toDigits c hc)

namespace Context

variable {ctx : Context} {column : ResolvedColumn} {op : JsonbOperator} {path : List String}
  {operand : Value} {ps : List Piece}

/-- A condition on a document is a column, a path below it and a sign, and then what is bound. -/
theorem jsonb_eq (ctx : Context) (column : ResolvedColumn) (op : JsonbOperator)
    (path : List String) (operand : Value) :
    ctx.jsonb column op path operand = (op.operandPieces path operand).map fun ps =>
      .text (ctx.jsonbPath (ctx.resolvedText column) op.takesText (op.inlined path) ++ op.sign) ::
        ps := by
  have htext : ∀ target sign : String, s!"{target} {sign} " = target ++ (" " ++ sign ++ " ") := by
    simp [toString, String.append_assoc]
  cases op with
  | contains | containedBy | fieldContains =>
    simp only [jsonb, JsonbOperator.operandPieces, htext]
    cases jsonbDocument _ operand <;> rfl
  | hasKey | hasAnyKey | hasAllKeys =>
    simp only [jsonb, JsonbOperator.operandPieces, htext]
    cases jsonbKeysPiece operand <;> rfl
  | fieldExists =>
    simp only [jsonb, JsonbOperator.operandPieces, htext]
    cases path.getLast? <;> rfl
  | fieldIsNull =>
    have hnull : ∀ target : String, s!"{target} {JsonbOperator.fieldIsNull.sql}" =
        target ++ " IS NULL" := fun target => String.append_assoc ..
    simp only [jsonb, JsonbOperator.operandPieces, hnull]
    rfl
  | fieldEquals | fieldNotEquals =>
    simp only [jsonb, JsonbOperator.operandPieces, htext]
    cases jsonbText operand <;> rfl

/-- Only the operator that asks for a key binds one of the path: the last, which it does not
write. -/
theorem bound_fieldExists (h : ctx.jsonb column .fieldExists path operand = .ok ps) :
    ∃ key, path = JsonbOperator.fieldExists.inlined path ++ [key] ∧
      Piece.bound ps = [.str key] := by
  simp only [jsonb] at h
  split at h
  next key hkey =>
    cases h
    exact ⟨key, (List.dropLast_append_getLast? key hkey).symm, rfl⟩
  next => cases h

/-- A condition on a document is read as its column, and behind that its path, its sign and a
placeholder. -/
theorem lexemes_jsonb {quoteReserved : Bool} (hd : ctx.dialect = Dialect.postgres quoteReserved)
    {col : List Lexeme} (hc : lexemes (ctx.resolvedText column).toList = some col)
    (h : ctx.jsonb column op path operand = .ok ps) (offset : Nat) :
    lexemes (Piece.renderAll ctx.dialect offset ps).toList =
      some (col ++ op.lexemes path (ctx.dialect.placeholder (offset + 1))) := by
  rw [jsonb_eq] at h
  obtain ⟨rest, hr, rfl⟩ := map_eq_ok_iff.mp h
  have htext := JsonbOperator.renderAll_operandPieces ctx.dialect hr offset
  have hrender : Piece.renderAll ctx.dialect offset
      (.text (ctx.jsonbPath (ctx.resolvedText column) op.takesText (op.inlined path) ++ op.sign) ::
        rest) =
      ctx.jsonbPath (ctx.resolvedText column) op.takesText (op.inlined path) ++
        op.behind (ctx.dialect.placeholder (offset + 1)) := by
    rw [← htext, ← String.append_assoc]
    rfl
  have hq := isQuote_placeholder quoteReserved (offset + 1)
  rw [hrender, jsonbPath, hd, JsonbOperator.lexemes, ← List.append_assoc]
  exact lexemes_field hc (op.head?_behind _) (JsonbOperator.isQuote_behind hq)

/-- A column has lexemes, and none of them is a literal. -/
theorem lexemes_columnText {quoteReserved : Bool}
    (hd : ctx.dialect = Dialect.postgres quoteReserved) {name : String}
    (h : ctx.scope.resolveName name = .ok column) :
    Inert (ctx.resolvedText column) ∧
      ∃ col, lexemes (ctx.resolvedText column).toList = some col ∧ literals col = [] := by
  have hw : IsWritable column.reference.text :=
    Scope.resolveName_isWritable (Scope.resolveName_isItemName h) (by simp) h
  have hi : Inert (ctx.resolvedText column) := referenceText_inert ⟨_, hd⟩ hw
  obtain ⟨col, hc⟩ := hi.closed.lexemes
  exact ⟨hi, col, hc, literals_eq_nil hc (notMem_referenceText ⟨_, hd⟩ hw)⟩

/-- The lexemes of a condition on a document: its column, of which no lexeme is a literal, and
behind it the steps of the path, the sign and the placeholder. -/
def JsonbLexemes (ctx : Context) (name : String) (op : JsonbOperator) (path : List String)
    (placeholder : String) (ls : List Lexeme) : Prop :=
  ∃ text col, ctx.columnText name = .ok text ∧ lexemes text.toList = some col ∧
    literals col = [] ∧ ls = col ++ op.lexemes path placeholder

/-- Whatever the keys of a condition on a document are, its text is read as its column and its
path. -/
theorem lexemes_leaf {quoteReserved : Bool} (hd : ctx.dialect = Dialect.postgres quoteReserved)
    {name : String} (h : ctx.leaf (.jsonb name op path operand) = .ok ps) (offset : Nat) :
    ∃ ls, lexemes (Piece.renderAll ctx.dialect offset ps).toList = some ls ∧
      ctx.JsonbLexemes name op path (ctx.dialect.placeholder (offset + 1)) ls := by
  obtain ⟨column, hr, h⟩ := bind_eq_ok_iff.mp h
  obtain ⟨_, col, hc, hnone⟩ := lexemes_columnText hd hr
  exact ⟨_, lexemes_jsonb hd hc h offset, ctx.resolvedText column, col,
    bind_eq_ok_iff.mpr ⟨column, hr, rfl⟩, hc, hnone, rfl⟩

/-- Its literals are the keys that are written, one for each. -/
theorem JsonbLexemes.literals_eq {name placeholder : String} {ls : List Lexeme}
    (h : ctx.JsonbLexemes name op path placeholder ls) : literals ls = op.inlined path := by
  obtain ⟨_, _, _, _, hnone, rfl⟩ := h
  rw [JsonbOperator.lexemes, literals_append, literals_append, hnone, literals_path, literals_chars,
    List.append_nil, List.nil_append]

end Context

end QueryBuilder
