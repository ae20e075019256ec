import QueryBuilder.Proofs.Sql.Names
import QueryBuilder.Proofs.Text.Words
import QueryBuilder.Sql.Clause

/-!
Names as they stand in SQL text: a reserved word as a quoted part, if it is to be quoted, and every
other name as it is.
-/
namespace QueryBuilder

open Text

namespace Identifier

def isQuoted (quoteReserved : Bool) (name : String) : Bool :=
  quoteReserved && isReserved name

def lexemes (quoteReserved : Bool) (name : String) : List Lexeme :=
  if isQuoted quoteReserved name then [.quoted '"' name.toList] else plainLexemes name

variable {quoteReserved : Bool} {name : String}

theorem identifier_eq (h : isValid name = true) :
    (Dialect.postgres quoteReserved).identifier name =
      if isQuoted quoteReserved name then Dialect.enclose '"' name else name := by
  simp [Dialect.postgres, ne_star h, isQuoted]

theorem isQuote_of_isValid (h : isValid name = true) : ∀ c ∈ name.toList, isQuote c = false :=
  fun _ hc => isQuote_of_isPart (isPart_of_isValid h hc)

theorem toList_identifier (h : isValid name = true) :
    ((Dialect.postgres quoteReserved).identifier name).toList =
      (lexemes quoteReserved name).flatMap Lexeme.chars := by
  rw [identifier_eq h, lexemes]
  split
  next =>
    have hchars : [Lexeme.quoted '"' name.toList].flatMap Lexeme.chars =
        (Lexeme.quoted '"' name.toList).chars := by simp
    rw [Dialect.enclose, String.toList_ofList, hchars]
    rfl
  next => simp [plainLexemes, flatMap_chars_map_char]

/-- A name is read as its lexemes, whatever follows it that is no double quote. -/
theorem lexemes_identifier_append (h : isValid name = true) {rest : List Char}
    (hr : rest.head? ≠ some '"') :
    Text.lexemes (((Dialect.postgres quoteReserved).identifier name).toList ++ rest) =
      (Text.lexemes rest).map (lexemes quoteReserved name ++ ·) := by
  rw [toList_identifier h, lexemes]
  split
  next =>
    have hquoted := @lexemes_quoted_append '"' name.toList rest (by decide) hr
    simpa using hquoted
  next =>
    have hplain := lexemes_plain_append (isQuote_of_isValid h) rest
    simpa [plainLexemes, flatMap_chars_map_char] using hplain

theorem lexemes_identifier (h : isValid name = true) :
    Text.lexemes ((Dialect.postgres quoteReserved).identifier name).toList =
      some (lexemes quoteReserved name) := by
  have happend := @lexemes_identifier_append quoteReserved name h [] (by simp)
  simpa [lexemes_nil] using happend

theorem lexemes_eq_quoted_iff {mark : Char} {content : List Char} :
    lexemes quoteReserved name = [.quoted mark content] ↔
      isQuoted quoteReserved name = true ∧ mark = '"' ∧ content = name.toList := by
  unfold lexemes
  split
  next hq => simp [hq, eq_comm]
  next hq =>
    have hne : plainLexemes name ≠ [.quoted mark content] := by
      intro he
      have hm : Lexeme.quoted mark content ∈ plainLexemes name := by rw [he]; simp
      obtain ⟨c, _, hc⟩ := List.mem_map.mp hm
      cases hc
    simp [hq, hne]

theorem notMem_lexemes (h : isValid name = true) {c : Char} (hc : isPart c = false) :
    Lexeme.char c ∉ lexemes quoteReserved name := by
  unfold lexemes
  split
  next => simp
  next =>
    intro hm
    obtain ⟨d, hd, he⟩ := List.mem_map.mp hm
    cases he
    simp [isPart_of_isValid h hd] at hc

end Identifier

namespace TableRef

variable {quoteReserved : Bool} {t : TableRef}

def emitted (quoteReserved : Bool) (t : TableRef) : String :=
  (Dialect.postgres quoteReserved).identifier t.qualifier

/-- A table as FROM and JOIN name it, with the qualifier last. -/
def written (quoteReserved : Bool) (t : TableRef) : String :=
  match givenName t.aliasName with
  | some _ =>
    (Dialect.postgres quoteReserved).identifier t.name ++ " AS " ++ t.emitted quoteReserved
  | none => t.emitted quoteReserved

def lexemes (quoteReserved : Bool) (t : TableRef) : List Lexeme :=
  match givenName t.aliasName with
  | some _ =>
    Identifier.lexemes quoteReserved t.name ++ plainLexemes " AS " ++
      Identifier.lexemes quoteReserved t.qualifier
  | none => Identifier.lexemes quoteReserved t.qualifier

theorem lexemes_written_append (h : t.WellNamed) {rest : List Char} (hr : rest.head? ≠ some '"') :
    Text.lexemes ((t.written quoteReserved).toList ++ rest) =
      (Text.lexemes rest).map (t.lexemes quoteReserved ++ ·) := by
  have hqualifier := @Identifier.lexemes_identifier_append quoteReserved _ h.qualifier rest hr
  unfold written lexemes emitted
  split
  next a _ =>
    have has := @lexemes_plain_append " AS ".toList (isQuote_of_isPlainText (by decide))
      (((Dialect.postgres quoteReserved).identifier t.qualifier).toList ++ rest)
    rw [String.toList_append, String.toList_append, List.append_assoc, List.append_assoc,
      Identifier.lexemes_identifier_append h.name (by simp), has, hqualifier, Option.map_map,
      Option.map_map]
    simp [Function.comp_def, plainLexemes]
  next => exact hqualifier

theorem notMem_lexemes (h : t.WellNamed) {c : Char} (hc : Identifier.isPart c = false)
    (hb : c ≠ ' ') : Lexeme.char c ∉ t.lexemes quoteReserved := by
  have hname := @Identifier.notMem_lexemes quoteReserved _ h.name c hc
  have hqualifier := @Identifier.notMem_lexemes quoteReserved _ h.qualifier c hc
  have has : Lexeme.char c ∉ plainLexemes " AS " := by
    intro hm
    obtain ⟨d, hd, he⟩ := List.mem_map.mp hm
    cases he
    have hd : c = ' ' ∨ c = 'A' ∨ c = 'S' ∨ c = ' ' := by simpa using hd
    rcases hd with rfl | rfl | rfl | rfl
    · exact hb rfl
    · exact absurd hc (by decide)
    · exact absurd hc (by decide)
    · exact hb rfl
  unfold lexemes
  split
  next => simp [hname, has, hqualifier]
  next => exact hqualifier

end TableRef

namespace Context

variable {ctx : Context} {quoteReserved : Bool}

theorem tableText_eq_written (hd : ctx.dialect = Dialect.postgres quoteReserved) (t : TableRef) :
    ctx.tableText t = t.written quoteReserved := by
  rw [tableText, withAlias, TableRef.written, TableRef.emitted, TableRef.qualifier, hd]
  cases givenName t.aliasName with
  | none => rfl
  | some a => rfl

theorem columnText_bare (hd : ctx.dialect = Dialect.postgres quoteReserved) {name text : String}
    (hn : Identifier.isValid name = true) (h : ctx.columnText name = .ok text) :
    text = (Dialect.postgres quoteReserved).identifier name := by
  obtain ⟨column, hr, h⟩ := bind_eq_ok_iff.mp h
  cases h
  have hparts : parts name = [name] := parts_of_notMem (Identifier.dot_notMem hn)
  rw [resolvedText, Scope.resolveName_text (by simp) hr, Option.elim_none, referenceText, hparts,
    hd]
  simp

end Context

end QueryBuilder
