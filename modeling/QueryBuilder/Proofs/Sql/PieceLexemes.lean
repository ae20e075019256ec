import QueryBuilder.Proofs.Sql.Rekeyed

/-!
The lexemes of pieces. Sealed pieces are read one by one, so what other keys change in a statement
are the literals of these keys.
-/
namespace QueryBuilder

open Text

variable {quoteReserved : Bool} {ks : List (String × String)}

/-- The texts of two paths of one length differ in their literals. -/
theorem pathLexemes_sameBut (asText : Bool) {path keys : List String}
    (h : path.length = keys.length) :
    SameBut (fun k => [keyLexeme k]) (path.zip keys) (pathLexemes asText path)
      (pathLexemes asText keys) := by
  have step : ∀ (arrow k l : String) {ks : List (String × String)} {xs ys : List Lexeme},
      SameBut (fun k => [keyLexeme k]) ks xs ys →
      SameBut (fun k => [keyLexeme k]) ((k, l) :: ks) (stepLexemes arrow k ++ xs)
        (stepLexemes arrow l ++ ys) := by
    intro arrow k l ks xs ys h
    rw [stepLexemes, stepLexemes, List.append_assoc, List.append_assoc]
    exact .items _ (.gap k l h)
  -- Both paths are split twice, since the arrow of a key depends on whether another one follows.
  induction path generalizing keys with
  | nil =>
    rw [List.length_nil, eq_comm, List.length_eq_zero_iff] at h
    rw [h]
    exact .nil
  | cons key path ih =>
    cases keys with
    | nil => cases h
    | cons key' keys =>
      simp only [List.length_cons, Nat.add_right_cancel_iff] at h
      cases path with
      | nil =>
        cases keys with
        | nil => simpa [pathLexemes] using step _ key key' .nil
        | cons => cases h
      | cons next path =>
        cases keys with
        | nil => cases h
        | cons next' keys => exact step _ key key' (ih h)

namespace Piece

/-- The lexemes of pieces, the first of which stands behind `offset` bound values. -/
def lexemesAll (d : Dialect) : Nat → List Piece → List Lexeme
  | _, [] => []
  | offset, p :: ps =>
    (lexemes (p.render d offset).toList).getD [] ++ lexemesAll d (offset + p.values.length) ps

theorem lexemesAll_append (d : Dialect) (offset : Nat) (ps qs : List Piece) :
    lexemesAll d offset (ps ++ qs) =
      lexemesAll d offset ps ++ lexemesAll d (offset + (bound ps).length) qs := by
  induction ps generalizing offset with
  | nil => simp [lexemesAll, bound]
  | cons p ps ih => simp [lexemesAll, ih, bound, Nat.add_assoc]

/-- Sealed pieces are read one by one. -/
theorem lexemes_renderAll {ps : List Piece} (h : Sealed ps) (offset : Nat) :
    lexemes (renderAll (Dialect.postgres quoteReserved) offset ps).toList =
      some (lexemesAll (Dialect.postgres quoteReserved) offset ps) := by
  induction ps generalizing offset with
  | nil => simp [renderAll, lexemes_nil, lexemesAll]
  | cons p ps ih =>
    have hp : p.IsClosed := h.closed p (by simp)
    have hclosed : Closed (p.render (Dialect.postgres quoteReserved) offset).toList :=
      closed_render hp offset
    obtain ⟨ls, hl⟩ := hclosed.lexemes
    rw [renderAll, String.toList_append, lexemes_append hl (ih h.tail _) (h.seam offset),
      lexemesAll, hl, Option.getD_some]

namespace Rekeyed

variable {p q : Piece}

theorem values (h : Rekeyed quoteReserved ks p q) : p.values.length = q.values.length := by
  cases h <;> rfl

/-- The lexemes of a piece change in the literals of its keys. -/
theorem lexemes_sameBut (h : Rekeyed quoteReserved ks p q) (offset : Nat) :
    SameBut (fun k => [keyLexeme k]) ks
      ((lexemes (p.render (Dialect.postgres quoteReserved) offset).toList).getD [])
      ((lexemes (q.render (Dialect.postgres quoteReserved) offset).toList).getD []) := by
  cases h with
  | path hc hl hs hp =>
    obtain ⟨col, hcol⟩ := hc.closed.lexemes
    have hq := isQuote_of_isPlainText hp
    rw [render, render, lexemes_field hcol hs hq, lexemes_field hcol hs hq, List.append_assoc,
      List.append_assoc]
    exact .items col ((pathLexemes_sameBut _ hl).append_same _)
  | bind v w => exact .refl _
  | same => exact .refl _

/-- The text of a piece changes in the literals of its keys. -/
theorem toList_sameBut (h : Rekeyed quoteReserved ks p q) (offset : Nat) :
    SameBut (fun k => ((Dialect.postgres quoteReserved).literal k).toList) ks
      (p.render (Dialect.postgres quoteReserved) offset).toList
      (q.render (Dialect.postgres quoteReserved) offset).toList := by
  cases h with
  | @path _ _ asText _ _ _ hl =>
    have hchars := (pathLexemes_sameBut asText hl).flatMap Lexeme.chars
    simp only [List.flatMap_singleton, chars_keyLexeme quoteReserved] at hchars
    rw [render, render, String.toList_append, String.toList_append, toList_jsonbPathText,
      toList_jsonbPathText, List.append_assoc, List.append_assoc]
    exact .items _ (hchars.append_same _)
  | bind v w => exact .refl _
  | same => exact .refl _

theorem softStart (h : Rekeyed quoteReserved ks p q) : p.softStart = q.softStart := by
  cases h with
  | @path column sign asText path keys hc hl hs hp =>
    have hhead : ∀ keys : List String, (jsonbPathText column asText
        (keys.map (Dialect.postgres quoteReserved).literal) ++ sign).toList.head? =
          column.toList.head?.or (some ' ') := by
      intro keys
      rw [String.toList_append, toList_jsonbPathText, List.append_assoc, List.head?_append,
        head?_path_append hs]
    rw [Piece.softStart, Piece.softStart, QueryBuilder.softStart, QueryBuilder.softStart, hhead,
      hhead]
  | bind v w => rfl
  | same => rfl

theorem softEnd (h : Rekeyed quoteReserved ks p q) : p.softEnd = q.softEnd := by
  cases h with
  | @path _ sign _ _ _ hc hl hs hp =>
    have hne : sign.toList ≠ [] := by
      intro he
      simp [he] at hs
    rw [Piece.softEnd, Piece.softEnd, QueryBuilder.softEnd, QueryBuilder.softEnd,
      String.toList_append, String.toList_append, List.getLast?_append_of_ne_nil _ hne,
      List.getLast?_append_of_ne_nil _ hne]
  | bind v w => rfl
  | same => rfl

theorem isClosed (h : Rekeyed quoteReserved ks p q) (hp : p.IsClosed) : q.IsClosed := by
  cases h with
  | @path column sign asText _ keys hc hl hs hplain =>
    have hpath : Inert (jsonbPathText column asText
        (keys.map (Dialect.postgres quoteReserved).literal)) := by
      refine jsonbPathText_inert hc fun key hk => ?_
      obtain ⟨k, _, rfl⟩ := List.mem_map.mp hk
      exact literal_inert quoteReserved k
    refine hpath.tail hplain ?_
    rw [QueryBuilder.softStart, hs]
    decide
  | bind v w => trivial
  | same => exact hp

end Rekeyed

variable {ps qs : List Piece}

theorem sealed_rekeyed (h : Paired (Rekeyed quoteReserved) ks ps qs) (hs : Sealed ps) :
    Sealed qs := by
  induction h with
  | nil => exact hs
  | @cons _ _ p q ps qs hpq hrest ih =>
    have htail := ih hs.tail
    refine ⟨?_, ?_⟩
    · rintro r (_ | ⟨_, hr⟩)
      · exact hpq.isClosed (hs.closed p (by simp))
      · exact htail.closed r hr
    -- Keys stand at neither end of a piece, so its seams are as clean as they were.
    · cases hrest with
      | nil => exact .singleton _
      | cons hnext _ =>
        rw [List.isChain_cons_cons, ← hpq.softEnd, ← hnext.softStart]
        exact ⟨(List.isChain_cons_cons.mp hs.seams).1, htail.seams⟩

theorem lexemesAll_rekeyed (h : Paired (Rekeyed quoteReserved) ks ps qs) (offset : Nat) :
    SameBut (fun k => [keyLexeme k]) ks (lexemesAll (Dialect.postgres quoteReserved) offset ps)
      (lexemesAll (Dialect.postgres quoteReserved) offset qs) := by
  induction h generalizing offset with
  | nil => exact .nil
  | cons h _ ih =>
    rw [lexemesAll, lexemesAll, ← h.values]
    exact (h.lexemes_sameBut offset).append (ih _)

theorem renderAll_rekeyed (h : Paired (Rekeyed quoteReserved) ks ps qs) (offset : Nat) :
    SameBut (fun k => ((Dialect.postgres quoteReserved).literal k).toList) ks
      (renderAll (Dialect.postgres quoteReserved) offset ps).toList
      (renderAll (Dialect.postgres quoteReserved) offset qs).toList := by
  induction h generalizing offset with
  | nil => exact .refl _
  | cons h _ ih =>
    rw [renderAll, renderAll, ← h.values, String.toList_append, String.toList_append]
    exact (h.toList_sameBut offset).append (ih _)

end Piece

end QueryBuilder
