import QueryBuilder.Proofs.Sql.ClauseBodies

/-!
A SELECT cut into its clauses. No clause begins inside of another, so the text has only one cut, and
the clauses tell by their first words which they are.
-/
namespace QueryBuilder

open Text

/-- A clause as its first word and its body. -/
def clauseText (clause : String × String) : String :=
  clause.1 ++ " " ++ clause.2

/-- A word with which a clause begins, and a text in which none does. -/
def IsClause (clause : String × String) : Prop :=
  clause.1 ∈ clauseWords ∧ IsBody clause.2

/-- The words of a clause with a blank behind it. -/
def ClauseWords (clause : String × String) (ws : List (List Lexeme)) : Prop :=
  ∃ vs, wordsOf clause.2 = some vs ∧ (∀ k ∈ clauseWords, plainLexemes k ∉ vs) ∧
    ws = plainLexemes clause.1 :: ([.char ' '] :: vs ++ [[.char ' ']])

theorem clauseWords_unique {c d : String × String} {ws : List (List Lexeme)}
    (hc : ClauseWords c ws) (hd : ClauseWords d ws) : c = d := by
  obtain ⟨vs, hvs, _, rfl⟩ := hc
  obtain ⟨us, hus, _, h⟩ := hd
  simp only [List.cons_append, List.cons.injEq, true_and, List.append_cancel_right_eq] at h
  obtain ⟨hword, rfl⟩ := h
  exact Prod.ext (plainLexemes_injective hword) (wordsOf_injective hvs hus)

theorem wordsOf_blank : wordsOf " " = some [[.char ' ']] :=
  wordsOf_plain (by simp [isQuote])

theorem isPart_of_mem_clauseWords :
    ∀ k ∈ clauseWords, k ≠ "" ∧ ∀ c ∈ k.toList, Identifier.isPart c = true := by
  have h : ∀ k ∈ clauseWords, k ≠ "" ∧ k.toList.all Identifier.isPart = true := by decide
  simpa only [List.all_eq_true] using h

theorem IsClause.words {c : String × String} (h : IsClause c) :
    ∃ ws, wordsOf (clauseText c ++ " ") = some ws ∧ ClauseWords c ws := by
  obtain ⟨vs, hvs, hkeywords⟩ := h.2.words
  obtain ⟨hne, hpart⟩ := isPart_of_mem_clauseWords c.1 h.1
  have hfront := wordsOf_append (wordsOf_word hne hpart) wordsOf_blank (Or.inr (by decide))
  have hclause := wordsOf_append hfront hvs (Or.inl (endsWithBreak_append (by decide)))
  exact ⟨_, wordsOf_append hclause wordsOf_blank (Or.inr (by decide)), vs, hvs, hkeywords, by simp⟩

/-- The text of clauses with a blank behind each. -/
def clausesText (cs : List (String × String)) : String :=
  cs.foldr (fun c rest => clauseText c ++ " " ++ rest) ""

theorem intercalate_clauseText {cs : List (String × String)} (hne : cs ≠ []) :
    " ".intercalate (cs.map clauseText) ++ " " = clausesText cs := by
  induction cs with
  | nil => exact absurd rfl hne
  | cons c cs ih =>
    cases cs with
    | nil => simp [clausesText]
    | cons d ds =>
      rw [List.map_cons, List.map_cons, String.intercalate_cons_cons, String.append_assoc,
        ← List.map_cons, ih (by simp)]
      rfl

theorem clausesText_words {cs : List (String × String)} (h : ∀ c ∈ cs, IsClause c) :
    ∃ wss, wordsOf (clausesText cs) = some wss.flatten ∧ List.Forall₂ ClauseWords cs wss := by
  induction cs with
  | nil => exact ⟨[], wordsOf_empty, .nil⟩
  | cons c cs ih =>
    obtain ⟨ws, hws, hc⟩ := (h c (by simp)).words
    obtain ⟨wss, hwss, hcs⟩ := ih fun d hd => h d (by simp [hd])
    exact ⟨ws :: wss, wordsOf_append hws hwss (Or.inl (endsWithBreak_append (by decide))),
      .cons hc hcs⟩

/-- A list is cut in front of certain items, if each of its parts begins with one and has no
others. -/
theorem splitBy_flatten_of_heads {α : Type} {p : α → Bool} {xss : List (List α)}
    (h : ∀ xs ∈ xss, ∃ x rest, xs = x :: rest ∧ p x = true ∧ ∀ y ∈ rest, p y = false) :
    xss.flatten.splitBy (fun _ y => !p y) = xss := by
  refine List.splitBy_flatten (fun hn => ?_) (fun xs hx => ?_) ?_
  · obtain ⟨x, rest, hnil, _⟩ := h [] hn
    cases hnil
  · obtain ⟨x, rest, rfl, _, hrest⟩ := h xs hx
    refine (List.pairwise_cons.mpr ⟨fun y hy => ?_, ?_⟩).isChain
    · rw [hrest y hy]
      rfl
    · refine List.pairwise_of_forall_mem_list fun y _ z hz => ?_
      rw [hrest z hz]
      rfl
  · refine (List.pairwise_of_forall_mem_list fun xs hx ys hy => ?_).isChain
    obtain ⟨x, rest, rfl, _⟩ := h xs hx
    obtain ⟨y, rest', rfl, hp, _⟩ := h ys hy
    exact ⟨by simp, by simp, by simp [hp]⟩

/-- Among the words of clauses those that begin one stand in front. -/
theorem clauseWords_heads {cs : List (String × String)} {wss : List (List (List Lexeme))}
    (hc : ∀ c ∈ cs, IsClause c) (h : List.Forall₂ ClauseWords cs wss) :
    ∀ ws ∈ wss, ∃ w vs, ws = w :: vs ∧ (clauseWords.map plainLexemes).contains w = true ∧
      ∀ v ∈ vs, (clauseWords.map plainLexemes).contains v = false := by
  have hblank : (clauseWords.map plainLexemes).contains [.char ' '] = false := by decide
  induction h with
  | nil => simp
  | @cons c ws cs wss hcw _ ih =>
    refine List.forall_mem_cons.mpr ⟨?_, ih fun d hd => hc d (by simp [hd])⟩
    obtain ⟨vs, _, hvs, rfl⟩ := hcw
    refine ⟨_, _, rfl, ?_, fun v hv => ?_⟩
    · rw [List.contains_eq_mem, decide_eq_true_eq]
      exact List.mem_map_of_mem (hc c (by simp)).1
    · simp only [List.cons_append, List.mem_cons, List.mem_append, List.not_mem_nil, or_false] at hv
      rcases hv with rfl | hv | rfl
      · exact hblank
      · rw [List.contains_eq_mem, decide_eq_false_iff_not]
        intro hm
        obtain ⟨k, hk, rfl⟩ := List.mem_map.mp hm
        exact hvs k hk hv
      · exact hblank

/-- The text of clauses has only one cut. -/
theorem clauses_injective {cs ds : List (String × String)} (hc : ∀ c ∈ cs, IsClause c)
    (hd : ∀ d ∈ ds, IsClause d) (hcs : cs ≠ []) (hds : ds ≠ [])
    (h : " ".intercalate (cs.map clauseText) = " ".intercalate (ds.map clauseText)) : cs = ds := by
  obtain ⟨wss, hwss, hcw⟩ := clausesText_words hc
  obtain ⟨vss, hvss, hdw⟩ := clausesText_words hd
  have htext : clausesText cs = clausesText ds := by
    rw [← intercalate_clauseText hcs, h, intercalate_clauseText hds]
  rw [htext, hvss] at hwss
  have hflat : vss.flatten = wss.flatten := Option.some.inj hwss
  have hsame : wss = vss := by
    rw [← splitBy_flatten_of_heads (clauseWords_heads hc hcw), ← hflat,
      splitBy_flatten_of_heads (clauseWords_heads hd hdw)]
  subst hsame
  exact List.left_unique_forall₂' (R := ClauseWords) (fun _ _ _ => clauseWords_unique) hcw hdw

end QueryBuilder
