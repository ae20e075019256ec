import QueryBuilder.Proofs.Sql.FormulaReader
import QueryBuilder.Sql.Predicate

/-!
Texts in which every part of a group stands by itself, in parentheses if it is a group: reading one
gives back the formula it was written for.
-/
namespace QueryBuilder

def LogicToken.stretch : LogicToken → Stretch
  | .opening => .text "("
  | .closing => .text ")"
  | .connective op => .text s!" {op.text} "
  | .negation => .text "NOT "
  | .truth b => .text (if b then "true" else "false")
  | .leaf c => .leaf c
  | .word text => .text text
  | .fault _ => .text ""

def lettersOf (ts : List LogicToken) : List Letter :=
  (ts.map LogicToken.stretch).flatMap Stretch.letters

theorem lettersOf_cons (t : LogicToken) (ts : List LogicToken) :
    lettersOf (t :: ts) = t.stretch.letters ++ lettersOf ts :=
  rfl

theorem lettersOf_append (ts us : List LogicToken) :
    lettersOf (ts ++ us) = lettersOf ts ++ lettersOf us := by
  simp [lettersOf]

/-! Tokens are found again one by one, if a word is followed by something else than a word. -/

/-- Holds where a word has ended. -/
def Ended (ls : List Letter) : Prop :=
  ∀ l ∈ ls.head?, l.delimiter?.isSome = true

theorem lex_word {word ws : List Letter} (h : ∀ l ∈ ws, l.delimiter?.isNone = true)
    (ls : List Letter) : lex word (ws ++ ls) = lex (word ++ ws) ls := by
  induction ws generalizing word with
  | nil => rw [List.nil_append, List.append_nil]
  | cons l ws ih =>
    have hl := Option.isNone_iff_eq_none.mp (h l (by simp))
    have hws := @ih (word ++ [l]) fun k hk => h k (List.mem_cons_of_mem _ hk)
    rw [List.append_assoc] at hws
    rw [List.cons_append, lex, hl]
    exact hws

theorem lex_ended {word : List Letter} {ts : List LogicToken} (hw : wordTokens word = some ts)
    {ls : List Letter} (h : Ended ls) : lex word ls = (lex [] ls).map (ts ++ ·) := by
  cases ls with
  | nil =>
    rw [lex, hw]
    exact congrArg some (List.append_nil ts).symm
  | cons l ls =>
    obtain ⟨us, hl⟩ := Option.isSome_iff_exists.mp (h l rfl)
    rw [lex, lex, hl, hw]
    cases lex [] ls with
    | none => rfl
    | some vs => exact congrArg some (List.append_assoc ts us vs)

theorem lex_wordTokens {ws : List Letter} {ts : List LogicToken} (hw : wordTokens ws = some ts)
    (hd : ∀ l ∈ ws, l.delimiter?.isNone = true) {ls : List Letter} (h : Ended ls) :
    lex [] (ws ++ ls) = (lex [] ls).map (ts ++ ·) := by
  rw [lex_word hd, List.nil_append, lex_ended hw h]

theorem lex_leaf (c : Condition) {ls : List Letter} (h : Ended ls) :
    lex [] (.leaf c :: ls) = (lex [] ls).map (.leaf c :: ·) := by
  have hword : wordTokens [.leaf c] = some [.leaf c] := rfl
  exact lex_wordTokens hword (by simp [Letter.delimiter?]) h

theorem lex_truth (b : Bool) {ls : List Letter} (h : Ended ls) :
    lex [] (lettersOf [.truth b] ++ ls) = (lex [] ls).map (.truth b :: ·) := by
  cases b with
  | true =>
    have hword : wordTokens ("true".toList.map .char) = some [.truth true] := rfl
    exact lex_wordTokens hword (by decide) h
  | false =>
    have hword : wordTokens ("false".toList.map .char) = some [.truth false] := rfl
    exact lex_wordTokens hword (by decide) h

theorem lex_opening (ls : List Letter) :
    lex [] (LogicToken.opening.stretch.letters ++ ls) = (lex [] ls).map (.opening :: ·) := by
  change (lex [] ls).bind (fun ts => some (.opening :: ts)) = _
  rw [Option.map_eq_bind]
  rfl

theorem lex_closing (ls : List Letter) :
    lex [] (LogicToken.closing.stretch.letters ++ ls) = (lex [] ls).map (.closing :: ·) := by
  change (lex [] ls).bind (fun ts => some (.closing :: ts)) = _
  rw [Option.map_eq_bind]
  rfl

theorem lex_space (ls : List Letter) : lex [] (.char ' ' :: ls) = lex [] ls := by
  change (lex [] ls).bind some = _
  exact Option.bind_fun_some _

theorem ended_space (ls : List Letter) : Ended (.char ' ' :: ls) := by
  intro l hl
  cases hl
  rfl

theorem ended_closing (ls : List Letter) : Ended (LogicToken.closing.stretch.letters ++ ls) := by
  intro l hl
  cases hl
  rfl

theorem ended_connective (op : Connective) (ls : List Letter) :
    Ended ((LogicToken.connective op).stretch.letters ++ ls) := by
  cases op <;> exact ended_space _

theorem lex_negation (ls : List Letter) :
    lex [] (LogicToken.negation.stretch.letters ++ ls) = (lex [] ls).map (.negation :: ·) := by
  have hword : wordTokens [.char 'N', .char 'O', .char 'T'] = some [.negation] := rfl
  have h := lex_wordTokens hword (by decide) (ended_space ls)
  rw [lex_space] at h
  exact h

theorem lex_connective (op : Connective) (ls : List Letter) :
    lex [] ((LogicToken.connective op).stretch.letters ++ ls) =
      (lex [] ls).map (.connective op :: ·) := by
  cases op with
  | and =>
    have hword : wordTokens [.char 'A', .char 'N', .char 'D'] = some [.connective .and] := rfl
    have h := lex_wordTokens hword (by decide) (ended_space ls)
    rw [lex_space] at h
    exact (lex_space _).trans h
  | or =>
    have hword : wordTokens [.char 'O', .char 'R'] = some [.connective .or] := rfl
    have h := lex_wordTokens hword (by decide) (ended_space ls)
    rw [lex_space] at h
    exact (lex_space _).trans h

mutual

/-- Tokens of one part: a constant, a condition, or a text in parentheses, negated or not. -/
inductive SpellsPart : List LogicToken → Formula → Prop
  | truth (b : Bool) : SpellsPart [.truth b] (.truth b)
  | leaf (c : Condition) : SpellsPart [.leaf c] (.atom c)
  | group {ts : List LogicToken} {f : Formula} (h : Spells ts f) :
      SpellsPart (.opening :: ts ++ [.closing]) f
  | negation {ts : List LogicToken} {f : Formula} (h : Spells ts f) :
      SpellsPart (.negation :: .opening :: ts ++ [.closing]) (.negation f)

/-- Tokens of one part, or of several with one connective between them. -/
inductive Spells : List LogicToken → Formula → Prop
  | part {ts : List LogicToken} {f : Formula} (h : SpellsPart ts f) : Spells ts f
  | run {op : Connective} {ts us : List LogicToken} {f g : Formula} {fs : List Formula}
      (h : SpellsPart ts f) (hs : SpellsRest op us (g :: fs)) :
      Spells (ts ++ us) (.group op (f :: g :: fs))

/-- Tokens of further parts, each behind the connective. -/
inductive SpellsRest : Connective → List LogicToken → List Formula → Prop
  | nil (op : Connective) : SpellsRest op [] []
  | cons {op : Connective} {ts us : List LogicToken} {f : Formula} {fs : List Formula}
      (h : SpellsPart ts f) (hs : SpellsRest op us fs) :
      SpellsRest op (.connective op :: ts ++ us) (f :: fs)

end

theorem ended_rest {op : Connective} {ts : List LogicToken} {fs : List Formula}
    (h : SpellsRest op ts fs) {ls : List Letter} (hl : Ended ls) : Ended (lettersOf ts ++ ls) := by
  cases h with
  | nil => exact hl
  | cons h hs =>
    rw [List.cons_append, lettersOf_cons, List.append_assoc]
    exact ended_connective op _

theorem lex_parenthesized {ts : List LogicToken} (ls : List Letter)
    (h : ∀ {ls : List Letter}, Ended ls →
      lex [] (lettersOf ts ++ ls) = (lex [] ls).map (ts ++ ·)) :
    lex [] (lettersOf (.opening :: ts ++ [.closing]) ++ ls) =
      (lex [] ls).map (.opening :: ts ++ [.closing] ++ ·) := by
  have hts := h (ended_closing ls)
  rw [lex_closing, Option.map_map] at hts
  rw [List.cons_append, lettersOf_cons, lettersOf_append, List.append_assoc, List.append_assoc,
    lex_opening]
  change Option.map _ (lex [] (lettersOf ts ++ (LogicToken.closing.stretch.letters ++ ls))) = _
  rw [hts, Option.map_map]
  simp [Function.comp_def]

mutual

theorem lex_part : ∀ {ts : List LogicToken} {f : Formula}, SpellsPart ts f →
    ∀ {ls : List Letter}, Ended ls →
      lex [] (lettersOf ts ++ ls) = (lex [] ls).map (ts ++ ·)
  | _, _, .truth b, _, hl => lex_truth b hl
  | _, _, .leaf c, _, hl => lex_leaf c hl
  | _, _, .group h, ls, _ => lex_parenthesized ls fun hl => lex_spelled h hl
  | _, _, .negation h, ls, _ => by
    have hts := lex_parenthesized ls fun hl => lex_spelled h hl
    rw [List.cons_append, List.cons_append, lettersOf_cons, List.append_assoc, lex_negation,
      ← List.cons_append, hts, Option.map_map]
    rfl

/-- The tokens of a text are those it was written with. -/
theorem lex_spelled : ∀ {ts : List LogicToken} {f : Formula}, Spells ts f →
    ∀ {ls : List Letter}, Ended ls →
      lex [] (lettersOf ts ++ ls) = (lex [] ls).map (ts ++ ·)
  | _, _, .part h, _, hl => lex_part h hl
  | _, _, .run h hs, _, hl => by
    rw [lettersOf_append, List.append_assoc, lex_part h (ended_rest hs hl), lex_rest hs hl,
      Option.map_map]
    simp [Function.comp_def]

theorem lex_rest : ∀ {op : Connective} {ts : List LogicToken} {fs : List Formula},
    SpellsRest op ts fs → ∀ {ls : List Letter}, Ended ls →
      lex [] (lettersOf ts ++ ls) = (lex [] ls).map (ts ++ ·)
  | _, _, _, .nil _, _, _ => by simp [lettersOf]
  | op, _, _, .cons h hs, _, hl => by
    rw [List.cons_append, lettersOf_cons, lettersOf_append, List.append_assoc, List.append_assoc,
      lex_connective, lex_part h (ended_rest hs hl), lex_rest hs hl, Option.map_map, Option.map_map]
    simp [Function.comp_def]

end

/-! The tokens of a part are read as one part of whatever is being read. -/

/-- Holds of tokens that are read as one formula wherever a part may stand. -/
def ReadAsPart (ts : List LogicToken) (f : Formula) : Prop :=
  ∀ (p : Partial) (outer : List Partial) (rest : List LogicToken),
    readPart p outer (ts ++ rest) = readBehind (p.take f) outer rest

/-- Holds of tokens that are read as one formula between parentheses. -/
def ReadAlone (ts : List LogicToken) (f : Formula) : Prop :=
  ∀ (outer : List Partial) (rest : List LogicToken),
    ∃ p : Partial, readPart {} outer (ts ++ rest) = readBehind p outer rest ∧ p.formula = f

theorem ReadAlone.parenthesized {ts : List LogicToken} {f : Formula} (h : ReadAlone ts f) :
    ReadAsPart (.opening :: ts ++ [.closing]) f := by
  intro p outer rest
  obtain ⟨q, hq, rfl⟩ := h (p :: outer) (.closing :: rest)
  rw [List.cons_append, List.cons_append, List.append_assoc]
  exact hq

theorem ReadAlone.negated {ts : List LogicToken} {f : Formula} (h : ReadAlone ts f) :
    ReadAsPart (.negation :: .opening :: ts ++ [.closing]) (.negation f) :=
  fun p outer rest => h.parenthesized { p with nots := p.nots + 1 } outer rest

theorem ReadAsPart.alone {ts : List LogicToken} {f : Formula} (h : ReadAsPart ts f) :
    ReadAlone ts f :=
  fun outer rest => ⟨_, h {} outer rest, rfl⟩

/-- What a run of one connective adds to the parts read so far. -/
def ReadAsRest (op : Connective) (ts : List LogicToken) (fs : List Formula) : Prop :=
  ∀ (f : Formula) (before : List Formula) (outer : List Partial) (rest : List LogicToken),
    match op with
    | .and => readBehind ⟨[], f :: before, 0⟩ outer (ts ++ rest) =
        readBehind ⟨[], fs.reverse ++ f :: before, 0⟩ outer rest
    | .or => ∃ g gs, g :: gs = fs.reverse ++ f :: before ∧
        readBehind ⟨before, [f], 0⟩ outer (ts ++ rest) = readBehind ⟨gs, [g], 0⟩ outer rest

theorem ReadAsRest.nil (op : Connective) : ReadAsRest op [] [] := by
  intro f before outer rest
  cases op with
  | and => rfl
  | or => exact ⟨f, before, rfl, rfl⟩

theorem ReadAsRest.cons {op : Connective} {ts us : List LogicToken} {g : Formula}
    {fs : List Formula} (h : ReadAsPart ts g) (hs : ReadAsRest op us fs) :
    ReadAsRest op (.connective op :: ts ++ us) (g :: fs) := by
  intro f before outer rest
  have hrest := hs g (f :: before) outer rest
  rw [List.cons_append, List.cons_append, List.append_assoc, List.reverse_cons, List.append_assoc,
    List.singleton_append]
  cases op with
  | and => exact (h ⟨[], f :: before, 0⟩ outer (us ++ rest)).trans hrest
  | or =>
    obtain ⟨k, ks, hk, hrest⟩ := hrest
    exact ⟨k, ks, hk, (h ⟨f :: before, [], 0⟩ outer (us ++ rest)).trans hrest⟩

/-- A run of one connective is read as one group. -/
theorem ReadAsRest.group {op : Connective} {ts us : List LogicToken} {f g : Formula}
    {fs : List Formula} (h : ReadAsPart ts f) (hs : ReadAsRest op us (g :: fs)) :
    ReadAlone (ts ++ us) (.group op (f :: g :: fs)) := by
  intro outer rest
  have hpart := h {} outer (us ++ rest)
  have hrest := hs f [] outer rest
  rw [List.append_assoc]
  cases op with
  | and => exact ⟨_, hpart.trans hrest, by simp [Partial.formula, groupOf]⟩
  | or =>
    obtain ⟨k, ks, hk, hrest⟩ := hrest
    refine ⟨_, hpart.trans hrest, ?_⟩
    change groupOf .or (k :: ks).reverse = _
    rw [hk]
    simp [groupOf]

mutual

theorem SpellsPart.read : ∀ {ts : List LogicToken} {f : Formula}, SpellsPart ts f → ReadAsPart ts f
  | _, _, .truth b => fun _ _ _ => rfl
  | _, _, .leaf c => fun _ _ _ => rfl
  | _, _, .group h => h.read.parenthesized
  | _, _, .negation h => h.read.negated

theorem Spells.read : ∀ {ts : List LogicToken} {f : Formula}, Spells ts f → ReadAlone ts f
  | _, _, .part h => h.read.alone
  | _, _, .run h hs => ReadAsRest.group h.read hs.read

theorem SpellsRest.read : ∀ {op : Connective} {ts : List LogicToken} {fs : List Formula},
    SpellsRest op ts fs → ReadAsRest op ts fs
  | _, _, _, .nil op => .nil op
  | _, _, _, .cons h hs => .cons h.read hs.read

end

/-- A text is read as the formula it spells. -/
theorem readFormula_spelled {ts : List LogicToken} {f : Formula} (h : Spells ts f) :
    readFormula (ts.map LogicToken.stretch) = some f := by
  have hlex : lex [] (lettersOf ts ++ []) = (lex [] []).map (ts ++ ·) :=
    lex_spelled h (by simp [Ended])
  obtain ⟨p, hp, rfl⟩ := h.read [] []
  rw [List.append_nil] at hlex hp
  have htokens : lex [] ((ts.map LogicToken.stretch).flatMap Stretch.letters) = some ts := by
    rw [show (ts.map LogicToken.stretch).flatMap Stretch.letters = lettersOf ts from rfl, hlex]
    exact congrArg some (List.append_nil ts)
  rw [readFormula, htokens]
  exact hp

end QueryBuilder
