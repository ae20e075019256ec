import QueryBuilder.Proofs.Identifier.Parsed
import QueryBuilder.Proofs.Text.Trimmed

/-!
How a name and its alias are spelled: between blanks, with the word AS and blanks around it. Reading
such a text gives back the two.
-/
namespace QueryBuilder

open Text

namespace AliasSyntax

/-- The word AS in any case, where the long s counts as a letter s. -/
def IsAs (word : List Char) : Prop :=
  ∃ a ∈ ['a', 'A'], ∃ s ∈ ['s', 'S', '\u017f'], word = [a, s]

/-- The word AS between blanks, at least one on each side. -/
inductive IsSeparator : List Char → Prop
  | mk {left word right : List Char} (hleft : left ≠ []) (hl : IsBlanks left) (hw : IsAs word)
      (hright : right ≠ []) (hr : IsBlanks right) : IsSeparator (left ++ word ++ right)

theorem isLetterA_iff {c : Char} : isLetterA c = true ↔ c ∈ ['a', 'A'] := by
  simp [isLetterA]

theorem isLetterS_iff {c : Char} : isLetterS c = true ↔ c ∈ ['s', 'S', '\u017f'] := by
  simp [isLetterS, or_assoc]

theorem isAs_pair_iff {a s : Char} : IsAs [a, s] ↔ isLetterA a = true ∧ isLetterS s = true := by
  rw [isLetterA_iff, isLetterS_iff]
  constructor
  · rintro ⟨_, ha, _, hs, h⟩
    cases h
    exact ⟨ha, hs⟩
  · rintro ⟨ha, hs⟩
    exact ⟨a, ha, s, hs, rfl⟩

theorem not_isAs_cons {a b c : Char} {cs : List Char} : ¬ IsAs (a :: b :: c :: cs) := by
  rintro ⟨_, _, _, _, h⟩
  cases h

instance : DecidablePred IsAs
  | [a, s] => decidable_of_iff (isLetterA a = true ∧ isLetterS s = true) isAs_pair_iff.symm
  | [] => isFalse (by simp [IsAs])
  | [_] => isFalse (by simp [IsAs])
  | _ :: _ :: _ :: _ => isFalse not_isAs_cons

theorem isBlank_of_isAs {word : List Char} (h : IsAs word) : ∀ c ∈ word, isBlank c = false := by
  have letters : ∀ a ∈ ['a', 'A'], ∀ s ∈ ['s', 'S', '\u017f'], ∀ c ∈ [a, s], isBlank c = false := by
    simp [isBlank]
  obtain ⟨a, ha, s, hs, rfl⟩ := h
  exact letters a ha s hs

theorem isSeparator_as : IsSeparator [' ', 'A', 'S', ' '] := by
  have hblank : IsBlanks [' '] := by simp [IsBlanks, isBlank]
  have has : IsAs ['A', 'S'] := by decide
  exact .mk (List.cons_ne_nil _ _) hblank has (List.cons_ne_nil _ _) hblank

/-- A separator is found at the front of a text, with all its blanks. -/
theorem afterSeparator?_eq_some_iff {cs rest : List Char} :
    afterSeparator? cs = some rest ↔ ∃ separator, IsSeparator separator ∧
      cs = separator ++ rest ∧ ∀ c ∈ rest.head?, isBlank c = false := by
  constructor
  · intro h
    unfold afterSeparator? at h
    split at h
    next => cases h
    next c cs =>
      split at h
      next => cases h
      next hc =>
        split at h
        next a s b tail hword =>
          split at h
          next hletters =>
            cases h
            simp only [Bool.and_eq_true, isLetterA_iff, isLetterS_iff] at hletters
            obtain ⟨⟨ha, hs⟩, hb⟩ := hletters
            refine ⟨(c :: cs).takeWhile isBlank ++ [a, s] ++ (b :: tail.takeWhile isBlank),
              .mk ?_ (isBlanks_takeWhile _) ⟨a, ha, s, hs, rfl⟩ (by simp) ?_, ?_,
              head_dropWhile tail⟩
            · simp [show isBlank c = true by simpa using hc]
            · exact List.forall_mem_cons.mpr ⟨hb, isBlanks_takeWhile tail⟩
            · have htail : b :: tail.takeWhile isBlank ++ tail.dropWhile isBlank = b :: tail := by
                rw [List.cons_append, List.takeWhile_append_dropWhile]
              rw [List.append_assoc, htail, List.append_assoc]
              exact (List.takeWhile_append_dropWhile.symm.trans (by rw [hword]; rfl))
          next => cases h
        next => cases h
  · rintro ⟨_, ⟨hleft, hl, ⟨a, ha, s, hs, rfl⟩, hright, hr⟩, rfl, hrest⟩
    obtain ⟨l, ls, rfl⟩ := List.exists_cons_of_ne_nil hleft
    obtain ⟨b, bs, rfl⟩ := List.exists_cons_of_ne_nil hright
    have hblank : isBlank l = true := hl l (by simp)
    have hbehind : isBlank b = true := hr b (by simp)
    have hletter : isBlank a = false := isBlank_of_isAs ⟨a, ha, s, hs, rfl⟩ a (by simp)
    have hdrop : (l :: ls ++ ([a, s] ++ (b :: bs ++ rest))).dropWhile isBlank =
        [a, s] ++ (b :: bs ++ rest) := dropWhile_blanks hl (by simpa using hletter)
    have hgap : (bs ++ rest).dropWhile isBlank = rest :=
      dropWhile_blanks (fun c hc => hr c (List.mem_cons_of_mem b hc)) hrest
    have hcs : l :: ls ++ [a, s] ++ b :: bs ++ rest =
        l :: (ls ++ ([a, s] ++ (b :: bs ++ rest))) := by simp
    rw [hcs, afterSeparator?, ← List.cons_append, hdrop]
    simp [hblank, isLetterA_iff.mpr ha, isLetterS_iff.mpr hs, hbehind, hgap]

/-- The parts of a text between separators. -/
inductive Cut : List Char → List (List Char) → Prop
  | whole (cs : List Char) : Cut cs [cs]
  | separated {part separator rest : List Char} {parts : List (List Char)}
      (hs : IsSeparator separator) (h : Cut rest parts) :
      Cut (part ++ separator ++ rest) (part :: parts)

theorem Cut.cons {c : Char} {cs part : List Char} {parts : List (List Char)}
    (h : Cut cs (part :: parts)) : Cut (c :: cs) ((c :: part) :: parts) := by
  cases h with
  | whole => exact .whole _
  | separated hs h => exact @Cut.separated (c :: part) _ _ _ hs h

theorem Cut.ne_nil {cs : List Char} : ¬ Cut cs [] := by
  intro h
  cases h

theorem split_ne_nil (cs : List Char) : split cs ≠ [] := by
  rw [split]
  split
  next => simp
  next =>
    split
    next => simp
    next => split <;> simp

theorem split_cut (cs : List Char) : Cut cs (split cs) := by
  fun_induction split cs with
  | case1 cs rest h _ ih =>
    obtain ⟨separator, hs, rfl, _⟩ := afterSeparator?_eq_some_iff.mp h
    exact @Cut.separated [] _ _ _ hs ih
  | case2 => exact .whole []
  | case3 c cs _ part parts hparts ih => exact .cons (hparts ▸ ih)
  | case4 c cs _ hnil => exact absurd hnil (split_ne_nil cs)

theorem split_of_noBlank {cs : List Char} (h : ∀ c ∈ cs, isBlank c = false) : split cs = [cs] := by
  induction cs with
  | nil =>
    rw [split]
    split
    next hs => cases hs
    next => rfl
  | cons c cs ih =>
    have hn : afterSeparator? (c :: cs) = none := by simp [afterSeparator?, h c (by simp)]
    rw [split]
    split
    next hs => cases hn.symm.trans hs
    next => simp [ih fun d hd => h d (by simp [hd])]

/-- A separator parts a name from its alias. -/
theorem split_renamed {name separator aliasName : List Char}
    (hn : ∀ c ∈ name, isBlank c = false) (hs : IsSeparator separator)
    (ha : ∀ c ∈ aliasName, isBlank c = false) :
    split (name ++ separator ++ aliasName) = [name, aliasName] := by
  induction name with
  | nil =>
    have hfound : afterSeparator? (separator ++ aliasName) = some aliasName :=
      afterSeparator?_eq_some_iff.mpr ⟨separator, hs, rfl, (IsTrimmed.of_noBlank ha).head⟩
    rw [List.nil_append, split]
    split
    next hrest =>
      cases hfound.symm.trans hrest
      rw [split_of_noBlank ha]
    next hrest => cases hfound.symm.trans hrest
  | cons c cs ih =>
    have hnone : afterSeparator? (c :: (cs ++ separator ++ aliasName)) = none := by
      simp [afterSeparator?, hn c (by simp)]
    rw [List.cons_append, List.cons_append, split]
    split
    next hrest => cases hnone.symm.trans hrest
    next => simp only [ih fun d hd => hn d (List.mem_cons_of_mem c hd)]

theorem isLetter_of_isBlank {c : Char} (h : isBlank c = true) :
    isLetterA c = false ∧ isLetterS c = false := by
  have letters : ∀ d ∈ ['a', 'A', 's', 'S', '\u017f'], isBlank d = false := by
    simp [isBlank]
  have hc : c ∉ ['a', 'A', 's', 'S', '\u017f'] := fun hm => by
    cases (letters c hm).symm.trans h
  simp only [List.mem_cons, List.not_mem_nil, or_false, not_or] at hc
  simp [isLetterA, isLetterS, hc]

variable {word : List Char}

/-- A text begins with the word AS just if its first word is AS. -/
theorem startsWithAs_append (rest : List Char) (hw : ∀ c ∈ word, isBlank c = false)
    (hne : word ≠ []) (hr : ∀ c ∈ rest.head?, isBlank c = true) :
    startsWithAs (word ++ rest) = true ↔ IsAs word := by
  cases word with
  | nil => exact absurd rfl hne
  | cons a word =>
    cases word with
    | nil =>
      have hword : ¬ IsAs [a] := by
        rintro ⟨_, _, _, _, h⟩
        cases h
      cases rest with
      | nil => simpa [startsWithAs] using hword
      | cons b rest =>
        have hb := (isLetter_of_isBlank (hr b rfl)).2
        cases rest <;> simpa [startsWithAs, hb] using hword
    | cons s word =>
      cases word with
      | nil =>
        rw [isAs_pair_iff]
        cases rest with
        | nil => simp [startsWithAs]
        | cons b rest => simp [startsWithAs, hr b rfl]
      | cons c word =>
        have hc : isBlank c = false := hw c (by simp)
        simpa [startsWithAs, hc] using not_isAs_cons

/-- A text ends with the word AS just if its last word is AS. -/
theorem endsWithAs_append (front : List Char) (hw : ∀ c ∈ word, isBlank c = false)
    (hne : word ≠ []) (hf : ∀ c ∈ front.getLast?, isBlank c = true) :
    endsWithAs (front ++ word) = true ↔ IsAs word := by
  obtain ⟨last, rfl⟩ : ∃ last : List Char, word = last.reverse := ⟨word.reverse, by simp⟩
  have hlast : ∀ c ∈ last, isBlank c = false := fun c hc => hw c (by simpa using hc)
  rw [endsWithAs, List.reverse_append, List.reverse_reverse]
  rw [← List.head?_reverse] at hf
  cases last with
  | nil => exact absurd rfl hne
  | cons s last =>
    cases last with
    | nil =>
      have hword : ¬ IsAs [s] := by
        rintro ⟨_, _, _, _, h⟩
        cases h
      cases hfront : front.reverse with
      | nil => simpa using hword
      | cons b front =>
        have hb := (isLetter_of_isBlank (hf b (by rw [hfront]; rfl))).1
        cases front <;> simpa [hb] using hword
    | cons a last =>
      cases last with
      | nil =>
        have hword : IsAs [s, a].reverse ↔ isLetterA a = true ∧ isLetterS s = true := isAs_pair_iff
        rw [hword]
        cases hfront : front.reverse with
        | nil => simp [and_comm]
        | cons b front =>
          have hb : isBlank b = true := hf b (by rw [hfront]; rfl)
          simp [hb, and_comm]
      | cons c last =>
        have hc : isBlank c = false := hlast c (by simp)
        have hword : ¬ IsAs (s :: a :: c :: last).reverse := by
          rintro ⟨_, _, _, _, h⟩
          have hlength := congrArg List.length h
          simp at hlength
        simpa [hc] using hword

theorem IsSeparator.head {separator : List Char} (h : IsSeparator separator) (rest : List Char) :
    ∃ c, (separator ++ rest).head? = some c ∧ isBlank c = true := by
  obtain ⟨hleft, hl, _, _, _⟩ := h
  obtain ⟨l, ls, rfl⟩ := List.exists_cons_of_ne_nil hleft
  exact ⟨l, rfl, hl l (by simp)⟩

theorem IsSeparator.last {separator : List Char} (h : IsSeparator separator) (front : List Char) :
    ∀ c ∈ (front ++ separator).getLast?, isBlank c = true := by
  obtain ⟨_, _, _, hright, hr⟩ := h
  intro c hc
  rw [← List.append_assoc, List.getLast?_append_of_ne_nil _ hright] at hc
  exact hr c (List.mem_of_getLast? hc)

/-- The text spells the name, and the alias behind it if there is one. -/
inductive Spelled : List Char → String → Option String → Prop
  | bare {before after : List Char} {name : String} (hb : IsBlanks before) (ha : IsBlanks after) :
      Spelled (before ++ name.toList ++ after) name none
  | renamed {before separator after : List Char} {name aliasName : String} (hb : IsBlanks before)
      (hs : IsSeparator separator) (ha : IsBlanks after) :
      Spelled (before ++ (name.toList ++ separator ++ aliasName.toList) ++ after) name
        (some aliasName)

variable {subject : Subject} {s name : String} {aliasName : Option String}

theorem read_str (subject : Subject) (s : String) : read subject (.str s) =
    if trimChars s.toList = [] then .error (.empty subject (.str s))
    else if startsWithAs (trimChars s.toList) then
      .error (.malformed (.str s) (.nameMissing subject))
    else if endsWithAs (trimChars s.toList) then .error (.malformed (.str s) .aliasMissing)
    else
      match split (trimChars s.toList) with
      | [name] => .ok (String.ofList name, none)
      | [name, aliasName] =>
        if !Identifier.isValid (String.ofList aliasName) then
          .error (.malformed (.str s) (.aliasNotIdentifier (String.ofList aliasName)))
        else if Identifier.isReserved (String.ofList aliasName) then
          .error (.malformed (.str s) (.aliasReserved (String.ofList aliasName)))
        else .ok (String.ofList name, some (String.ofList aliasName))
      | _ => .error (.malformed (.str s) .aliasRepeated) :=
  rfl

theorem read_blank (h : isBlankText s = true) :
    read subject (.str s) = .error (.empty subject (.str s)) := by
  rw [read_str, if_pos (trimChars_eq_nil_iff.mpr h)]

/-- A text that is not blank and cannot be read is malformed. -/
theorem read_error (h : isBlankText s = false) {e : Error}
    (he : read subject (.str s) = .error e) : ∃ fault, e = .malformed (.str s) fault := by
  have hne : trimChars s.toList ≠ [] := by simp [trimChars_eq_nil_iff, h]
  rw [read_str, if_neg hne] at he
  split at he
  next =>
    cases he
    exact ⟨_, rfl⟩
  next =>
    split at he
    next =>
      cases he
      exact ⟨_, rfl⟩
    next =>
      split at he
      next => cases he
      next =>
        split at he
        next =>
          cases he
          exact ⟨_, rfl⟩
        next =>
          split at he
          next =>
            cases he
            exact ⟨_, rfl⟩
          next => cases he
      next =>
        cases he
        exact ⟨_, rfl⟩

/-- A name and an alias are read where the trimmed text has just these parts, does not begin or end
with the word AS, and the alias may be one. -/
theorem read_eq_ok_iff : read subject (.str s) = .ok (name, aliasName) ↔
    trimChars s.toList ≠ [] ∧ startsWithAs (trimChars s.toList) = false ∧
      endsWithAs (trimChars s.toList) = false ∧
      split (trimChars s.toList) = name.toList :: aliasName.toList.map String.toList ∧
      ∀ a ∈ aliasName, Identifier.isValid a = true ∧ Identifier.isReserved a = false := by
  constructor
  · intro h
    have ha : ∀ a ∈ aliasName, Identifier.isValid a = true ∧ Identifier.isReserved a = false := by
      rintro a rfl
      exact read_alias h
    rw [read_str] at h
    split at h
    next => cases h
    next hne =>
      split at h
      next => cases h
      next hstart =>
        split at h
        next => cases h
        next hend =>
          refine ⟨hne, by simpa using hstart, by simpa using hend, ?_, ha⟩
          split at h
          next word hsplit =>
            cases h
            simpa using hsplit
          next word last hsplit =>
            split at h
            next => cases h
            next =>
              split at h
              next => cases h
              next =>
                cases h
                simpa using hsplit
          next => cases h
  · rintro ⟨hne, hstart, hend, hsplit, ha⟩
    rw [read_str, if_neg hne, hstart, hend, hsplit]
    cases aliasName with
    | none => simp
    | some a => simp [ha a rfl]

theorem Cut.eq_of_singleton {cs part : List Char} (h : Cut cs [part]) : cs = part := by
  cases h with
  | whole => rfl
  | separated _ hnil => exact absurd hnil Cut.ne_nil

theorem Cut.of_pair {cs part last : List Char} (h : Cut cs [part, last]) :
    ∃ separator, IsSeparator separator ∧ cs = part ++ (separator ++ last) := by
  cases h with
  | separated hs h => exact ⟨_, hs, by rw [h.eq_of_singleton, List.append_assoc]⟩

/-- A name stands at the front of the trimmed text, and a blank or nothing follows it. -/
theorem split_front {cs : List Char} {part : List Char} {parts : List (List Char)}
    (h : split cs = part :: parts) :
    ∃ rest, cs = part ++ rest ∧ ∀ c ∈ rest.head?, isBlank c = true := by
  have hcut := split_cut cs
  rw [h] at hcut
  cases hcut with
  | whole => exact ⟨[], (List.append_nil cs).symm, by simp⟩
  | @separated _ separator rest _ hs _ =>
    obtain ⟨c, hhead, hc⟩ := hs.head rest
    exact ⟨separator ++ rest, List.append_assoc _ _ _, by simpa [hhead] using hc⟩

/-- What is read is spelled by the text. The name begins with a character that is no blank, and if
it is a single word it is not AS. -/
theorem spelled_of_read (h : read subject (.str s) = .ok (name, aliasName)) :
    Spelled s.toList name aliasName ∧ isBlankText name = false ∧
      ((∀ c ∈ name.toList, isBlank c = false) → ¬ IsAs name.toList) := by
  obtain ⟨hne, hstart, _, hsplit, _⟩ := read_eq_ok_iff.mp h
  obtain ⟨before, after, hb, ha, hs⟩ := exists_blanks s.toList
  have htrimmed := isTrimmed_trimChars s.toList
  generalize trimChars s.toList = core at hne hstart hsplit hs htrimmed
  obtain ⟨rest, hcore, hrest⟩ := split_front hsplit
  have hname : name.toList ≠ [] := by
    intro hnil
    rw [hnil, List.nil_append] at hcore
    obtain ⟨c, cs, rfl⟩ := List.exists_cons_of_ne_nil hne
    cases (htrimmed.head c rfl).symm.trans (hrest c (by rw [← hcore]; rfl))
  refine ⟨?_, ?_, fun hw has => ?_⟩
  · have hcut := split_cut core
    rw [hsplit] at hcut
    rw [hs]
    cases aliasName with
    | none =>
      rw [hcut.eq_of_singleton]
      exact .bare hb ha
    | some a =>
      obtain ⟨separator, hseparator, hcut⟩ := hcut.of_pair
      rw [hcut, ← List.append_assoc name.toList]
      exact .renamed hb hseparator ha
  · obtain ⟨c, cs, hcs⟩ := List.exists_cons_of_ne_nil hname
    have hc : isBlank c = false := htrimmed.head c (by rw [hcore, hcs]; rfl)
    simp [isBlankText, hcs, hc]
  · have hbegins := (startsWithAs_append rest hw hname hrest).mpr has
    rw [← hcore, hstart] at hbegins
    cases hbegins

/-- No alias is the word AS. -/
theorem not_isAs_of_alias {a : String} (hv : Identifier.isValid a = true)
    (hr : Identifier.isReserved a = false) : ¬ IsAs a.toList := by
  have words : ∀ a ∈ ['a', 'A'], ∀ s ∈ ['s', 'S', '\u017f'],
      Identifier.isValid (String.ofList [a, s]) = false ∨
        Identifier.isReserved (String.ofList [a, s]) = true := by
    simp only [List.mem_cons, List.not_mem_nil, or_false, forall_eq_or_imp, forall_eq]
    decide
  rintro ⟨x, hx, y, hy, hxy⟩
  have ha : a = String.ofList [x, y] := by rw [← hxy, String.ofList_toList]
  rcases words x hx y hy with h | h
  · cases (ha ▸ hv).symm.trans h
  · cases (ha ▸ hr).symm.trans h

/-- A spelled name without blanks is read, unless it is the word AS. -/
theorem read_of_spelled (subject : Subject) (h : Spelled s.toList name aliasName) (hne : name ≠ "")
    (hn : ∀ c ∈ name.toList, isBlank c = false) (has : ¬ IsAs name.toList)
    (ha : ∀ a ∈ aliasName, Identifier.isValid a = true ∧ Identifier.isReserved a = false) :
    read subject (.str s) = .ok (name, aliasName) := by
  have hchars : name.toList ≠ [] := fun hnil => hne (String.toList_injective hnil)
  rw [read_eq_ok_iff]
  generalize s.toList = cs at h
  cases h with
  | bare hb hafter =>
    have hstart := startsWithAs_append [] hn hchars (by simp)
    have hend := endsWithAs_append [] hn hchars (by simp)
    rw [List.append_nil] at hstart
    rw [List.nil_append] at hend
    rw [trimChars_append hb hafter (.of_noBlank hn)]
    refine ⟨hchars, by simpa [has] using hstart, by simpa [has] using hend, ?_, ha⟩
    rw [split_of_noBlank hn]
    rfl
  | @renamed before separator after _ a hb hs hafter =>
    obtain ⟨hv, hr⟩ := ha a rfl
    have hlast := Identifier.noBlank hv
    have hlastne := Identifier.toList_ne_nil hv
    obtain ⟨c, hhead, hc⟩ := hs.head a.toList
    have hstart := startsWithAs_append (separator ++ a.toList) hn hchars
      (by simpa [hhead] using hc)
    have hend := endsWithAs_append (name.toList ++ separator) hlast hlastne (hs.last _)
    rw [← List.append_assoc] at hstart
    have htrimmed : IsTrimmed (name.toList ++ separator ++ a.toList) := by
      refine ⟨fun d hd => ?_, fun d hd => ?_⟩
      · rw [List.append_assoc, List.head?_append_of_ne_nil _ hchars] at hd
        exact hn d (List.mem_of_mem_head? hd)
      · rw [List.getLast?_append_of_ne_nil _ hlastne] at hd
        exact hlast d (List.mem_of_getLast? hd)
    rw [trimChars_append hb hafter htrimmed]
    refine ⟨by simp [hchars], by simpa [has] using hstart,
      by simpa [not_isAs_of_alias hv hr] using hend, split_renamed hn hs hlast, ha⟩

end AliasSyntax

end QueryBuilder
