import Mathlib.Data.List.SplitBy
import QueryBuilder.Identifier
import QueryBuilder.Proofs.Text.Lexeme

/-!
The words of SQL text. Outside of quotes the characters of identifiers that stand side by side make
one word, and everything else stands by itself. Texts that meet at another character have the words
of both, so a keyword that is in neither is not in the whole.
-/
namespace QueryBuilder.Text

/-- Holds of the characters of identifiers outside of quotes. -/
def Lexeme.isLetter : Lexeme → Bool
  | char c => Identifier.isPart c
  | quoted .. => false

/-- The words of a text, and the lexemes between them one by one. -/
def words (ls : List Lexeme) : List (List Lexeme) :=
  ls.splitBy fun l m => l.isLetter && m.isLetter

/-- The lexemes of a text without quotes. -/
def plainLexemes (s : String) : List Lexeme :=
  s.toList.map .char

/-- Holds of characters that continue no word, no quoted part and no number. -/
def isBreak (c : Char) : Bool :=
  !isQuote c && !isDigit c && c != '$' && !Identifier.isPart c

def startsWithBreak (s : String) : Bool :=
  s.toList.head?.any isBreak

def endsWithBreak (s : String) : Bool :=
  s.toList.getLast?.any isBreak

section words

variable {ls ms : List Lexeme} {s t : String}

theorem plainLexemes_injective (h : plainLexemes s = plainLexemes t) : s = t := by
  refine String.toList_injective (List.map_injective_iff.mpr ?_ h)
  intro c d hc
  cases hc
  rfl

theorem words_injective (h : words ls = words ms) : ls = ms := by
  have hf := congrArg List.flatten h
  simpa [words] using hf

theorem words_append (h : ∀ l ∈ ls.getLast?, ∀ m ∈ ms.head?, (l.isLetter && m.isLetter) = false) :
    words (ls ++ ms) = words ls ++ words ms :=
  List.splitBy_append h

theorem words_plain (hne : s ≠ "") (h : ∀ c ∈ s.toList, Identifier.isPart c = true) :
    words (plainLexemes s) = [plainLexemes s] := by
  have hletter : ∀ l ∈ plainLexemes s, l.isLetter = true := by
    intro l hl
    obtain ⟨c, hc, rfl⟩ := List.mem_map.mp hl
    exact h c hc
  refine List.splitBy_of_isChain (by simpa [plainLexemes] using hne) ?_
  refine (List.pairwise_of_forall_mem_list fun l hl m hm => ?_).isChain
  rw [hletter l hl, hletter m hm, Bool.and_self]

theorem isBreak_iff {c : Char} : isBreak c = true ↔
    isQuote c = false ∧ isDigit c = false ∧ c ≠ '$' ∧ Identifier.isPart c = false := by
  simp [isBreak, and_assoc]

/-- Nothing goes on from a text that ends with a break, or into one that starts with a break. -/
theorem seam_of_isBreak (h : endsWithBreak s = true ∨ startsWithBreak t = true) :
    Seam s.toList t.toList := by
  intro x hx y hy
  rw [endsWithBreak, startsWithBreak, Option.mem_def.mp hx, Option.mem_def.mp hy] at h
  simp only [Option.any_some, isBreak_iff] at h
  rcases h with ⟨hq, hd, hn, _⟩ | ⟨hq, hd, _, _⟩
  · simp [hq, hd, hn]
  · refine ⟨?_, by simp [hd]⟩
    rintro ⟨hx, rfl⟩
    simp [hq] at hx

/-- The last lexeme of a text that ends with a break belongs to no word. -/
theorem isLetter_getLast (hs : lexemes s.toList = some ls) (h : endsWithBreak s = true) :
    ∀ l ∈ ls.getLast?, l.isLetter = false := by
  intro l hl
  cases l with
  | quoted => rfl
  | char c =>
    obtain ⟨before, rfl⟩ := List.getLast?_eq_some_iff.mp hl
    rw [endsWithBreak, ← flatMap_chars_lexemes hs] at h
    have hc : isBreak c = true := by simpa [Lexeme.chars] using h
    exact (isBreak_iff.mp hc).2.2.2

theorem isLetter_head (hs : lexemes s.toList = some ls) (h : startsWithBreak s = true) :
    ∀ l ∈ ls.head?, l.isLetter = false := by
  intro l hl
  cases l with
  | quoted => rfl
  | char c =>
    obtain ⟨after, rfl⟩ := List.head?_eq_some_iff.mp hl
    rw [startsWithBreak, ← flatMap_chars_lexemes hs] at h
    have hc : isBreak c = true := by simpa [Lexeme.chars] using h
    exact (isBreak_iff.mp hc).2.2.2

/-- The words of a text, unless a quoted part has no end. -/
def wordsOf (s : String) : Option (List (List Lexeme)) :=
  (lexemes s.toList).map words

theorem wordsOf_empty : wordsOf "" = some [] := by
  rw [wordsOf, String.toList_empty, lexemes_nil]
  rfl

theorem wordsOf_plain (h : ∀ c ∈ s.toList, isQuote c = false) :
    wordsOf s = some (words (plainLexemes s)) := by
  rw [wordsOf, lexemes_plain h]
  rfl

theorem isQuote_of_isPart {c : Char} (h : Identifier.isPart c = true) : isQuote c = false := by
  by_contra hq
  rcases isQuote_iff.mp (by simpa using hq) with rfl | rfl
  · exact absurd h (by decide)
  · exact absurd h (by decide)

/-- An identifier is one word. -/
theorem wordsOf_word (hne : s ≠ "") (h : ∀ c ∈ s.toList, Identifier.isPart c = true) :
    wordsOf s = some [plainLexemes s] := by
  rw [wordsOf_plain fun c hc => isQuote_of_isPart (h c hc), words_plain hne h]

/-- The words of a text spell it. -/
theorem wordsOf_injective {ws : List (List Lexeme)} (hs : wordsOf s = some ws)
    (ht : wordsOf t = some ws) : s = t := by
  obtain ⟨ls, hls, rfl⟩ := Option.map_eq_some_iff.mp hs
  obtain ⟨ms, hms, hw⟩ := Option.map_eq_some_iff.mp ht
  cases words_injective hw
  exact String.toList_injective ((flatMap_chars_lexemes hls).symm.trans (flatMap_chars_lexemes hms))

/-- Two texts that meet at a break are read one after the other, word by word. -/
theorem wordsOf_append {vs ws : List (List Lexeme)} (hs : wordsOf s = some vs)
    (ht : wordsOf t = some ws) (h : endsWithBreak s = true ∨ startsWithBreak t = true) :
    wordsOf (s ++ t) = some (vs ++ ws) := by
  obtain ⟨ls, hls, rfl⟩ := Option.map_eq_some_iff.mp hs
  obtain ⟨ms, hms, rfl⟩ := Option.map_eq_some_iff.mp ht
  have hw : words (ls ++ ms) = words ls ++ words ms := words_append fun l hl m hm => by
    rcases h with h | h
    · rw [isLetter_getLast hls h l hl, Bool.false_and]
    · rw [isLetter_head hms h m hm, Bool.and_false]
  rw [wordsOf, String.toList_append, lexemes_append hls hms (seam_of_isBreak h),
    Option.map_some, hw]

end words

theorem endsWithBreak_append {s t : String} (h : endsWithBreak t = true) :
    endsWithBreak (s ++ t) = true := by
  cases ht : t.toList.getLast? with
  | none => simp [endsWithBreak, ht] at h
  | some c => simpa [endsWithBreak, ht] using h

theorem startsWithBreak_append {s t : String} (h : startsWithBreak s = true) :
    startsWithBreak (s ++ t) = true := by
  cases hs : s.toList with
  | nil => simp [startsWithBreak, hs] at h
  | cons c cs => simpa [startsWithBreak, hs] using h

/-- Every quote of the text is closed, and none of its words is a keyword. -/
structure Avoids (keywords : List String) (s : String) : Prop where
  words : ∃ ws, wordsOf s = some ws ∧ ∀ k ∈ keywords, plainLexemes k ∉ ws

/-- Holds of texts without quotes that have no keyword among their words. -/
def avoids (keywords : List String) (s : String) : Bool :=
  s.toList.all (!isQuote ·) &&
    (words (plainLexemes s)).all fun w => !(keywords.map plainLexemes).contains w

/-- Holds of such texts with a break on both sides. -/
def separates (keywords : List String) (s : String) : Bool :=
  avoids keywords s && startsWithBreak s && endsWithBreak s

namespace Avoids

variable {ks : List String} {s t : String}

theorem empty : Avoids ks "" :=
  ⟨[], wordsOf_empty, by simp⟩

theorem of_plain (h : avoids ks s = true) : Avoids ks s := by
  simp only [avoids, Bool.and_eq_true, List.all_eq_true, Bool.not_eq_true', List.contains_eq_mem,
    decide_eq_false_iff_not] at h
  exact ⟨_, wordsOf_plain h.1, fun k hk hm => h.2 _ hm (List.mem_map_of_mem hk)⟩

theorem word (hne : s ≠ "") (hs : ∀ c ∈ s.toList, Identifier.isPart c = true) (h : s ∉ ks) :
    Avoids ks s := by
  refine ⟨_, wordsOf_word hne hs, fun k hk hm => ?_⟩
  exact h (plainLexemes_injective (List.mem_singleton.mp hm) ▸ hk)

/-- A quoted part is no word. -/
theorem quoted (mark : Char) (content : List Char) (hm : isQuote mark = true)
    (hs : s.toList = (Lexeme.quoted mark content).chars) : Avoids ks s := by
  have hw : wordsOf s = some [[.quoted mark content]] := by
    rw [wordsOf, hs, lexemes_chars_quoted hm]
    rfl
  refine ⟨_, hw, fun k _ hk => ?_⟩
  rw [List.mem_singleton] at hk
  cases hc : k.toList with
  | nil => simp [plainLexemes, hc] at hk
  | cons c cs => simp [plainLexemes, hc] at hk

theorem append (hs : Avoids ks s) (ht : Avoids ks t)
    (h : endsWithBreak s = true ∨ startsWithBreak t = true) : Avoids ks (s ++ t) := by
  obtain ⟨vs, hvs, hs⟩ := hs.words
  obtain ⟨ws, hws, ht⟩ := ht.words
  refine ⟨_, wordsOf_append hvs hws h, fun k hk => ?_⟩
  rw [List.mem_append, not_or]
  exact ⟨hs k hk, ht k hk⟩

theorem lead {w : String} (hw : avoids ks w = true) (he : endsWithBreak w = true)
    (hs : Avoids ks s) : Avoids ks (w ++ s) :=
  (of_plain hw).append hs (Or.inl he)

theorem tail {w : String} (hs : Avoids ks s) (hw : avoids ks w = true)
    (he : startsWithBreak w = true) : Avoids ks (s ++ w) :=
  hs.append (of_plain hw) (Or.inr he)

theorem join {w : String} (hs : Avoids ks s) (hw : separates ks w = true) (ht : Avoids ks t) :
    Avoids ks (s ++ w ++ t) := by
  simp only [separates, Bool.and_eq_true] at hw
  exact (hs.tail hw.1.1 hw.1.2).append ht (Or.inl (endsWithBreak_append hw.2))

theorem intercalate {w : String} {ss : List String} (hw : separates ks w = true)
    (hs : ∀ s ∈ ss, Avoids ks s) : Avoids ks (w.intercalate ss) := by
  induction ss with
  | nil => exact empty
  | cons s ss ih =>
    cases ss with
    | nil => simpa using hs s (by simp)
    | cons t ss =>
      rw [String.intercalate_cons_cons]
      exact join (hs s (by simp)) hw (ih fun u hu => hs u (by simp [hu]))

end Avoids

end QueryBuilder.Text
