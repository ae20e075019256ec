import QueryBuilder.Proofs.Json.Syntax

/-!
What the parts of a JSON text are read as. Each part has its tokens, whatever follows it, and the
tokens of a value are read as the value.
-/
namespace QueryBuilder

namespace Json

mutual

/-- The tokens that a value is read from. -/
def tokens : Json → List Token
  | .array items => .mark '[' :: (itemTokens items).tail ++ [.mark ']']
  | .object members => .mark '\x7b' :: (memberTokens members).tail ++ [.mark '\x7d']
  | j => [.leaf j]
termination_by structural j => j

/-- The tokens of items, each behind a comma. -/
def itemTokens : List Json → List Token
  | [] => []
  | j :: js => .mark ',' :: j.tokens ++ itemTokens js
termination_by structural js => js

def memberTokens : List (String × Json) → List Token
  | [] => []
  | (name, j) :: ms => .mark ',' :: .leaf (.string name) :: .mark ':' :: j.tokens ++ memberTokens ms
termination_by structural ms => ms

end

theorem tokens_head (j : Json) : ∃ t ts, j.tokens = t :: ts ∧ t ≠ .mark ']' := by
  cases j with
  | array items => exact ⟨_, _, rfl, by simp⟩
  | object members => exact ⟨_, _, rfl, by simp⟩
  | _ => exact ⟨_, _, rfl, by simp⟩

theorem readValue_opening {outer : List Partial} {t : Token} {ts : List Token}
    (h : t ≠ .mark ']') :
    readValue outer (.mark '[' :: t :: ts) = readValue (.array [] :: outer) (t :: ts) := by
  rw [readValue]
  rintro ts' ⟨⟩
  exact h rfl

mutual

theorem readValue_tokens : ∀ (j : Json) (outer : List Partial) (ts : List Token),
    readValue outer (j.tokens ++ ts) = readBehind j outer ts
  | .array [], outer, ts => rfl
  | .array (j :: js), outer, ts => by
    obtain ⟨t, us, htokens, ht⟩ := j.tokens_head
    have hj := readValue_tokens j (.array [] :: outer) (itemTokens js ++ .mark ']' :: ts)
    have hjs := readBehind_items js j [] outer ts
    rw [htokens] at hj
    rw [tokens, itemTokens, htokens]
    simpa [readValue_opening ht] using hj.trans hjs
  | .object [], outer, ts => rfl
  | .object ((name, j) :: ms), outer, ts => by
    have hj := readValue_tokens j (.object [] name :: outer) (memberTokens ms ++ .mark '\x7d' :: ts)
    have hms := readBehind_members ms j [] name outer ts
    rw [tokens, memberTokens]
    simpa [readValue] using hj.trans hms
  | .null, outer, ts | .bool _, outer, ts | .number _, outer, ts | .string _, outer, ts => rfl
termination_by structural j => j

theorem readBehind_items : ∀ (js : List Json) (j : Json) (items : List Json) (outer : List Partial)
    (ts : List Token), readBehind j (.array items :: outer) (itemTokens js ++ .mark ']' :: ts) =
      readBehind (.array (items.reverse ++ j :: js)) outer ts
  | [], j, items, outer, ts => by simp [itemTokens, readBehind]
  | k :: js, j, items, outer, ts => by
    have hk := readValue_tokens k (.array (j :: items) :: outer) (itemTokens js ++ .mark ']' :: ts)
    have hjs := readBehind_items js k (j :: items) outer ts
    rw [itemTokens]
    simpa [readBehind] using hk.trans hjs
termination_by structural js => js

theorem readBehind_members : ∀ (ms : List (String × Json)) (j : Json)
    (members : List (String × Json)) (name : String) (outer : List Partial) (ts : List Token),
    readBehind j (.object members name :: outer) (memberTokens ms ++ .mark '\x7d' :: ts) =
      readBehind (.object (members.reverse ++ (name, j) :: ms)) outer ts
  | [], j, members, name, outer, ts => by simp [memberTokens, readBehind]
  | (next, k) :: ms, j, members, name, outer, ts => by
    have hk := readValue_tokens k (.object ((name, j) :: members) next :: outer)
      (memberTokens ms ++ .mark '\x7d' :: ts)
    have hms := readBehind_members ms k ((name, j) :: members) next outer ts
    rw [memberTokens]
    simpa [readBehind] using hk.trans hms
termination_by structural ms => ms

end

/-- Whatever is read from the tokens of a value is the value. -/
theorem readValue_eq (j : Json) : readValue [] j.tokens = some j := by
  have h := readValue_tokens j [] []
  rwa [List.append_nil] at h

/-- Holds of texts at whose start a word is over. -/
def Ended (cs : List Char) : Prop :=
  ∀ c ∈ cs.head?, (delimiter? c).isSome = true

/-- What is read of the text outside of strings and words, whatever follows it; it has no value if
it has no tokens. -/
def Yields (cs : List Char) (ts : Option (List Token)) : Prop :=
  ∀ rest, Ended rest → scan (.word []) (cs ++ rest) =
    ts.bind fun ts => (scan (.word []) rest).map (ts ++ ·)

theorem ne_quote_of_delimiter? {c : Char} (h : (delimiter? c).isSome = true) : c ≠ '"' := by
  rintro rfl
  cases h

/-- Between words a delimiter has its own tokens. -/
theorem scan_delimiter {c : Char} {ts : List Token} (h : delimiter? c = some ts) (cs : List Char) :
    scan (.word []) (c :: cs) = (scan (.word []) cs).map (ts ++ ·) := by
  have hq : c ≠ '"' := ne_quote_of_delimiter? (by simp [h])
  simp only [scan, hq, if_false, h, wordTokens]
  cases scan (.word []) cs <;> rfl

/-- Holds of the characters that words consist of. -/
def isLetter (c : Char) : Bool :=
  c != '"' && (delimiter? c).isNone

/-- A word goes on up to the next delimiter. -/
theorem scan_letters {w : List Char} (hw : w.all isLetter = true) (letters rest : List Char) :
    scan (.word letters) (w ++ rest) = scan (.word (letters ++ w)) rest := by
  induction w generalizing letters with
  | nil => simp
  | cons c w ih =>
    simp only [List.all_cons, isLetter, Bool.and_eq_true, bne_iff_ne, Option.isNone_iff_eq_none]
      at hw
    obtain ⟨⟨hq, hd⟩, hw⟩ := hw
    rw [List.cons_append, scan, if_neg hq, hd]
    simpa using ih hw (letters ++ [c])

namespace Yields

variable {a b cs : List Char} {s t : Option (List Token)}

theorem nil : Yields [] (some []) := by
  intro rest _
  cases h : scan (.word []) rest <;> simp [h]

/-- By itself the text has just these tokens. -/
theorem scan_eq (h : Yields cs t) : scan (.word []) cs = t := by
  have hall := h [] (by simp [Ended])
  have hend : scan (.word []) [] = some [] := rfl
  rw [List.append_nil, hend] at hall
  rw [hall]
  cases t <;> simp

theorem append (ha : Yields a s) (hb : Yields b t) (he : ∀ rest, Ended rest → Ended (b ++ rest)) :
    Yields (a ++ b) (s.bind fun x => t.map (x ++ ·)) := by
  intro rest hr
  rw [List.append_assoc, ha _ (he rest hr), hb rest hr]
  cases s <;> cases t <;> cases scan (.word []) rest <;> simp

theorem delimiter {c : Char} {ts : List Token} (hc : delimiter? c = some ts) (h : Yields cs t) :
    Yields (c :: cs) (t.map (ts ++ ·)) := by
  intro rest hr
  rw [List.cons_append, scan_delimiter hc, h rest hr]
  cases t <;> cases scan (.word []) rest <;> simp

theorem word (hne : cs ≠ []) (hw : cs.all isLetter = true) :
    Yields cs ((ofWord? cs).map fun j => [.leaf j]) := by
  intro rest hr
  have htokens : wordTokens cs = (ofWord? cs).map fun j => [.leaf j] := by
    cases cs with
    | nil => exact (hne rfl).elim
    | cons c cs => rfl
  rw [scan_letters hw, List.nil_append, ← htokens]
  cases rest with
  | nil =>
    have hend : scan (.word cs) [] = wordTokens cs := by rw [scan]
    have hempty : scan (.word []) [] = some [] := rfl
    rw [hend, hempty]
    cases wordTokens cs <;> simp
  | cons d rest =>
    obtain ⟨ts, hd⟩ := Option.isSome_iff_exists.mp (hr d rfl)
    have hq : d ≠ '"' := ne_quote_of_delimiter? (hr d rfl)
    simp only [scan, hq, if_false, hd, wordTokens]
    cases wordTokens cs <;> cases scan (.word []) rest <;> simp

theorem null : Yields "null".toList (some [.leaf .null]) :=
  word (by decide) (by decide)

theorem bool (b : Bool) :
    Yields (if b then "true" else "false").toList (some [.leaf (.bool b)]) := by
  cases b <;> exact word (by decide) (by decide)

/-- A blank has no token. -/
theorem blank (h : Yields cs t) : Yields (' ' :: cs) t := by
  have hblank := h.delimiter (c := ' ') rfl
  have ht : t.map ([] ++ ·) = t := by cases t <;> rfl
  rwa [ht] at hblank

theorem mark {c : Char} (hc : delimiter? c = some [.mark c]) (h : Yields cs t) :
    Yields (c :: cs) (t.map (.mark c :: ·)) :=
  h.delimiter hc

end Yields

theorem ended_mark {c : Char} (hc : delimiter? c = some [.mark c]) (cs : List Char) :
    Ended (c :: cs) := by
  rintro d ⟨⟩
  rw [hc]
  rfl

/-- Texts of items, each behind a comma and a blank. -/
def following (texts : List (List Char)) : List Char :=
  texts.flatMap fun cs => ',' :: ' ' :: cs

theorem following_ended (texts : List (List Char)) {rest : List Char} (h : Ended rest) :
    Ended (following texts ++ rest) := by
  cases texts with
  | nil => exact h
  | cons cs texts => exact ended_mark rfl _

theorem Yields.following_cons {cs : List Char} {texts : List (List Char)}
    {s t : Option (List Token)} (hs : Yields cs s) (ht : Yields (following texts) t) :
    Yields (following (cs :: texts)) (s.bind fun x => t.map (.mark ',' :: x ++ ·)) := by
  have happend := hs.append ht fun _ => following_ended texts
  have hcomma := happend.blank.mark (c := ',') rfl
  have htokens : (s.bind fun x => t.map (x ++ ·)).map (.mark ',' :: ·) =
      s.bind fun x => t.map (.mark ',' :: x ++ ·) := by
    cases s <;> cases t <;> rfl
  rwa [htokens] at hcomma

theorem intercalate_cons (cs : List Char) (texts : List (List Char)) :
    [',', ' '].intercalate (cs :: texts) = cs ++ following texts := by
  induction texts generalizing cs with
  | nil => simp [List.intercalate, following]
  | cons ds texts ih =>
    rw [List.intercalate_cons_cons, ih]
    simp [following]

/-- Holds of a pair of brackets or braces. -/
def IsPair (opening closing : Char) : Prop :=
  delimiter? opening = some [.mark opening] ∧ delimiter? closing = some [.mark closing]

/-- The first item has no comma before it. -/
theorem Yields.tail {cs : List Char} {texts : List (List Char)} {t : Option (List Token)}
    (h : Yields (following (cs :: texts)) t) :
    Yields (cs ++ following texts) (t.map List.tail) := by
  have hscan : ∀ rest, scan (.word []) (following (cs :: texts) ++ rest) =
      (scan (.word []) (cs ++ following texts ++ rest)).map (.mark ',' :: ·) := by
    intro rest
    have hfollowing : following (cs :: texts) ++ rest =
        ',' :: ' ' :: (cs ++ following texts ++ rest) := by
      simp [following]
    rw [hfollowing, scan_delimiter (c := ',') rfl, scan_delimiter (c := ' ') rfl, Option.map_map]
    rfl
  intro rest hr
  have hall := (hscan rest).symm.trans (h rest hr)
  cases t with
  | none => exact Option.map_eq_none_iff.mp hall
  | some ts =>
    -- Read by itself the text begins with the comma, so the comma is one of its own tokens.
    have halone := hscan []
    rw [List.append_nil, h.scan_eq] at halone
    obtain ⟨us, _, hus⟩ := Option.map_eq_some_iff.mp halone.symm
    cases hus
    cases hrest : scan (.word []) rest with
    | none =>
      rw [hrest] at hall
      exact Option.map_eq_none_iff.mp hall
    | some r =>
      rw [hrest] at hall
      obtain ⟨xs, hxs, hx⟩ := Option.map_eq_some_iff.mp hall
      cases hx
      rw [hxs]
      rfl

/-- Items with commas between them, in brackets or braces. -/
theorem Yields.enclosed {opening closing : Char} (h : IsPair opening closing)
    {texts : List (List Char)} {t : Option (List Token)} (ht : Yields (following texts) t) :
    Yields (opening :: [',', ' '].intercalate texts ++ [closing])
      (t.map fun ts => .mark opening :: ts.tail ++ [.mark closing]) := by
  cases texts with
  | nil =>
    have hempty : some [] = t := ht.scan_eq
    rw [← hempty]
    exact (Yields.nil.mark h.2).mark h.1
  | cons cs texts =>
    have hclose := Yields.nil.mark h.2
    have hall := (ht.tail.append hclose fun rest _ => ended_mark h.2 rest).mark h.1
    rw [intercalate_cons]
    cases t <;> simpa using hall

theorem isPair_brackets : IsPair '[' ']' :=
  ⟨rfl, rfl⟩

theorem isPair_braces : IsPair '\x7b' '\x7d' :=
  ⟨rfl, rfl⟩

section

variable {cs : List Char} {texts : List (List Char)} {j : Option Json} {js : Option (List Json)}
  {ms : Option (List (String × Json))}

theorem Yields.item (hj : Yields cs (j.map tokens))
    (hjs : Yields (following texts) (js.map itemTokens)) :
    Yields (following (cs :: texts)) ((j.bind fun j => js.map (j :: ·)).map itemTokens) := by
  have hall := hj.following_cons hjs
  cases j <;> cases js <;> simpa [itemTokens] using hall

theorem Yields.array (h : Yields (following texts) (js.map itemTokens)) :
    Yields ('[' :: [',', ' '].intercalate texts ++ [']']) ((js.map array).map tokens) := by
  have hall := h.enclosed isPair_brackets
  cases js <;> exact hall

theorem Yields.items {text : Json → List Char} {js : List Json}
    (h : ∀ j ∈ js, Yields (text j) (some j.tokens)) :
    Yields (following (js.map text)) ((some js).map itemTokens) := by
  induction js with
  | nil => exact .nil
  | cons j js ih =>
    rw [List.forall_mem_cons] at h
    have hj : Yields (text j) ((some j).map tokens) := h.1
    exact hj.item (ih h.2)

/-- A member is the text of its name, a colon and a value. -/
theorem Yields.member {text : List Char} {name : String}
    (hname : Yields text (some [.leaf (.string name)])) (hj : Yields cs (j.map tokens))
    (hms : Yields (following texts) (ms.map memberTokens)) :
    Yields (following ((text ++ ':' :: ' ' :: cs) :: texts))
      ((j.bind fun j => ms.map ((name, j) :: ·)).map memberTokens) := by
  have hvalue := hj.blank.mark (c := ':') rfl
  have hmember := hname.append hvalue fun rest _ => ended_mark rfl _
  have hall := hmember.following_cons hms
  cases j <;> cases ms <;> simpa [memberTokens] using hall

theorem Yields.members {name value : String × Json → List Char} {ms : List (String × Json)}
    (hname : ∀ m ∈ ms, Yields (name m) (some [.leaf (.string m.1)]))
    (hvalue : ∀ m ∈ ms, Yields (value m) (some m.2.tokens)) :
    Yields (following (ms.map fun m => name m ++ ':' :: ' ' :: value m))
      ((some ms).map memberTokens) := by
  induction ms with
  | nil => exact .nil
  | cons m ms ih =>
    rw [List.forall_mem_cons] at hname hvalue
    have hm : Yields (value m) ((some m.2).map tokens) := hvalue.1
    exact hname.1.member hm (ih hname.2 hvalue.2)

theorem Yields.object (h : Yields (following texts) (ms.map memberTokens)) :
    Yields ('\x7b' :: [',', ' '].intercalate texts ++ ['\x7d']) ((ms.map object).map tokens) := by
  have hall := h.enclosed isPair_braces
  cases ms <;> exact hall

end

/-- A text with the tokens of a value is read as the value. -/
theorem read_of_yields {text : String} {j : Option Json}
    (h : Yields text.toList (j.map tokens)) : read text = j := by
  rw [read, h.scan_eq]
  cases j with
  | none => rfl
  | some j => exact readValue_eq j

end Json

end QueryBuilder
