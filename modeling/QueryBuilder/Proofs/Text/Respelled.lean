import QueryBuilder.Proofs.Text.Scan

/-!
Renumbering placeholders. A text keeps all its other tokens when its placeholders get other numbers,
whether its quotes have ends or not, and a number is read as it was written.
-/
namespace QueryBuilder.Text

/-- A token whose digits, if it is a placeholder, are replaced. -/
def SqlToken.respell (f : List Char → List Char) : SqlToken → SqlToken
  | .placeholder digits => .placeholder (f digits)
  | t => t

/-- A text with the digits of its placeholders replaced. -/
def respelled (f : List Char → List Char) (cs : List Char) : List Char :=
  (sqlTokens cs).flatMap fun t => (t.respell f).chars

/-- Digits are replaced by digits. -/
def KeepsDigits (f : List Char → List Char) : Prop :=
  ∀ ds, ds ≠ [] → (∀ c ∈ ds, isDigit c = true) → f ds ≠ [] ∧ ∀ c ∈ f ds, isDigit c = true

section respelled

variable {f : List Char → List Char} {c : Char} {cs region rest : List Char}

theorem respelled_region (hc : isQuote c = true) (h : splitRegion c cs = some (region, rest)) :
    respelled f (c :: cs) = c :: (region ++ respelled f rest) := by
  simp [respelled, sqlTokens_region hc h, SqlToken.respell, SqlToken.chars]

theorem respelled_loose (hc : isQuote c = true) (h : splitRegion c cs = none) :
    respelled f (c :: cs) = c :: respelled f cs := by
  simp [respelled, sqlTokens_loose hc h, SqlToken.respell, SqlToken.chars]

theorem respelled_placeholder (h : cs.takeWhile isDigit ≠ []) :
    respelled f ('$' :: cs) =
      '$' :: (f (cs.takeWhile isDigit) ++ respelled f (cs.dropWhile isDigit)) := by
  simp [respelled, sqlTokens_placeholder h, SqlToken.respell, SqlToken.chars]

theorem respelled_plain (hc : isQuote c = false) (h : ¬ (c = '$' ∧ cs.takeWhile isDigit ≠ [])) :
    respelled f (c :: cs) = c :: respelled f cs := by
  simp [respelled, sqlTokens_plain hc h, SqlToken.respell, SqlToken.chars]

theorem head?_respelled (f : List Char → List Char) (cs : List Char) :
    (respelled f cs).head? = cs.head? := by
  cases cs with
  | nil => simp [respelled, sqlTokens]
  | cons c cs =>
    rcases sqlTokens_cases c cs with ⟨r, rest, hq, hr⟩ | ⟨hq, hr⟩ | ⟨rfl, hd⟩ | ⟨hq, hd⟩
    · rw [respelled_region hq hr, List.head?_cons, List.head?_cons]
    · rw [respelled_loose hq hr, List.head?_cons, List.head?_cons]
    · rw [respelled_placeholder hd, List.head?_cons, List.head?_cons]
    · rw [respelled_plain hq hd, List.head?_cons, List.head?_cons]

theorem count_digits {mark : Char} {ds : List Char} (hm : isQuote mark = true)
    (hd : ∀ c ∈ ds, isDigit c = true) : ds.count mark = 0 := by
  refine List.count_eq_zero.mpr fun hmem => ?_
  have hdigit := hd mark hmem
  rw [isDigit_of_isQuote hm] at hdigit
  cases hdigit

/-- No placeholder has a quote, neither before nor after. -/
theorem count_respelled {mark : Char} (hm : isQuote mark = true) (hf : KeepsDigits f)
    (cs : List Char) : (respelled f cs).count mark = cs.count mark := by
  fun_induction sqlTokens cs with
  | case1 => simp [respelled, sqlTokens]
  | case2 c cs hq region rest h _ ih =>
    rw [respelled_region (isQuote_iff.mpr hq) h, ← append_of_splitRegion h, List.count_cons,
      List.count_cons, List.count_append, List.count_append, ih]
  | case3 c cs hq h ih =>
    rw [respelled_loose (isQuote_iff.mpr hq) h, List.count_cons, List.count_cons, ih]
  | case4 c cs hq hd _ ih =>
    obtain ⟨rfl, hd⟩ := hd
    have hdigits : ∀ c ∈ cs.takeWhile isDigit, isDigit c = true :=
      List.all_eq_true.mp List.all_takeWhile
    have hnew := count_digits hm (hf _ hd hdigits).2
    have hold := count_digits hm hdigits
    have hcs : cs.count mark = (cs.dropWhile isDigit).count mark := by
      conv_lhs => rw [← List.takeWhile_append_dropWhile (p := isDigit) (l := cs)]
      rw [List.count_append, hold, Nat.zero_add]
    rw [respelled_placeholder hd, List.count_cons, List.count_cons, List.count_append, hnew, ih,
      hcs, Nat.zero_add]
  | case5 c cs hq hd ih =>
    have hq : isQuote c = false := by simpa [isQuote] using hq
    rw [respelled_plain hq hd, List.count_cons, List.count_cons, ih]

end respelled

/-- A quote without an end is one that does not occur again. -/
theorem splitRegion_eq_none_iff {mark : Char} {cs : List Char} :
    splitRegion mark cs = none ↔ mark ∉ cs := by
  fun_induction splitRegion mark cs with
  | case1 => simp
  | case2 c cs hc ih =>
    have hne : mark ≠ c := fun h => hc h.symm
    simp [Option.map_eq_none_iff, ih, hne]
  | case3 c hc | case4 c hc d ds hd | case5 c hc d ds hd p hp ih | case6 c hc d ds hd hn ih =>
    have hc : c = mark := by simpa using hc
    simp [hc]

/-- The end of a region depends on what is behind it by the next character and the marks there. -/
theorem splitRegion_behind {mark : Char} {cs region rest behind : List Char}
    (h : splitRegion mark cs = some (region, rest)) (hhead : behind.head? = rest.head?)
    (hcount : behind.count mark = rest.count mark) :
    splitRegion mark (region ++ behind) = some (region, behind) := by
  -- Along the scan: the head decides whether the last mark is doubled, the marks whether the
  -- doubled one has an end behind it.
  fun_induction splitRegion mark cs generalizing region rest with
  | case1 => cases h
  | case2 c cs hc ih =>
    obtain ⟨p, hp, he⟩ := Option.map_eq_some_iff.mp h
    cases he
    rw [List.cons_append, splitRegion_of_ne hc, ih hp hhead hcount]
    rfl
  | case3 c hc =>
    cases h
    have hnil : behind = [] := List.head?_eq_none_iff.mp hhead
    simp [hnil, splitRegion, hc]
  | case4 c hc d ds hd =>
    cases h
    obtain ⟨es, rfl⟩ := List.head?_eq_some_iff.mp hhead
    simp [splitRegion, hc, hd]
  | case5 c hc d ds hd p hp ih =>
    cases h
    have hbehind := ih hp hhead hcount
    simp [splitRegion, hc, hd, hbehind]
  | case6 c hc d ds hd hn ih =>
    cases h
    obtain ⟨es, rfl⟩ := List.head?_eq_some_iff.mp hhead
    have hes : splitRegion mark es = none := by
      rw [splitRegion_eq_none_iff, ← List.count_eq_zero] at hn ⊢
      simp only [List.count_cons] at hcount
      omega
    simp [splitRegion, hc, hd, hes]

theorem takeWhile_ne_nil_iff {cs : List Char} :
    cs.takeWhile isDigit ≠ [] ↔ ∃ c ∈ cs.head?, isDigit c = true := by
  cases cs with
  | nil => simp
  | cons c cs => by_cases hd : isDigit c = true <;> simp [hd]

/-- Digits in front of something else are the longest run of digits. -/
theorem span_append {p : Char → Bool} {ds cs : List Char} (hd : ∀ c ∈ ds, p c = true)
    (hc : ∀ c ∈ cs.head?, p c = false) :
    (ds ++ cs).takeWhile p = ds ∧ (ds ++ cs).dropWhile p = cs := by
  rw [List.takeWhile_append_of_pos hd, List.dropWhile_append_of_pos hd]
  cases cs with
  | nil => simp
  | cons c cs => simp [hc c rfl]

/-- Other numbers in the placeholders of a text change nothing else of its tokens. -/
theorem sqlTokens_respelled {f : List Char → List Char} (hf : KeepsDigits f) (cs : List Char) :
    sqlTokens (respelled f cs) = (sqlTokens cs).map (SqlToken.respell f) := by
  -- Each case needs that the scan of the new text takes the same branch.
  fun_induction sqlTokens cs with
  | case1 => simp [respelled, sqlTokens]
  | case2 c cs hq region rest h _ ih =>
    have hq := isQuote_iff.mpr hq
    have hsplit := splitRegion_behind h (head?_respelled f rest) (count_respelled hq hf rest)
    rw [respelled_region hq h, sqlTokens_region hq hsplit, ih]
    rfl
  | case3 c cs hq h ih =>
    have hq := isQuote_iff.mpr hq
    have hsplit : splitRegion c (respelled f cs) = none := by
      rw [splitRegion_eq_none_iff, ← List.count_eq_zero] at h ⊢
      rw [count_respelled hq hf, h]
    rw [respelled_loose hq h, sqlTokens_loose hq hsplit, ih]
    rfl
  | case4 c cs hq hd _ ih =>
    obtain ⟨rfl, hd⟩ := hd
    obtain ⟨hn, hdigits⟩ := hf _ hd (List.all_eq_true.mp List.all_takeWhile)
    have hnext : ∀ c ∈ (respelled f (cs.dropWhile isDigit)).head?, isDigit c = false := by
      intro c hc
      rw [head?_respelled] at hc
      simpa [Option.mem_def.mp hc] using List.head?_dropWhile_not isDigit cs
    obtain ⟨htake, hdrop⟩ := span_append hdigits hnext
    have hne : (f (cs.takeWhile isDigit) ++ respelled f (cs.dropWhile isDigit)).takeWhile isDigit ≠
        [] := by
      rw [htake]
      exact hn
    rw [respelled_placeholder hd, sqlTokens_placeholder hne, htake, hdrop, ih]
    rfl
  | case5 c cs hq hd ih =>
    have hq : isQuote c = false := by simpa [isQuote] using hq
    have hd' : ¬ (c = '$' ∧ (respelled f cs).takeWhile isDigit ≠ []) := by
      rwa [takeWhile_ne_nil_iff, head?_respelled, ← takeWhile_ne_nil_iff]
    rw [respelled_plain hq hd, sqlTokens_plain hq hd', ih]
    rfl

/-- A placeholder and nothing else. -/
theorem sqlTokens_number {ds : List Char} (hn : ds ≠ []) (hd : ∀ c ∈ ds, isDigit c = true) :
    sqlTokens ('$' :: ds) = [.placeholder ds] := by
  have hend : ∀ c ∈ ([] : List Char).head?, isDigit c = false := by simp
  obtain ⟨htake, hdrop⟩ := span_append hd hend
  rw [List.append_nil] at htake hdrop
  rw [sqlTokens_placeholder (by rwa [htake]), htake, hdrop]
  simp [sqlTokens]

theorem isReadable_placeholder_iff {ds : List Char} :
    (SqlToken.placeholder ds).isReadable = true ↔ ds.length ≤ digitLimit := by
  rw [SqlToken.isReadable, number?]
  split <;> simp [*]

/-- A text is read unless one of its placeholders has too many digits. -/
theorem isReadable_iff {sql : String} : isReadable sql = true ↔
    ∀ ds, .placeholder ds ∈ sqlTokens sql.toList → ds.length ≤ digitLimit := by
  rw [isReadable, List.all_eq_true]
  constructor
  · intro h ds hds
    exact isReadable_placeholder_iff.mp (h _ hds)
  · intro h t ht
    cases t with
    | placeholder ds => exact isReadable_placeholder_iff.mpr (h ds ht)
    | quoted cs | plain c => rfl

/-- Five thousand digits. -/
def longDigits : List Char :=
  List.replicate 5000 '1'

def longPlaceholder : String :=
  String.ofList ('$' :: longDigits)

theorem digitLimit_lt_longDigits : digitLimit < longDigits.length := by
  rw [longDigits, List.length_replicate]
  decide

theorem sqlTokens_longPlaceholder :
    sqlTokens longPlaceholder.toList = [.placeholder longDigits] := by
  have hdigits : ∀ c ∈ longDigits, isDigit c = true := by
    intro c hc
    rw [List.eq_of_mem_replicate hc]
    rfl
  rw [longPlaceholder, String.toList_ofList]
  exact sqlTokens_number (List.cons_ne_nil _ _) hdigits

theorem longPlaceholder_unreadable : isReadable longPlaceholder = false := by
  rw [Bool.eq_false_iff, ne_eq, isReadable_iff, sqlTokens_longPlaceholder]
  intro h
  exact Nat.not_le_of_lt digitLimit_lt_longDigits (h _ (List.mem_singleton_self _))

theorem number_append (ds : List Char) (c : Char) :
    number (ds ++ [c]) = 10 * number ds + (digit? c).getD 0 := by
  simp [number]

theorem digit?_digitChar {n : Nat} (h : n < 10) : digit? n.digitChar = some n := by
  have hall : ∀ m : Fin 10, digit? m.val.digitChar = some m.val := by decide
  exact hall ⟨n, h⟩

/-- A number in decimal digits is read as itself. -/
theorem number_toDigits (n : Nat) : number (Nat.toDigits 10 n) = n := by
  induction n using Nat.strongRecOn with
  | ind n ih =>
    rw [Nat.toDigits_eq_if (by decide)]
    split
    next h => simp [number, digit?_digitChar h]
    next h =>
      have hm : n % 10 < 10 := Nat.mod_lt n (by decide)
      rw [number_append, ih (n / 10) (by omega), digit?_digitChar hm, Option.getD_some]
      omega

theorem isDigit_of_mem_toDigits {n : Nat} : ∀ c ∈ Nat.toDigits 10 n, isDigit c = true := by
  induction n using Nat.strongRecOn with
  | ind n ih =>
    rw [Nat.toDigits_eq_if (by decide)]
    split
    next h => simp [isDigit, digit?_digitChar h]
    next h =>
      have hm : n % 10 < 10 := Nat.mod_lt n (by decide)
      intro c hc
      rcases List.mem_append.mp hc with hc | hc
      · exact ih (n / 10) (by omega) c hc
      · cases List.mem_singleton.mp hc
        simp [isDigit, digit?_digitChar hm]

end QueryBuilder.Text
