import QueryBuilder.Proofs.Sql.Assembly
import QueryBuilder.Proofs.Sql.PathKeys
import QueryBuilder.Proofs.Text.Words

/-!
What stands in a clause behind its first word. Names that are reserved are quoted, so no name reads
as a word that begins a clause, and neither does anything else that a predicate consists of.
-/
namespace QueryBuilder

open Text

/-- The words with which clauses begin. -/
def clauseWords : List String :=
  ["SELECT", "FROM", "INNER", "LEFT", "RIGHT", "FULL", "WHERE", "ORDER", "LIMIT", "OFFSET"]

theorem isReserved_of_mem_clauseWords : ∀ k ∈ clauseWords, Identifier.isReserved k = true := by
  decide +kernel

/-- Holds of texts in which no clause begins. -/
abbrev IsBody (s : String) : Prop :=
  Avoids clauseWords s

theorem identifier_isBody {name : String} (h : name = "*" ∨ Identifier.isValid name = true) :
    IsBody ((Dialect.postgres true).identifier name) := by
  simp only [Dialect.postgres, Bool.and_true]
  split
  next =>
    refine .quoted '"' name.toList (by decide) ?_
    rw [Dialect.enclose, String.toList_ofList]
    rfl
  next hr =>
    rcases h with rfl | h
    · exact .of_plain (by decide)
    · refine .word (Identifier.ne_empty h) (fun c hc => Identifier.isPart_of_isValid h hc) ?_
      intro hk
      simp [isReserved_of_mem_clauseWords name hk, Identifier.ne_star h] at hr

/-- A reference with every reserved part in quotes. -/
def writtenName (name : String) : String :=
  ".".intercalate ((parts name).map (Dialect.postgres true).identifier)

theorem writtenName_isBody {name : String} (h : IsWritable name) : IsBody (writtenName name) := by
  refine .intercalate (by decide) fun s hs => ?_
  obtain ⟨p, hp, rfl⟩ := List.mem_map.mp hs
  exact identifier_isBody (h p hp)

theorem literal_isBody (s : String) : IsBody ((Dialect.postgres true).literal s) :=
  .quoted '\'' s.toList (by decide) (chars_keyLexeme true s).symm

theorem isDigit_of_mem_repr {n : Nat} : ∀ c ∈ n.repr.toList, c.isDigit = true := by
  intro c hc
  rw [Nat.toList_repr] at hc
  exact Nat.isDigit_of_mem_toDigits (by decide) (by decide) hc

theorem repr_notMem_clauseWords (n : Nat) : n.repr ∉ clauseWords := by
  have hletter : ∀ k ∈ clauseWords, k.toList.all Char.isDigit = false := by decide
  have hdigits : n.repr.toList.all Char.isDigit = true := List.all_eq_true.mpr isDigit_of_mem_repr
  intro hk
  rw [hletter _ hk] at hdigits
  cases hdigits

/-- A number is a word that begins no clause. -/
theorem repr_isBody (n : Nat) : IsBody n.repr := by
  refine .word Nat.repr_ne_empty (fun c hc => ?_) (repr_notMem_clauseWords n)
  simp [Identifier.isPart, isDigit_of_mem_repr c hc]

theorem placeholder_isBody (n : Nat) : IsBody ((Dialect.postgres true).placeholder n) := by
  have hsign : ∀ k ∈ clauseWords, plainLexemes k ≠ [.char '$'] := by decide
  have hdigit : ∀ c ∈ n.repr.toList, Identifier.isPart c = true := fun c hc => by
    simp [Identifier.isPart, isDigit_of_mem_repr c hc]
  have htext : ((Dialect.postgres true).placeholder n).toList = '$' :: n.repr.toList := by
    rw [Piece.toList_placeholder, Nat.toList_repr]
  -- The dollar sign is no part of the word behind it.
  have hseam : ∀ l ∈ [Lexeme.char '$'].getLast?, ∀ m ∈ (plainLexemes n.repr).head?,
      (l.isLetter && m.isLetter) = false := by
    intro l hl m _
    cases hl
    rfl
  have hw : words (plainLexemes ((Dialect.postgres true).placeholder n)) =
      [[.char '$'], plainLexemes n.repr] := by
    have happend := words_append hseam
    rw [words_plain Nat.repr_ne_empty hdigit] at happend
    rw [plainLexemes, htext]
    exact happend
  refine ⟨_, wordsOf_plain (isQuote_placeholder true n), fun k hk hm => ?_⟩
  simp only [hw, List.mem_cons, List.not_mem_nil, or_false] at hm
  rcases hm with hm | hm
  · exact hsign k hk hm
  · exact repr_notMem_clauseWords n (plainLexemes_injective hm ▸ hk)

namespace Context

variable {ctx : Context}

theorem referenceText_eq (hd : ctx.dialect = Dialect.postgres true) (name : String) :
    ctx.referenceText name = writtenName name := by
  rw [referenceText, hd]
  rfl

theorem resolvedText_isBody (hd : ctx.dialect = Dialect.postgres true) {name : String}
    {column : ResolvedColumn} (h : ctx.scope.resolveName name = .ok column) :
    IsBody (ctx.resolvedText column) := by
  rw [resolvedText, referenceText_eq hd]
  exact writtenName_isBody
    (Scope.resolveName_isWritable (Scope.resolveName_isItemName h) (by simp) h)

end Context

namespace Piece

/-- Holds of pieces in whose text no clause begins, whatever is bound before them. -/
structure IsBody (ps : List Piece) : Prop where
  rendered : ∀ offset, QueryBuilder.IsBody (renderAll (Dialect.postgres true) offset ps)

namespace IsBody

variable {ps qs : List Piece} {s w : String}

theorem text (h : QueryBuilder.IsBody s) : IsBody [.text s] := by
  refine ⟨fun offset => ?_⟩
  simpa [renderAll, render] using h

theorem bind (v : Value) : IsBody [.bind v] := by
  refine ⟨fun offset => ?_⟩
  simpa [renderAll, render] using placeholder_isBody (offset + 1)

theorem append (hp : IsBody ps) (hq : IsBody qs)
    (h : ∀ i j, endsWithBreak (renderAll (Dialect.postgres true) i ps) = true ∨
      startsWithBreak (renderAll (Dialect.postgres true) j qs) = true) : IsBody (ps ++ qs) := by
  refine ⟨fun offset => ?_⟩
  rw [renderAll_append]
  exact (hp.rendered offset).append (hq.rendered _) (h _ _)

theorem lead (hs : QueryBuilder.IsBody s) (he : endsWithBreak s = true) (hp : IsBody ps) :
    IsBody (.text s :: ps) := by
  refine append (text hs) hp fun i _ => Or.inl ?_
  simpa [renderAll, render] using he

theorem tail (hp : IsBody ps) (hs : QueryBuilder.IsBody s) (he : startsWithBreak s = true) :
    IsBody (ps ++ [.text s]) := by
  refine append hp (text hs) fun _ j => Or.inr ?_
  simpa [renderAll, render] using he

theorem join (hp : IsBody ps) (hw : separates clauseWords w = true) (hq : IsBody qs) :
    IsBody (ps ++ .text w :: qs) := by
  simp only [separates, Bool.and_eq_true] at hw
  refine append hp (lead (.of_plain hw.1.1) hw.2 hq) fun _ j => Or.inr ?_
  rw [renderAll, render]
  exact startsWithBreak_append hw.1.2

theorem separated {xss : List (List Piece)} (hw : separates clauseWords w = true)
    (h : ∀ xs ∈ xss, IsBody xs) : IsBody (Piece.separated w xss) := by
  induction xss with
  | nil => exact ⟨fun _ => .empty⟩
  | cons xs xss ih =>
    cases xss with
    | nil => exact h xs (by simp)
    | cons ys xss => exact join (h xs (by simp)) hw (ih fun zs hz => h zs (by simp [hz]))

end IsBody

end Piece

/-- Holds of sites that bind a value of their own. -/
def Site.IsValue : Site → Prop
  | value _ => True
  | fragment .. => False

/-- The condition writes an empty array. -/
def Condition.IsEmptyArray : Condition → Prop
  | .array _ op operand _ => op.takesList = true ∧ operand.items? = some []
  | _ => False

/-- A condition without connectives that has no fragment and writes no empty array. -/
structure Condition.IsPlainLeaf (c : Condition) : Prop where
  fragments : ∀ s ∈ c.sites, s.IsValue
  arrays : ¬ c.IsEmptyArray

theorem Comparison.avoids_sql (op : Comparison) : avoids clauseWords op.sql = true := by
  cases op <;> decide

theorem ArrayOperator.avoids_sql (op : ArrayOperator) : avoids clauseWords op.sql = true := by
  cases op <;> decide

/-- A column and an operator in front of what is bound. -/
theorem operator_isBody {name op rest : String} (hn : IsBody name)
    (ho : avoids clauseWords op = true) (hr : avoids clauseWords rest = true)
    (hb : startsWithBreak rest = true) : IsBody (name ++ " " ++ op ++ rest) :=
  (hn.join (by decide) (.of_plain ho)).tail hr hb

namespace Context

open Piece.IsBody

variable {ctx : Context} {column : ResolvedColumn} {ps : List Piece}

theorem operand_isBody (hd : ctx.dialect = Dialect.postgres true) {v : Value} {p : Piece}
    (hs : v.Sound) (hf : ∀ s ∈ v.sites, s.IsValue) (h : ctx.operand v = .ok p) :
    Piece.IsBody [p] := by
  unfold operand at h
  split at h
  next name =>
    obtain ⟨s, hc, rfl⟩ := map_eq_ok_iff.mp h
    obtain ⟨column, hr, hc⟩ := bind_eq_ok_iff.mp hc
    cases hc
    exact text (resolvedText_isBody hd hr)
  next => exact hs.elim
  next => exact (hf _ (List.mem_singleton_self _)).elim
  next => exact hs.elim
  next =>
    cases h
    exact bind v

theorem operands_isBody (hd : ctx.dialect = Dialect.postgres true) {vs : List Value}
    (hs : ∀ v ∈ vs, v.Sound) (hf : ∀ s ∈ vs.flatMap Value.sites, s.IsValue)
    (h : ctx.operands vs = .ok ps) : Piece.IsBody ps := by
  obtain ⟨pieces, hp, h⟩ := bind_eq_ok_iff.mp h
  cases h
  have hall : ∀ p ∈ pieces, Piece.IsBody [p] := forEach_all (fun v hv p h =>
    operand_isBody hd (hs v hv) (fun s hm => hf s (List.mem_flatMap.mpr ⟨v, hv, hm⟩)) h) hp
  refine separated (by decide) fun xs hx => ?_
  obtain ⟨p, hm, rfl⟩ := List.mem_map.mp hx
  exact hall p hm

theorem comparison_isBody (hd : ctx.dialect = Dialect.postgres true) {op : Comparison}
    {value : Value} (hn : IsBody (ctx.resolvedText column))
    (hk : Condition.checkComparison op value = .ok ()) (hs : value.Sound)
    (hf : ∀ s ∈ op.sites value, s.IsValue) (h : ctx.comparison column op value = .ok ps) :
    Piece.IsBody ps := by
  unfold comparison at h
  simp only at h
  unfold Comparison.sites at hf
  by_cases hnull : op.isNullTest = true
  · simp only [hnull, if_true] at h
    cases h
    exact text (operator_isBody hn op.avoids_sql (by decide) (by decide))
  · by_cases hmember : op.isMembership = true
    · simp only [hnull, hmember, if_true] at h hf
      obtain ⟨v, rest, hvs⟩ := Condition.items_of_membership hk hmember
      obtain ⟨_, hw, h⟩ := bind_eq_ok_iff.mp h
      cases (walk_of_items hvs).symm.trans hw
      obtain ⟨operands, ho, h⟩ := bind_eq_ok_iff.mp h
      cases h
      rw [Value.itemSites, hvs] at hf
      have hops := operands_isBody hd (hs.items hvs) hf ho
      exact lead (operator_isBody hn op.avoids_sql (by decide) (by decide))
        (endsWithBreak_append (by decide)) (tail hops (.of_plain (by decide)) (by decide))
    · simp only [hnull, hmember] at h hf
      obtain ⟨p, hv, h⟩ := bind_eq_ok_iff.mp h
      cases h
      exact lead (operator_isBody hn op.avoids_sql (by decide) (by decide))
        (endsWithBreak_append (by decide)) (operand_isBody hd hs hf hv)

theorem array_isBody (hd : ctx.dialect = Dialect.postgres true) {op : ArrayOperator}
    {operand : Value} {elementType : Option String} (hn : IsBody (ctx.resolvedText column))
    (hk : Condition.checkArray op operand = .ok ()) (hs : operand.Sound)
    (hf : ∀ s ∈ op.sites operand, s.IsValue)
    (he : ¬ (op.takesList = true ∧ operand.items? = some []))
    (h : ctx.array column op operand elementType = .ok ps) : Piece.IsBody ps := by
  unfold array at h
  simp only at h
  unfold ArrayOperator.sites at hf
  by_cases hlist : op.takesList = true
  · simp only [hlist, if_true] at h hf
    obtain ⟨vs, hvs⟩ := Condition.items_of_takesList hk hlist
    obtain ⟨_, hw, h⟩ := bind_eq_ok_iff.mp h
    cases (walk_of_items hvs).symm.trans hw
    split at h
    next => exact absurd ⟨hlist, hvs⟩ he
    next =>
      obtain ⟨operands, ho, h⟩ := bind_eq_ok_iff.mp h
      cases h
      rw [Value.itemSites, hvs] at hf
      have hops := operands_isBody hd (hs.items hvs) hf ho
      exact lead (operator_isBody hn op.avoids_sql (by decide) (by decide))
        (endsWithBreak_append (by decide)) (tail hops (.of_plain (by decide)) (by decide))
  · simp only [hlist] at h hf
    obtain ⟨p, hv, h⟩ := bind_eq_ok_iff.mp h
    cases h
    have hop : IsBody (" = " ++ op.sql ++ "(") :=
      .tail (.lead (by decide) (by decide) (.of_plain op.avoids_sql)) (by decide) (by decide)
    have hcall : IsBody (" = " ++ op.sql ++ "(" ++ ctx.resolvedText column ++ ")") :=
      (hop.append hn (Or.inl (endsWithBreak_append (by decide)))).tail (by decide) (by decide)
    refine tail (operand_isBody hd hs hf hv) hcall ?_
    simp only [String.append_assoc]
    exact startsWithBreak_append (by decide)

end Context

theorem jsonbPathText_isBody {column : String} {asText : Bool} {keys : List String}
    (hc : IsBody column) (hk : ∀ key ∈ keys, IsBody key) :
    IsBody (jsonbPathText column asText keys) := by
  fun_induction jsonbPathText column asText keys with
  | case1 column => exact hc
  | case2 column key arrow =>
    have ha : separates clauseWords (" " ++ arrow ++ " ") = true := by
      cases asText <;> decide
    have hj := hc.join ha (hk key (by simp))
    rw [← String.append_assoc, ← String.append_assoc] at hj
    exact hj
  | case3 column key keys hne ih =>
    refine ih ?_ fun k hm => hk k (by simp [hm])
    exact hc.join (by decide) (hk key (by simp))

namespace JsonbOperator

theorem avoids_sign (op : JsonbOperator) : avoids clauseWords op.sign = true := by
  cases op <;> decide

theorem startsWithBreak_sign (op : JsonbOperator) : startsWithBreak op.sign = true := by
  cases op <;> decide

/-- What is bound behind a sign is a document, keys or a text. -/
theorem operandPieces_isBody {op : JsonbOperator} {path : List String} {operand : Value}
    {s : String} {ps : List Piece} (hs : IsBody (s ++ op.sign))
    (h : op.operandPieces path operand = .ok ps) : Piece.IsBody (.text (s ++ op.sign) :: ps) := by
  have bound : ∀ v, endsWithBreak op.sign = true → Piece.IsBody [.text (s ++ op.sign), .bind v] :=
    fun v he => .lead hs (endsWithBreak_append he) (.bind v)
  cases op with
  | contains | containedBy | fieldContains =>
    simp only [operandPieces, jsonbDocument] at h
    split at h
    next text _ =>
      cases h
      exact .tail (bound (.str text) (by decide)) (.of_plain (by decide)) (by decide)
    next => cases h
  | hasKey | hasAnyKey | hasAllKeys =>
    obtain ⟨p, hp, h⟩ := bind_eq_ok_iff.mp h
    cases h
    obtain ⟨v, rfl⟩ := bind_of_jsonbKeysPiece hp
    exact bound v (by decide)
  | fieldExists =>
    simp only [operandPieces] at h
    split at h
    next =>
      cases h
      exact bound _ (by decide)
    next => cases h
  | fieldIsNull =>
    cases h
    exact .text hs
  | fieldEquals | fieldNotEquals =>
    obtain ⟨text, _, h⟩ := bind_eq_ok_iff.mp h
    cases h
    exact bound _ (by decide)

end JsonbOperator

namespace Context

open Piece.IsBody

variable {ctx : Context} {column : ResolvedColumn} {ps : List Piece}

theorem jsonb_isBody (hd : ctx.dialect = Dialect.postgres true) {op : JsonbOperator}
    {path : List String} {operand : Value} (hn : IsBody (ctx.resolvedText column))
    (h : ctx.jsonb column op path operand = .ok ps) : Piece.IsBody ps := by
  rw [jsonb_eq] at h
  obtain ⟨rest, hr, rfl⟩ := map_eq_ok_iff.mp h
  refine op.operandPieces_isBody (.tail ?_ op.avoids_sign op.startsWithBreak_sign) hr
  refine jsonbPathText_isBody hn fun key hk => ?_
  obtain ⟨k, _, rfl⟩ := List.mem_map.mp hk
  rw [hd]
  exact literal_isBody k

theorem leaf_isBody (hd : ctx.dialect = Dialect.postgres true) {c : Condition} (hs : c.Sound)
    (hp : c.IsPlainLeaf) (h : ctx.leaf c = .ok ps) : Piece.IsBody ps := by
  obtain ⟨hf, he⟩ := hp
  cases c with
  | comparison name op value =>
    obtain ⟨column, hr, h⟩ := bind_eq_ok_iff.mp h
    exact comparison_isBody hd (resolvedText_isBody hd hr) hs.2.1 hs.2.2 hf h
  | array name op operand elementType =>
    obtain ⟨column, hr, h⟩ := bind_eq_ok_iff.mp h
    exact array_isBody hd (resolvedText_isBody hd hr) hs.2.1 hs.2.2.1 hf he h
  | jsonb name op path operand =>
    obtain ⟨column, hr, h⟩ := bind_eq_ok_iff.mp h
    exact jsonb_isBody hd (resolvedText_isBody hd hr) h
  | raw sql params => exact (hf _ (List.mem_singleton_self _)).elim
  | logical op children | negation child => cases h
  | stray v | draft kind fields => exact hs.elim

theorem isBody_assembles : Assembles fun ps _ => Piece.IsBody ps where
  truth b := text (.of_plain (by cases b <;> decide))
  group h := tail (lead (.of_plain (by decide)) (by decide) h) (.of_plain (by decide)) (by decide)
  negation h := lead (.of_plain (by decide)) (by decide) h
  connective op hx hy := join hx (by cases op <;> decide) hy

/-- No clause begins in the condition after WHERE. -/
theorem predicate_isBody (hd : ctx.dialect = Dialect.postgres true) {c : Condition} (hs : c.Sound)
    (hp : ∀ d ∈ c.leaves, d.IsPlainLeaf) (h : ctx.predicate c = .ok ps) : Piece.IsBody ps :=
  predicate_assembled isBody_assembles hs
    (fun d hm _ hl => leaf_isBody hd (hs.of_mem_leaves d hm).1 (hp d hm) hl) h

end Context

end QueryBuilder
