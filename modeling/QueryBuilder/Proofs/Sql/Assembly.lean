import QueryBuilder.Proofs.Condition.Leaves
import QueryBuilder.Proofs.Sql.Sites
import QueryBuilder.Proofs.Sql.Tokens

/-!
How the pieces of a condition are put together from those of its leaves. What holds of the leaves
holds of the whole condition, if parentheses, negations and connectives keep it.
-/
namespace QueryBuilder

/-- Pieces and what they bind keep the property if they are put together as conditions are. -/
structure Assembles (P : List Piece → List Site → Prop) : Prop where
  truth : ∀ b : Bool, P [.text (if b then "true" else "false")] []
  group : ∀ {ps σ}, P ps σ → P (.text "(" :: ps ++ [.text ")"]) σ
  negation : ∀ {ps σ}, P ps σ → P (.text "NOT " :: ps) σ
  connective : ∀ {xs ys σ τ} (op : Connective), P xs σ → P ys τ →
    P (xs ++ .text s!" {op.text} " :: ys) (σ ++ τ)

namespace Context

variable {ctx : Context} {ps : List Piece} {P : List Piece → List Site → Prop}

theorem grouped_assembled (hP : Assembles P) {wrap : Bool} {ts : List LogicToken} {σ : List Site}
    (ht : ∀ {ps}, ctx.tokens ts = .ok ps → P ps σ) (h : ctx.tokens (grouped wrap ts) = .ok ps) :
    P ps σ := by
  cases wrap with
  | false => exact ht h
  | true =>
    obtain ⟨ys, hy, rfl⟩ := (tokens_text_eq_ok rfl).mp h
    obtain ⟨xs, zs, hx, hz, rfl⟩ := tokens_append_eq_ok.mp hy
    obtain ⟨ns, hn, rfl⟩ := (tokens_text_eq_ok rfl).mp hz
    cases hn
    exact hP.group (ht hx)

theorem tokens_leaf_assembled {c : Condition}
    (hl : ∀ d ∈ [c], ∀ ps, ctx.leaf d = .ok ps → P ps d.sites)
    (h : ctx.tokens [.leaf c] = .ok ps) : P ps c.sites := by
  obtain ⟨xs, ys, hx, hy, rfl⟩ := tokens_cons_eq_ok.mp h
  cases hy
  simpa using hl c (by simp) xs hx

mutual

theorem layout_assembled (hP : Assembles P) : ∀ (c : Condition) (position : Position), c.Sound →
    (∀ d ∈ c.leaves, ∀ ps, ctx.leaf d = .ok ps → P ps d.sites) →
    ∀ {ps}, ctx.tokens (c.layout position) = .ok ps → P ps c.sites
  | .logical op [], _, _, _, ps, h => by
    obtain ⟨ys, hy, rfl⟩ := (tokens_text_eq_ok rfl).mp h
    cases hy
    exact hP.truth op.identity
  | .logical op [c], position, hs, hl, ps, h => by
    have hc := layout_assembled hP c position hs.1 (fun d hd => hl d (List.mem_append_left _ hd)) h
    simpa [Condition.sites, sitesOf] using hc
  | .logical op (c :: d :: cs), position, hs, hl, ps, h => by
    rw [Condition.layout] at h
    refine grouped_assembled hP (fun h => ?_) h
    obtain ⟨xs, ys, hx, hy, rfl⟩ := tokens_append_eq_ok.mp h
    have hc := layout_assembled hP c .nested hs.1 (fun e he => hl e (List.mem_append_left _ he)) hx
    exact layoutRest_assembled hP (d :: cs) op hs.2 (fun e he => hl e (List.mem_append_right _ he))
      hc hy
  | .negation c, _, hs, hl, ps, h => by
    rw [Condition.layout] at h
    obtain ⟨ys, hy, rfl⟩ := (tokens_text_eq_ok rfl).mp h
    have hg : ctx.tokens (grouped true (c.layout .negated)) = .ok ys := hy
    exact hP.negation (grouped_assembled hP (layout_assembled hP c .negated hs hl) hg)
  | .comparison .., _, _, hl, ps, h | .array .., _, _, hl, ps, h | .jsonb .., _, _, hl, ps, h
  | .raw .., _, _, hl, ps, h => tokens_leaf_assembled hl h
  | .stray _, _, hs, _, _, _ | .draft .., _, hs, _, _, _ => hs.elim
termination_by structural c => c

/-- The further conditions of a group stand behind its connective. -/
theorem layoutRest_assembled (hP : Assembles P) : ∀ (cs : List Condition) (op : Connective),
    SoundConditions cs →
    (∀ d ∈ Condition.leavesOf cs, ∀ ps, ctx.leaf d = .ok ps → P ps d.sites) →
    ∀ {xs σ}, P xs σ → ∀ {ps}, ctx.tokens (Condition.layoutRest op cs) = .ok ps →
      P (xs ++ ps) (σ ++ sitesOf cs)
  | [], _, _, _, xs, σ, hx, ps, h => by
    cases h
    simpa [sitesOf] using hx
  | c :: cs, op, hs, hl, xs, σ, hx, ps, h => by
    rw [Condition.layoutRest] at h
    obtain ⟨ys, hy, rfl⟩ := (tokens_text_eq_ok rfl).mp h
    obtain ⟨ws, zs, hw, hz, rfl⟩ := tokens_append_eq_ok.mp hy
    have hc := layout_assembled hP c .nested hs.1 (fun e he => hl e (List.mem_append_left _ he)) hw
    have hcs := layoutRest_assembled hP cs op hs.2
      (fun e he => hl e (List.mem_append_right _ he)) (hP.connective op hx hc) hz
    simpa [sitesOf] using hcs
termination_by structural cs => cs

end

/-- What holds of the leaves of a sound condition holds of the condition after WHERE. -/
theorem predicate_assembled (hP : Assembles P) {c : Condition} (hs : c.Sound)
    (hl : ∀ d ∈ c.leaves, ∀ ps, ctx.leaf d = .ok ps → P ps d.sites)
    (h : ctx.predicate c = .ok ps) : P ps c.sites :=
  layout_assembled hP c .root hs hl h

end Context

end QueryBuilder
