import QueryBuilder.Proofs.Condition.Sound
import QueryBuilder.Query
import QueryBuilder.Sql.Predicate

/-!
The conditions at the leaves of a tree of connectives. Apart from signs, the tokens of a sound
condition are its leaves.
-/
namespace QueryBuilder

namespace Condition

/-- Holds of conditions without connectives. -/
def isLeaf : Condition → Bool
  | .logical .. | .negation _ => false
  | _ => true

mutual

/-- The conditions below the connectives, from left to right. -/
def leaves : Condition → List Condition
  | .logical _ children => leavesOf children
  | .negation child => child.leaves
  | c => [c]
termination_by structural c => c

def leavesOf : List Condition → List Condition
  | [] => []
  | c :: cs => c.leaves ++ leavesOf cs
termination_by structural cs => cs

end

mutual

theorem Sound.of_mem_leaves : ∀ {c : Condition}, c.Sound → ∀ d ∈ c.leaves,
    d.Sound ∧ d.isLeaf = true
  | .logical _ children, hs, d, hd => SoundConditions.of_mem_leavesOf hs d hd
  | .negation child, hs, d, hd => Sound.of_mem_leaves (c := child) hs d hd
  | .comparison .., hs, d, hd | .array .., hs, d, hd | .jsonb .., hs, d, hd
  | .raw .., hs, d, hd => by
    cases List.mem_singleton.mp hd
    exact ⟨hs, rfl⟩
  | .stray _, hs, _, _ | .draft .., hs, _, _ => hs.elim
termination_by structural c => c

theorem SoundConditions.of_mem_leavesOf : ∀ {cs : List Condition}, SoundConditions cs →
    ∀ d ∈ leavesOf cs, d.Sound ∧ d.isLeaf = true
  | [], _, d, hd => by cases hd
  | c :: cs, hs, d, hd => by
    rcases List.mem_append.mp hd with hd | hd
    · exact Sound.of_mem_leaves hs.1 d hd
    · exact SoundConditions.of_mem_leavesOf hs.2 d hd
termination_by structural cs => cs

end

end Condition

namespace LogicToken

/-- Holds of tokens that are the same text in every statement. -/
def isSign : LogicToken → Bool
  | .leaf _ | .fault _ => false
  | _ => true

theorem token_of_isSign {t : LogicToken} (h : t.isSign = true) :
    ∃ s, ∀ ctx : Context, ctx.token t = .ok [.text s] := by
  cases t with
  | leaf c | fault e => cases h
  | opening | closing | connective op | negation | truth b | word text => exact ⟨_, fun _ => rfl⟩

/-- A sign, or one of the conditions. -/
def IsAmong (cs : List Condition) (t : LogicToken) : Prop :=
  t.isSign = true ∨ ∃ c ∈ cs, t = .leaf c

theorem IsAmong.mono {cs ds : List Condition} {t : LogicToken} (h : t.IsAmong cs)
    (hs : cs ⊆ ds) : t.IsAmong ds :=
  h.imp id fun ⟨c, hc, ht⟩ => ⟨c, hs hc, ht⟩

end LogicToken

namespace Condition

open LogicToken

theorem grouped_isAmong {wrap : Bool} {ts : List LogicToken} {cs : List Condition}
    (h : ∀ t ∈ ts, t.IsAmong cs) : ∀ t ∈ grouped wrap ts, t.IsAmong cs := by
  cases wrap with
  | false => exact h
  | true =>
    intro t ht
    simp only [grouped, if_true, List.cons_append, List.mem_cons, List.mem_append,
      List.not_mem_nil, or_false] at ht
    rcases ht with rfl | ht | rfl
    · exact Or.inl rfl
    · exact h t ht
    · exact Or.inl rfl

mutual

theorem layout_isAmong : ∀ (c : Condition) (position : Position), c.Sound →
    ∀ t ∈ c.layout position, t.IsAmong c.leaves
  | .logical op [], _, _, t, ht => by
    cases List.mem_singleton.mp ht
    exact Or.inl rfl
  | .logical op [c], position, hs, t, ht => by
    rw [leaves, leavesOf, leavesOf, List.append_nil]
    exact layout_isAmong c position hs.1 t ht
  | .logical op (c :: d :: cs), position, hs, t, ht => by
    rw [layout] at ht
    refine grouped_isAmong (fun u hu => ?_) t ht
    rw [leaves, leavesOf]
    rcases List.mem_append.mp hu with hu | hu
    · exact (layout_isAmong c .nested hs.1 u hu).mono (List.subset_append_left _ _)
    · exact (layoutRest_isAmong op (d :: cs) hs.2 u hu).mono (List.subset_append_right _ _)
  | .negation c, _, hs, t, ht => by
    rcases List.mem_cons.mp ht with rfl | ht
    · exact Or.inl rfl
    · exact @grouped_isAmong true _ _ (layout_isAmong c .negated hs) t ht
  | .comparison .., _, _, _, ht | .array .., _, _, _, ht | .jsonb .., _, _, _, ht
  | .raw .., _, _, _, ht => by
    cases List.mem_singleton.mp ht
    exact Or.inr ⟨_, List.mem_singleton_self _, rfl⟩
  | .stray _, _, hs, _, _ | .draft .., _, hs, _, _ => hs.elim
termination_by structural c => c

theorem layoutRest_isAmong (op : Connective) : ∀ (cs : List Condition), SoundConditions cs →
    ∀ t ∈ layoutRest op cs, t.IsAmong (leavesOf cs)
  | [], _, t, ht => by cases ht
  | c :: cs, hs, t, ht => by
    rw [layoutRest, List.cons_append] at ht
    rw [leavesOf]
    rcases List.mem_cons.mp ht with rfl | ht
    · exact Or.inl rfl
    · rcases List.mem_append.mp ht with ht | ht
      · exact (layout_isAmong c .nested hs.1 t ht).mono (List.subset_append_left _ _)
      · exact (layoutRest_isAmong op cs hs.2 t ht).mono (List.subset_append_right _ _)
termination_by structural cs => cs

end

theorem mem_grouped {wrap : Bool} {t : LogicToken} {ts : List LogicToken} (h : t ∈ ts) :
    t ∈ grouped wrap ts := by
  cases wrap with
  | false => exact h
  | true => simp [grouped, h]

mutual

/-- A leaf that is no draft stands among the tokens. -/
theorem leaf_mem_layout {d : Condition} (hd : ∀ kind fields, d ≠ .draft kind fields) :
    ∀ (c : Condition) (position : Position), d ∈ c.leaves → .leaf d ∈ c.layout position
  | .logical _ [], _, h => by cases h
  | .logical op [c], position, h => by
    rw [leaves, leavesOf, leavesOf, List.append_nil] at h
    exact leaf_mem_layout hd c position h
  | .logical op (c :: e :: cs), position, h => by
    rw [leaves, leavesOf] at h
    rw [layout]
    refine mem_grouped (List.mem_append.mpr ?_)
    exact (List.mem_append.mp h).imp (leaf_mem_layout hd c .nested)
      (leaf_mem_layoutRest hd op (e :: cs))
  | .negation c, _, h =>
    List.mem_cons_of_mem _ (@mem_grouped true _ _ (leaf_mem_layout hd c .negated h))
  | .comparison .., _, h | .array .., _, h | .jsonb .., _, h | .raw .., _, h | .stray _, _, h => by
    cases List.mem_singleton.mp h
    exact List.mem_singleton_self _
  | .draft kind fields, _, h => absurd (List.mem_singleton.mp h) (hd kind fields)
termination_by structural c => c

theorem leaf_mem_layoutRest {d : Condition} (hd : ∀ kind fields, d ≠ .draft kind fields)
    (op : Connective) : ∀ cs : List Condition, d ∈ leavesOf cs → .leaf d ∈ layoutRest op cs
  | [], h => by cases h
  | c :: cs, h => by
    rw [leavesOf] at h
    rw [layoutRest]
    refine List.mem_cons_of_mem _ (List.mem_append.mpr ?_)
    exact (List.mem_append.mp h).imp (leaf_mem_layout hd c .nested) (leaf_mem_layoutRest hd op cs)
termination_by structural cs => cs

end

end Condition

/-- The conditions below the connectives of the filter. -/
def Statement.leaves : Statement → List Condition
  | .select q => q.filter.elim [] Condition.leaves
  | .insert _ => []

end QueryBuilder
