import QueryBuilder.Proofs.Condition.Sound

/-!
The formula that a condition stands for: its connectives and negations, with everything else as
atoms. Groups of one part and of none have no text of their own, so a formula has none.
-/
namespace QueryBuilder

/-- What truth values have in common under a connective. -/
def Connective.fold : Connective → List Bool → Bool
  | and, bs => bs.all id
  | or, bs => bs.any id

theorem Connective.fold_nil (op : Connective) : op.fold [] = op.identity := by
  cases op <;> rfl

theorem Connective.fold_singleton (op : Connective) (b : Bool) : op.fold [b] = b := by
  cases op <;> simp [fold]

/-- Formulas over conditions without connectives. -/
inductive Formula where
  | truth (b : Bool)
  | atom (c : Condition)
  | negation (f : Formula)
  | group (op : Connective) (parts : List Formula)

mutual

/-- The truth value of a formula, given those of its atoms. -/
def Formula.holds (σ : Condition → Bool) : Formula → Bool
  | .truth b => b
  | .atom c => σ c
  | .negation f => !f.holds σ
  | .group op parts => op.fold (formulasHold σ parts)
termination_by structural f => f

def formulasHold (σ : Condition → Bool) : List Formula → List Bool
  | [] => []
  | f :: fs => f.holds σ :: formulasHold σ fs
termination_by structural fs => fs

end

mutual

/-- The truth value of a condition, given those of the conditions without connectives in it. -/
def Condition.holds (σ : Condition → Bool) : Condition → Bool
  | .logical op children => op.fold (conditionsHold σ children)
  | .negation child => !child.holds σ
  | c => σ c
termination_by structural c => c

def conditionsHold (σ : Condition → Bool) : List Condition → List Bool
  | [] => []
  | c :: cs => c.holds σ :: conditionsHold σ cs
termination_by structural cs => cs

end

mutual

/-- Holds of trees of connectives and negations, of any number of parts, over other conditions. A
group put together without checks has a text where its connective belongs, and is none. -/
def Condition.IsTree : Condition → Prop
  | .logical _ children => AreTrees children
  | .negation child => child.IsTree
  | .draft .logical _ | .draft .negation _ => False
  | _ => True
termination_by structural c => c

def AreTrees : List Condition → Prop
  | [] => True
  | c :: cs => c.IsTree ∧ AreTrees cs
termination_by structural cs => cs

end

mutual

/-- The tree with each group of one replaced by its part, and each empty group by a constant. -/
def Condition.formula : Condition → Formula
  | .logical op [] => .truth op.identity
  | .logical _ [c] => c.formula
  | .logical op (c :: d :: cs) => .group op (c.formula :: formulas (d :: cs))
  | .negation c => .negation c.formula
  | c => .atom c
termination_by structural c => c

def formulas : List Condition → List Formula
  | [] => []
  | c :: cs => c.formula :: formulas cs
termination_by structural cs => cs

end

mutual

/-- A tree and its formula have one truth value. -/
theorem Condition.holds_formula (σ : Condition → Bool) : ∀ c : Condition,
    c.formula.holds σ = c.holds σ
  | .logical op [] => op.fold_nil.symm
  | .logical op [c] => (c.holds_formula σ).trans (op.fold_singleton (c.holds σ)).symm
  | .logical op (c :: d :: cs) => by
    have hc := c.holds_formula σ
    have hd := formulasHold_formulas σ (d :: cs)
    rw [Condition.formula, Formula.holds, formulasHold, hc, hd]
    rfl
  | .negation c => congrArg (!·) (c.holds_formula σ)
  | .comparison .. => rfl
  | .array .. => rfl
  | .jsonb .. => rfl
  | .raw .. => rfl
  | .stray _ => rfl
  | .draft .. => rfl

theorem formulasHold_formulas (σ : Condition → Bool) : ∀ cs : List Condition,
    formulasHold σ (formulas cs) = conditionsHold σ cs
  | [] => rfl
  | c :: cs => by
    rw [formulas, formulasHold, conditionsHold, c.holds_formula σ, formulasHold_formulas σ cs]

end

end QueryBuilder
