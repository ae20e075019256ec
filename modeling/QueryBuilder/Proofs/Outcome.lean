import Mathlib.Data.List.Forall2
import QueryBuilder.Sql.Context

/-!
Results opened step by step: what a success or an error of a composed computation says about its
parts.
-/
namespace QueryBuilder

variable {ε α β γ : Type}

@[simp] theorem bind_eq_ok_iff {x : Except ε α} {f : α → Except ε β} {b : β} :
    (x >>= f) = .ok b ↔ ∃ a, x = .ok a ∧ f a = .ok b := by
  cases x <;> simp [bind, Except.bind]

theorem bind_eq_error_iff {x : Except ε α} {f : α → Except ε β} {e : ε} :
    (x >>= f) = .error e ↔ x = .error e ∨ ∃ a, x = .ok a ∧ f a = .error e := by
  cases x <;> simp [bind, Except.bind]

@[simp] theorem map_eq_ok_iff {x : Except ε α} {f : α → β} {b : β} :
    x.map f = .ok b ↔ ∃ a, x = .ok a ∧ f a = b := by
  cases x <;> simp [Except.map]

theorem map_eq_error_iff {x : Except ε α} {f : α → β} {e : ε} :
    x.map f = .error e ↔ x = .error e := by
  cases x <;> simp [Except.map]

/-- A success by what is observed of its result. -/
theorem exists_ok_of_toOption {x : Except ε α} {f : α → β} {b : β}
    (h : x.toOption.map f = some b) : ∃ a, x = .ok a ∧ f a = b := by
  cases x with
  | error e => cases h
  | ok a => exact ⟨a, rfl, Option.some.inj h⟩

/-- The results of a list of successes stand in the order of the list. -/
theorem forEach_eq_ok_iff {f : α → Except Error β} {as : List α} {bs : List β} :
    forEach f as = .ok bs ↔ List.Forall₂ (fun a b => f a = .ok b) as bs := by
  induction as generalizing bs with
  | nil => cases bs <;> simp [forEach]
  | cons a as ih =>
    cases bs with
    | nil => simp [forEach]
    | cons b bs => simp [forEach, ih]

theorem length_forEach {f : α → Except Error β} {as : List α} {bs : List β}
    (h : forEach f as = .ok bs) : bs.length = as.length :=
  (forEach_eq_ok_iff.mp h).length_eq.symm

theorem forEach_ok_of_mem {f : α → Except Error β} {as : List α} {bs : List β}
    (h : forEach f as = .ok bs) {a : α} (ha : a ∈ as) : ∃ b, f a = .ok b := by
  have hr := forEach_eq_ok_iff.mp h
  clear h
  induction hr with
  | nil => cases ha
  | cons hb _ ih =>
    rcases List.mem_cons.mp ha with rfl | ha
    · exact ⟨_, hb⟩
    · exact ih ha

/-- A list fails at the first item that does. -/
theorem forEach_eq_error_iff {f : α → Except Error β} {as : List α} {e : Error} :
    forEach f as = .error e ↔ ∃ before a after, as = before ++ a :: after ∧
      (∀ b ∈ before, ∃ c, f b = .ok c) ∧ f a = .error e := by
  induction as with
  | nil => simp [forEach]
  | cons a as ih =>
    rw [forEach, bind_eq_error_iff]
    constructor
    · rintro (ha | ⟨b, hb, h⟩)
      · exact ⟨[], a, as, rfl, by simp, ha⟩
      · rcases bind_eq_error_iff.mp h with h | ⟨_, _, h⟩
        · obtain ⟨before, c, after, rfl, hbefore, hc⟩ := ih.mp h
          exact ⟨a :: before, c, after, rfl, List.forall_mem_cons.mpr ⟨⟨b, hb⟩, hbefore⟩, hc⟩
        · cases h
    · rintro ⟨before, c, after, h, hbefore, hc⟩
      cases before with
      | nil =>
        cases h
        exact Or.inl hc
      | cons d before =>
        cases h
        obtain ⟨⟨b, hb⟩, hbefore⟩ := List.forall_mem_cons.mp hbefore
        have hrest := ih.mpr ⟨before, c, after, rfl, hbefore, hc⟩
        exact Or.inr ⟨b, hb, bind_eq_error_iff.mpr (Or.inl hrest)⟩

/-- What holds of every success of the function holds of the items and their results. -/
theorem forEach_forall₂ {f : α → Except Error β} {r : α → β → Prop} {as : List α} {bs : List β}
    (hf : ∀ a ∈ as, ∀ b, f a = .ok b → r a b) (h : forEach f as = .ok bs) :
    List.Forall₂ r as bs := by
  have hr := forEach_eq_ok_iff.mp h
  clear h
  induction hr with
  | nil => exact .nil
  | cons ha _ ih => exact .cons (hf _ (by simp) _ ha) (ih fun a hm => hf a (by simp [hm]))

theorem forEach_all {f : α → Except Error β} {p : β → Prop} {as : List α} {bs : List β}
    (hf : ∀ a ∈ as, ∀ b, f a = .ok b → p b) (h : forEach f as = .ok bs) : ∀ b ∈ bs, p b := by
  have hr := forEach_forall₂ hf h
  clear h hf
  induction hr with
  | nil => simp
  | cons hb _ ih => simpa [hb] using ih

theorem forEach_eq_map {f : α → Except Error β} {g : α → β} {as : List α} {bs : List β}
    (hf : ∀ a ∈ as, ∀ b, f a = .ok b → b = g a) (h : forEach f as = .ok bs) : bs = as.map g := by
  have hr := forEach_forall₂ hf h
  clear h hf
  induction hr with
  | nil => rfl
  | cons hb _ ih => rw [List.map_cons, hb, ih]

theorem forEach_map {f : α → β} {g : β → Except Error γ} (as : List α) :
    forEach g (as.map f) = forEach (fun a => g (f a)) as := by
  induction as with
  | nil => rfl
  | cons a as ih => rw [List.map_cons, forEach, forEach, ih]

theorem forEach_congr {f g : α → Except Error β} {as : List α}
    (h : ∀ a ∈ as, f a = g a) : forEach f as = forEach g as := by
  induction as with
  | nil => rfl
  | cons a as ih =>
    rw [forEach, forEach, h a (by simp), ih fun b hb => h b (List.mem_cons_of_mem _ hb)]

theorem forEach_append {f : α → Except Error β} (as cs : List α) :
    forEach f (as ++ cs) = (forEach f as >>= fun bs => (forEach f cs).map (bs ++ ·)) := by
  induction as with
  | nil => cases h : forEach f cs <;> simp [forEach, h, bind, Except.bind, Except.map]
  | cons a as ih =>
    cases ha : f a with
    | error e => simp [forEach, ha, bind, Except.bind]
    | ok b =>
      cases hs : forEach f as with
      | error e => simp [forEach, ih, ha, hs, bind, Except.bind]
      | ok bs =>
        cases hc : forEach f cs <;>
          simp [forEach, ih, ha, hs, hc, bind, Except.bind, Except.map]

namespace Reading

theorem map_eq_ok {r : Reading α} {f : α → β} {b : β} :
    r.map f = ok b ↔ ∃ a, r = ok a ∧ f a = b := by
  cases r <;> simp [map]

theorem functor_map_eq_ok {r : Reading α} {f : α → β} {b : β} :
    (f <$> r) = ok b ↔ ∃ a, r = ok a ∧ f a = b :=
  map_eq_ok

theorem seq_eq_ok {f : Reading (α → β)} {r : Reading α} {b : β} :
    seq f r = ok b ↔ ∃ g a, f = ok g ∧ r = ok a ∧ g a = b := by
  cases f <;> cases r <;> simp [seq]

theorem apply_eq_ok {f : Reading (α → β)} {r : Reading α} {b : β} :
    (f <*> r) = ok b ↔ ∃ g a, f = ok g ∧ r = ok a ∧ g a = b :=
  seq_eq_ok

@[simp] theorem below_eq_ok {r : Reading α} {step : Step} {a : α} :
    r.below step = ok a ↔ r = ok a := by
  cases r <;> simp [below]

theorem check_eq_ok {r : Reading α} {f : α → Except Error β} {b : β} :
    r.check f = ok b ↔ ∃ a, r = ok a ∧ f a = .ok b := by
  cases r with
  | ok a => cases h : f a <;> simp [check, h]
  | invalid issues => simp [check]
  | failed e => simp [check]

@[simp] theorem toExcept_eq_ok {r : Reading α} {a : α} : r.toExcept = .ok a ↔ r = ok a := by
  cases r <;> simp [toExcept]

@[simp] theorem issue_ne_ok {kind : IssueKind} {a : α} : issue kind ≠ ok a := by
  simp [issue]

/-- Every item of a list that could be read was read. -/
theorem items_eq_ok_iff {read : β → Reading α} {start : Nat} {vs : List β} {as : List α} :
    items read start vs = ok as ↔ List.Forall₂ (fun v a => read v = ok a) vs as := by
  induction vs generalizing start as with
  | nil => cases as <;> simp [items]
  | cons v vs ih =>
    cases as with
    | nil => simp [items, seq_eq_ok, map_eq_ok]
    | cons a as => simp [items, seq_eq_ok, map_eq_ok, ih]

end Reading

end QueryBuilder
