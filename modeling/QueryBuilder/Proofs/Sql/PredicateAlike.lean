import QueryBuilder.Proofs.Sql.LeafAlike

/-!
Alike conditions have one structure, and so are written alike, token by token.
-/
namespace QueryBuilder

variable {ctx : Context}

/-- Tokens that differ at most in an operand. -/
inductive LogicToken.Alike : LogicToken → LogicToken → Prop
  | leaf {c d : Condition} (h : c.Alike d) : (LogicToken.leaf c).Alike (.leaf d)
  | same (t : LogicToken) : t.Alike t

theorem Condition.Alike.isLogical {c d : Condition} (h : c.Alike d) :
    c.isLogical = d.isLogical := by
  cases h <;> rfl

theorem any_isLogical_alike {cs ds : List Condition} (h : AlikeAll cs ds) :
    cs.any Condition.isLogical = ds.any Condition.isLogical ∧ cs.length = ds.length := by
  induction cs generalizing ds with
  | nil =>
    cases h
    exact ⟨rfl, rfl⟩
  | cons c cs ih =>
    cases h with
    | cons hc hs =>
      obtain ⟨hany, hlength⟩ := ih hs
      exact ⟨by rw [List.any_cons, List.any_cons, hc.isLogical, hany], by simp [hlength]⟩

theorem grouped_alike {wrap : Bool} {ts us : List LogicToken}
    (h : List.Forall₂ LogicToken.Alike ts us) :
    List.Forall₂ LogicToken.Alike (grouped wrap ts) (grouped wrap us) := by
  cases wrap with
  | false => exact h
  | true => exact .cons (.same _) (List.rel_append h (.cons (.same _) .nil))

theorem tokens_same (ts : List LogicToken) : List.Forall₂ LogicToken.Alike ts ts :=
  List.forall₂_same.mpr fun t _ => .same t

/-- Parts of one place with tokens that differ at most in operands. -/
structure LogicPart.Alike (p q : LogicPart) : Prop where
  isLogical : p.isLogical = q.isLogical
  tokens : ∀ position, List.Forall₂ LogicToken.Alike (p.tokens position) (q.tokens position)

theorem parts_any_alike {ps qs : List LogicPart} (h : List.Forall₂ LogicPart.Alike ps qs) :
    ps.any LogicPart.isLogical = qs.any LogicPart.isLogical := by
  induction h with
  | nil => rfl
  | cons hp _ ih => rw [List.any_cons, List.any_cons, hp.isLogical, ih]

namespace DraftField

theorem joined_alike {word : String} {ps qs : List LogicPart}
    (h : List.Forall₂ LogicPart.Alike ps qs) :
    List.Forall₂ LogicToken.Alike (joined word ps) (joined word qs) := by
  induction h with
  | nil => exact .nil
  | cons hp hr ih =>
    cases hr with
    | nil => exact hp.tokens .nested
    | cons => exact List.rel_append (hp.tokens .nested) (.cons (.same _) ih)

theorem find?_draftFields (fs : List (String × Value)) (n : String) :
    find? (Condition.draftFields fs) n = (fs.lookup n).map fun v =>
      ⟨n, Condition.valuePart v, Condition.valueParts v, Condition.firstPart v⟩ := by
  induction fs with
  | nil => rfl
  | cons f fs ih =>
    obtain ⟨name, v⟩ := f
    rw [Condition.draftFields, find?, List.find?_cons, List.lookup_cons]
    by_cases h : name = n
    · subst h
      simp only [beq_self_eq_true, Option.map_some]
    · have hlookup : (n == name) = false := beq_eq_false_iff_ne.mpr fun he => h he.symm
      simp only [beq_eq_false_iff_ne.mpr h, hlookup]
      exact ih

theorem word_alike {fs gs : List (String × Value)}
    (h : fs.lookup "operator" = gs.lookup "operator") :
    word (Condition.draftFields fs) = word (Condition.draftFields gs) := by
  rw [word, word, find?_draftFields, find?_draftFields, h]

theorem row_parts {v : Value} {vs : List Value} (h : v.row? = some vs) :
    Condition.valueParts v = some (Condition.itemParts vs) ∧
      Condition.firstPart v = LogicPart.first (Condition.itemParts vs) := by
  unfold Value.row? at h
  split at h
  case h_1 | h_2 =>
    cases h
    exact ⟨rfl, rfl⟩
  case h_3 => cases h

theorem group_alike {fs gs : List (String × Value)} {v w : Value} {vs ws : List Value}
    (ho : fs.lookup "operator" = gs.lookup "operator") (hv : fs.lookup "children" = some v)
    (hw : gs.lookup "children" = some w) (hvs : v.row? = some vs) (hws : w.row? = some ws)
    (h : List.Forall₂ LogicPart.Alike (Condition.itemParts vs) (Condition.itemParts ws))
    (position : Position) :
    List.Forall₂ LogicToken.Alike (group position (Condition.draftFields fs))
      (group position (Condition.draftFields gs)) := by
  obtain ⟨hps, hp⟩ := row_parts hvs
  obtain ⟨hqs, hq⟩ := row_parts hws
  unfold group
  rw [find?_draftFields, find?_draftFields, hv, hw, word_alike ho]
  simp only [Option.map_some, hps, hqs, hp, hq]
  generalize Condition.itemParts vs = ps at h
  generalize Condition.itemParts ws = qs at h
  have hany := parts_any_alike h
  have hlength := h.length_eq
  cases h with
  | nil => exact tokens_same _
  | cons hp hr =>
    cases hr with
    | nil => exact hp.tokens position
    | cons hp' hr =>
      simp only
      rw [hany, hlength]
      cases word (Condition.draftFields gs) with
      | error e => exact tokens_same _
      | ok text => exact grouped_alike (joined_alike (.cons hp (.cons hp' hr)))

theorem negation_alike {fs gs : List (String × Value)} {c d : Condition}
    (hc : fs.lookup "child" = some (.condition c)) (hd : gs.lookup "child" = some (.condition d))
    (h : List.Forall₂ LogicToken.Alike (c.layout .negated) (d.layout .negated)) :
    List.Forall₂ LogicToken.Alike (negation (Condition.draftFields fs))
      (negation (Condition.draftFields gs)) := by
  unfold negation
  rw [find?_draftFields, find?_draftFields, hc, hd]
  exact .cons (.same _) (@grouped_alike true _ _ h)

end DraftField

mutual

theorem layout_alike : ∀ {c d : Condition}, c.Alike d → ∀ position : Position,
    List.Forall₂ LogicToken.Alike (c.layout position) (d.layout position)
  | _, _, .comparison h, _ => .cons (.leaf (.comparison h)) .nil
  | _, _, .array h, _ => .cons (.leaf (.array h)) .nil
  | _, _, .jsonb, _ => .cons (.leaf .jsonb) .nil
  | _, _, .raw h, _ => .cons (.leaf (.raw h)) .nil
  | _, _, .comparisonDraft h, _ => .cons (.leaf (.comparisonDraft h)) .nil
  | _, _, .arrayDraft h, _ => .cons (.leaf (.arrayDraft h)) .nil
  | _, _, .jsonbDraft h, _ => .cons (.leaf (.jsonbDraft h)) .nil
  | _, _, .rawDraft h, _ => .cons (.leaf (.rawDraft h)) .nil
  | _, _, .same c, position => tokens_same (c.layout position)
  | .negation c, .negation d, .negation h, _ => by
    have hg : List.Forall₂ LogicToken.Alike (grouped true (c.layout .negated))
        (grouped true (d.layout .negated)) := grouped_alike (layout_alike h .negated)
    exact .cons (.same _) hg
  | _, _, .negationDraft hc hd h, _ => DraftField.negation_alike hc hd (layout_alike h .negated)
  | _, _, .logicalDraft ho hv hw hvs hws h, position =>
    DraftField.group_alike ho hv hw hvs hws (itemParts_alike h) position
  | _, _, .logical .nil, _ => tokens_same _
  | _, _, .logical (.cons h hs), position => by
    have hrest := layoutRest_alike hs
    obtain ⟨hany, hlength⟩ := any_isLogical_alike (.cons h hs)
    cases hs with
    | nil => exact layout_alike h position
    | cons =>
      simp only [List.length_cons, Nat.add_right_cancel_iff] at hlength
      rw [Condition.layout, Condition.layout, hany, hlength]
      exact grouped_alike (List.rel_append (layout_alike h .nested) (hrest _))

theorem layoutRest_alike : ∀ {cs ds : List Condition}, AlikeAll cs ds → ∀ op : Connective,
    List.Forall₂ LogicToken.Alike (Condition.layoutRest op cs) (Condition.layoutRest op ds)
  | _, _, .nil, _ => .nil
  | _, _, .cons h hs, op =>
    .cons (.same _) (List.rel_append (layout_alike h .nested) (layoutRest_alike hs op))

theorem itemParts_alike : ∀ {vs ws : List Value}, AlikeParts vs ws →
    List.Forall₂ LogicPart.Alike (Condition.itemParts vs) (Condition.itemParts ws)
  | _, _, .nil => .nil
  | _, _, .condition h hs => .cons ⟨h.isLogical, layout_alike h⟩ (itemParts_alike hs)
  | _, _, .same hs => .cons ⟨rfl, fun _ => tokens_same _⟩ (itemParts_alike hs)

end

namespace Context

theorem token_alike {t u : LogicToken} (h : t.Alike u) :
    BothOk (List.Forall₂ Piece.Alike) (ctx.token t) (ctx.token u) := by
  cases h with
  | leaf h => exact leaf_alike h
  | same => exact .same pieces_same _

/-- Alike conditions are written alike. -/
theorem predicate_alike {c d : Condition} (h : c.Alike d) :
    BothOk (List.Forall₂ Piece.Alike) (ctx.predicate c) (ctx.predicate d) := by
  exact (BothOk.forEach (layout_alike h .root) fun t u => token_alike).map fun xss yss hs =>
    List.rel_flatten hs

end Context

end QueryBuilder
