import QueryBuilder.Proofs.Sql.EmittedNames
import QueryBuilder.Proofs.Sql.Rendering
import QueryBuilder.Proofs.Sql.TablesInScope

/-!
The qualifiers of a SELECT as the database compares them: a quoted name as it is, any other name in
lower case. Qualifiers are told apart as they are written, so two of them can be one to the database
only where neither is quoted and they differ in the case of letters.
-/
namespace QueryBuilder

open Text

/-- The name that an emitted identifier stands for. -/
def Text.seenName (identifier : String) : String :=
  match lexemes identifier.toList with
  | some [.quoted '"' content] => String.ofList content
  | _ => identifier.toLower

theorem Text.toList_toLower (s : String) : s.toLower.toList = s.toList.map Char.toLower :=
  String.toList_map

namespace Identifier

variable {quoteReserved : Bool} {m n : String}

theorem toNat_of_isPart {c : Char} (h : isPart c = true) : c.toNat < 128 := by
  rcases Bool.or_eq_true_iff.mp h with hs | hd
  · rcases Bool.or_eq_true_iff.mp hs with ha | hu
    · rcases Bool.or_eq_true_iff.mp ha with ha | ha
      · have := toNat_of_isUpper ha
        omega
      · have := toNat_of_isLower ha
        omega
    · cases beq_iff_eq.mp hu
      decide
  · have hle : c.toNat ≤ 57 := (Char.isDigit_iff_toNat.mp hd).2
    omega

theorem lowerFrom_ascii {before cs : List Char} (h : ∀ c ∈ cs, c.toNat < 128) :
    lowerFrom before cs = cs.map Char.toLower := by
  induction cs generalizing before with
  | nil => rfl
  | cons c cs ih =>
    have hc := h c (by simp)
    have hsigma : c ≠ '\u03a3' := by
      rintro rfl
      exact absurd hc (by decide)
    have hdot : c ≠ '\u0130' := by
      rintro rfl
      exact absurd hc (by decide)
    rw [lowerFrom, ih fun d hd => h d (List.mem_cons_of_mem c hd)]
    simp [hsigma, hdot, lowerChar, hc]

theorem lower_eq (h : isValid n = true) : Text.lower n = n.toLower := by
  apply String.toList_injective
  rw [Text.lower, String.toList_ofList, toList_toLower]
  exact lowerFrom_ascii fun _ hc => toNat_of_isPart (isPart_of_isValid h hc)

theorem toLower_toLower (h : isValid n = true) : n.toLower.toLower = n.toLower := by
  have ascii : ∀ k < 128, (Char.ofNat k).toLower.toLower = (Char.ofNat k).toLower := by decide
  apply String.toList_injective
  simp only [toList_toLower, List.map_map]
  refine List.map_congr_left fun c hc => ?_
  rw [← Char.ofNat_toNat c]
  exact ascii c.toNat (toNat_of_isPart (isPart_of_isValid h hc))

theorem isReserved_eq (h : isValid n = true) : isReserved n = reservedWords.contains n.toLower := by
  rw [isReserved, lower_eq h]

theorem seenName_identifier (h : isValid n = true) :
    seenName ((Dialect.postgres quoteReserved).identifier n) =
      if isQuoted quoteReserved n then n else n.toLower := by
  unfold seenName
  rw [lexemes_identifier h]
  split
  next content hl =>
    obtain ⟨hq, _, rfl⟩ := lexemes_eq_quoted_iff.mp (Option.some.inj hl)
    rw [if_pos hq, String.ofList_toList]
  next hl =>
    have hq : isQuoted quoteReserved n = false := by
      by_contra hq
      exact hl n.toList (by rw [lexemes, if_pos (by simpa using hq)])
    rw [identifier_eq h, hq]
    rfl

/-- Two names are one to the database if they are the same, or if neither is quoted and they
differ in the case of letters. -/
theorem seenName_eq_iff (hm : isValid m = true) (hn : isValid n = true) :
    seenName ((Dialect.postgres quoteReserved).identifier m) =
        seenName ((Dialect.postgres quoteReserved).identifier n) ↔
      m = n ∨ m.toLower = n.toLower ∧ isQuoted quoteReserved m = false ∧
        isQuoted quoteReserved n = false := by
  -- whether a name is reserved does not depend on its case
  have mixed : ∀ {a b : String}, isValid a = true → isValid b = true → a = b.toLower →
      isQuoted quoteReserved a = isQuoted quoteReserved b := by
    intro a b ha hb hab
    have hlower : a.toLower = b.toLower := by rw [hab, toLower_toLower hb]
    rw [isQuoted, isQuoted, isReserved_eq ha, isReserved_eq hb, hlower]
  rw [seenName_identifier hm, seenName_identifier hn]
  cases hqm : isQuoted quoteReserved m with
  | true =>
    cases hqn : isQuoted quoteReserved n with
    | true => simp
    | false =>
      have hne : m ≠ n := by
        rintro rfl
        cases hqm.symm.trans hqn
      have hlower : m ≠ n.toLower := fun h => by
        cases hqm.symm.trans ((mixed hm hn h).trans hqn)
      simp [hne, hlower]
  | false =>
    cases hqn : isQuoted quoteReserved n with
    | true =>
      have hne : m ≠ n := by
        rintro rfl
        cases hqm.symm.trans hqn
      have hlower : m.toLower ≠ n := fun h => by
        cases hqn.symm.trans ((mixed hn hm h.symm).trans hqm)
      simp [hne, hlower]
    | false =>
      simp only [Bool.false_eq_true, if_false, and_self, and_true]
      exact ⟨Or.inr, fun h => h.elim (congrArg String.toLower) id⟩

end Identifier

namespace TableRef

variable {quoteReserved : Bool} {t u : TableRef}

/-- Holds of tables whose qualifiers stand without quotes and differ in the case of letters. -/
structure CaseVariants (quoteReserved : Bool) (t u : TableRef) : Prop where
  differ : t.qualifier ≠ u.qualifier
  letters : t.qualifier.toLower = u.qualifier.toLower
  left : t.emitted quoteReserved = t.qualifier
  right : u.emitted quoteReserved = u.qualifier

theorem emitted_eq_qualifier_iff (h : t.WellNamed) :
    t.emitted quoteReserved = t.qualifier ↔
      Identifier.isQuoted quoteReserved t.qualifier = false := by
  rw [emitted, Identifier.identifier_eq h.qualifier]
  cases hq : Identifier.isQuoted quoteReserved t.qualifier with
  | false => simp
  | true =>
    have hmark : '"' ∈ (Dialect.enclose '"' t.qualifier).toList := by simp [Dialect.enclose]
    have hname : '"' ∉ t.qualifier.toList := fun hm =>
      absurd (Identifier.isPart_of_isValid h.qualifier hm) (by decide)
    simp only [if_true, reduceCtorEq, iff_false]
    intro he
    exact hname (he ▸ hmark)

theorem seenName_emitted_iff (ht : t.WellNamed) (hu : u.WellNamed) :
    seenName (t.emitted quoteReserved) = seenName (u.emitted quoteReserved) ↔
      t.qualifier = u.qualifier ∨ t.CaseVariants quoteReserved u := by
  have hleft := @emitted_eq_qualifier_iff quoteReserved t ht
  have hright := @emitted_eq_qualifier_iff quoteReserved u hu
  rw [emitted, emitted, Identifier.seenName_eq_iff ht.qualifier hu.qualifier, ← hleft, ← hright]
  constructor
  · rintro (he | ⟨hlower, hl, hr⟩)
    · exact Or.inl he
    · by_cases he : t.qualifier = u.qualifier
      · exact Or.inl he
      · exact Or.inr ⟨he, hlower, hl, hr⟩
  · rintro (he | h)
    · exact Or.inl he
    · exact Or.inr ⟨h.letters, h.left, h.right⟩

theorem qualifier_eq_of_emitted (ht : t.WellNamed) (hu : u.WellNamed)
    (h : t.emitted quoteReserved = u.emitted quoteReserved) : t.qualifier = u.qualifier := by
  rcases (seenName_emitted_iff ht hu).mp (congrArg seenName h) with he | hv
  · exact he
  · exact hv.left.symm.trans (h.trans hv.right)

end TableRef

/-- A join names its table behind its kind, and then the two columns. -/
def Join.IsText (quoteReserved : Bool) (j : Join) (text : String) : Prop :=
  ∃ left right, text =
    j.kind.text ++ " JOIN " ++ j.table.written quoteReserved ++ " ON " ++ left ++ " = " ++ right

namespace Context

variable {ctx : Context} {quoteReserved : Bool}

theorem joinClause_isText (hd : ctx.dialect = Dialect.postgres quoteReserved) {j : Join}
    {text : String} (h : ctx.joinClause j = .ok text) : j.IsText quoteReserved text := by
  obtain ⟨left, _, h⟩ := bind_eq_ok_iff.mp h
  obtain ⟨right, _, h⟩ := bind_eq_ok_iff.mp h
  cases h
  rw [tableText_eq_written hd]
  exact ⟨left, right, by simp [toString]⟩

end Context

/-- The text of a SELECT: the list, the tables and what is behind them. -/
theorem Client.compile_select {q : SelectQuery} {settings : Settings} {schema : Option Schema}
    {c : Compiled} (h : (Client.ofSettings settings schema).compile (.select q) = .ok c) :
    ∃ ctx select joins more, (Client.ofSettings settings schema).context q.tables = .ok ctx ∧
      forEach ctx.joinClause q.joins = .ok joins ∧
      c.sql = " ".intercalate
        (select :: ("FROM " ++ q.table.written settings.quoteReserved) :: joins ++ more) := by
  obtain ⟨ps, hps, rfl⟩ := map_eq_ok_iff.mp h
  obtain ⟨pss, hpss, rfl⟩ := map_eq_ok_iff.mp hps
  obtain ⟨ctx, hctx, hpss⟩ := bind_eq_ok_iff.mp hpss
  have hd : ctx.dialect = Dialect.postgres settings.quoteReserved := (Client.context_eq_ok hctx).1
  obtain ⟨select, joins, filter, order, _, hjoins, _, _, rfl⟩ := Context.selectClauses_eq_ok hpss
  rw [Context.tableText_eq_written hd, List.append_assoc, List.append_assoc, List.append_assoc]
  have hsql : ∀ more, Piece.renderAll (Dialect.postgres settings.quoteReserved) 0
      (Piece.separated " " ((select :: ("FROM " ++ q.table.written settings.quoteReserved) ::
        joins).map (fun s => [.text s]) ++ more)) = _ := fun more =>
    Piece.renderAll_separated (Dialect.postgres settings.quoteReserved) " " 0 _
  simp only [Piece.renderEach_append, Piece.renderEach_texts] at hsql
  exact ⟨ctx, select, joins, _, hctx, hjoins, hsql _⟩

namespace SelectBuilder

/-- The text names the table after FROM and the joined ones, in their order. -/
def NamesTables (b : SelectBuilder) (quoteReserved : Bool) (sql : String) : Prop :=
  ∃ select joins more, List.Forall₂ (Join.IsText quoteReserved) b.query.joins joins ∧
    sql = " ".intercalate
      (select :: ("FROM " ++ b.query.table.written quoteReserved) :: joins ++ more)

theorem compile_namesTables {b : SelectBuilder} {settings : Settings} {schema : Option Schema}
    {c : Compiled}
    (h : (Client.ofSettings settings schema).compile (.select b.query) = .ok c) :
    b.NamesTables settings.quoteReserved c.sql := by
  obtain ⟨ctx, select, joins, more, hctx, hjoins, hsql⟩ := Client.compile_select h
  have hd : ctx.dialect = Dialect.postgres settings.quoteReserved := (Client.context_eq_ok hctx).1
  exact ⟨select, joins, more, forEach_forall₂ (fun _ _ _ => Context.joinClause_isText hd) hjoins,
    hsql⟩

theorem joined_wellNamed (b : SelectBuilder) (calls : List SelectCall) :
    ∀ t ∈ b.joined calls, t.WellNamed := by
  induction calls generalizing b with
  | nil => simp [joined]
  | cons call calls ih =>
    rw [joined]
    cases h : b.apply call with
    | error e => exact ih b
    | ok next =>
      refine List.forall_mem_append.mpr ⟨?_, ih next⟩
      intro t ht
      cases call with
      | join kind table left right =>
        cases hp : TableRef.parse table with
        | error e => simp [SelectCall.joined?, hp, Except.toOption] at ht
        | ok u =>
          have htu : t = u := by simpa [SelectCall.joined?, hp, Except.toOption] using ht
          exact htu ▸ TableRef.parse_wellNamed hp
      | _ => cases ht

theorem run_wellNamed {table : Value} {b : SelectBuilder} (h : start table = .ok b)
    (calls : List SelectCall) : ∀ t ∈ (b.run calls).query.tables, t.WellNamed := by
  obtain ⟨_, htables⟩ := run_inStep (start_inStep h) calls
  obtain ⟨u, hu, rfl⟩ := start_eq_ok h
  rw [htables]
  exact List.forall_mem_cons.mpr ⟨TableRef.parse_wellNamed hu, joined_wellNamed _ calls⟩

/-- The qualifiers of the tables as the database sees them in the text. -/
structure SeenTables (b : SelectBuilder) (quoteReserved : Bool) (sql : String) : Prop where
  text : b.NamesTables quoteReserved sql
  emitted : (b.query.tables.map (TableRef.emitted quoteReserved)).Nodup
  seen : b.query.tables.Pairwise fun t u =>
    seenName (t.emitted quoteReserved) = seenName (u.emitted quoteReserved) ↔
      t.CaseVariants quoteReserved u
  joins : ∀ kind table left right t, TableRef.parse table = .ok t →
    ((∃ q existing added, b.apply (.join kind table left right) =
        .error (.duplicateQualifier q existing added)) ↔
      ∃ u ∈ b.query.tables,
        seenName (t.emitted quoteReserved) = seenName (u.emitted quoteReserved) ∧
          ¬ t.CaseVariants quoteReserved u)

/-- After any calls no two tables have one qualifier as it is written, and two qualifiers are one to
the database only if neither is quoted and they differ in the case of letters. A join that would
name a table twice is refused, unless the names differ so. -/
theorem run_seenTables {table : Value} {b : SelectBuilder} (h : start table = .ok b)
    (calls : List SelectCall) {settings : Settings} {schema : Option Schema} {c : Compiled}
    (hc : (Client.ofSettings settings schema).compile (.select (b.run calls).query) = .ok c) :
    (b.run calls).SeenTables settings.quoteReserved c.sql := by
  have hnamed := run_wellNamed h calls
  have hstep := (run_inStep (start_inStep h) calls).1
  have hdistinct : (b.run calls).query.tables.Pairwise fun t u => t.qualifier ≠ u.qualifier :=
    List.pairwise_map.mp hstep.qualifiers
  refine ⟨compile_namesTables hc, List.pairwise_map.mpr ?_, ?_, ?_⟩
  · refine hdistinct.imp_of_mem fun ht hu hne he => hne ?_
    exact TableRef.qualifier_eq_of_emitted (hnamed _ ht) (hnamed _ hu) he
  · refine hdistinct.imp_of_mem fun ht hu hne => ?_
    rw [TableRef.seenName_emitted_iff (hnamed _ ht) (hnamed _ hu)]
    exact or_iff_right hne
  · intro kind table left right t ht
    have htn := TableRef.parse_wellNamed ht
    rw [hstep.apply_join_duplicate_iff ht kind left right]
    constructor
    · intro hm
      obtain ⟨u, hu, he⟩ := List.mem_map.mp hm
      have hseen := (@TableRef.seenName_emitted_iff settings.quoteReserved _ _ htn
        (hnamed u hu)).mpr (Or.inl he.symm)
      exact ⟨u, hu, hseen, fun hv => hv.differ he.symm⟩
    · rintro ⟨u, hu, hseen, hv⟩
      have he := ((TableRef.seenName_emitted_iff htn (hnamed u hu)).mp hseen).resolve_right hv
      exact List.mem_map.mpr ⟨u, hu, he.symm⟩

def variantJoins : List SelectCall :=
  [.join .inner (.str "Users") (.str "id") (.str "owner"),
    .join .inner (.str "users") (.str "id") (.str "owner"),
    .join .left (.str "order") (.str "id") (.str "owner"),
    .join .left (.str "Order") (.str "id") (.str "owner")]

def variantQuery (joins : List Join) : SelectQuery :=
  { table := ⟨"users", none⟩, joins }

def variant (joins : List Join) : SelectBuilder :=
  ⟨variantQuery joins, { tables := (variantQuery joins).tables }⟩

def joinedUsers : Join :=
  ⟨.inner, ⟨"Users", none⟩, "id", "owner"⟩

def joinedOrders (name : String) : Join :=
  ⟨.left, ⟨name, none⟩, "id", "owner"⟩

theorem start_variant : start (.str "users") = .ok (variant []) :=
  start_bare (by decide) (by decide) (by decide)

theorem apply_variantJoin : (variant []).apply
    (.join .inner (.str "Users") (.str "id") (.str "owner")) = .ok (variant [joinedUsers]) := by
  rw [apply, TableRef.parse_bare (by decide) (by decide) (by decide),
    plainColumn_bare (by decide) (by decide) (by decide),
    plainColumn_bare (by decide) (by decide) (by decide)]
  rfl

/-- Two tables that are one to the database, and a join that is not refused. -/
theorem seenName_repeated_variantQuery : ∃ b next c, start (.str "users") = .ok b ∧
    b.apply (.join .inner (.str "Users") (.str "id") (.str "owner")) = .ok next ∧
    (Client.ofSettings {} none).compile (.select next.query) = .ok c ∧
    c.sql = "SELECT * FROM users INNER JOIN Users ON users.id = Users.owner" ∧
    ¬ (next.query.tables.map fun t => seenName (t.emitted true)).Nodup := by
  have husers : (TableRef.mk "users" none).WellNamed := ⟨by decide, by simp⟩
  have hUsers : (TableRef.mk "Users" none).WellNamed := ⟨by decide, by simp⟩
  have hletters : "users".toLower = "Users".toLower := by
    apply String.toList_injective
    rw [toList_toLower, toList_toLower]
    decide
  have hvariants : (TableRef.mk "users" none).CaseVariants true ⟨"Users", none⟩ :=
    ⟨by decide, hletters, by decide +kernel, by decide +kernel⟩
  have hsame := (TableRef.seenName_emitted_iff husers hUsers).mpr (Or.inr hvariants)
  refine ⟨_, _, _, start_variant, apply_variantJoin, rfl, by decide +kernel, ?_⟩
  intro hnodup
  have hpair := List.pairwise_cons.mp (List.pairwise_map.mp hnodup)
  exact hpair.1 ⟨"Users", none⟩ (List.mem_singleton.mpr rfl) hsame

theorem run_seenTables_variantJoins : ∃ b c, start (.str "users") = .ok b ∧
    (b.run variantJoins).query.tables.map TableRef.qualifier =
      ["users", "Users", "order", "Order"] ∧
    (Client.ofSettings {} none).compile (.select (b.run variantJoins).query) = .ok c ∧
    (b.run variantJoins).SeenTables true c.sql := by
  have htaken : (variant [joinedUsers]).apply
      (.join .inner (.str "users") (.str "id") (.str "owner")) =
      .error (.duplicateQualifier "users" "users" "users") := by
    rw [apply, TableRef.parse_bare (by decide) (by decide) (by decide)]
    rfl
  have horder : (variant [joinedUsers]).apply
      (.join .left (.str "order") (.str "id") (.str "owner")) =
      .ok (variant [joinedUsers, joinedOrders "order"]) := by
    rw [apply, TableRef.parse_bare (by decide) (by decide) (by decide),
      plainColumn_bare (by decide) (by decide) (by decide),
      plainColumn_bare (by decide) (by decide) (by decide)]
    rfl
  have hOrder : (variant [joinedUsers, joinedOrders "order"]).apply
      (.join .left (.str "Order") (.str "id") (.str "owner")) =
      .ok (variant [joinedUsers, joinedOrders "order", joinedOrders "Order"]) := by
    rw [apply, TableRef.parse_bare (by decide) (by decide) (by decide),
      plainColumn_bare (by decide) (by decide) (by decide),
      plainColumn_bare (by decide) (by decide) (by decide)]
    rfl
  have hrun : (variant []).run variantJoins =
      variant [joinedUsers, joinedOrders "order", joinedOrders "Order"] := by
    simp only [variantJoins, run, apply_variantJoin, htaken, horder, hOrder]
  have hc : ∃ c, (Client.ofSettings {} none).compile
      (.select ((variant []).run variantJoins).query) = .ok c := by
    rw [hrun]
    exact ⟨_, rfl⟩
  obtain ⟨c, hc⟩ := hc
  refine ⟨_, c, start_variant, ?_, hc, run_seenTables start_variant variantJoins hc⟩
  rw [hrun]
  rfl

end SelectBuilder

end QueryBuilder
