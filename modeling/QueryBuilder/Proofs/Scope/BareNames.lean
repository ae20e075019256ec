import QueryBuilder.Proofs.FirstSeen
import QueryBuilder.Proofs.Sql.Alignment

/-!
Bare names in a scope. Where the schema describes every table, a name is resolved just if the tables
list it once, which is what the index of unambiguous names says; elsewhere every name is resolved
and there is no index.
-/
namespace QueryBuilder

namespace Scope

/-- The schema describes all tables in scope. -/
def IsDescribed (s : Scope) : Prop :=
  ∃ schema ∈ s.schema, ∀ t ∈ s.tables, schema.table? t.name ≠ none

/-- The columns that the schema lists for a table. -/
def namesOf (s : Scope) (t : TableRef) : List String :=
  s.schema.elim [] fun schema => schema.columnNames t.name

/-- The columns of all tables in scope, one table after the other. -/
def listedNames (s : Scope) : List String :=
  s.tables.flatMap s.namesOf

section columns

variable {schema : Schema} {tables : List TableRef}

theorem describedColumns_eq (h : ∀ t ∈ tables, schema.table? t.name ≠ none) :
    describedColumns schema tables =
      some (tables.flatMap fun t => (schema.columnNames t.name).map (·, t)) := by
  induction tables with
  | nil => rfl
  | cons t ts ih =>
    obtain ⟨info, hinfo⟩ := Option.ne_none_iff_exists'.mp (h t (by simp))
    have hrest := ih fun u hu => h u (List.mem_cons_of_mem t hu)
    simp [describedColumns, hinfo, hrest, columnsOf, Schema.columnNames]

theorem describedColumns_eq_none {t : TableRef} (ht : t ∈ tables)
    (h : schema.table? t.name = none) : describedColumns schema tables = none := by
  induction tables with
  | nil => cases ht
  | cons u us ih =>
    cases hu : schema.table? u.name with
    | none => simp [describedColumns, hu]
    | some info =>
      have hus : t ∈ us := by
        rcases List.mem_cons.mp ht with rfl | hus
        · cases h.symm.trans hu
        · exact hus
      simp [describedColumns, hu, ih hus]

end columns

variable {s : Scope} {c : String}

/-- The listed columns, each with the table that lists it. -/
theorem columns?_eq (h : s.IsDescribed) (hne : s.tables ≠ []) :
    s.columns? = some (s.tables.flatMap fun t => (s.namesOf t).map (·, t)) := by
  obtain ⟨schema, hschema, htables⟩ := h
  have hnames : s.namesOf = fun t => schema.columnNames t.name := by
    funext t
    rw [namesOf, Option.mem_def.mp hschema]
    rfl
  rw [columns?, Option.mem_def.mp hschema, hnames]
  simp [hne, describedColumns_eq htables]

theorem columns?_eq_none (h : ¬ s.IsDescribed) : s.columns? = none := by
  unfold columns?
  split
  next => rfl
  next schema hschema =>
    have hmissing : ∃ t ∈ s.tables, schema.table? t.name = none := by
      by_contra hall
      push Not at hall
      exact h ⟨schema, hschema, hall⟩
    obtain ⟨t, ht, hnone⟩ := hmissing
    split
    next => rfl
    next => exact describedColumns_eq_none ht hnone

/-- A table owns a column once for each time that it lists it. -/
theorem owners_flatMap (tables : List TableRef) (names : TableRef → List String) (c : String) :
    owners (tables.flatMap fun t => (names t).map (·, t)) c =
      tables.flatMap fun t => List.replicate ((names t).count c) t := by
  rw [owners, List.filter_flatMap, List.map_flatMap]
  congr 1
  funext t
  rw [List.filter_map, List.map_map, List.count_eq_length_filter, ← List.map_const']
  rfl

/-- The tables that list a column, in their order. -/
def listing (s : Scope) (c : String) : List TableRef :=
  s.tables.flatMap fun t => List.replicate ((s.namesOf t).count c) t

theorem length_listing : (s.listing c).length = s.listedNames.count c := by
  rw [listing, listedNames, List.length_flatMap, List.count_flatMap]
  simp [Function.comp_def]

theorem mem_listing {t : TableRef} : t ∈ s.listing c ↔ t ∈ s.tables ∧ c ∈ s.namesOf t := by
  simp only [listing, List.mem_flatMap, List.mem_replicate]
  constructor
  · rintro ⟨u, hu, hcount, rfl⟩
    exact ⟨hu, List.count_pos_iff.mp (Nat.pos_of_ne_zero hcount)⟩
  · rintro ⟨ht, hc⟩
    exact ⟨t, ht, (List.count_pos_iff.mpr hc).ne', rfl⟩

theorem mem_sortedNames {names : List String} {n : String} :
    n ∈ sortedNames names ↔ n ∈ names := by
  rw [sortedNames, List.mem_mergeSort, List.mem_eraseDups]

theorem nodup_sortedNames (names : List String) : (sortedNames names).Nodup :=
  (List.mergeSort_perm _ _).nodup_iff.mpr (nodup_eraseDups names)

theorem map_fst_columns : (s.tables.flatMap fun t => (s.namesOf t).map (·, t)).map Prod.fst =
    s.listedNames := by
  simp [listedNames, List.map_flatMap, Function.comp_def]

/-- The index holds the names that are listed once. -/
theorem unambiguous?_eq (h : s.IsDescribed) (hne : s.tables ≠ []) :
    ∃ names, s.unambiguous? = some names ∧ names.Nodup ∧
      ∀ n, n ∈ names ↔ s.listedNames.count n = 1 := by
  refine ⟨_, by rw [unambiguous?, columns?_eq h hne]; rfl, nodup_sortedNames _, fun n => ?_⟩
  have howners : (owners (s.tables.flatMap fun t => (s.namesOf t).map (·, t)) n).length =
      s.listedNames.count n := by
    rw [owners_flatMap]
    exact length_listing
  rw [mem_sortedNames, List.mem_filter, map_fst_columns, howners, beq_iff_eq]
  refine and_iff_right_of_imp fun hone => ?_
  exact List.count_pos_iff.mp (by omega)

/-- A bare name that is not accepted as it is belongs to its owner. -/
theorem resolveName_bare (hc : Identifier.isValid c = true) (extra : List String) :
    s.resolveName c none extra =
      if c ∈ extra then .ok ⟨⟨none, c⟩, none⟩
      else (s.ownerOfBare c (.str c)).map fun owner => ⟨⟨none, c⟩, owner⟩ := by
  have hparse : ColumnReference.parse c = .ok ⟨none, c⟩ := by
    rw [ColumnReference.parse_eq_ok (.column (.bare hc)), referenceOf_of_isValid hc]
  have hresolve : s.resolveName c none extra = s.resolve ⟨none, c⟩ none extra := by
    rw [resolveName, hparse]
    rfl
  have htext : (ColumnReference.mk none c).text = c := rfl
  rw [hresolve, resolve, htext]
  by_cases he : c ∈ extra
  · simp [he]
  · simp only [Identifier.ne_star hc, he, List.contains_iff_mem, Bool.or_eq_true, beq_iff_eq,
      or_self, if_false]
    cases s.ownerOfBare c (.str c) <;> rfl

theorem ownerOfBare_of_not_isDescribed (h : ¬ s.IsDescribed) (c : String) (name : Value) :
    ∃ owner, s.ownerOfBare c name = .ok owner := by
  rw [ownerOfBare, columns?_eq_none h]
  simp only
  split
  next t _ => exact ⟨some t, rfl⟩
  next => exact ⟨none, rfl⟩

/-- The owner of a bare name is the table that lists it, if one does and does so once. -/
theorem ownerOfBare_eq (h : s.IsDescribed) (hne : s.tables ≠ []) (c : String) (name : Value) :
    s.ownerOfBare c name =
      match s.listing c with
      | [] => .error (.unresolved name .unowned (sortedNames s.listedNames))
      | [t] => .ok (some t)
      | ts => .error (.unresolved name .ambiguous
          (ts.map fun t => t.qualifier ++ "." ++ name.text)) := by
  have howners := owners_flatMap s.tables s.namesOf c
  rw [ownerOfBare, columns?_eq h hne]
  simp only [howners, map_fst_columns]
  rfl

theorem ownerOfBare_eq_ok_iff (h : s.IsDescribed) (hne : s.tables ≠ []) {name : Value}
    {owner : Option TableRef} :
    s.ownerOfBare c name = .ok owner ↔ ∃ t, s.listing c = [t] ∧ owner = some t := by
  rw [ownerOfBare_eq h hne]
  split
  next hl => simp [hl]
  next t hl => simp [hl, eq_comm]
  next hmore => simpa using fun t ht => absurd ht (hmore t)

theorem ownerOfBare_ambiguous (h : s.IsDescribed) (hne : s.tables ≠ [])
    (hc : 1 < s.listedNames.count c) (name : Value) : s.ownerOfBare c name =
      .error (.unresolved name .ambiguous
        ((s.listing c).map fun t => t.qualifier ++ "." ++ name.text)) := by
  rw [← length_listing] at hc
  rw [ownerOfBare_eq h hne]
  split
  next hl => simp [hl] at hc
  next t hl => simp [hl] at hc
  next => rfl

/-- The index of unambiguous names and the resolution of a bare name say the same. -/
structure BareNameAgrees (s : Scope) (names : List String) (c : String) (extra : List String) :
    Prop where
  distinct : names.Nodup
  listedOnce : ∀ n, n ∈ names ↔ s.listedNames.count n = 1
  resolves : (∃ r, s.resolveName c none extra = .ok r) ↔ c ∈ extra ∨ c ∈ names
  owner : c ∉ extra → ∀ r, s.resolveName c none extra = .ok r → r.reference = ⟨none, c⟩ ∧
    ∃ t ∈ s.tables, r.table = some t ∧ ∀ u ∈ s.tables, c ∈ s.namesOf u ↔ u = t
  ambiguous : c ∉ extra → 1 < s.listedNames.count c → s.resolveName c none extra =
    .error (.unresolved (.str c) .ambiguous
      (s.tables.flatMap fun t => List.replicate ((s.namesOf t).count c) (t.qualifier ++ "." ++ c)))

theorem bareNameAgrees (h : s.IsDescribed) (hne : s.tables ≠ []) (hc : Identifier.isValid c = true)
    (extra : List String) :
    ∃ names, s.unambiguous? = some names ∧ s.BareNameAgrees names c extra := by
  obtain ⟨names, hnames, hdistinct, hmem⟩ := unambiguous?_eq h hne
  refine ⟨names, hnames, hdistinct, hmem, ?_, ?_, ?_⟩
  · rw [resolveName_bare hc, hmem]
    by_cases he : c ∈ extra
    · simp [he]
    · simp only [he, if_false, map_eq_ok_iff, ownerOfBare_eq_ok_iff h hne, false_or,
        ← length_listing, List.length_eq_one_iff]
      constructor
      · rintro ⟨_, _, ⟨t, hl, _⟩, _⟩
        exact ⟨t, hl⟩
      · rintro ⟨t, hl⟩
        exact ⟨_, _, ⟨t, hl, rfl⟩, rfl⟩
  · intro he r hr
    rw [resolveName_bare hc, if_neg he] at hr
    obtain ⟨owner, howner, rfl⟩ := map_eq_ok_iff.mp hr
    obtain ⟨t, hl, rfl⟩ := (ownerOfBare_eq_ok_iff h hne).mp howner
    have hlists : ∀ u, u ∈ s.tables ∧ c ∈ s.namesOf u ↔ u = t := by
      intro u
      rw [← mem_listing, hl, List.mem_singleton]
    have ht := (hlists t).mpr rfl
    refine ⟨rfl, t, ht.1, rfl, fun u hu => ?_⟩
    rw [← hlists u, and_iff_right hu]
  · intro he hmany
    rw [resolveName_bare hc, if_neg he, ownerOfBare_ambiguous h hne hmany, listing,
      List.map_flatMap]
    simp only [List.map_replicate]
    rfl

/-- In a scope of some tables a bare name is resolved just if it is accepted as it is or the index
holds it, which is the case if the tables list it once. If the schema does not describe all tables
there is no index, and every bare name is resolved. -/
theorem resolveName_agrees {schema : Option Schema} {tables : List TableRef}
    (hs : addAll { schema } tables = .ok s) (hne : tables ≠ [])
    (hc : Identifier.isValid c = true) (extra : List String) :
    s.tables = tables ∧ s.schema = schema ∧
      (s.IsDescribed →
        ∃ names, s.unambiguous? = some names ∧ s.BareNameAgrees names c extra) ∧
      (¬ s.IsDescribed →
        s.unambiguous? = none ∧ ∃ r, s.resolveName c none extra = .ok r) := by
  cases addAll_eq_ok hs
  refine ⟨rfl, rfl, fun h => bareNameAgrees h hne hc extra, fun h => ⟨?_, ?_⟩⟩
  · rw [unambiguous?, columns?_eq_none h]
    rfl
  · rw [resolveName_bare hc]
    split
    next => exact ⟨_, rfl⟩
    next =>
      obtain ⟨owner, howner⟩ := ownerOfBare_of_not_isDescribed h c (.str c)
      exact ⟨_, map_eq_ok_iff.mpr ⟨owner, howner, rfl⟩⟩

def staffSchema : Schema :=
  ⟨[⟨"users", [⟨"id", "integer", false⟩, ⟨"email", "text", true⟩]⟩,
    ⟨"posts", [⟨"id", "integer", false⟩, ⟨"title", "text", true⟩]⟩]⟩

/-- A table that is joined to itself, with another one in between. -/
def staffScope : Scope :=
  ⟨[⟨"users", some "u"⟩, ⟨"posts", none⟩, ⟨"users", some "manager"⟩], some staffSchema⟩

theorem resolveName_agrees_staffScope :
    addAll { schema := some staffSchema } staffScope.tables = .ok staffScope ∧
      staffScope.tables ≠ [] ∧ Identifier.isValid "email" = true ∧ staffScope.IsDescribed ∧
      ∃ names, staffScope.unambiguous? = some names ∧ "title" ∈ names ∧
        staffScope.BareNameAgrees names "email" [] ∧
        staffScope.resolveName "email" none [] = .error
          (.unresolved (.str "email") .ambiguous ["u.email", "manager.email"]) := by
  have hs : addAll { schema := some staffSchema } staffScope.tables = .ok staffScope := rfl
  have hne : staffScope.tables ≠ [] := by decide
  have hc : Identifier.isValid "email" = true := by decide
  have hdescribed : staffScope.IsDescribed := ⟨staffSchema, rfl, by decide⟩
  obtain ⟨_, _, hagrees, _⟩ := resolveName_agrees hs hne hc []
  obtain ⟨names, hnames, h⟩ := hagrees hdescribed
  refine ⟨hs, hne, hc, hdescribed, names, hnames, (h.listedOnce "title").mpr (by decide), h, ?_⟩
  exact h.ambiguous (by simp) (by decide)

end Scope

end QueryBuilder
