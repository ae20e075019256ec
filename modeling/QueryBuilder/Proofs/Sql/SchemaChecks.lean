import QueryBuilder.Proofs.Sql.ColumnChecks

/-!
Statements with and without a schema. Where every empty array has a type of its own, a schema says
nothing about the text: a statement that it does not refuse is compiled as if it were not there, and
what it refuses is a column.
-/
namespace QueryBuilder

/-- Some empty array is cast to a type that was not given with it. -/
def Statement.CastsEmpty : Statement → Prop
  | .select q => ∃ c ∈ q.filter, ∃ d, .leaf d ∈ c.layout .root ∧ d.CastsEmpty
  | .insert _ => False

namespace Client

/-- The client with a description of the database, or without one. -/
def withSchema (client : Client) (schema : Option Schema) : Client :=
  { client with schema }

theorem pieces_withSchema {client : Client} {schema : Option Schema} {s : Statement}
    (hs : ¬ s.CastsEmpty) :
    Narrows Error.IsUnresolved Eq ((client.withSchema schema).pieces s)
      ((client.withSchema none).pieces s) := by
  have h : (client.withSchema schema).Unchecks (client.withSchema none) := ⟨rfl, fun _ => rfl⟩
  have hclauses : Narrows Error.IsUnresolved
      (List.Forall₂ (List.Forall₂ (Piece.Recast client.dialect Eq)))
      ((client.withSchema schema).clauses s) ((client.withSchema none).clauses s) := by
    refine clauses_narrowed h ?_
    rintro q rfl _ _ _ _ c hc d hd hempty
    exact absurd ⟨c, hc, d, hd, hempty⟩ hs
  exact hclauses.map fun _ _ hr => eq_of_recast (fun _ _ => id) (separated_recast hr)

/-- A schema only refuses. If every empty array has a type, a statement that compiles with a schema
compiles to the same text and parameters without it, and the only errors that are due to the schema
are those about columns. -/
theorem compile_withSchema {s : Statement} (hs : ¬ s.CastsEmpty) (client : Client)
    (schema : Schema) :
    (∀ c, (client.withSchema (some schema)).compile s = .ok c →
        (client.withSchema none).compile s = .ok c) ∧
      ∀ e, (client.withSchema (some schema)).compile s = .error e →
        e.IsUnresolved ∨ (client.withSchema none).compile s = .error e := by
  have hcompile : Narrows Error.IsUnresolved Eq ((client.withSchema (some schema)).compile s)
      ((client.withSchema none).compile s) := (pieces_withSchema hs).map_eq _
  refine ⟨fun c hc => ?_, hcompile.error⟩
  obtain ⟨_, hc', rfl⟩ := hcompile.refines c hc
  exact hc'

/-- An empty array with a type, in a column that a table has. -/
def typedQuery : SelectQuery :=
  { labelledQuery with filter := some (.array "labels" .contains (.list []) (some "bigint")) }

/-- A column that none of the tables has. -/
def unownedQuery : SelectQuery :=
  { labelledQuery with filter := some (.comparison "age" .greater (.int 18)) }

theorem typedQuery_castsEmpty : ¬ (Statement.select typedQuery).CastsEmpty := by
  rintro ⟨c, hc, d, hd, hempty⟩
  cases hc
  cases List.mem_singleton.mp hd
  exact absurd hempty.2.2 (by decide)

theorem unownedQuery_castsEmpty : ¬ (Statement.select unownedQuery).CastsEmpty := by
  rintro ⟨c, hc, d, hd, hempty⟩
  cases hc
  cases List.mem_singleton.mp hd
  exact hempty

/-- The schema gives the labels another type than the text says, and refuses an age. -/
theorem compile_withSchema_labelledSchema :
    (∃ c, (ofSettings {} (some labelledSchema)).compile (.select typedQuery) = .ok c ∧
        (ofSettings {} none).compile (.select typedQuery) = .ok c) ∧
      ∃ e, (ofSettings {} (some labelledSchema)).compile (.select unownedQuery) = .error e ∧
        (e.IsUnresolved ∨ (ofSettings {} none).compile (.select unownedQuery) = .error e) ∧
        ∃ c, (ofSettings {} none).compile (.select unownedQuery) = .ok c := by
  have htyped := compile_withSchema typedQuery_castsEmpty (ofSettings {} none) labelledSchema
  have hunowned := compile_withSchema unownedQuery_castsEmpty (ofSettings {} none) labelledSchema
  have hcompiled : ∃ c,
      (ofSettings {} (some labelledSchema)).compile (.select typedQuery) = .ok c := ⟨_, rfl⟩
  have hrefused : ∃ e,
      (ofSettings {} (some labelledSchema)).compile (.select unownedQuery) = .error e := ⟨_, rfl⟩
  obtain ⟨c, hc⟩ := hcompiled
  obtain ⟨e, he⟩ := hrefused
  exact ⟨⟨c, hc, htyped.1 c hc⟩, e, he, hunowned.2 e he, _, rfl⟩

end Client

end QueryBuilder
