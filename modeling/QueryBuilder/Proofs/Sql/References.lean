import QueryBuilder.Proofs.Builder.Insert

/-!
What a statement takes from outside its own words, read off the statement itself: the columns that
it refers to with the qualifiers that each of them may have, and the numbers in it.
-/
namespace QueryBuilder

/-- A column by its name, a fragment whose numbers are read, or a number that is written. -/
inductive Mention where
  | column (name : String)
  | fragment (sql : String)
  | count (n : Nat)

namespace Mention

def column? : Mention → Option String
  | column name => some name
  | _ => none

/-- Holds unless a number has more digits than are read or written. -/
def IsReadable : Mention → Prop
  | column _ => True
  | fragment sql => ∀ ds, .placeholder ds ∈ Text.sqlTokens sql.toList → ds.length ≤ Text.digitLimit
  | count n => (Nat.toDigits 10 n).length ≤ Text.digitLimit

/-- A column fails by a fault of its own, a number if it has too many digits. -/
def Fails (fault : String → Error → Prop) (m : Mention) (e : Error) : Prop :=
  match m with
  | column name => fault name e
  | _ => ¬ m.IsReadable ∧ e = .tooManyDigits

end Mention

/-- An operand is a reference if it is a column, and is read if it is a fragment; everything else is
bound. -/
def Value.mentions : Value → List Mention
  | .column name => [.column name]
  | .condition (.raw sql _) => [.fragment sql]
  | _ => []

def Value.itemMentions (v : Value) : List Mention :=
  (v.items?.getD []).flatMap Value.mentions

def Comparison.mentions (op : Comparison) (value : Value) : List Mention :=
  if op.isMembership then value.itemMentions else value.mentions

def ArrayOperator.mentions (op : ArrayOperator) (operand : Value) : List Mention :=
  if op.takesList then operand.itemMentions else operand.mentions

mutual

/-- The columns, the column operands and the fragments of a condition from left to right. -/
def Condition.mentions : Condition → List Mention
  | .comparison column op value => .column column :: op.mentions value
  | .logical _ children => mentionsOf children
  | .negation child => child.mentions
  | .array column op operand _ => .column column :: op.mentions operand
  | .jsonb column _ _ _ => [.column column]
  | .raw sql _ => [.fragment sql]
  | .stray _ | .draft _ _ => []
termination_by structural c => c

def mentionsOf : List Condition → List Mention
  | [] => []
  | c :: cs => c.mentions ++ mentionsOf cs
termination_by structural cs => cs

end

/-- The select list, both sides of every join, the filter, the sort and the counts. -/
def SelectQuery.mentions (q : SelectQuery) : List Mention :=
  q.items.map (fun i => .column i.name) ++
    q.joins.flatMap (fun j => [.column j.left, .column j.right]) ++
    q.filter.elim [] Condition.mentions ++ q.orderBy.map (fun o => .column o.column) ++
    q.limit.toList.map .count ++ q.offset.toList.map .count

theorem SelectQuery.mem_mentions_of_filter {q : SelectQuery} {c : Condition} {m : Mention}
    (hc : q.filter = some c) (hm : m ∈ c.mentions) : m ∈ q.mentions := by
  have hfilter : m ∈ q.filter.elim [] Condition.mentions := by rwa [hc]
  simp [mentions, hfilter]

theorem SelectQuery.count_mem_mentions {q : SelectQuery} {n : Nat}
    (h : n ∈ q.limit ∨ n ∈ q.offset) : .count n ∈ q.mentions := by
  rcases h with h | h <;> simp [mentions, Option.mem_def.mp h]

/-- The columns that a conflict clause names: those of its target and those it assigns to. -/
def ConflictClause.mentions (c : ConflictClause) : List Mention :=
  c.columns.map .column ++ c.updates.map fun u => .column u.1

def ConflictClause.assignedMentions (c : ConflictClause) : List Mention :=
  c.updates.flatMap fun u => u.2.mentions

/-- The columns and values of the rows, the conflict clause but for its values, and what is
returned. -/
def InsertQuery.mentions (q : InsertQuery) : List Mention :=
  q.columns.map .column ++ q.rows.flatMap (fun row => row.flatMap fun e => e.2.mentions) ++
    q.conflict.elim [] ConflictClause.mentions ++ q.returning.map fun i => .column i.name

/-- A column as a statement refers to it, and the qualifiers that are admissible there. -/
structure ColumnUse where
  name : String
  qualifiers : List String

namespace ColumnUse

/-- Holds of a column without qualifier, and of one with a qualifier that is admissible. -/
def IsAdmissible (u : ColumnUse) : Prop :=
  ∀ q ∈ (referenceOf u.name).qualifier, q ∈ u.qualifiers

/-- The qualifier is not admissible and the error says so of this very reference: if it is the name
of an aliased table, the alias excludes it, otherwise it is unknown. -/
def Rejected (tables : List TableRef) (u : ColumnUse) (e : Error) : Prop :=
  ∃ q ∈ (referenceOf u.name).qualifier, q ∉ u.qualifiers ∧
    ((∃ t ∈ tables, t.name = q ∧ ∃ a ∈ t.aliasName, e = .aliasedTable u.name q a) ∨
      (∀ t ∈ tables, t.name = q → t.aliasName = none) ∧
        e = .unresolved (.str u.name) (.unknownQualifier q) u.qualifiers)

theorem isAdmissible_iff {tables : List TableRef} {u : ColumnUse} :
    u.IsAdmissible ↔ ∀ e, ¬ u.Rejected tables e := by
  constructor
  · rintro h e ⟨q, hq, hn, _⟩
    exact hn (h q hq)
  · intro h q hq
    by_contra hn
    by_cases ha : ∃ t ∈ tables, t.name = q ∧ t.aliasName ≠ none
    · obtain ⟨t, ht, hname, halias⟩ := ha
      obtain ⟨a, ha⟩ := Option.ne_none_iff_exists'.mp halias
      exact h _ ⟨q, hq, hn, Or.inl ⟨t, ht, hname, a, ha, rfl⟩⟩
    · push Not at ha
      exact h _ ⟨q, hq, hn, Or.inr ⟨ha, rfl⟩⟩

end ColumnUse

/-- What a statement mentions, and the qualifiers that a column may have there. -/
structure Use where
  mention : Mention
  qualifiers : List String

namespace Use

def column? (u : Use) : Option ColumnUse :=
  u.mention.column?.map (⟨·, u.qualifiers⟩)

/-- A column fails if it is rejected, a number if it has too many digits. -/
def Fails (rejected : ColumnUse → Error → Prop) (u : Use) (e : Error) : Prop :=
  u.mention.Fails (fun name => rejected ⟨name, u.qualifiers⟩) e

end Use

namespace Statement

def tables : Statement → List TableRef
  | .select q => q.tables
  | .insert q => [q.table]

/-- Tables are known by their aliases. The row that was not inserted is known too, but only to the
values that a conflict clause assigns. -/
def uses : Statement → List Use
  | .select q => q.mentions.map (⟨·, q.tables.map TableRef.qualifier⟩)
  | .insert q => q.mentions.map (⟨·, [q.table.qualifier]⟩) ++
      (q.conflict.elim [] ConflictClause.assignedMentions).map
        (⟨·, [q.table.qualifier, "excluded"].eraseDups⟩)

def columnUses (s : Statement) : List ColumnUse :=
  s.uses.filterMap Use.column?

/-- No fragment and no count has a number of more digits than are read or written. -/
def IsReadable (s : Statement) : Prop :=
  ∀ u ∈ s.uses, u.mention.IsReadable

variable {tables : List TableRef} {s : Statement}

theorem not_isReadable_of_mem {q : SelectQuery} {m : Mention} (hm : m ∈ q.mentions)
    (h : ¬ m.IsReadable) : ¬ (select q).IsReadable :=
  fun hr => h (hr ⟨m, _⟩ (List.mem_map_of_mem hm))

/-- Nothing in a statement fails just if its columns are admissible and its numbers can be read. -/
theorem not_fails_iff : (∀ u ∈ s.uses, ∀ e, ¬ u.Fails (ColumnUse.Rejected tables) e) ↔
    (∀ u ∈ s.columnUses, u.IsAdmissible) ∧ s.IsReadable := by
  constructor
  · refine fun h => ⟨fun c hc => ?_, fun u hu => ?_⟩
    · obtain ⟨⟨m, qualifiers⟩, hu, hcolumn⟩ := List.mem_filterMap.mp hc
      obtain ⟨name, hname, rfl⟩ := Option.map_eq_some_iff.mp hcolumn
      cases m with
      | column n =>
        cases hname
        exact ColumnUse.isAdmissible_iff.mpr (h _ hu)
      | fragment sql | count n => cases hname
    · by_contra hn
      obtain ⟨m, qualifiers⟩ := u
      cases m with
      | column name => exact hn trivial
      | fragment sql | count n => exact h _ hu .tooManyDigits ⟨hn, rfl⟩
  · rintro ⟨hadmissible, hreadable⟩ ⟨m, qualifiers⟩ hu e he
    cases m with
    | column name =>
      have hc : (⟨name, qualifiers⟩ : ColumnUse) ∈ s.columnUses :=
        List.mem_filterMap.mpr ⟨_, hu, rfl⟩
      exact ColumnUse.isAdmissible_iff.mp (hadmissible _ hc) e he
    | fragment sql | count n => exact he.1 (hreadable _ hu)

/-- The error of what fails in a statement is about a column of it, or about a number. -/
theorem error_of_fails {u : Use} {e : Error} (hu : u ∈ s.uses)
    (he : u.Fails (ColumnUse.Rejected tables) e) :
    (∃ c ∈ s.columnUses, c.Rejected tables e) ∨ ¬ s.IsReadable ∧ e = .tooManyDigits := by
  obtain ⟨m, qualifiers⟩ := u
  cases m with
  | column name => exact Or.inl ⟨_, List.mem_filterMap.mpr ⟨_, hu, rfl⟩, he⟩
  | fragment sql | count n => exact Or.inr ⟨fun h => he.1 (h _ hu), he.2⟩

end Statement

namespace JsonbOperator

/-- Holds of the operators whose operand is written as a document. -/
def takesDocument : JsonbOperator → Bool
  | contains | containedBy | fieldContains | fieldEquals | fieldNotEquals => true
  | _ => false

end JsonbOperator

mutual

/-- Every operand that is to be a document can be written as one. -/
def Condition.Serializes : Condition → Prop
  | .jsonb _ op _ operand => op.takesDocument = true → ∃ text, operand.document = .ok text
  | .logical _ children => SerializeAll children
  | .negation child => child.Serializes
  | _ => True
termination_by structural c => c

def SerializeAll : List Condition → Prop
  | [] => True
  | c :: cs => c.Serializes ∧ SerializeAll cs
termination_by structural cs => cs

end

/-- Documents can be written, and an INSERT has rows. -/
def Statement.IsComplete : Statement → Prop
  | .select q => ∀ c ∈ q.filter, c.Serializes
  | .insert q => q.rows ≠ []

end QueryBuilder
