import QueryBuilder.Proofs.Builder.Assignments
import QueryBuilder.Proofs.Builder.Filter

/-!
The places where a column is given by its text. They take the same columns and keep them alike, but
for the word AS: a condition takes it as a name, and a list, a sort or a join as a rename without
one.
-/
namespace QueryBuilder

open Text

/-- How an item of a sort names its column. -/
inductive SortForm where
  | text
  | pair (direction : Value)
  | mapping (direction : Value)

namespace SortForm

def value (form : SortForm) (s : String) : Value :=
  match form with
  | text => .str s
  | pair direction => .tuple [.str s, direction]
  | mapping direction => .dict [(.str "column", .str s), (.str "direction", direction)]

def direction : SortForm → Value
  | text => .str "asc"
  | pair direction | mapping direction => direction

end SortForm

/-- A place where a column is given by its text, with what else is given there. -/
inductive ColumnEntry where
  | comparison (op value : Value)
  | array (elementType : Value) (op : ArrayOperator) (operand : Value)
  | jsonb (op : JsonbOperator) (operand : Value)
  | field (path : List String) (op : JsonbOperator) (operand : Value)
  | reference
  | record (kind : NodeKind) (fields : List (String × Value))
  | filter (b : SelectBuilder) (op value : Value)
  | sort (b : SelectBuilder) (direction : Value)
  | sortItem (b : SelectBuilder) (form : SortForm) (direction : Value)
  | joinLeft (b : SelectBuilder) (kind : JoinKind) (table right : Value)
  | joinRight (b : SelectBuilder) (kind : JoinKind) (table left : Value)
  | item (b : SelectBuilder)

/-- The column of a condition, or of the last one of those that are joined. -/
def Condition.lastColumn? : Condition → Option String
  | .logical _ children => children.getLast?.bind column?
  | c => c.column?

/-- The column of an item, if it is neither renamed nor a star. -/
def SelectItem.column? (i : SelectItem) : Option String :=
  if i.aliasName.isSome || i.isStar then none else some i.name

namespace ColumnEntry

/-- The column that is kept, if the text is accepted. -/
def takes (e : ColumnEntry) (s : String) : Option String :=
  match e with
  | comparison op value => (compare (.str s) op value).toOption.bind Value.column?
  | array elementType op operand =>
    ((ArrayColumn.mk (.str s) elementType).apply op operand).toOption.bind Value.column?
  | jsonb op operand => ((JsonbColumn.mk (.str s)).apply op operand).toOption.bind Value.column?
  | field path op operand =>
    ((JsonbField.mk (.str s) path).apply op operand).toOption.bind Value.column?
  | reference => (QueryBuilder.reference (.str s)).toOption.bind Value.column?
  | record kind fields => kind.columnField?.bind fun field =>
    (kind.make ((field, .str s) :: fields)).toOption.bind Value.column?
  | filter b op value => (b.apply (.filter (.value (.str s)) op value)).toOption.bind fun next =>
    next.query.filter.bind Condition.lastColumn?
  | sort b direction => (b.apply (.orderBy (.str s) direction)).toOption.bind fun next =>
    next.query.orderBy.getLast?.map OrderItem.column
  | sortItem b form direction =>
    (b.apply (.orderBy (.list [form.value s]) direction)).toOption.bind fun next =>
      next.query.orderBy.getLast?.map OrderItem.column
  | joinLeft b kind table right =>
    (b.apply (.join kind table (.str s) right)).toOption.bind fun next =>
      next.query.joins.getLast?.map Join.left
  | joinRight b kind table left =>
    (b.apply (.join kind table left (.str s))).toOption.bind fun next =>
      next.query.joins.getLast?.map Join.right
  | item b => (b.apply (.columns [.str s])).toOption.bind fun next =>
    next.query.items.getLast?.bind SelectItem.column?

/-- Holds of a place where what else is given suits, so that some column is taken there. -/
def Works (e : ColumnEntry) : Prop :=
  ∃ s name, e.takes s = some name

/-- Holds of the places where a text may be a rename. -/
def readsRenames : ColumnEntry → Bool
  | sort .. | sortItem .. | joinLeft .. | joinRight .. | item .. => true
  | _ => false

end ColumnEntry

namespace Condition

theorem accept_comparison {column : String} {op : Comparison} {value : Value}
    (h : checkComparison op value = .ok ()) :
    (Condition.comparison column op value).accept = .ok (.comparison column op value) :=
  accept_eq_ok rfl rfl h

end Condition

namespace SelectBuilder

/-- The filter that a further condition leads to. -/
def conjoined (current : Option Condition) (c : Condition) : Condition :=
  current.elim c fun d => .logical .and [d, c]

theorem addFilter_eq_ok_iff {current : Option Condition} {c d : Condition}
    (hc : c.accept = .ok c) :
    addFilter current c = .ok d ↔ (∀ e ∈ current, e.accept = .ok e) ∧ d = conjoined current c := by
  cases current with
  | none => simp [addFilter, conjoined, eq_comm]
  | some e => simp [addFilter, conjoined, Condition.join_eq_ok_iff, hc]

theorem filter_takes (b : SelectBuilder) (op value : Value) :
    TakesBy (fun s name => readColumn s = .ok name) (ColumnEntry.filter b op value).takes := by
  have happly : ∀ s next, b.apply (.filter (.value (.str s)) op value) = .ok next ↔
      ∃ name, ∃ o : Comparison, readColumn s = .ok name ∧
        ((op.isNull = false ∧ readComparison op = .ok o ∧
          Condition.checkComparison o value = .ok ()) ∧
          ∀ e ∈ b.query.filter, e.accept = .ok e) ∧
        next = { b with query := { b.query with
          filter := some (conjoined b.query.filter (.comparison name o value)) } } := by
    intro s next
    have hcondition := @filterCondition_text_iff op value
    simp only [apply, bind_eq_ok_iff, @hcondition _ (.str s) s rfl, Except.ok.injEq]
    constructor
    · rintro ⟨_, ⟨name, o, hname, ho, rfl⟩, d, hd, rfl⟩
      obtain ⟨hcurrent, rfl⟩ := (addFilter_eq_ok_iff (Condition.accept_comparison ho.2.2)).mp hd
      exact ⟨name, o, hname, ⟨ho, hcurrent⟩, rfl⟩
    · rintro ⟨name, o, hname, ⟨ho, hcurrent⟩, rfl⟩
      exact ⟨_, ⟨name, o, hname, ho, rfl⟩, _,
        (addFilter_eq_ok_iff (Condition.accept_comparison ho.2.2)).mpr ⟨hcurrent, rfl⟩, rfl⟩
  refine .of_result happly fun name o => ?_
  cases h : b.query.filter <;> rfl

end SelectBuilder

theorem SelectItem.column?_eq_some_iff {i : SelectItem} {name : String} :
    i.column? = some name ↔ i = ⟨name, none⟩ ∧ isStarName name = false := by
  obtain ⟨word, aliasName⟩ := i
  cases aliasName with
  | some a => simp [column?]
  | none =>
    cases hstar : isStarName word with
    | true =>
      have hne : word = name → ¬ isStarName name = false := fun h => by simp [← h, hstar]
      simpa [column?, isStar, hstar] using hne
    | false =>
      have hname : word = name → isStarName name = false := fun h => h ▸ hstar
      simpa [column?, isStar, hstar] using hname

/-- An item of a sort takes a plain column. -/
theorem orderItem_eq_ok_iff {form : SortForm} {s : String} {o : OrderItem} :
    orderItem (form.value s) = .ok o ↔ ∃ name d, plainColumn .orderBy (.str s) = .ok name ∧
      readDirection form.direction = .ok d ∧ o = ⟨name, d⟩ := by
  have hmake : orderItem (form.value s) = plainColumn .orderBy (.str s) >>= fun name =>
      readDirection form.direction >>= fun d => Except.ok (OrderItem.mk name d) := by
    cases form <;> rfl
  rw [hmake]
  simp only [bind_eq_ok_iff, Except.ok.injEq]
  constructor
  · rintro ⟨name, hname, d, hd, rfl⟩
    exact ⟨name, d, hname, hd, rfl⟩
  · rintro ⟨name, d, hname, hd, rfl⟩
    exact ⟨name, hname, d, hd, rfl⟩

namespace ColumnEntry

theorem sortItem_takes (b : SelectBuilder) (form : SortForm) (direction : Value) :
    TakesBy (fun s name => plainColumn .orderBy (.str s) = .ok name)
      (sortItem b form direction).takes := by
  have happly : ∀ s next, b.apply (.orderBy (.list [form.value s]) direction) = .ok next ↔
      ∃ name d, plainColumn .orderBy (.str s) = .ok name ∧ readDirection form.direction = .ok d ∧
        next = { b with query := { b.query with orderBy := b.query.orderBy ++ [⟨name, d⟩] } } := by
    intro s next
    have hitem : b.apply (.orderBy (.list [form.value s]) direction) =
        orderItem (form.value s) >>= fun o =>
          .ok { b with query := { b.query with orderBy := b.query.orderBy ++ [o] } } := by
      generalize form.value s = v
      unfold SelectBuilder.apply
      simp only [orderItems]
      cases orderItem v <;> rfl
    rw [hitem, bind_eq_ok_iff]
    simp only [orderItem_eq_ok_iff, Except.ok.injEq]
    constructor
    · rintro ⟨_, ⟨name, d, hname, hd, rfl⟩, rfl⟩
      exact ⟨name, d, hname, hd, rfl⟩
    · rintro ⟨name, d, hname, hd, rfl⟩
      exact ⟨_, ⟨name, d, hname, hd, rfl⟩, rfl⟩
  exact .of_result happly fun name d => by simp

theorem joinLeft_takes (b : SelectBuilder) (kind : JoinKind) (table right : Value) :
    TakesBy (fun s name => plainColumn .join (.str s) = .ok name)
      (joinLeft b kind table right).takes := by
  have happly : ∀ s next, b.apply (.join kind table (.str s) right) = .ok next ↔
      ∃ name, ∃ i : TableRef × Scope × String, plainColumn .join (.str s) = .ok name ∧
        (TableRef.parse table = .ok i.1 ∧ b.scope.add i.1 = .ok i.2.1 ∧
          plainColumn .join right = .ok i.2.2) ∧
        next = ⟨{ b.query with joins := b.query.joins ++ [⟨kind, i.1, name, i.2.2⟩] }, i.2.1⟩ := by
    intro s next
    simp only [SelectBuilder.apply, bind_eq_ok_iff, Except.ok.injEq]
    constructor
    · rintro ⟨t, ht, scope, hs, name, hname, r, hr, rfl⟩
      exact ⟨name, (t, scope, r), hname, ⟨ht, hs, hr⟩, rfl⟩
    · rintro ⟨name, ⟨t, scope, r⟩, hname, ⟨ht, hs, hr⟩, rfl⟩
      exact ⟨t, ht, scope, hs, name, hname, r, hr, rfl⟩
  exact .of_result happly fun name i => by simp

theorem joinRight_takes (b : SelectBuilder) (kind : JoinKind) (table left : Value) :
    TakesBy (fun s name => plainColumn .join (.str s) = .ok name)
      (joinRight b kind table left).takes := by
  have happly : ∀ s next, b.apply (.join kind table left (.str s)) = .ok next ↔
      ∃ name, ∃ i : TableRef × Scope × String, plainColumn .join (.str s) = .ok name ∧
        (TableRef.parse table = .ok i.1 ∧ b.scope.add i.1 = .ok i.2.1 ∧
          plainColumn .join left = .ok i.2.2) ∧
        next = ⟨{ b.query with joins := b.query.joins ++ [⟨kind, i.1, i.2.2, name⟩] }, i.2.1⟩ := by
    intro s next
    simp only [SelectBuilder.apply, bind_eq_ok_iff, Except.ok.injEq]
    constructor
    · rintro ⟨t, ht, scope, hs, l, hl, name, hname, rfl⟩
      exact ⟨name, (t, scope, l), hname, ⟨ht, hs, hl⟩, rfl⟩
    · rintro ⟨name, ⟨t, scope, l⟩, hname, ⟨ht, hs, hl⟩, rfl⟩
      exact ⟨t, ht, scope, hs, l, hl, name, hname, rfl⟩
  exact .of_result happly fun name i => by simp

/-- A list takes any plain column. -/
theorem item_takes_iff {b : SelectBuilder} {s name : String} :
    (item b).takes s = some name ↔ plainColumn .join (.str s) = .ok name := by
  have hitem : b.apply (.columns [.str s]) = SelectItem.parse (.str s) >>= fun i =>
      .ok { b with query := { b.query with items := b.query.items ++ [i] } } := by
    change (parseItems [.str s] >>= fun items => Except.ok _) = _
    rw [parseItems]
    cases SelectItem.parse (.str s) <;> rfl
  rw [takes, hitem, plainColumn_eq_ok_iff_parse]
  cases hparse : SelectItem.parse (.str s) with
  | error e => simp [Except.toOption, bind, Except.bind]
  | ok i => simp [Except.toOption, bind, Except.bind, SelectItem.column?_eq_some_iff]

/-- What is read from a text where it may be, or may not be, a rename. -/
structure Reads (e : ColumnEntry) (s name : String) : Prop where
  trimmed : trim s = name
  isColumn : IsColumnName name
  notAs : e.readsRenames = true → ¬ AliasSyntax.IsAs name.toList

variable {e f : ColumnEntry} {takes : String → Option String}

theorem takesBy_of_readColumn (he : e.readsRenames = false)
    (h : TakesBy (fun s name => readColumn s = .ok name) takes) : TakesBy e.Reads takes := by
  refine h.congr fun s name => readColumn_eq_ok_iff.trans ⟨fun ⟨ht, hn⟩ => ⟨ht, hn, ?_⟩, ?_⟩
  · simp [he]
  · exact fun hr => ⟨hr.trimmed, hr.isColumn⟩

theorem takesBy_of_plainColumn {method : Method} (he : e.readsRenames = true)
    (h : TakesBy (fun s name => plainColumn method (.str s) = .ok name) takes) :
    TakesBy e.Reads takes := by
  refine h.congr fun s name => plainColumn_eq_ok_iff.trans ⟨fun ⟨ht, hn, has⟩ => ?_, fun hr => ?_⟩
  · exact ⟨ht, hn, fun _ => has⟩
  · exact ⟨hr.trimmed, hr.isColumn, hr.notAs he⟩

theorem takesBy (e : ColumnEntry) : TakesBy e.Reads e.takes := by
  cases e with
  | comparison op value =>
    exact takesBy_of_readColumn rfl (@NodeKind.make_takes (.condition .comparison) _ rfl
      [("operator", op), ("value", value)])
  | array elementType op operand =>
    exact takesBy_of_readColumn rfl (@NodeKind.make_takes (.condition .array) _ rfl
      [("operator", .str op.text), ("operand", operand), ("element_type", elementType)])
  | jsonb op operand =>
    exact takesBy_of_readColumn rfl (@NodeKind.make_takes (.condition .jsonb) _ rfl
      [("operator", .str op.text), ("operand", operand)])
  | field path op operand =>
    exact takesBy_of_readColumn rfl (@NodeKind.make_takes (.condition .jsonb) _ rfl
      [("operator", .str op.text), ("path", .tuple (path.map .str)), ("operand", operand)])
  | reference => exact takesBy_of_readColumn rfl (@NodeKind.make_takes .column _ rfl [])
  | record kind fields =>
    cases h : kind.columnField? with
    | none => exact ⟨False, by simp [takes, h]⟩
    | some field =>
      have htakes : (record kind fields).takes = fun s =>
          (kind.make ((field, .str s) :: fields)).toOption.bind Value.column? := by
        funext s
        rw [ColumnEntry.takes, h, Option.bind_some]
      rw [htakes]
      exact takesBy_of_readColumn rfl (NodeKind.make_takes h fields)
  | filter b op value => exact takesBy_of_readColumn rfl (b.filter_takes op value)
  | sort b direction =>
    exact takesBy_of_plainColumn rfl (sortItem_takes b (.pair direction) direction)
  | sortItem b form direction => exact takesBy_of_plainColumn rfl (sortItem_takes b form direction)
  | joinLeft b kind table right =>
    exact takesBy_of_plainColumn rfl (joinLeft_takes b kind table right)
  | joinRight b kind table left =>
    exact takesBy_of_plainColumn rfl (joinRight_takes b kind table left)
  | item b =>
    have hitem : TakesBy (fun s name => plainColumn .join (.str s) = .ok name) (item b).takes :=
      ⟨True, fun _ _ => item_takes_iff.trans (and_iff_left trivial).symm⟩
    exact takesBy_of_plainColumn rfl hitem

theorem Works.takes_eq_some_iff (h : e.Works) {s name : String} :
    e.takes s = some name ↔ e.Reads s name := by
  obtain ⟨suits, htakes⟩ := e.takesBy
  obtain ⟨known, kept, hknown⟩ := h
  rw [htakes, and_iff_left ((htakes known kept).mp hknown).2]

theorem Works.takes_eq (h : e.Works) {s : String} (hs : IsColumnName (trim s))
    (has : e.readsRenames = true → ¬ AliasSyntax.IsAs (trim s).toList) :
    e.takes s = some (trim s) :=
  h.takes_eq_some_iff.mpr ⟨rfl, hs, has⟩

end ColumnEntry

theorem insertColumn_str {s name : String} (h : insertColumn (.str s) = .ok name) :
    trim s = name ∧ Identifier.isValid name = true :=
  ⟨(insertColumn_eq_columnKey h).symm, insertColumn_isValid h⟩

/-- A key of a row that is accepted is a plain column of a row that is kept. -/
theorem InsertBuilder.apply_values_key {b next : InsertBuilder} {v x : Value} {es : Mapping}
    {s : String} (h : b.apply (.values v) = .ok next) (hes : .dict es ∈ v.givenRows)
    (hx : (.str s, x) ∈ es) :
    Identifier.isValid (trim s) = true ∧ ∃ row ∈ next.query.rows, trim s ∈ row.map Prod.fst := by
  obtain ⟨rows, hrows, rfl⟩ := apply_values_iff.mp h
  constructor
  · obtain ⟨e, fs, hdict, hnames⟩ := (rowsOf_isOk_iff.mp ⟨rows, hrows⟩).2 _ hes
    cases hdict
    obtain ⟨name, hname⟩ := hnames _ hx
    obtain ⟨rfl, hvalid⟩ := insertColumn_str hname
    exact hvalid
  · obtain ⟨i, hi, hget⟩ := List.getElem_of_mem hes
    have hbecome := rowsOf_becomeRows hrows
    have hi' : i < rows.length := hbecome.length_eq ▸ hi
    obtain ⟨fs, hfs, hkept⟩ := hbecome.get hi hi'
    cases hget.symm.trans hfs
    refine ⟨rows[i], List.mem_append_right _ (List.getElem_mem hi'), ?_⟩
    have hnames : (rows.get ⟨i, hi'⟩).map Prod.fst = es.columns.eraseDups := hkept.names
    rw [List.get_eq_getElem] at hnames
    rw [hnames, List.mem_eraseDups]
    exact List.mem_map.mpr ⟨_, hx, rfl⟩

theorem isValid_of_isAs {name : String} (has : AliasSyntax.IsAs name.toList)
    (h : IsColumnName name) : Identifier.isValid name = true := by
  have letters : ∀ a ∈ ['a', 'A'], ∀ s ∈ ['s', 'S', '\u017f'], '.' ∉ [a, s] := by simp
  cases h with
  | bare hc => exact hc
  | @qualified q c hq hc =>
    obtain ⟨a, ha, b, hb, hname⟩ := has
    have hdot : '.' ∈ (q ++ "." ++ c).toList := by simp
    rw [hname] at hdot
    exact absurd hdot (letters a ha b hb)

namespace ColumnEntry

variable {e f : ColumnEntry}

/-- All places take the same columns, but for the word AS, and keep them without the blanks around
them. That word is taken as a name, if it is one, just where it is not read as a rename. A column
that a row names is taken everywhere else, unless it is that word. -/
theorem Works.takes_agree (he : e.Works) (hf : f.Works) (s : String) :
    (∀ name, e.takes s = some name → name = trim s) ∧
      (¬ AliasSyntax.IsAs (trim s).toList → e.takes s = f.takes s) ∧
      (AliasSyntax.IsAs (trim s).toList → e.takes s =
        if e.readsRenames = false ∧ Identifier.isValid (trim s) = true then some (trim s)
        else none) ∧
      ∀ (b next : InsertBuilder) (v x : Value) (es : Mapping), b.apply (.values v) = .ok next →
        .dict es ∈ v.givenRows → (.str s, x) ∈ es →
          (∃ row ∈ next.query.rows, trim s ∈ row.map Prod.fst) ∧
            (¬ AliasSyntax.IsAs (trim s).toList → e.takes s = some (trim s)) := by
  refine ⟨fun name hname => ?_, fun has => ?_, fun has => ?_, fun b next v x es h hes hx => ?_⟩
  · exact (he.takes_eq_some_iff.mp hname).trimmed.symm
  · apply Option.ext
    intro name
    rw [he.takes_eq_some_iff, hf.takes_eq_some_iff]
    have hreads : ∀ {e f : ColumnEntry}, e.Reads s name → f.Reads s name := fun hr =>
      ⟨hr.trimmed, hr.isColumn, fun _ => hr.trimmed ▸ has⟩
    exact ⟨hreads, hreads⟩
  · have hvalid : IsColumnName (trim s) → Identifier.isValid (trim s) = true := isValid_of_isAs has
    split
    next h => exact he.takes_eq (.bare h.2) (by simp [h.1])
    next h =>
      rw [Option.eq_none_iff_forall_ne_some]
      intro name hname
      obtain ⟨rfl, hcolumn, hnot⟩ := he.takes_eq_some_iff.mp hname
      cases hrename : e.readsRenames with
      | true => exact hnot hrename has
      | false => exact h ⟨hrename, hvalid hcolumn⟩
  · obtain ⟨hvalid, hrow⟩ := InsertBuilder.apply_values_key h hes hx
    exact ⟨hrow, fun has => he.takes_eq (.bare hvalid) fun _ => has⟩

/-- A SELECT from one table. -/
def users : SelectBuilder :=
  ⟨{ table := ⟨"users", none⟩ }, { tables := [⟨"users", none⟩] }⟩

theorem works_item (b : SelectBuilder) : (item b).Works := by
  have hid : plainColumn .join (.str "id") = .ok "id" :=
    plainColumn_eq_ok_iff.mpr ⟨rfl, .bare (by decide), by decide⟩
  exact ⟨"id", "id", item_takes_iff.mpr hid⟩

theorem works_filter : (filter users (.str "=") (.int 1)).Works :=
  ⟨"id", "id", by decide +kernel⟩

theorem takes_agree_users : (filter users (.str "=") (.int 1)).Works ∧ (item users).Works ∧
    ¬ AliasSyntax.IsAs (trim " users.id ").toList ∧
    (filter users (.str "=") (.int 1)).takes " users.id " = (item users).takes " users.id " ∧
    ∃ name, (item users).takes " users.id " = some name ∧ name = "users.id" := by
  have has : ¬ AliasSyntax.IsAs (trim " users.id ").toList := by decide +kernel
  obtain ⟨htrimmed, hsame, _⟩ := works_filter.takes_agree (works_item users) " users.id "
  have htaken : ∃ name, (filter users (.str "=") (.int 1)).takes " users.id " = some name := by
    rw [← Option.isSome_iff_exists]
    decide +kernel
  obtain ⟨name, hname⟩ := htaken
  have htrim : trim " users.id " = "users.id" := by decide +kernel
  have hagree := hsame has
  exact ⟨works_filter, works_item users, has, hagree, name, hagree.symm.trans hname,
    (htrimmed name hname).trans htrim⟩

/-- A name that a row and a filter take, and that a list refuses. -/
theorem takes_as_differs : (filter users (.str "=") (.int 1)).Works ∧ (item users).Works ∧
    (∃ next, InsertBuilder.apply ⟨{ table := ⟨"users", none⟩ }⟩
      (.values (.dict [(.str "as", .int 1)])) = .ok next ∧
      next.query.rows.map (·.map Prod.fst) = [["as"]]) ∧
    (filter users (.str "=") (.int 1)).takes "as" = some "as" ∧ (item users).takes "as" = none := by
  refine ⟨works_filter, works_item users, ⟨_, rfl, by decide +kernel⟩, by decide +kernel, ?_⟩
  rw [Option.eq_none_iff_forall_ne_some]
  intro name hname
  obtain ⟨rfl, _, has⟩ := plainColumn_eq_ok_iff.mp (item_takes_iff.mp hname)
  exact has (by decide +kernel)

end ColumnEntry

end QueryBuilder
