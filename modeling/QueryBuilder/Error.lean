import QueryBuilder.Value.Display
import QueryBuilder.Value.Document

/-!
Everything that can go wrong, as causes. The wording of a cause is `message`, the data that goes
with it is `details`.
-/
namespace QueryBuilder

/-- What a blank text was meant to name. -/
inductive Subject where
  | table | column | jsonbKey | rawSql
  deriving DecidableEq, Repr

def Subject.text : Subject → String
  | table => "table"
  | column => "column"
  | jsonbKey => "jsonb key"
  | rawSql => "raw SQL"

/-- Why a table, column or alias expression cannot be read. -/
inductive SyntaxFault where
  | nameMissing (subject : Subject)
  | aliasMissing
  | aliasRepeated
  | aliasNotIdentifier (aliasName : String)
  | aliasReserved (aliasName : String)
  | tableNotIdentifier (name : String)
  | notIdentifier (part : String)
  | tooManyQualifiers
  | starAliased
  | starOutsideSelect
  | renameOutsideSelect
  | notPlainColumn
  deriving DecidableEq, Repr

def SyntaxFault.message : SyntaxFault → String
  | nameMissing subject => s!"missing {subject.text} name before AS"
  | aliasMissing => "missing alias after AS"
  | aliasRepeated => "only one AS keyword is allowed"
  | aliasNotIdentifier aliasName => s!"alias {Text.quote aliasName} is not a valid identifier"
  | aliasReserved aliasName => s!"alias {Text.quote aliasName} is a reserved SQL keyword"
  | tableNotIdentifier name => s!"table name {Text.quote name} is not a valid identifier"
  | notIdentifier part => s!"{Text.quote part} is not a valid identifier"
  | tooManyQualifiers => "column references allow at most one qualifier"
  | starAliased => "a star selection cannot be aliased"
  | starOutsideSelect => "a star is only valid in a SELECT list"
  | renameOutsideSelect => "a column rename is only allowed in a SELECT list"
  | notPlainColumn => "expected a plain column name"

/-- Why a column reference belongs to no table in scope. -/
inductive ResolutionFault where
  | unknownQualifier (qualifier : String)
  | unknownColumn (table column : String)
  | unowned
  | ambiguous
  deriving DecidableEq, Repr

def ResolutionFault.message : ResolutionFault → String
  | unknownQualifier q => s!"qualifier '{q}' is not in scope"
  | unknownColumn table column => s!"table '{table}' has no column '{column}'"
  | unowned => "no table in scope has this column"
  | ambiguous => "the name is ambiguous; qualify it with one of the tables in scope"

/-- The functions that check their arguments themselves. -/
inductive Method where
  | select | returning | columns | filter | join | orderBy | limit | offset | values
  | constraint | doUpdate | onConflict | path | negate | combine (op : Connective)
  deriving DecidableEq, Repr

def Method.text : Method → String
  | select => "select"
  | returning => "returning"
  | columns => "columns"
  | filter => "where"
  | join => "join"
  | orderBy => "order_by"
  | limit => "limit"
  | offset => "offset"
  | values => "values"
  | constraint => "constraint"
  | doUpdate => "do_update"
  | onConflict => "on_conflict"
  | path => "path"
  | negate => "not_"
  | combine op => op.combinator

/-- Why an operand does not suit its operator or the function it was passed to. -/
inductive OperandFault where
  | columnNotText (type : String)
  | membershipNotList (op : Comparison) (type : String)
  | membershipEmpty (op : Comparison)
  | nullTestOperand (op : Comparison)
  /-- The operator is what is written for it, which need not be a text. -/
  | comparedWithNull (op : Value)
  | elementType (text : String)
  | arrayOperand (takesList : Bool) (op : Value)
  | pathMissing (op : JsonbOperator)
  | pathUnexpected (op : Value)
  | keyMissing
  | keysMissing (op : JsonbOperator)
  | keysNotText (op : JsonbOperator)
  | operandUnexpected (op : JsonbOperator)
  | operandMissing (op : Value)
  | operatorNotText (type : String)
  | operatorUnknown (operator : Value)
  | direction (value : Value)
  | document (op : JsonbOperator) (fault : DocumentFault)
  | countNotInteger (method : Method) (type : String)
  | countNegative (method : Method)
  | namesNotText (method : Method) (type : String)
  | columnNameNotText (method : Method) (type : String)
  | notCondition (method : Method) (type : String)
  | jsonbKeyNotText (type : String)
  | pathNotList
  | pathEmpty
  | filterOperatorMissing
  | filterAnswer (type : String)
  | filterTarget (type : String)
  | orderByNotList
  | orderByItem
  | rowsMissing
  | rowNotMapping
  | insertColumnNotText (type : String)
  | conflictColumnsMissing
  | constraintNotText
  | assignmentsMissing
  | conflictActionMissing
  | conflictTargetMissing
  | conflictAssignmentsMissing
  | conflictAnswer (type : String)
  | insertEmpty

namespace OperandFault

def message : OperandFault → String
  | columnNotText t => s!"Column must be a string, got {t}."
  | membershipNotList op t => s!"'{op.text}' requires a list of values, got {t}."
  | membershipEmpty op => s!"'{op.text}' requires at least one value."
  | nullTestOperand op => s!"'{op.text}' only accepts None."
  | comparedWithNull op => s!"'{op.text}' cannot compare against None; use 'is' or 'is not'."
  | elementType text => s!"Invalid array element type {Text.quote text}."
  | arrayOperand takesList op =>
    let expected := if takesList then "a list of values" else "a single value"
    s!"Array operator '{op.text}' requires {expected}."
  | pathMissing op => s!"jsonb operator '{op.text}' needs a field path."
  | pathUnexpected op => s!"jsonb operator '{op.text}' applies to the whole document."
  | keyMissing => "has_key requires a non-empty key."
  | keysMissing op => s!"{op.text} requires a non-empty list of keys."
  | keysNotText op => s!"{op.text} keys must be strings."
  | operandUnexpected op => s!"{op.text} takes no operand."
  | operandMissing op =>
    s!"jsonb operator '{op.text}' requires a value; use is_null() for NULL checks."
  | operatorNotText t => s!"Operator must be a string, got {t}."
  | operatorUnknown operator =>
    let supported := ", ".intercalate (Comparison.all.map Comparison.text)
    s!"Unsupported comparison operator {operator.display}; expected one of: {supported}."
  | direction value => s!"Sort direction must be 'asc' or 'desc', got {value.display}."
  | document _ fault => s!"jsonb operand is not JSON serializable: {fault.message}"
  | countNotInteger m t => s!"{m.text}() requires an integer, got {t}."
  | countNegative m => s!"{m.text}() requires a non-negative integer."
  | namesNotText m t => s!"{m.text}() expects column names, got {t}."
  | columnNameNotText m t => s!"{m.text}() expects a column name, got {t}."
  | notCondition m t => s!"{m.text}() expects expression nodes, got {t}."
  | jsonbKeyNotText t => s!"jsonb keys must be strings, got {t}."
  | pathNotList => "path() requires a list of keys."
  | pathEmpty => "path() requires at least one key."
  | filterOperatorMissing => "where(column, operator, value) requires an operator."
  | filterAnswer t => s!"where() callback must return an expression, got {t}."
  | filterTarget t => s!"where() cannot use a {t}."
  | orderByNotList => "order_by() expects a column or a list of items."
  | orderByItem => "Invalid order_by() item."
  | rowsMissing => "values() requires at least one row."
  | rowNotMapping => "values() rows must be non-empty mappings of column to value."
  | insertColumnNotText t => s!"Column names must be strings, got {t}."
  | conflictColumnsMissing => "columns() requires at least one column."
  | constraintNotText => "constraint() expects a name."
  | assignmentsMissing => "do_update() requires a non-empty mapping of column to value."
  | conflictActionMissing => "on_conflict() callback must choose do_nothing() or do_update()."
  | conflictTargetMissing => "ON CONFLICT DO UPDATE requires conflict columns or a constraint."
  | conflictAssignmentsMissing => "ON CONFLICT DO UPDATE requires at least one assignment."
  | conflictAnswer t => s!"on_conflict() callback must return the conflict builder, got {t}."
  | insertEmpty => "INSERT requires at least one row with at least one column."

/-- The operator or function that refused the operand, where the cause names one. -/
def operator : OperandFault → Value
  | membershipNotList op _ | membershipEmpty op | nullTestOperand op => .str op.text
  | comparedWithNull op | arrayOperand _ op | pathUnexpected op | operandMissing op => op
  | pathMissing op | keysMissing op | keysNotText op | operandUnexpected op | document op _ =>
    .str op.text
  | keyMissing => .str JsonbOperator.hasKey.text
  | operatorUnknown operator => operator
  | countNotInteger m _ | countNegative m | namesNotText m _ | columnNameNotText m _
  | notCondition m _ => .str m.text
  | pathNotList | pathEmpty => .str Method.path.text
  | filterOperatorMissing | filterAnswer _ | filterTarget _ => .str Method.filter.text
  | direction _ | orderByNotList | orderByItem => .str Method.orderBy.text
  | rowsMissing | rowNotMapping | insertEmpty => .str Method.values.text
  | conflictColumnsMissing => .str Method.columns.text
  | constraintNotText => .str Method.constraint.text
  | assignmentsMissing | conflictTargetMissing | conflictAssignmentsMissing =>
    .str Method.doUpdate.text
  | conflictActionMissing | conflictAnswer _ => .str Method.onConflict.text
  | columnNotText _ | elementType _ | operatorNotText _ | jsonbKeyNotText _
  | insertColumnNotText _ => .null

end OperandFault

/-- Why a statement or a placeholder has no rendering. -/
inductive CompilationFault where
  | statement (type : String)
  | condition (type : String)
  | jsonbOperator (text : String)
  | placeholder (index : Nat)
  deriving DecidableEq, Repr

namespace CompilationFault

def message : CompilationFault → String
  | statement t => s!"Cannot compile {t}."
  | condition t => s!"Unknown expression node type: {t}"
  | jsonbOperator text => s!"Unknown jsonb operator '{text}'."
  | placeholder n => s!"Placeholder ${n} has no parameter."

/-- The clause in which the fault was met. -/
def clause : CompilationFault → Option String
  | condition _ | jsonbOperator _ => some "WHERE"
  | statement _ | placeholder _ => none

end CompilationFault

/-- Why a field does not hold what its record asks for. -/
inductive IssueKind where
  | missing | extra | invalidKey
  | textType | textEncoding | boolType | boolParsing
  | intType | intParsing | intParsingSize | intFraction | notFinite | belowMinimum
  | enumeration | literal | listType | tupleType | mappingType | recordType
  | unionType | unionTagMissing | unionTagUnknown | rejected
  deriving DecidableEq, Repr

/-- A step on the way to a field: its name or its position. -/
inductive Step where
  | name (s : String)
  | index (i : Int)
  deriving DecidableEq, Repr

structure Issue where
  kind : IssueKind
  path : List Step
  deriving DecidableEq, Repr

inductive Error where
  | malformed (expression : Value) (fault : SyntaxFault)
  | empty (subject : Subject) (expression : Value)
  | duplicateQualifier (qualifier existing added : String)
  | aliasedTable (reference table aliasName : String)
  | unresolved (reference : Value) (fault : ResolutionFault) (candidates : List String)
  | operand (fault : OperandFault) (operand : Value)
  | compilation (fault : CompilationFault)
  | noExecutor
  /-- The fields of a record do not fit. -/
  | invalid (issues : List Issue)
  /-- A value has no JSON text where no operator is at hand to name. -/
  | document (fault : DocumentFault)
  /-- A number has more digits than are read from a text or written as one. -/
  | tooManyDigits
  /-- The arguments of a call fit no parameters. -/
  | arguments
  /-- A value of a type that the operation is not defined on. -/
  | wrongType (type : String)
  | noSuchMember (name : String)
  | noSuchKey (name : String)
  | noSuchTable (name : String)

namespace Error

/-- The error about a value without a document where no operator is at hand to name. -/
def ofDocument : DocumentFault → Error
  | .digits => .tooManyDigits
  | fault => .document fault

def message : Error → String
  | malformed expression fault => s!"Malformed expression {expression.display}: {fault.message}"
  | empty subject expression =>
    s!"Malformed expression {expression.display}: {subject.text} name must not be empty"
  | duplicateQualifier q existing added =>
    s!"Qualifier '{q}' is already used by table '{existing}'; " ++
      s!"cannot register table '{added}' under the same name."
  | aliasedTable reference table aliasName =>
    s!"Column reference '{reference}' uses table name '{table}', but the table is aliased as " ++
      s!"'{aliasName}'; use '{aliasName}' instead."
  | unresolved reference fault _ => s!"Cannot resolve column '{reference.text}': {fault.message}"
  | operand fault _ => fault.message
  | compilation fault => fault.message
  | noExecutor =>
    "No executor configured; pass one to execute() or to PgFluent(executor=...)."
  | invalid _ => "Invalid fields."
  | document fault => fault.message
  | tooManyDigits => DocumentFault.digits.message
  | arguments => "The arguments do not fit the parameters."
  | wrongType t => s!"The operation is not defined on {t}."
  | noSuchMember name => s!"There is no member {name}."
  | noSuchKey name => s!"There is no entry for {name}."
  | noSuchTable name => s!"There is no table {name}."

/-- The code of an error about the construction of a query. -/
def code? : Error → Option String
  | malformed .. => some "MALFORMED_EXPRESSION"
  | empty .. => some "EMPTY_IDENTIFIER"
  | duplicateQualifier .. => some "DUPLICATE_ALIAS"
  | aliasedTable .. => some "ALIAS_EXCLUSIVITY_VIOLATION"
  | unresolved .. => some "UNRESOLVED_COLUMN"
  | operand .. => some "INVALID_OPERAND"
  | _ => none

def details : Error → List (String × Value)
  | malformed expression fault => [("expression", expression), ("reason", .str fault.message)]
  | empty subject expression =>
    [("expression", expression), ("reason", .str s!"{subject.text} name must not be empty")]
  | duplicateQualifier q existing added =>
    [("qualifier", .str q), ("existing_table", .str existing), ("new_table", .str added)]
  | aliasedTable reference table aliasName =>
    [("reference", .str reference), ("table", .str table), ("alias", .str aliasName)]
  | unresolved reference fault candidates =>
    [("reference", reference), ("reason", .str fault.message),
     ("candidates", .list (candidates.map .str))]
  | operand fault v => [("operator", fault.operator), ("operand", .str v.summary)]
  | _ => []

end Error

/-- Applies a function to the items of a list up to the first error. -/
def forEach {α β : Type} (f : α → Except Error β) : List α → Except Error (List β)
  | [] => .ok []
  | a :: as => do
    let b ← f a
    .ok (b :: (← forEach f as))

end QueryBuilder
