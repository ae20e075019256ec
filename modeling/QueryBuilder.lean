import QueryBuilder.Builder.Named
import QueryBuilder.Execution
import QueryBuilder.Proofs.Builder.ColumnEntries
import QueryBuilder.Proofs.Builder.Interleaving
import QueryBuilder.Proofs.Json.Reading
import QueryBuilder.Proofs.Scope.BareNames
import QueryBuilder.Proofs.Sql.AppendedRows
import QueryBuilder.Proofs.Sql.ConflictClauses
import QueryBuilder.Proofs.Sql.Failures
import QueryBuilder.Proofs.Sql.FormatStyle
import QueryBuilder.Proofs.Sql.InsertRows
import QueryBuilder.Proofs.Sql.JoinConditions
import QueryBuilder.Proofs.Sql.KeyLiterals
import QueryBuilder.Proofs.Sql.MadeConditions
import QueryBuilder.Proofs.Sql.Opacity
import QueryBuilder.Proofs.Sql.Parenthesization
import QueryBuilder.Proofs.Sql.RenumberedFragments
import QueryBuilder.Proofs.Sql.SchemaChecks
import QueryBuilder.Proofs.Sql.SelectDecoding
import QueryBuilder.Sql.Replaced
import QueryBuilder.Proofs.Json.Numbers
import QueryBuilder.Proofs.Json.Strings
import QueryBuilder.Proofs.Json.Documents
import QueryBuilder.Proofs.Sql.BoundDocuments
import QueryBuilder.Proofs.Json.DatabaseText
import QueryBuilder.Proofs.Sql.ComparedFields
