import SqlCatalog.Catalog
import SqlCatalog.Catalog.Json
import SqlCatalog.Column
import SqlCatalog.ColumnType
import SqlCatalog.Command.Answer
import SqlCatalog.Command.Config
import SqlCatalog.Command.Failure
import SqlCatalog.Command.Loading
import SqlCatalog.Command.Options
import SqlCatalog.Command.Report
import SqlCatalog.Command.Request
import SqlCatalog.Command.Run
import SqlCatalog.Decimal.Binary64
import SqlCatalog.Decimal.Shortest
import SqlCatalog.Declaration
import SqlCatalog.Dict
import SqlCatalog.Digest.Md5
import SqlCatalog.Document
import SqlCatalog.Document.Reader
import SqlCatalog.Document.Value
import SqlCatalog.Error
import SqlCatalog.Files
import SqlCatalog.Files.Pattern
import SqlCatalog.Files.Search
import SqlCatalog.Files.Tree
import SqlCatalog.Json.Number
import SqlCatalog.Json.Reading
import SqlCatalog.Json.Token
import SqlCatalog.Json.Value
import SqlCatalog.Lifetime
import SqlCatalog.Main
import SqlCatalog.Migration
import SqlCatalog.Operator
import SqlCatalog.Query
import SqlCatalog.Query.Json
import SqlCatalog.Query.Permission
import SqlCatalog.Query.Select
import SqlCatalog.Query.Where
import SqlCatalog.Schema.Draft
import SqlCatalog.Sql.Clause
import SqlCatalog.Sql.Connection
import SqlCatalog.Sql.Database
import SqlCatalog.Sql.Dialect
import SqlCatalog.Sql.Placeholder
import SqlCatalog.Sql.RowChange
import SqlCatalog.Sql.Storage
import SqlCatalog.Sql.TableChange
import SqlCatalog.TableName
import SqlCatalog.Text
import SqlCatalog.Text.Escaped
import SqlCatalog.Text.Invisible
import SqlCatalog.Text.Mark
import SqlCatalog.Toml.Moment
import SqlCatalog.Toml.Node
import SqlCatalog.Toml.Quoted
import SqlCatalog.Toml.Reading
import SqlCatalog.Toml.Scalar
import SqlCatalog.Toml.Value
import SqlCatalog.View
import SqlCatalog.Proofs.Digits
import SqlCatalog.Proofs.Placeholder
import SqlCatalog.Proofs.Lexer
import SqlCatalog.Proofs.Compiled
import SqlCatalog.Proofs.Reading
import SqlCatalog.Proofs.Alignment
import SqlCatalog.Proofs.Ddl
import SqlCatalog.Proofs.Declared
import SqlCatalog.Proofs.Built
import SqlCatalog.Proofs.Registered
import SqlCatalog.Proofs.Layout
import SqlCatalog.Proofs.Migration
import SqlCatalog.Proofs.Validated
import SqlCatalog.Proofs.Unambiguous
import SqlCatalog.Proofs.WellFormed
import SqlCatalog.Proofs.Links
import SqlCatalog.Proofs.Reordered
import SqlCatalog.Proofs.Confined
import SqlCatalog.Proofs.Identity
import SqlCatalog.Proofs.Relations
import SqlCatalog.Proofs.JsonReader
import SqlCatalog.Proofs.QueryJson
import SqlCatalog.Proofs.Faults
import SqlCatalog.Proofs.Shapes
import SqlCatalog.Proofs.Loading
import SqlCatalog.Proofs.JsonIndented
import SqlCatalog.Proofs.CatalogJson
import SqlCatalog.Proofs.Composition
import SqlCatalog.Proofs.Permitted
import SqlCatalog.Proofs.Acceptance
import SqlCatalog.Proofs.Minimal
import SqlCatalog.Proofs.Templates
import SqlCatalog.Proofs.DeclaredTypes
import SqlCatalog.Proofs.Headers
import SqlCatalog.Proofs.Lifetimes
import SqlCatalog.Proofs.Distinct
import SqlCatalog.Proofs.Dml
import SqlCatalog.Proofs.Connections
