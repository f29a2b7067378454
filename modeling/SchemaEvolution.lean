import SchemaEvolution.Cli.Arguments
import SchemaEvolution.Dialect
import SchemaEvolution.Files.Path
import SchemaEvolution.Files.Basic
import SchemaEvolution.Text.Search
import SchemaEvolution.Text.Utf8
import SchemaEvolution.Time.Instant
import SchemaEvolution.Project.Basic
import SchemaEvolution.Cli.Command
import SchemaEvolution.Text.Printable
import SchemaEvolution.Text.Styled
import SchemaEvolution.Message
import SchemaEvolution.Cli.Help
import SchemaEvolution.Decimal.Binary64
import SchemaEvolution.Decimal.Scaling
import SchemaEvolution.Decimal.Shortest
import SchemaEvolution.Decimal.Layout
import SchemaEvolution.NameMap
import SchemaEvolution.Time.Reading
import SchemaEvolution.Database.Cell
import SchemaEvolution.Database.Session
import SchemaEvolution.Sql.Reserved
import SchemaEvolution.Sql.Identifier
import SchemaEvolution.Ledger.Statements
import SchemaEvolution.Database.DryRun
import SchemaEvolution.Database.Unconnected
import SchemaEvolution.Json.Basic
import SchemaEvolution.Schema.Basic
import SchemaEvolution.Patch.Basic
import SchemaEvolution.Json.Printer
import SchemaEvolution.Text.Blank
import SchemaEvolution.Sql.Literal
import SchemaEvolution.Sql.Statement
import SchemaEvolution.Ddl.Basic
import SchemaEvolution.Ddl.Postgres
import SchemaEvolution.Ddl.Spanner
import SchemaEvolution.Ddl.Messages
import SchemaEvolution.Patch.Order
import SchemaEvolution.Patch.Between
import SchemaEvolution.Patch.Messages
import SchemaEvolution.Ddl.Compile
import SchemaEvolution.Migration.Basic
import SchemaEvolution.Migration.Messages
import SchemaEvolution.Text.Hex
import SchemaEvolution.Json.Token
import SchemaEvolution.Json.Fault
import SchemaEvolution.Json.Node
import SchemaEvolution.Json.Reader
import SchemaEvolution.Json.Data
import SchemaEvolution.Json.Form
import SchemaEvolution.Json.Variant
import SchemaEvolution.Schema.Document
import SchemaEvolution.Patch.Document
import SchemaEvolution.Migration.Document
import SchemaEvolution.Project.Error
import SchemaEvolution.Ledger.Record
import SchemaEvolution.Text.Table
import SchemaEvolution.Text.Marks
import SchemaEvolution.Text.Composites
import SchemaEvolution.Text.Composition
import SchemaEvolution.Text.Shown
import SchemaEvolution.DomainName.Table
import SchemaEvolution.DomainName.Mapping
import SchemaEvolution.DomainName.Joining
import SchemaEvolution.DomainName.Direction
import SchemaEvolution.DomainName.Punycode
import SchemaEvolution.DomainName.Basic
import SchemaEvolution.Database.UrlFault
import SchemaEvolution.Database.Host
import SchemaEvolution.Database.Url
import SchemaEvolution.Database.Connection
import SchemaEvolution.Project.Stored
import SchemaEvolution.Project.Apply
import SchemaEvolution.Project.Create
import SchemaEvolution.Cli.Run
import SchemaEvolution.Main
import SchemaEvolution.Proofs.CreationOrder
import SchemaEvolution.Proofs.LeastOrder
import SchemaEvolution.Proofs.Replay
import SchemaEvolution.Proofs.TableReplay
import SchemaEvolution.Proofs.Progress
import SchemaEvolution.Proofs.Dependencies
import SchemaEvolution.Proofs.References
import SchemaEvolution.Proofs.PrimaryKey
import SchemaEvolution.Proofs.Minimal
import SchemaEvolution.Proofs.Mirror
import SchemaEvolution.Proofs.IndexReplay
import SchemaEvolution.Proofs.Creation
import SchemaEvolution.Proofs.LedgerStack
import SchemaEvolution.Proofs.Documents
import SchemaEvolution.Proofs.MigrationChain
import SchemaEvolution.Proofs.Transactions
import SchemaEvolution.Proofs.DialectsApart
import SchemaEvolution.Proofs.Expressible
import SchemaEvolution.Proofs.NewNames
import SchemaEvolution.Proofs.SchemaIndexNames
import SchemaEvolution.Proofs.NameClashes
import SchemaEvolution.Proofs.Alterations
import SchemaEvolution.Proofs.ForeignKeys
import SchemaEvolution.Proofs.KeyNullability
import SchemaEvolution.Proofs.UniqueConstraints
import SchemaEvolution.Proofs.RestatedColumns
import SchemaEvolution.Proofs.ColumnSettings
import SchemaEvolution.Proofs.SqlTokens
import SchemaEvolution.Proofs.DeleteActions
import SchemaEvolution.Proofs.Footprint
import SchemaEvolution.Proofs.StatusReport
import SchemaEvolution.Proofs.MigrationNames
import SchemaEvolution.Proofs.DryRunScript
import SchemaEvolution.Proofs.Rollback
import SchemaEvolution.Proofs.SchemaRewording
