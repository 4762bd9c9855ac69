import CatalogHealth.Binary64.Basic
import CatalogHealth.Binary64.Text
import CatalogHealth.Catalog.Query
import CatalogHealth.Catalog.Row
import CatalogHealth.Catalog.Session
import CatalogHealth.Check.Basic
import CatalogHealth.Check.Bloat
import CatalogHealth.Check.Builtin
import CatalogHealth.Check.ByteSize
import CatalogHealth.Check.Invalid
import CatalogHealth.Check.KeyCover
import CatalogHealth.Check.PrimaryKey
import CatalogHealth.Check.Redundancy
import CatalogHealth.Check.SequenceRange
import CatalogHealth.Check.Unused
import CatalogHealth.Checksum
import CatalogHealth.CommandLine.Execution
import CatalogHealth.CommandLine.Help
import CatalogHealth.CommandLine.Invocation
import CatalogHealth.CommandLine.Option
import CatalogHealth.CommandLine.Reading
import CatalogHealth.Configuration
import CatalogHealth.Deadline
import CatalogHealth.Evaluation
import CatalogHealth.Exclusion
import CatalogHealth.Fault
import CatalogHealth.FileTree
import CatalogHealth.Finding.Basic
import CatalogHealth.Finding.Order
import CatalogHealth.Main
import CatalogHealth.Migration.Identifier
import CatalogHealth.Migration.IndexName
import CatalogHealth.Migration.Options
import CatalogHealth.Migration.Repair
import CatalogHealth.Migration.Script
import CatalogHealth.Migration.Statement
import CatalogHealth.Number
import CatalogHealth.Proofs.CheckFindings
import CatalogHealth.Proofs.Generation
import CatalogHealth.Proofs.KeyIndex
import CatalogHealth.Proofs.Quotation
import CatalogHealth.Proofs.Rebuilding
import CatalogHealth.Proofs.Redundancy
import CatalogHealth.Proofs.Replacement
import CatalogHealth.Proofs.Reporting
import CatalogHealth.Proofs.Sameness
import CatalogHealth.Proofs.Transactions
import CatalogHealth.Proofs.Traversal
import CatalogHealth.Registry
import CatalogHealth.Report.Basic
import CatalogHealth.Report.Json
import CatalogHealth.Report.Markdown
import CatalogHealth.Snapshot.Basic
import CatalogHealth.Snapshot.Document
import CatalogHealth.Snapshot.Object
import CatalogHealth.Sorting
import CatalogHealth.Text.Basic
import CatalogHealth.Text.Blank
import CatalogHealth.Text.Capital
import CatalogHealth.Text.DecimalDigit
import CatalogHealth.Text.Glob
import CatalogHealth.Text.Printable
import CatalogHealth.Text.Quoted
import CatalogHealth.Text.Split
import CatalogHealth.Threshold
import CatalogHealth.Value.Basic
import CatalogHealth.Value.Comparison
import CatalogHealth.Value.Json
import CatalogHealth.Value.Reading
import CatalogHealth.Yaml.Block
import CatalogHealth.Yaml.Character
import CatalogHealth.Yaml.Document
import CatalogHealth.Yaml.Folding
import CatalogHealth.Yaml.Node
import CatalogHealth.Yaml.Plain
import CatalogHealth.Yaml.Quoted
import CatalogHealth.Yaml.Scalar
import CatalogHealth.Yaml.Token
import CatalogHealth.Proofs.Recording
import CatalogHealth.Proofs.Matching
import CatalogHealth.Proofs.Ordering
import CatalogHealth.Proofs.Silencing
import CatalogHealth.Proofs.FindingKeys
import CatalogHealth.Proofs.Accounting
import CatalogHealth.Proofs.InputOrder
import CatalogHealth.Proofs.Independence
import CatalogHealth.Proofs.Locality
import CatalogHealth.Proofs.StatementOrder
import CatalogHealth.Proofs.ScriptLines
import CatalogHealth.Proofs.Range
import CatalogHealth.Proofs.Judging
import CatalogHealth.Proofs.Completion
import CatalogHealth.Proofs.DocumentFaults
import CatalogHealth.Proofs.ConfigurationUse
import CatalogHealth.Proofs.CoverLoss
import CatalogHealth.Proofs.RedundantPairs
import CatalogHealth.Proofs.ExclusionReach
import CatalogHealth.Proofs.IdentifierReading
import CatalogHealth.Proofs.Spacing
import CatalogHealth.Proofs.FlaggedIndexes
import CatalogHealth.Proofs.Interchange
import CatalogHealth.Proofs.NameShortening
import CatalogHealth.Proofs.NameComment
import CatalogHealth.Proofs.StatementText
import CatalogHealth.Proofs.NameCollision
import CatalogHealth.Proofs.Filtering
import CatalogHealth.Proofs.ThresholdBounds
import CatalogHealth.Proofs.Loosening
import CatalogHealth.Proofs.Mirroring
import CatalogHealth.Proofs.CatalogRows
import CatalogHealth.Proofs.LiteralPattern
import CatalogHealth.Proofs.RegistryHistory
import CatalogHealth.Proofs.CatalogReading
import CatalogHealth.Proofs.RelationSpelling
import CatalogHealth.Proofs.Measuring
import CatalogHealth.Proofs.MeasuredNames
import CatalogHealth.Proofs.MeasuredBloat
