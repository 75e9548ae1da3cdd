import RecordAudit.Record.ValueJson
import RecordAudit.Report.Format.Human
import RecordAudit.Report.Format.Json
import RecordAudit.Report.Format.Markdown
import RecordAudit.Report.Hashing
import RecordAudit.Report.Page
import RecordAudit.Source.Columnar
import RecordAudit.Proofs.Number.Order
import RecordAudit.Proofs.Number.Rational
import RecordAudit.Proofs.Number.Extended
import RecordAudit.Proofs.Number.Packing
import RecordAudit.Proofs.Record.Numeric
import RecordAudit.Proofs.Constraint.Range
import RecordAudit.Proofs.Stats.InPlace
import RecordAudit.Proofs.Stats.Moments
import RecordAudit.Proofs.Stats.Sampling
import RecordAudit.Proofs.Stats.Uniformity
import RecordAudit.Proofs.Stats.Tally
import RecordAudit.Proofs.Stats.Accumulator
import RecordAudit.Proofs.Stats.Percentiles
import RecordAudit.Proofs.Aggregation.SinglePass
import RecordAudit.Proofs.Constraint.Reindexing
import RecordAudit.Proofs.Constraint.ReadViolations
import RecordAudit.Proofs.Aggregation.Shards
import RecordAudit.Proofs.Aggregation.Conservation
import RecordAudit.Proofs.Aggregation.Endings
import RecordAudit.Proofs.Aggregation.Interruption
import RecordAudit.Proofs.Aggregation.ReferencedFields
import RecordAudit.Proofs.Aggregation.Findings
import RecordAudit.Proofs.Aggregation.FilterOrder
import RecordAudit.Proofs.Number.Nearest
import RecordAudit.Proofs.Number.Reading
import RecordAudit.Proofs.Filter.Ranges
import RecordAudit.Proofs.Filter.Equality
import RecordAudit.Proofs.Stats.LifeCycle
import RecordAudit.Proofs.Aggregation.Transactions
import RecordAudit.Proofs.Source.JsonLines
import RecordAudit.Proofs.Json.Integers
import RecordAudit.Proofs.Source.Integers
import RecordAudit.Proofs.Record.Rows
import RecordAudit.Proofs.Filter.Widening
import RecordAudit.Proofs.Report.Pages
import RecordAudit.Proofs.Source.Batches
import RecordAudit.Proofs.Calendar.DayNumbers
import RecordAudit.Proofs.Source.Cells
import RecordAudit.Proofs.Report.Hashing
import RecordAudit.Proofs.Report.Violations
import RecordAudit.Proofs.Report.Tables
import RecordAudit.Proofs.Report.Markdown
import RecordAudit.Proofs.Number.Products
import RecordAudit.Proofs.Number.Shortest
import RecordAudit.Proofs.Json.Texts
import RecordAudit.Proofs.Json.Doubles
import RecordAudit.Proofs.Json.Structures
import RecordAudit.Proofs.Json.Layouts
import RecordAudit.Proofs.Stats.RoundTrip
import RecordAudit.Proofs.Text.Cut
import RecordAudit.Proofs.Aggregation.Events
