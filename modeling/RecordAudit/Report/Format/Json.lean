import RecordAudit.Json.Writing
import RecordAudit.Report.Format.Config

/-!
# Reports as JSON documents

A summary, the statistics and the violations that are shown, with the keys of every object
in ascending order.
-/

namespace RecordAudit.Report

open Json

/-- The statistics of a column as far as they are shown. -/
def shownStats (c : FormatConfig) (s : ColumnStats Float) : Value :=
  match s.toJson with
  | .object fields =>
    .object (if c.percentiles then fields else fields.filter (·.1 ≠ "percentiles"))
  | v => v

/-- The document of a report that is written at some time. -/
def document (r : Report Float) (c : FormatConfig) (time : String) : Value :=
  let summary : Value := .object [
    ("total_records", Json.ofNat r.total), ("valid_records", Json.ofNat r.valid),
    ("invalid_records", Json.ofNat r.invalid), ("filtered_records", Json.ofNat r.filtered),
    ("validity_rate", ofFloat r.validityRate)]
  let head : List (String × Value) := [
    ("status", .string (if r.isAllValid then "valid" else "invalid")), ("summary", summary)]
  let stamp := if c.timestamps then [("generated_at", Value.string time)] else []
  let stats :=
    if c.stats then
      [("column_stats", Value.object (r.columns.map fun (k, s) => (k, shownStats c s)))]
    else []
  let violations :=
    if c.violations then
      let shown := c.shown r.violations
      [("violations", Json.ofList Violation.toJson shown),
        ("violations_truncated", Json.ofNat (r.violations.length - shown.length))]
    else []
  Json.sorted (.object (head ++ stamp ++ stats ++ violations))

/-- A report as a JSON text, spread over lines or compact. -/
def toJsonText (r : Report Float) (c : FormatConfig) (spreadOut : Bool) (time : String) : String :=
  let doc := r.document c time
  if spreadOut then pretty doc else compact doc

end RecordAudit.Report
