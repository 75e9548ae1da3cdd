import RecordAudit.Report.Format.Config
import RecordAudit.Text.Blank

/-!
# Reports in Markdown

Headings, and tables for the summary, the statistics and the violations that are shown.  A
vertical bar in a message is escaped, so that it ends no cell.
-/

namespace RecordAudit.Report

/-- A line of a table. -/
def tableRow (cells : List String) : String := "| " ++ " | ".intercalate cells ++ " |"

/-- A text in which each vertical bar has a backslash before it. -/
def escapedBars (text : String) : String :=
  String.ofList (text.toList.flatMap fun c => if c = '|' then ['\\', '|'] else [c])

/-- The line of a violation. -/
def violationRow (v : Violation) : String :=
  tableRow [toString v.recordIndex, v.field, v.kind.name, escapedBars v.message]

/-- The line of the statistics of a column. -/
def statsRow (s : ColumnStats Float) : String :=
  tableRow [s.column, toString s.count, toString s.skipped, statText s.mean, statText s.deviation,
    statText s.least, statText s.greatest]

/-- The lines of the percentiles of a column, if there are any. -/
def percentileLines (s : ColumnStats Float) : List String :=
  if s.percentiles.isEmpty then []
  else
    ["", "**" ++ s.column ++ " percentiles**", ""] ++ s.percentiles.map fun p =>
      "- " ++ percentileLabel p.quantile ++ ": " ++ Number.fixed 3 p.value

/-- The lines that tell how many violations are not shown. -/
def noteLines (c : FormatConfig) (total : Nat) : List String :=
  match c.limit? with
  | some limit =>
    if limit < total then
      ["", "> **Note:** " ++ toString (total - limit) ++
        " additional violations not shown in this report."]
    else []
  | none => []

/-- The hash signs of a heading; as sections stand one level below, the level is at most five. -/
def heading (level : Nat) : String := String.ofList (List.replicate (max 1 (min level 5)) '#')

/-- The lines of a report that is written at some time, with a heading of some level. -/
def markdownLines (r : Report Float) (c : FormatConfig) (level : Nat) (time : String) :
    List String :=
  let h := heading level
  let title :=
    if r.isAllValid then h ++ " ✅ Aggregation Report - VALID"
    else h ++ " ❌ Aggregation Report - INVALID"
  let stamp := if c.timestamps then ["", "**Generated:** " ++ time] else []
  let summary := ["", h ++ "# Summary", "", tableRow ["Metric", "Value"], "|--------|-------|",
    tableRow ["Total Records", toString r.total], tableRow ["Valid", toString r.valid],
    tableRow ["Invalid", toString r.invalid], tableRow ["Filtered", toString r.filtered],
    tableRow ["Validity Rate", Number.fixed 1 r.validityRate ++ "%"]]
  let stats :=
    if c.stats ∧ ¬r.columns.isEmpty then
      ["", h ++ "# Column Statistics", "",
        tableRow ["Column", "Count", "Skipped", "Mean", "Std Dev", "Min", "Max"],
        "|--------|-------|---------|------|---------|-----|-----|"] ++
        r.columns.map (fun (_, s) => statsRow s) ++
        (if c.percentiles then r.columns.flatMap fun (_, s) => percentileLines s else [])
    else []
  let violations :=
    if c.violations ∧ ¬r.isAllValid then
      ["", h ++ "# Violations", "", tableRow ["Record", "Field", "Kind", "Message"],
        "|--------|-------|------|---------|"] ++
        (c.shown r.violations).map violationRow ++ noteLines c r.violations.length
    else []
  [title] ++ stamp ++ summary ++ stats ++ violations

/-- A report as a Markdown text. -/
def toMarkdown (r : Report Float) (c : FormatConfig) (level : Nat) (time : String) : String :=
  Text.unlines (r.markdownLines c level time)

end RecordAudit.Report
