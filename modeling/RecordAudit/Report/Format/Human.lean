import RecordAudit.Report.Format.Config
import RecordAudit.Text.Blank

/-!
# Reports for terminals

Lines of text with a summary, the statistics and the violations that are shown; marks and
counts may be coloured.
-/

namespace RecordAudit.Report

/-- A text in a terminal colour. -/
def paint (c : FormatConfig) (color text : String) : String :=
  if c.colors then "\x1b[" ++ color ++ "m" ++ text ++ "\x1b[0m" else text

/-- The lines of the statistics of a column. -/
def statsLines (c : FormatConfig) (s : ColumnStats Float) : List String :=
  let percentiles :=
    if c.percentiles ∧ ¬s.percentiles.isEmpty then
      let entries := s.percentiles.map fun p =>
        percentileLabel p.quantile ++ "=" ++ Number.fixed 3 p.value
      ["      Percentiles (" ++ (if s.exact then "exact" else "approximate") ++ "): " ++
        " ".intercalate entries]
    else []
  ["   " ++ s.column ++ ":",
    "      Count: " ++ toString s.count ++ " (skipped " ++ toString s.skipped ++ ")",
    "      Mean: " ++ statText s.mean ++ "  Std Dev: " ++ statText s.deviation,
    "      Min: " ++ statText s.least ++ "  Max: " ++ statText s.greatest] ++ percentiles

/-- The line of a violation. -/
def violationLine (c : FormatConfig) (v : Violation) : String :=
  "   " ++ paint c "31" "✗" ++ " record " ++ toString v.recordIndex ++ " · " ++ v.field ++ " [" ++
    v.kind.name ++ "]: " ++ v.message

/-- The lines that tell how many violations are not shown. -/
def moreLines (c : FormatConfig) (total : Nat) : List String :=
  match c.limit? with
  | some limit =>
    if limit < total then
      ["", "   ... and " ++ toString (total - limit) ++ " more violations"]
    else []
  | none => []

/-- The lines of a report that is written at some time. -/
def humanLines (r : Report Float) (c : FormatConfig) (time : String) : List String :=
  let verdict :=
    if r.isAllValid then "✅ " ++ paint c "32" "All records valid"
    else "❌ " ++ paint c "31" "Invalid records found"
  let stamp := if c.timestamps then ["Generated: " ++ time] else []
  let summary := ["", "📊 Summary:",
    "   Total Records: " ++ toString r.total,
    "   ✅ Valid: " ++ paint c "32" (toString r.valid),
    "   ❌ Invalid: " ++ paint c "31" (toString r.invalid),
    "   ⏭️  Filtered: " ++ paint c "33" (toString r.filtered),
    "   Validity Rate: " ++ Number.fixed 1 r.validityRate ++ "%"]
  let stats :=
    if c.stats ∧ ¬r.columns.isEmpty then
      ["", "📈 Column Statistics:"] ++ r.columns.flatMap fun (_, s) => statsLines c s
    else []
  let violations :=
    if c.violations ∧ ¬r.isAllValid then
      ["", "🔍 Violations:"] ++ (c.shown r.violations).map (violationLine c) ++
        moreLines c r.violations.length
    else []
  ["", verdict] ++ stamp ++ summary ++ stats ++ violations ++ [""]

/-- A report as a text for terminals. -/
def toHumanText (r : Report Float) (c : FormatConfig) (time : String) : String :=
  Text.unlines (r.humanLines c time)

end RecordAudit.Report
