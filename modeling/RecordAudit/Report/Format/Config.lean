import RecordAudit.Number.Text
import RecordAudit.Report.Report

/-!
# Settings for written reports

What a written report shows, and the texts that all forms of it have in common.
-/

namespace RecordAudit

/-- What a written report shows. -/
structure FormatConfig where
  /-- The statistics of the columns. -/
  stats : Bool
  /-- The percentiles among the statistics. -/
  percentiles : Bool
  /-- The single violations. -/
  violations : Bool
  /-- How many violations are shown at most; a negative number sets no limit. -/
  maxViolations : Int
  /-- Whether terminal colours are used. -/
  colors : Bool
  /-- Whether the time of writing is shown. -/
  timestamps : Bool
deriving Repr, DecidableEq

namespace FormatConfig

/-- Everything is shown. -/
def standard : FormatConfig := ⟨true, true, true, -1, true, true⟩

/-- Only the summary is shown. -/
def minimal : FormatConfig := ⟨false, false, false, 0, false, false⟩

/-- Everything is shown. -/
def detailed : FormatConfig := standard

/-- What suits the log of an automated build. -/
def ci : FormatConfig := ⟨true, false, true, 50, false, true⟩

/-- How many violations are shown at most, if there is a limit. -/
def limit? (c : FormatConfig) : Option Nat :=
  if 0 ≤ c.maxViolations then some c.maxViolations.toNat else none

/-- The violations that are shown. -/
def shown (c : FormatConfig) (vs : List Violation) : List Violation :=
  match c.limit? with
  | some n => vs.take n
  | none => vs

end FormatConfig

namespace Report

/-- The share of valid records in percent; without records it is all of them. -/
def validityRate {α : Type} (r : Report α) : Float :=
  if r.total = 0 then 100 else Float.ofNat r.valid / Float.ofNat r.total * 100

/-- A number with three places, or a hyphen where there is none. -/
def statText : Option Float → String
  | some x => Number.fixed 3 x
  | none => "-"

/-- The name of a quantile: per cent, to a tenth. -/
def percentileLabel (q : Float) : String :=
  "p" ++ Number.plain (Double.roundedWhole (q * 1000) / 10)

end Report

end RecordAudit
