import RecordAudit.Json.Decoding
import RecordAudit.Number.Double

/-!
# Statistics of a column

What is known of a column once all its values have been seen.  Statistics are equal if
their numbers are, so that the two zeros are equal; what is fed to a hash follows that.
-/

namespace RecordAudit

/-- The value at a quantile. -/
structure Percentile where
  quantile : Float
  value : Float

/-- The statistics of a column, in some arithmetic. -/
structure ColumnStats (α : Type) where
  column : String
  count : Nat
  /-- How many values were null, no number or infinite. -/
  skipped : Nat
  mean : Option α
  variance : Option α
  sampleVariance : Option α
  least : Option α
  greatest : Option α
  percentiles : List Percentile
  /-- Whether the percentiles were taken from all values. -/
  exact : Bool

namespace ColumnStats

/-- The standard deviation. -/
def deviation (s : ColumnStats Float) : Option Float := s.variance.map Float.sqrt

/-- The value at a quantile, which is looked up with a small tolerance. -/
def percentile? (s : ColumnStats Float) (quantile : Float) : Option Float :=
  (s.percentiles.find? fun p =>
    Double.less (p.quantile - quantile).abs (Float.ofScientific 1 true 12)).map (·.value)

/-! ## Equality and hashing -/

/-- Whether two values that may be absent are both absent or equal. -/
def sameOption : Option Float → Option Float → Bool
  | some a, some b => Double.eq a b
  | none, none => true
  | _, _ => false

/-- Whether two lists of percentiles are equal. -/
def samePercentiles : List Percentile → List Percentile → Bool
  | [], [] => true
  | p :: ps, q :: qs =>
    Double.eq p.quantile q.quantile && Double.eq p.value q.value && samePercentiles ps qs
  | _, _ => false

/-- Whether two statistics are equal. -/
def same (a b : ColumnStats Float) : Bool :=
  a.column == b.column && a.count == b.count && a.skipped == b.skipped &&
    sameOption a.mean b.mean && sameOption a.variance b.variance &&
    sameOption a.sampleVariance b.sampleVariance && sameOption a.least b.least &&
    sameOption a.greatest b.greatest && samePercentiles a.percentiles b.percentiles &&
    a.exact == b.exact

/-! ## Statistics in JSON -/

open Json

/-- A percentile as JSON. -/
def percentileJson (p : Percentile) : Value :=
  .object [("quantile", ofFloat p.quantile), ("value", ofFloat p.value)]

/-- Statistics as JSON. -/
def toJson (s : ColumnStats Float) : Value :=
  .object [("column", .string s.column), ("count", Json.ofNat s.count),
    ("skipped", Json.ofNat s.skipped), ("mean", ofOption ofFloat s.mean),
    ("variance", ofOption ofFloat s.variance),
    ("sample_variance", ofOption ofFloat s.sampleVariance), ("min", ofOption ofFloat s.least),
    ("max", ofOption ofFloat s.greatest), ("percentiles", Json.ofList percentileJson s.percentiles),
    ("exact_percentiles", .boolean s.exact)]

/-- The parts of a percentile that have been read. -/
structure PercentileDraft where
  quantile : Option Float
  value : Option Float

/-- The layout of a percentile. -/
def percentileLayout : Reader.Layout PercentileDraft where
  title := "Percentile"
  fields := [
    ⟨"quantile", (·.quantile.isSome), fun d => do
      return { d with quantile := some (← Reader.double) }, false⟩,
    ⟨"value", (·.value.isSome), fun d => do
      return { d with value := some (← Reader.double) }, false⟩]
  strict := false
  mayStop := false

/-- Reads a percentile. -/
def percentileReader : Reader Percentile := do
  let d ← percentileLayout.read ⟨none, none⟩
  return ⟨d.quantile.getD 0, d.value.getD 0⟩

/-- The parts of statistics that have been read; a number that may be absent is read as such. -/
structure Draft where
  column : Option String
  count : Option Nat
  skipped : Option Nat
  mean : Option (Option Float)
  variance : Option (Option Float)
  sampleVariance : Option (Option Float)
  least : Option (Option Float)
  greatest : Option (Option Float)
  percentiles : Option (List Percentile)
  exact : Option Bool

/-- The draft without parts. -/
def Draft.empty : Draft := ⟨none, none, none, none, none, none, none, none, none, none⟩

/-- The layout of statistics. -/
def layout : Reader.Layout Draft where
  title := "ColumnStats"
  fields := [
    ⟨"column", (·.column.isSome), fun d => do
      return { d with column := some (← Reader.text) }, false⟩,
    ⟨"count", (·.count.isSome), fun d => do
      return { d with count := some (← Reader.natural64) }, false⟩,
    ⟨"skipped", (·.skipped.isSome), fun d => do
      return { d with skipped := some (← Reader.natural64) }, false⟩,
    ⟨"mean", (·.mean.isSome), fun d => do
      return { d with mean := some (← Reader.optional Reader.double) }, true⟩,
    ⟨"variance", (·.variance.isSome), fun d => do
      return { d with variance := some (← Reader.optional Reader.double) }, true⟩,
    ⟨"sample_variance", (·.sampleVariance.isSome), fun d => do
      return { d with sampleVariance := some (← Reader.optional Reader.double) }, true⟩,
    ⟨"min", (·.least.isSome), fun d => do
      return { d with least := some (← Reader.optional Reader.double) }, true⟩,
    ⟨"max", (·.greatest.isSome), fun d => do
      return { d with greatest := some (← Reader.optional Reader.double) }, true⟩,
    ⟨"percentiles", (·.percentiles.isSome), fun d => do
      return { d with percentiles := some (← Reader.list percentileReader) }, false⟩,
    ⟨"exact_percentiles", (·.exact.isSome), fun d => do
      return { d with exact := some (← Reader.boolean) }, false⟩]
  strict := false
  mayStop := false

/-- The statistics of a draft; a number that was left out is absent. -/
def Draft.stats (d : Draft) : ColumnStats Float where
  column := d.column.getD ""
  count := d.count.getD 0
  skipped := d.skipped.getD 0
  mean := d.mean.getD none
  variance := d.variance.getD none
  sampleVariance := d.sampleVariance.getD none
  least := d.least.getD none
  greatest := d.greatest.getD none
  percentiles := d.percentiles.getD []
  exact := d.exact.getD true

/-- Reads statistics. -/
def reader : Reader (ColumnStats Float) := do
  return (← layout.read Draft.empty).stats

/-- The statistics that a JSON text stands for. -/
def ofJsonText (text : String) : Except Misread (ColumnStats Float) := reader.run text

end ColumnStats

end RecordAudit
