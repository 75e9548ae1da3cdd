import RecordAudit.Record.Value
import RecordAudit.Stats.ColumnStats
import RecordAudit.Stats.Moments
import RecordAudit.Stats.Sketch

/-!
# Accumulators

A tally takes in the values of one column as they come and keeps the moments, a sketch,
and the number of values that it had to skip.  An accumulator is a tally that can be
finalized: from then on its statistics are fixed, and it takes in nothing more.
-/

namespace RecordAudit

/-- The settings of a sketch and the quantiles that are reported from it. -/
structure SketchOptions where
  capacity : Nat
  seed : UInt64
  percentiles : List Float

/-- The settings where nothing else is asked for. -/
def SketchOptions.standard : SketchOptions := ⟨4096, 233172688, [0.5, 0.9, 0.99]⟩

/-- What has been seen of one column. -/
structure Tally (α : Type) where
  column : String
  moments : Moments α
  /-- How many values were skipped, which is taken to stay below two to the 64th. -/
  skipped : Nat
  sketch : Sketch Keystream
  percentiles : List Float

namespace Tally

variable {α : Type} [Arithmetic α]

/-- The tally of a column of which nothing has been seen. -/
def empty (column : String) (sketch : Sketch Keystream) (percentiles : List Float) : Tally α :=
  ⟨column, .empty, 0, sketch, percentiles⟩

/-- An empty tally.  Its quantiles must be fractions, and its sketch must have room. -/
def new (column : String) (options : SketchOptions) : Except ConfigurationFault (Tally α) :=
  match options.percentiles.find? fun p => !Double.isFraction p with
  | some p => .error (.columnPercentile p)
  | none =>
    match Reservoir.new options.capacity (Keystream.ofSeed options.seed) with
    | .ok sketch => .ok (empty column sketch options.percentiles)
    | .error fault => .error fault

/-- Takes in a double; one that is not finite is skipped. -/
def observe (t : Tally α) (x : Float) : Tally α :=
  if Double.isFinite x then
    { t with
      moments := t.moments.observe (Arithmetic.ofDouble x)
      sketch := Sketch.update t.sketch x }
  else { t with skipped := t.skipped + 1 }

/-- Takes in a value; one that is no number is skipped. -/
def observeValue (t : Tally α) (v : FieldValue) : Tally α :=
  match v.asFloat? with
  | some x => t.observe x
  | none => { t with skipped := t.skipped + 1 }

/-- Whether two lists of doubles are equal as numbers. -/
def sameDoubles (a b : List Float) : Bool :=
  a.length == b.length && (a.zip b).all fun (x, y) => Double.eq x y

/-- Takes over what another tally of the same column has seen. -/
def merge (a b : Tally α) : Except MergeFault (Tally α) :=
  if a.column ≠ b.column then .error (.differentColumns a.column b.column)
  else if ¬sameDoubles a.percentiles b.percentiles then .error (.differentPercentiles a.column)
  else
    match a.sketch.merge b.sketch with
    | .ok sketch =>
      .ok { a with moments := a.moments.merge b.moments, skipped := a.skipped + b.skipped, sketch }
    | .error fault => .error fault

/-- The quantiles with their values; none if nothing is kept. -/
def percentileList (t : Tally α) : List Percentile :=
  match t.sketch.quantiles t.percentiles with
  | .ok values => (t.percentiles.zip values).map fun (q, v) => ⟨q, v⟩
  | .error _ => []

/-- The statistics of what has been seen. -/
def stats (t : Tally α) : ColumnStats α where
  column := t.column
  count := t.moments.count
  skipped := t.skipped
  mean := t.moments.mean?
  variance := t.moments.variance?
  sampleVariance := t.moments.sampleVariance?
  least := t.moments.least
  greatest := t.moments.greatest
  percentiles := if t.moments.count = 0 then [] else t.percentileList
  exact := t.moments.count = 0 || t.sketch.isExact

end Tally

/-- A tally, and its statistics once they are fixed. -/
structure Accumulator (α : Type) where
  tally : Tally α
  frozen : Option (ColumnStats α)

namespace Accumulator

variable {α : Type} [Arithmetic α]

/-- An empty accumulator with the standard settings. -/
def standard (column : String) : Accumulator α :=
  ⟨.empty column (.empty 4096 (by decide) (Keystream.ofSeed SketchOptions.standard.seed))
    SketchOptions.standard.percentiles, none⟩

/-- An empty accumulator. -/
def new (column : String) (options : SketchOptions) : Except ConfigurationFault (Accumulator α) :=
  (Tally.new column options).map fun t => ⟨t, none⟩

/-- Whether the statistics are fixed. -/
def isFinalized (a : Accumulator α) : Bool := a.frozen.isSome

/-- Changes the tally, unless the statistics are fixed. -/
def whileOpen (a : Accumulator α) (f : Tally α → Tally α) : Except AuditError (Accumulator α) :=
  if a.isFinalized then .error (.accumulatorClosed a.tally.column)
  else .ok { a with tally := f a.tally }

/-- Takes in a double. -/
def observe (a : Accumulator α) (x : Float) : Except AuditError (Accumulator α) :=
  a.whileOpen (·.observe x)

/-- Takes in a value. -/
def observeValue (a : Accumulator α) (v : FieldValue) : Except AuditError (Accumulator α) :=
  a.whileOpen (·.observeValue v)

/-- Takes over what another accumulator has seen; neither may be finalized. -/
def merge (a b : Accumulator α) : Except MergeFault (Accumulator α) :=
  if a.isFinalized ∨ b.isFinalized then .error (.finalized a.tally.column)
  else (a.tally.merge b.tally).map fun t => { a with tally := t }

/-- Fixes the statistics, unless they are fixed already, and gives them. -/
def finalize (a : Accumulator α) : ColumnStats α × Accumulator α :=
  match a.frozen with
  | some s => (s, a)
  | none => (a.tally.stats, { a with frozen := some a.tally.stats })

end Accumulator

end RecordAudit
