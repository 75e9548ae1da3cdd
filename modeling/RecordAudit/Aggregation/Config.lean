import RecordAudit.Error
import RecordAudit.Logging.Settings
import RecordAudit.Stats.Accumulator

/-!
# Settings of a run

The settings may come from JSON, where a key that is left out keeps its standard value and
an unknown key is refused, and they are checked before a run.
-/

namespace RecordAudit

/-- The settings of a run. -/
structure AggregatorConfig where
  sketchCapacity : Nat
  sketchSeed : UInt64
  percentiles : List Float
  /-- The longest wait for a record, in milliseconds. -/
  recordTimeoutMs : Option Nat
  log : LogConfig

namespace AggregatorConfig

/-- The settings where nothing else is asked for. -/
def standard : AggregatorConfig where
  sketchCapacity := SketchOptions.standard.capacity
  sketchSeed := SketchOptions.standard.seed
  percentiles := SketchOptions.standard.percentiles
  recordTimeoutMs := none
  log := .standard

/-- The longest wait for a record. -/
def recordTimeout (c : AggregatorConfig) : Option Duration :=
  c.recordTimeoutMs.map Duration.ofMillis

/-- Sets the longest wait to the whole milliseconds of a span, as far as 64 bits hold them. -/
def withRecordTimeout (c : AggregatorConfig) (d : Duration) : AggregatorConfig :=
  { c with recordTimeoutMs := some (min d.millis (UInt64.size - 1)) }

/-- The settings of the sketches. -/
def sketchOptions (c : AggregatorConfig) : SketchOptions :=
  ⟨c.sketchCapacity, c.sketchSeed, c.percentiles⟩

/-- Checks the settings. -/
def validate (c : AggregatorConfig) : Except ConfigurationFault Unit :=
  if c.sketchCapacity = 0 then .error .zeroSketchCapacity
  else
    match c.percentiles.find? fun p => !Double.isFraction p with
    | some p => .error (.percentile p)
    | none => if c.recordTimeoutMs = some 0 then .error .zeroTimeout else .ok ()

/-! ## Settings in JSON -/

open Json

/-- The settings that have been read. -/
structure Draft where
  sketchCapacity : Option Nat
  sketchSeed : Option Nat
  percentiles : Option (List Float)
  recordTimeoutMs : Option (Option Nat)

/-- The layout of the settings. -/
def layout : Reader.Layout Draft where
  title := "AggregatorConfig"
  fields := [
    ⟨"sketch_capacity", (·.sketchCapacity.isSome), fun d => do
      return { d with sketchCapacity := some (← Reader.size) }, true⟩,
    ⟨"sketch_seed", (·.sketchSeed.isSome), fun d => do
      return { d with sketchSeed := some (← Reader.natural64) }, true⟩,
    ⟨"percentiles", (·.percentiles.isSome), fun d => do
      return { d with percentiles := some (← Reader.list Reader.double) }, true⟩,
    ⟨"record_timeout_ms", (·.recordTimeoutMs.isSome), fun d => do
      return { d with recordTimeoutMs := some (← Reader.optional Reader.natural64) }, true⟩]
  strict := true
  mayStop := true

/-- The settings of a draft. -/
def Draft.config (d : Draft) : AggregatorConfig where
  sketchCapacity := d.sketchCapacity.getD standard.sketchCapacity
  sketchSeed := (d.sketchSeed.map UInt64.ofNat).getD standard.sketchSeed
  percentiles := d.percentiles.getD standard.percentiles
  recordTimeoutMs := d.recordTimeoutMs.getD standard.recordTimeoutMs
  log := standard.log

/-- Reads settings. -/
def reader : Reader AggregatorConfig := do
  return (← layout.read ⟨none, none, none, none⟩).config

/-- The settings that a JSON text stands for, if they pass the check. -/
def ofJsonText (text : String) : Except AuditError AggregatorConfig :=
  match reader.run text with
  | .error fault => .error (.serialization fault)
  | .ok c =>
    match c.validate with
    | .ok () => .ok c
    | .error fault => .error (.configuration fault)

/-- The settings in a file, whose text may be missing; a fault in the text is told with the path. -/
def ofFile (path : String) (text : Except FileFault String) : Except AuditError AggregatorConfig :=
  match text with
  | .error fault => .error (.io fault)
  | .ok text =>
    match ofJsonText text with
    | .error (.serialization fault) => .error (.configuration (.unreadableFile path fault))
    | result => result

/-- Settings as JSON. -/
def toJson (c : AggregatorConfig) : Value :=
  .object [("sketch_capacity", Json.ofNat c.sketchCapacity),
    ("sketch_seed", Json.ofNat c.sketchSeed.toNat),
    ("percentiles", Json.ofList ofFloat c.percentiles),
    ("record_timeout_ms", ofOption Json.ofNat c.recordTimeoutMs)]

end AggregatorConfig

end RecordAudit
