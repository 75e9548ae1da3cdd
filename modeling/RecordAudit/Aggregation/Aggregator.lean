import RecordAudit.Aggregation.Config
import RecordAudit.Aggregation.Partial
import RecordAudit.Aggregation.Stream
import RecordAudit.Constraint.FieldConstraint
import RecordAudit.Filter.RecordFilter
import RecordAudit.Logging.Event

/-!
# The aggregator

An aggregator takes the records of a stream one by one.  A record that does not pass the
filters is counted and left aside.  Every other record gets an outcome with its violations
— of fields that a filter could not read, of constraints, and of columns that could not be
read — and its values go into the tallies of the columns.

At each poll of the stream a cancellation comes first, then what the stream has, and last
the limit of the wait.
-/

namespace RecordAudit

/-- What a run checks, measures and keeps, with settings that passed their check. -/
structure Aggregator where
  constraints : List FieldConstraint
  /-- The columns with statistics, each once. -/
  statColumns : List String
  filters : List RecordFilter
  config : AggregatorConfig
  distinct : statColumns.Nodup
  checked : config.validate = .ok ()

namespace Aggregator

/-- The columns with each name once, where it comes first. -/
def onlyFirst (columns : List String) : List String :=
  columns.foldl (fun kept c => if kept.contains c then kept else kept ++ [c]) []

/-- Adding columns that are not there yet to distinct ones leaves them distinct. -/
theorem nodup_foldl_onlyFirst (columns kept : List String) (h : kept.Nodup) :
    (columns.foldl (fun kept c => if kept.contains c then kept else kept ++ [c]) kept).Nodup := by
  induction columns generalizing kept with
  | nil => exact h
  | cons c rest ih =>
    rw [List.foldl_cons]
    apply ih
    split
    · exact h
    · next hc =>
      rw [List.nodup_append]
      refine ⟨h, by simp, fun a ha b hb => ?_⟩
      rw [List.mem_singleton] at hb
      rintro rfl
      exact hc (by simpa [hb] using ha)

/-- Every column is kept only once. -/
theorem nodup_onlyFirst (columns : List String) : (onlyFirst columns).Nodup :=
  nodup_foldl_onlyFirst columns [] List.nodup_nil

/-- An aggregator, if its settings pass their check. -/
def build (constraints : List FieldConstraint) (statColumns : List String)
    (filters : List RecordFilter) (config : AggregatorConfig) :
    Except ConfigurationFault Aggregator :=
  match h : config.validate with
  | .ok () =>
    .ok ⟨constraints, onlyFirst statColumns, filters, config, nodup_onlyFirst statColumns, h⟩
  | .error fault => .error fault

/-- Checks that a schema has all fields that a run looks at: those of constraints first, then the
columns with statistics, then the fields of filters. -/
def bind (a : Aggregator) (s : Schema) : Except AuditError Unit := do
  FieldConstraint.bindAll a.constraints s
  match a.statColumns.find? fun c => !s.contains c with
  | some c => throw (.columnNotFound c)
  | none => pure ()
  a.filters.forM (·.bind s)

/-! ## One record -/

variable {ρ : Type} [Record ρ]

/-- Adds to violations that columns cannot be read. -/
def addUnreadColumns (index : Nat) (r : ρ) (vs : List Violation) (columns : List String) :
    List Violation :=
  columns.foldl (fun vs c =>
    match Record.get r c with
    | .ok _ => vs
    | .error e => FieldConstraint.addReadViolation index vs c e.message) vs

/-- The violations of a record whose filters led to some violations already. -/
def violationsAfter (a : Aggregator) (index : Nat) (r : ρ) (vs : List Violation) :
    List Violation :=
  addUnreadColumns index r (FieldConstraint.validateInto index r a.constraints vs) a.statColumns

/-- The violations of a record, or none if it is filtered out.  A record with a field that a filter
cannot read is kept. -/
def violations? (a : Aggregator) (index : Nat) (r : ρ) : Option (List Violation) :=
  match RecordFilter.allAccept r a.filters with
  | .ok false => none
  | .ok true => some (a.violationsAfter index r [])
  | .error e => some (a.violationsAfter index r [⟨index, e.field, .recordRead, e.message⟩])

/-- What is logged of a record. -/
def recordEvents (log : LogConfig) (index : Nat) : Option (List Violation) → List Event
  | none => if Level.debug.verbosity ≤ log.level.verbosity then [.filteredOut index] else []
  | some vs =>
    if log.violations then
      vs.map fun v => .violation index v.field v.kind (Text.cut v.message log.maxFieldLength)
    else []

variable {α : Type} [Arithmetic α]

/-- Takes the value of its column into a tally, if the value can be read. -/
def feed (r : ρ) (t : Tally α) : Tally α :=
  match Record.get r t.column with
  | .ok v => t.observeValue v
  | .error _ => t

/-- The state after a record with the given violations, or one that was filtered out. -/
def absorb (p : PartialAggregation α) (r : ρ) : Option (List Violation) → PartialAggregation α
  | none => { p with filtered := p.filtered + 1, recordsRead := p.recordsRead + 1 }
  | some vs =>
    { p with
      outcomes := p.outcomes ++ [⟨p.recordsRead, vs⟩]
      tallies := p.tallies.map (feed r)
      recordsRead := p.recordsRead + 1 }

/-! ## A run -/

/-- Goes on with a run from a state, poll by poll, and tells what is logged. -/
def drive (a : Aggregator) (p : PartialAggregation α) :
    List (Poll ρ) → Ending (PartialAggregation α) × List Event
  | [] => (.unfinished, [])
  | poll :: rest =>
    if poll.cancelled then (.failed (.cancelled p.recordsRead), [.cancelled p.recordsRead])
    else
      match poll.pull with
      | .ready r =>
        let vs := a.violations? p.recordsRead r
        let (ending, events) := drive a (absorb p r vs) rest
        (ending, recordEvents a.config.log p.recordsRead vs ++ events)
      | .failing e =>
        let error := .stream p.recordsRead e
        (.failed error, [.aborted p.recordsRead error])
      | .ended =>
        (.finished p, if a.config.log.records then [.streamExhausted p.recordsRead] else [])
      | .pending =>
        match poll.expired, a.config.recordTimeout with
        | true, some limit =>
          let error := .timeout p.recordsRead limit
          (.failed error, [.aborted p.recordsRead error])
        | _, _ => drive a p rest

/-- Empty tallies for the columns. -/
def tallies (a : Aggregator) : Except ConfigurationFault (List (Tally α)) :=
  a.statColumns.mapM fun c => Tally.new c a.config.sketchOptions

/-- Takes in a stream, and tells what is logged. -/
def consume (a : Aggregator) (s : RecordStream ρ) : Ending (PartialAggregation α) × List Event :=
  match a.bind s.schema with
  | .error e => (.failed e, [.schemaMismatch e])
  | .ok () =>
    match (a.tallies : Except ConfigurationFault (List (Tally α))) with
    | .error fault => (.failed (.configuration fault), [])
    | .ok ts => a.drive (.start ts) s.polls

/-- Takes in a stream up to a state that can be merged. -/
def runPartial (a : Aggregator) (s : RecordStream ρ) : Ending (PartialAggregation α) :=
  (a.consume s).1

/-- Takes in a stream and reports on it. -/
def run (a : Aggregator) (s : RecordStream ρ) : Ending (Report α) :=
  (a.runPartial s).map (·.finish)

/-- What is logged of a report. -/
def reportEvents (log : LogConfig) (r : Report Float) : List Event :=
  .completed r.total r.valid r.invalid r.filtered ::
    (if log.stats then
      r.columns.map fun (_, s) =>
        .columnStatistics s.column s.count s.skipped s.mean s.deviation s.least s.greatest
     else [])

/-- Takes in a stream, reports on it, and tells what is logged. -/
def runLogged (a : Aggregator) (s : RecordStream ρ) : Ending (Report Float) × List Event :=
  let (ending, events) := a.consume s
  match ending with
  | .finished p =>
    let report := p.finish
    (.finished report, events ++ reportEvents a.config.log report)
  | .failed e => (.failed e, events)
  | .unfinished => (.unfinished, events)

end Aggregator

end RecordAudit
