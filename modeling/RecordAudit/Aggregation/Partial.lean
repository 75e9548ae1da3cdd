import RecordAudit.Report.Report
import RecordAudit.Stats.Accumulator

/-!
# Partial aggregations

The state of a run that may still go on, or be continued by another one: what has been
seen of one part of a stream.  The parts of a stream are merged in their order, and then
finished.
-/

namespace RecordAudit

/-- What has been seen of a part of a stream. -/
structure PartialAggregation (α : Type) where
  outcomes : List Outcome
  tallies : List (Tally α)
  /-- How many records did not pass the filters. -/
  filtered : Nat
  /-- How many records were read, filtered ones included.  This, and so any other count, is taken to
  stay below two to the 64th. -/
  recordsRead : Nat

namespace PartialAggregation

variable {α : Type} [Arithmetic α]

/-- The state before the first record. -/
def start (tallies : List (Tally α)) : PartialAggregation α := ⟨[], tallies, 0, 0⟩

/-- The columns with statistics. -/
def columns (p : PartialAggregation α) : List String := p.tallies.map (·.column)

/-- Merges tallies one by one, and stops at the first that cannot be merged. -/
def mergeTallies : List (Tally α) → List (Tally α) → Except MergeFault (List (Tally α))
  | a :: as, b :: bs => do
    let t ← a.merge b
    let ts ← mergeTallies as bs
    .ok (t :: ts)
  | as, _ => .ok as

/-- Appends the part of the stream that follows.  Its records come after all that were read. -/
def merge (p q : PartialAggregation α) : Except MergeFault (PartialAggregation α) :=
  if p.columns ≠ q.columns then .error (.differentColumnLists p.columns q.columns)
  else
    match mergeTallies p.tallies q.tallies with
    | .ok tallies =>
      .ok {
        outcomes := p.outcomes ++ q.outcomes.map (·.offset p.recordsRead)
        tallies
        filtered := p.filtered + q.filtered
        recordsRead := p.recordsRead + q.recordsRead }
    | .error fault => .error fault

/-- The report of what has been seen. -/
def finish (p : PartialAggregation α) : Report α :=
  .assemble p.outcomes (p.tallies.map (·.stats)) p.filtered

end PartialAggregation

end RecordAudit
