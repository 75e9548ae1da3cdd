import RecordAudit.Error
import RecordAudit.Record.Schema

/-!
# Streams of records

A run polls its stream.  At each poll the cancellation flag may be set, the next item may
be there, may have failed or may not be there yet, or the stream may have ended; and the
wait for the item may have lasted longer than a run allows.  A stream is given by what the
polls find, one after the other.
-/

namespace RecordAudit

/-- What a poll finds of the next item. -/
inductive Pull (ρ : Type) where
  | ready (record : ρ)
  | failing (error : AuditError)
  | ended
  | pending

/-- What a poll finds. -/
structure Poll (ρ : Type) where
  /-- Whether the run has been cancelled. -/
  cancelled : Bool
  pull : Pull ρ
  /-- Whether the wait for this item has passed the limit, if there is one. -/
  expired : Bool

/-- A stream of records of one schema. -/
structure RecordStream (ρ : Type) where
  schema : Schema
  polls : List (Poll ρ)
  /-- Whether the records could be read once more. -/
  restartable : Bool

namespace RecordStream

variable {ρ : Type}

/-- What a poll finds where an item is there at once. -/
def pollOf : Except AuditError ρ → Poll ρ
  | .ok r => ⟨false, .ready r, false⟩
  | .error e => ⟨false, .failing e, false⟩

/-- The stream whose items are there at once, and which nobody cancels. -/
def ofItems (schema : Schema) (items : List (Except AuditError ρ)) : RecordStream ρ :=
  ⟨schema, items.map pollOf ++ [⟨false, .ended, false⟩], false⟩

/-- The stream of some records. -/
def ofRecords (schema : Schema) (records : List ρ) : RecordStream ρ :=
  ofItems schema (records.map .ok)

/-- The stream that waits where another ends, until the wait has lasted too long. -/
def stalling (s : RecordStream ρ) : RecordStream ρ :=
  let stalled : Poll ρ → List (Poll ρ)
    | ⟨cancelled, .ended, _⟩ => [⟨cancelled, .pending, false⟩, ⟨cancelled, .pending, true⟩]
    | poll => [poll]
  { s with polls := s.polls.flatMap stalled }

/-- The stream that somebody cancels before the poll with an index. -/
def cancelledFrom (s : RecordStream ρ) (first : Nat) : RecordStream ρ :=
  let flagged (poll : Poll ρ) (index : Nat) : Poll ρ :=
    { poll with cancelled := poll.cancelled || decide (first ≤ index) }
  { s with polls := s.polls.mapIdx fun index poll => flagged poll index }

end RecordStream

/-- How an operation on a stream ends: it may also wait for more polls than there were. -/
inductive Ending (α : Type) where
  | unfinished
  | failed (error : AuditError)
  | finished (result : α)

namespace Ending

/-- Changes the result of an operation that finished. -/
def map {α β : Type} (f : α → β) : Ending α → Ending β
  | unfinished => unfinished
  | failed e => failed e
  | finished a => finished (f a)

end Ending

end RecordAudit
