import RecordAudit.Calendar.Date

/-!
# Points in time

A point in time is a number of seconds since the first moment of 1970 in UTC, and
nanoseconds that follow it.  A leap second repeats its predecessor with a thousand million
nanoseconds on top, and shows as second 60.
-/

namespace RecordAudit

/-- A point in time in UTC. -/
structure Timestamp where
  seconds : Int
  nanos : Nat
deriving Repr, DecidableEq, Inhabited

namespace Timestamp

/-- The number of seconds of a day. -/
def secondsPerDay : Int := 86400

/-- The order of time: by seconds, and within a second by nanoseconds. -/
def compare (a b : Timestamp) : Ordering :=
  (Ord.compare a.seconds b.seconds).then (Ord.compare a.nanos b.nanos)

/-- Whether a point in time is not after another one. -/
def notAfter (a b : Timestamp) : Bool := compare a b != .gt

/-- The first moment of a date. -/
def ofDate (d : Date) : Timestamp := ⟨d.dayNumber * secondsPerDay, 0⟩

/-- The point in time that is a number of nanoseconds after the first moment of 1970, if its year
has dates. -/
def ofNanos? (n : Int) : Option Timestamp :=
  let seconds := n / 1000000000
  (Date.ofDayNumber? (seconds / secondsPerDay)).map fun _ => ⟨seconds, (n % 1000000000).toNat⟩

/-- The fraction of a second in as few groups of three digits as hold it. -/
def fractionText (nanos : Nat) : String :=
  if nanos = 0 then ""
  else if nanos % 1000000 = 0 then "." ++ Number.padded 3 (nanos / 1000000)
  else if nanos % 1000 = 0 then "." ++ Number.padded 6 (nanos / 1000)
  else "." ++ Number.padded 9 nanos

/-- Date and time of day, with `zone` at the end. -/
def textWith (zone : String) (t : Timestamp) : String :=
  let date := Date.ofDayNumberUnbounded (t.seconds / secondsPerDay)
  let ofDay := (t.seconds % secondsPerDay).toNat
  let leap := 1000000000 ≤ t.nanos
  let second := ofDay % 60 + (if leap then 1 else 0)
  let nanos := if leap then t.nanos - 1000000000 else t.nanos
  date.text ++ "T" ++ Number.padded 2 (ofDay / 3600) ++ ":" ++
    Number.padded 2 (ofDay / 60 % 60) ++ ":" ++ Number.padded 2 second ++ fractionText nanos ++ zone

/-- Date and time of day with a numeric zone. -/
def text (t : Timestamp) : String := textWith "+00:00" t

/-- Date and time of day with the letter for UTC. -/
def zuluText (t : Timestamp) : String := textWith "Z" t

end Timestamp

end RecordAudit
