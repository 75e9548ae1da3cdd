import RecordAudit.Number.Text

/-!
# Spans of time

A span of time is a whole number of nanoseconds.  It is written in the largest unit of
which it holds at least one, as a decimal without trailing zeros.
-/

namespace RecordAudit

/-- A span of time. -/
structure Duration where
  nanos : Nat
deriving Repr, DecidableEq, Inhabited

namespace Duration

/-- The span of so many milliseconds. -/
def ofMillis (n : Nat) : Duration := ⟨n * 1000000⟩

/-- The span of so many microseconds. -/
def ofMicros (n : Nat) : Duration := ⟨n * 1000⟩

/-- The span of so many seconds. -/
def ofSeconds (n : Nat) : Duration := ⟨n * 1000000000⟩

/-- The whole milliseconds in a span. -/
def millis (d : Duration) : Nat := d.nanos / 1000000

/-- The digits after the point of `part / 10 ^ places`, without trailing zeros. -/
def fractionDigits (places part : Nat) : String :=
  let digits := (Number.padded places part).toList
  match (digits.reverse.dropWhile (· = '0')).reverse with
  | [] => ""
  | kept => String.ofList ('.' :: kept)

/-- A span in a unit of ten to the `places` nanoseconds. -/
def inUnit (nanos places : Nat) (unit : String) : String :=
  let scale := Nat.pow 10 places
  toString (nanos / scale) ++
    (if places = 0 then "" else fractionDigits places (nanos % scale)) ++ unit

/-- A span in the largest unit of which it holds one. -/
def text (d : Duration) : String :=
  if 1000000000 ≤ d.nanos then inUnit d.nanos 9 "s"
  else if 1000000 ≤ d.nanos then inUnit d.nanos 6 "ms"
  else if 1000 ≤ d.nanos then inUnit d.nanos 3 "µs"
  else inUnit d.nanos 0 "ns"

end Duration

end RecordAudit
