import RecordAudit.Calendar.Timestamp
import RecordAudit.Number.Reading
import RecordAudit.Text.Blank

/-!
# Reading dates and points in time

Four readers over the same parts: a date in a fixed pattern, a date that may have blanks
before its hyphens, a point in time as RFC 3339 has it, and a looser form of that.  Each
reader stops at the first thing that is wrong.
-/

namespace RecordAudit

/-- Why a text is no date or point in time. -/
inductive CalendarFault where
  | outOfRange
  | invalid
  | tooShort
  | tooLong
  | impossible
deriving Repr, DecidableEq

namespace CalendarFault

/-- The wording of a fault. -/
def message : CalendarFault → String
  | outOfRange => "input is out of range"
  | invalid => "input contains invalid characters"
  | tooShort => "premature end of input"
  | tooLong => "trailing input"
  | impossible => "no possible date and time matching input"

end CalendarFault

namespace Calendar

/-- A reader takes its part off the front of the characters. -/
abbrev Part (α : Type) := List Char → Except CalendarFault (α × List Char)

/-- Reads a number of at least one digit and, where there is a limit, at most that many. -/
def number (limit : Option Nat) : Part Nat := fun chars =>
  let run := chars.takeWhile Char.isDigit
  let digits := match limit with
    | some n => run.take n
    | none => run
  match chars, digits with
  | [], _ => .error .tooShort
  | _, [] => .error .invalid
  | _, _ => .ok (Number.ofDigits digits, chars.drop digits.length)

/-- Reads one given character. -/
def literal (c : Char) : Part Unit
  | [] => .error .tooShort
  | d :: rest => if d = c then .ok ((), rest) else .error .invalid

/-- Reads a number, after blanks, that lies between two bounds. -/
def bounded (lo hi : Nat) : Part Nat := fun chars => do
  let (n, rest) ← number (some 2) (Text.trimStart chars)
  if lo ≤ n ∧ n ≤ hi then .ok (n, rest) else .error .outOfRange

/-- Reads a year, after blanks: up to four digits, or a sign and any number of them. -/
def year : Part Int := fun chars => do
  let inRange (n : Int) (rest : List Char) : Except CalendarFault (Int × List Char) :=
    if -2147483648 ≤ n ∧ n < 2147483648 then .ok (n, rest) else .error .outOfRange
  match Text.trimStart chars with
  | '-' :: rest =>
    let (n, rest) ← number none rest
    inRange (-(n : Int)) rest
  | '+' :: rest =>
    let (n, rest) ← number none rest
    inRange n rest
  | chars =>
    let (n, rest) ← number (some 4) chars
    inRange n rest

/-- Reads year, month and day; `gap` takes off what may stand before a hyphen. -/
def dateParts (gap : List Char → List Char) : Part (Int × Nat × Nat) := fun chars => do
  let (y, rest) ← year chars
  let (_, rest) ← literal '-' (gap rest)
  let (m, rest) ← bounded 1 12 rest
  let (_, rest) ← literal '-' (gap rest)
  let (d, rest) ← bounded 1 31 rest
  .ok ((y, m, d), rest)

/-- The date of the parts that were read, once nothing is left to read. -/
def dateOf (parts : Int × Nat × Nat) (rest : List Char) : Except CalendarFault Date :=
  if rest ≠ [] then .error .tooLong
  else
    match Date.ofParts? parts.1 parts.2.1 parts.2.2 with
    | some d => .ok d
    | none => .error .outOfRange

/-- Reads a date as year, month and day between hyphens. -/
def date (text : String) : Except CalendarFault Date := do
  let (parts, rest) ← dateParts id text.toList
  dateOf parts rest

/-- Reads a date that may have blanks before the hyphens and at its end. -/
def looseDate (text : String) : Except CalendarFault Date := do
  let (parts, rest) ← dateParts Text.trimStart text.toList
  dateOf parts (Text.trimStart rest)

/-! ## Points in time -/

/-- Reads a number of exactly so many digits. -/
def fixedDigits (width : Nat) : Part Nat := fun chars =>
  let digits := chars.take width
  if digits.length = width ∧ digits.all Char.isDigit then
    .ok (Number.ofDigits digits, chars.drop width)
  else .error .invalid

/-- Reads one of several characters. -/
def oneOf (cs : List Char) : Part Unit
  | [] => .error .tooShort
  | d :: rest => if cs.contains d then .ok ((), rest) else .error .invalid

/-- Reads the nanoseconds after a point: nine digits count, and further ones are passed over. -/
def nanoseconds : Part Nat := fun chars => do
  let digits := (chars.takeWhile Char.isDigit).take 9
  let (n, _) ← number (some 9) chars
  .ok (n * Nat.pow 10 (9 - digits.length), chars.dropWhile Char.isDigit)

/-- Reads a fraction of a second, if a point begins one. -/
def fraction : Part Nat
  | '.' :: rest => nanoseconds rest
  | rest => .ok (0, rest)

/-- Reads two digits, which must both be there. -/
def digitPair : List Char → Except CalendarFault (Char × Char)
  | a :: b :: _ => .ok (a, b)
  | [a] => if 1 < a.utf8Size then .error .invalid else .error .tooShort
  | [] => .error .tooShort

/-- Reads a zone in seconds: the letter Z, or a sign, hours, what `gap` reads, and minutes. -/
def zone (gap : Part Unit) : Part Int := fun chars => do
  match chars with
  | 'Z' :: rest => .ok (0, rest)
  | 'z' :: rest => .ok (0, rest)
  | [] => .error .tooShort
  | sign :: rest =>
    if sign ≠ '+' ∧ sign ≠ '-' ∧ sign ≠ '\u2212' then .error .invalid
    else
      let (h1, h2) ← digitPair rest
      if ¬(h1.isDigit ∧ h2.isDigit) then .error .invalid
      else
        let hours := Number.ofDigits [h1, h2]
        let (_, rest) ← gap (rest.drop 2)
        let (m1, m2) ← digitPair rest
        if ¬(m1.isDigit ∧ m2.isDigit) then .error .invalid
        else
          let minutes := Number.ofDigits [m1, m2]
          if 60 ≤ minutes then .error .outOfRange
          else
            let seconds : Int := hours * 3600 + minutes * 60
            .ok (if sign = '+' then seconds else -seconds, rest.drop 2)

/-- The second of a minute and the nanoseconds in it; second 60 is a leap second. -/
def leapSecond (second nanos : Nat) : Nat × Nat :=
  if second = 60 then (59, nanos + 1000000000) else (second, nanos)

/-- The point in time of a local date and time of day in a zone that is less than a day off. -/
def instantOf (d : Date) (hour minute second nanos : Nat) (offset : Int) :
    Except CalendarFault Timestamp :=
  if offset ≤ -Timestamp.secondsPerDay ∨ Timestamp.secondsPerDay ≤ offset then .error .outOfRange
  else
    let seconds : Int :=
      d.dayNumber * Timestamp.secondsPerDay + hour * 3600 + minute * 60 + second - offset
    match Date.ofDayNumber? (seconds / Timestamp.secondsPerDay) with
    | some _ => .ok ⟨seconds, nanos⟩
    | none => .error .impossible

/-- Reads a point in time as RFC 3339 has it, with `T`, `t` or a space before the time of day. -/
def instant (text : String) : Except CalendarFault Timestamp := do
  if text.utf8ByteSize < 19 then .error .tooShort
  else
    let (y, rest) ← fixedDigits 4 text.toList
    let (_, rest) ← literal '-' rest
    let (m, rest) ← fixedDigits 2 rest
    let (_, rest) ← literal '-' rest
    let (d, rest) ← fixedDigits 2 rest
    match Date.ofParts? y m d with
    | none => .error .outOfRange
    | some date =>
      let (_, rest) ← oneOf ['T', 't', ' '] rest
      let (hour, rest) ← fixedDigits 2 rest
      let (_, rest) ← literal ':' rest
      let (minute, rest) ← fixedDigits 2 rest
      let (_, rest) ← literal ':' rest
      let (second, rest) ← fixedDigits 2 rest
      let (nanos, rest) ← fraction rest
      if 24 ≤ hour ∨ 60 ≤ minute ∨ 61 ≤ second then .error .outOfRange
      else
        let (offset, rest) ← zone (literal ':') rest
        if rest ≠ [] then .error .tooLong
        else
          let (second, nanos) := leapSecond second nanos
          instantOf date hour minute second nanos offset

/-- Passes over colons and blanks. -/
def colonsAndBlanks : Part Unit := fun chars =>
  .ok ((), chars.dropWhile fun c => c = ':' || Text.isBlank c)

/-- Reads a zone, or the letters UTC in any case. -/
def looseZone : Part Int := fun chars =>
  if (chars.take 3).map Char.toUpper = ['U', 'T', 'C'] then .ok (0, chars.drop 3)
  else zone colonsAndBlanks chars

/-- Reads a point in time in a looser form: short numbers, signed years, blanks between the parts
and a zone without a colon are allowed. -/
def looseInstant (text : String) : Except CalendarFault Timestamp := do
  let ((y, m, d), rest) ← dateParts Text.trimStart text.toList
  let (_, rest) ← oneOf ['T', 't', ' '] rest
  let (hour, rest) ← bounded 0 23 rest
  let (_, rest) ← literal ':' (Text.trimStart rest)
  let (minute, rest) ← bounded 0 59 rest
  let (_, rest) ← literal ':' (Text.trimStart rest)
  let (second, rest) ← bounded 0 60 rest
  let (nanos, rest) ← fraction rest
  let (offset, rest) ← looseZone (Text.trimStart rest)
  if Text.trimStart rest ≠ [] then .error .tooLong
  else
    let (second, nanos) := leapSecond second nanos
    match Date.ofParts? y m d with
    | some date => instantOf date hour minute second nanos offset
    | none => .error .outOfRange

end Calendar

end RecordAudit
