import RecordAudit.Calendar.Timestamp
import RecordAudit.Error
import RecordAudit.Number.Reading

/-!
# Field values

What a field of a record may hold, how it is shown, and how a numeric value compares with
a double.  The comparison is exact: an integer is never rounded to a double for it.
-/

namespace RecordAudit

/-- A value of a field. -/
inductive FieldValue where
  /-- No value. -/
  | null
  | boolean (b : Bool)
  | integer (n : Int64)
  | float (x : Float)
  | text (s : String)
  | date (d : Date)
  | timestamp (t : Timestamp)
deriving Inhabited

namespace FieldValue

/-- Whether two values are of one kind and equal; as numbers the two zeros are equal, and what is
no number equals nothing. -/
def same : FieldValue → FieldValue → Bool
  | null, null => true
  | boolean a, boolean b => a == b
  | integer a, integer b => a == b
  | float a, float b => Double.eq a b
  | text a, text b => a == b
  | date a, date b => a == b
  | timestamp a, timestamp b => a == b
  | _, _ => false

/-- Whether there is no value. -/
def isNull : FieldValue → Bool
  | null => true
  | _ => false

/-- Whether a value is an integer or a double. -/
def isNumeric : FieldValue → Bool
  | integer _ | float _ => true
  | _ => false

/-- The double nearest to a numeric value. -/
def asFloat? : FieldValue → Option Float
  | integer n => some (Float.ofInt n.toInt)
  | float x => some x
  | _ => none

/-- The order of a numeric value and a double; there is none if either is no number. -/
def compare? (v : FieldValue) (x : Float) : Option Ordering :=
  match v with
  | integer n => Double.compareWord? n x
  | float y => Double.compare? y x
  | _ => none

/-- Whether a numeric value is not below a double. -/
def atLeast (v : FieldValue) (x : Float) : Bool :=
  match v.compare? x with
  | some .gt | some .eq => true
  | _ => false

/-- Whether a numeric value is not above a double. -/
def atMost (v : FieldValue) (x : Float) : Bool :=
  match v.compare? x with
  | some .lt | some .eq => true
  | _ => false

/-- The text that a value is. -/
def asText? : FieldValue → Option String
  | text s => some s
  | _ => none

/-- The point in time that a value is; a date stands for its first moment. -/
def asTimestamp? : FieldValue → Option Timestamp
  | timestamp t => some t
  | date d => some (Timestamp.ofDate d)
  | _ => none

/-- A value as it is shown. -/
def display : FieldValue → String
  | null => "NULL"
  | boolean b => if b then "true" else "false"
  | integer n => toString n.toInt
  | float x => Number.plain x
  | text s => s
  | date d => d.text
  | timestamp t => t.text

/-- The text of a value that patterns and filters look at; there is none without a value. -/
def render? (v : FieldValue) : Option String :=
  match v with
  | null => none
  | v => some v.display

/-- The name of the kind of a value. -/
def kindName : FieldValue → String
  | null => "null"
  | boolean _ => "boolean"
  | integer _ => "integer"
  | float _ => "float"
  | text _ => "text"
  | date _ => "date"
  | timestamp _ => "timestamp"

end FieldValue

/-- A record gives the value of each of its fields or says why the field cannot be read. -/
class Record (ρ : Type) where
  get : ρ → String → Except ReadError FieldValue

end RecordAudit
