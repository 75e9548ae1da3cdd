import RecordAudit.Record.Value

/-!
# Predicates

A predicate is a named test of a field value with the message for a value that fails it.
Any function can be the test; some common tests follow.
-/

namespace RecordAudit

/-- A test of a field value with a name and a message. -/
structure Predicate where
  name : String
  message : String
  test : FieldValue → Bool

namespace FieldValue

/-- Whether a value is an even whole number; an integer is rounded to a double first. -/
def isEven (v : FieldValue) : Bool :=
  match v.asFloat? with
  | some x => Double.isFinite x && Double.isWhole x && Double.floor x % 2 == 0
  | none => false

/-- Whether a value is one of some texts. -/
def isOneOf (texts : List String) : FieldValue → Bool
  | text s => texts.contains s
  | _ => false

/-- Whether a value is a text with a certain end. -/
def hasSuffix (ending : String) : FieldValue → Bool
  | text s => ending.toList.isSuffixOf s.toList
  | _ => false

/-- Whether the rendering of a value has at most so many characters; null has none to count. -/
def isWithin (limit : Nat) (v : FieldValue) : Bool :=
  match v.render? with
  | some shown => shown.length ≤ limit
  | none => true

end FieldValue

end RecordAudit
