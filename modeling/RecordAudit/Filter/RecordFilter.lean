import RecordAudit.Calendar.Reading
import RecordAudit.Record.Schema
import RecordAudit.Record.Value
import RecordAudit.Text.Blank

/-!
# Record filters

A filter names a field and a condition on its value.  Several operands widen it: any of
them may match, except that a value must differ from all operands of `notEquals`.  Null
matches `isNull` and nothing else.
-/

namespace RecordAudit

/-- What a filter asks of a value, with the operands it needs. -/
inductive Condition where
  | equals (operands : List String)
  | notEquals (operands : List String)
  | startsWith (operands : List String)
  | endsWith (operands : List String)
  | between (ranges : List (Float × Float))
  | betweenDates (ranges : List (Timestamp × Timestamp))
  | isNull
  | isNotNull

namespace Condition

/-- The comparison that a condition makes. -/
def comparison : Condition → Comparison
  | equals _ => .equals
  | notEquals _ => .notEquals
  | startsWith _ => .startsWith
  | endsWith _ => .endsWith
  | between _ => .between
  | betweenDates _ => .betweenDates
  | isNull => .isNull
  | isNotNull => .isNotNull

/-- Whether a value equals an operand: as integers if both are, then as doubles if both are
numbers, and else as texts. -/
def equalsOperand (v : FieldValue) (operand : String) : Bool :=
  let asText := v.render? == some operand
  let asDouble :=
    match v.asFloat?, Number.double? (Text.trimmed operand) with
    | some x, some y => Double.eq x y
    | _, _ => asText
  match v with
  | .integer n =>
    match Number.int64? (Text.trimmed operand) with
    | some m => n == m
    | none => asDouble
  | _ => asDouble

/-- Whether the rendering of a value begins with an operand. -/
def startsWithOperand (v : FieldValue) (operand : String) : Bool :=
  match v.render? with
  | some text => operand.toList.isPrefixOf text.toList
  | none => false

/-- Whether the rendering of a value ends with an operand. -/
def endsWithOperand (v : FieldValue) (operand : String) : Bool :=
  match v.render? with
  | some text => operand.toList.isSuffixOf text.toList
  | none => false

/-- Whether a value is a number in a closed range. -/
def inRange (v : FieldValue) (range : Float × Float) : Bool :=
  v.atLeast range.1 && v.atMost range.2

/-- The point in time that a value stands for; a text may be one, too. -/
def instantOf? (v : FieldValue) : Option Timestamp :=
  match v.asTimestamp?, v.asText? with
  | some t, _ => some t
  | none, some s => (Calendar.instant s).toOption
  | none, none => none

/-- Whether a value is a point in time in a closed range. -/
def inPeriod (v : FieldValue) (period : Timestamp × Timestamp) : Bool :=
  match instantOf? v with
  | some t => period.1.notAfter t && t.notAfter period.2
  | none => false

/-- Whether a value that is not null meets a condition. -/
def holdsOf (v : FieldValue) : Condition → Bool
  | equals operands => operands.any (equalsOperand v)
  | notEquals operands => operands.all fun operand => !equalsOperand v operand
  | startsWith operands => operands.any (startsWithOperand v)
  | endsWith operands => operands.any (endsWithOperand v)
  | between ranges => ranges.any (inRange v)
  | betweenDates periods => periods.any (inPeriod v)
  | isNull => false
  | isNotNull => true

/-- Whether a value meets a condition. -/
def holds (c : Condition) (v : FieldValue) : Bool :=
  match c with
  | isNull => v.isNull
  | c => !v.isNull && c.holdsOf v

end Condition

/-- A condition on one field. -/
structure RecordFilter where
  field : String
  condition : Condition

namespace RecordFilter

/-- The comparison with a code in any case. -/
def readComparison (code : String) : Except ConfigurationFault Comparison :=
  let upper := code.map Char.toUpper
  match Comparison.ofCode? upper with
  | some c => .ok c
  | none => .error (.unknownComparison upper)

/-- The operands two by two; none if one is left over. -/
def inPairs? : List String → Option (List (String × String))
  | [] => some []
  | [_] => none
  | a :: b :: rest => (inPairs? rest).map ((a, b) :: ·)

/-- The operands two by two, of which there must be some. -/
def pairs (field : String) (c : Comparison) (operands : List String) :
    Except ConfigurationFault (List (String × String)) :=
  match inPairs? operands with
  | some (p :: rest) => .ok (p :: rest)
  | _ => .error (.unpairedOperands c field operands.length)

/-- Reads a bound of a range of numbers. -/
def numberBound (field bound : String) : Except ConfigurationFault Float :=
  match Number.double? (Text.trimmed bound) with
  | some x => if Double.isNaN x then .error (.boundNotNumber bound field) else .ok x
  | none => .error (.boundNotNumber bound field)

/-- Reads a bound of a range of time: a point in time, or a date for its first moment. -/
def instantBound (field bound : String) : Except ConfigurationFault Timestamp :=
  let bound := Text.trimmed bound
  match Calendar.instant bound, Calendar.date bound with
  | .ok t, _ => .ok t
  | .error _, .ok d => .ok (Timestamp.ofDate d)
  | .error _, .error _ => .error (.boundNotInstant bound field)

/-- Reads both bounds of every range, and stops at the first that is wrong. -/
def readRanges {α : Type} (bound : String → Except ConfigurationFault α) :
    List (String × String) → Except ConfigurationFault (List (α × α))
  | [] => .ok []
  | (least, greatest) :: rest => do
    let a ← bound least
    let b ← bound greatest
    let more ← readRanges bound rest
    .ok ((a, b) :: more)

/-- The condition of a comparison with its operands. -/
def conditionOf (field : String) (c : Comparison) (operands : List String) :
    Except ConfigurationFault Condition :=
  let anyOf (f : List String → Condition) : Except ConfigurationFault Condition :=
    if operands = [] then .error (.missingOperand c field) else .ok (f operands)
  match c with
  | .isNull => .ok .isNull
  | .isNotNull => .ok .isNotNull
  | .equals => anyOf .equals
  | .notEquals => anyOf .notEquals
  | .startsWith => anyOf .startsWith
  | .endsWith => anyOf .endsWith
  | .between => do
    let ps ← pairs field c operands
    let ranges ← readRanges (numberBound field) ps
    .ok (.between ranges)
  | .betweenDates => do
    let ps ← pairs field c operands
    let ranges ← readRanges (instantBound field) ps
    .ok (.betweenDates ranges)

/-- The filter of a comparison with its operands. -/
def new (field : String) (c : Comparison) (operands : List String) :
    Except ConfigurationFault RecordFilter := do
  let condition ← conditionOf field c operands
  .ok ⟨field, condition⟩

/-- The filter for records whose field is null. -/
def isNull (field : String) : RecordFilter := ⟨field, .isNull⟩

/-- The filter for records whose field is not null. -/
def isNotNull (field : String) : RecordFilter := ⟨field, .isNotNull⟩

/-- Whether a value passes a filter. -/
def matchesValue (f : RecordFilter) (v : FieldValue) : Bool := f.condition.holds v

/-- Whether a record passes a filter. -/
def accepts {ρ : Type} [Record ρ] (f : RecordFilter) (r : ρ) : Except ReadError Bool :=
  match Record.get r f.field with
  | .ok v => .ok (f.matchesValue v)
  | .error e => .error e

/-- Checks that a schema has the field of a filter. -/
def bind (f : RecordFilter) (s : Schema) : Except AuditError Unit :=
  if s.contains f.field then .ok () else .error (.columnNotFound f.field)

/-- Whether a record passes all filters; the first that it does not pass, or whose field cannot be
read, decides. -/
def allAccept {ρ : Type} [Record ρ] (r : ρ) : List RecordFilter → Except ReadError Bool
  | [] => .ok true
  | f :: rest =>
    match f.accepts r with
    | .ok true => allAccept r rest
    | .ok false => .ok false
    | .error e => .error e

end RecordFilter

end RecordAudit
