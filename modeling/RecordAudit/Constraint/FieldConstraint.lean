import RecordAudit.Constraint.Predicate
import RecordAudit.Constraint.Violation
import RecordAudit.Pattern.Search
import RecordAudit.Record.Schema
import RecordAudit.Text.Cut

/-!
# Constraints

A constraint asks something of one field of every record.  All constraints are tried, so
that no failure hides another one; a field that cannot be read is told once, however many
constraints name it.
-/

namespace RecordAudit

/-- What a constraint asks of a value. -/
inductive Rule where
  /-- Null is refused. -/
  | notNull
  /-- A number has to lie between two bounds, each of which may be absent; null passes. -/
  | range (least greatest : Option Float)
  /-- A pattern has to occur in the rendering; null passes. -/
  | pattern (p : Pattern)
  /-- A predicate has to hold, of null too. -/
  | custom (p : Predicate)

namespace Rule

/-- The kind of violation that a rule leads to. -/
def kind : Rule → ViolationKind
  | notNull => .notNull
  | range _ _ => .range
  | pattern _ => .pattern
  | custom _ => .custom

/-- The most bytes of a value that a message shows. -/
def shownLength : Nat := 64

/-- What is wrong with a number that should lie between two bounds. -/
def checkBounds (least greatest : Option Float) (v : FieldValue) : Option String :=
  let below (x : Float) : Bool := v.compare? x == some .lt
  let above (x : Float) : Bool := v.compare? x == some .gt
  let tooGreat : Option String :=
    match greatest with
    | some x =>
      if above x then some ("value " ++ v.display ++ " exceeds maximum " ++ Number.plain x)
      else none
    | none => none
  match least with
  | some x =>
    if below x then some ("value " ++ v.display ++ " is below minimum " ++ Number.plain x)
    else tooGreat
  | none => tooGreat

/-- What is wrong with a value that should be null or a number between two bounds. -/
def checkRange (least greatest : Option Float) (v : FieldValue) : Option String :=
  match v with
  | .null => none
  | .integer _ => checkBounds least greatest v
  | .float x => if Double.isNaN x then some "value is NaN" else checkBounds least greatest v
  | v => some ("expected a numeric value, found " ++ v.kindName)

/-- What is wrong with a value in which a pattern should occur. -/
def checkPattern (p : Pattern) (v : FieldValue) : Option String :=
  match v.render? with
  | none => none
  | some text =>
    if p.occursIn text then none
    else
      some ("value '" ++ Text.cut text shownLength ++ "' does not match pattern '" ++ p.text ++ "'")

/-- What is wrong with a value, or none if it passes. -/
def check : Rule → FieldValue → Option String
  | notNull, v => if v.isNull then some "value is null" else none
  | range least greatest, v => checkRange least greatest v
  | pattern p, v => checkPattern p v
  | custom p, v => if p.test v then none else some p.message

end Rule

/-- A rule for one field. -/
structure FieldConstraint where
  field : String
  rule : Rule

namespace FieldConstraint

/-- The constraint that a field is not null. -/
def notNull (field : String) : FieldConstraint := ⟨field, .notNull⟩

/-- The constraint that a field lies between two bounds; a bound has to be a number, and the first
must not be above the second. -/
def range (field : String) (least greatest : Option Float) :
    Except ConfigurationFault FieldConstraint :=
  if least.any Double.isNaN || greatest.any Double.isNaN then .error (.boundNotComparable field)
  else
    match least, greatest with
    | some lo, some hi =>
      if Double.less hi lo then .error (.boundsCrossed field lo hi)
      else .ok ⟨field, .range least greatest⟩
    | _, _ => .ok ⟨field, .range least greatest⟩

/-- The constraint that a field lies between two bounds. -/
def between (field : String) (least greatest : Float) : Except ConfigurationFault FieldConstraint :=
  range field (some least) (some greatest)

/-- The constraint that a field is not below a bound. -/
def atLeast (field : String) (least : Float) : Except ConfigurationFault FieldConstraint :=
  range field (some least) none

/-- The constraint that a field is not above a bound. -/
def atMost (field : String) (greatest : Float) : Except ConfigurationFault FieldConstraint :=
  range field none (some greatest)

/-- The constraint that a pattern occurs in a field. -/
def pattern (field text : String) : Except AuditError FieldConstraint :=
  match Pattern.ofText text with
  | .ok p => .ok ⟨field, .pattern p⟩
  | .error fault => .error (.invalidPattern field fault)

/-- The constraint that a predicate holds of a field. -/
def custom (field : String) (p : Predicate) : FieldConstraint := ⟨field, .custom p⟩

/-- The name of a constraint: that of its predicate, or else of its kind. -/
def name (c : FieldConstraint) : String :=
  match c.rule with
  | .custom p => p.name
  | rule => rule.kind.name

/-- What is wrong with a value, or none if it passes. -/
def check (c : FieldConstraint) (v : FieldValue) : Option String := c.rule.check v

/-- Checks that a schema has the fields of all constraints. -/
def bindAll (cs : List FieldConstraint) (s : Schema) : Except AuditError Unit :=
  match cs.find? fun c => !s.contains c.field with
  | some c => .error (.columnNotFound c.field)
  | none => .ok ()

/-! ## Validation -/

/-- Whether violations tell already that a field cannot be read. -/
def hasReadViolation (vs : List Violation) (field : String) : Bool :=
  vs.any fun v => v.kind == .recordRead && v.field == field

/-- Adds to violations that a field cannot be read, unless they tell it already. -/
def addReadViolation (index : Nat) (vs : List Violation) (field message : String) :
    List Violation :=
  if hasReadViolation vs field then vs else vs ++ [⟨index, field, .recordRead, message⟩]

/-- Adds to violations what is wrong with the field of one constraint. -/
def addViolations {ρ : Type} [Record ρ] (index : Nat) (r : ρ) (vs : List Violation)
    (c : FieldConstraint) : List Violation :=
  match Record.get r c.field with
  | .ok v =>
    match c.check v with
    | some message => vs ++ [⟨index, c.field, c.rule.kind, message⟩]
    | none => vs
  | .error e => addReadViolation index vs c.field e.message

/-- Adds to violations what is wrong with a record, constraint by constraint. -/
def validateInto {ρ : Type} [Record ρ] (index : Nat) (r : ρ) (cs : List FieldConstraint)
    (vs : List Violation) : List Violation :=
  cs.foldl (addViolations index r) vs

/-- The violations of a record. -/
def validate {ρ : Type} [Record ρ] (index : Nat) (r : ρ) (cs : List FieldConstraint) :
    List Violation :=
  validateInto index r cs []

end FieldConstraint

end RecordAudit
