import RecordAudit.Proofs.Number.Extended
import RecordAudit.Record.Value

/-!
# The number that a value is

`FieldValue.number?` reads an integer or a double as an extended rational
number.  `compare?_eq` says that a value is compared with a double by that
number, whatever the kind of the value, and `atLeast_iff` and `atMost_iff` say
the same of the two tests that filters make.
-/

namespace RecordAudit.FieldValue

/-- The number that a value is.  There is none if the value is of another kind, or a double that is
no number. -/
def number? : FieldValue → Option Extended
  | integer n => some (.ofInt n.toInt)
  | float y => if Double.isNaN y then none else some (Double.extended y)
  | _ => none

theorem compare?_of_isNaN (v : FieldValue) {x : Float} (hx : Double.isNaN x = true) :
    v.compare? x = none := by
  cases v with
  | integer n => simp [compare?, Double.compareWord?, hx]
  | float y => simp [compare?, Double.compare?, hx]
  | _ => rfl

/-- A value is compared with a double by the numbers that they are. -/
theorem compare?_eq (v : FieldValue) {x : Float} (hx : Double.isNaN x = false) :
    v.compare? x = v.number?.map fun q => compare q (Double.extended x) := by
  cases v with
  | integer n => exact Double.compareWord?_eq n hx
  | float y =>
    rw [compare?, number?]
    cases hy : Double.isNaN y with
    | true => simp [Double.compare?, hy]
    | false => simpa using Double.compare?_eq hy hx
  | _ => rfl

theorem number?_eq_none_iff (v : FieldValue) :
    v.number? = none ↔ v.isNumeric = false ∨ ∃ y, v = .float y ∧ Double.isNaN y = true := by
  cases v with
  | integer n => simp [number?, isNumeric]
  | float y => simp [number?, isNumeric]
  | _ => simp [number?, isNumeric]

theorem isNull_of_number?_eq_some {v : FieldValue} {q : Extended} (h : v.number? = some q) :
    v.isNull = false := by
  cases v with
  | null => cases h
  | _ => rfl

theorem isNull_of_isNumeric {v : FieldValue} (h : v.isNumeric = true) : v.isNull = false := by
  cases v with
  | null => cases h
  | _ => rfl

theorem atLeast_iff (v : FieldValue) {x : Float} (hx : Double.isNaN x = false) :
    v.atLeast x = true ↔ ∃ q, v.number? = some q ∧ Double.extended x ≤ q := by
  rw [atLeast, v.compare?_eq hx]
  cases v.number? with
  | none => simp
  | some q =>
    rcases lt_trichotomy q (Double.extended x) with h | h | h
    · simp [compare_lt_iff_lt.mpr h, h]
    · simp [h]
    · simp [compare_gt_iff_gt.mpr h, h.le]

theorem atMost_iff (v : FieldValue) {x : Float} (hx : Double.isNaN x = false) :
    v.atMost x = true ↔ ∃ q, v.number? = some q ∧ q ≤ Double.extended x := by
  rw [atMost, v.compare?_eq hx]
  cases v.number? with
  | none => simp
  | some q =>
    rcases lt_trichotomy q (Double.extended x) with h | h | h
    · simp [compare_lt_iff_lt.mpr h, h.le]
    · simp [h]
    · simp [compare_gt_iff_gt.mpr h, h]

/-- A value is equal to a double in the order if it is the number that the double stands for. -/
theorem compare?_eq_some_eq_iff (v : FieldValue) {x : Float} (hx : Double.isNaN x = false) :
    v.compare? x = some .eq ↔ v.number? = some (Double.extended x) := by
  rw [v.compare?_eq hx, Option.map_eq_some_iff]
  simp

end RecordAudit.FieldValue
