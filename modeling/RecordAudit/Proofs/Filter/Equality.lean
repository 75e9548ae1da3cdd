import RecordAudit.Filter.RecordFilter
import RecordAudit.Proofs.Number.Reading
import RecordAudit.Proofs.Record.Numeric

/-!
# Filters on equal numbers

`operandNumber?` is the number that an operand is to a value.  A numeric value equals an
operand that is a number iff both are the same number, with one exception
(`equalsOperand_iff`): where the operand is not written as an integer of 64 bits, an
integer is made a double before it is compared, and so equals the double nearest to it.
-/

namespace RecordAudit

open Double (StandsFor nearestInt)

namespace Condition

/-- The number that an operand is as a double; there is none if it is no number. -/
def operandDouble? (operand : String) : Option Extended :=
  (Number.double? (Text.trimmed operand)).bind fun x => (FieldValue.float x).number?

/-- The number that an operand is to a value: to an integer an integer of 64 bits if it is written
as one, and else a double. -/
def operandNumber? : FieldValue → String → Option Extended
  | .integer _, operand =>
    match Number.int64? (Text.trimmed operand) with
    | some m => some (.ofInt m.toInt)
    | none => operandDouble? operand
  | _, operand => operandDouble? operand

theorem exists_of_operandDouble? {operand : String} {q : Extended}
    (h : operandDouble? operand = some q) :
    ∃ x, Number.double? (Text.trimmed operand) = some x ∧ Double.isNaN x = false ∧
      Double.extended x = q := by
  obtain ⟨x, hread, hx⟩ := Option.bind_eq_some_iff.mp h
  rw [FieldValue.number?] at hx
  cases hnan : Double.isNaN x with
  | true => simp [hnan] at hx
  | false =>
    rw [hnan, if_neg Bool.false_ne_true] at hx
    exact ⟨x, hread, hnan, Option.some.inj hx⟩

/-- An integer that is made a double equals the double nearest to it, and is the number that this
stands for unless it has been rounded. -/
theorem eq_ofInt_iff (n : Int64) {x : Float} (hx : Double.isNaN x = false) :
    Double.eq (Float.ofInt n.toInt) x = true ↔
      Extended.ofInt n.toInt = Double.extended x ∨
        Extended.ofInt (nearestInt n.toInt) = Double.extended x := by
  have hn : n.toInt.natAbs < 2 ^ 64 := by
    have hle := n.le_toInt
    have hlt := n.toInt_lt
    omega
  have hnearest := Double.standsFor_ofInt hn
  rw [Double.eq_iff_extended_eq hnearest.isNaN hx, hnearest.extended, or_iff_right_of_imp]
  intro h
  rw [(StandsFor.of_extended_eq hx h.symm).nearestInt_eq, h]

/-- A numeric value equals an operand that is a number iff both are the same number, unless an
integer has been made a double. -/
theorem equalsOperand_iff {v : FieldValue} {operand : String} {q : Extended}
    (hv : v.isNumeric = true) (hq : operandNumber? v operand = some q) :
    equalsOperand v operand = true ↔ v.number? = some q ∨
      ∃ n, v = .integer n ∧ Number.int64? (Text.trimmed operand) = none ∧
        .ofInt (nearestInt n.toInt) = q := by
  cases v with
  | integer n =>
    cases hint : Number.int64? (Text.trimmed operand) with
    | some m =>
      simp only [operandNumber?, hint, Option.some.injEq] at hq
      simp [equalsOperand, hint, FieldValue.number?, ← hq, Int64.toInt_inj]
    | none =>
      simp only [operandNumber?, hint] at hq
      obtain ⟨x, hread, hx, rfl⟩ := exists_of_operandDouble? hq
      have hequals : equalsOperand (.integer n) operand = Double.eq (Float.ofInt n.toInt) x := by
        simp [equalsOperand, hint, hread, FieldValue.asFloat?]
      rw [hequals, eq_ofInt_iff n hx]
      simp [FieldValue.number?]
  | float y =>
    obtain ⟨x, hread, hx, rfl⟩ := exists_of_operandDouble? hq
    have hequals : equalsOperand (.float y) operand = Double.eq y x := by
      simp [equalsOperand, hread, FieldValue.asFloat?]
    rw [hequals, Double.eq, beq_iff_eq, ← (FieldValue.float y).compare?_eq_some_eq_iff hx]
    simp [FieldValue.compare?]
  | _ => cases hv

end Condition

namespace RecordFilter

open Condition (operandNumber?)

theorem matchesValue_equals_singleton (field operand : String) {v : FieldValue}
    (hpresent : v.isNull = false) :
    matchesValue ⟨field, .equals [operand]⟩ v = Condition.equalsOperand v operand := by
  show (!v.isNull && [operand].any (Condition.equalsOperand v)) = _
  rw [hpresent]
  simp

theorem matchesValue_notEquals_singleton (field operand : String) {v : FieldValue}
    (hpresent : v.isNull = false) :
    matchesValue ⟨field, .notEquals [operand]⟩ v = !Condition.equalsOperand v operand := by
  show (!v.isNull && [operand].all fun operand => !Condition.equalsOperand v operand) = _
  rw [hpresent]
  simp

/-- Equality with an operand that is a number is that of numbers, and the exact comparison with a
double agrees with it, unless the value is an integer that is no double and the operand is not
written as an integer of 64 bits; then the double nearest to the value equals it, too. -/
theorem matchesValue_equals_number {field operand : String} {v : FieldValue} {q : Extended}
    (hv : v.isNumeric = true) (hq : operandNumber? v operand = some q) :
    ∃ equal other, new field .equals [operand] = .ok equal ∧
      new field .notEquals [operand] = .ok other ∧
      (other.matchesValue v = true ↔ ¬equal.matchesValue v = true) ∧
      (equal.matchesValue v = true ↔ v.number? = some q ∨
        ∃ n, v = .integer n ∧ Number.int64? (Text.trimmed operand) = none ∧
          .ofInt (nearestInt n.toInt) = q) ∧
      ((∀ n, v = .integer n → Number.int64? (Text.trimmed operand) = none →
          ∃ x, StandsFor x n.toInt) →
        (equal.matchesValue v = true ↔ v.number? = some q) ∧
        ∀ x, Double.isNaN x = false → Double.extended x = q →
          (equal.matchesValue v = true ↔ v.compare? x = some .eq)) := by
  have hpresent := FieldValue.isNull_of_isNumeric hv
  have hequal := matchesValue_equals_singleton field operand hpresent
  have hother := matchesValue_notEquals_singleton field operand hpresent
  have hlaw := Condition.equalsOperand_iff hv hq
  refine ⟨_, _, rfl, rfl, ?_, by rw [hequal, hlaw], fun hdouble => ?_⟩
  · rw [hequal, hother]
    simp
  have hexact : matchesValue ⟨field, .equals [operand]⟩ v = true ↔ v.number? = some q := by
    rw [hequal, hlaw, or_iff_left_of_imp]
    rintro ⟨n, rfl, hint, rfl⟩
    obtain ⟨x, hx⟩ := hdouble n rfl hint
    rw [hx.nearestInt_eq, FieldValue.number?]
  refine ⟨hexact, ?_⟩
  rintro x hx rfl
  rw [hexact, v.compare?_eq_some_eq_iff hx]

/-- Two to the 53, which is a double, and a text of it that has a fraction. -/
theorem matchesValue_equals_number_wide :
    (FieldValue.integer 9007199254740992).isNumeric = true ∧
      operandNumber? (.integer 9007199254740992) " 9007199254740992.0" =
        some (.ofInt 9007199254740992) ∧
      ∃ equal other, new "id" .equals [" 9007199254740992.0"] = .ok equal ∧
        new "id" .notEquals [" 9007199254740992.0"] = .ok other ∧
        equal.matchesValue (.integer 9007199254740992) = true ∧
        other.matchesValue (.integer 9007199254740992) = false := by
  have hnumeric : (FieldValue.integer 9007199254740992).isNumeric = true := rfl
  have hq : operandNumber? (.integer 9007199254740992) " 9007199254740992.0" =
      some (.ofInt 9007199254740992) := by decide +kernel
  obtain ⟨equal, other, hequal, hother, hopposite, -, hexact⟩ :=
    @matchesValue_equals_number "id" _ _ _ hnumeric hq
  obtain ⟨hsame, -⟩ := hexact fun n hn _ => by
    cases hn
    exact Double.exists_standsFor_of_natAbs_le (by decide)
  have hmatches := hsame.mpr rfl
  refine ⟨hnumeric, hq, equal, other, hequal, hother, hmatches, ?_⟩
  rw [Bool.eq_false_iff, ne_eq, hopposite, not_not]
  exact hmatches

/-- One more than two to the 53 equals a text of two to the 53 that has a fraction, though the
exact comparison puts it above that double. -/
theorem exists_equals_rounded :
    operandNumber? (.integer 9007199254740993) "9007199254740992.0" =
        some (.ofInt 9007199254740992) ∧
      ∃ equal, new "id" .equals ["9007199254740992.0"] = .ok equal ∧
        equal.matchesValue (.integer 9007199254740993) = true ∧
        (FieldValue.integer 9007199254740993).number? ≠ some (.ofInt 9007199254740992) ∧
        (FieldValue.integer 9007199254740993).compare? 9007199254740992 = some .gt :=
  ⟨by decide +kernel, ⟨"id", .equals ["9007199254740992.0"]⟩, rfl, by decide +kernel,
    by decide +kernel, by decide +kernel⟩

end RecordFilter

end RecordAudit
