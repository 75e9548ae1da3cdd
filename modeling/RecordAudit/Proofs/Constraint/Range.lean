import RecordAudit.Constraint.FieldConstraint
import RecordAudit.Proofs.Record.Numeric

/-!
# Ranges of numbers

A range constraint is built from bounds that are numbers and not crossed
(`range_eq_ok_iff`), and a value passes it iff it is null or a number that lies
between the bounds (`checkRange_eq_none_iff`).  Nothing is rounded on the way.
-/

namespace RecordAudit

namespace Rule

/-- A number passes the bounds that it lies between. -/
theorem checkBounds_eq_none_iff {least greatest : Option Float}
    (hleast : ∀ a ∈ least, Double.isNaN a = false)
    (hgreatest : ∀ b ∈ greatest, Double.isNaN b = false) {v : FieldValue} {q : Extended}
    (hv : v.number? = some q) :
    checkBounds least greatest v = none ↔
      (∀ a ∈ least, Double.extended a ≤ q) ∧ ∀ b ∈ greatest, q ≤ Double.extended b := by
  have hbelow : ∀ a ∈ least, (v.compare? a == some .lt) = true ↔ q < Double.extended a := by
    intro a ha
    simp [v.compare?_eq (hleast a ha), hv, compare_lt_iff_lt]
  have habove : ∀ b ∈ greatest, (v.compare? b == some .gt) = true ↔ Double.extended b < q := by
    intro b hb
    simp [v.compare?_eq (hgreatest b hb), hv, compare_gt_iff_gt]
  unfold checkBounds
  cases least with
  | none =>
    cases greatest with
    | none => simp
    | some b => simp [habove b rfl]
  | some a =>
    cases greatest with
    | none => simp [hbelow a rfl]
    | some b =>
      by_cases hlow : q < Double.extended a
      · simp [hbelow a rfl, hlow]
      · simp [hbelow a rfl, habove b rfl, hlow, not_lt.mp hlow]

/-- A value passes a range iff it is null or a number that lies between the bounds. -/
theorem checkRange_eq_none_iff {least greatest : Option Float}
    (hleast : ∀ a ∈ least, Double.isNaN a = false)
    (hgreatest : ∀ b ∈ greatest, Double.isNaN b = false) (v : FieldValue) :
    checkRange least greatest v = none ↔ v.isNull = true ∨
      ∃ q, v.number? = some q ∧
        (∀ a ∈ least, Double.extended a ≤ q) ∧ ∀ b ∈ greatest, q ≤ Double.extended b := by
  have hnumber : ∀ {q}, v.number? = some q →
      (checkBounds least greatest v = none ↔ v.isNull = true ∨ ∃ q, v.number? = some q ∧
        (∀ a ∈ least, Double.extended a ≤ q) ∧ ∀ b ∈ greatest, q ≤ Double.extended b) := by
    intro q hq
    rw [checkBounds_eq_none_iff hleast hgreatest hq]
    simp [hq, FieldValue.isNull_of_number?_eq_some hq]
  cases v with
  | null => simp [checkRange, FieldValue.isNull]
  | integer n => exact hnumber rfl
  | float y =>
    cases hy : Double.isNaN y with
    | true => simp [checkRange, FieldValue.isNull, FieldValue.number?, hy]
    | false =>
      rw [checkRange, hy, if_neg Bool.false_ne_true]
      exact hnumber (by rw [FieldValue.number?, hy, if_neg Bool.false_ne_true])
  | _ => simp [checkRange, FieldValue.isNull, FieldValue.number?]

end Rule

namespace FieldConstraint

/-- A range constraint is built from bounds that are numbers and not crossed. -/
theorem range_eq_ok_iff {field : String} {least greatest : Option Float} {c : FieldConstraint} :
    range field least greatest = .ok c ↔
      (∀ a ∈ least, Double.isNaN a = false) ∧ (∀ b ∈ greatest, Double.isNaN b = false) ∧
        (∀ a ∈ least, ∀ b ∈ greatest, Double.extended a ≤ Double.extended b) ∧
          ⟨field, .range least greatest⟩ = c := by
  cases least with
  | none =>
    cases greatest with
    | none => simp [range]
    | some b => cases hb : Double.isNaN b <;> simp [range, hb]
  | some a =>
    cases ha : Double.isNaN a with
    | true => simp [range, ha]
    | false =>
      cases greatest with
      | none => simp [range, ha]
      | some b =>
        cases hb : Double.isNaN b with
        | true => simp [range, hb]
        | false =>
          have hcrossed := Double.less_iff_extended_lt hb ha
          by_cases hlt : Double.extended b < Double.extended a
          · simp [range, ha, hb, hcrossed, hlt]
          · simp [range, ha, hb, hcrossed, hlt, not_lt.mp hlt]

/-- A constraint with both bounds is built from bounds that are numbers and not crossed. -/
theorem between_eq_ok_iff {field : String} {a b : Float} {c : FieldConstraint} :
    between field a b = .ok c ↔
      Double.atMost a b = true ∧ ⟨field, .range (some a) (some b)⟩ = c := by
  rw [between, range_eq_ok_iff]
  simp only [Option.mem_some, forall_eq']
  constructor
  · rintro ⟨ha, hb, hle, hc⟩
    exact ⟨(Double.atMost_iff_extended_le ha hb).mpr hle, hc⟩
  · rintro ⟨hle, hc⟩
    obtain ⟨ha, hb⟩ := Double.isNaN_eq_false_of_atMost hle
    exact ⟨ha, hb, (Double.atMost_iff_extended_le ha hb).mp hle, hc⟩

/-- A value passes a constraint with both bounds iff it is null or a number between them. -/
theorem check_between_eq_none_iff {field : String} {a b : Float} {c : FieldConstraint}
    (h : between field a b = .ok c) (v : FieldValue) :
    c.check v = none ↔ v.isNull = true ∨
      ∃ q, v.number? = some q ∧ Double.extended a ≤ q ∧ q ≤ Double.extended b := by
  obtain ⟨hle, rfl⟩ := between_eq_ok_iff.mp h
  obtain ⟨ha, hb⟩ := Double.isNaN_eq_false_of_atMost hle
  rw [check, Rule.check, Rule.checkRange_eq_none_iff (by simpa using ha) (by simpa using hb)]
  simp

/-- Ranges of numbers are checked exactly.  An integer and a double are in the order of the numbers
that they stand for, only what is no number has no order, and a value passes a range iff it is null
or a number not below the least bound and not above the greatest. -/
theorem check_range_exact :
    (∀ (n : Int64) (x : Float), Double.isNaN x = false →
      (FieldValue.integer n).compare? x =
        some (compare (Extended.ofInt n.toInt) (Double.extended x))) ∧
    (∀ (v : FieldValue) (x : Float), v.compare? x = none ↔
      v.isNumeric = false ∨ (∃ y, v = .float y ∧ Double.isNaN y = true) ∨
        Double.isNaN x = true) ∧
    ∀ (field : String) (least greatest : Option Float) (c : FieldConstraint),
      range field least greatest = .ok c → ∀ v : FieldValue,
        c.check v = none ↔ v.isNull = true ∨ ∃ q, v.number? = some q ∧
          (∀ a ∈ least, Double.extended a ≤ q) ∧ ∀ b ∈ greatest, q ≤ Double.extended b := by
  refine ⟨fun n x hx => Double.compareWord?_eq n hx, fun v x => ?_,
    fun field least greatest c hrange v => ?_⟩
  · cases hx : Double.isNaN x with
    | true => simp [v.compare?_of_isNaN hx]
    | false =>
      rw [v.compare?_eq hx, Option.map_eq_none_iff, v.number?_eq_none_iff]
      simp
  · obtain ⟨hleast, hgreatest, -, rfl⟩ := range_eq_ok_iff.mp hrange
    exact Rule.checkRange_eq_none_iff hleast hgreatest v

/-- At two to the 53, above which not every integer is a double, and below zero, where the bound is
between two integers. -/
theorem check_range_exact_wide :
    Double.isNaN 9007199254740992 = false ∧
      (FieldValue.integer 9007199254740993).compare? 9007199254740992 = some .gt ∧
      ∃ c, range "n" (some (-0.5)) (some 9007199254740992) = .ok c ∧
        c.check (.integer 0) = none ∧ c.check (.integer (-1)) ≠ none ∧
        c.check (.integer 9007199254740992) = none ∧
        c.check (.integer 9007199254740993) ≠ none := by
  obtain ⟨hcompare, -, hcheck⟩ := check_range_exact
  have hnum : Double.isNaN 9007199254740992 = false := by decide
  have hrange : range "n" (some (-0.5)) (some 9007199254740992) =
      .ok ⟨"n", .range (some (-0.5)) (some 9007199254740992)⟩ := rfl
  have hwithin : ∀ n : Int64,
      check ⟨"n", .range (some (-0.5)) (some 9007199254740992)⟩ (.integer n) = none ↔
        Double.extended (-0.5) ≤ .ofInt n.toInt ∧
          .ofInt n.toInt ≤ Double.extended 9007199254740992 := by
    intro n
    rw [hcheck _ _ _ _ hrange]
    simp [FieldValue.isNull, FieldValue.number?]
  refine ⟨hnum, ?_, _, hrange, ?_, ?_, ?_, ?_⟩
  · rw [hcompare _ _ hnum]
    decide +kernel
  all_goals
    simp only [ne_eq, hwithin]
    decide +kernel

end FieldConstraint

end RecordAudit
