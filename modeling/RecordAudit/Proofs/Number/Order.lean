import RecordAudit.Number.Double

/-!
# The order of doubles

`Double.less` and `Double.eq` are defined through an order that may not exist.
On doubles that are numbers it exists, and both say how `Double.key` compares.
-/

namespace RecordAudit.Double

theorem isNaN_eq_false_of_isFinite {x : Float} (h : isFinite x = true) : isNaN x = false := by
  simp only [isFinite, isNaN, decide_eq_true_eq, decide_eq_false_iff_not] at h ⊢
  omega

/-- On numbers the order is that of the keys. -/
theorem compare?_of_isNaN_eq_false {x y : Float} (hx : isNaN x = false) (hy : isNaN y = false) :
    compare? x y = some (compare (key x) (key y)) := by
  simp [compare?, hx, hy]

theorem less_iff_key_lt {x y : Float} (hx : isNaN x = false) (hy : isNaN y = false) :
    less x y = true ↔ key x < key y := by
  rw [less, compare?_of_isNaN_eq_false hx hy, beq_iff_eq, Option.some.injEq, Int.compare_eq_lt]

theorem eq_iff_key_eq {x y : Float} (hx : isNaN x = false) (hy : isNaN y = false) :
    eq x y = true ↔ key x = key y := by
  rw [eq, compare?_of_isNaN_eq_false hx hy, beq_iff_eq, Option.some.injEq, Int.compare_eq_eq]

theorem atMost_iff_key_le {x y : Float} (hx : isNaN x = false) (hy : isNaN y = false) :
    atMost x y = true ↔ key x ≤ key y := by
  rw [atMost, Bool.or_eq_true, less_iff_key_lt hx hy, eq_iff_key_eq hx hy]
  omega

theorem isNaN_eq_false_of_atMost {x y : Float} (h : atMost x y = true) :
    isNaN x = false ∧ isNaN y = false := by
  cases hx : isNaN x with
  | true => simp [atMost, less, eq, compare?, hx] at h
  | false =>
    cases hy : isNaN y with
    | true => simp [atMost, less, eq, compare?, hy] at h
    | false => exact ⟨rfl, rfl⟩

/-- A fraction is a number. -/
theorem isNaN_eq_false_of_isFraction {x : Float} (h : isFraction x = true) : isNaN x = false := by
  cases hnan : isNaN x with
  | false => rfl
  | true => simp [isFraction, atMost, less, eq, compare?, hnan] at h

/-- A fraction is finite, as it is neither below zero nor above one. -/
theorem isFinite_of_isFraction {x : Float} (h : isFraction x = true) : isFinite x = true := by
  have hnum := isNaN_eq_false_of_isFraction h
  obtain ⟨hzero, hone⟩ := Bool.and_eq_true_iff.mp h
  rw [atMost_iff_key_le (by decide +kernel) hnum] at hzero
  rw [atMost_iff_key_le hnum (by decide +kernel)] at hone
  have hbelow : key 1 < infiniteMagnitude := by decide +kernel
  have hnonneg : key 0 = 0 := by decide +kernel
  have hmagnitude : key x = magnitude x ∨ key x = -(magnitude x : Int) := by
    rw [key]
    split
    · exact .inr rfl
    · exact .inl rfl
  rw [isFinite, decide_eq_true_iff]
  omega

end RecordAudit.Double
