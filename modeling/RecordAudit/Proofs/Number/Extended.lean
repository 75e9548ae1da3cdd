import Mathlib.Order.WithBot
import RecordAudit.Proofs.Number.Rational

/-!
# Doubles among the extended rational numbers

`Double.extended` is the number that a double stands for, with an infinity at
either end of the rational numbers, and comparing doubles compares these
numbers.

* `compare?_eq` is the order of two doubles.
* `compareWord?_eq` is the order of an integer of 64 bits and a double.  The
  double may lie beyond these integers or between two of them, and the guards
  of the definition are what makes its integer part one of them.
-/

namespace RecordAudit

/-- The rational numbers with an infinity at either end. -/
abbrev Extended : Type := WithBot (WithTop Rat)

namespace Extended

/-- A rational number among those with infinities. -/
def ofRat (q : Rat) : Extended := ((q : WithTop Rat) : WithBot (WithTop Rat))

/-- An integer among the rational numbers with infinities. -/
def ofInt (n : Int) : Extended := ofRat n

@[simp] theorem ofRat_lt_ofRat {p q : Rat} : ofRat p < ofRat q ↔ p < q := by simp [ofRat]

@[simp] theorem ofRat_inj {p q : Rat} : ofRat p = ofRat q ↔ p = q := by simp [ofRat]

@[simp] theorem ofInt_lt_ofInt {m n : Int} : ofInt m < ofInt n ↔ m < n := by simp [ofInt]

theorem ofInt_le_ofInt {m n : Int} : ofInt m ≤ ofInt n ↔ m ≤ n := by
  rw [← not_lt, ofInt_lt_ofInt, not_lt]

@[simp] theorem ofInt_inj {m n : Int} : ofInt m = ofInt n ↔ m = n := by simp [ofInt]

@[simp] theorem bot_lt_ofRat (q : Rat) : ⊥ < ofRat q := by simp [ofRat]

@[simp] theorem ofRat_lt_top (q : Rat) : ofRat q < ⊤ :=
  WithBot.coe_lt_coe.mpr (WithTop.coe_lt_top q)

end Extended

/-- Two pairs that are in the same order compare alike. -/
theorem compare_eq_compare_of_lt_iff {α β : Type} [LinearOrder α] [LinearOrder β] {a b : α}
    {c d : β} (hlt : a < b ↔ c < d) (hgt : b < a ↔ d < c) : compare a b = compare c d := by
  rcases lt_trichotomy a b with h | h | h
  · rw [compare_lt_iff_lt.mpr h, compare_lt_iff_lt.mpr (hlt.mp h)]
  · have heq : c = d := le_antisymm (not_lt.mp fun hdc => (hgt.mpr hdc).ne' h)
      (not_lt.mp fun hcd => (hlt.mpr hcd).ne h)
    rw [compare_eq_iff_eq.mpr h, compare_eq_iff_eq.mpr heq]
  · rw [compare_gt_iff_gt.mpr h, compare_gt_iff_gt.mpr (hgt.mp h)]

namespace Double

/-- The number that a double stands for.  Says nothing of a double that is no number. -/
def extended (x : Float) : Extended :=
  if isInfinite x then (if isNegative x then ⊥ else ⊤) else .ofRat (toRat x)

/-! ## Two doubles -/

/-- The three places at which a double can stand, by its key. -/
theorem extended_cases {x : Float} (hx : isNaN x = false) :
    (key x = -infiniteMagnitude ∧ extended x = ⊥) ∨
      (-infiniteMagnitude < key x ∧ key x < infiniteMagnitude ∧ extended x = .ofRat (toRat x)) ∨
        (key x = infiniteMagnitude ∧ extended x = ⊤) := by
  simp only [isNaN, decide_eq_false_iff_not, not_lt] at hx
  by_cases hinf : magnitude x = infiniteMagnitude
  · have hinfinite : isInfinite x = true := beq_iff_eq.mpr hinf
    by_cases hneg : isNegative x = true
    · exact .inl ⟨by rw [key, if_pos hneg, hinf], by rw [extended, if_pos hinfinite, if_pos hneg]⟩
    · exact .inr (.inr ⟨by rw [key, if_neg hneg, hinf],
        by rw [extended, if_pos hinfinite, if_neg hneg]⟩)
  · have hfinite : ¬isInfinite x = true := fun h => hinf (beq_iff_eq.mp h)
    refine .inr (.inl ⟨?_, ?_, by rw [extended, if_neg hfinite]⟩)
    all_goals
      rw [key]
      split <;> omega

theorem toRat_lt_toRat_iff {x y : Float} : toRat x < toRat y ↔ key x < key y := by
  rw [toRat_eq_ofKey, toRat_eq_ofKey, ofKey_lt_ofKey_iff]

/-- The numbers are in the order of the keys. -/
theorem extended_lt_extended_iff {x y : Float} (hx : isNaN x = false) (hy : isNaN y = false) :
    extended x < extended y ↔ key x < key y := by
  have hmagnitude : (0 : Int) < infiniteMagnitude := by decide
  rcases extended_cases hx with ⟨hkx, hex⟩ | ⟨hkx, hkx', hex⟩ | ⟨hkx, hex⟩ <;>
    rcases extended_cases hy with ⟨hky, hey⟩ | ⟨hky, hky', hey⟩ | ⟨hky, hey⟩
  all_goals simp only [hex, hey, Extended.ofRat_lt_ofRat, toRat_lt_toRat_iff,
    Extended.bot_lt_ofRat, Extended.ofRat_lt_top, not_lt_bot, not_top_lt, lt_self_iff_false,
    bot_lt_top, true_iff, false_iff]
  all_goals omega

theorem extended_le_extended_iff {x y : Float} (hx : isNaN x = false) (hy : isNaN y = false) :
    extended x ≤ extended y ↔ key x ≤ key y := by
  rw [← not_lt, extended_lt_extended_iff hy hx, not_lt]

/-! The tests on doubles are those on the numbers. -/

theorem less_iff_extended_lt {x y : Float} (hx : isNaN x = false) (hy : isNaN y = false) :
    less x y = true ↔ extended x < extended y := by
  rw [less_iff_key_lt hx hy, extended_lt_extended_iff hx hy]

theorem atMost_iff_extended_le {x y : Float} (hx : isNaN x = false) (hy : isNaN y = false) :
    atMost x y = true ↔ extended x ≤ extended y := by
  rw [atMost_iff_key_le hx hy, extended_le_extended_iff hx hy]

theorem eq_iff_extended_eq {x y : Float} (hx : isNaN x = false) (hy : isNaN y = false) :
    eq x y = true ↔ extended x = extended y := by
  rw [eq_iff_key_eq hx hy, le_antisymm_iff, le_antisymm_iff, extended_le_extended_iff hx hy,
    extended_le_extended_iff hy hx]

/-- Comparing doubles compares the numbers that they stand for. -/
theorem compare?_eq {x y : Float} (hx : isNaN x = false) (hy : isNaN y = false) :
    compare? x y = some (compare (extended x) (extended y)) := by
  rw [compare?_of_isNaN_eq_false hx hy]
  exact congrArg some (compare_eq_compare_of_lt_iff (extended_lt_extended_iff hx hy).symm
    (extended_lt_extended_iff hy hx).symm)

/-! ## An integer and a double -/

theorem extended_wordEnd : extended wordEnd = .ofInt (2 ^ 63) := by
  have hfinite : ¬isInfinite wordEnd = true := by decide
  have hrat : toRat wordEnd = (2 ^ 63 : Int) := by decide +kernel
  rw [extended, if_neg hfinite, hrat, Extended.ofInt]

theorem extended_neg_wordEnd : extended (-wordEnd) = .ofInt (-2 ^ 63) := by
  have hfinite : ¬isInfinite (-wordEnd) = true := by decide
  have hrat : toRat (-wordEnd) = (-2 ^ 63 : Int) := by decide +kernel
  rw [extended, if_neg hfinite, hrat, Extended.ofInt]

theorem isWhole_iff {x : Float} : isWhole x = true ↔ (⌊toRat x⌋ : Rat) = toRat x := by
  rw [isWhole, beq_iff_eq, floor_eq_floor, ceiling_eq_ceil]
  constructor
  · intro h
    exact le_antisymm (Int.floor_le _) (h ▸ Int.le_ceil _)
  · intro h
    rw [← h, Int.floor_intCast, Int.ceil_intCast]

/-- An integer is compared with a double through the integer part of the double. -/
theorem compare_floor_then (n : Int) (x : Float) :
    (compare n (floor x)).then (if isWhole x then .eq else .lt) = compare (n : Rat) (toRat x) := by
  have hfloor : (⌊toRat x⌋ : Rat) ≤ toRat x := Int.floor_le _
  rw [floor_eq_floor]
  rcases lt_trichotomy n ⌊toRat x⌋ with h | h | h
  · have hlt : (n : Rat) < toRat x := lt_of_lt_of_le (by exact_mod_cast h) hfloor
    rw [Int.compare_eq_lt.mpr h, compare_lt_iff_lt.mpr hlt]
    rfl
  · rw [Int.compare_eq_eq.mpr h, h]
    by_cases hwhole : isWhole x = true
    · rw [if_pos hwhole, compare_eq_iff_eq.mpr (isWhole_iff.mp hwhole)]
      rfl
    · rw [if_neg hwhole, compare_lt_iff_lt.mpr (lt_of_le_of_ne hfloor fun heq =>
        hwhole (isWhole_iff.mpr heq))]
      rfl
  · have hgt : toRat x < n := Int.floor_lt.mp h
    rw [Int.compare_eq_gt.mpr h, compare_gt_iff_gt.mpr hgt]
    rfl

/-- A double between the ends of the integers of 64 bits is finite, and its integer part is one of
them. -/
theorem toInt_ofIntClamp_floor {x : Float} (hx : isNaN x = false)
    (hlow : .ofInt (-2 ^ 63) ≤ extended x) (hhigh : extended x < .ofInt (2 ^ 63)) :
    extended x = .ofRat (toRat x) ∧ (Int64.ofIntClamp (floor x)).toInt = floor x := by
  have hfinite : extended x = .ofRat (toRat x) := by
    rcases extended_cases hx with ⟨-, h⟩ | ⟨-, -, h⟩ | ⟨-, h⟩
    · rw [h] at hlow
      exact absurd (Extended.bot_lt_ofRat _) (not_lt.mpr hlow)
    · exact h
    · rw [h] at hhigh
      exact absurd hhigh not_top_lt
  rw [hfinite, Extended.ofInt, ← not_lt, Extended.ofRat_lt_ofRat, not_lt] at hlow
  rw [hfinite, Extended.ofInt, Extended.ofRat_lt_ofRat] at hhigh
  have hlowest : -2 ^ 63 ≤ ⌊toRat x⌋ := Int.le_floor.mpr hlow
  have hhighest : ⌊toRat x⌋ < 2 ^ 63 := Int.floor_lt.mpr hhigh
  refine ⟨hfinite, Int64.toInt_ofIntClamp ?_ ?_⟩
  · rw [floor_eq_floor, Int64.toInt_minValue]
    exact hlowest
  · rw [floor_eq_floor, Int64.toInt_maxValue]
    omega

theorem compare_eq_compare_toInt (m n : Int64) : compare m n = compare m.toInt n.toInt := by
  rcases lt_trichotomy m.toInt n.toInt with h | h | h
  · rw [Int.compare_eq_lt.mpr h]
    exact Std.compare_eq_lt.mpr (Int64.lt_iff_toInt_lt.mpr h)
  · rw [Int.compare_eq_eq.mpr h]
    exact Std.compare_eq_iff_eq.mpr (Int64.toInt_inj.mp h)
  · rw [Int.compare_eq_gt.mpr h]
    exact Std.compare_eq_gt.mpr (Int64.lt_iff_toInt_lt.mpr h)

/-- Comparing an integer of 64 bits with a double compares the numbers. -/
theorem compareWord?_eq (n : Int64) {x : Float} (hx : isNaN x = false) :
    compareWord? n x = some (compare (Extended.ofInt n.toInt) (extended x)) := by
  have hend : isNaN wordEnd = false := by decide
  have hend' : isNaN (-wordEnd) = false := by decide
  have hn : Extended.ofInt n.toInt < .ofInt (2 ^ 63) :=
    Extended.ofInt_lt_ofInt.mpr (Int64.toInt_lt n)
  have hn' : .ofInt (-2 ^ 63) ≤ Extended.ofInt n.toInt :=
    Extended.ofInt_le_ofInt.mpr (Int64.le_toInt n)
  rw [compareWord?, hx, if_neg Bool.false_ne_true]
  by_cases hhigh : atMost wordEnd x = true
  · have hle := (atMost_iff_extended_le hend hx).mp hhigh
    rw [extended_wordEnd] at hle
    rw [if_pos hhigh, compare_lt_iff_lt.mpr (hn.trans_le hle)]
  rw [if_neg hhigh]
  by_cases hlow : less x (-wordEnd) = true
  · have hlt := (less_iff_extended_lt hx hend').mp hlow
    rw [extended_neg_wordEnd] at hlt
    rw [if_pos hlow, compare_gt_iff_gt.mpr (hlt.trans_le hn')]
  rw [if_neg hlow]
  rw [atMost_iff_extended_le hend hx, extended_wordEnd, not_le] at hhigh
  rw [less_iff_extended_lt hx hend', extended_neg_wordEnd, not_lt] at hlow
  obtain ⟨hfinite, hfloor⟩ := toInt_ofIntClamp_floor hx hlow hhigh
  rw [compare_eq_compare_toInt, hfloor, compare_floor_then, hfinite]
  exact congrArg some (compare_eq_compare_of_lt_iff Extended.ofRat_lt_ofRat.symm
    Extended.ofRat_lt_ofRat.symm)

end Double

end RecordAudit
