import Mathlib.Algebra.Order.Field.Power
import Mathlib.Data.Rat.Floor
import Mathlib.Order.SuccPred.Basic
import Mathlib.Tactic.Positivity
import Mathlib.Tactic.Ring
import RecordAudit.Proofs.Number.Order

/-!
# The number that a double stands for

A double is a significand times a power of two, and `Double.toRat` is the
rational number that this is.

* `floor_eq_floor` and `ceiling_eq_ceil` say that `Double.floor` and
  `Double.ceiling` are the floor and the ceiling of that number.
* `toRat_eq_ofKey` says that the key of a double tells its number, and
  `ofKey_lt_ofKey_iff` that the numbers ascend with the keys.  It comes down to
  `ofMagnitude_succ`: the next magnitude is one unit of the last place more,
  also where the power of two changes.
-/

namespace RecordAudit.Double

/-! ## Significands and powers of two -/

/-- A power is a quotient of which one part is one. -/
theorem pow_toNat_div_pow_toNat (b : Rat) (e : Int) :
    b ^ e.toNat / b ^ (-e).toNat = b ^ e := by
  rcases le_total 0 e with hsign | hsign
  · have hpow : (e.toNat : Int) = e := Int.toNat_of_nonneg hsign
    have hzero : (-e).toNat = 0 := by omega
    rw [hzero, pow_zero, div_one, ← zpow_natCast, hpow]
  · have hpow : ((-e).toNat : Int) = -e := Int.toNat_of_nonneg (by omega)
    have hzero : e.toNat = 0 := by omega
    rw [hzero, pow_zero, one_div, ← zpow_natCast, hpow, zpow_neg, inv_inv]

theorem factor_div_divisor (x : Float) : (factor x : Rat) / divisor x = 2 ^ exponent x := by
  have hdivisor : (divisor x : Rat) = 2 ^ (-exponent x).toNat := by simp [divisor]
  have hfactor : (factor x : Rat) = 2 ^ (exponent x).toNat := by simp [factor]
  rw [hfactor, hdivisor, pow_toNat_div_pow_toNat]

theorem toRat_eq (x : Float) : toRat x = signed x * 2 ^ exponent x := by
  rw [toRat, Rat.mkRat_eq_div, ← factor_div_divisor]
  push_cast
  ring

/-- The floor is taken without rounding. -/
theorem floor_eq_floor (x : Float) : floor x = ⌊toRat x⌋ := by
  rw [floor, toRat, Rat.mkRat_eq_div, Rat.floor_intCast_div_natCast]

/-- The ceiling is taken without rounding. -/
theorem ceiling_eq_ceil (x : Float) : ceiling x = ⌈toRat x⌉ := by
  rw [ceiling, toRat, Rat.mkRat_eq_div, Rat.ceil_intCast_div_natCast]

/-! ## The order -/

/-- The power of two that scales the significand of a magnitude. -/
def lastPlace (m : Nat) : Int := (max (m / exponentBit) 1 : Nat) - 1075

/-- The significand of a magnitude. -/
def units (m : Nat) : Nat := if m < exponentBit then m else m % exponentBit + exponentBit

/-- A magnitude is subnormal, or one bit is implied before its fraction. -/
theorem units_cases (m : Nat) :
    (m < exponentBit ∧ units m = m) ∨
      (exponentBit ≤ m ∧ units m = m % exponentBit + exponentBit) := by
  by_cases h : m < exponentBit
  · exact Or.inl ⟨h, if_pos h⟩
  · exact Or.inr ⟨Nat.not_lt.mp h, if_neg h⟩

/-- The number that has a magnitude and no sign. -/
def ofMagnitude (m : Nat) : Rat := units m * 2 ^ lastPlace m

/-- The next magnitude is one unit of the last place more. -/
theorem ofMagnitude_succ (m : Nat) : ofMagnitude (m + 1) = ofMagnitude m + 2 ^ lastPlace m := by
  have hunits := units_cases m
  have hunits' := units_cases (m + 1)
  by_cases hsame : lastPlace (m + 1) = lastPlace m
  · have hone : units (m + 1) = units m + 1 := by
      simp only [lastPlace, exponentBit] at hsame hunits hunits'
      omega
    rw [ofMagnitude, ofMagnitude, hsame, hone]
    push_cast
    ring
  -- The significand was the greatest one; the next one is the least, of a place twice as high.
  · have hplace : lastPlace (m + 1) = lastPlace m + 1 := by
      simp only [lastPlace, exponentBit] at hsame ⊢
      omega
    have hgreatest : units m + 1 = 2 * exponentBit := by
      simp only [lastPlace, exponentBit] at hsame hunits ⊢
      omega
    have hleast : units (m + 1) = exponentBit := by
      simp only [lastPlace, exponentBit] at hsame hunits' ⊢
      omega
    have hcast : (units m : Rat) + 1 = 2 * exponentBit := by exact_mod_cast hgreatest
    calc ofMagnitude (m + 1) = exponentBit * 2 ^ (lastPlace m + 1) := by
          rw [ofMagnitude, hleast, hplace]
      _ = (2 * exponentBit) * 2 ^ lastPlace m := by
          rw [zpow_add_one₀ two_ne_zero]
          ring
      _ = ofMagnitude m + 2 ^ lastPlace m := by
          rw [← hcast, ofMagnitude]
          ring

theorem ofMagnitude_strictMono : StrictMono ofMagnitude :=
  strictMono_nat_of_lt_succ fun m => by
    rw [ofMagnitude_succ]
    exact lt_add_of_pos_right _ (by positivity)

theorem ofMagnitude_zero : ofMagnitude 0 = 0 := by simp [ofMagnitude, units, exponentBit]

theorem ofMagnitude_nonneg (m : Nat) : 0 ≤ ofMagnitude m := by
  rw [ofMagnitude]
  positivity

/-- The number that has a key. -/
def ofKey (k : Int) : Rat := if k < 0 then -ofMagnitude k.natAbs else ofMagnitude k.natAbs

theorem ofKey_lt_ofKey {j k : Int} (h : j < k) : ofKey j < ofKey k := by
  rw [ofKey, ofKey]
  split
  · split
    · exact neg_lt_neg (ofMagnitude_strictMono (by omega))
    · have hpos : ofMagnitude 0 < ofMagnitude j.natAbs := ofMagnitude_strictMono (by omega)
      rw [ofMagnitude_zero] at hpos
      exact (neg_neg_of_pos hpos).trans_le (ofMagnitude_nonneg _)
  · split
    · omega
    · exact ofMagnitude_strictMono (by omega)

theorem ofKey_lt_ofKey_iff {j k : Int} : ofKey j < ofKey k ↔ j < k := by
  have hmono : StrictMono ofKey := fun _ _ => ofKey_lt_ofKey
  exact hmono.lt_iff_lt

/-- The key of a double tells its number. -/
theorem toRat_eq_ofKey (x : Float) : toRat x = ofKey (key x) := by
  have hmagnitude : (significand x : Rat) * 2 ^ exponent x = ofMagnitude (magnitude x) := rfl
  rw [toRat_eq, signed, key, ofKey]
  by_cases hneg : isNegative x = true
  · rw [if_pos hneg, if_pos hneg, Int.cast_neg, Int.cast_natCast, neg_mul, hmagnitude,
      Int.natAbs_neg, Int.natAbs_natCast]
    split
    · rfl
    -- The negative zero.
    · have hzero : magnitude x = 0 := by omega
      rw [hzero, ofMagnitude_zero, neg_zero]
  · rw [if_neg hneg, if_neg hneg, Int.cast_natCast, hmagnitude, Int.natAbs_natCast,
      if_neg (by omega)]

theorem toRat_eq_toRat_iff {x y : Float} : toRat x = toRat y ↔ key x = key y := by
  have hmono : StrictMono ofKey := fun _ _ => ofKey_lt_ofKey
  rw [toRat_eq_ofKey, toRat_eq_ofKey, hmono.injective.eq_iff]

theorem toRat_le_of_key_le {x y : Float} (h : key x ≤ key y) : toRat x ≤ toRat y := by
  rw [toRat_eq_ofKey, toRat_eq_ofKey, ← not_lt, ofKey_lt_ofKey_iff, not_lt]
  exact h

theorem ceiling_le_of_key_le {x y : Float} (h : key x ≤ key y) : ceiling x ≤ ceiling y := by
  rw [ceiling_eq_ceil, ceiling_eq_ceil]
  exact Int.ceil_le_ceil (toRat_le_of_key_le h)

end RecordAudit.Double
