import RecordAudit.Proofs.Number.Products

/-!
# The shortest decimal is read without trouble

The shortest decimal of a double lies in the interval of the numbers that round
to the double, so it is at most half a unit of the last place above it.

* `lt_pow_magnitude10` and `magnitude10_bounds` bound the powers of ten.
* `Interval.onGrid_eq_some` is what a decimal on a grid keeps to, and
  `shortest_cases` says that `shortest` finds such a decimal or gives zero.
* `readable_shortest` is what a reader needs to know.  The greatest double is
  looked at by itself, as it has a decimal that is rounded to infinity beside
  the one that is chosen.
-/

namespace RecordAudit.Number

open Double

namespace Decimal

/-- The rational number of a decimal. -/
def toRat (d : Decimal) : Rat := d.digits * 10 ^ d.exponent

theorem toRat_strip (fuel : Nat) (d : Decimal) : (d.strip fuel).toRat = d.toRat := by
  induction fuel generalizing d with
  | zero => rfl
  | succ fuel ih =>
    rw [strip]
    split
    · next h =>
      have hdigits : (d.digits : Rat) = (d.digits / 10 : Nat) * 10 := by
        exact_mod_cast (Nat.div_mul_cancel (Nat.dvd_of_mod_eq_zero h.2)).symm
      rw [ih, toRat, toRat, zpow_add_one₀ (by norm_num), hdigits]
      ring
    · rfl

/-- Stripping zeros keeps a number different from zero, and raises the exponent by as much as the
digits allow. -/
theorem strip_bounds (fuel : Nat) {d : Decimal} (h : 0 < d.digits) :
    0 < (d.strip fuel).digits ∧ (d.strip fuel).digits ≤ d.digits ∧
      d.exponent ≤ (d.strip fuel).exponent ∧ (d.strip fuel).exponent ≤ d.exponent + fuel := by
  induction fuel generalizing d with
  | zero => exact ⟨h, Nat.le_refl _, Int.le_refl _, by simp [strip]⟩
  | succ fuel ih =>
    rw [strip]
    split
    · next hten =>
      obtain ⟨hpos, hdigits, hlow, hhigh⟩ := ih (d := ⟨d.digits / 10, d.exponent + 1⟩) (by
        show 0 < d.digits / 10
        omega)
      dsimp only at hdigits hlow hhigh
      refine ⟨hpos, by omega, by omega, ?_⟩
      push_cast
      omega
    · exact ⟨h, Nat.le_refl _, Int.le_refl _, by push_cast; omega⟩

end Decimal

/-! ## Powers of ten -/

theorem digitCount_le_iff {n k : Nat} (hk : 0 < k) : digitCount n ≤ k ↔ n < 10 ^ k :=
  Nat.length_toDigits_le_iff (by decide) hk

theorem digitCount_pos (n : Nat) : 0 < digitCount n := Nat.length_toDigits_pos

/-- A number has its last digits and one before them. -/
theorem pow_digitCount_pred_le {n : Nat} (hn : 0 < n) : 10 ^ (digitCount n - 1) ≤ n := by
  rcases Nat.eq_zero_or_pos (digitCount n - 1) with hzero | hpos
  · rw [hzero, pow_zero]
    exact hn
  · rw [← Nat.not_lt, ← digitCount_le_iff hpos]
    have := digitCount_pos n
    omega

theorem lt_pow_magnitude10 {n d : Nat} (hn : 0 < n) (hd : 0 < d) :
    (n : Rat) / d < 10 ^ magnitude10 n d := by
  have hn' : (0 : Rat) < n := by exact_mod_cast hn
  have hd' : (0 : Rat) < d := by exact_mod_cast hd
  rw [magnitude10]
  split
  · have hquotient : n / d < 10 ^ digitCount (n / d) :=
      (digitCount_le_iff (digitCount_pos _)).mp (Nat.le_refl _)
    rw [Nat.div_lt_iff_lt_mul hd] at hquotient
    rw [div_lt_iff₀ hd', zpow_natCast]
    exact_mod_cast hquotient
  · next hlt =>
    have hquotient : n * 10 ^ (digitCount (d / n) - 1) ≤ d := by
      rw [Nat.mul_comm, ← Nat.le_div_iff_mul_le hn]
      exact pow_digitCount_pred_le (Nat.div_pos (by omega) hn)
    dsimp only [Nat.pow_eq]
    generalize digitCount (d / n) - 1 = k at hquotient
    have hpower : (0 : Rat) < 10 ^ k := by positivity
    split
    · next heq =>
      have hvalue : (n : Rat) / d = 10 ^ (-(k : Int)) := by
        rw [zpow_neg, zpow_natCast, ← heq, Nat.cast_mul, Nat.cast_pow]
        field_simp
        rfl
      rw [hvalue]
      exact zpow_lt_zpow_right₀ (by norm_num) (by omega)
    · next hne =>
      have hlt : (n : Rat) * 10 ^ k < d := by exact_mod_cast Nat.lt_of_le_of_ne hquotient hne
      rw [zpow_neg, zpow_natCast, div_lt_iff₀ hd', inv_mul_eq_div, lt_div_iff₀ hpower]
      exact hlt

theorem magnitude10_bounds {n d a : Nat} (ha : 0 < a) (hn : n < 10 ^ a) (hd : d < 10 ^ a) :
    -(a : Int) ≤ magnitude10 n d ∧ magnitude10 n d ≤ a := by
  have hcount : digitCount (n / d) ≤ a :=
    (digitCount_le_iff ha).mpr ((Nat.div_le_self n d).trans_lt hn)
  have hcount' : digitCount (d / n) ≤ a :=
    (digitCount_le_iff ha).mpr ((Nat.div_le_self d n).trans_lt hd)
  rw [magnitude10]
  dsimp only
  split
  · omega
  · split <;> omega

/-! ## Decimals in the interval -/

theorem nearer_eq_or (tie : Tie) (lower distanceDown distanceUp : Nat) :
    nearer tie lower distanceDown distanceUp = lower ∨
      nearer tie lower distanceDown distanceUp = lower + 1 := by
  rw [nearer]
  cases compare distanceDown distanceUp with
  | lt => exact .inl rfl
  | gt => exact .inr rfl
  | eq =>
    dsimp only
    split
    · exact .inl rfl
    · exact .inr rfl

namespace Interval

variable {i : Interval} {tie : Tie} {k : Int} {d : Decimal}

theorem reaches_bounds {up unit a : Nat} (h : i.reaches up unit a = true) :
    i.low * up ≤ a * unit ∧ a * unit ≤ i.high * up := by
  rw [reaches] at h
  split at h <;> simp only [Bool.and_eq_true, decide_eq_true_eq] at h <;> omega

/-- A decimal on a grid is one of the two neighbours, and rounds to the double. -/
theorem onGrid_eq_some (h : i.onGrid tie k = some d) :
    d.exponent = k ∧
      i.reaches (10 ^ (-k).toNat) (i.denominator * 10 ^ k.toNat) d.digits = true ∧
      d.digits ≤ i.value * 10 ^ (-k).toNat / (i.denominator * 10 ^ k.toNat) + 1 := by
  simp only [onGrid, Nat.pow_eq] at h
  generalize i.value * 10 ^ (-k).toNat / (i.denominator * 10 ^ k.toNat) = lower at h ⊢
  generalize lower * (i.denominator * 10 ^ k.toNat) = atLower at h
  split at h
  · next hlower hupper =>
    obtain rfl := Option.some.inj h
    obtain hnearer | hnearer := nearer_eq_or tie lower (i.value * 10 ^ (-k).toNat - atLower)
      ((lower + 1) * (i.denominator * 10 ^ k.toNat) - i.value * 10 ^ (-k).toNat)
    · rw [hnearer]
      exact ⟨rfl, hlower, Nat.le_succ lower⟩
    · rw [hnearer]
      exact ⟨rfl, hupper, Nat.le_refl _⟩
  · next hlower _ =>
    obtain rfl := Option.some.inj h
    exact ⟨rfl, hlower, Nat.le_succ lower⟩
  · next _ hupper =>
    obtain rfl := Option.some.inj h
    exact ⟨rfl, hupper, Nat.le_refl _⟩
  · cases h

/-- What a decimal on a grid comes to as a number. -/
theorem toRat_le_of_onGrid (hden : 0 < i.denominator) (h : i.onGrid tie k = some d) :
    d.toRat ≤ i.high / i.denominator := by
  obtain ⟨rfl, hreaches, -⟩ := onGrid_eq_some h
  have hle : (d.digits : Rat) * (i.denominator * 10 ^ d.exponent.toNat) ≤
      i.high * 10 ^ (-d.exponent).toNat := by
    exact_mod_cast (reaches_bounds hreaches).2
  have hden' : (0 : Rat) < i.denominator := by exact_mod_cast hden
  have hup : (0 : Rat) < 10 ^ (-d.exponent).toNat := by positivity
  rw [Decimal.toRat, ← pow_toNat_div_pow_toNat, ← mul_div_assoc, div_le_div_iff₀ hup hden']
  linarith

theorem digits_pos_of_onGrid (hlow : 0 < i.low) (h : i.onGrid tie k = some d) : 0 < d.digits := by
  obtain ⟨-, hreaches, -⟩ := onGrid_eq_some h
  have hle := (reaches_bounds hreaches).1
  have hpos : 0 < i.low * 10 ^ (-k).toNat := by positivity
  exact Nat.pos_of_ne_zero fun hzero => by
    rw [hzero, Nat.zero_mul] at hle
    omega

/-- On a grid that lies so many places below a power of ten above the double, a decimal has no more
digits than that. -/
theorem digits_le_of_onGrid (hden : 0 < i.denominator) {p : Int} {n : Nat}
    (hp : (i.value : Rat) / i.denominator < 10 ^ p) (hk : k = p - n)
    (h : i.onGrid tie k = some d) : d.digits ≤ 10 ^ n := by
  obtain ⟨-, -, hdigits⟩ := onGrid_eq_some h
  have hden' : (0 : Rat) < i.denominator := by exact_mod_cast hden
  have hup : (0 : Rat) < 10 ^ (-k).toNat := by positivity
  have hpower : (10 : Rat) ^ p = 10 ^ n * (10 ^ k.toNat / 10 ^ (-k).toNat) := by
    rw [pow_toNat_div_pow_toNat, ← zpow_natCast, ← zpow_add₀ (by norm_num), hk]
    congr 1
    omega
  rw [hpower, ← mul_div_assoc, div_lt_div_iff₀ hden' hup] at hp
  have hlt : i.value * 10 ^ (-k).toNat < 10 ^ n * (i.denominator * 10 ^ k.toNat) := by
    have hcast : (i.value : Rat) * 10 ^ (-k).toNat < 10 ^ n * (i.denominator * 10 ^ k.toNat) := by
      linarith
    exact_mod_cast hcast
  have hquotient := (Nat.div_lt_iff_lt_mul (by positivity)).mpr hlt
  omega

end Interval

/-! ## The interval of a double -/

theorem exponent_bounds {x : Float} (hx : isFinite x = true) :
    -1074 ≤ exponent x ∧ exponent x ≤ 971 := by
  rw [isFinite, decide_eq_true_eq, infiniteMagnitude] at hx
  rw [exponent]
  simp only [exponentBit] at hx ⊢
  omega

/-- What is asked of the interval of a double. -/
structure Interval.Sound (i : Interval) : Prop where
  denominator : 0 < i.denominator
  value : 0 < i.value
  low : 0 < i.low
  valueBelow : i.value < 10 ^ 1100
  denominatorBelow : i.denominator < 10 ^ 1100

theorem sound_of {x : Float} (hx : isFinite x = true) (hpos : significand x ≠ 0) :
    (Interval.of x).Sound := by
  obtain ⟨hlow, hhigh⟩ := exponent_bounds hx
  have hscale : 0 < 2 ^ (exponent x - 2).toNat := by positivity
  have hscaled : 2 ^ (exponent x - 2).toNat ≤ 2 ^ 969 := pow_le_pow_right₀ (by decide) (by omega)
  have hdenominator : 2 ^ (-(exponent x - 2)).toNat ≤ 2 ^ 1076 :=
    pow_le_pow_right₀ (by decide) (by omega)
  have hm := significand_lt x
  refine ⟨?_, ?_, ?_, ?_, ?_⟩
  · exact Nat.two_pow_pos _
  · exact Nat.mul_pos (by omega) hscale
  · refine Nat.mul_pos ?_ hscale
    split <;> omega
  · calc 4 * significand x * 2 ^ (exponent x - 2).toNat ≤ 4 * 2 ^ 53 * 2 ^ 969 :=
          Nat.mul_le_mul (by omega) hscaled
      _ < 10 ^ 1100 := by decide +kernel
  · exact hdenominator.trans_lt (by decide +kernel)

theorem high_div_denominator (x : Float) :
    ((Interval.of x).high : Rat) / (Interval.of x).denominator =
      (4 * significand x + 2 : Nat) * 2 ^ (exponent x - 2) := by
  rw [← pow_toNat_div_pow_toNat, ← mul_div_assoc]
  simp only [Interval.of, Nat.pow_eq]
  push_cast
  rfl

/-- The shortest decimal, unless it is zero, is in the interval and has at most 17 digits. -/
theorem shortest_cases {x : Float} (hx : isFinite x = true) (tie : Tie) :
    shortest tie x = ⟨0, 0⟩ ∨
      0 < (shortest tie x).digits ∧ (shortest tie x).digits ≤ 10 ^ 17 ∧
        -1200 ≤ (shortest tie x).exponent ∧ (shortest tie x).exponent ≤ 1200 ∧
        (shortest tie x).toRat ≤ (Interval.of x).high / (Interval.of x).denominator := by
  rw [shortest]
  split
  · exact .inl rfl
  next hpos =>
  dsimp only
  split
  · next d hd =>
    obtain ⟨hden, hvalue, hlow, hvalueBelow, hdenBelow⟩ := sound_of hx hpos
    obtain ⟨n, hn, hgrid⟩ := List.exists_of_findSome?_eq_some hd
    rw [List.mem_range] at hn
    have hbounds := magnitude10_bounds (by decide) hvalueBelow hdenBelow
    have hdigits := Interval.digits_le_of_onGrid hden (lt_pow_magnitude10 hvalue hden) rfl hgrid
    have hpower : 10 ^ (n + 1) ≤ 10 ^ 17 := pow_le_pow_right₀ (by decide) (by omega)
    have hexponent := (Interval.onGrid_eq_some hgrid).1
    have hd := Interval.digits_pos_of_onGrid hlow hgrid
    obtain ⟨hpos', hle, hleast, hmost⟩ := Decimal.strip_bounds 20 hd
    refine .inr ⟨hpos', hle.trans (hdigits.trans hpower), by omega, by omega, ?_⟩
    rw [Decimal.toRat_strip]
    exact Interval.toRat_le_of_onGrid hden hgrid
  · exact .inl rfl

/-! ## Reading it again -/

/-- A decimal that is read without trouble: 64 bits hold its digits, and it is not rounded to
infinity. -/
structure Decimal.Readable (d : Decimal) : Prop where
  digits : d.digits ≤ 10 ^ 17
  zero : d.digits = 0 → d.exponent = 0
  lowest : -1200 ≤ d.exponent
  highest : d.exponent ≤ 308
  finite : 0 ≤ d.exponent →
    isFinite (Float.ofNat d.digits * Float.ofScientific 1 false d.exponent.toNat) = true

theorem readable_zero : Decimal.Readable ⟨0, 0⟩ where
  digits := Nat.zero_le _
  zero _ := rfl
  lowest := by decide
  highest := by decide
  finite _ := by decide +kernel

/-- A decimal that is not too large is rounded to a finite double. -/
theorem Decimal.readable_of_le {d : Decimal} (hpos : 0 < d.digits) (hdigits : d.digits ≤ 10 ^ 17)
    (hlow : -1200 ≤ d.exponent) (h : d.toRat ≤ belowGreatest) : d.Readable := by
  have hnat : ∀ k : Nat, d.exponent = k → d.digits * 10 ^ k ≤ belowGreatest := by
    intro k hk
    rw [Decimal.toRat, hk, zpow_natCast] at h
    exact_mod_cast h
  have hhigh : d.exponent ≤ 308 := by
    by_contra! hlarge
    obtain ⟨k, hk⟩ := Int.eq_ofNat_of_zero_le (a := d.exponent) (by omega)
    have hpower : 10 ^ 309 ≤ 10 ^ k := pow_le_pow_right₀ (by decide) (by omega)
    have hbound : belowGreatest < 10 ^ 309 := by decide +kernel
    have hleast : 10 ^ k ≤ d.digits * 10 ^ k := Nat.le_mul_of_pos_left _ hpos
    exact absurd (hnat k hk) (Nat.not_le.mpr (hbound.trans_le (hpower.trans hleast)))
  refine ⟨hdigits, fun hzero => by omega, hlow, hhigh, fun hsign => ?_⟩
  obtain ⟨k, hk⟩ := Int.eq_ofNat_of_zero_le hsign
  rw [hk, Int.toNat_natCast]
  exact isFinite_mul_pow_ten hpos hdigits (by omega) (hnat k hk)

/-- The greatest double. -/
def greatest : Float := Float.ofBits 0x7FEFFFFFFFFFFFFF

theorem shortest_greatest (tie : Tie) : shortest tie greatest = ⟨17976931348623157, 292⟩ := by
  cases tie <;> decide +kernel

/-- The sign does not matter. -/
theorem shortest_congr {x y : Float} (h : magnitude x = magnitude y) (tie : Tie) :
    shortest tie x = shortest tie y := by
  have hsignificand : significand x = significand y := by rw [significand, significand, h]
  have hexponent : exponent x = exponent y := by rw [exponent, exponent, h]
  simp only [shortest, Interval.of, hsignificand, hexponent]

/-- The numbers that are rounded to a double other than the greatest are below half a unit under
that one. -/
theorem high_le_belowGreatest {x : Float} (h : magnitude x < magnitude greatest) :
    ((Interval.of x).high : Rat) / (Interval.of x).denominator ≤ belowGreatest := by
  have hgreatest : magnitude greatest = 0x7FEFFFFFFFFFFFFF := by decide
  rw [hgreatest] at h
  have hbound : (belowGreatest : Rat) = (2 ^ 55 - 6) * 2 ^ (969 : Int) := by
    rw [belowGreatest, Nat.cast_mul, Nat.cast_sub (by decide), Nat.cast_pow, Nat.cast_pow]
    rfl
  have hunit : (0 : Rat) < 2 ^ (exponent x - 2) := by positivity
  rw [high_div_denominator, hbound]
  have hm := significand_lt x
  rcases lt_or_ge (exponent x) 971 with hlow | htop
  -- One place lower the significand may be the greatest one.
  · have hplace : (2 : Rat) ^ (exponent x - 2) * 2 ≤ 2 ^ (969 : Int) := by
      rw [← zpow_add_one₀ two_ne_zero]
      exact zpow_le_zpow_right₀ one_le_two (by omega)
    have hsignificand : ((4 * significand x + 2 : Nat) : Rat) ≤ 2 ^ 55 := by
      exact_mod_cast (by omega : 4 * significand x + 2 ≤ 2 ^ 55)
    have hproduct : ((4 * significand x + 2 : Nat) : Rat) * 2 ^ (exponent x - 2) ≤
        2 ^ 55 * 2 ^ (exponent x - 2) := mul_le_mul_of_nonneg_right hsignificand hunit.le
    generalize (2 : Rat) ^ (exponent x - 2) = unit at hplace hproduct hunit ⊢
    generalize (2 : Rat) ^ (969 : Int) = place at hplace ⊢
    linarith
  · have hexponent : exponent x = 971 ∧ significand x ≤ 2 ^ 53 - 2 := by
      have hnormal : ¬magnitude x < exponentBit := by
        rw [exponent] at htop
        simp only [exponentBit] at htop ⊢
        omega
      rw [exponent] at htop ⊢
      rw [significand, if_neg hnormal]
      simp only [exponentBit] at htop ⊢
      omega
    have hsignificand : ((4 * significand x + 2 : Nat) : Rat) + 6 ≤ 2 ^ 55 := by
      exact_mod_cast (by omega : 4 * significand x + 2 + 6 ≤ 2 ^ 55)
    rw [hexponent.1]
    exact mul_le_mul_of_nonneg_right (by linarith) (by positivity)

/-- The shortest decimal of a finite double is read without trouble. -/
theorem readable_shortest {x : Float} (hx : isFinite x = true) (tie : Tie) :
    (shortest tie x).Readable := by
  rw [isFinite, decide_eq_true_eq] at hx
  have hgreatest : magnitude greatest = infiniteMagnitude - 1 := by decide
  rcases Nat.lt_or_ge (magnitude x) (magnitude greatest) with hlt | hge
  · rcases shortest_cases (by rw [isFinite, decide_eq_true_eq]; exact hx) tie with
      hzero | ⟨hpos, hdigits, hlow, -, hvalue⟩
    · rw [hzero]
      exact readable_zero
    · exact Decimal.readable_of_le hpos hdigits hlow (hvalue.trans (high_le_belowGreatest hlt))
  · rw [shortest_congr (show magnitude x = magnitude greatest by omega), shortest_greatest]
    exact ⟨by decide, by decide, by decide, by decide, fun _ => isFinite_greatest⟩

end RecordAudit.Number
