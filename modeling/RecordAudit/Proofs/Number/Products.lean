import RecordAudit.Proofs.Number.Nearest

/-!
# Products of doubles that stay finite

A decimal is read by one multiplication of two doubles, its digits and a power
of ten, both of which may have been rounded already.

* `exists_packed_mul` is a product below the end of the range of doubles.
* `nearestNat_le` says that rounding does not pass a number that is a double.
* `isFinite_mul_pow_ten` says which decimals stay finite.  It needs more than
  the rational number to be in the range, as three roundings come together: one
  of the decimals that are nearest to the greatest double would be infinite.
-/

namespace RecordAudit.Double

open Float.Model Float.Model.UnpackedFloat
open Number (roundHalfEven)

/-! ## Rounding below a bound -/

/-- What is more than a half below a number is rounded to less than it. -/
theorem roundHalfEven_lt {n d q : Nat} (h : 2 * n + d < 2 * (q * d)) : roundHalfEven n d < q := by
  have hd : 0 < d := Nat.pos_of_ne_zero fun hd => by
    rw [hd] at h
    omega
  have hsplit : d * (n / d) + n % d = n := Nat.div_add_mod n d
  have hbelow (j : Nat) (hj : 2 * (j * d) < 2 * (q * d)) : j < q :=
    Nat.lt_of_mul_lt_mul_right (Nat.lt_of_mul_lt_mul_left hj)
  have hnext : (n / d + 1) * d = d * (n / d) + d := by ring
  unfold roundHalfEven
  rcases Nat.lt_trichotomy (2 * (n % d)) d with hlt | heq | hgt
  · rw [Nat.compare_eq_lt.mpr hlt]
    exact (Nat.div_lt_iff_lt_mul hd).mpr (by omega)
  · rw [Nat.compare_eq_eq.mpr heq]
    have hlast := hbelow (n / d + 1) (by omega)
    dsimp only
    omega
  · rw [Nat.compare_eq_gt.mpr hgt]
    exact hbelow (n / d + 1) (by omega)

/-- What is at most a number is rounded to at most it. -/
theorem roundHalfEven_le {n d q : Nat} (hd : 0 < d) (h : n ≤ q * d) : roundHalfEven n d ≤ q := by
  rcases Nat.lt_or_eq_of_le h with hlt | rfl
  · have hdiv : n / d < q := (Nat.div_lt_iff_lt_mul hd).mpr hlt
    have hbounds := roundHalfEven_bounds n d
    omega
  · rw [roundHalfEven_mul_self q hd]

/-- Rounding does not pass a number that is a double. -/
theorem nearestNat_le {n m : Nat} (h : n ≤ m) (hm : spacing m ∣ m) : nearestNat n ≤ m := by
  have hlog : n.log2 ≤ m.log2 := by
    rcases Nat.eq_zero_or_pos n with rfl | hn
    · exact Nat.zero_le _
    · exact (Nat.le_log2 (by omega)).mpr ((Nat.log2_self_le hn.ne').trans h)
  have hdvd : spacing n ∣ m := (Nat.pow_dvd_pow 2 (by omega)).trans hm
  have hpos : 0 < spacing n := Nat.two_pow_pos _
  rw [nearestNat]
  generalize spacing n = d at hdvd hpos
  obtain ⟨q, rfl⟩ := hdvd
  rw [Nat.mul_comm d q] at h ⊢
  exact Nat.mul_le_mul_right d (roundHalfEven_le hpos h)

theorem nearestNat_pos {n : Nat} (hn : 0 < n) : 0 < nearestNat n := by
  have hle : spacing n ≤ n :=
    (Nat.pow_le_pow_right (by decide) (Nat.sub_le _ _)).trans (Nat.log2_self_le hn.ne')
  have hquotient : 0 < n / spacing n := Nat.div_pos hle (Nat.two_pow_pos _)
  exact Nat.mul_pos (hquotient.trans_le (roundHalfEven_bounds n _).1) (Nat.two_pow_pos _)

/-! ## Products -/

/-- Half a unit of the last place above the greatest double.  From there on numbers are rounded to
infinity. -/
def rangeEnd : Nat := (2 ^ 54 - 1) * 2 ^ 970

theorem cast_rangeEnd : (rangeEnd : Rat) = (2 ^ 54 - 1) * 2 ^ (970 : Int) := by
  rw [rangeEnd, Nat.cast_mul, Nat.cast_sub (by decide), Nat.cast_pow, Nat.cast_pow]
  rfl

/-- Below the end of the range there is room for a significand once it is rounded. -/
theorem fits_of_lt {n : Nat} {e : Int} (hn : n ≠ 0) (h : (n : Rat) * 2 ^ e < rangeEnd)
    (hlog : 52 ≤ n.log2) :
    e + (n.log2 - 52 : Nat) ≤ 971 ∧
      (e + (n.log2 - 52 : Nat) = 971 → roundHalfEven n (2 ^ (n.log2 - 52)) < 2 ^ 53) := by
  obtain ⟨k, hk⟩ := Nat.exists_eq_add_of_le hlog
  have hleast : (2 : Rat) ^ (52 + k) ≤ n := by exact_mod_cast hk ▸ Nat.log2_self_le hn
  have hunit : (0 : Rat) < 2 ^ (970 : Int) := by positivity
  rw [cast_rangeEnd] at h
  rw [hk, Nat.add_sub_cancel_left]
  constructor
  · by_contra! hlarge
    have hend : (2 : Rat) ^ 54 * 2 ^ (970 : Int) ≤ 2 ^ (52 + k) * 2 ^ e := by
      rw [← zpow_natCast, ← zpow_natCast, ← zpow_add₀ two_ne_zero, ← zpow_add₀ two_ne_zero]
      exact zpow_le_zpow_right₀ one_le_two (by omega)
    have hproduct : (2 : Rat) ^ (52 + k) * 2 ^ e ≤ n * 2 ^ e :=
      mul_le_mul_of_nonneg_right hleast (by positivity)
    generalize (2 : Rat) ^ (970 : Int) = unit at h hunit hend
    linarith
  · intro htop
    have hplace : (2 : Rat) ^ e * 2 ^ k = 2 * 2 ^ (970 : Int) := by
      rw [← zpow_natCast, ← zpow_add₀ two_ne_zero, htop, ← zpow_one_add₀ two_ne_zero]
      rfl
    have hscaled : 2 * (n : Rat) * 2 ^ (970 : Int) < (2 ^ 54 - 1) * 2 ^ k * 2 ^ (970 : Int) :=
      calc 2 * (n : Rat) * 2 ^ (970 : Int) = n * 2 ^ e * 2 ^ k := by
            rw [mul_assoc _ (2 ^ e), hplace]
            ring
        _ < (2 ^ 54 - 1) * 2 ^ (970 : Int) * 2 ^ k := mul_lt_mul_of_pos_right h (by positivity)
        _ = (2 ^ 54 - 1) * 2 ^ k * 2 ^ (970 : Int) := by ring
    have hhalf : 2 * (n : Rat) + 2 ^ k < 2 * (2 ^ 53 * 2 ^ k) := by
      have hunscaled := lt_of_mul_lt_mul_right hscaled hunit.le
      linarith
    exact roundHalfEven_lt (by exact_mod_cast hhalf)

/-- A product below the end of the range is finite. -/
theorem exists_packed_mul {m m' : Nat} {e e' : Int} (h : Normal m e) (h' : Normal m' e')
    (hlow : -1126 ≤ e + e') (hhigh : (m : Rat) * 2 ^ e * (m' * 2 ^ e') < rangeEnd) :
    ∃ m'' e'', ∃ h'' : Normal m'' e'',
      packed .positive h * packed .positive h' = packed .positive h'' := by
  have hpos : m * m' ≠ 0 := Nat.mul_ne_zero h.pos.ne' h'.pos.ne'
  have hlog : 104 ≤ (m * m').log2 := by
    rw [Nat.le_log2 hpos, show 104 = 52 + 52 from rfl, Nat.pow_add]
    exact Nat.mul_le_mul h.least h'.least
  have hproduct : ((m * m' : Nat) : Rat) * 2 ^ (e + e') < rangeEnd := by
    rw [zpow_add₀ two_ne_zero, Nat.cast_mul, mul_mul_mul_comm]
    exact hhigh
  obtain ⟨hfits, hcarry⟩ := fits_of_lt hpos hproduct (by omega)
  obtain ⟨m'', e'', h'', hrounded, -, -⟩ :=
    exists_rounded_of_fits .positive (by omega) (by omega) hfits hcarry
  refine ⟨m'', e'', h'', ?_⟩
  show Float.ofModel (Float.Model.pack (UnpackedFloat.mul Format.binary64
    (packed .positive h).toModel.unpack (packed .positive h').toModel.unpack)) = _
  rw [unpack_packed, unpack_packed]
  show Float.ofModel (Float.Model.pack
    (roundWithAccuracy Format.binary64 .positive (m * m') (e + e') .exact)) = _
  rw [hrounded]
  rfl

/-! ## Powers of ten -/

/-- A positive double that is not subnormal is packed from its significand and its exponent. -/
theorem eq_packed {x : Float} (hsign : isNegative x = false) (hnormal : exponentBit ≤ magnitude x)
    (hfinite : isFinite x = true) :
    ∃ h : Normal (significand x) (exponent x), x = packed .positive h := by
  have hmagnitude : x.toBits.toNat = magnitude x := by
    rw [isNegative, decide_eq_false_iff_not, Nat.not_le] at hsign
    exact (Nat.mod_eq_of_lt hsign).symm
  have hsignificand : significand x = magnitude x % exponentBit + exponentBit :=
    if_neg (Nat.not_lt.mpr hnormal)
  have hexponent : exponent x = (magnitude x / exponentBit : Nat) - 1075 := by
    have hone : 1 ≤ magnitude x / exponentBit := (Nat.one_le_div_iff (by decide)).mpr hnormal
    rw [exponent, Nat.max_eq_left hone]
  rw [isFinite, decide_eq_true_eq, infiniteMagnitude] at hfinite
  simp only [exponentBit] at hsignificand hexponent hnormal hfinite
  have hpacked : Normal (significand x) (exponent x) :=
    ⟨by omega, by omega, by omega, by omega⟩
  refine ⟨hpacked, Float.toBits_inj.mp (UInt64.toNat_inj.mp ?_)⟩
  rw [toNat_toBits_packed, hmagnitude]
  simp only [Sign.toBitVec, BitVec.toNat_ofNat]
  omega

/-- The powers of ten that are doubles. -/
theorem pow_ten_exact : ∀ k < 23,
    isNegative (Float.ofScientific 1 false k) = false ∧
      exponentBit ≤ magnitude (Float.ofScientific 1 false k) ∧
      isFinite (Float.ofScientific 1 false k) = true ∧
      toRat (Float.ofScientific 1 false k) = nearestNat (10 ^ k) := by
  decide +kernel

theorem shifted_pow_ten_lt {k : Nat} (hk : k ≤ 308) :
    ((10 ^ k <<< 53 : Nat) : Rat) * 2 ^ (-53 : Int) < rangeEnd := by
  have hscaled : ((10 ^ k <<< 53 : Nat) : Rat) * 2 ^ (-53 : Int) = (10 ^ k : Nat) := by
    rw [Nat.shiftLeft_eq, zpow_neg, Nat.cast_mul, Nat.cast_pow 2]
    exact mul_inv_cancel_right₀ (by positivity) _
  have hpower : 10 ^ k ≤ 10 ^ 308 := pow_le_pow_right₀ (by decide) hk
  have hend : 10 ^ 308 < rangeEnd := by decide +kernel
  rw [hscaled]
  exact Nat.cast_lt.mpr (hpower.trans_lt hend)

/-- A greater power is shifted to get a whole significand, and rounded once. -/
theorem exists_packed_pow_ten_of_le {k : Nat} (hlarge : 23 ≤ k) (hk : k ≤ 308) :
    ∃ m e, ∃ h : Normal m e,
      Float.ofScientific 1 false k = packed .positive h ∧
        (m : Rat) * 2 ^ e = nearestNat (10 ^ k) := by
  have hzero : 10 ^ k ≠ 0 := by positivity
  have hproduct : 1 <<< 53 * 10 ^ k = 10 ^ k <<< 53 := by
    rw [Nat.shiftLeft_eq, Nat.shiftLeft_eq, Nat.one_mul, Nat.mul_comm]
  have hshift : (10 ^ k <<< 53).log2 = (10 ^ k).log2 + 53 := log2_shiftLeft hzero 53
  have hlog : 53 ≤ (10 ^ k).log2 := by
    rw [Nat.le_log2 hzero]
    exact (by decide : 2 ^ 53 ≤ 10 ^ 23).trans (Nat.pow_le_pow_right (by decide) hlarge)
  obtain ⟨hfits, hcarry⟩ := fits_of_lt (by omega) (shifted_pow_ten_lt hk) (by omega)
  obtain ⟨m, e, h, hrounded, -, hvalue⟩ := exists_rounded_of_fits .positive (by omega) (by omega)
    hfits hcarry
  refine ⟨m, e, h, ?_, ?_⟩
  · rw [Float.ofScientific, dif_neg (by omega)]
    show Float.ofModel (Float.Model.pack (UnpackedFloat.ofScientific Format.binary64 1 k)) = _
    rw [ofScientific_eq one_ne_zero (by omega), hproduct, add_zero, hrounded]
    rfl
  · have hplaces : (10 ^ k).log2 + 53 - 52 = (10 ^ k).log2 - 52 + 53 := by omega
    have hexponent :
        -53 + (((10 ^ k).log2 - 52 + 53 : Nat) : Int) = ((10 ^ k).log2 - 52 : Nat) := by
      omega
    rw [hvalue, hshift, hplaces, roundHalfEven_shiftLeft, hexponent, zpow_natCast, nearestNat,
      spacing]
    push_cast
    rfl

/-- A power of ten is the double nearest to it. -/
theorem exists_packed_pow_ten {k : Nat} (hk : k ≤ 308) :
    ∃ m e, ∃ h : Normal m e,
      Float.ofScientific 1 false k = packed .positive h ∧
        (m : Rat) * 2 ^ e = nearestNat (10 ^ k) := by
  rcases Nat.lt_or_ge k 23 with hsmall | hlarge
  · obtain ⟨hsign, hnormal, hfinite, hvalue⟩ := pow_ten_exact k hsmall
    obtain ⟨h, hpacked⟩ := eq_packed hsign hnormal hfinite
    refine ⟨_, _, h, hpacked, ?_⟩
    rw [hpacked, toRat_packed] at hvalue
    exact_mod_cast hvalue
  · exact exists_packed_pow_ten_of_le hlarge hk

/-! ## Decimals -/

/-- Half a unit of the last place below the greatest double. -/
def belowGreatest : Nat := (2 ^ 55 - 6) * 2 ^ 969

/-- The most digits, up to 17 places, that a decimal at a power of ten has below that bound. -/
def mostDigits (k : Nat) : Nat := min (belowGreatest / 10 ^ k) (10 ^ 17)

/-- The most digits are a double. -/
theorem spacing_mostDigits : ∀ k < 309, spacing (mostDigits k) ∣ mostDigits k := by
  decide +kernel

/-- Their product with the power of ten, which may have been rounded up, is still below the end of
the range. -/
theorem mostDigits_fits {k : Nat} (hk : k ≤ 308) :
    mostDigits k * nearestNat (10 ^ k) < rangeEnd := by
  rcases Nat.lt_or_ge k 291 with hsmall | hlarge
  · have hpower : 10 ^ k ≤ 2 ^ 967 :=
      (pow_le_pow_right₀ (by decide) (Nat.le_of_lt_succ hsmall)).trans
        (by decide +kernel : 10 ^ 290 ≤ 2 ^ 967)
    have hnearest : nearestNat (10 ^ k) ≤ 2 ^ 967 := nearestNat_le hpower (by decide +kernel)
    calc mostDigits k * nearestNat (10 ^ k) ≤ 10 ^ 17 * 2 ^ 967 :=
          Nat.mul_le_mul (Nat.min_le_right _ _) hnearest
      _ < rangeEnd := by decide +kernel
  · have hlast : ∀ j < 18, mostDigits (291 + j) * nearestNat (10 ^ (291 + j)) < rangeEnd := by
      decide +kernel
    obtain ⟨j, rfl⟩ := Nat.exists_eq_add_of_le hlarge
    exact hlast j (by omega)

/-- A number that is at least one has an exponent that is not far below zero. -/
theorem Normal.exponent_of_one_le {m : Nat} {e : Int} (h : Normal m e)
    (hone : 1 ≤ (m : Rat) * 2 ^ e) : -52 ≤ e := by
  by_contra! hlow
  have hpower : (2 : Rat) ^ e ≤ 2 ^ (-53 : Int) := zpow_le_zpow_right₀ one_le_two (by omega)
  have hbelow : (m : Rat) < 2 ^ 53 := by exact_mod_cast h.below
  have hproduct : (m : Rat) * 2 ^ e < 2 ^ 53 * 2 ^ (-53 : Int) :=
    mul_lt_mul hbelow hpower (by positivity) (by positivity)
  norm_num at hproduct
  linarith

/-- A decimal of at most 17 places is read as a finite double, if it lies half a unit of the last
place below the greatest double. -/
theorem isFinite_mul_pow_ten {n k : Nat} (hn : 0 < n) (hdigits : n ≤ 10 ^ 17) (hk : k ≤ 308)
    (h : n * 10 ^ k ≤ belowGreatest) :
    isFinite (Float.ofNat n * Float.ofScientific 1 false k) = true := by
  have hle : n ≤ mostDigits k :=
    Nat.le_min.mpr ⟨(Nat.le_div_iff_mul_le (by positivity)).mpr h, hdigits⟩
  obtain ⟨m, e, hm, hpacked, hvalue⟩ := exists_packed_ofScientific hn.ne'
    (hdigits.trans_lt (by decide))
  obtain ⟨m', e', hm', hpacked', hvalue'⟩ := exists_packed_pow_ten hk
  have hone : (1 : Rat) ≤ nearestNat n := by exact_mod_cast nearestNat_pos hn
  have hone' : (1 : Rat) ≤ nearestNat (10 ^ k) := by exact_mod_cast nearestNat_pos (by positivity)
  have he := hm.exponent_of_one_le (hvalue ▸ hone)
  have he' := hm'.exponent_of_one_le (hvalue' ▸ hone')
  have hhigh : (m : Rat) * 2 ^ e * (m' * 2 ^ e') < rangeEnd := by
    have hproduct : nearestNat n * nearestNat (10 ^ k) < rangeEnd :=
      (Nat.mul_le_mul_right _ (nearestNat_le hle (spacing_mostDigits k (by omega)))).trans_lt
        (mostDigits_fits hk)
    rw [hvalue, hvalue']
    exact_mod_cast hproduct
  obtain ⟨m'', e'', hm'', hpacked''⟩ := exists_packed_mul hm hm' (by omega) hhigh
  have hof : Float.ofNat n = packed .positive hm := hpacked
  rw [hof, hpacked', hpacked'']
  exact isFinite_packed .positive hm''

/-- The decimal of the greatest double is read as a finite double. -/
theorem isFinite_greatest :
    isFinite (Float.ofNat 17976931348623157 * Float.ofScientific 1 false 292) = true := by
  decide +kernel

end RecordAudit.Double
