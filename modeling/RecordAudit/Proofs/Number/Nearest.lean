import RecordAudit.Proofs.Number.Extended
import RecordAudit.Proofs.Number.Packing

/-!
# The double nearest to an integer

Around a natural number doubles are `spacing` apart, and the nearest of them
is the multiple of that which `roundHalfEven` chooses.
-/

namespace RecordAudit.Double

open Float.Model Float.Model.UnpackedFloat
open Number (roundHalfEven)

/-- How far apart doubles are, above one, at a natural number. -/
def spacing (n : Nat) : Nat := 2 ^ (n.log2 - 52)

/-- The double nearest to a natural number; a half goes to the even significand. -/
def nearestNat (n : Nat) : Nat := roundHalfEven n (spacing n) * spacing n

/-- The double nearest to an integer; a half goes to the even significand. -/
def nearestInt (n : Int) : Int := if n < 0 then -nearestNat n.natAbs else nearestNat n.natAbs

theorem log2_shiftLeft {n : Nat} (hn : n ≠ 0) (k : Nat) : (n <<< k).log2 = n.log2 + k := by
  induction k with
  | zero => rfl
  | succ k ih =>
    have hshifted : n <<< k ≠ 0 := by
      rw [Nat.shiftLeft_eq]
      exact Nat.mul_ne_zero hn (Nat.two_pow_pos k).ne'
    rw [Nat.shiftLeft_succ, Nat.log2_two_mul hshifted, ih]
    rfl

theorem roundHalfEven_mul_mul (n d : Nat) {k : Nat} (hk : 0 < k) :
    roundHalfEven (n * k) (d * k) = roundHalfEven n d := by
  have hcompare : compare (2 * (n % d) * k) (d * k) = compare (2 * (n % d)) d :=
    compare_eq_compare_of_lt_iff (Nat.mul_lt_mul_right hk) (Nat.mul_lt_mul_right hk)
  unfold roundHalfEven
  rw [Nat.mul_div_mul_right n d hk, Nat.mul_mod_mul_right, ← Nat.mul_assoc, hcompare]

theorem roundHalfEven_shiftLeft (n j k : Nat) :
    roundHalfEven (n <<< k) (2 ^ (j + k)) = roundHalfEven n (2 ^ j) := by
  rw [Nat.shiftLeft_eq, pow_add, roundHalfEven_mul_mul n _ (Nat.two_pow_pos k)]

theorem roundHalfEven_one (n : Nat) : roundHalfEven n 1 = n := by
  simp [roundHalfEven, Nat.mod_one, Nat.compare_eq_lt.mpr]

theorem roundHalfEven_mul_self (n : Nat) {d : Nat} (hd : 0 < d) : roundHalfEven (n * d) d = n := by
  have hscaled := roundHalfEven_mul_mul n 1 hd
  rwa [Nat.one_mul, roundHalfEven_one] at hscaled

theorem nearestNat_of_lt {n : Nat} (hn : n < 2 ^ 53) : nearestNat n = n := by
  have hspacing : spacing n = 1 := by
    have hlog : n.log2 - 52 = 0 := by
      rcases Nat.eq_zero_or_pos n with rfl | hpos
      · rfl
      · have := (Nat.log2_lt hpos.ne').mpr hn
        omega
    rw [spacing, hlog, pow_zero]
  rw [nearestNat, hspacing, roundHalfEven_one, Nat.mul_one]

/-! ## Naturals as doubles -/

/-- A natural number of at most 53 bits, as a word is made a double. -/
theorem exists_packed_toFloat {n : Nat} (hzero : n ≠ 0) (hn : n < 2 ^ 53) :
    ∃ m e, ∃ h : Normal m e,
      n.toUInt64.toFloat = packed .positive h ∧ (m : Rat) * 2 ^ e = n ∧ e ≤ 1 := by
  have hlog : n.log2 < 53 := (Nat.log2_lt hzero).mpr hn
  have hword : n.toUInt64.toNat = n := Nat.mod_eq_of_lt (hn.trans (by decide))
  have hshift : (n <<< (52 - n.log2)).log2 - 52 = 0 := by
    rw [log2_shiftLeft hzero]
    omega
  have htarget : 0 - Format.binary64.targetExponent (totalExponent n 0) = (52 - n.log2 : Nat) := by
    simp only [Format.targetExponent, totalExponent, Format.mantissaBits, Format.minExponent]
    omega
  obtain ⟨m, e, h, hrounded, hlow, hvalue⟩ := exists_rounded .positive (m := n <<< (52 - n.log2))
    (e := 0 - (52 - n.log2 : Nat)) (by rw [log2_shiftLeft hzero]; omega) (by omega) (by omega)
  refine ⟨m, e, h, ?_, ?_, by omega⟩
  · show Float.ofModel (Float.Model.pack (UnpackedFloat.ofUInt64 Format.binary64 _)) = _
    rw [UnpackedFloat.ofUInt64, UnpackedFloat.ofNat, UnpackedFloat.ofInt, UnpackedFloat.normalize,
      hword, Int.compare_eq_gt.mpr (by omega)]
    simp only [UnpackedFloat.round, decreaseExponent, Int.toNat_natCast, htarget, hrounded]
    rfl
  · rw [hvalue, hshift, pow_zero, roundHalfEven_one, Nat.shiftLeft_eq, Nat.cast_zero, add_zero,
      zero_sub, zpow_neg, zpow_natCast]
    push_cast
    field_simp

/-- One as a double. -/
theorem normal_one : Normal (2 ^ 52) (-52) := ⟨by decide, by decide, by decide, by decide⟩

theorem exactlyRepresentablePowersOfTen_zero :
    Float.exactlyRepresentablePowersOfTen[0] = packed .positive normal_one := by
  decide

/-- Multiplying by one changes nothing of the number. -/
theorem exists_packed_mul_one {m : Nat} {e : Int} (h : Normal m e) (he : e ≤ 970) :
    ∃ m' e', ∃ h' : Normal m' e',
      packed .positive h * packed .positive normal_one = packed .positive h' ∧
        (m' : Rat) * 2 ^ e' = m * 2 ^ e := by
  have hlog : (m * 2 ^ 52).log2 = 104 := by
    rw [← Nat.shiftLeft_eq, log2_shiftLeft h.pos.ne', h.log2]
  obtain ⟨m', e', h', hrounded, -, hvalue⟩ := exists_rounded .positive (m := m * 2 ^ 52)
    (e := e + -52) (by omega) (by have := h.lowest; omega) (by omega)
  refine ⟨m', e', h', ?_, ?_⟩
  · show Float.ofModel (Float.Model.pack (UnpackedFloat.mul Format.binary64
      (packed .positive h).toModel.unpack (packed .positive normal_one).toModel.unpack)) = _
    rw [unpack_packed, unpack_packed]
    show Float.ofModel (Float.Model.pack
      (roundWithAccuracy Format.binary64 .positive (m * 2 ^ 52) (e + -52) .exact)) = _
    rw [hrounded]
    rfl
  · rw [hvalue, hlog, roundHalfEven_mul_self m (Nat.two_pow_pos _)]
    congr 2
    omega

/-- Beyond the powers of ten that are doubles, a decimal is rounded as a product. -/
theorem ofScientific_eq {n : Nat} (hzero : n ≠ 0) {k : Nat} (hk : k ≤ 2048) :
    UnpackedFloat.ofScientific Format.binary64 n k =
      roundWithAccuracy Format.binary64 .positive (n <<< 53 * 10 ^ k) (-53 + 0) .exact := by
  have hbits : (2 : Int) ^ Format.binary64.exponentBits = 2048 := rfl
  have hsign : Sign.positive * Sign.positive = Sign.positive := rfl
  have hbits' : Format.binary64.mantissaBits = 53 := rfl
  rw [UnpackedFloat.ofScientific, dif_neg hzero, hbits, if_neg (by omega), if_neg (by omega),
    if_pos (Int.natCast_nonneg k)]
  simp only [UnpackedFloat.mul, hsign, hbits', Int.toNat_natCast]
  rfl

/-- A natural number as a double, by its digits. -/
theorem exists_packed_ofScientific {n : Nat} (hzero : n ≠ 0) (hn : n < 2 ^ 64) :
    ∃ m e, ∃ h : Normal m e,
      Float.ofScientific n false 0 = packed .positive h ∧ (m : Rat) * 2 ^ e = nearestNat n := by
  rcases Nat.lt_or_ge n (2 ^ 53) with hsmall | hlarge
  · obtain ⟨m, e, h, hword, hvalue, he⟩ := exists_packed_toFloat hzero hsmall
    obtain ⟨m', e', h', hproduct, hvalue'⟩ := exists_packed_mul_one h (by omega)
    refine ⟨m', e', h', ?_, ?_⟩
    · rw [Float.ofScientific, dif_pos ⟨hsmall, by decide⟩, if_neg Bool.false_ne_true,
        exactlyRepresentablePowersOfTen_zero, hword, hproduct]
    · rw [hvalue', hvalue, nearestNat_of_lt hsmall]
  · have hlog : n.log2 < 64 := (Nat.log2_lt hzero).mpr hn
    have hlog' : 53 ≤ n.log2 := (Nat.le_log2 hzero).mpr hlarge
    have hshift : (n <<< 53 * 10 ^ 0).log2 = n.log2 + 53 := by
      rw [pow_zero, Nat.mul_one, log2_shiftLeft hzero]
    obtain ⟨m, e, h, hrounded, -, hvalue⟩ := exists_rounded .positive (m := n <<< 53 * 10 ^ 0)
      (e := -53 + 0) (by omega) (by omega) (by omega)
    refine ⟨m, e, h, ?_, ?_⟩
    · rw [Float.ofScientific, dif_neg (by omega)]
      show Float.ofModel (Float.Model.pack
        (UnpackedFloat.ofScientific Format.binary64 n (0 : Nat))) = _
      rw [ofScientific_eq hzero (by omega), hrounded]
      rfl
    · have hplaces : n.log2 + 53 - 52 = n.log2 - 52 + 53 := by omega
      have hexponent : -53 + 0 + ((n.log2 - 52 + 53 : Nat) : Int) = (n.log2 - 52 : Nat) := by omega
      rw [hvalue, hshift, pow_zero, Nat.mul_one, hplaces, roundHalfEven_shiftLeft, hexponent,
        zpow_natCast, nearestNat, spacing]
      push_cast
      rfl

/-! ## Integers as doubles -/

/-- A double stands for an integer. -/
structure StandsFor (x : Float) (n : Int) : Prop where
  isFinite : isFinite x = true
  toRat : toRat x = n

namespace StandsFor

variable {x : Float} {n : Int}

theorem isNaN (h : StandsFor x n) : isNaN x = false := isNaN_eq_false_of_isFinite h.isFinite

theorem extended (h : StandsFor x n) : extended x = .ofInt n := by
  have hfinite : ¬isInfinite x = true := by
    have := h.isFinite
    simp only [Double.isFinite, isInfinite, decide_eq_true_eq, beq_iff_eq] at this ⊢
    omega
  rw [Double.extended, if_neg hfinite, h.toRat, Extended.ofInt]

/-- A double stands for an integer that it is among the extended numbers. -/
theorem of_extended_eq (hx : Double.isNaN x = false) (h : Double.extended x = .ofInt n) :
    StandsFor x n := by
  rcases extended_cases hx with ⟨-, hbot⟩ | ⟨hlow, hhigh, hrat⟩ | ⟨-, htop⟩
  · rw [hbot] at h
    exact absurd h (Extended.bot_lt_ofRat n).ne
  · refine ⟨?_, Extended.ofRat_inj.mp (hrat.symm.trans h)⟩
    have hkey : key x = magnitude x ∨ key x = -magnitude x := by
      rw [key]
      split <;> simp
    rw [Double.isFinite, decide_eq_true_eq]
    omega
  · rw [htop] at h
    exact absurd h (Extended.ofRat_lt_top n).ne'

end StandsFor

theorem standsFor_packed (s : Sign) {m : Nat} {e : Int} (h : Normal m e) {n : Nat}
    (hn : (m : Rat) * 2 ^ e = n) : StandsFor (packed s h) (s.apply n) where
  isFinite := isFinite_packed s h
  toRat := by
    rw [toRat_packed]
    cases s <;> simp [Sign.apply, hn]

/-- A natural number is made the double nearest to it, and so is its opposite. -/
theorem standsFor_ofScientific {n : Nat} (hn : n < 2 ^ 64) :
    StandsFor (Float.ofScientific n false 0) (nearestNat n) ∧
      StandsFor (-Float.ofScientific n false 0) (-nearestNat n) := by
  rcases Nat.eq_zero_or_pos n with rfl | hpos
  · exact ⟨⟨by decide, by decide +kernel⟩, ⟨by decide, by decide +kernel⟩⟩
  · obtain ⟨m, e, h, hpacked, hvalue⟩ := exists_packed_ofScientific hpos.ne' hn
    rw [hpacked, neg_packed]
    exact ⟨standsFor_packed .positive h hvalue, standsFor_packed .negative h hvalue⟩

theorem nearestInt_natCast (n : Nat) : nearestInt n = nearestNat n := by
  rw [nearestInt, if_neg (by omega), Int.natAbs_natCast]

theorem nearestInt_neg_natCast (n : Nat) : nearestInt (-n) = -nearestNat n := by
  rw [nearestInt, Int.natAbs_neg, Int.natAbs_natCast]
  split
  · rfl
  · have hzero : n = 0 := by omega
    rw [hzero]
    rfl

/-- An integer is made the double nearest to it. -/
theorem standsFor_ofInt {n : Int} (hn : n.natAbs < 2 ^ 64) :
    StandsFor (Float.ofInt n) (nearestInt n) := by
  cases n with
  | ofNat n =>
    rw [Int.ofNat_eq_natCast, nearestInt_natCast]
    exact (standsFor_ofScientific hn).1
  | negSucc n =>
    rw [Int.negSucc_eq, ← Int.natCast_succ, nearestInt_neg_natCast]
    exact (standsFor_ofScientific hn).2

/-! ## Integers that are doubles -/

theorem nearestInt_eq_self_of_dvd {n : Int} (h : spacing n.natAbs ∣ n.natAbs) :
    nearestInt n = n := by
  have hself : nearestNat n.natAbs = n.natAbs := by
    have hpos : 0 < spacing n.natAbs := Nat.two_pow_pos _
    rw [nearestNat]
    generalize spacing n.natAbs = d at h hpos
    obtain ⟨q, hq⟩ := h
    rw [hq, Nat.mul_comm d q, roundHalfEven_mul_self q hpos]
  rw [nearestInt, hself]
  split <;> omega

/-- A significand of 53 bits at any place is a multiple of the spacing there. -/
theorem spacing_dvd {m : Nat} (hm : m < 2 ^ 53) (k : Nat) : spacing (m * 2 ^ k) ∣ m * 2 ^ k := by
  rcases Nat.eq_zero_or_pos m with rfl | hpos
  · simp
  have hlt : m * 2 ^ k < 2 ^ (53 + k) := by
    rw [pow_add]
    exact Nat.mul_lt_mul_of_pos_right hm (Nat.two_pow_pos k)
  have hlog : (m * 2 ^ k).log2 < 53 + k :=
    (Nat.log2_lt (Nat.mul_pos hpos (Nat.two_pow_pos k)).ne').mpr hlt
  rw [spacing]
  exact (Nat.pow_dvd_pow 2 (by omega)).trans (Nat.dvd_mul_left _ m)

theorem nearestInt_of_natAbs_le {n : Int} (hn : n.natAbs ≤ 2 ^ 53) : nearestInt n = n := by
  apply nearestInt_eq_self_of_dvd
  rcases Nat.lt_or_eq_of_le hn with hlt | heq
  · have hdvd := spacing_dvd hlt 0
    rwa [pow_zero, Nat.mul_one] at hdvd
  · rw [heq]
    decide

/-- An integer of at most 53 bits, and two to the 53 besides, is a double. -/
theorem exists_standsFor_of_natAbs_le {n : Int} (hn : n.natAbs ≤ 2 ^ 53) : ∃ x, StandsFor x n := by
  have hnearest := standsFor_ofInt (hn.trans_lt (by decide))
  rw [nearestInt_of_natAbs_le hn] at hnearest
  exact ⟨_, hnearest⟩

theorem significand_lt (x : Float) : significand x < 2 ^ 53 := by
  rw [significand, exponentBit]
  split <;> omega

theorem natAbs_signed (x : Float) : (signed x).natAbs = significand x := by
  rw [signed]
  split <;> omega

/-- An integer that a double stands for is the nearest to itself. -/
theorem StandsFor.nearestInt_eq {x : Float} {n : Int} (h : StandsFor x n) : nearestInt n = n := by
  apply nearestInt_eq_self_of_dvd
  have hvalue : (n : Rat) = signed x * 2 ^ exponent x := by rw [← h.toRat, toRat_eq]
  rcases Int.le_total 0 (exponent x) with hsign | hsign
  · obtain ⟨k, hk⟩ := Int.eq_ofNat_of_zero_le hsign
    have hint : n = signed x * 2 ^ k := by
      rw [hk, zpow_natCast] at hvalue
      exact_mod_cast hvalue
    rw [hint, Int.natAbs_mul, natAbs_signed, Int.natAbs_pow]
    exact spacing_dvd (significand_lt x) k
  -- A double with places below one is less than the significand.
  · obtain ⟨k, hk⟩ := Int.eq_ofNat_of_zero_le (Int.neg_nonneg.mpr hsign)
    have hint : n * 2 ^ k = signed x := by
      rw [show exponent x = -(k : Int) by omega, zpow_neg, zpow_natCast] at hvalue
      field_simp at hvalue
      exact_mod_cast hvalue
    have hnat : n.natAbs * 2 ^ k = significand x := by
      rw [← natAbs_signed, ← hint, Int.natAbs_mul, Int.natAbs_pow]
      rfl
    have hle : n.natAbs ≤ significand x := hnat ▸ Nat.le_mul_of_pos_right _ (Nat.two_pow_pos k)
    have hdvd := spacing_dvd (hle.trans_lt (significand_lt x)) 0
    rwa [pow_zero, Nat.mul_one] at hdvd

end RecordAudit.Double
