import Mathlib
import RecordAudit.Number.Shortest
import RecordAudit.Proofs.Number.Rational

/-!
# How a double is made of a significand and an exponent

What arithmetic on doubles computes is a significand and an exponent without
bounds, which are rounded to 53 bits and then packed into a word.

* `roundedMantissa_shiftRight` says that the two bits kept beside a shifted
  significand are enough to round it to the nearest, a half to the even
  neighbour.
* `exists_rounded_of_fits` is the significand and the exponent after rounding,
  and `exists_rounded` the case in which there is room for it anyway.
* `unpack_packed`, `neg_packed` and `toRat_packed` say of a packed double what
  it was packed from, what its opposite is, and which number it stands for.
-/

namespace RecordAudit.Double

open Float.Model Float.Model.UnpackedFloat
open Number (roundHalfEven)

/-! ## Rounding a significand -/

/-- What a shifted significand keeps of a quotient: its whole part, whether the rest is at least a
half, and whether it is neither nothing nor a half. -/
structure Keeps (m : ExtendedMantissa) (n d : Nat) : Prop where
  mantissa : m.mantissa = n / d
  roundBit : m.roundBit = true ↔ d ≤ 2 * (n % d)
  stickyBit : m.stickyBit = true ↔ n % d ≠ 0 ∧ 2 * (n % d) ≠ d

theorem keeps_exact (n : Nat) : Keeps (.ofMantissaAndAccuracy n .exact) n 1 where
  mantissa := (Nat.div_one n).symm
  roundBit := by simp [ExtendedMantissa.ofMantissaAndAccuracy, Nat.mod_one]
  stickyBit := by simp [ExtendedMantissa.ofMantissaAndAccuracy, Nat.mod_one]

theorem Keeps.shiftRightOne {m : ExtendedMantissa} {n d : Nat} (h : Keeps m n d) (hd : 0 < d) :
    Keeps m.shiftRightOne n (d * 2) := by
  have hmod : n % (d * 2) = n % d + d * (n / d % 2) := Nat.mod_mul
  have hlt : n % d < d := Nat.mod_lt n hd
  have hbit : n / d % 2 = 0 ∨ n / d % 2 = 1 := by omega
  refine ⟨?_, ?_, ?_⟩
  · rw [ExtendedMantissa.shiftRightOne, h.mantissa, Nat.div_div_eq_div_mul]
  · rw [ExtendedMantissa.shiftRightOne, h.mantissa, bne_iff_ne, hmod]
    rcases hbit with hbit | hbit <;> rw [hbit] <;> omega
  · rw [ExtendedMantissa.shiftRightOne, Bool.or_eq_true, h.roundBit, h.stickyBit, hmod]
    rcases hbit with hbit | hbit <;> rw [hbit] <;> omega

theorem keeps_shiftRight (n k : Nat) :
    Keeps (ExtendedMantissa.ofMantissaAndAccuracy n .exact >>> k) n (2 ^ k) := by
  induction k with
  | zero => exact keeps_exact n
  | succ k ih => exact ih.shiftRightOne (Nat.two_pow_pos k)

/-- What is kept is enough to round to the nearest. -/
theorem Keeps.roundedMantissa {m : ExtendedMantissa} {n d : Nat} (h : Keeps m n d) (hd : 0 < d) :
    m.roundedMantissa = roundHalfEven n d := by
  obtain ⟨hmantissa, hround, hsticky⟩ := h
  rcases m with ⟨q, round, sticky⟩
  obtain rfl : q = n / d := hmantissa
  unfold roundHalfEven
  rcases Nat.lt_trichotomy (2 * (n % d)) d with hlt | heq | hgt
  · obtain rfl : round = false := by
      rw [Bool.eq_false_iff, ne_eq, hround]
      omega
    rw [Nat.compare_eq_lt.mpr hlt]
    cases sticky <;> rfl
  · obtain rfl : round = true := hround.mpr heq.ge
    obtain rfl : sticky = false := by
      rw [Bool.eq_false_iff, ne_eq, hsticky]
      omega
    rw [Nat.compare_eq_eq.mpr heq]
    rfl
  · obtain rfl : round = true := hround.mpr hgt.le
    obtain rfl : sticky = true := hsticky.mpr (by omega)
    rw [Nat.compare_eq_gt.mpr hgt]
    rfl

/-- A significand is rounded to the nearest by shifting it. -/
theorem roundedMantissa_shiftRight (n k : Nat) :
    (ExtendedMantissa.ofMantissaAndAccuracy n .exact >>> k).roundedMantissa =
      roundHalfEven n (2 ^ k) :=
  (keeps_shiftRight n k).roundedMantissa (Nat.two_pow_pos k)

/-- A significand of 53 bits with an exponent that a word has room for. -/
structure Normal (m : Nat) (e : Int) : Prop where
  least : 2 ^ 52 ≤ m
  below : m < 2 ^ 53
  lowest : -1074 ≤ e
  highest : e ≤ 971

theorem Normal.pos {m : Nat} {e : Int} (h : Normal m e) : 0 < m :=
  (Nat.two_pow_pos 52).trans_le h.least

theorem Normal.log2 {m : Nat} {e : Int} (h : Normal m e) : m.log2 = 52 :=
  (Nat.log2_eq_iff h.pos.ne').mpr ⟨h.least, h.below⟩

theorem roundHalfEven_bounds (n d : Nat) :
    n / d ≤ roundHalfEven n d ∧ roundHalfEven n d ≤ n / d + 1 := by
  unfold roundHalfEven
  dsimp only
  split <;> omega

/-- A significand that is rounded to 53 bits has 53 bits, unless it carries into a further one. -/
theorem roundHalfEven_place {m : Nat} (hm : 52 ≤ m.log2) :
    2 ^ 52 ≤ roundHalfEven m (2 ^ (m.log2 - 52)) ∧
      roundHalfEven m (2 ^ (m.log2 - 52)) ≤ 2 ^ 53 := by
  have hzero : m ≠ 0 := by
    rintro rfl
    simp at hm
  obtain ⟨k, hk⟩ := Nat.exists_eq_add_of_le hm
  obtain ⟨hleast, hbelow⟩ := (Nat.log2_eq_iff hzero).mp hk
  rw [hk, Nat.add_sub_cancel_left]
  have hquotient : 2 ^ 52 ≤ m / 2 ^ k := by
    rw [Nat.le_div_iff_mul_le (Nat.two_pow_pos k), ← Nat.pow_add]
    exact hleast
  have hquotient' : m / 2 ^ k < 2 ^ 53 := by
    rw [Nat.div_lt_iff_lt_mul (Nat.two_pow_pos k), ← Nat.pow_add]
    exact hbelow.trans_eq (by congr 1; omega)
  have hbounds := roundHalfEven_bounds m (2 ^ k)
  omega

theorem shiftToTargetExponent_eq {m : Nat} {e : Int} (hm : 52 ≤ m.log2)
    (he : -1074 ≤ e + (m.log2 - 52 : Nat)) :
    shiftToTargetExponent Format.binary64 m e .exact =
      (ExtendedMantissa.ofMantissaAndAccuracy m .exact >>> (m.log2 - 52),
        e + (m.log2 - 52 : Nat)) := by
  have htarget : Format.binary64.targetExponent (totalExponent m e) - e = (m.log2 - 52 : Nat) := by
    simp only [Format.targetExponent, totalExponent, Format.mantissaBits, Format.minExponent]
    omega
  simp only [shiftToTargetExponent, shiftToExponent, htarget, Int.toNat_natCast]

/-- A significand of at least 53 bits is rounded to 53 bits, and once more shifted where that
carries into a further bit.  At the greatest exponent it must not carry. -/
theorem exists_rounded_of_fits (s : Sign) {m : Nat} {e : Int} (hm : 52 ≤ m.log2)
    (hlow : -1074 ≤ e + (m.log2 - 52 : Nat)) (hhigh : e + (m.log2 - 52 : Nat) ≤ 971)
    (hfits : e + (m.log2 - 52 : Nat) = 971 → roundHalfEven m (2 ^ (m.log2 - 52)) < 2 ^ 53) :
    ∃ m' e', ∃ h : Normal m' e',
      roundWithAccuracy Format.binary64 s m e .exact = .finite s m' e' h.pos ∧
        e' ≤ e + (m.log2 - 52 : Nat) + 1 ∧
        (m' : Rat) * 2 ^ e' =
          roundHalfEven m (2 ^ (m.log2 - 52)) * 2 ^ (e + (m.log2 - 52 : Nat)) := by
  obtain ⟨hleast, hmost⟩ := roundHalfEven_place hm
  have hshift := shiftToTargetExponent_eq hm hlow
  have hrounded := roundedMantissa_shiftRight m (m.log2 - 52)
  generalize m.log2 - 52 = k at hleast hmost hshift hrounded hlow hhigh hfits ⊢
  generalize roundHalfEven m (2 ^ k) = r at hleast hmost hrounded hfits ⊢
  have hlog : r.log2 = 52 ∧ r < 2 ^ 53 ∨ r.log2 = 53 ∧ r = 2 ^ 53 := by
    rcases Nat.lt_or_eq_of_le hmost with hlt | heq
    · exact .inl ⟨(Nat.log2_eq_iff (by omega)).mpr ⟨hleast, hlt⟩, hlt⟩
    · exact .inr ⟨by rw [heq, Nat.log2_two_pow], heq⟩
  have hshift' := shiftToTargetExponent_eq (m := r) (e := e + k) (by omega) (by omega)
  have hmantissa := (keeps_shiftRight r (r.log2 - 52)).mantissa
  -- The second shift is by one place if rounding carried into a further bit, and else by none.
  rcases hlog with ⟨hlog, hlt⟩ | ⟨hlog, rfl⟩
  · rw [hlog] at hshift' hmantissa
    rw [Nat.sub_self, pow_zero, Nat.div_one] at hmantissa
    refine ⟨r, e + k, ⟨hleast, hlt, by omega, by omega⟩, ?_, by omega, rfl⟩
    simp only [roundWithAccuracy, hshift, hrounded, hshift', hmantissa]
    rw [dif_neg (by omega)]
    simp
  · have hhigh' : e + k ≠ 971 := fun htop => absurd (hfits htop) (Nat.lt_irrefl _)
    rw [hlog] at hshift' hmantissa
    refine ⟨2 ^ 52, e + k + 1, ⟨by omega, by omega, by omega, by omega⟩, ?_, le_rfl, ?_⟩
    · simp only [roundWithAccuracy, hshift, hrounded, hshift', hmantissa]
      rw [dif_neg (by omega)]
      simp
    · rw [zpow_add_one₀ two_ne_zero]
      push_cast
      ring

/-- Below the greatest exponent there is room to carry. -/
theorem exists_rounded (s : Sign) {m : Nat} {e : Int} (hm : 52 ≤ m.log2)
    (hlow : -1074 ≤ e + (m.log2 - 52 : Nat)) (hhigh : e + (m.log2 - 52 : Nat) ≤ 970) :
    ∃ m' e', ∃ h : Normal m' e',
      roundWithAccuracy Format.binary64 s m e .exact = .finite s m' e' h.pos ∧
        e' ≤ e + (m.log2 - 52 : Nat) + 1 ∧
        (m' : Rat) * 2 ^ e' =
          roundHalfEven m (2 ^ (m.log2 - 52)) * 2 ^ (e + (m.log2 - 52 : Nat)) :=
  exists_rounded_of_fits s hm hlow (by omega) fun htop => by omega

/-! ## Packing a significand and an exponent -/

/-- The double that is packed from a sign, a significand and an exponent. -/
def packed (s : Sign) {m : Nat} {e : Int} (h : Normal m e) : Float :=
  .ofModel (Float.Model.pack (.finite s m e h.pos))

/-- The fields of a packed double. -/
theorem pack_eq (s : Sign) {m : Nat} {e : Int} (h : Normal m e) :
    UnpackedFloat.pack Format.binary64 (.finite s m e h.pos) =
      packComponents Format.binary64 s (BitVec.ofNat 11 (e + 1075).toNat) (BitVec.ofNat 52 m) := by
  have hbiased : e + Format.binary64.exponentBias + Format.binary64.mantissaBitsWithoutImplicit =
      e + 1075 := by
    simp only [Format.exponentBias]
    omega
  have hroom : ¬2 ^ 11 ≤ (e + 1075).toNat + 1 := by
    have := h.highest
    omega
  simp only [UnpackedFloat.pack, hbiased, h.log2]
  rw [if_neg hroom, if_pos (show 52 + 1 = Format.binary64.mantissaBits from rfl)]

theorem toNat_packComponents (s : Sign) (b : BitVec 11) (f : BitVec 52) :
    (packComponents Format.binary64 s b f).toNat =
      s.toBitVec.toNat * 2 ^ 63 + b.toNat * 2 ^ 52 + f.toNat := by
  have hb := b.isLt
  have hf := f.isLt
  unfold packComponents
  rw [BitVec.toNat_append, BitVec.toNat_append, ← Nat.shiftLeft_add_eq_or_of_lt hb,
    ← Nat.shiftLeft_add_eq_or_of_lt hf, Nat.shiftLeft_eq, Nat.shiftLeft_eq]
  ring

theorem Normal.toNat_exponent {m : Nat} {e : Int} (h : Normal m e) :
    (BitVec.ofNat 11 (e + 1075).toNat).toNat = (e + 1075).toNat := by
  have hhighest := h.highest
  exact Nat.mod_eq_of_lt (by omega)

/-- Unpacking gives back what was packed. -/
theorem unpack_packed (s : Sign) {m : Nat} {e : Int} (h : Normal m e) :
    (packed s h).toModel.unpack = .finite s m e h.pos := by
  have ⟨hleast, hbelow, hlowest, hhighest⟩ := h
  have hfield := h.toNat_exponent
  have hnotInfinite : BitVec.ofNat 11 (e + 1075).toNat ≠ -1#11 := fun heq => by
    have htop := hfield.symm.trans (congrArg BitVec.toNat heq)
    simp at htop
    omega
  have hnotSubnormal : BitVec.ofNat 11 (e + 1075).toNat ≠ 0#11 := fun heq => by
    have hzero := hfield.symm.trans (congrArg BitVec.toNat heq)
    simp at hzero
    omega
  have hsignificand : (1#1 ++ BitVec.ofNat 52 m).toNat = m := by
    rw [BitVec.toNat_append, ← Nat.shiftLeft_add_eq_or_of_lt (BitVec.isLt _), BitVec.toNat_ofNat,
      BitVec.toNat_ofNat, Nat.shiftLeft_eq]
    omega
  have hexponent : ((e + 1075).toNat : Int) - (Format.binary64.exponentBias + (52 : Nat)) = e := by
    simp only [Format.exponentBias]
    omega
  show UnpackedFloat.unpack Format.binary64
    (UnpackedFloat.pack Format.binary64 (.finite s m e h.pos)) = _
  rw [pack_eq s h]
  simp only [UnpackedFloat.unpack, unpackExponent_packComponents, unpackMantissa_packComponents,
    unpackSign_packComponents, Sign.ofBitVec_toBitVec, hnotInfinite, hnotSubnormal, if_false,
    hsignificand, hfield]
  rw [hexponent]

/-- The opposite of a packed double differs in the sign. -/
theorem neg_packed (s : Sign) {m : Nat} {e : Int} (h : Normal m e) :
    -packed s h = packed (-s) h := by
  show Float.ofModel (Float.Model.pack (packed s h).toModel.unpack.neg) = _
  rw [unpack_packed]
  rfl

theorem toNat_toBits_packed (s : Sign) {m : Nat} {e : Int} (h : Normal m e) :
    (packed s h).toBits.toNat =
      s.toBitVec.toNat * 2 ^ 63 + (e + 1074).toNat * 2 ^ 52 + m := by
  have hbits : (packed s h).toBits.toNat =
      (UnpackedFloat.pack Format.binary64 (.finite s m e h.pos)).toNat := rfl
  have ⟨hleast, hbelow, hlowest, hhighest⟩ := h
  rw [hbits, pack_eq s h, toNat_packComponents, h.toNat_exponent, BitVec.toNat_ofNat]
  omega

theorem magnitude_packed (s : Sign) {m : Nat} {e : Int} (h : Normal m e) :
    magnitude (packed s h) = (e + 1074).toNat * 2 ^ 52 + m := by
  have hs := s.toBitVec.isLt
  have ⟨hleast, hbelow, hlowest, hhighest⟩ := h
  rw [magnitude, toNat_toBits_packed, signBit]
  omega

theorem isNegative_packed (s : Sign) {m : Nat} {e : Int} (h : Normal m e) :
    isNegative (packed s h) = true ↔ s = .negative := by
  have ⟨hleast, hbelow, hlowest, hhighest⟩ := h
  rw [isNegative, toNat_toBits_packed, signBit, decide_eq_true_eq]
  cases s with
  | negative =>
    simp only [Sign.toBitVec, BitVec.toNat_ofNat, iff_true]
    omega
  | positive =>
    simp only [Sign.toBitVec, BitVec.toNat_ofNat, reduceCtorEq, iff_false]
    omega

theorem isFinite_packed (s : Sign) {m : Nat} {e : Int} (h : Normal m e) :
    isFinite (packed s h) = true := by
  have ⟨hleast, hbelow, hlowest, hhighest⟩ := h
  rw [isFinite, magnitude_packed, infiniteMagnitude, exponentBit, decide_eq_true_eq]
  omega

/-- The number that a packed double stands for. -/
theorem toRat_packed (s : Sign) {m : Nat} {e : Int} (h : Normal m e) :
    toRat (packed s h) = s.apply m * 2 ^ e := by
  have ⟨hleast, hbelow, hlowest, hhighest⟩ := h
  have hsignificand : significand (packed s h) = m := by
    rw [significand, magnitude_packed, exponentBit, if_neg (by omega)]
    omega
  have hexponent : exponent (packed s h) = e := by
    rw [exponent, magnitude_packed, exponentBit]
    omega
  have hsigned : signed (packed s h) = s.apply m := by
    rw [signed, hsignificand]
    cases s with
    | negative => rw [if_pos ((isNegative_packed _ h).mpr rfl), Sign.apply]
    | positive => rw [if_neg (by simp [isNegative_packed]), Sign.apply]
  rw [toRat_eq, hexponent, hsigned]

end RecordAudit.Double
