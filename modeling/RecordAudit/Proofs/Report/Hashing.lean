import Mathlib.Data.List.Forall2
import RecordAudit.Proofs.Number.Order
import RecordAudit.Report.Hashing

/-!
# Equal statistics feed a hash the same

What is fed can be read back piece by piece: a text ends at the first byte that
no text holds, a tag says whether a double follows, and a list begins with its
length.  So it is known of each kind of piece when two of them, with anything
fed after them, are fed the same: `double_append_iff` for doubles that are
numbers, `text_append_iff`, `optional_append_iff` and `list_append_iff`.

* `ColumnStats.same_iff` is equality, part by part, and `ColumnStats.Numeric`
  says that no double of some statistics is NaN.  Equal statistics are
  `Numeric`, as NaN is not equal to itself.
* `ColumnStats.fed_append_iff` puts the pieces together.
* `fed_agrees_same` is the law, for statistics and for reports.
-/

namespace RecordAudit

namespace Double

/-- The bits of a double are its magnitude and its sign. -/
theorem toNat_toBits (x : Float) :
    x.toBits.toNat = magnitude x + if isNegative x = true then signBit else 0 := by
  have hbits := x.toBits.toNat_lt
  rw [magnitude, isNegative, signBit]
  simp only [decide_eq_true_eq]
  split <;> omega

theorem key_zero : key 0 = 0 := by decide

theorem key_eq_zero_of_toBits {x : Float} (h : x.toBits.toNat = 0) : key x = 0 := by
  rw [toNat_toBits] at h
  rw [key]
  split <;> omega

/-- A double that is not zero shares its key with no other bits. -/
theorem toBits_eq_iff_key_eq {x y : Float} (hx : key x ≠ 0) :
    x.toBits.toNat = y.toBits.toNat ↔ key x = key y := by
  constructor
  · intro h
    rw [key, key, isNegative, isNegative, magnitude, magnitude, h]
  · intro h
    rw [toNat_toBits, toNat_toBits]
    rw [key] at hx
    rw [key, key] at h
    by_cases hxneg : isNegative x = true <;> by_cases hyneg : isNegative y = true <;>
      simp only [hxneg, hyneg, if_true, Bool.false_eq_true, if_false] at hx h ⊢ <;> omega

theorem isNaN_eq_false_of_eq {x y : Float} (h : eq x y = true) :
    isNaN x = false ∧ isNaN y = false :=
  isNaN_eq_false_of_atMost (by rw [atMost, h, Bool.or_true])

end Double

open Double (isNaN)

/-! ## The pieces that are fed -/

namespace Fed

theorem double_append_iff {x y : Float} (hx : isNaN x = false) (hy : isNaN y = false)
    (s t : List Fed) : double x ++ s = double y ++ t ↔ Double.eq x y = true ∧ s = t := by
  have hzero : isNaN 0 = false := by decide
  simp only [double, List.cons_append, List.nil_append, List.cons.injEq, word.injEq,
    Double.eq_iff_key_eq hx hzero, Double.eq_iff_key_eq hy hzero, Double.eq_iff_key_eq hx hy,
    Double.key_zero]
  refine and_congr_left fun _ => ?_
  by_cases hkx : Double.key x = 0
  · by_cases hky : Double.key y = 0
    · simp [hkx, hky]
    · rw [if_pos hkx, if_neg hky, hkx]
      exact iff_of_false (fun h => hky (Double.key_eq_zero_of_toBits h.symm)) (Ne.symm hky)
  · by_cases hky : Double.key y = 0
    · rw [if_neg hkx, if_pos hky, hky]
      exact iff_of_false (fun h => hkx (Double.key_eq_zero_of_toBits h)) hkx
    · rw [if_neg hkx, if_neg hky, Double.toBits_eq_iff_key_eq hkx]

/-- A tag keeps apart what is absent from what is there. -/
theorem optional_append_iff {x y : Option Float} (hx : ∀ a ∈ x, isNaN a = false)
    (hy : ∀ b ∈ y, isNaN b = false) (s t : List Fed) :
    optional x ++ s = optional y ++ t ↔ ColumnStats.sameOption x y = true ∧ s = t := by
  cases x with
  | none => cases y <;> simp [optional, ColumnStats.sameOption]
  | some a =>
    cases y with
    | none => simp [optional, ColumnStats.sameOption]
    | some b =>
      have hdouble := double_append_iff (hx a rfl) (hy b rfl) s t
      simpa [optional, ColumnStats.sameOption] using hdouble

theorem boolean_append_iff (a b : Bool) (s t : List Fed) :
    boolean a ++ s = boolean b ++ t ↔ a = b ∧ s = t := by
  cases a <;> cases b <;> simp [boolean]

/-- No byte of a character is the one that ends a text. -/
theorem not_mem_utf8EncodeChar (c : Char) : (0xFF : UInt8) ∉ String.utf8EncodeChar c := by
  have hbyte : ∀ n : Nat, n < 255 → (0xFF : UInt8) ≠ UInt8.ofNat n := fun n hn h => by
    have hnat : 255 = n % 2 ^ 8 := (congrArg UInt8.toNat h).trans UInt8.toNat_ofNat'
    omega
  rw [String.utf8EncodeChar.eq_1]
  split
  · simp only [List.mem_singleton]
    exact hbyte _ (by omega)
  · split
    · simp only [List.mem_cons, List.not_mem_nil, or_false, not_or]
      exact ⟨hbyte _ (by omega), hbyte _ (by omega)⟩
    · split
      · simp only [List.mem_cons, List.not_mem_nil, or_false, not_or]
        exact ⟨hbyte _ (by omega), hbyte _ (by omega), hbyte _ (by omega)⟩
      · simp only [List.mem_cons, List.not_mem_nil, or_false, not_or]
        exact ⟨hbyte _ (by omega), hbyte _ (by omega), hbyte _ (by omega), hbyte _ (by omega)⟩

/-- The bytes of a text tell its characters. -/
theorem flatMap_utf8EncodeChar_inj {xs ys : List Char}
    (h : xs.flatMap String.utf8EncodeChar = ys.flatMap String.utf8EncodeChar) : xs = ys := by
  have hencode : xs.utf8Encode = ys.utf8Encode := by rw [List.utf8Encode, h, List.utf8Encode]
  have hdecode := congrArg ByteArray.utf8Decode? hencode
  rw [List.utf8Decode?_utf8Encode, List.utf8Decode?_utf8Encode] at hdecode
  simpa using hdecode

/-- Bytes up to the first one that is in none of two runs. -/
theorem map_byte_append_iff {xs ys : List UInt8} {b : UInt8} (hx : b ∉ xs) (hy : b ∉ ys)
    (s t : List Fed) :
    xs.map byte ++ byte b :: s = ys.map byte ++ byte b :: t ↔ xs = ys ∧ s = t := by
  induction xs generalizing ys with
  | nil =>
    cases ys with
    | nil => simp
    | cons y ys => simp [List.ne_of_not_mem_cons hy]
  | cons x xs ih =>
    cases ys with
    | nil => simp [(List.ne_of_not_mem_cons hx).symm]
    | cons y ys =>
      have hrest := ih (List.not_mem_of_not_mem_cons hx) (List.not_mem_of_not_mem_cons hy)
      simp [hrest, and_assoc]

theorem text_append_iff (a b : String) (s t : List Fed) :
    text a ++ s = text b ++ t ↔ a = b ∧ s = t := by
  have hend : ∀ cs : List Char, (0xFF : UInt8) ∉ cs.flatMap String.utf8EncodeChar := by
    intro cs h
    obtain ⟨c, -, hc⟩ := List.mem_flatMap.mp h
    exact not_mem_utf8EncodeChar c hc
  simp only [text, List.append_assoc, List.singleton_append]
  rw [map_byte_append_iff (hend _) (hend _)]
  refine and_congr_left fun _ => ⟨fun h => ?_, fun h => by rw [h]⟩
  exact String.toList_inj.mp (flatMap_utf8EncodeChar_inj h)

/-- The lengths of two lists come first, and then their items follow one by one. -/
theorem list_append_iff {α : Type} {f : α → List Fed} {R : α → α → Prop} {xs ys : List α}
    (h : ∀ x ∈ xs, ∀ y ∈ ys, ∀ s t, f x ++ s = f y ++ t ↔ R x y ∧ s = t) (s t : List Fed) :
    list f xs ++ s = list f ys ++ t ↔ List.Forall₂ R xs ys ∧ s = t := by
  simp only [list, List.cons_append, List.cons.injEq, word.injEq]
  induction xs generalizing ys with
  | nil => cases ys <;> simp
  | cons x xs ih =>
    cases ys with
    | nil => simp
    | cons y ys =>
      have hrest := ih fun x' hx' y' hy' => h x' (.tail x hx') y' (.tail y hy')
      simp only [List.flatMap_cons, List.append_assoc, List.length_cons, Nat.add_right_cancel_iff,
        h x (.head xs) y (.head ys), List.forall₂_cons, and_assoc, ← hrest]
      exact and_left_comm

/-- Items that feed the same one by one are fed the same as lists. -/
theorem list_eq_of_forall₂ {α : Type} {f : α → List Fed} {R : α → α → Prop} {xs ys : List α}
    (h : List.Forall₂ R xs ys) (hf : ∀ x y, R x y → f x = f y) : list f xs = list f ys := by
  have hitems : xs.flatMap f = ys.flatMap f := by
    induction h with
    | nil => rfl
    | cons hxy _ ih => rw [List.flatMap_cons, List.flatMap_cons, hf _ _ hxy, ih]
  rw [list, list, h.length_eq, hitems]

end Fed

/-! ## Statistics -/

namespace ColumnStats

/-- Statistics in which no double is NaN. -/
structure Numeric (s : ColumnStats Float) : Prop where
  mean : ∀ x ∈ s.mean, isNaN x = false
  variance : ∀ x ∈ s.variance, isNaN x = false
  sampleVariance : ∀ x ∈ s.sampleVariance, isNaN x = false
  least : ∀ x ∈ s.least, isNaN x = false
  greatest : ∀ x ∈ s.greatest, isNaN x = false
  percentiles : ∀ p ∈ s.percentiles, isNaN p.quantile = false ∧ isNaN p.value = false

/-- Two percentiles that are equal as numbers. -/
def EqualPercentiles (p q : Percentile) : Prop :=
  Double.eq p.quantile q.quantile = true ∧ Double.eq p.value q.value = true

theorem samePercentiles_iff {ps qs : List Percentile} :
    samePercentiles ps qs = true ↔ List.Forall₂ EqualPercentiles ps qs := by
  induction ps generalizing qs with
  | nil => cases qs <;> simp [samePercentiles]
  | cons p ps ih =>
    cases qs with
    | nil => simp [samePercentiles]
    | cons q qs => simp [samePercentiles, ih, EqualPercentiles]

/-- Statistics are equal if all their parts are. -/
theorem same_iff {a b : ColumnStats Float} :
    a.same b = true ↔ a.column = b.column ∧ a.count = b.count ∧ a.skipped = b.skipped ∧
      sameOption a.mean b.mean = true ∧ sameOption a.variance b.variance = true ∧
      sameOption a.sampleVariance b.sampleVariance = true ∧ sameOption a.least b.least = true ∧
      sameOption a.greatest b.greatest = true ∧
      List.Forall₂ EqualPercentiles a.percentiles b.percentiles ∧ a.exact = b.exact := by
  simp only [same, Bool.and_eq_true, beq_iff_eq, samePercentiles_iff, and_assoc]

theorem fed_append_iff {a b : ColumnStats Float} (ha : a.Numeric) (hb : b.Numeric)
    (s t : List Fed) : a.fed ++ s = b.fed ++ t ↔ a.same b = true ∧ s = t := by
  have hpercentiles : ∀ p ∈ a.percentiles, ∀ q ∈ b.percentiles, ∀ s t,
      p.fed ++ s = q.fed ++ t ↔ EqualPercentiles p q ∧ s = t := by
    intro p hp q hq s t
    obtain ⟨hpq, hpv⟩ := ha.percentiles p hp
    obtain ⟨hqq, hqv⟩ := hb.percentiles q hq
    rw [Percentile.fed, Percentile.fed, List.append_assoc, List.append_assoc,
      Fed.double_append_iff hpq hqq, Fed.double_append_iff hpv hqv, EqualPercentiles, and_assoc]
  simp only [fed, List.append_assoc, List.cons_append, List.nil_append, Fed.text_append_iff,
    List.cons.injEq, Fed.word.injEq, Fed.optional_append_iff ha.mean hb.mean,
    Fed.optional_append_iff ha.variance hb.variance,
    Fed.optional_append_iff ha.sampleVariance hb.sampleVariance,
    Fed.optional_append_iff ha.least hb.least, Fed.optional_append_iff ha.greatest hb.greatest,
    Fed.list_append_iff hpercentiles, Fed.boolean_append_iff, same_iff, and_assoc]

theorem isNaN_eq_false_of_sameOption {x y : Option Float} (h : sameOption x y = true) :
    (∀ a ∈ x, isNaN a = false) ∧ ∀ b ∈ y, isNaN b = false := by
  cases x with
  | none =>
    cases y with
    | none => simp
    | some b => simp [sameOption] at h
  | some a =>
    cases y with
    | none => simp [sameOption] at h
    | some b =>
      obtain ⟨ha, hb⟩ := Double.isNaN_eq_false_of_eq h
      simp [ha, hb]

theorem isNaN_eq_false_of_equalPercentiles {ps qs : List Percentile}
    (h : List.Forall₂ EqualPercentiles ps qs) :
    (∀ p ∈ ps, isNaN p.quantile = false ∧ isNaN p.value = false) ∧
      ∀ q ∈ qs, isNaN q.quantile = false ∧ isNaN q.value = false := by
  induction h with
  | nil => simp
  | cons hpq _ ih =>
    obtain ⟨hp, hq⟩ := Double.isNaN_eq_false_of_eq hpq.1
    obtain ⟨hp', hq'⟩ := Double.isNaN_eq_false_of_eq hpq.2
    simpa [hp, hq, hp', hq'] using ih

/-- Equal statistics hold no NaN, on either side. -/
theorem numeric_of_same {a b : ColumnStats Float} (h : a.same b = true) :
    a.Numeric ∧ b.Numeric := by
  obtain ⟨-, -, -, hmean, hvariance, hsample, hleast, hgreatest, hpercentiles, -⟩ := same_iff.mp h
  obtain ⟨hmean, hmean'⟩ := isNaN_eq_false_of_sameOption hmean
  obtain ⟨hvariance, hvariance'⟩ := isNaN_eq_false_of_sameOption hvariance
  obtain ⟨hsample, hsample'⟩ := isNaN_eq_false_of_sameOption hsample
  obtain ⟨hleast, hleast'⟩ := isNaN_eq_false_of_sameOption hleast
  obtain ⟨hgreatest, hgreatest'⟩ := isNaN_eq_false_of_sameOption hgreatest
  obtain ⟨hpercentiles, hpercentiles'⟩ := isNaN_eq_false_of_equalPercentiles hpercentiles
  exact ⟨⟨hmean, hvariance, hsample, hleast, hgreatest, hpercentiles⟩,
    ⟨hmean', hvariance', hsample', hleast', hgreatest', hpercentiles'⟩⟩

theorem fed_eq_iff_same {a b : ColumnStats Float} (ha : a.Numeric) (hb : b.Numeric) :
    a.fed = b.fed ↔ a.same b = true := by
  have hfed := fed_append_iff ha hb [] []
  rwa [List.append_nil, List.append_nil, and_iff_left rfl] at hfed

theorem fed_eq_of_same {a b : ColumnStats Float} (h : a.same b = true) : a.fed = b.fed := by
  obtain ⟨ha, hb⟩ := numeric_of_same h
  exact (fed_eq_iff_same ha hb).mpr h

end ColumnStats

/-! ## Reports -/

namespace Report

/-- Two entries of equal names and equal statistics. -/
def EqualColumns (x y : String × ColumnStats Float) : Prop := x.1 = y.1 ∧ x.2.same y.2 = true

theorem sameColumns_iff {a b : Report Float} :
    a.sameColumns b = true ↔ List.Forall₂ EqualColumns a.columns b.columns := by
  rw [sameColumns, List.forall₂_iff_zip, Bool.and_eq_true, beq_iff_eq, List.all_eq_true]
  refine and_congr_right fun _ => ⟨fun h x y hxy => ?_, fun h xy hxy => ?_⟩
  · simpa [EqualColumns] using h (x, y) hxy
  · simpa [EqualColumns] using h hxy

theorem fed_eq_of_same {a b : Report Float} (h : a.same b = true) : a.fed = b.fed := by
  simp only [same, Bool.and_eq_true, beq_iff_eq, sameOutcomes, sameColumns_iff] at h
  obtain ⟨⟨hfiltered, houtcomes⟩, hcolumns⟩ := h
  simp only [fed, total, valid, invalid, hfiltered, houtcomes]
  refine congrArg (_ ++ ·) (Fed.list_eq_of_forall₂ hcolumns fun x y hxy => ?_)
  simp only [hxy.1, ColumnStats.fed_eq_of_same hxy.2]

end Report

/-- Equality and what is fed to a hash go together.  Equal statistics feed the same, whichever signs
their zeros have; statistics without NaN that feed the same are equal; and equal reports feed the
same. -/
theorem fed_agrees_same :
    (∀ a b : ColumnStats Float, a.same b = true → a.fed = b.fed) ∧
      (∀ a b : ColumnStats Float, a.Numeric → b.Numeric → a.fed = b.fed → a.same b = true) ∧
      ∀ a b : Report Float, a.same b = true → a.fed = b.fed :=
  ⟨fun _ _ => ColumnStats.fed_eq_of_same, fun _ _ ha hb => (ColumnStats.fed_eq_iff_same ha hb).mp,
    fun _ _ => Report.fed_eq_of_same⟩

/-- Statistics of one zero and a percentile, in all of which the zero may have a sign. -/
def zeroStats (zero : Float) : ColumnStats Float :=
  ⟨"n", 1, 0, some zero, some zero, none, some zero, some zero, [⟨zero, zero⟩], true⟩

/-- Two zeros of different signs, and a report of either. -/
theorem fed_agrees_same_zeros :
    (zeroStats 0).same (zeroStats (-0.0)) = true ∧ (zeroStats 0).fed = (zeroStats (-0.0)).fed ∧
      (zeroStats 0).Numeric ∧ (zeroStats (-0.0)).Numeric ∧
      (Report.assemble [] [zeroStats 0] 0).fed = (Report.assemble [] [zeroStats (-0.0)] 0).fed := by
  obtain ⟨hfed, hsame, hreport⟩ := fed_agrees_same
  have hequal : (zeroStats 0).same (zeroStats (-0.0)) = true := by decide +kernel
  obtain ⟨hnumeric, hnumeric'⟩ := ColumnStats.numeric_of_same hequal
  exact ⟨hsame _ _ hnumeric hnumeric' (hfed _ _ hequal), hfed _ _ hequal, hnumeric, hnumeric',
    hreport _ _ (by decide +kernel)⟩

end RecordAudit
