import RecordAudit.Number.Reading
import RecordAudit.Proofs.Number.Nearest

/-!
# Integers read as doubles

A text that is an integer of 64 bits is also a double, the one nearest to that
integer (`exists_double?_of_int64?`).
-/

namespace RecordAudit.Number

open Double (StandsFor nearestInt nearestNat)

/-- A text that is an integer of 64 bits is a sign and digits. -/
theorem digits_of_int64? {text : String} {n : Int64} (h : int64? text = some n) :
    ∃ negative digits, splitSign text.toList = (negative, digits) ∧ digits ≠ [] ∧
      (∀ c ∈ digits, c.isDigit = true) ∧
        n.toInt = if negative then -(ofDigits digits : Int) else ofDigits digits := by
  cases hsplit : splitSign text.toList with
  | mk negative digits =>
    simp only [int64?, hsplit] at h
    split at h
    · next hdigits =>
      refine ⟨negative, digits, rfl, hdigits.1, List.all_eq_true.mp hdigits.2, ?_⟩
      generalize (if negative = true then _ else _ : Int) = m at h ⊢
      split at h
      · next hrange =>
        rw [Int64.toInt_minValue, Int64.toInt_maxValue] at hrange
        rw [← Option.some.inj h, Int64.toInt_ofInt_of_le hrange.1 (by omega)]
      · cases h
    · cases h

theorem nearest_of_lt {n : Nat} (hn : n < 2 ^ 64) :
    StandsFor (nearest n 0) (nearestNat n) ∧ StandsFor (-nearest n 0) (-nearestNat n) := by
  have hlength : (Nat.toDigits 10 n).length ≤ 20 :=
    Nat.toDigits_length 10 n 20 (by decide) (hn.trans (by decide))
  have hof : nearest n 0 = Float.ofScientific n false 0 := by
    rw [nearest]
    split
    · next hzero =>
      rw [hzero]
      decide
    · rw [if_neg (by omega), if_neg (by omega)]
      rfl
  rw [hof]
  exact Double.standsFor_ofScientific hn

theorem toLower_of_isDigit {c : Char} (h : c.isDigit = true) : c.toLower = c := by
  grind [Char.toLower, Char.isDigit]

/-- Digits without a fraction and an exponent are a double. -/
theorem unsigned?_of_digits {digits : List Char} (hne : digits ≠ [])
    (hdigits : ∀ c ∈ digits, c.isDigit = true) :
    unsigned? digits = some (nearest (ofDigits digits) 0) := by
  have htake : digits.takeWhile Char.isDigit = digits := List.takeWhile_eq_self_iff.mpr hdigits
  have hdrop : digits.dropWhile Char.isDigit = [] := List.dropWhile_eq_nil_iff.mpr hdigits
  simp [unsigned?, splitDigits, htake, hdrop, hne, exponentPart?]

/-- Digits are none of the words for what is no finite number. -/
theorem map_toLower_ne {digits : List Char} (hdigits : ∀ c ∈ digits, c.isDigit = true)
    (word : List Char) (hword : word.all Char.isDigit = false) :
    digits.map Char.toLower ≠ word := by
  rintro rfl
  have hall : (digits.map Char.toLower).all Char.isDigit = true := by
    rw [List.all_map, List.all_eq_true]
    intro c hc
    rw [Function.comp_apply, toLower_of_isDigit (hdigits c hc), hdigits c hc]
  rw [hall] at hword
  cases hword

/-- An integer of 64 bits is read as the double nearest to it. -/
theorem exists_double?_of_int64? {text : String} {n : Int64} (h : int64? text = some n) :
    ∃ x, double? text = some x ∧ StandsFor x (nearestInt n.toInt) := by
  obtain ⟨negative, digits, hsplit, hne, hdigits, hvalue⟩ := digits_of_int64? h
  have hnan := map_toLower_ne hdigits "nan".toList (by decide)
  have hinf := map_toLower_ne hdigits "inf".toList (by decide)
  have hinfinity := map_toLower_ne hdigits "infinity".toList (by decide)
  have hlt : ofDigits digits < 2 ^ 64 := by
    have hle := n.le_toInt
    have hlt := n.toInt_lt
    split at hvalue <;> omega
  obtain ⟨hpositive, hnegative⟩ := nearest_of_lt hlt
  simp only [double?, hsplit, hnan, hinf, hinfinity, if_false, or_self,
    unsigned?_of_digits hne hdigits]
  cases negative with
  | true =>
    rw [if_pos rfl] at hvalue
    rw [hvalue, Double.nearestInt_neg_natCast]
    exact ⟨_, rfl, hnegative⟩
  | false =>
    rw [if_neg Bool.false_ne_true] at hvalue
    rw [hvalue, Double.nearestInt_natCast]
    exact ⟨_, rfl, hpositive⟩

end RecordAudit.Number
