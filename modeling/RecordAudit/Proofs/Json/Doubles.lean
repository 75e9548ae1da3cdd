import RecordAudit.Proofs.Json.Texts
import RecordAudit.Proofs.Number.Shortest

/-!
# Doubles in JSON

A finite double is written as its shortest decimal, and that text is read as
some double again (`exists_takes_json`).

* `fractionPart_eq` reads a fraction, and `exponentPart_eq` an exponent with its
  sign, each up to what follows.
* `exists_doubleOf` puts the double together.  Only a power of ten whose exponent
  is not negative can fail, and `Number.readable_shortest` says that it does not.
* `exists_takes_positional` and `exists_takes_scientific` are the two notations.
-/

namespace RecordAudit.Json.Reader

open RecordAudit.Number (Decimal digitsOf digitCount)

/-! ## Fractions and exponents -/

theorem fractionPart_eq {fraction : List Char} (hdigits : ∀ c ∈ fraction, c.isDigit = true)
    (hne : fraction ≠ []) {significand : Nat}
    (hvalue : Nat.ofDigitChars 10 fraction significand < UInt64.size) (negative : Bool)
    (exponent : Int) {rest : List Char} (hrest : ∀ c ∈ rest.head?, c.isDigit = false)
    (offset : Nat) :
    fractionPart negative significand exponent ⟨'.' :: fraction ++ rest, offset⟩ =
      (match rest.head? with
        | some 'e' | some 'E' => exponentPart negative
            (Nat.ofDigitChars 10 fraction significand) (exponent - fraction.length)
        | _ => doubleOf negative
            (Nat.ofDigitChars 10 fraction significand) (exponent - fraction.length) : Reader Number)
        ⟨rest, offset + 1 + Text.byteLength fraction⟩ := by
  have hempty : fraction.isEmpty = false := by simpa using hne
  rw [fractionPart, skip_bind]
  show (remaining >>= _) ⟨fraction ++ rest, offset + 1⟩ = _
  rw [remaining_bind]
  simp only [takeWhile_digits hdigits hrest, accumulate_eq hvalue, hempty, Bool.false_eq_true,
    if_false, List.length_nil, Nat.sub_zero]
  rw [skip_bind]
  simp only [List.drop_left, List.take_left]
  exact peek_bind _ _

theorem exponentOverflow?_eq {digits : List Char} {n count : Nat}
    (h : Nat.ofDigitChars 10 digits n < 2147483648) : exponentOverflow? n count digits = none := by
  induction digits generalizing n count with
  | nil => rfl
  | cons c rest ih =>
    have hrest : Nat.ofDigitChars 10 (c :: rest) n =
      Nat.ofDigitChars 10 rest (10 * n + (c.toNat - '0'.toNat)) := rfl
    rw [hrest] at h
    have hle := le_ofDigitChars rest (10 * n + (c.toNat - '0'.toNat))
    rw [exponentOverflow?, if_pos (hle.trans_lt h), ih h]

theorem ofDigits_toDigits (n : Nat) : RecordAudit.Number.ofDigits (Nat.toDigits 10 n) = n :=
  Nat.ofDigitChars_ten_toDigits

/-- The sign of an exponent. -/
def exponentSign (down : Bool) : Char := if down then '-' else '+'

theorem exponentPart_eq {n : Nat} (hn : n < 2147483648) (negative down : Bool) (significand : Nat)
    (exponent : Int) {rest : List Char} (hrest : EndsNumber rest) (offset : Nat) :
    ∃ offset', exponentPart negative significand exponent
        ⟨'e' :: exponentSign down :: Nat.toDigits 10 n ++ rest, offset⟩ =
      doubleOf negative significand (if down then exponent - n else exponent + n)
        ⟨rest, offset'⟩ := by
  have hdigits : ∀ c ∈ Nat.toDigits 10 n, c.isDigit = true := fun c => isDigit_of_mem_toDigits
  have htake := takeWhile_digits hdigits hrest.digit
  have hempty : (Nat.toDigits 10 n).isEmpty = false := by simp [Nat.toDigits_ne_nil]
  have hoverflow : exponentOverflow? 0 0 (Nat.toDigits 10 n) = none :=
    exponentOverflow?_eq (by rwa [Nat.ofDigitChars_ten_toDigits])
  refine ⟨offset + 1 + 1 + Text.byteLength (Nat.toDigits 10 n), ?_⟩
  rw [exponentPart, skip_bind, peek_bind]
  -- Both signs go on with the same digits.
  cases down
  all_goals
    show (skip 1 >>= _) _ = _
    rw [skip_bind, return_bind]
    show (remaining >>= _) ⟨Nat.toDigits 10 n ++ rest, offset + 1 + 1⟩ = _
    rw [remaining_bind]
    simp only [htake, hempty, hoverflow, ofDigits_toDigits, Bool.false_eq_true, if_false, if_true]
    rw [skip_bind]
    simp only [List.drop_left, List.take_left]

/-! ## Putting a double together -/

/-- A double is got without a fault, unless a product is infinite. -/
theorem exists_doubleOf (negative : Bool) (significand : Nat) (exponent : Int)
    (h : 0 ≤ exponent → exponent ≤ 308 ∧ Double.isFinite
      (Float.ofNat significand * Float.ofScientific 1 false exponent.toNat) = true) :
    ∃ x, ∀ c, doubleOf negative significand exponent c = (.ok (.double x), c) := by
  by_cases hsign : 0 ≤ exponent
  · obtain ⟨hhigh, hfinite⟩ := h hsign
    generalize hproduct :
      Float.ofNat significand * Float.ofScientific 1 false exponent.toNat = x at hfinite
    have hinfinite : ¬Double.isInfinite x = true := by
      rw [Double.isFinite, decide_eq_true_eq] at hfinite
      rw [Double.isInfinite, beq_iff_eq]
      omega
    refine ⟨if negative then -x else x, fun c => ?_⟩
    simp only [doubleOf, if_pos hsign, if_pos hhigh, hproduct, if_neg hinfinite]
    rfl
  · generalize hscaled :
      scaleDown (exponent.natAbs / 308 + 1) (Float.ofNat significand) exponent.natAbs = x
    refine ⟨if negative then -x else x, fun c => ?_⟩
    simp only [doubleOf, if_neg hsign, hscaled]
    rfl

/-- The digits on both sides of a point. -/
structure IsDecimal (whole fraction : List Char) : Prop where
  isWhole : IsWhole whole
  digit : ∀ c ∈ fraction, c.isDigit = true
  ne_nil : fraction ≠ []
  value : Nat.ofDigitChars 10 (whole ++ fraction) 0 < UInt64.size

/-- A number with a fraction, up to what follows the fraction. -/
theorem number_decimal {whole fraction : List Char} (h : IsDecimal whole fraction) (negative : Bool)
    {rest : List Char} (hrest : ∀ c ∈ rest.head?, c.isDigit = false) (offset : Nat) :
    ∃ offset', number negative ⟨whole ++ '.' :: fraction ++ rest, offset⟩ =
      (match rest.head? with
        | some 'e' | some 'E' => exponentPart negative
            (Nat.ofDigitChars 10 (whole ++ fraction) 0) (0 - fraction.length)
        | _ => doubleOf negative
            (Nat.ofDigitChars 10 (whole ++ fraction) 0) (0 - fraction.length) : Reader Number)
        ⟨rest, offset'⟩ := by
  obtain ⟨hwhole, hdigits, hne, hvalue⟩ := h
  rw [Nat.ofDigitChars_append] at hvalue ⊢
  have hvalue' : Nat.ofDigitChars 10 whole 0 < UInt64.size := (le_ofDigitChars _ _).trans_lt hvalue
  refine ⟨offset + Text.byteLength whole + 1 + Text.byteLength fraction, ?_⟩
  rw [List.append_assoc, number_whole hwhole hvalue' negative (by simp)]
  exact fractionPart_eq hdigits hne hvalue negative 0 hrest _

/-- A number with a fraction and no exponent. -/
theorem exists_takes_decimal {whole fraction : List Char} (h : IsDecimal whole fraction)
    (negative : Bool) :
    ∃ x, Takes (number negative) (whole ++ '.' :: fraction) (.double x) := by
  have hfraction := List.length_pos_iff.mpr h.ne_nil
  obtain ⟨x, hx⟩ := exists_doubleOf negative (Nat.ofDigitChars 10 (whole ++ fraction) 0)
    (0 - fraction.length) (fun hsign => by omega)
  refine ⟨x, fun rest offset hrest => ?_⟩
  obtain ⟨offset', hnumber⟩ := number_decimal h negative hrest.digit offset
  refine ⟨offset', ?_⟩
  rw [hnumber]
  obtain ⟨-, -, hexponent, hcapital⟩ := hrest
  generalize rest.head? = next at hexponent hcapital ⊢
  split
  · exact absurd rfl hexponent
  · exact absurd rfl hcapital
  · exact hx _

/-! ## Both sides of the point -/

theorem toDigits_append_zeros {n : Nat} (hn : 0 < n) (k : Nat) :
    Nat.toDigits 10 n ++ List.replicate k '0' = Nat.toDigits 10 (n * 10 ^ k) := by
  induction k with
  | zero => simp
  | succ k ih =>
    have hzero : ['0'] = Nat.toDigits 10 0 := rfl
    rw [List.replicate_succ', ← List.append_assoc, ih, hzero,
      Nat.toDigits_append_toDigits (by decide) (by positivity) (by decide), Nat.add_zero, pow_succ]
    congr 1
    ring

theorem ofDigitChars_zeros (k : Nat) (ds : List Char) :
    Nat.ofDigitChars 10 (List.replicate k '0' ++ ds) 0 = Nat.ofDigitChars 10 ds 0 := by
  induction k with
  | zero => rfl
  | succ k ih => exact ih

/-- A whole number with a zero after the point. -/
theorem isDecimal_whole {n : Nat} (hn : n < 10 ^ 16) : IsDecimal (Nat.toDigits 10 n) ['0'] where
  isWhole := isWhole_toDigits n
  digit := by simp
  ne_nil := by simp
  value := by
    rw [Nat.ofDigitChars_append, Nat.ofDigitChars_ten_toDigits]
    show 10 * n + 0 < 2 ^ 64
    omega

/-- The digits of a number with a point among them. -/
theorem isDecimal_split {n p : Nat} (hn : n < UInt64.size) (hp : 0 < p) (hlt : p < digitCount n) :
    IsDecimal ((Nat.toDigits 10 n).take p) ((Nat.toDigits 10 n).drop p) where
  isWhole := by
    refine ⟨fun c hc => isDigit_of_mem_toDigits (List.mem_of_mem_take hc), ?_, ?_⟩
    · rw [ne_eq, List.take_eq_nil_iff, not_or]
      exact ⟨hp.ne', Nat.toDigits_ne_nil⟩
    · intro c cs htake
      have hsplit := List.take_append_drop p (Nat.toDigits 10 n)
      rw [htake] at hsplit
      exact toDigits_ne_zero_cons n _ _ hsplit.symm
  digit c hc := isDigit_of_mem_toDigits (List.mem_of_mem_drop hc)
  ne_nil := by
    rw [ne_eq, List.drop_eq_nil_iff]
    exact Nat.not_le.mpr hlt
  value := by rwa [List.take_append_drop, Nat.ofDigitChars_ten_toDigits]

/-- The digits of a number with a point and zeros in front of them. -/
theorem isDecimal_zeros {n : Nat} (hn : n < UInt64.size) (k : Nat) :
    IsDecimal ['0'] (List.replicate k '0' ++ Nat.toDigits 10 n) where
  isWhole := isWhole_toDigits 0
  digit c hc := by
    rcases List.mem_append.mp hc with hc | hc
    · rw [List.eq_of_mem_replicate hc]
      rfl
    · exact isDigit_of_mem_toDigits hc
  ne_nil := List.append_ne_nil_of_right_ne_nil _ Nat.toDigits_ne_nil
  value := by
    rw [← List.append_assoc]
    show Nat.ofDigitChars 10 (List.replicate (k + 1) '0' ++ Nat.toDigits 10 n) 0 < _
    rwa [ofDigitChars_zeros, Nat.ofDigitChars_ten_toDigits]

/-! ## The two notations -/

/-- The digits of a whole number are those of the decimal and as many zeros as it needs. -/
theorem toDigits_whole {d : Decimal} (hd : d.Readable) {k : Nat} (hk : d.exponent = k) :
    digitsOf d.digits ++ List.replicate k '0' = Nat.toDigits 10 (d.digits * 10 ^ k) := by
  rcases Nat.eq_zero_or_pos d.digits with hzero | hpos
  · have hk' : k = 0 := by
      have := hd.zero hzero
      omega
    rw [hk', List.replicate_zero, List.append_nil, pow_zero, Nat.mul_one]
    rfl
  · exact toDigits_append_zeros hpos k

theorem whole_lt {d : Decimal} (hsmall : d.digits = 0 ∨ d.leading < 16) {k : Nat}
    (hk : d.exponent = k) : d.digits * 10 ^ k < 10 ^ 16 := by
  rcases hsmall with hzero | hleading
  · rw [hzero, Nat.zero_mul]
    decide
  · have hdigits : d.digits < 10 ^ digitCount d.digits :=
      (RecordAudit.Number.digitCount_le_iff (RecordAudit.Number.digitCount_pos _)).mp le_rfl
    rw [Decimal.leading, hk] at hleading
    calc d.digits * 10 ^ k < 10 ^ digitCount d.digits * 10 ^ k :=
          Nat.mul_lt_mul_of_pos_right hdigits (by positivity)
      _ = 10 ^ (digitCount d.digits + k) := (pow_add _ _ _).symm
      _ ≤ 10 ^ 16 := pow_le_pow_right₀ (by decide) (by omega)

theorem exists_takes_positional {d : Decimal} (hd : d.Readable)
    (hsmall : d.digits = 0 ∨ d.leading < 16) (negative : Bool) :
    ∃ x, Takes (number negative) (RecordAudit.Number.positional d ".0").toList (.double x) := by
  have hsize : d.digits < UInt64.size := hd.digits.trans_lt (by decide)
  have hcount : (digitsOf d.digits).length = digitCount d.digits := rfl
  rw [RecordAudit.Number.positional]
  by_cases hsign : 0 ≤ d.exponent
  · obtain ⟨k, hk⟩ := Int.eq_ofNat_of_zero_le hsign
    simp only [if_pos hsign]
    rw [hk, Int.toNat_natCast, toDigits_whole hd hk, String.toList_append, String.toList_ofList]
    exact exists_takes_decimal (isDecimal_whole (whole_lt hsmall hk)) negative
  simp only [if_neg hsign, hcount]
  by_cases hpoint : 0 < (digitCount d.digits : Int) + d.exponent
  · have hlt : ((digitCount d.digits : Int) + d.exponent).toNat < digitCount d.digits := by omega
    rw [if_pos hpoint, String.toList_ofList]
    exact exists_takes_decimal (isDecimal_split hsize (by omega) hlt) negative
  · rw [if_neg hpoint, String.toList_ofList]
    exact exists_takes_decimal (isDecimal_zeros hsize _) negative

/-- An exponent is written with its sign. -/
theorem toList_power (power : Int) :
    ((if 0 ≤ power then "+" else "") ++ toString power).toList =
      exponentSign (decide (power < 0)) :: Nat.toDigits 10 power.natAbs := by
  cases power with
  | ofNat n =>
    have htext : (toString (Int.ofNat n)).toList = Nat.toDigits 10 n := Nat.toList_repr
    have hsign : 0 ≤ Int.ofNat n := Int.natCast_nonneg n
    rw [if_pos hsign, String.toList_append, htext, decide_eq_false (by omega)]
    rfl
  | negSucc n =>
    rw [if_neg (by omega), String.toList_append, toList_toString_negSucc,
      decide_eq_true (Int.negSucc_lt_zero n)]
    rfl

/-- A number that ends in an exponent. -/
theorem exists_takes_exponent {mantissa : List Char} {negative : Bool} {significand : Nat}
    {places power : Int}
    (hmantissa : ∀ rest offset, ∃ offset', number negative ⟨mantissa ++ 'e' :: rest, offset⟩ =
      exponentPart negative significand places ⟨'e' :: rest, offset'⟩)
    (hpower : power.natAbs < 2147483648)
    (hfits : 0 ≤ places + power → places + power ≤ 308 ∧ Double.isFinite
      (Float.ofNat significand * Float.ofScientific 1 false (places + power).toNat) = true) :
    ∃ x, Takes (number negative)
      (mantissa ++ 'e' :: exponentSign (decide (power < 0)) :: Nat.toDigits 10 power.natAbs)
      (.double x) := by
  obtain ⟨x, hx⟩ := exists_doubleOf negative significand _ hfits
  refine ⟨x, fun rest offset hrest => ?_⟩
  obtain ⟨offset', hnumber⟩ := hmantissa
    (exponentSign (decide (power < 0)) :: Nat.toDigits 10 power.natAbs ++ rest) offset
  obtain ⟨offset'', hexponent⟩ := exponentPart_eq hpower negative (decide (power < 0)) significand
    places hrest offset'
  have hsum : (if decide (power < 0) then places - power.natAbs else places + power.natAbs) =
      places + power := by
    simp only [decide_eq_true_eq]
    split <;> omega
  refine ⟨offset'', ?_⟩
  rw [List.append_assoc]
  refine hnumber.trans (hexponent.trans ?_)
  rw [hsum]
  exact hx _

/-- Digits with a point behind the first one, if there are more, up to an exponent.  The places
after the point make up a part of it. -/
theorem number_mantissa {n : Nat} (hn : n < UInt64.size) (negative : Bool) (rest : List Char)
    (offset : Nat) :
    ∃ offset', number negative ⟨(digitsOf n).take 1 ++
        (if digitCount n ≤ 1 then [] else '.' :: (digitsOf n).drop 1) ++ 'e' :: rest, offset⟩ =
      exponentPart negative n (1 - digitCount n) ⟨'e' :: rest, offset'⟩ := by
  have hpos := RecordAudit.Number.digitCount_pos n
  have hafter : ∀ c ∈ ('e' :: rest).head?, c.isDigit = false := by simp
  by_cases hone : digitCount n ≤ 1
  · have htake : (digitsOf n).take 1 = Nat.toDigits 10 n := List.take_of_length_le hone
    have hplaces : (1 - digitCount n : Int) = 0 := by omega
    have hwhole := number_whole (isWhole_toDigits n) (by rwa [Nat.ofDigitChars_ten_toDigits])
      negative hafter offset
    rw [Nat.ofDigitChars_ten_toDigits] at hwhole
    rw [if_pos hone, List.append_nil, htake, hplaces]
    exact ⟨_, hwhole⟩
  · have hdrop : ((digitsOf n).drop 1).length = digitCount n - 1 := List.length_drop
    have hplaces : (1 - digitCount n : Int) = 0 - ((digitsOf n).drop 1).length := by omega
    have hdecimal := number_decimal (isDecimal_split hn Nat.one_pos (by omega)) negative hafter
      offset
    rw [List.take_append_drop, Nat.ofDigitChars_ten_toDigits] at hdecimal
    rw [if_neg hone, hplaces]
    exact hdecimal

theorem exists_takes_scientific {d : Decimal} (hd : d.Readable) (negative : Bool) :
    ∃ x, Takes (number negative) (RecordAudit.Number.scientific d "+").toList (.double x) := by
  have hsize : d.digits < UInt64.size := hd.digits.trans_lt (by decide)
  have hcount : digitCount d.digits ≤ 18 :=
    (RecordAudit.Number.digitCount_le_iff (by decide)).mpr (hd.digits.trans_lt (by decide))
  have hlowest := hd.lowest
  have hhighest := hd.highest
  have hlength : (digitsOf d.digits).length = digitCount d.digits := rfl
  have hsum : (1 - digitCount d.digits : Int) + (digitCount d.digits + d.exponent - 1) =
      d.exponent := by
    omega
  rw [RecordAudit.Number.scientific]
  simp only [hlength]
  rw [String.append_assoc, String.append_assoc, String.toList_append, String.toList_append,
    String.toList_ofList, toList_power]
  refine exists_takes_exponent (number_mantissa hsize negative) (by omega) fun hsign => ?_
  rw [hsum] at hsign ⊢
  exact ⟨hhighest, hd.finite hsign⟩

/-! ## Doubles -/

/-- What is read as a number begins with a digit. -/
theorem exists_digit_of_takes {negative : Bool} {text : List Char} {n : Number}
    (h : Takes (number negative) text n) : ∃ c more, text = c :: more ∧ c.isDigit = true := by
  obtain ⟨offset', hnumber⟩ := h [] 0 endsNumber_nil
  rw [List.append_nil, number, remaining_bind] at hnumber
  cases text with
  | nil => cases hnumber
  | cons c more =>
    refine ⟨c, more, rfl, ?_⟩
    by_contra hdigit
    rw [Bool.not_eq_true] at hdigit
    simp only [List.takeWhile_cons, hdigit] at hnumber
    cases hnumber

/-- A finite double is written as a text that is read as a double, and does not begin like null. -/
theorem exists_takes_json {x : Float} (hx : Double.isFinite x = true) :
    ∃ c more y, (RecordAudit.Number.json x).toList = c :: more ∧ isGap c = false ∧ c ≠ 'n' ∧
      Takes double (c :: more) y := by
  have hreadable := RecordAudit.Number.readable_shortest hx .toEven
  rw [RecordAudit.Number.json]
  generalize RecordAudit.Number.shortest .toEven x = d at hreadable
  obtain ⟨body, hbody⟩ : ∃ body, body =
    if d.digits = 0 ∨ -5 ≤ d.leading ∧ d.leading < 16 then RecordAudit.Number.positional d ".0"
    else RecordAudit.Number.scientific d "+" := ⟨_, rfl⟩
  have hnumber (negative : Bool) : ∃ y, Takes (number negative) body.toList (.double y) := by
    rw [hbody]
    split
    · next hsmall => exact exists_takes_positional hreadable (hsmall.imp_right And.right) negative
    · exact exists_takes_scientific hreadable negative
  rw [← hbody, String.toList_append, RecordAudit.Number.signText]
  split
  · obtain ⟨y, hy⟩ := hnumber true
    exact ⟨'-', body.toList, y, rfl, rfl, by decide, (takes_scalar_minus hy).decoded rfl⟩
  · obtain ⟨y, hy⟩ := hnumber false
    obtain ⟨c, more, htext, hc⟩ := exists_digit_of_takes hy
    rw [htext] at hy ⊢
    exact ⟨c, more, y, rfl, isGap_of_isDigit hc, ne_of_isDigit hc (by decide),
      (takes_scalar_digits hc hy).decoded rfl⟩

theorem exists_takes_double {x : Float} (hx : Double.isFinite x = true) :
    ∃ y, Takes double (compact (ofFloat x)).toList y := by
  obtain ⟨c, more, y, htext, -, -, hy⟩ := exists_takes_json hx
  refine ⟨y, ?_⟩
  rw [ofFloat, compact, Number.text, if_pos hx, htext]
  exact hy

/-- A double that may be absent is read as one that may be absent.  It is there again iff it was
there and finite, as what is not finite is written like what is absent. -/
theorem exists_takes_ofOption (x : Option Float) :
    ∃ y, Takes (optional double) (compact (ofOption ofFloat x)).toList y ∧
      y.isSome = x.any Double.isFinite := by
  cases x with
  | none => exact ⟨none, takes_optional_null double, rfl⟩
  | some x =>
    rw [ofOption, ofFloat, compact, Number.text]
    by_cases hx : Double.isFinite x = true
    · obtain ⟨c, more, y, htext, hgap, hnull, hy⟩ := exists_takes_json hx
      rw [if_pos hx, htext]
      exact ⟨some y, takes_optional hgap hnull hy, hx.symm⟩
    · rw [if_neg hx]
      exact ⟨none, takes_optional_null double, by simpa using hx⟩

end RecordAudit.Json.Reader
