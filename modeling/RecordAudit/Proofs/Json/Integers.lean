import Mathlib.Tactic.IntervalCases
import RecordAudit.Json.Document

/-!
# Integers in JSON

An integer that fits 64 bits, with a sign or without one, is read from its
decimal digits without loss (`parse_toString`).

* `head?_toDigits` and `accumulate_eq` are about the digits: none of them is a
  zero in front, and 64 bits hold what they stand for.
* `number_whole` reads the digits of a number that may go on, and `number_eq` a
  natural number that does not.
-/

namespace RecordAudit.Json

/-! ## Digits -/

theorem head?_toDigits {n : Nat} (hn : 0 < n) : (Nat.toDigits 10 n).head? ≠ some '0' := by
  induction n using Nat.strong_induction_on with
  | _ n ih =>
    by_cases hlt : n < 10
    · rw [Nat.toDigits_of_lt_base hlt, List.head?_cons]
      interval_cases n <;> decide
    · have hsplit : Nat.toDigits 10 n = Nat.toDigits 10 (n / 10) ++ Nat.toDigits 10 (n % 10) := by
        rw [Nat.toDigits_append_toDigits (by decide) (by omega) (by omega), Nat.div_add_mod]
      obtain ⟨c, cs, hcons⟩ := List.exists_cons_of_ne_nil (@Nat.toDigits_ne_nil (n / 10) 10)
      have hhead := ih (n / 10) (by omega) (by omega)
      rw [hcons] at hhead
      rw [hsplit, hcons]
      exact hhead

/-- No zero stands in front of other digits. -/
theorem toDigits_ne_zero_cons (n : Nat) (c : Char) (cs : List Char) :
    Nat.toDigits 10 n ≠ '0' :: c :: cs := by
  intro h
  rcases Nat.eq_zero_or_pos n with rfl | hn
  · simp at h
  · have hhead := head?_toDigits hn
    rw [h] at hhead
    exact hhead rfl

theorem isDigit_of_mem_toDigits {n : Nat} {c : Char} (h : c ∈ Nat.toDigits 10 n) :
    c.isDigit = true :=
  Nat.isDigit_of_mem_toDigits (by decide) (by decide) h

theorem toList_toString_negSucc (n : Nat) :
    (toString (Int.negSucc n)).toList = '-' :: Nat.toDigits 10 (n + 1) := by
  show ("-" ++ (n + 1).repr).toList = _
  rw [String.toList_append, Nat.toList_repr]
  rfl

namespace Reader

/-- More digits do not make a number smaller. -/
theorem le_ofDigitChars (digits : List Char) (n : Nat) : n ≤ Nat.ofDigitChars 10 digits n := by
  induction digits generalizing n with
  | nil => exact Nat.le_refl n
  | cons c rest ih =>
    have hrest := ih (10 * n + (c.toNat - '0'.toNat))
    show n ≤ Nat.ofDigitChars 10 rest (10 * n + (c.toNat - '0'.toNat))
    omega

/-- No digit is left over if 64 bits hold all of them. -/
theorem accumulate_eq {digits : List Char} {n : Nat}
    (h : Nat.ofDigitChars 10 digits n < UInt64.size) :
    accumulate n digits = (Nat.ofDigitChars 10 digits n, []) := by
  induction digits generalizing n with
  | nil => rfl
  | cons c rest ih =>
    have hrest : Nat.ofDigitChars 10 (c :: rest) n =
      Nat.ofDigitChars 10 rest (10 * n + (c.toNat - '0'.toNat)) := rfl
    rw [hrest] at h ⊢
    have hle := le_ofDigitChars rest (10 * n + (c.toNat - '0'.toNat))
    rw [accumulate, if_pos (hle.trans_lt h), ih h]

/-! ## Numbers -/

/-- What may follow an integer without being part of the number. -/
structure EndsNumber (rest : List Char) : Prop where
  digit : ∀ c ∈ rest.head?, c.isDigit = false
  point : rest.head? ≠ some '.'
  exponent : rest.head? ≠ some 'e'
  capital : rest.head? ≠ some 'E'

theorem bind_ok {β γ : Type} {p : Reader β} {b : β} {c d : Cursor} (h : p c = (.ok b, d))
    (f : β → Reader γ) : (p >>= f) c = f b d := by
  show StateT.bind p (ExceptT.bindCont f) c = _
  rw [StateT.bind, h]
  rfl

theorem remaining_bind {β : Type} (f : List Char → Reader β) (c : Cursor) :
    (remaining >>= f) c = f c.rest c := rfl

theorem peek_bind {β : Type} (f : Option Char → Reader β) (c : Cursor) :
    (peek >>= f) c = f c.rest.head? c := rfl

theorem return_bind {β γ : Type} (b : β) (f : β → Reader γ) (c : Cursor) :
    ((return b) >>= f) c = f b c := rfl

theorem skip_bind {β : Type} (count : Nat) (f : Unit → Reader β) (c : Cursor) :
    (skip count >>= f) c =
      f () ⟨c.rest.drop count, c.offset + Text.byteLength (c.rest.take count)⟩ := rfl

/-- Digits before the point of a number: there is at least one, and no zero in front of others. -/
structure IsWhole (ds : List Char) : Prop where
  digit : ∀ c ∈ ds, c.isDigit = true
  ne_nil : ds ≠ []
  no_zero : ∀ c cs, ds ≠ '0' :: c :: cs

theorem isWhole_toDigits (n : Nat) : IsWhole (Nat.toDigits 10 n) where
  digit _ := isDigit_of_mem_toDigits
  ne_nil := Nat.toDigits_ne_nil
  no_zero := toDigits_ne_zero_cons n

theorem takeWhile_digits {ds : List Char} (hds : ∀ c ∈ ds, c.isDigit = true) {rest : List Char}
    (hrest : ∀ c ∈ rest.head?, c.isDigit = false) :
    (ds ++ rest).takeWhile Char.isDigit = ds := by
  rw [List.takeWhile_append_of_pos hds]
  cases rest with
  | nil => simp
  | cons c rest => simp [hrest c rfl]

/-- A number goes on after its digits as what follows says. -/
theorem number_whole {whole : List Char} (hwhole : IsWhole whole)
    (hvalue : Nat.ofDigitChars 10 whole 0 < UInt64.size) (negative : Bool) {rest : List Char}
    (hrest : ∀ c ∈ rest.head?, c.isDigit = false) (offset : Nat) :
    number negative ⟨whole ++ rest, offset⟩ =
      (match rest.head? with
        | some '.' => fractionPart negative (Nat.ofDigitChars 10 whole 0) 0
        | some 'e' | some 'E' => exponentPart negative (Nat.ofDigitChars 10 whole 0) 0
        | _ => return integerOf negative (Nat.ofDigitChars 10 whole 0) : Reader Number)
        ⟨rest, offset + Text.byteLength whole⟩ := by
  obtain ⟨hdigits, hne, hzero⟩ := hwhole
  rw [number, remaining_bind]
  simp only [takeWhile_digits hdigits hrest, accumulate_eq hvalue, List.isEmpty_nil, if_true]
  rw [skip_bind, peek_bind]
  simp only [List.drop_left, List.take_left]
  rfl

theorem number_eq {n : Nat} (hn : n < UInt64.size) (negative : Bool) {rest : List Char}
    (hrest : EndsNumber rest) (offset : Nat) :
    number negative ⟨Nat.toDigits 10 n ++ rest, offset⟩ =
      (.ok (integerOf negative n),
        ⟨rest, offset + Text.byteLength (Nat.toDigits 10 n)⟩) := by
  obtain ⟨hdigit, hpoint, hexponent, hcapital⟩ := hrest
  rw [number_whole (isWhole_toDigits n) (by rwa [Nat.ofDigitChars_ten_toDigits]) negative hdigit,
    Nat.ofDigitChars_ten_toDigits]
  -- What follows is none of the characters that would go on with the number.
  generalize rest.head? = next at hpoint hexponent hcapital ⊢
  split
  · exact absurd rfl hpoint
  · exact absurd rfl hexponent
  · exact absurd rfl hcapital
  · rfl

/-! ## Values -/

theorem next_bind {β : Type} {c : Char} (hc : isGap c = false) (f : Option Char → Reader β)
    (rest : List Char) (offset : Nat) :
    (next >>= f) ⟨c :: rest, offset⟩ = f (some c) ⟨c :: rest, offset⟩ := by
  show f _ ⟨(c :: rest).drop ((c :: rest).takeWhile isGap).length,
    offset + Text.byteLength ((c :: rest).take ((c :: rest).takeWhile isGap).length)⟩ = _
  simp [hc, Text.byteLength]

theorem ne_of_isDigit {c d : Char} (hc : c.isDigit = true) (hd : d.isDigit = false) : c ≠ d := by
  rintro rfl
  rw [hc] at hd
  cases hd

theorem isGap_of_isDigit {c : Char} (hc : c.isDigit = true) : isGap c = false := by
  simp [isGap, ne_of_isDigit hc (d := ' ') (by decide), ne_of_isDigit hc (d := '\n') (by decide),
    ne_of_isDigit hc (d := '\t') (by decide), ne_of_isDigit hc (d := '\r') (by decide)]

/-- A value that begins with a digit is a number. -/
theorem valueOver_digit {c : Char} (hc : c.isDigit = true) (inner : Option (Reader Value))
    (rest : List Char) (offset : Nat) :
    valueOver inner ⟨c :: rest, offset⟩ =
      (do return .number (← number false) : Reader Value) ⟨c :: rest, offset⟩ := by
  -- The branches of a value are told apart by these characters.
  have hnull : c ≠ 'n' := ne_of_isDigit hc (by decide)
  have htrue : c ≠ 't' := ne_of_isDigit hc (by decide)
  have hfalse : c ≠ 'f' := ne_of_isDigit hc (by decide)
  have hminus : c ≠ '-' := ne_of_isDigit hc (by decide)
  have hquote : c ≠ '"' := ne_of_isDigit hc (by decide)
  have hbracket : c ≠ '[' := ne_of_isDigit hc (by decide)
  have hbrace : c ≠ '{' := ne_of_isDigit hc (by decide)
  rw [valueOver.eq_def, next_bind (isGap_of_isDigit hc)]
  simp only [hc, if_true]

theorem valueOver_minus (inner : Option (Reader Value)) (rest : List Char) (offset : Nat) :
    valueOver inner ⟨'-' :: rest, offset⟩ =
      (do return .number (← number true) : Reader Value) ⟨rest, offset + 1⟩ := by
  rw [valueOver.eq_def, next_bind (by decide)]
  rfl

end Reader

/-- The number of an integer. -/
def Number.ofInt (n : Int) : Number := if 0 ≤ n then .natural n.toNat else .negative n

namespace Reader

theorem value_eq {n : Int} (hlow : -2 ^ 63 ≤ n) (hhigh : n < 2 ^ 64) (levels : Nat)
    {rest : List Char} (hrest : EndsNumber rest) (offset : Nat) :
    value levels ⟨(toString n).toList ++ rest, offset⟩ =
      (.ok (.number (Number.ofInt n)),
        ⟨rest, offset + Text.byteLength (toString n).toList⟩) := by
  obtain ⟨inner, hinner⟩ : ∃ inner, value levels = valueOver inner := by
    cases levels with
    | zero => exact ⟨none, rfl⟩
    | succ levels => exact ⟨some (value levels), rfl⟩
  rw [hinner]
  cases n with
  | ofNat n =>
    have htext : (toString (Int.ofNat n)).toList = Nat.toDigits 10 n := Nat.toList_repr
    have hsize : n < 2 ^ 64 := by
      rw [Int.ofNat_eq_natCast] at hhigh
      omega
    obtain ⟨c, cs, hcons⟩ := List.exists_cons_of_ne_nil (@Nat.toDigits_ne_nil n 10)
    have hc : c.isDigit = true := isDigit_of_mem_toDigits (n := n) (by simp [hcons])
    have hvalue := valueOver_digit hc inner (cs ++ rest) offset
    rw [← List.cons_append, ← hcons] at hvalue
    have hofInt : Number.ofInt (Int.ofNat n) = integerOf false n := if_pos (Int.natCast_nonneg n)
    rw [htext, hvalue, hofInt]
    exact bind_ok (number_eq hsize false hrest offset) _
  | negSucc n =>
    have htext := toList_toString_negSucc n
    have hsize : n + 1 < 2 ^ 64 := by omega
    have hofInt : Number.ofInt (Int.negSucc n) = integerOf true (n + 1) := by
      have hlarge : ¬(n + 1 = 0 ∨ 9223372036854775808 < n + 1) := by omega
      rw [integerOf, if_neg (by simp), if_neg hlarge]
      exact if_neg (by omega)
    have hbytes : offset + Text.byteLength ('-' :: Nat.toDigits 10 (n + 1)) =
        offset + 1 + Text.byteLength (Nat.toDigits 10 (n + 1)) := by
      rw [Text.byteLength, ← Nat.add_assoc]
      rfl
    rw [htext, List.cons_append, valueOver_minus, hofInt, hbytes]
    exact bind_ok (number_eq hsize true hrest (offset + 1)) _

/-! ## Texts -/

theorem settle_ok {β : Type} {r : Reader β} {b : β} {c d : Cursor} (h : r c = (.ok b, d)) :
    settle r c = (.ok b, d) := by
  simp only [settle, tryCatch, tryCatchThe, MonadExceptOf.tryCatch, ExceptT.tryCatch, ExceptT.mk,
    bind, StateT.bind, h]
  rfl

/-- A reader that comes to the end of a text has read it. -/
theorem run_ok {β : Type} {r : Reader β} {b : β} {text : String} {offset : Nat}
    (h : r ⟨text.toList, 0⟩ = (.ok b, ⟨[], offset⟩)) : r.run text = .ok b := by
  have hwhole : (do let b ← settle r; finish; return b : Reader β) ⟨text.toList, 0⟩ =
      (.ok b, ⟨[], offset⟩) := bind_ok (settle_ok h) _
  rw [run]
  simp only [hwhole]

end Reader

/-- An integer that fits 64 bits is read from its digits. -/
theorem parse_toString {n : Int} (hlow : -2 ^ 63 ≤ n) (hhigh : n < 2 ^ 64) :
    parse (toString n) = .ok (.number (Number.ofInt n)) := by
  have hends : Reader.EndsNumber [] := ⟨by simp, by simp, by simp, by simp⟩
  have hvalue := Reader.value_eq hlow hhigh maxDepth hends 0
  rw [List.append_nil] at hvalue
  exact Reader.run_ok hvalue

end RecordAudit.Json
