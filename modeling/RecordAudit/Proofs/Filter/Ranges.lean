import RecordAudit.Filter.RecordFilter
import RecordAudit.Proofs.Constraint.Range
import RecordAudit.Proofs.Number.Reading

/-!
# Filters on ranges of numbers

The operands of such a filter are read two by two as doubles (`new_between_eq_ok`), and a
value passes iff it is a number in one of the ranges between them
(`matchesValue_between_iff`).

* Between the same bounds a range constraint passes what the filter passes, null apart.
* Bounds that are written as integers have been rounded to doubles before a value is
  compared with them, so the filter is exact as long as they are doubles.
-/

namespace RecordAudit.RecordFilter

open Double (StandsFor nearestInt)

/-- The operands that are some texts two by two. -/
def operandsOf (texts : List (String × String)) : List String :=
  texts.flatMap fun t => [t.1, t.2]

/-- Two operands that are read as two bounds. -/
def ReadAs {α : Type} (read : String → Option α) (texts : String × String) (bounds : α × α) :
    Prop :=
  read (Text.trimmed texts.1) = some bounds.1 ∧ read (Text.trimmed texts.2) = some bounds.2

variable {field : String} {texts : List (String × String)} {ranges : List (Float × Float)}

theorem inPairs?_operandsOf (texts : List (String × String)) :
    inPairs? (operandsOf texts) = some texts := by
  induction texts with
  | nil => rfl
  | cons t rest ih =>
    show (inPairs? (operandsOf rest)).map ((t.1, t.2) :: ·) = _
    rw [ih]
    rfl

theorem pairs_operandsOf (field : String) (c : Comparison) (hne : texts ≠ []) :
    pairs field c (operandsOf texts) = .ok texts := by
  rw [pairs, inPairs?_operandsOf]
  cases texts with
  | nil => exact absurd rfl hne
  | cons t rest => rfl

theorem numberBound_eq_ok {bound : String} {x : Float}
    (hread : Number.double? (Text.trimmed bound) = some x) (hx : Double.isNaN x = false) :
    numberBound field bound = .ok x := by
  simp [numberBound, hread, hx]

theorem readRanges_numberBound (hread : List.Forall₂ (ReadAs Number.double?) texts ranges)
    (hnum : ∀ r ∈ ranges, Double.isNaN r.1 = false ∧ Double.isNaN r.2 = false) :
    readRanges (numberBound field) texts = .ok ranges := by
  induction hread with
  | nil => rfl
  | cons hfirst _ ih =>
    obtain ⟨hnums, hrest⟩ := List.forall_mem_cons.mp hnum
    rw [readRanges, numberBound_eq_ok hfirst.1 hnums.1, numberBound_eq_ok hfirst.2 hnums.2,
      ih hrest]
    rfl

/-- Operands that are numbers two by two make a filter. -/
theorem new_between_eq_ok (hne : texts ≠ [])
    (hread : List.Forall₂ (ReadAs Number.double?) texts ranges)
    (hnum : ∀ r ∈ ranges, Double.isNaN r.1 = false ∧ Double.isNaN r.2 = false) :
    new field .between (operandsOf texts) = .ok ⟨field, .between ranges⟩ := by
  rw [new, conditionOf, pairs_operandsOf field .between hne]
  show (readRanges (numberBound field) texts >>= _) >>= _ = _
  rw [readRanges_numberBound hread hnum]
  rfl

/-- A value passes iff it is a number in one of the ranges. -/
theorem matchesValue_between_iff
    (hnum : ∀ r ∈ ranges, Double.isNaN r.1 = false ∧ Double.isNaN r.2 = false) (v : FieldValue) :
    matchesValue ⟨field, .between ranges⟩ v = true ↔ ∃ q, v.number? = some q ∧
      ∃ r ∈ ranges, Double.extended r.1 ≤ q ∧ q ≤ Double.extended r.2 := by
  have hrange : ∀ r ∈ ranges, Condition.inRange v r = true ↔
      ∃ q, v.number? = some q ∧ Double.extended r.1 ≤ q ∧ q ≤ Double.extended r.2 := by
    intro r hr
    obtain ⟨hleast, hgreatest⟩ := hnum r hr
    rw [Condition.inRange, Bool.and_eq_true, v.atLeast_iff hleast, v.atMost_iff hgreatest]
    cases v.number? with
    | none => simp
    | some q => simp
  have hholds : matchesValue ⟨field, .between ranges⟩ v =
      (!v.isNull && ranges.any (Condition.inRange v)) := rfl
  rw [hholds, Bool.and_eq_true, List.any_eq_true]
  constructor
  · rintro ⟨-, r, hr, hin⟩
    obtain ⟨q, hq, hbounds⟩ := (hrange r hr).mp hin
    exact ⟨q, hq, r, hr, hbounds⟩
  · rintro ⟨q, hq, r, hr, hbounds⟩
    refine ⟨?_, r, hr, (hrange r hr).mpr ⟨q, hq, hbounds⟩⟩
    rw [FieldValue.isNull_of_number?_eq_some hq, Bool.not_false]

/-! ## Against constraints -/

/-- A filter on ranges passes the values that are not null and pass one of the constraints between
the same bounds. -/
theorem matchesValue_between_iff_check (hne : texts ≠ [])
    (hread : List.Forall₂ (ReadAs Number.double?) texts ranges)
    (hle : ∀ r ∈ ranges, Double.atMost r.1 r.2 = true) :
    ∃ f, new field .between (operandsOf texts) = .ok f ∧
      (∀ r ∈ ranges, ∃ c, FieldConstraint.between field r.1 r.2 = .ok c) ∧
        ∀ v : FieldValue, f.matchesValue v = true ↔ v.isNull = false ∧
          ∃ r ∈ ranges, ∃ c, FieldConstraint.between field r.1 r.2 = .ok c ∧ c.check v = none := by
  have hnum : ∀ r ∈ ranges, Double.isNaN r.1 = false ∧ Double.isNaN r.2 = false := fun r hr =>
    Double.isNaN_eq_false_of_atMost (hle r hr)
  have hbuilt : ∀ r ∈ ranges, ∃ c, FieldConstraint.between field r.1 r.2 = .ok c := fun r hr =>
    ⟨_, FieldConstraint.between_eq_ok_iff.mpr ⟨hle r hr, rfl⟩⟩
  refine ⟨_, new_between_eq_ok hne hread hnum, hbuilt, fun v => ?_⟩
  rw [matchesValue_between_iff hnum]
  constructor
  · rintro ⟨q, hq, r, hr, hbounds⟩
    obtain ⟨c, hbetween⟩ := hbuilt r hr
    exact ⟨FieldValue.isNull_of_number?_eq_some hq, r, hr, c, hbetween,
      (FieldConstraint.check_between_eq_none_iff hbetween v).mpr (.inr ⟨q, hq, hbounds⟩)⟩
  · rintro ⟨hpresent, r, hr, c, hbetween, hpasses⟩
    rcases (FieldConstraint.check_between_eq_none_iff hbetween v).mp hpasses with
      hnull | ⟨q, hq, hbounds⟩
    · rw [hpresent] at hnull
      cases hnull
    · exact ⟨q, hq, r, hr, hbounds⟩

/-- A closed range, and one without an end. -/
theorem matchesValue_between_iff_check_ages :
    List.Forall₂ (ReadAs Number.double?) [("0", "10"), (" 20", "inf")]
        [(0, 10), (20, Float.ofBits 0x7FF0000000000000)] ∧
      (∀ r ∈ [((0 : Float), (10 : Float)), (20, Float.ofBits 0x7FF0000000000000)],
        Double.atMost r.1 r.2 = true) ∧
      ∃ f, new "age" .between ["0", "10", " 20", "inf"] = .ok f ∧
        f.matchesValue (.integer 10) = true ∧ f.matchesValue .null = false := by
  have hread : List.Forall₂ (ReadAs Number.double?) [("0", "10"), (" 20", "inf")]
      [(0, 10), (20, Float.ofBits 0x7FF0000000000000)] :=
    .cons ⟨by decide, by decide⟩ (.cons ⟨by decide, by decide⟩ .nil)
  have hle : ∀ r ∈ [((0 : Float), (10 : Float)), (20, Float.ofBits 0x7FF0000000000000)],
      Double.atMost r.1 r.2 = true := by decide
  obtain ⟨f, hnew, -, hmatches⟩ :=
    @matchesValue_between_iff_check "age" _ _ (List.cons_ne_nil _ _) hread hle
  refine ⟨hread, hle, f, hnew,
    (hmatches _).mpr ⟨rfl, _, List.mem_cons_self, _, rfl, by decide +kernel⟩, ?_⟩
  rw [Bool.eq_false_iff, ne_eq, hmatches]
  simp [FieldValue.isNull]

/-! ## Bounds that are integers -/

/-- Bounds that are integers are read as the doubles nearest to them. -/
theorem exists_ranges_of_integers {bounds : List (Int64 × Int64)}
    (hread : List.Forall₂ (ReadAs Number.int64?) texts bounds) :
    ∃ ranges, List.Forall₂ (ReadAs Number.double?) texts ranges ∧
      (∀ r ∈ ranges, Double.isNaN r.1 = false ∧ Double.isNaN r.2 = false) ∧
        ∀ n : Int, (∃ r ∈ ranges, Double.extended r.1 ≤ .ofInt n ∧ .ofInt n ≤ Double.extended r.2) ↔
          ∃ b ∈ bounds, nearestInt b.1.toInt ≤ n ∧ n ≤ nearestInt b.2.toInt := by
  induction hread with
  | nil => exact ⟨[], .nil, by simp, by simp⟩
  | cons hfirst _ ih =>
    obtain ⟨ranges, hreads, hnum, hiff⟩ := ih
    obtain ⟨x, hx, hleast⟩ := Number.exists_double?_of_int64? hfirst.1
    obtain ⟨y, hy, hgreatest⟩ := Number.exists_double?_of_int64? hfirst.2
    refine ⟨(x, y) :: ranges, .cons ⟨hx, hy⟩ hreads,
      List.forall_mem_cons.mpr ⟨⟨hleast.isNaN, hgreatest.isNaN⟩, hnum⟩, fun n => ?_⟩
    simp only [List.mem_cons, exists_eq_or_imp, hiff, hleast.extended, hgreatest.extended,
      Extended.ofInt_le_ofInt]

/-- Bounds that are integers are rounded to doubles and then compared exactly with an integer.  So
the comparison is one of integers if the bounds are doubles themselves. -/
theorem matchesValue_between_integers {bounds : List (Int64 × Int64)} (hne : texts ≠ [])
    (hread : List.Forall₂ (ReadAs Number.int64?) texts bounds) :
    ∃ f, new field .between (operandsOf texts) = .ok f ∧
      (∀ n : Int64, f.matchesValue (.integer n) = true ↔
        ∃ b ∈ bounds, nearestInt b.1.toInt ≤ n.toInt ∧ n.toInt ≤ nearestInt b.2.toInt) ∧
      ((∀ b ∈ bounds, (∃ x, StandsFor x b.1.toInt) ∧ ∃ y, StandsFor y b.2.toInt) →
        ∀ n : Int64, f.matchesValue (.integer n) = true ↔ ∃ b ∈ bounds, b.1 ≤ n ∧ n ≤ b.2) := by
  obtain ⟨ranges, hreads, hnum, hiff⟩ := exists_ranges_of_integers hread
  have hmatches : ∀ n : Int64, matchesValue ⟨field, .between ranges⟩ (.integer n) = true ↔
      ∃ b ∈ bounds, nearestInt b.1.toInt ≤ n.toInt ∧ n.toInt ≤ nearestInt b.2.toInt := by
    intro n
    rw [matchesValue_between_iff hnum, ← hiff]
    simp [FieldValue.number?]
  refine ⟨_, new_between_eq_ok hne hreads hnum, hmatches, fun hdoubles n => ?_⟩
  rw [hmatches]
  refine exists_congr fun b => and_congr_right fun hb => ?_
  obtain ⟨⟨x, hx⟩, y, hy⟩ := hdoubles b hb
  rw [hx.nearestInt_eq, hy.nearestInt_eq, Int64.le_iff_toInt_le, Int64.le_iff_toInt_le]

/-- Up to two to the 53, which is a double. -/
theorem matchesValue_between_integers_wide :
    List.Forall₂ (ReadAs Number.int64?) [("-5", " 9007199254740992")] [(-5, 9007199254740992)] ∧
      ∃ f, new "id" .between ["-5", " 9007199254740992"] = .ok f ∧
        f.matchesValue (.integer 9007199254740992) = true ∧
          f.matchesValue (.integer 9007199254740993) = false := by
  have hread : List.Forall₂ (ReadAs Number.int64?) [("-5", " 9007199254740992")]
      [(-5, 9007199254740992)] := .cons ⟨by decide, by decide⟩ .nil
  obtain ⟨f, hnew, -, hmatches⟩ :=
    @matchesValue_between_integers "id" _ _ (List.cons_ne_nil _ _) hread
  have hdoubles : (∃ x, StandsFor x (-5)) ∧ ∃ y, StandsFor y 9007199254740992 :=
    ⟨Double.exists_standsFor_of_natAbs_le (by decide),
      Double.exists_standsFor_of_natAbs_le (by decide)⟩
  have hexact := hmatches (by simpa using hdoubles)
  refine ⟨hread, f, hnew, (hexact _).mpr ?_, ?_⟩
  · decide
  · rw [Bool.eq_false_iff, ne_eq, hexact]
    decide

/-- Beyond two to the 53 a range of one integer leaves it out and lets its neighbour in. -/
theorem exists_between_integers_shifted :
    List.Forall₂ (ReadAs Number.int64?) [("9007199254740993", "9007199254740993")]
        [(9007199254740993, 9007199254740993)] ∧
      ∃ f, new "id" .between ["9007199254740993", "9007199254740993"] = .ok f ∧
        f.matchesValue (.integer 9007199254740993) = false ∧
          f.matchesValue (.integer 9007199254740992) = true :=
  ⟨.cons ⟨by decide, by decide⟩ .nil,
    ⟨"id", .between [(9007199254740992, 9007199254740992)]⟩, by rfl, by decide, by decide⟩

end RecordAudit.RecordFilter
