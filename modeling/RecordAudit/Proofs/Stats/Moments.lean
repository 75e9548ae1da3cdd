import Mathlib.Algebra.Order.BigOperators.Group.List
import Mathlib.Algebra.Order.Ring.Rat
import Mathlib.Order.Bounds.Basic
import Mathlib.Tactic.FieldSimp
import Mathlib.Tactic.Linarith
import Mathlib.Tactic.Ring
import RecordAudit.Proofs.Number.Order
import RecordAudit.Stats.Moments

/-!
# What moments say of the numbers

Moments are built by adding numbers one by one and by merging.  This file
relates them to the list of the numbers, whichever way they were built.

* `Exact` is about rational numbers: the mean is the average of the numbers
  and the spread is the sum of their squared distances from it.
* `Extremes` is about any arithmetic that is `Ranked`: the least number is one
  of the doubles that were added, and no other has a lower rank.  The two zeros
  have one rank, so either of them may stand for both.
* `Compositional` is what both have in common.  A fact of this form holds of
  every tree of additions and merges, so that the files on tallies and on runs
  need only one induction for all of them.
-/

namespace RecordAudit

open Arithmetic

/-! ## Averages and squared distances -/

/-- The average of some numbers, and zero if there are none. -/
def average (xs : List Rat) : Rat := xs.sum / xs.length

/-- The sum of the squared distances of some numbers from their average. -/
def scatter (xs : List Rat) : Rat := (xs.map fun x => (x - average xs) ^ 2).sum

/-- This holds without numbers too, so that the proofs below need not single
out the first number. -/
theorem sum_eq_length_mul_average (xs : List Rat) : xs.sum = xs.length * average xs := by
  by_cases hnil : xs = []
  · simp [hnil]
  · have hlen : (xs.length : Rat) ≠ 0 := by simpa using hnil
    rw [average]
    field_simp

theorem average_append (xs ys : List Rat) :
    average (xs ++ ys) =
      (xs.length * average xs + ys.length * average ys) / (xs.length + ys.length) := by
  rw [average, List.sum_append, sum_eq_length_mul_average xs, sum_eq_length_mul_average ys,
    List.length_append, Nat.cast_add]

/-- The squared distances from any point, as a polynomial in that point. -/
theorem sum_sq_sub (xs : List Rat) (c : Rat) :
    (xs.map fun x => (x - c) ^ 2).sum =
      (xs.map (· ^ 2)).sum - 2 * c * xs.sum + xs.length * c ^ 2 := by
  induction xs with
  | nil => simp
  | cons x rest ih =>
    simp only [List.map_cons, List.sum_cons, ih, List.length_cons]
    push_cast
    ring

theorem scatter_eq (xs : List Rat) :
    scatter xs = (xs.map (· ^ 2)).sum - xs.length * average xs ^ 2 := by
  rw [scatter, sum_sq_sub, sum_eq_length_mul_average xs]
  ring

theorem average_perm {xs ys : List Rat} (h : xs.Perm ys) : average xs = average ys := by
  rw [average, average, h.sum_eq, h.length_eq]

theorem scatter_perm {xs ys : List Rat} (h : xs.Perm ys) : scatter xs = scatter ys := by
  rw [scatter, scatter, average_perm h]
  exact (h.map _).sum_eq

theorem scatter_nonneg (xs : List Rat) : 0 ≤ scatter xs := by
  refine List.sum_nonneg fun y hy => ?_
  obtain ⟨x, _, rfl⟩ := List.mem_map.mp hy
  exact sq_nonneg _

/-- An average lies between any two bounds of the numbers. -/
theorem average_mem_bounds {xs : List Rat} {lo hi : Rat} (hne : xs ≠ [])
    (hlo : ∀ x ∈ xs, lo ≤ x) (hhi : ∀ x ∈ xs, x ≤ hi) : lo ≤ average xs ∧ average xs ≤ hi := by
  have hpos : (0 : Rat) < xs.length := by exact_mod_cast List.length_pos_iff.mpr hne
  have hlow := xs.card_nsmul_le_sum lo hlo
  have hhigh := xs.sum_le_card_nsmul hi hhi
  rw [nsmul_eq_mul] at hlow hhigh
  rw [average, le_div_iff₀ hpos, div_le_iff₀ hpos]
  constructor <;> linarith

namespace Moments

/-- Moments of nothing are left out of a merge.  So a merge keeps any fact that
tells the count, if combining the moments does. -/
theorem merge_keeps {α β : Type} [Arithmetic α] {P : Moments α → List β → Prop}
    (hcount : ∀ {m : Moments α} {xs : List β}, P m xs → m.count = xs.length)
    {a b : Moments α} {xs ys : List β} (ha : P a xs) (hb : P b ys)
    (hcombine : xs ≠ [] → P (a.combine b) (xs ++ ys)) : P (a.merge b) (xs ++ ys) := by
  rw [Moments.merge]
  split
  · next hzero =>
    have hnil : ys = [] := List.length_eq_zero_iff.mp ((hcount hb).symm.trans hzero)
    simpa [hnil] using ha
  · split
    · next hzero =>
      have hnil : xs = [] := List.length_eq_zero_iff.mp ((hcount ha).symm.trans hzero)
      simpa [hnil] using hb
    · next hpos =>
      refine hcombine fun hnil => hpos ?_
      rw [hcount ha, hnil, List.length_nil]

/-! ## Exact moments -/

/-- Rational moments of some numbers. -/
structure Exact (m : Moments Rat) (xs : List Rat) : Prop where
  count : m.count = xs.length
  mean : m.mean = average xs
  spread : m.spread = scatter xs

theorem exact_empty : Exact .empty [] where
  count := rfl
  mean := by simp [Moments.empty, average, Arithmetic.ofNat]
  spread := by simp [Moments.empty, scatter, Arithmetic.ofNat]

namespace Exact

variable {m a b : Moments Rat} {xs ys : List Rat}

/-- One step of the running update.  The new distance from the mean is taken
once before and once after the mean moves. -/
theorem observe (h : m.Exact xs) (x : Rat) : (m.observe x).Exact (xs ++ [x]) := by
  have hcount : ((m.count + 1 : Nat) : Rat) = xs.length + 1 := by rw [h.count]; push_cast; rfl
  have hpos : (xs.length : Rat) + 1 ≠ 0 := by positivity
  have hmean : (m.observe x).mean = average xs + (x - average xs) / (xs.length + 1) := by
    rw [← h.mean, ← hcount]
    rfl
  have hspread : (m.observe x).spread =
      scatter xs + (x - average xs) * (x - (m.observe x).mean) := by
    rw [← h.mean, ← h.spread]
    rfl
  have haverage : average (xs ++ [x]) = (xs.length * average xs + x) / (xs.length + 1) := by
    rw [average_append]
    simp [average]
  refine ⟨by simp [Moments.observe, h.count], ?_, ?_⟩
  · rw [hmean, haverage]
    field_simp
    ring
  · rw [hspread, hmean, scatter_eq, scatter_eq, haverage]
    simp only [List.map_append, List.map_cons, List.map_nil, List.sum_append, List.sum_cons,
      List.sum_nil, List.length_append, List.length_singleton]
    push_cast
    field_simp
    ring

/-- The formula that joins two sets of moments. -/
theorem combine (ha : a.Exact xs) (hb : b.Exact ys) (hne : xs ≠ []) :
    (a.combine b).Exact (xs ++ ys) := by
  have hpos : (xs.length : Rat) + ys.length ≠ 0 := by
    have hlen : (0 : Rat) < xs.length := by exact_mod_cast List.length_pos_iff.mpr hne
    positivity
  have hmean : (a.combine b).mean =
      average xs + (average ys - average xs) * (ys.length / (xs.length + ys.length)) := by
    rw [← ha.mean, ← hb.mean, ← ha.count, ← hb.count]
    rfl
  have hspread : (a.combine b).spread =
      scatter xs + (scatter ys + (average ys - average xs) * (average ys - average xs) *
        (xs.length * ys.length / (xs.length + ys.length))) := by
    rw [← ha.mean, ← hb.mean, ← ha.count, ← hb.count, ← ha.spread, ← hb.spread]
    rfl
  refine ⟨by simp [Moments.combine, ha.count, hb.count], ?_, ?_⟩
  · rw [hmean, average_append]
    field_simp
    ring
  · rw [hspread, scatter_eq, scatter_eq, scatter_eq, average_append]
    simp only [List.map_append, List.sum_append, List.length_append]
    push_cast
    field_simp
    ring

theorem merge (ha : a.Exact xs) (hb : b.Exact ys) : (a.merge b).Exact (xs ++ ys) :=
  merge_keeps Exact.count ha hb (ha.combine hb)

/-! What is reported of exact moments -/

theorem mean? (h : m.Exact xs) :
    m.mean? = if xs.length = 0 then none else some (average xs) := by
  rw [Moments.mean?, h.count, h.mean]

/-- A number that is not negative is not clamped. -/
theorem clamped_of_nonneg {x : Rat} (h : 0 ≤ x) : clamped x = x := by
  by_cases hpos : 0 < x
  · simp [clamped, less, ofNat, hpos]
  · have hzero : x = 0 := le_antisymm (not_lt.mp hpos) h
    simp [clamped, less, ofNat, hzero]

theorem variance? (h : m.Exact xs) :
    m.variance? = if xs.length = 0 then none else some (scatter xs / xs.length) := by
  have hnonneg : 0 ≤ scatter xs / xs.length := div_nonneg (scatter_nonneg xs) (Nat.cast_nonneg _)
  rw [Moments.variance?, h.count, h.spread]
  exact congrArg (fun v => if xs.length = 0 then none else some v) (clamped_of_nonneg hnonneg)

theorem sampleVariance? (h : m.Exact xs) :
    m.sampleVariance? =
      if 1 < xs.length then some (scatter xs / (xs.length - 1)) else none := by
  rw [Moments.sampleVariance?, h.count, h.spread]
  split
  · next hlen =>
    have hpos : (0 : Rat) ≤ xs.length - 1 := by
      have hcast : (1 : Rat) < xs.length := by exact_mod_cast hlen
      linarith
    exact congrArg some (clamped_of_nonneg (div_nonneg (scatter_nonneg xs) hpos))
  · rfl

end Exact

end Moments

/-! ## Extremes -/

/-- An arithmetic that compares finite doubles by a rank. -/
class Ranked (α : Type) [Arithmetic α] where
  rank : Float → Rat
  less_iff {x y : Float} (hx : Double.isFinite x = true) (hy : Double.isFinite y = true) :
    less (ofDouble x : α) (ofDouble y) = true ↔ rank x < rank y

instance : Ranked Float where
  rank x := Double.key x
  less_iff hx hy := by
    refine (Double.less_iff_key_lt (Double.isNaN_eq_false_of_isFinite hx)
      (Double.isNaN_eq_false_of_isFinite hy)).trans ?_
    exact Int.cast_lt.symm

instance : Ranked Rat where
  rank := Double.toRat
  less_iff _ _ := decide_eq_true_iff

namespace Moments

variable {α : Type} [Arithmetic α]

/-- An extreme of some doubles: one that has the lowest rank, or nothing if
there are none. -/
def IsLowest (rank : Float → Rat) (xs : List Float) : Option α → Prop
  | none => xs = []
  | some a => ∃ x ∈ xs, a = ofDouble x ∧ ∀ y ∈ xs, rank x ≤ rank y

theorem eq_none_of_isLowest_nil {rank : Float → Rat} {o : Option α} (h : IsLowest rank [] o) :
    o = none := by
  cases o with
  | none => rfl
  | some a =>
    obtain ⟨x, hx, _⟩ := h
    simp at hx

/-- A choice between two finite doubles that takes one of the lower rank. -/
def ChoosesLowest (rank : Float → Rat) (choose : α → α → α) : Prop :=
  ∀ x y, Double.isFinite x = true → Double.isFinite y = true →
    (choose (ofDouble x) (ofDouble y) = ofDouble x ∧ rank x ≤ rank y) ∨
      (choose (ofDouble x) (ofDouble y) = ofDouble y ∧ rank y ≤ rank x)

theorem choosesLowest_lesser [Ranked α] :
    ChoosesLowest (Ranked.rank α) (lesser : α → α → α) := by
  intro x y hx hy
  have hless := Ranked.less_iff (α := α) hx hy
  rw [lesser]
  split
  · next hlt => exact Or.inl ⟨rfl, le_of_lt (hless.mp hlt)⟩
  · next hge => exact Or.inr ⟨rfl, not_lt.mp fun hlt => hge (hless.mpr hlt)⟩

/-- The greater of two numbers has the lower rank in the opposite order. -/
theorem choosesLowest_greater [Ranked α] :
    ChoosesLowest (fun x => -Ranked.rank α x) (greater : α → α → α) := by
  intro x y hx hy
  have hless := Ranked.less_iff (α := α) hy hx
  rw [greater]
  split
  · next hlt => exact Or.inl ⟨rfl, neg_le_neg (le_of_lt (hless.mp hlt))⟩
  · next hge => exact Or.inr ⟨rfl, neg_le_neg (not_lt.mp fun hlt => hge (hless.mpr hlt))⟩

/-- The choice between the extremes of two lists is an extreme of both. -/
theorem isLowest_pick {rank : Float → Rat} {choose : α → α → α}
    (hchoose : ChoosesLowest rank choose) {xs ys : List Float} {o p : Option α}
    (hxs : ∀ x ∈ xs, Double.isFinite x = true) (hys : ∀ y ∈ ys, Double.isFinite y = true)
    (ho : IsLowest rank xs o) (hp : IsLowest rank ys p) :
    IsLowest rank (xs ++ ys) (pick choose o p) := by
  cases o with
  | none =>
    have hnil : xs = [] := ho
    simpa [hnil, pick] using hp
  | some a =>
    cases p with
    | none =>
      have hnil : ys = [] := hp
      simpa [hnil, pick] using ho
    | some b =>
      obtain ⟨x, hx, rfl, hlowx⟩ := ho
      obtain ⟨y, hy, rfl, hlowy⟩ := hp
      simp only [pick, IsLowest, List.mem_append]
      rcases hchoose x y (hxs x hx) (hys y hy) with ⟨hc, hle⟩ | ⟨hc, hle⟩
      · refine ⟨x, Or.inl hx, hc, ?_⟩
        rintro z (hz | hz)
        · exact hlowx z hz
        · exact hle.trans (hlowy z hz)
      · refine ⟨y, Or.inr hy, hc, ?_⟩
        rintro z (hz | hz)
        · exact hle.trans (hlowx z hz)
        · exact hlowy z hz

theorem isLowest_singleton (rank : Float → Rat) (x : Float) :
    IsLowest rank [x] (some (ofDouble x : α)) :=
  ⟨x, by simp, rfl, by simp⟩

/-- To observe a number is to choose between it and what was there. -/
theorem extremes_observe (m : Moments α) (x : α) :
    (m.observe x).least = pick lesser m.least (some x) ∧
      (m.observe x).greatest = pick greater m.greatest (some x) := by
  rw [observe]
  constructor
  · cases m.least <;> rfl
  · cases m.greatest <;> rfl

/-- The count and the extremes of some doubles, all of which are finite. -/
structure Extremes [Ranked α] (m : Moments α) (xs : List Float) : Prop where
  finite : ∀ x ∈ xs, Double.isFinite x = true
  count : m.count = xs.length
  least : IsLowest (Ranked.rank α) xs m.least
  greatest : IsLowest (fun x => -Ranked.rank α x) xs m.greatest

namespace Extremes

variable [Ranked α] {m a b : Moments α} {xs ys : List Float}

theorem empty : (empty : Moments α).Extremes [] := ⟨by simp, rfl, rfl, rfl⟩

theorem observe (h : m.Extremes xs) {x : Float} (hx : Double.isFinite x = true) :
    (m.observe (ofDouble x)).Extremes (xs ++ [x]) := by
  obtain ⟨hleast, hgreatest⟩ := extremes_observe m (ofDouble x)
  have hsingle : ∀ y ∈ [x], Double.isFinite y = true := by simpa using hx
  refine ⟨List.forall_mem_append.mpr ⟨h.finite, hsingle⟩, by simp [Moments.observe, h.count],
    ?_, ?_⟩
  · rw [hleast]
    exact isLowest_pick choosesLowest_lesser h.finite hsingle h.least (isLowest_singleton _ x)
  · rw [hgreatest]
    exact isLowest_pick choosesLowest_greater h.finite hsingle h.greatest (isLowest_singleton _ x)

theorem merge (ha : a.Extremes xs) (hb : b.Extremes ys) : (a.merge b).Extremes (xs ++ ys) := by
  refine merge_keeps Extremes.count ha hb fun _ => ?_
  refine ⟨List.forall_mem_append.mpr ⟨ha.finite, hb.finite⟩,
    by simp [combine, ha.count, hb.count], ?_, ?_⟩
  · exact isLowest_pick choosesLowest_lesser ha.finite hb.finite ha.least hb.least
  · exact isLowest_pick choosesLowest_greater ha.finite hb.finite ha.greatest hb.greatest

end Extremes

/-- Among rational numbers the extremes are bounds. -/
theorem Extremes.isLeast {m : Moments Rat} {xs : List Float} (h : m.Extremes xs) (hne : xs ≠ []) :
    ∃ lo hi, m.least = some lo ∧ m.greatest = some hi ∧
      IsLeast {x | x ∈ xs.map Double.toRat} lo ∧ IsGreatest {x | x ∈ xs.map Double.toRat} hi := by
  have hleast := h.least
  have hgreatest := h.greatest
  cases hlo : m.least with
  | none => rw [hlo] at hleast; exact absurd hleast hne
  | some lo =>
    cases hhi : m.greatest with
    | none => rw [hhi] at hgreatest; exact absurd hgreatest hne
    | some hi =>
      rw [hlo] at hleast
      rw [hhi] at hgreatest
      obtain ⟨x, hx, rfl, hlow⟩ := hleast
      obtain ⟨y, hy, rfl, hhigh⟩ := hgreatest
      refine ⟨_, _, rfl, rfl, ⟨List.mem_map_of_mem hx, ?_⟩, ⟨List.mem_map_of_mem hy, ?_⟩⟩
      · intro z hz
        obtain ⟨w, hw, rfl⟩ := List.mem_map.mp hz
        exact hlow w hw
      · intro z hz
        obtain ⟨w, hw, rfl⟩ := List.mem_map.mp hz
        exact neg_le_neg_iff.mp (hhigh w hw)

/-! ## Facts that additions and merges keep -/

/-- A relation of moments to the finite doubles that were added, which holds
at the start and which an addition and a merge keep. -/
structure Compositional (I : Moments α → List Float → Prop) : Prop where
  empty : I .empty []
  observe {m : Moments α} {xs : List Float} {x : Float} (h : I m xs)
    (hx : Double.isFinite x = true) : I (m.observe (ofDouble x)) (xs ++ [x])
  merge {a b : Moments α} {xs ys : List Float} (ha : I a xs) (hb : I b ys) :
    I (a.merge b) (xs ++ ys)

theorem compositional_extremes [Ranked α] : Compositional (Extremes (α := α)) where
  empty := Extremes.empty
  observe h hx := h.observe hx
  merge ha hb := ha.merge hb

/-- The rational moments of doubles are exact, and so are their extremes. -/
theorem compositional_exact : Compositional fun (m : Moments Rat) xs =>
    m.Exact (xs.map Double.toRat) ∧ m.Extremes xs where
  empty := ⟨exact_empty, Extremes.empty⟩
  observe h hx := ⟨by rw [List.map_append]; exact h.1.observe _, h.2.observe hx⟩
  merge ha hb := ⟨by rw [List.map_append]; exact ha.1.merge hb.1, ha.2.merge hb.2⟩

end Moments

end RecordAudit
