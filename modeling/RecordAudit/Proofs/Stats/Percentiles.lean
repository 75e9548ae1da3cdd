import Mathlib.Data.List.Forall2
import RecordAudit.Proofs.Number.Rational
import RecordAudit.Proofs.Stats.Accumulator

/-!
# What percentiles guarantee

A percentile is the value at a rank of the values that a sketch keeps.  Among
the values themselves it is told by counting: fewer than so many are below it,
and at least as many are not above it.

* `HasRank` is that description.  A value of a sorted list has the rank of its
  place (`hasRank_getElem`), and the description leaves no choice but between
  zeros of two signs (`HasRank.key_eq`).  It does not depend on an order of the
  values, so neither do exact percentiles.
* `rank_eq` and `rank_le_rank` say what is known of the rank of a quantile.  It
  is found through a product of doubles, of which no more is assumed than that
  it does not descend where the quantile ascends (`ProductsAscend`).
* `Accumulator.Grown` is any tree of observations and merges into an
  accumulator, whose settings are therefore known.
* `Tally.HasSeen.percentilesOf` puts this together for one tally, and
  `Accumulator.finalize_percentiles` says it of what is reported.
-/

namespace RecordAudit

open Double (key isNaN less atMost isFraction)

namespace Sketch

/-! ## Ranks -/

/-- A value that stands at a rank of some values: fewer than so many are below
it, and at least as many are not above it. -/
def HasRank (r : Nat) (xs : List Float) (v : Float) : Prop :=
  xs.countP (less · v) < r ∧ r ≤ xs.countP (atMost · v)

theorem HasRank.perm {r : Nat} {xs ys : List Float} {v : Float} (h : HasRank r xs v)
    (hperm : xs.Perm ys) : HasRank r ys v := by
  rw [HasRank, ← hperm.countP_eq, ← hperm.countP_eq]
  exact h

/-- Among numbers a rank determines the value up to the sign of zero. -/
theorem HasRank.key_eq {r : Nat} {xs : List Float} {v w : Float}
    (hnum : ∀ x ∈ xs, isNaN x = false) (hv : HasRank r xs v) (hw : HasRank r xs w)
    (hvnum : isNaN v = false) (hwnum : isNaN w = false) : key v = key w := by
  -- Whatever is not above the lesser of two values is below the other.
  have hle : ∀ {a b : Float}, HasRank r xs a → HasRank r xs b → isNaN a = false →
      isNaN b = false → key b ≤ key a := by
    intro a b ha hb hanum hbnum
    by_contra hlt
    have hbelow : xs.countP (atMost · a) ≤ xs.countP (less · b) := by
      refine List.countP_mono_left fun x hx hxa => ?_
      rw [Double.atMost_iff_key_le (hnum x hx) hanum] at hxa
      rw [Double.less_iff_key_lt (hnum x hx) hbnum]
      omega
    have := ha.2
    have := hb.1
    omega
  exact le_antisymm (hle hw hv hwnum hvnum) (hle hv hw hvnum hwnum)

/-- Where values ascend, each has the rank of its place. -/
theorem hasRank_getElem {ys : List Float} (hnum : ∀ y ∈ ys, isNaN y = false)
    (hsorted : ys.Pairwise (key · ≤ key ·)) {i : Nat} (hi : i < ys.length) :
    HasRank (i + 1) ys ys[i] := by
  have hvnum := hnum ys[i] (List.getElem_mem hi)
  have hle : ∀ {j k : Nat} (hj : j < ys.length) (hk : k < ys.length), j ≤ k →
      key ys[j] ≤ key ys[k] := by
    intro j k hj hk hjk
    rcases Nat.eq_or_lt_of_le hjk with rfl | hlt
    · exact le_refl _
    · exact List.pairwise_iff_getElem.mp hsorted j k hj hk hlt
  constructor
  -- All from the place on are not below.
  · have hdrop : (ys.drop i).countP (less · ys[i]) = 0 := by
      rw [List.countP_eq_zero]
      intro y hy
      obtain ⟨j, hj, rfl⟩ := List.mem_iff_getElem.mp hy
      rw [List.getElem_drop, Double.less_iff_key_lt (hnum _ (List.getElem_mem _)) hvnum]
      exact not_lt.mpr (hle hi _ (Nat.le_add_right i j))
    have htake : (ys.take i).countP (less · ys[i]) ≤ (ys.take i).length := List.countP_le_length
    have hsplit : ys.countP (less · ys[i]) =
        (ys.take i).countP (less · ys[i]) + (ys.drop i).countP (less · ys[i]) := by
      rw [← List.countP_append, List.take_append_drop]
    rw [List.length_take] at htake
    omega
  -- All up to the place are not above.
  · have htake : (ys.take (i + 1)).countP (atMost · ys[i]) = (ys.take (i + 1)).length := by
      rw [List.countP_eq_length]
      intro y hy
      obtain ⟨j, hj, rfl⟩ := List.mem_iff_getElem.mp hy
      rw [List.length_take] at hj
      rw [List.getElem_take, Double.atMost_iff_key_le (hnum _ (List.getElem_mem _)) hvnum]
      exact hle _ hi (by omega)
    have hsub := (List.take_sublist (i + 1) ys).countP_le (p := (atMost · ys[i]))
    rw [htake, List.length_take] at hsub
    omega

/-! ## The rank of a quantile -/

/-- The rank is the ceiling of the product, kept within the count.  The ceiling
is that of the number that the product stands for. -/
theorem rank_eq (q : Float) (count : Nat) :
    rank q count = max 1 (min count ⌈Double.toRat (q * Float.ofNat count)⌉.toNat) := by
  rw [rank, Double.ceiling_eq_ceil]

theorem rank_pos (q : Float) (count : Nat) : 0 < rank q count := by
  rw [rank]
  omega

theorem rank_le {count : Nat} (q : Float) (h : 0 < count) : rank q count ≤ count := by
  rw [rank]
  omega

/-- Greater products have greater ranks. -/
theorem rank_le_rank {q q' : Float} {count : Nat}
    (h : atMost (q * Float.ofNat count) (q' * Float.ofNat count) = true) :
    rank q count ≤ rank q' count := by
  obtain ⟨hnum, hnum'⟩ := Double.isNaN_eq_false_of_atMost h
  have hceiling := Double.ceiling_le_of_key_le ((Double.atMost_iff_key_le hnum hnum').mp h)
  have hle := Int.toNat_le_toNat hceiling
  rw [rank, rank]
  omega

/-! ## Values in ascending order -/

theorem ascending_perm (xs : List Float) : (ascending xs).Perm xs := List.mergeSort_perm xs _

/-- Numbers are sorted by their keys. -/
theorem pairwise_ascending {xs : List Float} (hnum : ∀ x ∈ xs, isNaN x = false) :
    (ascending xs).Pairwise (key · ≤ key ·) := by
  have hsame : ascending xs = xs.mergeSort fun a b => decide (key a ≤ key b) := by
    have hmap := List.map_mergeSort (r := fun a b => !less b a)
      (s := fun a b => decide (key a ≤ key b)) (f := id) (l := xs) ?_
    · simpa [ascending] using hmap
    · intro a ha b hb
      have hless := Double.less_iff_key_lt (hnum b hb) (hnum a ha)
      rw [Bool.eq_iff_iff, Bool.not_eq_true', ← Bool.not_eq_true, hless, decide_eq_true_iff]
      exact not_lt
  have hsorted : (xs.mergeSort fun a b => decide (key a ≤ key b)).Pairwise
      fun a b => decide (key a ≤ key b) = true := by
    apply List.pairwise_mergeSort
    · intro a b c hab hbc
      simp only [decide_eq_true_eq] at hab hbc ⊢
      exact hab.trans hbc
    · intro a b
      simp only [Bool.or_eq_true, decide_eq_true_eq]
      exact le_total _ _
  rw [hsame]
  exact hsorted.imp fun h => of_decide_eq_true h

/-- The value at a quantile of some values. -/
def valueAt (xs : List Float) (q : Float) : Float := atRank (ascending xs) q

variable {xs : List Float}

theorem valueAt_eq_getElem (hne : xs ≠ []) (q : Float) :
    ∃ h : rank q xs.length - 1 < (ascending xs).length,
      valueAt xs q = (ascending xs)[rank q xs.length - 1] := by
  have hlen := (ascending_perm xs).length_eq
  have hpos := List.length_pos_iff.mpr hne
  have hle := rank_le q hpos
  have hrank := rank_pos q xs.length
  have hi : rank q xs.length - 1 < (ascending xs).length := by omega
  refine ⟨hi, ?_⟩
  rw [valueAt, atRank, hlen, List.getD_eq_getElem?_getD, List.getElem?_eq_getElem hi,
    Option.getD_some]

theorem valueAt_mem (hne : xs ≠ []) (q : Float) : valueAt xs q ∈ xs := by
  obtain ⟨h, hvalue⟩ := valueAt_eq_getElem hne q
  rw [hvalue]
  exact (ascending_perm xs).mem_iff.mp (List.getElem_mem h)

/-- The value at a quantile has its rank. -/
theorem hasRank_valueAt (hnum : ∀ x ∈ xs, isNaN x = false) (hne : xs ≠ []) (q : Float) :
    HasRank (rank q xs.length) xs (valueAt xs q) := by
  have hperm := ascending_perm xs
  have hnum' : ∀ y ∈ ascending xs, isNaN y = false := fun y hy => hnum y (hperm.mem_iff.mp hy)
  obtain ⟨h, hvalue⟩ := valueAt_eq_getElem hne q
  have hrank := hasRank_getElem hnum' (pairwise_ascending hnum) h
  rw [Nat.sub_add_cancel (rank_pos q xs.length)] at hrank
  rw [hvalue]
  exact hrank.perm hperm

theorem valueAt_le_valueAt (hnum : ∀ x ∈ xs, isNaN x = false) (hne : xs ≠ []) {q q' : Float}
    (h : rank q xs.length ≤ rank q' xs.length) : key (valueAt xs q) ≤ key (valueAt xs q') := by
  obtain ⟨hi, hvalue⟩ := valueAt_eq_getElem hne q
  obtain ⟨hj, hvalue'⟩ := valueAt_eq_getElem hne q'
  rw [hvalue, hvalue']
  rcases Nat.eq_or_lt_of_le h with heq | hlt
  · simp only [heq, le_refl]
  · have hpos := rank_pos q xs.length
    exact List.pairwise_iff_getElem.mp (pairwise_ascending hnum) _ _ hi hj (by omega)

/-- A sketch that keeps something gives a value for every fraction. -/
theorem quantiles_eq {γ : Type} {s : Sketch γ} {qs : List Float} (hne : s.samples.toList ≠ [])
    (hfractions : ∀ q ∈ qs, isFraction q = true) :
    s.quantiles qs = .ok (qs.map (valueAt s.samples.toList)) := by
  have hempty : ¬s.samples.isEmpty = true := by simpa using hne
  have hnone : qs.find? (fun q => !isFraction q) = none := by simpa using hfractions
  rw [quantiles, if_neg hempty, hnone]
  rfl

end Sketch

/-! ## The percentiles of a column -/

/-- The products of quantiles and a count do not descend where the quantiles
ascend. -/
def ProductsAscend (qs : List Float) (count : Nat) : Prop :=
  ∀ q ∈ qs, ∀ q' ∈ qs, atMost q q' = true →
    atMost (q * Float.ofNat count) (q' * Float.ofNat count) = true

/-- What the percentiles of a column tell of its values. -/
structure ColumnStats.PercentilesOf (options : SketchOptions) (xs : List Float)
    (s : ColumnStats Float) : Prop where
  /-- One entry for each quantile that was asked for, in the same order. -/
  quantiles : s.percentiles.map (·.quantile) = options.percentiles
  observed : ∀ p ∈ s.percentiles, p.value ∈ xs
  bounds : ∃ lo hi, s.least = some lo ∧ s.greatest = some hi ∧
    ∀ p ∈ s.percentiles, atMost lo p.value = true ∧ atMost p.value hi = true
  ascending : ProductsAscend options.percentiles (min xs.length options.capacity) →
    ∀ p ∈ s.percentiles, ∀ p' ∈ s.percentiles, atMost p.quantile p'.quantile = true →
      atMost p.value p'.value = true
  exact : s.exact = true ↔ xs.length ≤ options.capacity
  /-- The rank is the ceiling of the product, which is not rounded any further,
  within one and the number of the values. -/
  nearest : s.exact = true → ∀ p ∈ s.percentiles,
    Sketch.HasRank
      (max 1 (min xs.length ⌈Double.toRat (p.quantile * Float.ofNat xs.length)⌉.toNat))
      xs p.value

namespace Moments.Extremes

variable {m : Moments Float} {xs : List Float}

theorem isNaN_eq_false (h : m.Extremes xs) : ∀ x ∈ xs, isNaN x = false := fun x hx =>
  Double.isNaN_eq_false_of_isFinite (h.finite x hx)

/-- Among doubles the extremes are bounds. -/
theorem bounds (h : m.Extremes xs) (hne : xs ≠ []) :
    ∃ lo hi, m.least = some lo ∧ m.greatest = some hi ∧
      ∀ x ∈ xs, atMost lo x = true ∧ atMost x hi = true := by
  have hnum := h.isNaN_eq_false
  have hleast := h.least
  have hgreatest := h.greatest
  cases hlo : m.least with
  | none => rw [hlo] at hleast; exact absurd hleast hne
  | some lo =>
    cases hhi : m.greatest with
    | none => rw [hhi] at hgreatest; exact absurd hgreatest hne
    | some hi =>
      rw [hlo] at hleast
      rw [hhi] at hgreatest
      obtain ⟨_, hmemlo, rfl, hlow⟩ := hleast
      obtain ⟨_, hmemhi, rfl, hhigh⟩ := hgreatest
      refine ⟨lo, hi, rfl, rfl, fun x hx => ⟨?_, ?_⟩⟩
      · refine (Double.atMost_iff_key_le (hnum lo hmemlo) (hnum x hx)).mpr ?_
        exact Int.cast_le.mp (hlow x hx)
      · refine (Double.atMost_iff_key_le (hnum x hx) (hnum hi hmemhi)).mpr ?_
        exact Int.cast_le.mp (neg_le_neg_iff.mp (hhigh x hx))

end Moments.Extremes

namespace Tally.HasSeen

variable {t : Tally Float} {column : String} {options : SketchOptions} {vs : List FieldValue}

theorem count_ne_zero {I : Moments Float → List Float → Prop}
    (h : t.HasSeen I column options vs) (hne : finites vs ≠ []) : t.moments.count ≠ 0 := by
  rw [h.count]
  exact mt List.length_eq_zero_iff.mp hne

/-- What a tally that was given numbers keeps of them. -/
theorem samples_ne_nil {I : Moments Float → List Float → Prop}
    (h : t.HasSeen I column options vs) (hne : finites vs ≠ []) :
    t.sketch.samples.toList ≠ [] := by
  have hseen : t.sketch.seen ≠ 0 := by
    rw [h.sample.seen]
    exact mt List.length_eq_zero_iff.mp hne
  have hpos := (h.sample.size_pos hseen).1
  rw [← Array.length_toList] at hpos
  exact List.length_pos_iff.mp hpos

/-- There is a value for every quantile, and the report has them all. -/
theorem percentiles_stats {I : Moments Float → List Float → Prop}
    (h : t.HasSeen I column options vs) (hvalid : options.Valid) (hne : finites vs ≠ []) :
    t.sketch.quantiles t.percentiles =
        .ok (options.percentiles.map (Sketch.valueAt t.sketch.samples.toList)) ∧
      t.stats.percentiles =
        options.percentiles.map fun q => ⟨q, Sketch.valueAt t.sketch.samples.toList q⟩ := by
  have hcount := h.count_ne_zero hne
  have hquantiles : t.sketch.quantiles options.percentiles =
      .ok (options.percentiles.map (Sketch.valueAt t.sketch.samples.toList)) :=
    Sketch.quantiles_eq (h.samples_ne_nil hne) hvalid.fractions
  have hzip := List.zip_map' (f := id) (g := Sketch.valueAt t.sketch.samples.toList)
    (l := options.percentiles)
  rw [List.map_id] at hzip
  constructor
  · rw [h.percentiles, hquantiles]
  · simp only [stats, if_neg hcount, percentileList, h.percentiles, hquantiles, hzip,
      List.map_map]
    rfl

/-- Each entry has the value at its quantile. -/
theorem mem_percentiles_stats {I : Moments Float → List Float → Prop}
    (h : t.HasSeen I column options vs) (hvalid : options.Valid) (hne : finites vs ≠ [])
    {p : Percentile} (hp : p ∈ t.stats.percentiles) :
    p.quantile ∈ options.percentiles ∧
      p.value = Sketch.valueAt t.sketch.samples.toList p.quantile := by
  rw [(h.percentiles_stats hvalid hne).2] at hp
  obtain ⟨q, hq, rfl⟩ := List.mem_map.mp hp
  exact ⟨hq, rfl⟩

theorem exact_stats_iff {I : Moments Float → List Float → Prop}
    (h : t.HasSeen I column options vs) (hne : finites vs ≠ []) :
    t.stats.exact = true ↔ (finites vs).length ≤ options.capacity := by
  have hcount := h.count_ne_zero hne
  rw [← h.capacity, ← h.sample.isExact_iff]
  simp [stats, hcount]

theorem percentilesOf (h : t.HasSeen Moments.Extremes column options vs) (hvalid : options.Valid)
    (hne : finites vs ≠ []) : t.stats.PercentilesOf options (finites vs) := by
  have hsamples := h.samples_ne_nil hne
  have hnum := h.moments.isNaN_eq_false
  have hkept : ∀ x ∈ t.sketch.samples.toList, x ∈ finites vs := fun x hx =>
    h.sample.kept.subset hx
  have hnumkept : ∀ x ∈ t.sketch.samples.toList, isNaN x = false := fun x hx =>
    hnum x (hkept x hx)
  have hobserved : ∀ p ∈ t.stats.percentiles, p.value ∈ finites vs := by
    intro p hp
    rw [(h.mem_percentiles_stats hvalid hne hp).2]
    exact hkept _ (Sketch.valueAt_mem hsamples _)
  refine ⟨?_, hobserved, ?_, ?_, h.exact_stats_iff hne, ?_⟩
  · rw [(h.percentiles_stats hvalid hne).2, List.map_map]
    exact List.map_id _
  · obtain ⟨lo, hi, hlo, hhi, hbounds⟩ := h.moments.bounds hne
    exact ⟨lo, hi, hlo, hhi, fun p hp => hbounds p.value (hobserved p hp)⟩
  · intro hproducts p hp p' hp' hle
    obtain ⟨hq, hvalue⟩ := h.mem_percentiles_stats hvalid hne hp
    obtain ⟨hq', hvalue'⟩ := h.mem_percentiles_stats hvalid hne hp'
    have hsize : t.sketch.samples.toList.length = min (finites vs).length options.capacity := by
      rw [Array.length_toList, h.sample.size, h.capacity]
    have hproduct := hproducts _ hq _ hq' hle
    rw [← hsize] at hproduct
    have hkeys := Sketch.valueAt_le_valueAt hnumkept hsamples (Sketch.rank_le_rank hproduct)
    rw [← hvalue, ← hvalue'] at hkeys
    exact (Double.atMost_iff_key_le (hnum _ (hobserved p hp)) (hnum _ (hobserved p' hp'))).mpr hkeys
  · intro hexact p hp
    have hall : t.sketch.samples.toList = finites vs :=
      h.sample.all (by rw [h.capacity]; exact (h.exact_stats_iff hne).mp hexact)
    rw [(h.mem_percentiles_stats hvalid hne hp).2, hall, ← Sketch.rank_eq]
    exact Sketch.hasRank_valueAt hnum hne p.quantile

end Tally.HasSeen

/-! ## Accumulators of known settings -/

namespace Accumulator

/-- What an accumulator becomes, with the values that were given to it since.
An accumulator that is merged into it may have come about in any way. -/
inductive Grown {α : Type} [Arithmetic α] (fresh : Accumulator α) :
    Accumulator α → List FieldValue → Prop
  | refl : Grown fresh fresh []
  | observe {a b : Accumulator α} {vs : List FieldValue} (x : Float) (ha : Grown fresh a vs)
      (h : a.observe x = .ok b) : Grown fresh b (vs ++ [.float x])
  | observeValue {a b : Accumulator α} {vs : List FieldValue} (v : FieldValue)
      (ha : Grown fresh a vs) (h : a.observeValue v = .ok b) : Grown fresh b (vs ++ [v])
  | merge {a b c : Accumulator α} {vs ws : List FieldValue} (ha : Grown fresh a vs)
      (hb : Gathered b ws) (h : a.merge b = .ok c) : Grown fresh c (vs ++ ws)

/-- The settings stay those of the first accumulator. -/
theorem Grown.hasSeen {α : Type} [Arithmetic α] {I : Moments α → List Float → Prop}
    (hI : Moments.Compositional I) {fresh a : Accumulator α} {column : String}
    {options : SketchOptions} {vs : List FieldValue} (hnew : new column options = .ok fresh)
    (h : Grown fresh a vs) : a.frozen = none ∧ a.tally.HasSeen I column options vs := by
  induction h with
  | refl =>
    obtain ⟨t, ht, rfl⟩ := new_eq_ok_iff.mp hnew
    exact ⟨rfl, Tally.hasSeen_new hI ht⟩
  | observe x _ h ih =>
    rw [observe_eq_observeValue] at h
    obtain ⟨hopen, rfl⟩ := observeValue_eq_ok_iff.mp h
    exact ⟨hopen, ih.2.observeValue hI (.float x)⟩
  | observeValue v _ h ih =>
    obtain ⟨hopen, rfl⟩ := observeValue_eq_ok_iff.mp h
    exact ⟨hopen, ih.2.observeValue hI v⟩
  | merge _ hb h ih =>
    obtain ⟨hopen, _, t, ht, rfl⟩ := merge_eq_ok_iff.mp h
    obtain ⟨_, _, _, hseen⟩ := hb.hasSeen hI
    exact ⟨hopen, ih.2.merge hI hseen ht⟩

/-- Two percentiles of one quantile and of values that are equal as numbers. -/
def SamePercentile (p p' : Percentile) : Prop :=
  p.quantile = p'.quantile ∧ Double.eq p.value p'.value = true

/-- Where the percentiles are exact they do not depend on the order of the values. -/
theorem samePercentiles_of_perm {t u : Tally Float} {column column' : String}
    {options : SketchOptions} {vs ws : List FieldValue} (hvalid : options.Valid)
    (ht : t.HasSeen Moments.Extremes column options vs)
    (hu : u.HasSeen Moments.Extremes column' options ws)
    (hperm : (finites vs).Perm (finites ws)) (hne : finites vs ≠ [])
    (hfits : (finites vs).length ≤ options.capacity) :
    List.Forall₂ SamePercentile t.stats.percentiles u.stats.percentiles := by
  have hne' : finites ws ≠ [] := fun hnil => hne (hnil ▸ hperm).eq_nil
  have hsame : t.sketch.samples.toList = finites vs :=
    ht.sample.all (by rw [ht.capacity]; exact hfits)
  have hsame' : u.sketch.samples.toList = finites ws :=
    hu.sample.all (by rw [hu.capacity, ← hperm.length_eq]; exact hfits)
  have hnum := ht.moments.isNaN_eq_false
  have hnum' := hu.moments.isNaN_eq_false
  rw [(ht.percentiles_stats hvalid hne).2, (hu.percentiles_stats hvalid hne').2, hsame, hsame',
    List.forall₂_map_left_iff, List.forall₂_map_right_iff, List.forall₂_same]
  intro q _
  have hv := hnum _ (Sketch.valueAt_mem hne q)
  have hw := hnum' _ (Sketch.valueAt_mem hne' q)
  have hrank := Sketch.hasRank_valueAt hnum hne q
  have hrank' := (Sketch.hasRank_valueAt hnum' hne' q).perm hperm.symm
  rw [← hperm.length_eq] at hrank'
  exact ⟨rfl, (Double.eq_iff_key_eq hv hw).mpr (hrank.key_eq hnum hrank' hv hw)⟩

/-- What an accumulator with valid settings reports of at least one value: a
percentile for each quantile, all of them observed values that ascend with the
quantiles, and the values at the nearest ranks as long as the sketch has room.
Then it does not matter in which order the values came, either. -/
theorem finalize_percentiles {fresh a : Accumulator Float} {column : String}
    {options : SketchOptions} {vs : List FieldValue} (hnew : new column options = .ok fresh)
    (h : Grown fresh a vs) (hcount : a.finalize.1.count ≠ 0) :
    a.finalize.1.count = (finites vs).length ∧
      (∃ values, a.tally.sketch.quantiles a.tally.percentiles = .ok values) ∧
      a.finalize.1.PercentilesOf options (finites vs) ∧
      ∀ (column' : String) (fresh' b : Accumulator Float) (ws : List FieldValue),
        new column' options = .ok fresh' → Grown fresh' b ws →
        (finites vs).Perm (finites ws) → a.finalize.1.exact = true →
        List.Forall₂ SamePercentile a.finalize.1.percentiles b.finalize.1.percentiles := by
  obtain ⟨hopen, hseen⟩ := h.hasSeen Moments.compositional_extremes hnew
  obtain ⟨t, ht, _⟩ := new_eq_ok_iff.mp hnew
  obtain ⟨hvalid, _⟩ := Tally.new_eq_ok_iff.mp ht
  rw [finalize_of_open hopen] at hcount ⊢
  have hlen : a.tally.stats.count = (finites vs).length := hseen.count
  have hne : finites vs ≠ [] := by
    intro hnil
    rw [hlen, hnil] at hcount
    exact hcount rfl
  have hpercentiles := hseen.percentilesOf hvalid hne
  refine ⟨hlen, ⟨_, (hseen.percentiles_stats hvalid hne).1⟩, hpercentiles, ?_⟩
  intro column' fresh' b ws hnew' hb hperm hexact
  obtain ⟨hopen', hseen'⟩ := hb.hasSeen Moments.compositional_extremes hnew'
  rw [finalize_of_open hopen']
  exact samePercentiles_of_perm hvalid hseen hseen' hperm hne (hpercentiles.exact.mp hexact)

/-- Room for three values, of which one is merged in and one is skipped. -/
theorem finalize_percentiles_three :
    ∃ fresh a : Accumulator Float, new "n" ⟨3, 7, [0.5, 0.9]⟩ = .ok fresh ∧
      Grown fresh a [.float 4, .null, .float 1, .integer 2] ∧ a.finalize.1.exact = true ∧
      a.finalize.1.percentiles.map (·.quantile) = [0.5, 0.9] ∧
      (∀ p ∈ a.finalize.1.percentiles, p.value ∈ [4, 1, 2]) ∧
      ∀ p ∈ a.finalize.1.percentiles, ∀ p' ∈ a.finalize.1.percentiles,
        atMost p.quantile p'.quantile = true → atMost p.value p'.value = true := by
  obtain ⟨fresh, a, hnew, ha, hcount⟩ : ∃ fresh a : Accumulator Float,
      new "n" ⟨3, 7, [0.5, 0.9]⟩ = .ok fresh ∧
        Grown fresh a [.float 4, .null, .float 1, .integer 2] ∧ a.finalize.1.count = 3 :=
    ⟨_, _, rfl, .merge (.observe 1 (.observeValue .null (.observe 4 .refl rfl) rfl) rfl)
      (.observeValue (.integer 2) (.new (show new "n" ⟨3, 8, [0.5, 0.9]⟩ = .ok _ from rfl)) rfl)
      rfl, rfl⟩
  have hvalues : finites [.float 4, .null, .float 1, .integer 2] = [4, 1, 2] := by
    decide +kernel
  have hproducts : ProductsAscend [0.5, 0.9] 3 := by
    simp only [ProductsAscend, List.forall_mem_cons]
    decide +kernel
  obtain ⟨_, _, hpercentiles, _⟩ := finalize_percentiles hnew ha (by rw [hcount]; decide)
  rw [hvalues] at hpercentiles
  exact ⟨fresh, a, hnew, ha, hpercentiles.exact.mpr (by decide), hpercentiles.quantiles,
    hpercentiles.observed, hpercentiles.ascending hproducts⟩

end Accumulator

end RecordAudit
