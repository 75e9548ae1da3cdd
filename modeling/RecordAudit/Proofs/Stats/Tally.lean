import RecordAudit.Proofs.Number.Rational
import RecordAudit.Proofs.Stats.Moments
import RecordAudit.Proofs.Stats.Sampling
import RecordAudit.Stats.Accumulator

/-!
# What a tally has seen

A tally sorts the values that it is given: finite doubles go to the moments and
to the sketch, all others are skipped.  `HasSeen` relates a tally to the list of
the values, with any compositional fact on the moments.

* `hasSeen_empty`, `HasSeen.observeValue` and `HasSeen.merge` say that it holds
  at the start and that an observation and a merge keep it.
* `new_eq_ok_iff` and `merge_eq_ok_iff` say when there is a new tally and what a
  merge gives, and `exists_merge_iff` which tallies can be merged.
  `sameDoubles_iff` says that their percentiles are compared as numbers.
* `determines_concurs` and `determines_concursExactly` say that two tallies that
  have seen the same values report the same statistics.  The first of them is on
  doubles, and leaves out means and variances, which doubles round.
-/

namespace RecordAudit

open Arithmetic

/-- The double of a value, if that is finite.  All other values are skipped. -/
def FieldValue.finite? (v : FieldValue) : Option Float := v.asFloat?.filter Double.isFinite

/-- The doubles of some values that are not skipped. -/
def finites (vs : List FieldValue) : List Float := vs.filterMap FieldValue.finite?

@[simp] theorem finites_append (vs ws : List FieldValue) :
    finites (vs ++ ws) = finites vs ++ finites ws := List.filterMap_append

theorem finites_singleton_of_some {v : FieldValue} {x : Float} (h : v.finite? = some x) :
    finites [v] = [x] := by simp [finites, h]

theorem finites_singleton_of_none {v : FieldValue} (h : v.finite? = none) :
    finites [v] = [] := by simp [finites, h]

theorem FieldValue.isFinite_of_finite? {v : FieldValue} {x : Float} (h : v.finite? = some x) :
    Double.isFinite x = true :=
  ((Option.filter_eq_some_iff).mp h).2

/-- Settings with which an accumulator can be made. -/
structure SketchOptions.Valid (o : SketchOptions) : Prop where
  room : 0 < o.capacity
  fractions : ∀ p ∈ o.percentiles, Double.isFraction p = true

namespace Tally

variable {α : Type} [Arithmetic α]

/-! ## One value -/

theorem observeValue_of_some (t : Tally α) {v : FieldValue} {x : Float} (h : v.finite? = some x) :
    t.observeValue v =
      { t with moments := t.moments.observe (ofDouble x), sketch := t.sketch.offer x } := by
  obtain ⟨hx, hfinite⟩ := (Option.filter_eq_some_iff).mp h
  rw [observeValue, hx]
  simp only [observe, hfinite, if_true, Sketch.update,
    Double.isNaN_eq_false_of_isFinite hfinite, Bool.false_eq_true, if_false]

theorem observeValue_of_none (t : Tally α) {v : FieldValue} (h : v.finite? = none) :
    t.observeValue v = { t with skipped := t.skipped + 1 } := by
  rw [observeValue]
  cases hx : v.asFloat? with
  | none => rfl
  | some x =>
    have hfinite : ¬Double.isFinite x = true := by
      intro hfinite
      simp [FieldValue.finite?, hx, hfinite] at h
    simp only [observe, if_neg hfinite]

@[simp] theorem column_observeValue (t : Tally α) (v : FieldValue) :
    (t.observeValue v).column = t.column := by
  cases h : v.finite? with
  | none => rw [observeValue_of_none t h]
  | some x => rw [observeValue_of_some t h]

@[simp] theorem percentiles_observeValue (t : Tally α) (v : FieldValue) :
    (t.observeValue v).percentiles = t.percentiles := by
  cases h : v.finite? with
  | none => rw [observeValue_of_none t h]
  | some x => rw [observeValue_of_some t h]

@[simp] theorem capacity_observeValue (t : Tally α) (v : FieldValue) :
    (t.observeValue v).sketch.capacity = t.sketch.capacity := by
  cases h : v.finite? with
  | none => rw [observeValue_of_none t h]
  | some x => rw [observeValue_of_some t h, Reservoir.capacity_offer]

/-! ## New tallies and merges -/

theorem new_eq_ok_iff {column : String} {options : SketchOptions} {t : Tally α} :
    new column options = .ok t ↔
      ∃ h : options.Valid, t = empty column (.empty options.capacity h.room
        (Keystream.ofSeed options.seed)) options.percentiles := by
  rw [new]
  constructor
  · intro h
    split at h
    · cases h
    · next hnone =>
      have hfractions : ∀ p ∈ options.percentiles, Double.isFraction p = true := by
        simpa using hnone
      by_cases hroom : 0 < options.capacity
      · simp only [Reservoir.new, dif_pos hroom, Except.ok.injEq] at h
        exact ⟨⟨hroom, hfractions⟩, h.symm⟩
      · simp [Reservoir.new, hroom] at h
  · rintro ⟨h, rfl⟩
    have hnone : options.percentiles.find? (fun p => !Double.isFraction p) = none := by
      simpa using h.fractions
    simp only [hnone, Reservoir.new, dif_pos h.room]

/-- A merge keeps the settings of the first tally, and needs the second to
have the same column, equal percentiles and the same capacity. -/
theorem merge_eq_ok_iff {a b c : Tally α} :
    a.merge b = .ok c ↔
      a.column = b.column ∧ sameDoubles a.percentiles b.percentiles = true ∧
        ∃ s, a.sketch.merge b.sketch = .ok s ∧
          c = { a with moments := a.moments.merge b.moments
                       skipped := a.skipped + b.skipped
                       sketch := s } := by
  rw [merge]
  by_cases hcolumn : a.column = b.column
  · by_cases hsame : sameDoubles a.percentiles b.percentiles = true
    · rw [if_neg (not_not.mpr hcolumn), if_neg (not_not.mpr hsame)]
      cases a.sketch.merge b.sketch with
      | error fault => simp
      | ok s => simp [hcolumn, hsame, eq_comm]
    · simp [hcolumn, hsame]
  · simp [hcolumn]

theorem exists_merge_iff {a b : Tally α} :
    (∃ c, a.merge b = .ok c) ↔ a.column = b.column ∧
      sameDoubles a.percentiles b.percentiles = true ∧ a.sketch.capacity = b.sketch.capacity := by
  simp only [merge_eq_ok_iff]
  constructor
  · rintro ⟨c, hcolumn, hsame, s, hs, -⟩
    exact ⟨hcolumn, hsame, (Reservoir.merge_cases hs).1⟩
  · rintro ⟨hcolumn, hsame, hcapacity⟩
    cases hs : a.sketch.merge b.sketch with
    | ok s => exact ⟨_, hcolumn, hsame, s, rfl, rfl⟩
    | error fault => exact absurd hcapacity ((Reservoir.merge_eq_error_iff _ _ fault).mp hs).1

/-- Fractions are compared as the numbers that they are. -/
theorem sameDoubles_iff {xs ys : List Float} (hxs : ∀ x ∈ xs, Double.isFraction x = true)
    (hys : ∀ y ∈ ys, Double.isFraction y = true) :
    sameDoubles xs ys = true ↔ xs.map Double.toRat = ys.map Double.toRat := by
  induction xs generalizing ys with
  | nil => cases ys <;> simp [sameDoubles]
  | cons x xs ih =>
    cases ys with
    | nil => simp [sameDoubles]
    | cons y ys =>
      have hrest : sameDoubles xs ys = true ↔ xs.map Double.toRat = ys.map Double.toRat :=
        ih (fun z hz => hxs z (by simp [hz])) fun z hz => hys z (by simp [hz])
      have hhead : Double.eq x y = true ↔ Double.toRat x = Double.toRat y := by
        have hx := Double.isNaN_eq_false_of_isFraction (hxs x (by simp))
        have hy := Double.isNaN_eq_false_of_isFraction (hys y (by simp))
        rw [Double.eq_iff_key_eq hx hy, Double.toRat_eq_toRat_iff]
      rw [List.map_cons, List.map_cons, List.cons.injEq, ← hhead, ← hrest]
      simp [sameDoubles, and_left_comm]

/-! ## The values that a tally was given -/

/-- A tally with some settings that was given some values, in this order.  `I`
is what is known of its moments. -/
structure HasSeen (I : Moments α → List Float → Prop) (t : Tally α) (column : String)
    (options : SketchOptions) (vs : List FieldValue) : Prop where
  column : t.column = column
  percentiles : t.percentiles = options.percentiles
  capacity : t.sketch.capacity = options.capacity
  count : t.moments.count = (finites vs).length
  skipped : t.skipped + (finites vs).length = vs.length
  sample : t.sketch.IsSampleOf (finites vs)
  moments : I t.moments (finites vs)

variable {I : Moments α → List Float → Prop}

theorem hasSeen_empty (hI : Moments.Compositional I) (column : String) (options : SketchOptions)
    (hroom : 0 < options.capacity) (draws : Keystream) :
    (empty column (.empty options.capacity hroom draws) options.percentiles : Tally α).HasSeen
      I column options [] where
  column := rfl
  percentiles := rfl
  capacity := rfl
  count := rfl
  skipped := rfl
  sample := Reservoir.isSampleOf_empty _ _ _
  moments := hI.empty

theorem hasSeen_new (hI : Moments.Compositional I) {column : String} {options : SketchOptions}
    {t : Tally α} (h : new column options = .ok t) : t.HasSeen I column options [] := by
  obtain ⟨hvalid, rfl⟩ := new_eq_ok_iff.mp h
  exact hasSeen_empty hI column options hvalid.room _

namespace HasSeen

variable {a b c t : Tally α} {column : String} {options : SketchOptions}
  {vs ws : List FieldValue}

theorem observeValue (hI : Moments.Compositional I) (h : t.HasSeen I column options vs)
    (v : FieldValue) : (t.observeValue v).HasSeen I column options (vs ++ [v]) := by
  obtain ⟨hcolumn, hpercentiles, hcapacity, hcount, hskipped, hsample, hmoments⟩ := h
  cases hv : v.finite? with
  | none =>
    have hlen : t.skipped + 1 + (finites vs).length = (vs ++ [v]).length := by
      rw [List.length_append, List.length_singleton]
      omega
    have hnone : finites (vs ++ [v]) = finites vs := by
      rw [finites_append, finites_singleton_of_none hv, List.append_nil]
    rw [observeValue_of_none t hv]
    constructor <;> simp only [hnone] <;> assumption
  | some x =>
    rw [observeValue_of_some t hv]
    have hsome : finites (vs ++ [v]) = finites vs ++ [x] := by
      rw [finites_append, finites_singleton_of_some hv]
    refine ⟨hcolumn, hpercentiles, ?_, ?_, ?_, ?_, ?_⟩
    · rw [Reservoir.capacity_offer, hcapacity]
    · rw [hsome, List.length_append, List.length_singleton, ← hcount]
      rfl
    · simp only [hsome, List.length_append, List.length_singleton]
      omega
    · rw [hsome]
      exact hsample.offer x
    · rw [hsome]
      exact hI.observe hmoments (FieldValue.isFinite_of_finite? hv)

omit [Arithmetic α] in
theorem imp {J : Moments α → List Float → Prop} (hIJ : ∀ {m xs}, I m xs → J m xs)
    (h : t.HasSeen I column options vs) : t.HasSeen J column options vs :=
  { h with moments := hIJ h.moments }

/-- A run of observations, one after the other. -/
theorem foldl_observeValue (hI : Moments.Compositional I) (h : t.HasSeen I column options vs)
    (ws : List FieldValue) :
    (ws.foldl Tally.observeValue t).HasSeen I column options (vs ++ ws) := by
  induction ws generalizing t vs with
  | nil => simpa using h
  | cons w rest ih => simpa using ih (h.observeValue hI w)

/-- The settings of the second tally are not looked at any further. -/
theorem merge (hI : Moments.Compositional I) {column' : String} {options' : SketchOptions}
    (ha : a.HasSeen I column options vs) (hb : b.HasSeen I column' options' ws)
    (h : a.merge b = .ok c) : c.HasSeen I column options (vs ++ ws) := by
  obtain ⟨_, _, s, hs, rfl⟩ := merge_eq_ok_iff.mp h
  obtain ⟨hsample, hkeep⟩ := ha.sample.merge hb.sample hs
  have hcount : (a.moments.merge b.moments).count = (finites vs ++ finites ws).length := by
    refine Moments.merge_keeps (P := fun m xs => m.count = xs.length) id ha.count hb.count ?_
    intro _
    rw [List.length_append, ← ha.count, ← hb.count]
    rfl
  refine ⟨ha.column, ha.percentiles, hkeep.trans ha.capacity, ?_, ?_, ?_, ?_⟩
  · rw [finites_append]
    exact hcount
  · have hlena := ha.skipped
    have hlenb := hb.skipped
    simp only [finites_append, List.length_append]
    omega
  · rw [finites_append]
    exact hsample
  · rw [finites_append]
    exact hI.merge ha.moments hb.moments

/-- Two tallies with the same settings can be merged, whatever they have seen. -/
theorem exists_merge (ha : a.HasSeen I column options vs) (hb : b.HasSeen I column options ws)
    (hvalid : options.Valid) : ∃ c, a.merge b = .ok c := by
  have hsame : sameDoubles a.percentiles b.percentiles = true := by
    rw [ha.percentiles, hb.percentiles]
    exact (sameDoubles_iff hvalid.fractions hvalid.fractions).mpr rfl
  exact exists_merge_iff.mpr
    ⟨ha.column.trans hb.column.symm, hsame, ha.capacity.trans hb.capacity.symm⟩

end HasSeen

end Tally

/-! ## Statistics of the same values -/

/-- Two statistics that agree on all that is not rounded.  Percentiles agree
as long as a sketch of the given capacity keeps all values. -/
structure ColumnStats.Concurs {α : Type} (capacity : Nat) (same : α → α → Prop)
    (s t : ColumnStats α) : Prop where
  column : s.column = t.column
  count : s.count = t.count
  skipped : s.skipped = t.skipped
  least : Option.Rel same s.least t.least
  greatest : Option.Rel same s.greatest t.greatest
  exact : s.exact = t.exact
  percentiles : s.count ≤ capacity → s.percentiles = t.percentiles

/-- Two statistics that agree on the average and the variances, too. -/
structure ColumnStats.ConcursExactly {α : Type} (capacity : Nat) (s t : ColumnStats α) : Prop
    extends s.Concurs capacity Eq t where
  mean : s.mean = t.mean
  variance : s.variance = t.variance
  sampleVariance : s.sampleVariance = t.sampleVariance

namespace Tally

/-- Percentiles are read off the samples and nothing else. -/
theorem percentileList_congr {α : Type} {a b : Tally α}
    (hsamples : a.sketch.samples.toList = b.sketch.samples.toList)
    (hpercentiles : a.percentiles = b.percentiles) : a.percentileList = b.percentileList := by
  have hs : a.sketch.samples = b.sketch.samples := Array.toList_inj.mp hsamples
  rw [percentileList, percentileList, Sketch.quantiles, Sketch.quantiles, hs, hpercentiles]

variable {α : Type} [Arithmetic α]

/-- Two extremes of the same doubles have the same rank. -/
theorem rel_of_isLowest {rank : Float → Rat} {same : α → α → Prop} {xs : List Float}
    {o p : Option α}
    (hsame : ∀ x y, x ∈ xs → y ∈ xs → rank x = rank y → same (ofDouble x) (ofDouble y))
    (ho : Moments.IsLowest rank xs o) (hp : Moments.IsLowest rank xs p) : Option.Rel same o p := by
  cases o with
  | none =>
    have hnil : xs = [] := ho
    cases p with
    | none => exact .none
    | some b =>
      obtain ⟨y, hy, _⟩ := hp
      simp [hnil] at hy
  | some a =>
    obtain ⟨x, hx, rfl, hlowx⟩ := ho
    cases p with
    | none =>
      have hnil : xs = [] := hp
      simp [hnil] at hx
    | some b =>
      obtain ⟨y, hy, rfl, hlowy⟩ := hp
      exact .some (hsame x y hx hy (le_antisymm (hlowx y hy) (hlowy x hx)))

theorem HasSeen.concurs [Ranked α] {same : α → α → Prop}
    (hsame : ∀ x y, Double.isFinite x = true → Double.isFinite y = true →
      Ranked.rank α x = Ranked.rank α y → same (ofDouble x) (ofDouble y))
    {a b : Tally α} {column : String} {options : SketchOptions} {vs : List FieldValue}
    (ha : a.HasSeen Moments.Extremes column options vs)
    (hb : b.HasSeen Moments.Extremes column options vs) :
    a.stats.Concurs options.capacity same b.stats := by
  have hcount : a.moments.count = b.moments.count := ha.count.trans hb.count.symm
  have hmem : ∀ x ∈ finites vs, Double.isFinite x = true := ha.moments.finite
  refine ⟨ha.column.trans hb.column.symm, hcount, ?_, ?_, ?_, ?_, ?_⟩
  · have hska := ha.skipped
    have hskb := hb.skipped
    simp only [stats]
    omega
  · exact rel_of_isLowest (fun x y hx hy => hsame x y (hmem x hx) (hmem y hy))
      ha.moments.least hb.moments.least
  · refine rel_of_isLowest (fun x y hx hy hrank => hsame x y (hmem x hx) (hmem y hy) ?_)
      ha.moments.greatest hb.moments.greatest
    exact neg_inj.mp hrank
  · have hexact : a.sketch.isExact = b.sketch.isExact := by
      rw [Bool.eq_iff_iff, ha.sample.isExact_iff, hb.sample.isExact_iff, ha.capacity, hb.capacity]
    simp only [stats, hcount, hexact]
  · intro hfits
    have hlen : (finites vs).length ≤ options.capacity := by
      rw [← ha.count]
      exact hfits
    have hsamples : a.sketch.samples.toList = b.sketch.samples.toList := by
      rw [ha.sample.all (by rw [ha.capacity]; exact hlen),
        hb.sample.all (by rw [hb.capacity]; exact hlen)]
    simp only [stats, hcount,
      percentileList_congr hsamples (ha.percentiles.trans hb.percentiles.symm)]

/-- Tallies that have seen the same values have related statistics. -/
def Determines (I : Moments α → List Float → Prop) (options : SketchOptions)
    (rel : ColumnStats α → ColumnStats α → Prop) : Prop :=
  ∀ {t u : Tally α} {column : String} {vs : List FieldValue},
    t.HasSeen I column options vs → u.HasSeen I column options vs → rel t.stats u.stats

/-- Doubles of one rank are equal as numbers, though they may be zeros of two signs. -/
theorem determines_concurs (options : SketchOptions) :
    Determines (Moments.Extremes (α := Float)) options
      (ColumnStats.Concurs options.capacity fun x y => Double.eq x y = true) := by
  intro t u column vs ht hu
  refine ht.concurs ?_ hu
  intro x y hx hy hrank
  exact (Double.eq_iff_key_eq (Double.isNaN_eq_false_of_isFinite hx)
    (Double.isNaN_eq_false_of_isFinite hy)).mpr (Int.cast_inj.mp hrank)

theorem determines_concursExactly (options : SketchOptions) :
    Determines (fun (m : Moments Rat) xs => m.Exact (xs.map Double.toRat) ∧ m.Extremes xs) options
      (ColumnStats.ConcursExactly options.capacity) := by
  intro t u column vs ht hu
  have hconcurs := (ht.imp And.right).concurs (fun x y _ _ hrank => hrank) (hu.imp And.right)
  obtain ⟨hexact, _⟩ := ht.moments
  obtain ⟨hexact', _⟩ := hu.moments
  exact ⟨hconcurs, hexact.mean?.trans hexact'.mean?.symm,
    hexact.variance?.trans hexact'.variance?.symm,
    hexact.sampleVariance?.trans hexact'.sampleVariance?.symm⟩

end Tally

end RecordAudit
