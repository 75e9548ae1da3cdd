import RecordAudit.Proofs.Stats.Tally

/-!
# Accumulators that observe and merge

`Gathered` holds of an accumulator that came about by any tree of observations
and merges, together with the values that it was given.  `Gathered.hasSeen`
carries what is known of tallies over to it.

For rational numbers the statistics can be read off the values: they are the
average, the mean squared distances from it and the bounds (`Describes`).  It
follows that neither the order of the values nor the shape of the tree matters.
-/

namespace RecordAudit

namespace Accumulator

variable {α : Type} [Arithmetic α]

/-- How an open accumulator comes about, with the values that were given to
it on the way.  Every step is one that succeeds. -/
inductive Gathered : Accumulator α → List FieldValue → Prop
  | standard (column : String) : Gathered (standard column) []
  | new {column : String} {options : SketchOptions} {a : Accumulator α}
      (h : new column options = .ok a) : Gathered a []
  | observe {a b : Accumulator α} {vs : List FieldValue} (x : Float) (ha : Gathered a vs)
      (h : a.observe x = .ok b) : Gathered b (vs ++ [.float x])
  | observeValue {a b : Accumulator α} {vs : List FieldValue} (v : FieldValue)
      (ha : Gathered a vs) (h : a.observeValue v = .ok b) : Gathered b (vs ++ [v])
  | merge {a b c : Accumulator α} {vs ws : List FieldValue} (ha : Gathered a vs)
      (hb : Gathered b ws) (h : a.merge b = .ok c) : Gathered c (vs ++ ws)

/-! ## What each operation does -/

theorem new_eq_ok_iff {column : String} {options : SketchOptions} {a : Accumulator α} :
    new column options = .ok a ↔
      ∃ t : Tally α, Tally.new column options = .ok t ∧ a = ⟨t, none⟩ := by
  rw [new]
  cases (Tally.new column options : Except ConfigurationFault (Tally α)) with
  | error fault => simp [Except.map]
  | ok t => simp [Except.map, eq_comm]

theorem observeValue_eq_ok_iff {a b : Accumulator α} {v : FieldValue} :
    a.observeValue v = .ok b ↔
      a.frozen = none ∧ b = { a with tally := a.tally.observeValue v } := by
  rw [observeValue, whileOpen, isFinalized]
  cases a.frozen with
  | none => simp [eq_comm]
  | some s => simp

theorem observe_eq_observeValue (a : Accumulator α) (x : Float) :
    a.observe x = a.observeValue (.float x) := rfl

theorem merge_eq_ok_iff {a b c : Accumulator α} :
    a.merge b = .ok c ↔
      a.frozen = none ∧ b.frozen = none ∧
        ∃ t, a.tally.merge b.tally = .ok t ∧ c = { a with tally := t } := by
  rw [merge, isFinalized, isFinalized]
  cases a.frozen with
  | some s => simp
  | none =>
    cases b.frozen with
    | some s => simp
    | none =>
      cases a.tally.merge b.tally with
      | error fault => simp [Except.map]
      | ok t => simp [Except.map, eq_comm]

theorem finalize_of_open {a : Accumulator α} (h : a.frozen = none) :
    a.finalize.1 = a.tally.stats := by
  rw [finalize, h]

/-- An open accumulator takes in any number of values. -/
theorem foldlM_observeValue {a : Accumulator α} (h : a.frozen = none) (vs : List FieldValue) :
    vs.foldlM observeValue a = .ok { a with tally := vs.foldl Tally.observeValue a.tally } := by
  induction vs generalizing a with
  | nil => rfl
  | cons v rest ih =>
    have hv : a.observeValue v = .ok { a with tally := a.tally.observeValue v } :=
      observeValue_eq_ok_iff.mpr ⟨h, rfl⟩
    rw [List.foldlM_cons, hv]
    exact ih h

/-! ## What an accumulator has seen -/

/-- An accumulator of any tree is open, and its tally has seen the values. -/
theorem Gathered.hasSeen {I : Moments α → List Float → Prop} (hI : Moments.Compositional I)
    {a : Accumulator α} {vs : List FieldValue} (h : a.Gathered vs) :
    a.frozen = none ∧ ∃ column options, a.tally.HasSeen I column options vs := by
  induction h with
  | standard column =>
    exact ⟨rfl, column, _, Tally.hasSeen_empty hI column SketchOptions.standard (by decide) _⟩
  | new h =>
    obtain ⟨t, ht, rfl⟩ := new_eq_ok_iff.mp h
    exact ⟨rfl, _, _, Tally.hasSeen_new hI ht⟩
  | observe x _ h ih =>
    rw [observe_eq_observeValue] at h
    obtain ⟨hopen, rfl⟩ := observeValue_eq_ok_iff.mp h
    obtain ⟨_, column, options, hseen⟩ := ih
    exact ⟨hopen, column, options, hseen.observeValue hI (.float x)⟩
  | observeValue v _ h ih =>
    obtain ⟨hopen, rfl⟩ := observeValue_eq_ok_iff.mp h
    obtain ⟨_, column, options, hseen⟩ := ih
    exact ⟨hopen, column, options, hseen.observeValue hI v⟩
  | merge _ _ h iha ihb =>
    obtain ⟨hopen, _, t, ht, rfl⟩ := merge_eq_ok_iff.mp h
    obtain ⟨_, column, options, hseena⟩ := iha
    obtain ⟨_, column', options', hseenb⟩ := ihb
    exact ⟨hopen, column, options, hseena.merge hI hseenb ht⟩

/-! ## Exact statistics -/

/-- The rational numbers that an accumulator takes in of some values. -/
def rationals (vs : List FieldValue) : List Rat := (finites vs).map Double.toRat

/-- Statistics that say of some rational numbers what they are: the average,
the mean squared distance from it, the same for a sample, and the bounds. -/
structure Describes (s : ColumnStats Rat) (xs : List Rat) : Prop where
  count : s.count = xs.length
  absent : xs = [] → s.mean = none ∧ s.variance = none ∧ s.sampleVariance = none ∧
    s.least = none ∧ s.greatest = none ∧ s.percentiles = []
  mean : xs ≠ [] → s.mean = some (average xs)
  variance : xs ≠ [] → s.variance = some (scatter xs / xs.length)
  sampleVariance : s.sampleVariance =
    if 1 < xs.length then some (scatter xs / (xs.length - 1)) else none
  bounds : xs ≠ [] → ∃ lo hi, s.least = some lo ∧ s.greatest = some hi ∧
    IsLeast {x | x ∈ xs} lo ∧ IsGreatest {x | x ∈ xs} hi ∧
    lo ≤ average xs ∧ average xs ≤ hi

/-- Exact moments are described by the statistics of their tally. -/
theorem describes_stats {t : Tally Rat} {column : String} {options : SketchOptions}
    {vs : List FieldValue}
    (h : t.HasSeen (fun m xs => m.Exact (xs.map Double.toRat) ∧ m.Extremes xs)
      column options vs) :
    Describes t.stats (rationals vs) := by
  obtain ⟨hexact, hextremes⟩ := h.moments
  have hlen : (rationals vs).length = 0 ↔ rationals vs = [] := List.length_eq_zero_iff
  refine ⟨hexact.count, ?_, ?_, ?_, hexact.sampleVariance?, ?_⟩
  · intro hnil
    have hfinites : finites vs = [] := List.map_eq_nil_iff.mp hnil
    have hcount : t.moments.count = 0 := by rw [h.count, hfinites, List.length_nil]
    have hleast := hextremes.least
    have hgreatest := hextremes.greatest
    rw [hfinites] at hleast hgreatest
    refine ⟨if_pos hcount, if_pos hcount, if_neg ?_, ?_, ?_, if_pos hcount⟩
    · omega
    · exact Moments.eq_none_of_isLowest_nil hleast
    · exact Moments.eq_none_of_isLowest_nil hgreatest
  · intro hne
    exact hexact.mean?.trans (if_neg (mt hlen.mp hne))
  · intro hne
    exact hexact.variance?.trans (if_neg (mt hlen.mp hne))
  · intro hne
    have hfinites : finites vs ≠ [] := fun hnil => hne (List.map_eq_nil_iff.mpr hnil)
    obtain ⟨lo, hi, hlo, hhi, hleast, hgreatest⟩ := hextremes.isLeast hfinites
    refine ⟨lo, hi, hlo, hhi, hleast, hgreatest, ?_⟩
    exact average_mem_bounds hne (fun x hx => hleast.2 hx) (fun x hx => hgreatest.2 hx)

/-- The description leaves nothing open but percentiles, and it does not
depend on the order of the numbers. -/
theorem Describes.congr {s t : ColumnStats Rat} {xs ys : List Rat} (hs : Describes s xs)
    (ht : Describes t ys) (hperm : xs.Perm ys) :
    s.count = t.count ∧ s.mean = t.mean ∧ s.variance = t.variance ∧
      s.sampleVariance = t.sampleVariance ∧ s.least = t.least ∧ s.greatest = t.greatest := by
  have hlen := hperm.length_eq
  have haverage := average_perm hperm
  have hscatter := scatter_perm hperm
  have hsample : s.sampleVariance = t.sampleVariance := by
    rw [hs.sampleVariance, ht.sampleVariance, hlen, hscatter]
  refine ⟨by rw [hs.count, ht.count, hlen], ?_⟩
  by_cases hnil : xs = []
  · have hnil' : ys = [] := (hperm.symm.trans (hnil ▸ List.Perm.refl _)).eq_nil
    obtain ⟨hm, hv, _, hl, hg, _⟩ := hs.absent hnil
    obtain ⟨hm', hv', _, hl', hg', _⟩ := ht.absent hnil'
    rw [hm, hm', hv, hv', hl, hl', hg, hg']
    exact ⟨rfl, rfl, hsample, rfl, rfl⟩
  · have hne : ys ≠ [] := fun hnil' => hnil (hperm.trans (hnil' ▸ List.Perm.refl _)).eq_nil
    obtain ⟨lo, hi, hlo, hhi, hleast, hgreatest, _⟩ := hs.bounds hnil
    obtain ⟨lo', hi', hlo', hhi', hleast', hgreatest', _⟩ := ht.bounds hne
    have hmem : {x | x ∈ xs} = {x | x ∈ ys} := Set.ext fun _ => hperm.mem_iff
    rw [hmem] at hleast hgreatest
    rw [hs.mean hnil, ht.mean hne, hs.variance hnil, ht.variance hne, hlo, hlo', hhi, hhi',
      haverage, hscatter, hlen, hleast.unique hleast', hgreatest.unique hgreatest']
    exact ⟨rfl, rfl, hsample, rfl, rfl⟩

/-- Over rational numbers the statistics of any tree of observations and
merges are those of the numbers that it took in.  Two trees over the same
numbers have the same statistics, in whichever order the numbers came and
however they were spread over merged accumulators. -/
theorem finalize_describes {a : Accumulator Rat} {vs : List FieldValue} (h : a.Gathered vs) :
    Describes a.finalize.1 (rationals vs) ∧
      ∀ (b : Accumulator Rat) (ws : List FieldValue), b.Gathered ws →
        (rationals vs).Perm (rationals ws) →
        a.finalize.1.count = b.finalize.1.count ∧ a.finalize.1.mean = b.finalize.1.mean ∧
          a.finalize.1.variance = b.finalize.1.variance ∧
          a.finalize.1.sampleVariance = b.finalize.1.sampleVariance ∧
          a.finalize.1.least = b.finalize.1.least ∧
          a.finalize.1.greatest = b.finalize.1.greatest := by
  have hdescribes : ∀ {b : Accumulator Rat} {ws : List FieldValue}, b.Gathered ws →
      Describes b.finalize.1 (rationals ws) := by
    intro b ws hb
    obtain ⟨hopen, column, options, hseen⟩ := hb.hasSeen Moments.compositional_exact
    rw [finalize_of_open hopen]
    exact describes_stats hseen
  exact ⟨hdescribes h, fun b ws hb hperm => (hdescribes h).congr (hdescribes hb) hperm⟩

/-- Two accumulators of two values each, one of which is skipped, after a merge. -/
theorem finalize_describes_merged :
    ∃ a : Accumulator Rat, a.Gathered [.float 4, .null, .float 1, .integer 2] ∧
      a.finalize.1.mean = some (7 / 3) ∧ a.finalize.1.variance = some (14 / 9) ∧
      a.finalize.1.sampleVariance = some (7 / 3) := by
  obtain ⟨a, ha⟩ : ∃ a : Accumulator Rat, a.Gathered [.float 4, .null, .float 1, .integer 2] :=
    ⟨_, .merge (.observeValue .null (.observe 4 (.standard "n") rfl) rfl)
      (.observeValue (.integer 2) (.observe 1 (.standard "n") rfl) rfl) rfl⟩
  have hvalues : rationals [.float 4, .null, .float 1, .integer 2] = [4, 1, 2] := by
    decide +kernel
  have h := (finalize_describes ha).1
  rw [hvalues] at h
  refine ⟨a, ha, ?_, ?_, ?_⟩
  · rw [h.mean (by simp)]
    norm_num [average]
  · rw [h.variance (by simp)]
    norm_num [scatter, average]
  · rw [h.sampleVariance]
    norm_num [scatter, average]

end Accumulator

end RecordAudit
