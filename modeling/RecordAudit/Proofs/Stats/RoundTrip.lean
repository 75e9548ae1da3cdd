import RecordAudit.Proofs.Json.Doubles
import RecordAudit.Proofs.Json.Structures
import RecordAudit.Proofs.Stats.LifeCycle
import RecordAudit.Proofs.Stats.Percentiles

/-!
# Statistics that went through JSON

Statistics are written as JSON and read again.  Whether a number is absent is
told by null, and a number that is not finite is null as well.

* `ColumnStats.Survives` is what comes back: the column, the counts and all that
  is finite, and of means and variances those that are finite.
* `ColumnStats.Plain.exists_survives` says so of statistics whose extremes and
  percentiles are finite, and `Accumulator.Gathered.plain` that the statistics of
  every tree of observations and merges are such.
* `Accumulator.finalize_survives` puts both together.  What is lost is never more
  than a mean or a variance that left the range of doubles, and
  `Accumulator.exists_variance_lost` loses one.
-/

namespace RecordAudit

open Json

namespace ColumnStats

open Json.Reader (Takes ReadsFields Layout)

/-! ## Percentiles -/

theorem exists_takes_percentile {p : Percentile} (hquantile : Double.isFinite p.quantile = true)
    (hvalue : Double.isFinite p.value = true) :
    ∃ q, Takes percentileReader (compact (percentileJson p)).toList q := by
  obtain ⟨x, hx⟩ := Reader.exists_takes_double hquantile
  obtain ⟨y, hy⟩ := Reader.exists_takes_double hvalue
  have hfields : ReadsFields percentileLayout.onKey ⟨none, none⟩
      [("quantile", ofFloat p.quantile), ("value", ofFloat p.value)] ⟨some x, some y⟩ := by
    refine .cons (Layout.takes_onKey rfl rfl (hx.map _)) ?_
    refine .cons (Layout.takes_onKey rfl rfl (hy.map _)) ?_
    exact .nil _
  have hcomplete : ∀ f ∈ percentileLayout.fields,
      f.isSet ⟨some x, some y⟩ = true ∨ f.mayLack = true := by
    simp [percentileLayout]
  have hread := (Layout.takes_object hfields hcomplete).map fun d : PercentileDraft =>
    (⟨d.quantile.getD 0, d.value.getD 0⟩ : Percentile)
  exact ⟨_, hread⟩

theorem startsItem_percentile (p : Percentile) :
    Reader.StartsItem (compact (percentileJson p)).toList := by
  rw [percentileJson, toList_compact_object]
  exact ⟨'{', _, rfl, rfl, by decide⟩

theorem exists_takes_percentiles {ps : List Percentile}
    (h : ∀ p ∈ ps, Double.isFinite p.quantile = true ∧ Double.isFinite p.value = true) :
    ∃ qs, Takes (Reader.list percentileReader)
      (compact (Json.ofList percentileJson ps)).toList qs ∧ qs.length = ps.length := by
  have hitems : ∃ qs, List.Forall₂ (fun v q => Reader.StartsItem (compact v).toList ∧
      Takes percentileReader (compact v).toList q) (ps.map percentileJson) qs := by
    induction ps with
    | nil => exact ⟨[], .nil⟩
    | cons p ps ih =>
      obtain ⟨hquantile, hvalue⟩ := h p (.head ps)
      obtain ⟨q, hq⟩ := exists_takes_percentile hquantile hvalue
      obtain ⟨qs, hqs⟩ := ih fun r hr => h r (.tail p hr)
      exact ⟨q :: qs, .cons ⟨startsItem_percentile p, hq⟩ hqs⟩
  obtain ⟨qs, hqs⟩ := hitems
  exact ⟨qs, Reader.takes_list hqs, by rw [← hqs.length_eq, List.length_map]⟩

/-! ## Statistics -/

/-- What is left of statistics that were written as JSON and read again.  A mean or a variance is
there iff it was there and finite; the extremes are there iff they were. -/
structure Survives (s r : ColumnStats Float) : Prop where
  column : r.column = s.column
  count : r.count = s.count
  skipped : r.skipped = s.skipped
  mean : r.mean.isSome = s.mean.any Double.isFinite
  variance : r.variance.isSome = s.variance.any Double.isFinite
  sampleVariance : r.sampleVariance.isSome = s.sampleVariance.any Double.isFinite
  least : r.least.isSome = s.least.isSome
  greatest : r.greatest.isSome = s.greatest.isSome
  percentiles : r.percentiles.length = s.percentiles.length
  exact : r.exact = s.exact

/-- Statistics whose counts fit 64 bits and in which only means and variances may be infinite. -/
structure Plain (s : ColumnStats Float) : Prop where
  count : s.count < UInt64.size
  skipped : s.skipped < UInt64.size
  least : s.least.any Double.isFinite = s.least.isSome
  greatest : s.greatest.any Double.isFinite = s.greatest.isSome
  percentiles : ∀ p ∈ s.percentiles,
    Double.isFinite p.quantile = true ∧ Double.isFinite p.value = true

/-- Each key finds its field, which reads the value, and in the end all fields are there. -/
theorem Plain.exists_readsFields {s : ColumnStats Float} (h : s.Plain) :
    ∃ fields last, s.toJson = .object fields ∧ ReadsFields layout.onKey .empty fields last ∧
      (∀ f ∈ layout.fields, f.isSet last = true) ∧ s.Survives last.stats := by
  have hcolumn := Reader.takes_text s.column
  have hcount := Reader.takes_natural64 h.count
  have hskipped := Reader.takes_natural64 h.skipped
  obtain ⟨mean, hmean, hmeanSome⟩ := Reader.exists_takes_ofOption s.mean
  obtain ⟨variance, hvariance, hvarianceSome⟩ := Reader.exists_takes_ofOption s.variance
  obtain ⟨sample, hsample, hsampleSome⟩ := Reader.exists_takes_ofOption s.sampleVariance
  obtain ⟨least, hleast, hleastSome⟩ := Reader.exists_takes_ofOption s.least
  obtain ⟨greatest, hgreatest, hgreatestSome⟩ := Reader.exists_takes_ofOption s.greatest
  obtain ⟨percentiles, hpercentiles, hlength⟩ := exists_takes_percentiles h.percentiles
  have hexact := Reader.takes_boolean s.exact
  refine ⟨_, ⟨some s.column, some s.count, some s.skipped, some mean, some variance, some sample,
    some least, some greatest, some percentiles, some s.exact⟩, rfl, ?_, by simp [layout], ?_⟩
  · refine .cons (Layout.takes_onKey rfl rfl (hcolumn.map _)) ?_
    refine .cons (Layout.takes_onKey rfl rfl (hcount.map _)) ?_
    refine .cons (Layout.takes_onKey rfl rfl (hskipped.map _)) ?_
    refine .cons (Layout.takes_onKey rfl rfl (hmean.map _)) ?_
    refine .cons (Layout.takes_onKey rfl rfl (hvariance.map _)) ?_
    refine .cons (Layout.takes_onKey rfl rfl (hsample.map _)) ?_
    refine .cons (Layout.takes_onKey rfl rfl (hleast.map _)) ?_
    refine .cons (Layout.takes_onKey rfl rfl (hgreatest.map _)) ?_
    refine .cons (Layout.takes_onKey rfl rfl (hpercentiles.map _)) ?_
    refine .cons (Layout.takes_onKey rfl rfl (hexact.map _)) ?_
    exact .nil _
  · exact ⟨rfl, rfl, rfl, hmeanSome, hvarianceSome, hsampleSome, hleastSome.trans h.least,
      hgreatestSome.trans h.greatest, hlength, rfl⟩

theorem Plain.exists_survives {s : ColumnStats Float} (h : s.Plain) :
    ∃ r, ofJsonText (compact s.toJson) = .ok r ∧ s.Survives r := by
  obtain ⟨fields, last, hjson, hfields, hset, hsurvives⟩ := h.exists_readsFields
  have hcomplete : ∀ f ∈ layout.fields, f.isSet last = true ∨ f.mayLack = true :=
    fun f hf => .inl (hset f hf)
  have htakes : Takes reader (compact s.toJson).toList last.stats :=
    hjson ▸ (Layout.takes_object hfields hcomplete).map Draft.stats
  exact ⟨last.stats, htakes.run, hsurvives⟩

end ColumnStats

/-! ## Accumulators -/

theorem Moments.any_isFinite_of_isLowest {rank : Float → Rat} {xs : List Float} {o : Option Float}
    (hxs : ∀ x ∈ xs, Double.isFinite x = true) (h : IsLowest rank xs o) :
    o.any Double.isFinite = o.isSome := by
  cases o with
  | none => rfl
  | some a =>
    obtain ⟨x, hx, hax, -⟩ := h
    exact hax ▸ hxs x hx

namespace Accumulator

/-- The settings of an accumulator of any tree are valid. -/
theorem Gathered.valid {a : Accumulator Float} {vs : List FieldValue} (h : a.Gathered vs)
    {I : Moments Float → List Float → Prop} {column : String} {options : SketchOptions}
    (hseen : a.tally.HasSeen I column options vs) : options.Valid where
  room := hseen.capacity ▸ a.tally.sketch.positive
  fractions := hseen.percentiles ▸ h.fractions

/-- What is reported of percentiles are fractions and observed values, if there are any. -/
theorem Gathered.isFinite_percentiles {a : Accumulator Float} {vs : List FieldValue}
    (h : a.Gathered vs) : ∀ p ∈ a.tally.stats.percentiles,
      Double.isFinite p.quantile = true ∧ Double.isFinite p.value = true := by
  obtain ⟨-, column, options, hseen⟩ := h.hasSeen Moments.compositional_extremes
  have hvalid := h.valid hseen
  intro p hp
  by_cases hnil : finites vs = []
  · have hcount : a.tally.moments.count = 0 := by rw [hseen.count, hnil, List.length_nil]
    have hnone : a.tally.stats.percentiles = [] := if_pos hcount
    rw [hnone] at hp
    exact absurd hp List.not_mem_nil
  · have hquantile := (hseen.mem_percentiles_stats hvalid hnil hp).1
    have hvalue := (hseen.percentilesOf hvalid hnil).observed p hp
    exact ⟨Double.isFinite_of_isFraction (hvalid.fractions p.quantile hquantile),
      hseen.moments.finite p.value hvalue⟩

theorem Gathered.plain {a : Accumulator Float} {vs : List FieldValue} (h : a.Gathered vs)
    (hcount : a.finalize.1.count < UInt64.size) (hskipped : a.finalize.1.skipped < UInt64.size) :
    a.finalize.1.Plain := by
  obtain ⟨hopen, column, options, hseen⟩ := h.hasSeen Moments.compositional_extremes
  have hfinite := hseen.moments.finite
  rw [finalize_of_open hopen] at hcount hskipped ⊢
  exact ⟨hcount, hskipped, Moments.any_isFinite_of_isLowest hfinite hseen.moments.least,
    Moments.any_isFinite_of_isLowest hfinite hseen.moments.greatest, h.isFinite_percentiles⟩

/-- The statistics of every tree of observations and merges can be written and read again.  What
comes back is what was there, but for a mean or a variance that is not finite. -/
theorem finalize_survives {a : Accumulator Float} {vs : List FieldValue} (h : a.Gathered vs)
    (hcount : a.finalize.1.count < UInt64.size) (hskipped : a.finalize.1.skipped < UInt64.size) :
    ∃ r, ColumnStats.ofJsonText (compact a.finalize.1.toJson) = .ok r ∧ a.finalize.1.Survives r :=
  (h.plain hcount hskipped).exists_survives

/-- Three values and one that is skipped, after a merge: all is there again. -/
theorem finalize_survives_merged :
    ∃ (a : Accumulator Float) (r : ColumnStats Float),
      a.Gathered [.float 4, .null, .float 1, .integer 2] ∧
        ColumnStats.ofJsonText (compact a.finalize.1.toJson) = .ok r ∧ r.count = 3 ∧
        r.skipped = 1 ∧ r.mean.isSome = true ∧ r.variance.isSome = true ∧
        r.percentiles.length = 3 := by
  obtain ⟨a, ha, hcount, hskipped, hmean, hvariance, hpercentiles⟩ : ∃ a : Accumulator Float,
      a.Gathered [.float 4, .null, .float 1, .integer 2] ∧ a.finalize.1.count = 3 ∧
        a.finalize.1.skipped = 1 ∧ a.finalize.1.mean.any Double.isFinite = true ∧
        a.finalize.1.variance.any Double.isFinite = true ∧
        a.finalize.1.percentiles.length = 3 :=
    ⟨_, .merge (.observeValue .null (.observe 4 (.standard "n") rfl) rfl)
      (.observeValue (.integer 2) (.observe 1 (.standard "n") rfl) rfl) rfl, rfl, rfl,
      by decide +kernel, by decide +kernel, by decide +kernel⟩
  obtain ⟨r, hread, hr⟩ := finalize_survives ha (by rw [hcount]; decide) (by rw [hskipped]; decide)
  exact ⟨a, r, ha, hread, hr.count.trans hcount, hr.skipped.trans hskipped, hr.mean.trans hmean,
    hr.variance.trans hvariance, hr.percentiles.trans hpercentiles⟩

/-- The greatest double and its negative have infinite variances, which JSON loses: they come back
like those of a column without values. -/
theorem exists_variance_lost :
    ∃ (a : Accumulator Float) (vs : List FieldValue) (r : ColumnStats Float), a.Gathered vs ∧
      a.finalize.1.variance.map Float.toBits = some 0x7FF0000000000000 ∧
      a.finalize.1.sampleVariance.map Float.toBits = some 0x7FF0000000000000 ∧
      ColumnStats.ofJsonText (compact a.finalize.1.toJson) = .ok r ∧ r.count = 2 ∧
      r.variance = none ∧ r.sampleVariance = none := by
  obtain ⟨a, vs, ha, hcount, hskipped, hvariance, hsample⟩ :
      ∃ (a : Accumulator Float) (vs : List FieldValue), a.Gathered vs ∧
        a.finalize.1.count = 2 ∧ a.finalize.1.skipped = 0 ∧
        a.finalize.1.variance.map Float.toBits = some 0x7FF0000000000000 ∧
        a.finalize.1.sampleVariance.map Float.toBits = some 0x7FF0000000000000 :=
    ⟨_, _, .observe (-Number.greatest) (.observe Number.greatest (.standard "n") rfl) rfl, rfl, rfl,
      by decide +kernel, by decide +kernel⟩
  have hlost : ∀ {o p : Option Float}, o.map Float.toBits = some 0x7FF0000000000000 →
      p.isSome = o.any Double.isFinite → p = none := by
    intro o p ho hp
    obtain ⟨x, rfl, hx⟩ := Option.map_eq_some_iff.mp ho
    have hinfinite : Double.isFinite x = false := by
      rw [Double.isFinite, Double.magnitude, hx]
      decide
    rwa [Option.any_some, hinfinite, Option.isSome_eq_false_iff, Option.isNone_iff_eq_none] at hp
  have hplain := ha.plain (by rw [hcount]; decide) (by rw [hskipped]; decide)
  obtain ⟨r, hread, hr⟩ := hplain.exists_survives
  exact ⟨a, vs, r, ha, hvariance, hsample, hread, hr.count.trans hcount,
    hlost hvariance hr.variance, hlost hsample hr.sampleVariance⟩

end Accumulator

end RecordAudit
