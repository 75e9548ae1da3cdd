import RecordAudit.Proofs.Stats.Accumulator
import RecordAudit.Proofs.Stats.InPlace

/-!
# The life of accumulators

A bench holds accumulators that are written in place.  Acts make new ones, copy
them, and let them observe, merge and be finalized, in any order.  Each entry
of a bench keeps count of the observations that went into it and into what was
merged into it, and knows whether it was finalized.

* `Entry.Sound` ties this to the accumulator; `Bench.Sound.step` and
  `Bench.Sound.run` say that every act and every run of acts keeps it.
* `Bench.Sound.takesIn`, `Bench.Sound.mergesOrKeeps` and `Bench.Sound.refuses_run`
  say what a sound bench answers: before an accumulator is finalized, when it is
  merged, and from then on when it was finalized.
* `run_lifeCycle` says all this of the benches that acts lead to.
-/

namespace RecordAudit

namespace Accumulator

variable {α : Type} [Arithmetic α]

/-! ## Benches -/

/-- What can be done with the accumulators of a bench, which are named by their places. -/
inductive Act where
  | standard (column : String)
  | new (column : String) (options : SketchOptions)
  | copy (i : Nat)
  | observe (i : Nat) (x : Float)
  | observeValue (i : Nat) (v : FieldValue)
  /-- The accumulator at `i` takes over what the one at `j` has seen. -/
  | merge (i j : Nat)
  | finalize (i : Nat)

/-- What an act is answered with. -/
inductive Answer (α : Type) where
  | done
  | stats (s : ColumnStats α)
  | refused (e : AuditError)
  /-- There is no accumulator at one of the places. -/
  | missing

/-- An accumulator with its past. -/
structure Entry (α : Type) where
  accumulator : Accumulator α
  /-- How often it was given something, and what was merged into it. -/
  observations : Nat
  /-- Whether it was finalized, or is a copy of one that was. -/
  finalized : Bool

/-- Accumulators that are at work together. -/
abbrev Bench (α : Type) := List (Entry α)

namespace Bench

/-- Works on the accumulator at a place, and keeps what is left of it.  Only
without an error do observations count. -/
def attempt (bench : Bench α) (i : Nat) (steps : InPlace (Accumulator α) Unit)
    (observations : Nat) : Answer α × Bench α :=
  match bench[i]? with
  | none => (.missing, bench)
  | some e =>
    match steps e.accumulator with
    | (.ok (), a) =>
      (.done,
        bench.set i { e with accumulator := a, observations := e.observations + observations })
    | (.error fault, a) => (.refused fault, bench.set i { e with accumulator := a })

/-- One act. -/
def step (bench : Bench α) : Act → Answer α × Bench α
  | .standard column => (.done, bench ++ [⟨.standard column, 0, false⟩])
  | .new column options =>
    match Accumulator.new column options with
    | .ok a => (.done, bench ++ [⟨a, 0, false⟩])
    | .error fault => (.refused (.configuration fault), bench)
  | .copy i =>
    match bench[i]? with
    | none => (.missing, bench)
    | some e => (.done, bench ++ [e])
  | .observe i x => bench.attempt i (observeInPlace x) 1
  | .observeValue i v => bench.attempt i (observeValueInPlace v) 1
  | .merge i j =>
    match bench[j]? with
    | none => (.missing, bench)
    | some f => bench.attempt i f.accumulator.mergeInPlace f.observations
  | .finalize i =>
    match bench[i]? with
    | none => (.missing, bench)
    | some e =>
      (.stats e.accumulator.finalize.1,
        bench.set i { e with accumulator := e.accumulator.finalize.2, finalized := true })

/-- Acts one after the other. -/
def run (bench : Bench α) (acts : List Act) : Bench α :=
  acts.foldl (fun b act => (b.step act).2) bench

end Bench

/-- What has to hold for one accumulator to take over what another has seen.
Percentiles are compared as numbers. -/
structure Mergeable (e f : Entry α) : Prop where
  mine : e.finalized = false
  theirs : f.finalized = false
  column : e.accumulator.tally.column = f.accumulator.tally.column
  percentiles : e.accumulator.tally.percentiles.map Double.toRat =
    f.accumulator.tally.percentiles.map Double.toRat
  capacity : e.accumulator.tally.sketch.capacity = f.accumulator.tally.sketch.capacity

/-- The entry at `i` takes in everything, and counts it. -/
structure TakesIn (bench : Bench α) (i : Nat) (e : Entry α) : Prop where
  count : e.accumulator.tally.moments.count + e.accumulator.tally.skipped = e.observations
  sketch : e.accumulator.tally.sketch.seen = e.accumulator.tally.moments.count
  observe (x : Float) : ∃ a, e.accumulator.observe x = .ok a ∧
    bench.step (.observe i x) = (.done, bench.set i ⟨a, e.observations + 1, false⟩)
  observeValue (v : FieldValue) : ∃ a, e.accumulator.observeValue v = .ok a ∧
    bench.step (.observeValue i v) = (.done, bench.set i ⟨a, e.observations + 1, false⟩)

/-- The entry at `i` merges with `f` at `j` if they are mergeable, and only
then.  If they are not, neither changes. -/
structure MergesOrKeeps (bench : Bench α) (i j : Nat) (e f : Entry α) : Prop where
  merges (h : Mergeable e f) : ∃ a, e.accumulator.merge f.accumulator = .ok a ∧
    bench.step (.merge i j) =
      (.done, bench.set i ⟨a, e.observations + f.observations, false⟩)
  keeps (h : ¬Mergeable e f) : ∃ fault, e.accumulator.merge f.accumulator = .error fault ∧
    bench.step (.merge i j) = (.refused (.stateMerge fault), bench)

/-- The entry at `i` is at rest: it gives the statistics `s`, refuses all else,
and nothing changes it. -/
structure Refuses (bench : Bench α) (i : Nat) (e : Entry α) (s : ColumnStats α) : Prop where
  there : bench[i]? = some e
  finalize : bench.step (.finalize i) = (.stats s, bench)
  observe (x : Float) : bench.step (.observe i x) =
    (.refused (.accumulatorClosed e.accumulator.tally.column), bench)
  observeValue (v : FieldValue) : bench.step (.observeValue i v) =
    (.refused (.accumulatorClosed e.accumulator.tally.column), bench)
  takes (j : Nat) (f : Entry α) (h : bench[j]? = some f) : bench.step (.merge i j) =
    (.refused (.stateMerge (.finalized e.accumulator.tally.column)), bench)
  gives (j : Nat) (f : Entry α) (h : bench[j]? = some f) : bench.step (.merge j i) =
    (.refused (.stateMerge (.finalized f.accumulator.tally.column)), bench)

/-! ## What one act does -/

section
omit [Arithmetic α]

/-- Steps with the effect of a function put its result in place. -/
theorem Bench.attempt_ok {bench : Bench α} {i : Nat} {e : Entry α} (he : bench[i]? = some e)
    {steps : InPlace (Accumulator α) Unit} {f : Accumulator α → Except AuditError (Accumulator α)}
    (hsteps : steps.Performs f) (n : Nat) {a : Accumulator α} (ha : f e.accumulator = .ok a) :
    bench.attempt i steps n =
      (.done, bench.set i ⟨a, e.observations + n, e.finalized⟩) := by
  simp only [attempt, he, hsteps.apply_ok ha]

/-- Where the function fails, the bench stays as it is. -/
theorem Bench.attempt_error {bench : Bench α} {i : Nat} {e : Entry α} (he : bench[i]? = some e)
    {steps : InPlace (Accumulator α) Unit} {f : Accumulator α → Except AuditError (Accumulator α)}
    (hsteps : steps.Performs f) (n : Nat) {fault : AuditError}
    (hfault : f e.accumulator = .error fault) :
    bench.attempt i steps n = (.refused fault, bench) := by
  simp only [attempt, he, hsteps.apply_error hfault]
  obtain ⟨hi, rfl⟩ := List.getElem?_eq_some_iff.mp he
  show (Answer.refused fault, bench.set i bench[i]) = _
  rw [List.set_getElem_self]

theorem Bench.attempt_missing {bench : Bench α} {i : Nat} (hi : bench[i]? = none)
    (steps : InPlace (Accumulator α) Unit) (n : Nat) :
    bench.attempt i steps n = (.missing, bench) := by
  rw [attempt, hi]

end

theorem tally_finalize (a : Accumulator α) : a.finalize.2.tally = a.tally := by
  rw [finalize]
  cases a.frozen <;> rfl

theorem isFinalized_finalize (a : Accumulator α) : a.finalize.2.isFinalized = true := by
  rw [finalize]
  cases h : a.frozen with
  | none => rfl
  | some s => rw [isFinalized, h, Option.isSome_some]

theorem finalize_of_finalized {a : Accumulator α} (h : a.isFinalized = true) :
    a.finalize.2 = a := by
  obtain ⟨s, hs⟩ := Option.isSome_iff_exists.mp h
  simp only [finalize, hs]

/-- Finalized once more, an accumulator gives the same statistics. -/
theorem finalize_finalize (a : Accumulator α) : a.finalize.2.finalize.1 = a.finalize.1 := by
  cases h : a.frozen <;> simp only [finalize, h]

/-- A finalized accumulator takes in nothing. -/
theorem observe_finalized {a : Accumulator α} (h : a.isFinalized = true) (x : Float) :
    a.observe x = .error (.accumulatorClosed a.tally.column) := by
  rw [observe, whileOpen, if_pos h]

theorem observeValue_finalized {a : Accumulator α} (h : a.isFinalized = true) (v : FieldValue) :
    a.observeValue v = .error (.accumulatorClosed a.tally.column) := by
  rw [observeValue, whileOpen, if_pos h]

theorem merge_finalized {a b : Accumulator α} (h : a.isFinalized = true ∨ b.isFinalized = true) :
    a.merge b = .error (.finalized a.tally.column) := by
  rw [merge, if_pos h]

/-! ## Sound benches -/

theorem Gathered.counts {a : Accumulator α} {vs : List FieldValue} (h : a.Gathered vs) :
    a.tally.moments.count + a.tally.skipped = vs.length ∧
      a.tally.sketch.seen = a.tally.moments.count := by
  obtain ⟨_, column, options, hseen⟩ := h.hasSeen
    (I := fun _ _ => True) ⟨trivial, fun _ _ => trivial, fun _ _ => trivial⟩
  have hcount := hseen.count
  have hskipped := hseen.skipped
  have hsample := hseen.sample.seen
  omega

/-- The quantiles of an accumulator are fractions. -/
theorem Gathered.fractions {a : Accumulator α} {vs : List FieldValue} (h : a.Gathered vs) :
    ∀ p ∈ a.tally.percentiles, Double.isFraction p = true := by
  induction h with
  | standard column =>
    show ∀ p ∈ SketchOptions.standard.percentiles, Double.isFraction p = true
    decide
  | new h =>
    obtain ⟨t, ht, rfl⟩ := new_eq_ok_iff.mp h
    obtain ⟨hvalid, rfl⟩ := Tally.new_eq_ok_iff.mp ht
    exact hvalid.fractions
  | observe x _ h ih =>
    rw [observe_eq_observeValue] at h
    obtain ⟨_, rfl⟩ := observeValue_eq_ok_iff.mp h
    rwa [Tally.percentiles_observeValue]
  | observeValue v _ h ih =>
    obtain ⟨_, rfl⟩ := observeValue_eq_ok_iff.mp h
    rwa [Tally.percentiles_observeValue]
  | merge _ _ h iha _ =>
    obtain ⟨_, _, t, ht, rfl⟩ := merge_eq_ok_iff.mp h
    obtain ⟨_, _, s, _, rfl⟩ := Tally.merge_eq_ok_iff.mp ht
    exact iha

/-- An entry whose accumulator came about by as many observations as are
counted, and is finalized if it is said to be. -/
structure Entry.Sound (e : Entry α) : Prop where
  finalized : e.accumulator.isFinalized = e.finalized
  gathered : ∃ vs, Gathered ⟨e.accumulator.tally, none⟩ vs ∧ vs.length = e.observations

namespace Entry.Sound

variable {e f : Entry α} {a : Accumulator α}

theorem open_iff (h : e.Sound) : e.finalized = false ↔ e.accumulator.frozen = none := by
  rw [← h.finalized, isFinalized, Option.isSome_eq_false_iff, Option.isNone_iff_eq_none]

theorem observeValue (h : e.Sound) {v : FieldValue} (ha : e.accumulator.observeValue v = .ok a) :
    Entry.Sound ⟨a, e.observations + 1, e.finalized⟩ := by
  obtain ⟨hopen, rfl⟩ := observeValue_eq_ok_iff.mp ha
  obtain ⟨vs, hvs, hlen⟩ := h.gathered
  exact ⟨h.finalized, vs ++ [v], .observeValue v hvs rfl, by simp [hlen]⟩

theorem merge (he : e.Sound) (hf : f.Sound) (ha : e.accumulator.merge f.accumulator = .ok a) :
    Entry.Sound ⟨a, e.observations + f.observations, e.finalized⟩ := by
  obtain ⟨_, _, t, ht, rfl⟩ := merge_eq_ok_iff.mp ha
  obtain ⟨vs, hvs, hlenv⟩ := he.gathered
  obtain ⟨ws, hws, hlenw⟩ := hf.gathered
  have hmerge : (⟨e.accumulator.tally, none⟩ : Accumulator α).merge ⟨f.accumulator.tally, none⟩ =
      .ok ⟨t, none⟩ := merge_eq_ok_iff.mpr ⟨rfl, rfl, t, ht, rfl⟩
  exact ⟨he.finalized, vs ++ ws, .merge hvs hws hmerge, by simp [hlenv, hlenw]⟩

theorem finalize (h : e.Sound) :
    Entry.Sound { e with accumulator := e.accumulator.finalize.2, finalized := true } where
  finalized := isFinalized_finalize _
  gathered := by
    rw [tally_finalize]
    exact h.gathered

end Entry.Sound

/-- All entries of a bench are sound. -/
def Bench.Sound (bench : Bench α) : Prop := ∀ e ∈ bench, e.Sound

namespace Bench

variable {bench : Bench α}

theorem Sound.set (h : bench.Sound) (i : Nat) {e : Entry α} (he : e.Sound) :
    Sound (bench.set i e) := by
  intro f hf
  rcases List.mem_or_eq_of_mem_set hf with hf | rfl
  · exact h f hf
  · exact he

theorem Sound.append (h : bench.Sound) {e : Entry α} (he : e.Sound) : Sound (bench ++ [e]) := by
  intro f hf
  rcases List.mem_append.mp hf with hf | hf
  · exact h f hf
  · rwa [List.mem_singleton.mp hf]

/-- A bench stays sound under steps with the effect of a function whose
results are sound entries. -/
theorem Sound.attempt (h : bench.Sound) {i n : Nat} {steps : InPlace (Accumulator α) Unit}
    {f : Accumulator α → Except AuditError (Accumulator α)} (hsteps : steps.Performs f)
    (hf : ∀ e : Entry α, e.Sound → ∀ a, f e.accumulator = .ok a →
      Entry.Sound ⟨a, e.observations + n, e.finalized⟩) :
    (bench.attempt i steps n).2.Sound := by
  cases he : bench[i]? with
  | none => rwa [attempt_missing he]
  | some e =>
    cases ha : f e.accumulator with
    | error fault => rwa [attempt_error he hsteps n ha]
    | ok a =>
      rw [attempt_ok he hsteps n ha]
      exact h.set i (hf e (h e (List.mem_of_getElem? he)) a ha)

/-- Every act keeps a bench sound. -/
theorem Sound.step (h : bench.Sound) (act : Act) : (bench.step act).2.Sound := by
  cases act with
  | standard column => exact h.append ⟨rfl, [], .standard column, rfl⟩
  | new column options =>
    rw [Bench.step]
    cases ha : (Accumulator.new column options : Except ConfigurationFault (Accumulator α)) with
    | error fault => exact h
    | ok a =>
      obtain ⟨t, _, rfl⟩ := new_eq_ok_iff.mp ha
      exact h.append ⟨rfl, [], .new ha, rfl⟩
  | copy i =>
    rw [Bench.step]
    cases he : bench[i]? with
    | none => exact h
    | some e => exact h.append (h e (List.mem_of_getElem? he))
  | observe i x =>
    exact h.attempt (performs_observeInPlace x) fun e he a ha =>
      he.observeValue (observe_eq_observeValue e.accumulator x ▸ ha)
  | observeValue i v =>
    exact h.attempt (performs_observeValueInPlace v) fun e he a ha => he.observeValue ha
  | merge i j =>
    rw [Bench.step]
    cases hf : bench[j]? with
    | none => exact h
    | some f =>
      refine h.attempt (performs_mergeInPlace f.accumulator) fun e he a ha => ?_
      refine he.merge (h f (List.mem_of_getElem? hf)) ?_
      cases hmerge : e.accumulator.merge f.accumulator with
      | error fault => simp [hmerge, Except.mapError] at ha
      | ok c => simpa [hmerge, Except.mapError] using ha
  | finalize i =>
    rw [Bench.step]
    cases he : bench[i]? with
    | none => exact h
    | some e => exact h.set i (h e (List.mem_of_getElem? he)).finalize

theorem Sound.run (h : bench.Sound) (acts : List Act) : (bench.run acts).Sound := by
  induction acts generalizing bench with
  | nil => exact h
  | cons act rest ih => exact ih (h.step act)

end Bench

/-! ## What a sound bench answers -/

variable {bench : Bench α} {i : Nat} {e : Entry α}

theorem Bench.Sound.takesIn (h : bench.Sound) (he : bench[i]? = some e)
    (hopen : e.finalized = false) : TakesIn bench i e := by
  have hsound := h e (List.mem_of_getElem? he)
  obtain ⟨vs, hvs, hlen⟩ := hsound.gathered
  obtain ⟨hcount, hsketch⟩ := hvs.counts
  have hvalue : ∀ v, ∃ a, e.accumulator.observeValue v = .ok a :=
    fun v => ⟨_, observeValue_eq_ok_iff.mpr ⟨hsound.open_iff.mp hopen, rfl⟩⟩
  refine ⟨hcount.trans hlen, hsketch, fun x => ?_, fun v => ?_⟩
  · obtain ⟨a, ha⟩ := hvalue (.float x)
    exact ⟨a, ha, hopen ▸ attempt_ok he (performs_observeInPlace x) 1 ha⟩
  · obtain ⟨a, ha⟩ := hvalue v
    exact ⟨a, ha, hopen ▸ attempt_ok he (performs_observeValueInPlace v) 1 ha⟩

/-- Two sound entries are mergeable if the merge of their accumulators succeeds. -/
theorem Entry.Sound.mergeable_iff {f : Entry α} (he : e.Sound) (hf : f.Sound) :
    Mergeable e f ↔ ∃ a, e.accumulator.merge f.accumulator = .ok a := by
  obtain ⟨vs, hvs, -⟩ := he.gathered
  obtain ⟨ws, hws, -⟩ := hf.gathered
  have hsame := Tally.sameDoubles_iff hvs.fractions hws.fractions
  constructor
  · rintro ⟨hmine, htheirs, hcolumn, hpercentiles, hcapacity⟩
    obtain ⟨t, ht⟩ := Tally.exists_merge_iff.mpr ⟨hcolumn, hsame.mpr hpercentiles, hcapacity⟩
    exact ⟨_, merge_eq_ok_iff.mpr ⟨he.open_iff.mp hmine, hf.open_iff.mp htheirs, t, ht, rfl⟩⟩
  · rintro ⟨a, ha⟩
    obtain ⟨hmine, htheirs, t, ht, -⟩ := merge_eq_ok_iff.mp ha
    obtain ⟨hcolumn, hpercentiles, hcapacity⟩ := Tally.exists_merge_iff.mp ⟨t, ht⟩
    exact ⟨he.open_iff.mpr hmine, hf.open_iff.mpr htheirs, hcolumn, hsame.mp hpercentiles,
      hcapacity⟩

theorem Bench.Sound.mergesOrKeeps (h : bench.Sound) (he : bench[i]? = some e) {j : Nat}
    {f : Entry α} (hf : bench[j]? = some f) : MergesOrKeeps bench i j e f := by
  have hstep : bench.step (.merge i j) =
      bench.attempt i f.accumulator.mergeInPlace f.observations := by
    simp only [Bench.step, hf]
  have hiff := (h e (List.mem_of_getElem? he)).mergeable_iff (h f (List.mem_of_getElem? hf))
  constructor
  · intro hmergeable
    obtain ⟨a, ha⟩ := hiff.mp hmergeable
    refine ⟨a, ha, ?_⟩
    rw [hstep, attempt_ok he (performs_mergeInPlace f.accumulator) _ (by rw [ha]; rfl),
      hmergeable.mine]
  · intro hnot
    cases hmerge : e.accumulator.merge f.accumulator with
    | ok a => exact absurd (hiff.mpr ⟨a, hmerge⟩) hnot
    | error fault =>
      refine ⟨fault, rfl, ?_⟩
      rw [hstep, attempt_error he (performs_mergeInPlace f.accumulator) _ (by rw [hmerge]; rfl)]

/-! ## After an accumulator was finalized -/

omit [Arithmetic α] in
/-- Whatever is tried on another entry leaves this one as it is. -/
theorem Bench.getElem?_attempt (he : bench[i]? = some e) {j n : Nat}
    {steps : InPlace (Accumulator α) Unit}
    {f : Accumulator α → Except AuditError (Accumulator α)} (hsteps : steps.Performs f)
    (hf : j = i → ∃ fault, f e.accumulator = .error fault) :
    (bench.attempt j steps n).2[i]? = some e := by
  by_cases hj : j = i
  · obtain ⟨fault, hfault⟩ := hf hj
    rwa [hj, attempt_error he hsteps n hfault]
  · cases hother : bench[j]? with
    | none => rwa [attempt_missing hother]
    | some other =>
      cases ha : f other.accumulator with
      | error fault => rwa [attempt_error hother hsteps n ha]
      | ok a => rwa [attempt_ok hother hsteps n ha, List.getElem?_set_ne hj]

theorem Bench.step_finalize (he : bench[i]? = some e) (hsound : e.Sound)
    (hclosed : e.finalized = true) :
    bench.step (.finalize i) = (.stats e.accumulator.finalize.1, bench) := by
  have hentry : (⟨e.accumulator.finalize.2, e.observations, true⟩ : Entry α) = e := by
    rw [finalize_of_finalized (hsound.finalized.trans hclosed), ← hclosed]
  simp only [step, he, hentry]
  obtain ⟨hi, rfl⟩ := List.getElem?_eq_some_iff.mp he
  rw [List.set_getElem_self]

theorem Bench.step_merge_finalized {j : Nat} {f : Entry α} (he : bench[i]? = some e)
    (hf : bench[j]? = some f)
    (h : e.accumulator.isFinalized = true ∨ f.accumulator.isFinalized = true) :
    bench.step (.merge i j) =
      (.refused (.stateMerge (.finalized e.accumulator.tally.column)), bench) := by
  simp only [step, hf]
  refine attempt_error he (performs_mergeInPlace f.accumulator) _ ?_
  rw [merge_finalized h]
  rfl

/-- No act changes an entry that is finalized. -/
theorem Bench.getElem?_step (he : bench[i]? = some e) (hsound : e.Sound)
    (hclosed : e.finalized = true) (act : Act) : (bench.step act).2[i]? = some e := by
  have hfinalized : e.accumulator.isFinalized = true := hsound.finalized.trans hclosed
  have happend : ∀ f : Entry α, (bench ++ [f])[i]? = some e := fun f => by
    rw [List.getElem?_append_left (List.getElem?_eq_some_iff.mp he).1, he]
  cases act with
  | standard column => exact happend _
  | new column options =>
    rw [Bench.step]
    cases (Accumulator.new column options : Except ConfigurationFault (Accumulator α)) with
    | error fault => exact he
    | ok a => exact happend _
  | copy j =>
    rw [Bench.step]
    cases bench[j]? with
    | none => exact he
    | some f => exact happend f
  | observe j x =>
    exact getElem?_attempt he (performs_observeInPlace x) fun _ =>
      ⟨_, observe_finalized hfinalized x⟩
  | observeValue j v =>
    exact getElem?_attempt he (performs_observeValueInPlace v) fun _ =>
      ⟨_, observeValue_finalized hfinalized v⟩
  | merge j k =>
    rw [Bench.step]
    cases bench[k]? with
    | none => exact he
    | some f =>
      refine getElem?_attempt he (performs_mergeInPlace f.accumulator) fun _ =>
        ⟨.stateMerge (.finalized e.accumulator.tally.column), ?_⟩
      rw [merge_finalized (.inl hfinalized)]
      rfl
  | finalize j =>
    by_cases hj : j = i
    · rw [hj, step_finalize he hsound hclosed]
      exact he
    · rw [Bench.step]
      cases bench[j]? with
      | none => exact he
      | some other => rwa [List.getElem?_set_ne hj]

/-- An entry that is finalized gives its statistics and refuses all else. -/
theorem Bench.Sound.refuses (h : bench.Sound) (he : bench[i]? = some e)
    (hclosed : e.finalized = true) : Refuses bench i e e.accumulator.finalize.1 := by
  have hsound := h e (List.mem_of_getElem? he)
  have hfinalized : e.accumulator.isFinalized = true := hsound.finalized.trans hclosed
  exact {
    there := he
    finalize := step_finalize he hsound hclosed
    observe := fun x =>
      attempt_error he (performs_observeInPlace x) 1 (observe_finalized hfinalized x)
    observeValue := fun v =>
      attempt_error he (performs_observeValueInPlace v) 1 (observeValue_finalized hfinalized v)
    takes := fun j f hf => step_merge_finalized he hf (.inl hfinalized)
    gives := fun j f hf => step_merge_finalized hf he (.inr hfinalized) }

/-- Whatever happens after an accumulator was finalized, its entry is as it
was, and still gives the same statistics. -/
theorem Bench.Sound.refuses_run (h : bench.Sound) (he : bench[i]? = some e)
    (hclosed : e.finalized = true) (later : List Act) :
    Refuses (bench.run later) i e e.accumulator.finalize.1 := by
  induction later generalizing bench with
  | nil => exact h.refuses he hclosed
  | cons act rest ih =>
    have hsound := h e (List.mem_of_getElem? he)
    exact ih (h.step act) (getElem?_step he hsound hclosed act)

/-- For every accumulator that any acts lead to.  Before it is finalized it
takes in everything, and its counts say how much was given to it and to what
was merged into it.  It merges with another if both are open and have the same
column, the same percentiles and the same capacity; if not, neither changes.
Once it was finalized it gives the same statistics for ever, refuses all
observations and merges, and stays as it is. -/
theorem run_lifeCycle (acts : List Act) (i : Nat) (e : Entry α)
    (he : (Bench.run [] acts)[i]? = some e) :
    (e.finalized = false → TakesIn (Bench.run [] acts) i e) ∧
      (∀ j f, (Bench.run [] acts)[j]? = some f → MergesOrKeeps (Bench.run [] acts) i j e f) ∧
      ∃ (s : ColumnStats α) (c : Entry α),
        c.accumulator.tally = e.accumulator.tally ∧ c.observations = e.observations ∧
          (Bench.run [] acts).step (.finalize i) = (.stats s, (Bench.run [] acts).set i c) ∧
          ∀ later, Refuses (Bench.run ((Bench.run [] acts).set i c) later) i c s := by
  have hsound : (Bench.run ([] : Bench α) acts).Sound :=
    Bench.Sound.run (fun _ hmem => absurd hmem List.not_mem_nil) acts
  refine ⟨hsound.takesIn he, fun j f hf => hsound.mergesOrKeeps he hf, e.accumulator.finalize.1,
    ⟨e.accumulator.finalize.2, e.observations, true⟩, tally_finalize _, rfl, ?_, fun later => ?_⟩
  · simp only [Bench.step, he]
  · rw [← finalize_finalize e.accumulator]
    refine (hsound.set i (hsound e (List.mem_of_getElem? he)).finalize).refuses_run ?_ rfl later
    rw [List.getElem?_set_self (List.getElem?_eq_some_iff.mp he).1]

/-- An accumulator that observed two values, and took over a third from
another, which was finalized then. -/
theorem run_lifeCycle_merged :
    ∃ (bench : Bench Rat) (e f : Entry Rat), bench = Bench.run [] [.standard "n", .observe 0 4,
        .observeValue 0 .null, .standard "n", .observe 1 1, .merge 0 1, .finalize 1] ∧
      bench[0]? = some e ∧ bench[1]? = some f ∧
      e.accumulator.tally.moments.count + e.accumulator.tally.skipped = 3 ∧
      (∃ fault, bench.step (.merge 0 1) = (.refused (.stateMerge fault), bench)) ∧
      ∃ s c, bench.step (.finalize 0) = (.stats s, bench.set 0 c) ∧
        ∀ later, Refuses (Bench.run (bench.set 0 c) later) 0 c s := by
  obtain ⟨bench, hbench⟩ : ∃ bench : Bench Rat, bench = Bench.run [] [.standard "n",
    .observe 0 4, .observeValue 0 .null, .standard "n", .observe 1 1, .merge 0 1, .finalize 1] :=
    ⟨_, rfl⟩
  obtain ⟨e, he, hopen, hobservations⟩ :
      ∃ e, bench[0]? = some e ∧ e.finalized = false ∧ e.observations = 3 :=
    ⟨_, by rw [hbench]; rfl, rfl, rfl⟩
  obtain ⟨f, hf, hclosed⟩ : ∃ f, bench[1]? = some f ∧ f.finalized = true :=
    ⟨_, by rw [hbench]; rfl, rfl⟩
  have hlife := run_lifeCycle [.standard "n", .observe 0 4, .observeValue 0 .null,
    .standard "n", .observe 1 1, .merge 0 1, .finalize 1] 0 e (hbench ▸ he)
  rw [← hbench] at hlife
  obtain ⟨htakes, hmerges, s, c, -, -, hstep, hrefuses⟩ := hlife
  have hnot : ¬Mergeable e f := fun h => Bool.false_ne_true (h.theirs.symm.trans hclosed)
  obtain ⟨fault, -, hkeeps⟩ := (hmerges 1 f hf).keeps hnot
  exact ⟨bench, e, f, hbench, he, hf, hobservations ▸ (htakes hopen).count, ⟨fault, hkeeps⟩,
    s, c, hstep, hrefuses⟩

end Accumulator

end RecordAudit
