import RecordAudit.Proofs.Aggregation.Findings

/-!
# The order of filters

A record passes a list of filters if it passes each of them, but the first
filter that it does not pass, or whose field cannot be read, decides.  So the
order of the filters may decide whether a record is kept, and which unreadable
field is told.  `Settled` says of a record that neither happens, and
`orderFree_iff_settled` that it does so exactly.

* `allAccept_perm` is the verdict on a record of which all fields can be read.
  `violations?_of_unreadable` and `violations?_of_rejects` are what a filter
  leads to that comes first.
* `sameViolations_told` says when a field that a filter tells is told anyway.
* `SameFindings` compares the states of two runs, and `sameFindings_iff` says
  that it does so record by record.

At the end there is a record that one order of two filters keeps and the other
sets aside.
-/

namespace RecordAudit

variable {ρ : Type} [Record ρ]

open Record (unreadable)
open FieldConstraint

namespace RecordFilter

/-! ## What filters decide -/

theorem allAccept_eq_true_iff {r : ρ} {filters : List RecordFilter} :
    allAccept r filters = .ok true ↔ ∀ f ∈ filters, f.accepts r = .ok true := by
  induction filters with
  | nil => simp [allAccept]
  | cons f rest ih =>
    rw [allAccept, List.forall_mem_cons]
    cases hf : f.accepts r with
    | error e => simp
    | ok passes =>
      cases passes with
      | false => simp
      | true => simpa using ih

/-- A record that is filtered out is rejected by some filter. -/
theorem exists_of_allAccept_eq_false {r : ρ} {filters : List RecordFilter}
    (h : allAccept r filters = .ok false) : ∃ f ∈ filters, f.accepts r = .ok false := by
  induction filters with
  | nil => cases h
  | cons f rest ih =>
    rw [allAccept] at h
    split at h
    · obtain ⟨g, hg, hrejects⟩ := ih h
      exact ⟨g, List.mem_cons_of_mem f hg, hrejects⟩
    · next hrejects => exact ⟨f, List.mem_cons_self, hrejects⟩
    · cases h

theorem allAccept_of_readable {r : ρ} {filters : List RecordFilter}
    (h : ∀ f ∈ filters, unreadable r f.field = false) :
    ∃ passes, allAccept r filters = .ok passes := by
  cases hall : allAccept r filters with
  | ok passes => exact ⟨passes, rfl⟩
  | error e =>
    obtain ⟨f, hf, hget⟩ := exists_of_allAccept_eq_error hall
    have hread := h f hf
    rw [Record.unreadable_of_error hget] at hread
    cases hread

/-- Where all fields can be read the filters are a conjunction. -/
theorem allAccept_perm {r : ρ} {filters filters' : List RecordFilter}
    (hperm : filters'.Perm filters) (h : ∀ f ∈ filters, unreadable r f.field = false) :
    allAccept r filters' = allAccept r filters := by
  obtain ⟨passes, hpasses⟩ := allAccept_of_readable h
  obtain ⟨passes', hpasses'⟩ :=
    allAccept_of_readable fun f hf => h f (hperm.mem_iff.mp hf)
  have hsame : allAccept r filters' = .ok true ↔ allAccept r filters = .ok true := by
    rw [allAccept_eq_true_iff, allAccept_eq_true_iff]
    exact forall_congr' fun f => by rw [hperm.mem_iff]
  rw [hpasses, hpasses', Except.ok.injEq, Except.ok.injEq] at hsame
  rw [hpasses, hpasses', Bool.eq_iff_iff.mpr hsame]

end RecordFilter

/-! ## The same violations -/

/-- Violations that may differ in their order. -/
def SameViolations (vs ws : List Violation) : Prop := ∀ v, v ∈ vs ↔ v ∈ ws

theorem SameViolations.symm {vs ws : List Violation} (h : SameViolations vs ws) :
    SameViolations ws vs :=
  fun v => (h v).symm

theorem SameViolations.trans {us vs ws : List Violation} (h : SameViolations us vs)
    (h' : SameViolations vs ws) : SameViolations us ws :=
  fun v => (h v).trans (h' v)

theorem SameViolations.hasReadViolation_eq {vs ws : List Violation} (h : SameViolations vs ws)
    (field : String) : hasReadViolation vs field = hasReadViolation ws field := by
  rw [hasReadViolation, hasReadViolation, Bool.eq_iff_iff, List.any_eq_true, List.any_eq_true]
  exact exists_congr fun v => by rw [h v]

namespace Aggregator

theorem addUnreadColumns_untold (index : Nat) (r : ρ) (out vs : List Violation)
    (columns : List String) :
    addUnreadColumns index r (out ++ untold out vs) columns =
      out ++ untold out (addUnreadColumns index r vs columns) := by
  refine List.foldl_hom (fun vs => out ++ untold out vs) fun vs c => ?_
  cases Record.get r c with
  | ok v => rfl
  | error e => exact addReadViolation_untold index out vs c e.message

/-- Violations of the filters keep a field from being told again, and change nothing else. -/
theorem violationsAfter_eq (a : Aggregator) (index : Nat) (r : ρ) (out : List Violation) :
    a.violationsAfter index r out = out ++ untold out (a.violationsAfter index r []) := by
  rw [violationsAfter, validateInto_eq_untold, addUnreadColumns_untold]
  rfl

/-- A field that is read anyway is told by the same violation, whether or not a filter tells it
first. -/
theorem sameViolations_told (a : Aggregator) (index : Nat) {r : ρ} {field : String} {e : ReadError}
    (hget : Record.get r field = .error e) (hfield : field ∈ a.checkedFields) :
    SameViolations (a.violationsAfter index r [⟨index, field, .recordRead, e.message⟩])
      (a.violationsAfter index r []) := by
  have htidy : Tidy r (a.violationsAfter index r []) := (tidy_nil r).violationsAfter a index
  have hplaced : AllAt index (a.violationsAfter index r []) :=
    a.allAt_violationsAfter (by simp [AllAt]) r
  -- No other violation tells this field.
  have honly : ∀ v ∈ a.violationsAfter index r [], v.kind = .recordRead → v.field = field →
      v = ⟨index, field, .recordRead, e.message⟩ := by
    rintro ⟨i, f, kind, message⟩ hv rfl rfl
    obtain ⟨e', hget', rfl⟩ := htidy.sound _ hv rfl
    obtain rfl : i = index := hplaced _ hv
    rw [hget] at hget'
    rw [Except.error.inj hget']
  have htold : (⟨index, field, .recordRead, e.message⟩ : Violation) ∈
      a.violationsAfter index r [] := by
    have hread : hasReadViolation (a.violationsAfter index r []) field = true := by
      rw [hasReadViolation_violationsAfter, List.contains_iff_mem.mpr hfield,
        Record.unreadable_of_error hget, Bool.and_true, Bool.or_true]
    obtain ⟨v, hv, hkind⟩ := List.any_eq_true.mp hread
    rw [Bool.and_eq_true, beq_iff_eq, beq_iff_eq] at hkind
    rwa [← honly v hv hkind.1 hkind.2]
  intro v
  rw [violationsAfter_eq, List.mem_append, List.mem_singleton, untold, List.mem_filter]
  constructor
  · rintro (rfl | ⟨hv, _⟩)
    · exact htold
    · exact hv
  · intro hv
    by_cases hkind : v.kind = .recordRead ∧ v.field = field
    · exact .inl (honly v hv hkind.1 hkind.2)
    · refine .inr ⟨hv, ?_⟩
      rw [not_and_or] at hkind
      simpa [hasReadViolation, @eq_comm _ field v.field] using hkind

/-! ## One record -/

/-- An aggregator with other filters. -/
def withFilters (a : Aggregator) (filters : List RecordFilter) : Aggregator :=
  { a with filters }

/-- Whether no order of the filters changes if a record is kept, nor which
violations it has. -/
def OrderFree (a : Aggregator) (index : Nat) (r : ρ) : Prop :=
  ∀ filters, filters.Perm a.filters →
    Option.Rel SameViolations (a.violations? index r) ((a.withFilters filters).violations? index r)

/-- Either all fields of the filters can be read, or no filter rejects the
record and each unreadable field of a filter is read anyway, unless there is no
other such field. -/
def Settled (a : Aggregator) (r : ρ) : Prop :=
  (∀ f ∈ a.filters, unreadable r f.field = false) ∨
    (∀ f ∈ a.filters, f.accepts r ≠ .ok false) ∧
      ∀ f ∈ a.filters, unreadable r f.field = true →
        f.field ∈ a.checkedFields ∨
          ∀ g ∈ a.filters, unreadable r g.field = true → g.field = f.field

/-- Any filter comes first in some order. -/
theorem exists_perm_cons {filters : List RecordFilter} {f : RecordFilter} (h : f ∈ filters) :
    ∃ rest, (f :: rest).Perm filters := by
  obtain ⟨before, after, rfl⟩ := List.append_of_mem h
  exact ⟨before ++ after, List.perm_middle.symm⟩

/-- What a filter comes to that is the first and cannot read its field. -/
theorem violations?_of_unreadable (a : Aggregator) (index : Nat) {r : ρ}
    (hnames : Record.NamesFieldIn r) {f : RecordFilter} {e : ReadError}
    (hget : Record.get r f.field = .error e) (rest : List RecordFilter) :
    (a.withFilters (f :: rest)).violations? index r =
      some (a.violationsAfter index r [⟨index, f.field, .recordRead, e.message⟩]) := by
  have herror : RecordFilter.allAccept r (f :: rest) = .error e := by
    rw [RecordFilter.allAccept, RecordFilter.accepts, hget]
  rw [violations?, withFilters, herror, ← hnames f.field e hget]
  rfl

/-- What a filter comes to that is the first and rejects the record. -/
theorem violations?_of_rejects (a : Aggregator) (index : Nat) {r : ρ} {f : RecordFilter}
    (hrejects : f.accepts r = .ok false) (rest : List RecordFilter) :
    (a.withFilters (f :: rest)).violations? index r = none := by
  rw [violations?, withFilters, RecordFilter.allAccept, hrejects]

/-- A record that no filter rejects is kept, and the unreadable field of some filter is told. -/
theorem violations?_of_unrejected {a : Aggregator} (index : Nat) {r : ρ}
    (hnames : Record.NamesFieldIn r) (hrejects : ∀ f ∈ a.filters, f.accepts r ≠ .ok false) :
    ((∀ f ∈ a.filters, unreadable r f.field = false) ∧
        a.violations? index r = some (a.violationsAfter index r [])) ∨
      ∃ f ∈ a.filters, ∃ e, Record.get r f.field = .error e ∧
        a.violations? index r =
          some (a.violationsAfter index r [⟨index, f.field, .recordRead, e.message⟩]) := by
  cases hvs : a.violations? index r with
  | none =>
    rw [violations?_eq] at hvs
    have hout : RecordFilter.allAccept r a.filters = .ok false := by
      by_contra hne
      have hkeeps : RecordFilter.keeps a.filters r = true := decide_eq_true hne
      rw [hkeeps] at hvs
      cases hvs
    obtain ⟨f, hf, hfalse⟩ := RecordFilter.exists_of_allAccept_eq_false hout
    exact absurd hfalse (hrejects f hf)
  | some vs =>
    rcases violations?_cases hvs with ⟨hpasses, rfl⟩ | ⟨f, hf, e, hget, _, rfl⟩
    · refine .inl ⟨fun f hf => ?_, rfl⟩
      have haccepts := RecordFilter.allAccept_eq_true_iff.mp hpasses f hf
      rw [RecordFilter.accepts] at haccepts
      split at haccepts
      · next v hget => exact Record.unreadable_of_ok hget
      · cases haccepts
    · exact .inr ⟨f, hf, e, hget, by rw [hnames f.field e hget]⟩

theorem OrderFree.unrejected {a : Aggregator} {index : Nat} {r : ρ}
    (hnames : Record.NamesFieldIn r) (h : a.OrderFree index r) {f : RecordFilter}
    (hf : f ∈ a.filters) {e : ReadError} (hget : Record.get r f.field = .error e)
    {g : RecordFilter} (hg : g ∈ a.filters) : g.accepts r ≠ .ok false := by
  intro hrejects
  obtain ⟨rest, hperm⟩ := exists_perm_cons hf
  obtain ⟨rest', hperm'⟩ := exists_perm_cons hg
  have hkept := h _ hperm
  have hout := h _ hperm'
  rw [violations?_of_unreadable a index hnames hget] at hkept
  rw [violations?_of_rejects a index hrejects] at hout
  generalize a.violations? index r = found at hkept hout
  cases hkept
  cases hout

theorem OrderFree.told {a : Aggregator} {index : Nat} {r : ρ} (hnames : Record.NamesFieldIn r)
    (h : a.OrderFree index r) {f g : RecordFilter} (hf : f ∈ a.filters) (hg : g ∈ a.filters)
    (hfread : unreadable r f.field = true) (hgread : unreadable r g.field = true)
    (hfield : f.field ∉ a.checkedFields) : g.field = f.field := by
  obtain ⟨rest, hperm⟩ := exists_perm_cons hf
  obtain ⟨rest', hperm'⟩ := exists_perm_cons hg
  have hffirst := h _ hperm
  have hgfirst := h _ hperm'
  obtain ⟨e, hget⟩ := Record.exists_of_unreadable hfread
  obtain ⟨e', hget'⟩ := Record.exists_of_unreadable hgread
  rw [violations?_of_unreadable a index hnames hget] at hffirst
  rw [violations?_of_unreadable a index hnames hget'] at hgfirst
  generalize a.violations? index r = found at hffirst hgfirst
  cases hffirst with
  | some hffirst =>
    cases hgfirst with
    | some hgfirst =>
      -- The field of `f` is told in one order, so it is in the other, where only
      -- the field of `g` is told by a filter.
      have htold := (hffirst.symm.trans hgfirst).hasReadViolation_eq f.field
      rw [hasReadViolation_violationsAfter, hasReadViolation_violationsAfter,
        Bool.eq_false_iff.mpr (mt List.contains_iff_mem.mp hfield)] at htold
      simpa [hasReadViolation] using htold

/-- The order of the filters decides nothing of a record iff it is settled. -/
theorem orderFree_iff_settled (a : Aggregator) (index : Nat) {r : ρ}
    (hnames : Record.NamesFieldIn r) : a.OrderFree index r ↔ a.Settled r := by
  constructor
  · intro h
    by_cases hread : ∀ f ∈ a.filters, unreadable r f.field = false
    · exact .inl hread
    · push Not at hread
      obtain ⟨f, hf, hunread⟩ := hread
      obtain ⟨e, hget⟩ := Record.exists_of_unreadable (Bool.eq_true_of_not_eq_false hunread)
      refine .inr ⟨fun g hg => h.unrejected hnames hf hget hg, fun g hg hgread => ?_⟩
      by_cases hfield : g.field ∈ a.checkedFields
      · exact .inl hfield
      · exact .inr fun g' hg' hgread' => h.told hnames hg hg' hgread hgread' hfield
  · intro h filters hperm
    by_cases hread : ∀ f ∈ a.filters, unreadable r f.field = false
    · have hsame : (a.withFilters filters).violations? index r = a.violations? index r := by
        rw [violations?, violations?, withFilters, RecordFilter.allAccept_perm hperm hread]
        rfl
      rw [hsame]
      cases a.violations? index r with
      | none => exact .none
      | some vs => exact .some fun v => Iff.rfl
    · obtain ⟨hrejects, htold⟩ := h.resolve_left hread
      have hmem : ∀ f, f ∈ filters ↔ f ∈ a.filters := fun f => hperm.mem_iff
      have hread' : ¬ ∀ f ∈ (a.withFilters filters).filters, unreadable r f.field = false :=
        fun hall => hread fun f hf => hall f ((hmem f).mpr hf)
      obtain ⟨f, hf, e, hget, hvs⟩ :=
        (violations?_of_unrejected index hnames hrejects).resolve_left fun hall => hread hall.1
      obtain ⟨g, hg, e', hget', hvs'⟩ :=
        (violations?_of_unrejected (a := a.withFilters filters) index hnames
          fun f hf => hrejects f ((hmem f).mp hf)).resolve_left fun hall => hread' hall.1
      rw [hvs, hvs']
      refine .some ?_
      have hg : g ∈ a.filters := (hmem g).mp hg
      have hfunread := Record.unreadable_of_error hget
      have hgunread := Record.unreadable_of_error hget'
      have hequal : f.field = g.field →
          SameViolations (a.violationsAfter index r [⟨index, f.field, .recordRead, e.message⟩])
            (a.violationsAfter index r [⟨index, g.field, .recordRead, e'.message⟩]) := by
        intro heq
        rw [heq] at hget
        obtain rfl := Except.error.inj (hget.symm.trans hget')
        rw [heq]
        exact fun v => Iff.rfl
      rcases htold f hf hfunread with hf' | hone
      · rcases htold g hg hgunread with hg' | hone
        · exact (a.sameViolations_told index hget hf').trans
            (a.sameViolations_told index hget' hg').symm
        · exact hequal (hone f hf hfunread)
      · exact hequal (hone g hg hgunread).symm

end Aggregator

/-! ## Runs -/

namespace PartialAggregation

variable {α : Type} [Arithmetic α]

/-- States of runs that have kept the same records, and found the same of each. -/
structure SameFindings (p q : PartialAggregation α) : Prop where
  kept : p.outcomes.map (·.recordIndex) = q.outcomes.map (·.recordIndex)
  found : ∀ o ∈ p.outcomes, ∀ o' ∈ q.outcomes, o.recordIndex = o'.recordIndex →
    SameViolations o.violations o'.violations
  filtered : p.filtered = q.filtered
  tallies : p.tallies = q.tallies

end PartialAggregation

namespace Aggregator

variable {α : Type} [Arithmetic α]

theorem rel_violations?_iff {a b : Aggregator} {index : Nat} {r : ρ} :
    Option.Rel SameViolations (a.violations? index r) (b.violations? index r) ↔
      RecordFilter.keeps a.filters r = RecordFilter.keeps b.filters r ∧
        ∀ vs ws, a.violations? index r = some vs → b.violations? index r = some ws →
          SameViolations vs ws := by
  have hkeeps : ∀ c : Aggregator,
      RecordFilter.keeps c.filters r = (c.violations? index r).isSome := by
    intro c
    rw [violations?_eq]
    cases RecordFilter.keeps c.filters r <;> rfl
  rw [hkeeps a, hkeeps b]
  cases a.violations? index r with
  | none => cases b.violations? index r <;> simp
  | some vs => cases b.violations? index r <;> simp

/-- Two orders of the filters lead to the same findings iff they do of each record. -/
theorem sameFindings_iff (a : Aggregator) (filters : List RecordFilter) (rs : List ρ) :
    (a.reached rs : PartialAggregation α).SameFindings ((a.withFilters filters).reached rs) ↔
      ∀ r i, rs[i]? = some r → Option.Rel SameViolations (a.violations? i r)
        ((a.withFilters filters).violations? i r) := by
  have houtcomes : ∀ b : Aggregator,
      (b.reached rs : PartialAggregation α).outcomes = b.outcomesFrom 0 rs := by
    intro b
    rw [reached, after, PartialAggregation.start, List.nil_append]
  constructor
  · intro h r i hplace
    refine rel_violations?_iff.mpr ⟨?_, fun vs ws hvs hws => ?_⟩
    · have hkept := h.kept
      rw [houtcomes, houtcomes] at hkept
      rw [Bool.eq_iff_iff, ← mem_map_recordIndex_iff hplace, hkept, mem_map_recordIndex_iff hplace]
    · refine h.found ⟨i, vs⟩ ?_ ⟨i, ws⟩ ?_ rfl
      · rw [houtcomes]
        exact mem_outcomesFrom_iff.mpr ⟨r, hplace, hvs⟩
      · rw [houtcomes]
        exact mem_outcomesFrom_iff.mpr ⟨r, hplace, hws⟩
  · intro h
    have hkeeps : ∀ r ∈ rs, RecordFilter.keeps (a.withFilters filters).filters r =
        RecordFilter.keeps a.filters r := by
      intro r hr
      obtain ⟨i, hplace⟩ := List.getElem?_of_mem hr
      exact (rel_violations?_iff.mp (h r i hplace)).1.symm
    have hkept : ∀ c, (a.withFilters filters).keptCells rs c = a.keptCells rs c := by
      intro c
      rw [keptCells, keptCells, List.filter_congr hkeeps]
    refine ⟨?_, ?_, ?_, ?_⟩
    · rw [houtcomes, houtcomes, map_recordIndex_outcomesFrom, map_recordIndex_outcomesFrom]
      congr 1
      refine List.filter_congr fun x hx => ?_
      exact (hkeeps x.1 (List.mem_of_getElem? (List.mk_mem_zipIdx_iff_getElem?.mp hx))).symm
    · intro o ho o' ho' hindex
      rw [houtcomes] at ho ho'
      obtain ⟨r, hplace, hvs⟩ := mem_outcomesFrom_iff.mp ho
      obtain ⟨r', hplace', hvs'⟩ := mem_outcomesFrom_iff.mp ho'
      rw [hindex] at hplace hvs
      obtain rfl := Option.some.inj (hplace.symm.trans hplace')
      exact (rel_violations?_iff.mp (h r _ hplace)).2 _ _ hvs hvs'
    · have hcount : (rs.countP fun r => !RecordFilter.keeps (a.withFilters filters).filters r) =
          rs.countP fun r => !RecordFilter.keeps a.filters r :=
        List.countP_congr fun r hr => by rw [hkeeps r hr]
      simp only [reached, after, hcount]
      rfl
    · rw [tallies_reached, tallies_reached]
      refine List.map_congr_left fun c _ => ?_
      rw [columnTally, columnTally, hkept]
      rfl

/-- Any order of the filters is as good for a schema. -/
theorem bind_withFilters {a : Aggregator} {filters : List RecordFilter}
    (hperm : filters.Perm a.filters) {s : Schema} (h : a.bind s = .ok ()) :
    (a.withFilters filters).bind s = .ok () := by
  rw [bind_eq_ok_iff] at h ⊢
  have hreferenced : (referenced a.constraints a.statColumns filters).Perm
      (referenced a.constraints a.statColumns a.filters) := (hperm.map _).append_left _
  exact fun field hfield => h field (hreferenced.mem_iff.mp hfield)

/-- A run over some records is the same for every order of the filters iff each
of the records is settled: it keeps the same of them, finds the same violations
of each, and measures the same. -/
theorem run_orderFree_iff_settled (a : Aggregator) {s : RecordStream ρ} {rs : List ρ}
    (hbind : a.bind s.schema = .ok ()) (hs : Delivers a.config.recordTimeout s.polls rs)
    (hnames : ∀ r ∈ rs, Record.NamesFieldIn r) :
    (∀ filters, filters.Perm a.filters → ∃ p q : PartialAggregation α,
        a.runPartial s = .finished p ∧ (a.withFilters filters).runPartial s = .finished q ∧
          p.SameFindings q) ↔
      ∀ r ∈ rs, a.Settled r := by
  have hrun := a.runPartial_of_delivers (α := α) hbind hs
  have hrun' : ∀ {filters : List RecordFilter}, filters.Perm a.filters →
      (a.withFilters filters).runPartial s =
        .finished ((a.withFilters filters).reached rs : PartialAggregation α) := fun hperm =>
    (a.withFilters _).runPartial_of_delivers (bind_withFilters hperm hbind) hs
  constructor
  · intro h r hr
    obtain ⟨i, hplace⟩ := List.getElem?_of_mem hr
    rw [← a.orderFree_iff_settled i (hnames r hr)]
    intro filters hperm
    obtain ⟨p, q, hp, hq, hsame⟩ := h filters hperm
    obtain rfl := Ending.finished.inj (hrun.symm.trans hp)
    obtain rfl := Ending.finished.inj ((hrun' hperm).symm.trans hq)
    exact (a.sameFindings_iff filters rs).mp hsame r i hplace
  · intro h filters hperm
    refine ⟨_, _, hrun, hrun' hperm, (a.sameFindings_iff filters rs).mpr fun r i hplace => ?_⟩
    have hr : r ∈ rs := List.mem_of_getElem? hplace
    exact (a.orderFree_iff_settled i (hnames r hr)).mpr (h r hr) filters hperm

/-- Rows that are settled: those that have an unreadable field pass the filter of
the other, and a column or a constraint reads it anyway. -/
theorem run_orderFree_iff_settled_pairRows :
    ∃ (a : Aggregator) (p q : PartialAggregation Float),
      build [.notNull "m"] ["n"] [.isNotNull "n", .isNotNull "m"] .standard = .ok a ∧
        a.runPartial (.ofRecords pairSchema pairRows) = .finished p ∧
        (a.withFilters [.isNotNull "m", .isNotNull "n"]).runPartial
          (.ofRecords pairSchema pairRows) = .finished q ∧ p.SameFindings q ∧ p.filtered = 1 := by
  obtain ⟨a, hbuild⟩ : ∃ a,
      build [.notNull "m"] ["n"] [.isNotNull "n", .isNotNull "m"] .standard = .ok a := ⟨_, rfl⟩
  have hbind : a.bind pairSchema = .ok () := by
    obtain rfl := Except.ok.inj hbuild
    rfl
  have hdelivers := delivers_ofRecords a.config.recordTimeout pairSchema pairRows
  have hsettled : ∀ r ∈ pairRows, a.Settled r := by
    obtain rfl := Except.ok.inj hbuild
    -- All fields of the filters are read anyway.
    have hchecked : ∀ f ∈ [RecordFilter.isNotNull "n", RecordFilter.isNotNull "m"],
        f.field ∈ ["m"] ++ onlyFirst ["n"] := by decide
    refine List.forall_mem_cons.mpr ⟨.inl (by decide), List.forall_mem_cons.mpr
      ⟨.inl (by decide), List.forall_mem_cons.mpr ⟨.inr ⟨?_, fun f hf _ => .inl (hchecked f hf)⟩,
        List.forall_mem_singleton.mpr (.inr ⟨?_, fun f hf _ => .inl (hchecked f hf)⟩)⟩⟩⟩
    all_goals
      intro f hf
      rcases List.mem_pair.mp hf with rfl | rfl <;> exact nofun
  obtain ⟨p, q, hp, hq, hsame⟩ := (run_orderFree_iff_settled (α := Float) a hbind hdelivers
    fun r _ => Row.namesField r).mpr hsettled [.isNotNull "m", .isNotNull "n"] (by
      obtain rfl := Except.ok.inj hbuild
      exact .swap _ _ _)
  refine ⟨a, p, q, hbuild, hp, hq, hsame, ?_⟩
  obtain rfl := Ending.finished.inj ((a.runPartial_of_delivers hbind hdelivers).symm.trans hp)
  obtain rfl := Except.ok.inj hbuild
  rfl

/-- A row whose `n` cannot be read, and whose `m` is null. -/
def tornRow : Row := (Row.ofValues pairSchema [.integer 5, .null]).markUnreadable "n" "torn"

/-- A filter that cannot read its field keeps a record that another one rejects,
if it comes first. -/
theorem exists_order_decides :
    ∃ (a : Aggregator) (filters : List RecordFilter) (p q : PartialAggregation Float),
      build [] [] [.isNotNull "n", .isNotNull "m"] .standard = .ok a ∧
        filters.Perm a.filters ∧
        a.runPartial (.ofRecords pairSchema [tornRow]) = .finished p ∧
        (a.withFilters filters).runPartial (.ofRecords pairSchema [tornRow]) = .finished q ∧
        p.filtered = 0 ∧ q.filtered = 1 ∧ ¬ p.SameFindings q := by
  obtain ⟨a, hbuild⟩ :
      ∃ a, build [] [] [.isNotNull "n", .isNotNull "m"] .standard = .ok a := ⟨_, rfl⟩
  refine ⟨a, [.isNotNull "m", .isNotNull "n"], a.reached [tornRow],
    (a.withFilters [.isNotNull "m", .isNotNull "n"]).reached [tornRow], hbuild, ?_⟩
  obtain rfl := Except.ok.inj hbuild
  exact ⟨.swap _ _ _, rfl, rfl, rfl, rfl, fun h => by cases h.filtered⟩

end Aggregator

end RecordAudit
