import Mathlib.Data.List.Perm.Subperm
import RecordAudit.Stats.Sketch

/-!
# What a reservoir keeps

A reservoir that was offered some items keeps as many of them as it has room
for, and no item more often than it was offered.  Nothing here depends on the
numbers that are drawn, so every fact holds for every source of draws.

* `IsSampleOf` relates a reservoir to the items that were offered to it.  An
  empty reservoir, an offer and a merge each keep it (`isSampleOf_empty`,
  `IsSampleOf.offer`, `IsSampleOf.merge`).
* `merge_cases` says how a merge may end.  Only the last of its cases draws
  numbers, and `IsSampleOf.resample` shows that it fills the reservoir.
* `Sketch.History` is any tree of updates and merges, and
  `Sketch.History.isSampleOf` carries the relation over it.

That each item is kept with the same probability is not treated here.
-/

namespace RecordAudit

namespace Reservoir

variable {γ β : Type}

/-- A reservoir after `xs` were offered to it, in this order.  As long as it
has room the items stand in it as they came. -/
structure IsSampleOf (r : Reservoir γ β) (xs : List β) : Prop where
  seen : r.seen = xs.length
  size : r.samples.size = min xs.length r.capacity
  kept : r.samples.toList.Subperm xs
  all : xs.length ≤ r.capacity → r.samples.toList = xs

/-! ## Empty, exact and full reservoirs -/

theorem isSampleOf_empty (capacity : Nat) (positive : 0 < capacity) (draws : γ) :
    IsSampleOf (empty capacity positive draws : Reservoir γ β) [] where
  seen := rfl
  size := by simp [empty]
  kept := by simp [empty]
  all := by simp [empty]

namespace IsSampleOf

variable {r : Reservoir γ β} {xs : List β}

/-- A reservoir is exact as long as the items fit into it. -/
theorem isExact_iff (h : r.IsSampleOf xs) : r.isExact = true ↔ xs.length ≤ r.capacity := by
  have hseen := h.seen
  have hsize := h.size
  rw [isExact, beq_iff_eq]
  omega

/-- An exact reservoir holds all items as they came. -/
theorem toList_of_isExact (h : r.IsSampleOf xs) (hexact : r.isExact = true) :
    r.samples.toList = xs :=
  h.all (h.isExact_iff.mp hexact)

/-- A reservoir without room is full to its capacity. -/
theorem size_of_full (h : r.IsSampleOf xs) (hfull : ¬r.samples.size < r.capacity) :
    r.samples.size = r.capacity ∧ r.capacity ≤ xs.length := by
  have hsize := h.size
  omega

/-- A reservoir that was offered something keeps something, and no more than
it was offered. -/
theorem size_pos (h : r.IsSampleOf xs) (hseen : r.seen ≠ 0) :
    0 < r.samples.size ∧ r.samples.size ≤ r.seen := by
  have hlen := h.seen
  have hsize := h.size
  have hpos := r.positive
  omega

end IsSampleOf

/-! ## Offers -/

/-- A slot within the capacity of a full reservoir is a slot of its samples. -/
theorem place_of_full (r : Reservoir γ β) (x : β) {slot : Nat}
    (hfull : r.samples.size = r.capacity) (hslot : slot < r.capacity) :
    r.place x slot = r.samples.set slot x (by omega) := by
  have hin : slot < r.samples.size := by omega
  rw [place, if_pos hslot, Array.setIfInBounds_def, dif_pos hin]

@[simp] theorem size_place (r : Reservoir γ β) (x : β) (slot : Nat) :
    (r.place x slot).size = r.samples.size := by
  rw [place]
  split <;> simp

/-- To place an item at a slot may drop a kept item, and adds the new one at
most once. -/
theorem place_subperm (r : Reservoir γ β) (x : β) (slot : Nat) :
    (r.place x slot).toList.Subperm (x :: r.samples.toList) := by
  have hdrop : r.samples.toList.Subperm (x :: r.samples.toList) :=
    (List.sublist_cons_self _ _).subperm
  rw [place]
  split
  · rw [Array.toList_setIfInBounds]
    by_cases hin : slot < r.samples.toList.length
    · refine (List.set_perm_cons_eraseIdx hin x).subperm.trans ?_
      exact ((List.eraseIdx_sublist _ _).cons_cons x).subperm
    · rw [List.set_eq_of_length_le (by omega)]
      exact hdrop
  · exact hdrop

variable [Draws γ]

@[simp] theorem capacity_offer (r : Reservoir γ β) (x : β) :
    (r.offer x).capacity = r.capacity := by
  rw [offer]
  split <;> rfl

/-- An offer goes to the end of the samples, or to a slot if there is no room. -/
theorem samples_offer (r : Reservoir γ β) (x : β) :
    (r.samples.size < r.capacity ∧ (r.offer x).samples = r.samples.push x) ∨
      (¬r.samples.size < r.capacity ∧ ∃ slot, (r.offer x).samples = r.place x slot) := by
  rw [offer]
  split
  · next hroom => exact Or.inl ⟨hroom, rfl⟩
  · next hfull => exact Or.inr ⟨hfull, _, rfl⟩

@[simp] theorem seen_offer (r : Reservoir γ β) (x : β) : (r.offer x).seen = r.seen + 1 := by
  rw [offer]
  split <;> rfl

/-- An offer adds one item to those that were offered. -/
theorem IsSampleOf.offer {r : Reservoir γ β} {xs : List β} (h : r.IsSampleOf xs) (x : β) :
    (r.offer x).IsSampleOf (xs ++ [x]) := by
  have hsize := h.size
  rcases samples_offer r x with ⟨hroom, hs⟩ | ⟨hfull, slot, hs⟩
  · have hxs : r.samples.toList = xs := h.all (by omega)
    have hall : (r.offer x).samples.toList = xs ++ [x] := by rw [hs, Array.toList_push, hxs]
    refine ⟨by simp [h.seen], ?_, ?_, fun _ => hall⟩
    · rw [hs, Array.size_push, capacity_offer, List.length_append, List.length_singleton]
      omega
    · rw [hall]
  · obtain ⟨hcap, hlen⟩ := h.size_of_full hfull
    refine ⟨by simp [h.seen], ?_, ?_, ?_⟩
    · rw [hs, size_place, capacity_offer, List.length_append, List.length_singleton]
      omega
    · rw [hs]
      refine (place_subperm r x slot).trans ?_
      exact ((List.subperm_cons x).mpr h.kept).trans (List.perm_append_singleton x xs).symm.subperm
    · rw [capacity_offer, List.length_append, List.length_singleton]
      omega

/-! ## Merges -/

/-- The three ways to merge reservoirs of one capacity: with an empty one on
either side, by putting the samples together, and by drawing. -/
theorem merge_cases {a b c : Reservoir γ β} (h : a.merge b = .ok c) :
    a.capacity = b.capacity ∧
      ((b.seen = 0 ∧ c = a) ∨
        (a.seen = 0 ∧ c = { a with seen := b.seen, samples := b.samples }) ∨
        (a.isExact = true ∧ b.isExact = true ∧ a.samples.size + b.samples.size ≤ a.capacity ∧
          c = { a with seen := a.seen + b.seen, samples := a.samples ++ b.samples }) ∨
        (a.seen ≠ 0 ∧ b.seen ≠ 0 ∧
          ¬(a.isExact = true ∧ b.isExact = true ∧
            a.samples.size + b.samples.size ≤ a.capacity) ∧
          c = a.resample b)) := by
  rw [merge] at h
  split_ifs at h with hcap hb ha hfit <;> cases h
  · exact ⟨not_not.mp hcap, Or.inl ⟨hb, rfl⟩⟩
  · exact ⟨not_not.mp hcap, Or.inr (Or.inl ⟨ha, rfl⟩)⟩
  · exact ⟨not_not.mp hcap, Or.inr (Or.inr (Or.inl ⟨hfit.1, hfit.2.1, hfit.2.2, rfl⟩))⟩
  · exact ⟨not_not.mp hcap, Or.inr (Or.inr (Or.inr ⟨ha, hb, hfit, rfl⟩))⟩

theorem capacity_merge {a b c : Reservoir γ β} (h : a.merge b = .ok c) :
    c.capacity = a.capacity := by
  obtain ⟨_, ⟨_, rfl⟩ | ⟨_, rfl⟩ | ⟨_, _, _, rfl⟩ | ⟨_, _, _, rfl⟩⟩ := merge_cases h <;> rfl

/-- A merge is refused for different capacities, and only for them. -/
theorem merge_eq_error_iff (a b : Reservoir γ β) (fault : MergeFault) :
    a.merge b = .error fault ↔
      a.capacity ≠ b.capacity ∧ fault = .differentCapacities a.capacity b.capacity := by
  constructor
  · intro h
    rw [merge] at h
    split_ifs at h with hcap
    cases h
    exact ⟨hcap, rfl⟩
  · rintro ⟨hcap, rfl⟩
    rw [merge, if_pos hcap]

/-- The keys of a weighted draw leave the items as they are. -/
theorem map_snd_keyed (weight : Float) (xs : List β) (draws : γ) :
    (keyed weight xs draws).1.map Prod.snd = xs := by
  induction xs generalizing draws with
  | nil => rfl
  | cons x rest ih => simp [keyed, ih]

theorem winners_subperm (count : Nat) (items : List (Float × β)) :
    (winners count items).Subperm (items.map Prod.snd) := by
  have htake := (List.take_sublist count
    (items.mergeSort fun a b => !Double.less a.1 b.1)).map Prod.snd
  exact htake.subperm.trans ((List.mergeSort_perm items _).map Prod.snd).subperm

theorem length_winners (count : Nat) (items : List (Float × β)) :
    (winners count items).length = min count items.length := by
  simp [winners]

/-- A draw picks its winners from both samples. -/
theorem samples_resample (a b : Reservoir γ β) :
    ∃ items : List (Float × β),
      items.map Prod.snd = a.samples.toList ++ b.samples.toList ∧
        (a.resample b).samples = (winners a.capacity items).toArray := by
  refine ⟨_, ?_, rfl⟩
  rw [List.map_append, map_snd_keyed, map_snd_keyed]

namespace IsSampleOf

variable {a b c : Reservoir γ β} {xs ys : List β}

/-- A draw happens only if the items do not all fit, and then it fills the
reservoir.  If both samples are exact they hold all items together; otherwise
one of them is full already. -/
theorem resample (ha : a.IsSampleOf xs) (hb : b.IsSampleOf ys) (hcap : a.capacity = b.capacity)
    (hfit : ¬(a.isExact = true ∧ b.isExact = true ∧
      a.samples.size + b.samples.size ≤ a.capacity)) :
    (a.resample b).IsSampleOf (xs ++ ys) := by
  obtain ⟨items, hitems, hs⟩ := samples_resample a b
  have hsizea := ha.size
  have hsizeb := hb.size
  have hlen : items.length = a.samples.size + b.samples.size := by
    simpa using congrArg List.length hitems
  rw [ha.isExact_iff, hb.isExact_iff] at hfit
  have hfull : a.capacity ≤ items.length := by omega
  have hover : a.capacity < (xs ++ ys).length := by
    rw [List.length_append]
    omega
  have hsize : (a.resample b).samples.size = a.capacity := by
    rw [hs, List.size_toArray, length_winners]
    omega
  refine ⟨?_, ?_, ?_, fun hle => absurd hle (Nat.not_le.mpr hover)⟩
  · simp [Reservoir.resample, ha.seen, hb.seen]
  · rw [hsize]
    exact (Nat.min_eq_right (Nat.le_of_lt hover)).symm
  · rw [hs, List.toList_toArray]
    refine (winners_subperm a.capacity items).trans ?_
    rw [hitems]
    exact ha.kept.append hb.kept

/-- A merge takes over the items that were offered to the other reservoir. -/
theorem merge (ha : a.IsSampleOf xs) (hb : b.IsSampleOf ys) (h : a.merge b = .ok c) :
    c.IsSampleOf (xs ++ ys) ∧ c.capacity = a.capacity := by
  obtain ⟨hcap, ⟨hseen, rfl⟩ | ⟨hseen, rfl⟩ | ⟨hea, heb, hfit, rfl⟩ | ⟨_, _, hfit, rfl⟩⟩ :=
    merge_cases h
  · have hnil : ys = [] := List.length_eq_zero_iff.mp (hb.seen.symm.trans hseen)
    rw [hnil, List.append_nil]
    exact ⟨ha, rfl⟩
  · have hnil : xs = [] := List.length_eq_zero_iff.mp (ha.seen.symm.trans hseen)
    rw [hnil, List.nil_append]
    exact ⟨⟨hb.seen, by simpa [hcap] using hb.size, hb.kept, by simpa [hcap] using hb.all⟩, rfl⟩
  · have hxs := ha.toList_of_isExact hea
    have hys := hb.toList_of_isExact heb
    have hlena : a.samples.size = xs.length := by rw [← hxs, Array.length_toList]
    have hlenb : b.samples.size = ys.length := by rw [← hys, Array.length_toList]
    have hall : (a.samples ++ b.samples).toList = xs ++ ys := by
      rw [Array.toList_append, hxs, hys]
    refine ⟨⟨by simp [ha.seen, hb.seen], ?_, by rw [hall], fun _ => hall⟩, rfl⟩
    simp only [Array.size_append, List.length_append]
    omega
  · exact ⟨ha.resample hb hcap hfit, rfl⟩

end IsSampleOf

end Reservoir

namespace Sketch

variable {γ : Type} [Draws γ]

/-- The values that a sketch does not ignore. -/
def numbers (xs : List Float) : List Float := xs.filter fun x => !Double.isNaN x

@[simp] theorem numbers_append (xs ys : List Float) :
    numbers (xs ++ ys) = numbers xs ++ numbers ys := List.filter_append xs ys

theorem isSampleOf_update {s : Sketch γ} {xs : List Float}
    (h : s.IsSampleOf (numbers xs)) (x : Float) :
    (update s x).IsSampleOf (numbers (xs ++ [x])) := by
  rw [update, numbers_append]
  split
  · next hnan =>
    have hx : numbers [x] = [] := by simp [numbers, hnan]
    rwa [hx, List.append_nil]
  · next hnum =>
    have hx : numbers [x] = [x] := by simp [numbers, hnum]
    rw [hx]
    exact h.offer x

/-- How a sketch came about: what `Reservoir.new` gives for a positive
capacity, an update, or a merge into the first of two sketches. -/
inductive History (γ : Type) where
  | new (capacity : Nat) (positive : 0 < capacity) (draws : γ)
  | update (h : History γ) (x : Float)
  | merge (h k : History γ)

namespace History

def capacity : History γ → Nat
  | new capacity _ _ => capacity
  | update h _ => h.capacity
  | merge h _ => h.capacity

/-- All values that were offered on the way.  A merge of sketches of different
capacities offers nothing. -/
def offered : History γ → List Float
  | new _ _ _ => []
  | update h x => h.offered ++ [x]
  | merge h k => if h.capacity = k.capacity then h.offered ++ k.offered else h.offered

/-- The sketch that came about.  After a refused merge it is the one that
stood there before. -/
def sketch : History γ → Sketch γ
  | new capacity positive draws => .empty capacity positive draws
  | update h x => Sketch.update h.sketch x
  | merge h k =>
    match h.sketch.merge k.sketch with
    | .ok s => s
    | .error _ => h.sketch

/-- One induction for both facts: which merges are refused depends on the
capacities of the sketches. -/
theorem isSampleOf (h : History γ) :
    h.sketch.IsSampleOf (numbers h.offered) ∧ h.sketch.capacity = h.capacity := by
  induction h with
  | new capacity positive draws => exact ⟨Reservoir.isSampleOf_empty _ _ _, rfl⟩
  | update h x ih =>
    refine ⟨isSampleOf_update ih.1 x, ?_⟩
    rw [sketch, capacity, Sketch.update, ← ih.2]
    split <;> simp
  | merge h k ihh ihk =>
    rw [sketch, offered, capacity]
    split
    · next s hs =>
      have hcap : h.capacity = k.capacity := by
        rw [← ihh.2, ← ihk.2]
        exact (Reservoir.merge_cases hs).1
      obtain ⟨hsample, hkeep⟩ := ihh.1.merge ihk.1 hs
      rw [if_pos hcap]
      rw [numbers_append]
      exact ⟨hsample, hkeep.trans ihh.2⟩
    · next fault hfault =>
      have hcap := ((Reservoir.merge_eq_error_iff _ _ fault).mp hfault).1
      rw [ihh.2, ihk.2] at hcap
      rw [if_neg hcap]
      exact ihh

/-- What a sketch holds after any tree of updates and merges, whatever is
drawn on the way.  The last parts are what an update and a merge rely on: a
slot within the capacity of a full sketch is one of its samples, a sketch that
has seen something is no zero divisor of a weight, and a merge of different
capacities leaves the sketch as it was. -/
theorem retains_sample (h : History γ) :
    h.sketch.seen = (numbers h.offered).length ∧
      h.sketch.samples.size = min h.sketch.seen h.sketch.capacity ∧
      h.sketch.samples.toList.Subperm (numbers h.offered) ∧
      (h.sketch.isExact = true ↔ h.sketch.seen ≤ h.sketch.capacity) ∧
      (h.sketch.isExact = true → h.sketch.samples.toList.Perm (numbers h.offered)) ∧
      (∀ x slot, ¬h.sketch.samples.size < h.sketch.capacity → slot < h.sketch.capacity →
        ∃ hslot : slot < h.sketch.samples.size,
          h.sketch.place x slot = h.sketch.samples.set slot x hslot) ∧
      (h.sketch.seen ≠ 0 →
        0 < h.sketch.samples.size ∧ h.sketch.samples.size ≤ h.sketch.seen) ∧
      ∀ k : History γ,
        ((∃ fault, h.sketch.merge k.sketch = .error fault) ↔
          h.sketch.capacity ≠ k.sketch.capacity) ∧
        (h.sketch.capacity ≠ k.sketch.capacity →
          (merge h k).sketch = h.sketch ∧ (merge h k).offered = h.offered) := by
  obtain ⟨hs, hcap⟩ := h.isSampleOf
  refine ⟨hs.seen, ?_, hs.kept, ?_, ?_, ?_, hs.size_pos, fun k => ⟨?_, ?_⟩⟩
  · rw [hs.seen]
    exact hs.size
  · rw [hs.seen]
    exact hs.isExact_iff
  · intro hexact
    rw [hs.toList_of_isExact hexact]
  · intro x slot hfull hslot
    have hsize := (hs.size_of_full hfull).1
    exact ⟨by omega, Reservoir.place_of_full _ x hsize hslot⟩
  · simp only [Reservoir.merge_eq_error_iff, exists_and_left, exists_eq, and_true]
  · intro hne
    have hfault := (Reservoir.merge_eq_error_iff _ _ _).mpr ⟨hne, rfl⟩
    rw [sketch, hfault, offered, if_neg]
    · exact ⟨rfl, rfl⟩
    · rwa [hcap, k.isSampleOf.2] at hne

end History

end Sketch

end RecordAudit
