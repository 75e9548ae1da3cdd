import Mathlib.Algebra.BigOperators.Group.Finset.Basic
import Mathlib.Data.Fintype.BigOperators
import Mathlib.Data.List.GetD
import Mathlib.Data.Nat.Choose.Basic
import Mathlib.Order.Interval.Finset.Fin
import Mathlib.Order.Interval.Finset.Nat
import Mathlib.SetTheory.Cardinal.Finite
import RecordAudit.Proofs.Stats.Sampling

/-!
# Every sample is drawn equally often

Once a reservoir is full, the i-th item draws a slot below i.  `Choices` holds
one such slot for each of these items, and a reservoir can draw from it, so the
law of the sample is a matter of counting: `retained` is the set of the places
that are kept, and each set of the right size comes from equally many choices.

* `keptPlaces` is the reservoir of places as a recursion on their number, and
  `toList_samples_ofPlaces` says that it is what offers come to.
* `Choices.succEquiv` splits off the last slot.  `card_keepers_of_not_mem` counts
  the choices that pass over the last item, `card_keepers_of_mem` those that keep
  it, and `card_keepers` is the induction.
* `offer_mapped` says that a reservoir does not look at the items.  So what
  holds of places holds of the values that stand there.
* `Sketch.update_uniform` says it of the values that a sketch is updated with.

The weighted draw of a merge is not treated here.
-/

namespace RecordAudit

namespace Reservoir

/-! ## Choices -/

/-- What a reservoir draws while `n` items are offered to it: a slot below i
for the i-th item, as soon as there is no room. -/
def Choices (capacity n : Nat) : Type := (i : Finset.Ioc capacity n) → Fin i

variable {capacity n : Nat}

namespace Choices

instance : Fintype (Choices capacity n) :=
  inferInstanceAs (Fintype ((i : Finset.Ioc capacity n) → Fin i))

instance : DecidableEq (Choices capacity n) :=
  inferInstanceAs (DecidableEq ((i : Finset.Ioc capacity n) → Fin i))

/-- The slot of the i-th item.  Only the items that have one ask for it. -/
def slot (c : Choices capacity n) (i : Nat) : Nat :=
  if h : i ∈ Finset.Ioc capacity n then c ⟨i, h⟩ else 0

/-- A reservoir that draws below i gets the slot of the i-th item. -/
instance : Draws (Choices capacity n) where
  below bound c := (c.slot bound, c)
  fraction c := (0, c)

theorem slot_of_mem (c : Choices capacity n) {i : Nat} (h : i ∈ Finset.Ioc capacity n) :
    c.slot i = c ⟨i, h⟩ := dif_pos h

theorem mem_Ioc_succ {i : Nat} (h : i ∈ Finset.Ioc capacity n) :
    i ∈ Finset.Ioc capacity (n + 1) := by
  rw [Finset.mem_Ioc] at h ⊢
  omega

theorem last_mem_Ioc (h : capacity ≤ n) : n + 1 ∈ Finset.Ioc capacity (n + 1) := by
  rw [Finset.mem_Ioc]
  omega

/-- Choices for one more item are choices for the items before it and a slot of
its own. -/
def succEquiv (h : capacity ≤ n) : Choices capacity (n + 1) ≃ Choices capacity n × Fin (n + 1) where
  toFun c := (fun i => c ⟨i, mem_Ioc_succ i.2⟩, c ⟨n + 1, last_mem_Ioc h⟩)
  invFun x i :=
    if hi : i.val = n + 1 then x.2.cast hi.symm
    else x.1 ⟨i, by have := Finset.mem_Ioc.mp i.2; rw [Finset.mem_Ioc]; omega⟩
  left_inv c := by
    funext i
    obtain ⟨i, hmem⟩ := i
    by_cases hi : i = n + 1
    · subst hi
      simp
    · simp [hi]
  right_inv x := by
    obtain ⟨c, s⟩ := x
    refine Prod.ext ?_ ?_
    · funext i
      have hne : i.val ≠ n + 1 := by
        have := Finset.mem_Ioc.mp i.2
        omega
      simp [hne]
    · simp

theorem slot_succEquiv (h : capacity ≤ n) (c : Choices capacity (n + 1)) {i : Nat}
    (hi : i ∈ Finset.Ioc capacity n) : (succEquiv h c).1.slot i = c.slot i := by
  rw [slot_of_mem _ hi, slot_of_mem _ (mem_Ioc_succ hi)]
  rfl

theorem slot_last (h : capacity ≤ n) (c : Choices capacity (n + 1)) :
    c.slot (n + 1) = (succEquiv h c).2 := slot_of_mem c (last_mem_Ioc h)

end Choices

/-! ## The places that are kept -/

/-- A full list of places after one more place has drawn a slot. -/
def replaced (capacity : Nat) (kept : List Nat) (place slot : Nat) : List Nat :=
  if slot < capacity then kept.set slot place else kept

/-- The places that are kept of the first ones, if the i-th item draws `slot i`. -/
def keptPlaces (capacity : Nat) (slot : Nat → Nat) : Nat → List Nat
  | 0 => []
  | m + 1 =>
    let kept := keptPlaces capacity slot m
    if m < capacity then kept ++ [m] else replaced capacity kept m (slot (m + 1))

theorem keptPlaces_succ (slot : Nat → Nat) {m : Nat} (h : capacity ≤ m) :
    keptPlaces capacity slot (m + 1) =
      replaced capacity (keptPlaces capacity slot m) m (slot (m + 1)) := by
  rw [keptPlaces, if_neg (by omega)]

/-- Only the slots of items that find no room matter. -/
theorem keptPlaces_congr {slot slot' : Nat → Nat} {m : Nat}
    (h : ∀ i ∈ Finset.Ioc capacity m, slot i = slot' i) :
    keptPlaces capacity slot m = keptPlaces capacity slot' m := by
  induction m with
  | zero => rfl
  | succ m ih =>
    have hm := ih fun i hi => h i (Choices.mem_Ioc_succ hi)
    rw [keptPlaces, keptPlaces, hm]
    split
    · rfl
    · rw [h (m + 1) (Choices.last_mem_Ioc (by omega))]

theorem draws_offer {β : Type} (r : Reservoir (Choices capacity n) β) (x : β) :
    (r.offer x).draws = r.draws := by
  rw [offer]
  split <;> rfl

/-- The item after those that were seen draws below its own number. -/
theorem samples_offer_of_full {β : Type} (r : Reservoir (Choices capacity n) β) (x : β)
    (hfull : ¬r.samples.size < r.capacity) :
    (r.offer x).samples = r.place x (r.draws.slot (r.seen + 1)) := by
  rw [offer, if_neg hfull]
  rfl

/-- A reservoir that was offered the first places. -/
def ofPlaces (hpos : 0 < capacity) (c : Choices capacity n) (m : Nat) :
    Reservoir (Choices capacity n) Nat :=
  (List.range m).foldl offer (empty capacity hpos c)

theorem ofPlaces_succ (hpos : 0 < capacity) (c : Choices capacity n) (m : Nat) :
    ofPlaces hpos c (m + 1) = (ofPlaces hpos c m).offer m := by
  rw [ofPlaces, List.range_succ, List.foldl_append]
  rfl

theorem draws_ofPlaces (hpos : 0 < capacity) (c : Choices capacity n) (m : Nat) :
    (ofPlaces hpos c m).draws = c := by
  induction m with
  | zero => rfl
  | succ m ih => rw [ofPlaces_succ, draws_offer, ih]

theorem isSampleOf_ofPlaces (hpos : 0 < capacity) (c : Choices capacity n) (m : Nat) :
    (ofPlaces hpos c m).IsSampleOf (List.range m) ∧ (ofPlaces hpos c m).capacity = capacity := by
  induction m with
  | zero => exact ⟨isSampleOf_empty _ _ _, rfl⟩
  | succ m ih =>
    rw [ofPlaces_succ, List.range_succ, capacity_offer]
    exact ⟨ih.1.offer m, ih.2⟩

/-- Offers keep the places that the recursion says. -/
theorem toList_samples_ofPlaces (hpos : 0 < capacity) (c : Choices capacity n) (m : Nat) :
    (ofPlaces hpos c m).samples.toList = keptPlaces capacity c.slot m := by
  induction m with
  | zero => rfl
  | succ m ih =>
    obtain ⟨hsample, hcapacity⟩ := isSampleOf_ofPlaces hpos c m
    have hseen : (ofPlaces hpos c m).seen = m := by rw [hsample.seen, List.length_range]
    have hsize := hsample.size
    rw [List.length_range, hcapacity] at hsize
    rw [ofPlaces_succ, keptPlaces, ← ih]
    rcases samples_offer (ofPlaces hpos c m) m with ⟨hroom, hs⟩ | ⟨hfull, _⟩
    · rw [hs, Array.toList_push, if_pos (by omega)]
    · have hm : ¬m < capacity := by omega
      rw [samples_offer_of_full _ _ hfull, hseen, draws_ofPlaces, place, hcapacity, if_neg hm,
        replaced]
      split
      · rw [Array.toList_setIfInBounds]
      · rfl

/-- A full reservoir keeps as many places as it has room for, each once. -/
theorem keptPlaces_of_full (hpos : 0 < capacity) (c : Choices capacity n) (h : capacity ≤ n) :
    (keptPlaces capacity c.slot n).Nodup ∧ (keptPlaces capacity c.slot n).length = capacity ∧
      ∀ p ∈ keptPlaces capacity c.slot n, p < n := by
  obtain ⟨hsample, hcapacity⟩ := isSampleOf_ofPlaces hpos c n
  have hsize := hsample.size
  have hkept := hsample.kept
  rw [toList_samples_ofPlaces] at hkept
  rw [← Array.length_toList, toList_samples_ofPlaces, List.length_range, hcapacity] at hsize
  obtain ⟨l, hperm, hsub⟩ := hkept
  refine ⟨hperm.nodup_iff.mp (List.nodup_range.sublist hsub), by omega, fun p hp => ?_⟩
  exact List.mem_range.mp (hsub.subset (hperm.mem_iff.mpr hp))

theorem keptPlaces_of_le (hpos : 0 < capacity) (c : Choices capacity n) {m : Nat}
    (h : m ≤ capacity) : keptPlaces capacity c.slot m = List.range m := by
  obtain ⟨hsample, hcapacity⟩ := isSampleOf_ofPlaces hpos c m
  rw [← toList_samples_ofPlaces hpos]
  exact hsample.all (by rw [List.length_range, hcapacity]; exact h)

/-! ## Counting the choices -/

/-- To replace a place is to take it out and to put the new one in. -/
theorem toFinset_replaced {kept : List Nat} (hnodup : kept.Nodup) (hlen : kept.length = capacity)
    (place : Nat) {slot : Nat} (hslot : slot < kept.length) :
    (replaced capacity kept place slot).toFinset =
      insert place (kept.toFinset.erase kept[slot]) := by
  ext p
  rw [replaced, if_pos (hlen ▸ hslot), List.mem_toFinset,
    (List.set_perm_cons_eraseIdx hslot place).mem_iff, ← hnodup.erase_getElem _ hslot,
    List.mem_cons, hnodup.mem_erase_iff, Finset.mem_insert, Finset.mem_erase, List.mem_toFinset]

/-- A set with the new place in it is reached from the set that had some other
place instead, by the slot where that one stood. -/
theorem toFinset_replaced_eq_iff {kept : List Nat} (hnodup : kept.Nodup)
    (hlen : kept.length = capacity) (hlt : ∀ p ∈ kept, p < n) {S : Finset Nat} (hS : n ∈ S)
    (slot : Nat) :
    (replaced capacity kept n slot).toFinset = S ↔
      ∃ hslot : slot < kept.length,
        kept[slot] ∈ Finset.range n \ S ∧ kept.toFinset = insert kept[slot] (S.erase n) := by
  have hfresh : n ∉ kept := fun hn => absurd (hlt n hn) (Nat.lt_irrefl n)
  constructor
  · intro hkept
    have hslot : slot < kept.length := by
      by_contra hbeyond
      rw [replaced, if_neg (by omega)] at hkept
      exact hfresh (List.mem_toFinset.mp (hkept ▸ hS))
    have hmem : kept[slot] ∈ kept := List.getElem_mem hslot
    rw [toFinset_replaced hnodup hlen n hslot] at hkept
    refine ⟨hslot, Finset.mem_sdiff.mpr ⟨Finset.mem_range.mpr (hlt _ hmem), ?_⟩, ?_⟩
    · rw [← hkept, Finset.mem_insert, not_or]
      exact ⟨fun heq => hfresh (heq ▸ hmem), Finset.notMem_erase _ _⟩
    · rw [← hkept, Finset.erase_insert, Finset.insert_erase (List.mem_toFinset.mpr hmem)]
      exact fun hn => hfresh (List.mem_toFinset.mp (Finset.mem_of_mem_erase hn))
  · rintro ⟨hslot, hout, hkept⟩
    have hother : kept[slot] ∉ S.erase n := fun hin =>
      (Finset.mem_sdiff.mp hout).2 (Finset.mem_of_mem_erase hin)
    rw [toFinset_replaced hnodup hlen n hslot, hkept, Finset.erase_insert hother,
      Finset.insert_erase hS]

theorem keptPlaces_succEquiv (h : capacity ≤ n) (c : Choices capacity (n + 1)) :
    keptPlaces capacity c.slot (n + 1) =
      replaced capacity (keptPlaces capacity (Choices.succEquiv h c).1.slot n) n
        (Choices.succEquiv h c).2 := by
  have hsame : keptPlaces capacity c.slot n =
      keptPlaces capacity (Choices.succEquiv h c).1.slot n :=
    keptPlaces_congr fun i hi => (Choices.slot_succEquiv h c hi).symm
  rw [keptPlaces_succ _ h, hsame, Choices.slot_last h]

/-- The choices that lead to a set of places. -/
def keepers (capacity n : Nat) (S : Finset Nat) : Finset (Choices capacity n) :=
  {c | (keptPlaces capacity c.slot n).toFinset = S}

@[simp] theorem mem_keepers {S : Finset Nat} {c : Choices capacity n} :
    c ∈ keepers capacity n S ↔ (keptPlaces capacity c.slot n).toFinset = S := by
  simp [keepers]

/-- The last place is passed over if it draws a slot beyond the capacity, and
then all others stay. -/
theorem card_keepers_of_not_mem (hpos : 0 < capacity) (h : capacity ≤ n) {S : Finset Nat}
    (hS : n ∉ S) :
    (keepers capacity (n + 1) S).card = (keepers capacity n S).card * (n + 1 - capacity) := by
  have hcard : (Finset.Ici (⟨capacity, by omega⟩ : Fin (n + 1))).card = n + 1 - capacity :=
    Fin.card_Ici _
  rw [← hcard, ← Finset.card_product]
  refine Finset.card_equiv (Choices.succEquiv h) fun c => ?_
  rw [mem_keepers, keptPlaces_succEquiv h, Finset.mem_product, mem_keepers, Finset.mem_Ici]
  generalize Choices.succEquiv h c = x
  obtain ⟨c, s⟩ := x
  obtain ⟨hnodup, hlen, hlt⟩ := keptPlaces_of_full hpos c h
  by_cases hs : s.val < capacity
  · have hmem : n ∈ (replaced capacity (keptPlaces capacity c.slot n) n s).toFinset := by
      rw [toFinset_replaced hnodup hlen n (by omega)]
      exact Finset.mem_insert_self _ _
    constructor
    · rintro rfl
      exact absurd hmem hS
    · rintro ⟨_, hle⟩
      exact absurd (Fin.le_def.mp hle) (by simpa using hs)
  · rw [replaced, if_neg hs]
    have hle : (⟨capacity, by omega⟩ : Fin (n + 1)) ≤ s := Fin.le_def.mpr (by simpa using hs)
    exact ⟨fun hkept => ⟨hkept, hle⟩, And.left⟩

/-- The last place is kept if it takes the slot of one that is not in the set,
and all others of the set were kept before. -/
theorem card_keepers_of_mem (hpos : 0 < capacity) (h : capacity ≤ n) {S : Finset Nat}
    (hS : n ∈ S) :
    (keepers capacity (n + 1) S).card =
      ∑ q ∈ Finset.range n \ S, (keepers capacity n (insert q (S.erase n))).card := by
  have hpairs : (keepers capacity (n + 1) S).card =
      ({x : Choices capacity n × Fin (n + 1) |
        (replaced capacity (keptPlaces capacity x.1.slot n) n x.2).toFinset = S} :
          Finset _).card := by
    refine Finset.card_equiv (Choices.succEquiv h) fun c => ?_
    rw [mem_keepers, keptPlaces_succEquiv h, Finset.mem_filter_univ]
  have hiff : ∀ (c : Choices capacity n) (s : Fin (n + 1)), _ := fun c s =>
    let ⟨hnodup, hlen, hlt⟩ := keptPlaces_of_full hpos c h
    toFinset_replaced_eq_iff hnodup hlen hlt hS s
  rw [hpairs, ← Finset.card_sigma]
  -- A slot is told by the place that stood there.
  refine Finset.card_bij
    (fun x _ => ⟨(keptPlaces capacity x.1.slot n).getD x.2 0, x.1⟩) ?_ ?_ ?_
  · rintro ⟨c, s⟩ hx
    obtain ⟨hslot, hout, hkept⟩ := (hiff c s).mp (by simpa using hx)
    rw [Finset.mem_sigma, mem_keepers, List.getD_eq_getElem _ _ hslot]
    exact ⟨hout, hkept⟩
  · rintro ⟨c, s⟩ hx ⟨c', s'⟩ hx' heq
    simp only [Sigma.mk.injEq, heq_eq_eq] at heq
    obtain ⟨hplace, rfl⟩ := heq
    obtain ⟨hslot, _⟩ := (hiff c s).mp (by simpa using hx)
    obtain ⟨hslot', _⟩ := (hiff c s').mp (by simpa using hx')
    rw [List.getD_eq_getElem _ _ hslot, List.getD_eq_getElem _ _ hslot'] at hplace
    have hval := (keptPlaces_of_full hpos c h).1.getElem_inj_iff.mp hplace
    rw [Fin.ext hval]
  · rintro ⟨q, c⟩ hq
    rw [Finset.mem_sigma, mem_keepers] at hq
    have hmem : q ∈ keptPlaces capacity c.slot n := by
      rw [← List.mem_toFinset, hq.2]
      exact Finset.mem_insert_self _ _
    obtain ⟨i, hi, rfl⟩ := List.getElem_of_mem hmem
    have hlen := (keptPlaces_of_full hpos c h).2.1
    refine ⟨(c, ⟨i, by omega⟩), ?_, ?_⟩
    · rw [Finset.mem_filter_univ]
      exact (hiff c ⟨i, by omega⟩).mpr ⟨hi, hq⟩
    · exact Sigma.ext (List.getD_eq_getElem _ _ hi) HEq.rfl

/-- Only the choice of nothing is made for items that all find room. -/
theorem card_choices_self : Fintype.card (Choices capacity capacity) = 1 := by
  have : IsEmpty (Finset.Ioc capacity capacity) := by
    rw [Finset.Ioc_self]
    infer_instance
  have : Unique (Choices capacity capacity) :=
    inferInstanceAs (Unique ((i : Finset.Ioc capacity capacity) → Fin i))
  exact Fintype.card_unique

/-- Every set of as many places as there is room for comes from equally many choices. -/
theorem card_keepers (hpos : 0 < capacity) (h : capacity ≤ n) {S : Finset Nat}
    (hS : S ⊆ Finset.range n) (hcard : S.card = capacity) :
    (keepers capacity n S).card = (n - capacity).factorial := by
  induction n, h using Nat.le_induction generalizing S with
  | base =>
    have hfull : S = Finset.range capacity :=
      Finset.eq_of_subset_of_card_le hS (by rw [hcard, Finset.card_range])
    have hall : keepers capacity capacity S = Finset.univ := by
      refine Finset.eq_univ_of_forall fun c => ?_
      rw [mem_keepers, keptPlaces_of_le hpos c le_rfl, hfull, List.toFinset_range]
    rw [hall, Finset.card_univ, card_choices_self, Nat.sub_self, Nat.factorial_zero]
  | succ n h ih =>
    have hlt : ∀ p ∈ S, p ≠ n → p < n := fun p hp hne => by
      have := Finset.mem_range.mp (hS hp)
      omega
    rw [Nat.succ_sub h, Nat.factorial_succ]
    by_cases hn : n ∈ S
    · -- Any place that is not in the set may have stood where the last one goes.
      have hothers : ∀ q ∈ Finset.range n \ S,
          (keepers capacity n (insert q (S.erase n))).card = (n - capacity).factorial := by
        intro q hq
        obtain ⟨hq, hout⟩ := Finset.mem_sdiff.mp hq
        have hfresh : q ∉ S.erase n := fun hin => hout (Finset.mem_of_mem_erase hin)
        refine ih (Finset.insert_subset hq fun p hp => ?_) ?_
        · obtain ⟨hne, hp⟩ := Finset.mem_erase.mp hp
          exact Finset.mem_range.mpr (hlt p hp hne)
        · rw [Finset.card_insert_of_notMem hfresh, Finset.card_erase_of_mem hn, hcard]
          omega
      have hmissing : (Finset.range n \ S).card = n - capacity + 1 := by
        rw [← Finset.insert_sdiff_of_mem _ hn, ← Finset.range_add_one,
          Finset.card_sdiff_of_subset hS, Finset.card_range, hcard]
        omega
      rw [card_keepers_of_mem hpos h hn, Finset.sum_const_nat hothers, hmissing]
    · have hsub : S ⊆ Finset.range n := fun p hp =>
        Finset.mem_range.mpr (hlt p hp fun heq => hn (heq ▸ hp))
      rw [card_keepers_of_not_mem hpos h hn, ih hsub hcard, Nat.succ_sub h, mul_comm]

/-! ## The places of any items -/

/-- The same reservoir with other items in the place of those that it keeps. -/
def mapped {γ β δ : Type} (f : β → δ) (r : Reservoir γ β) : Reservoir γ δ :=
  { r with samples := r.samples.map f }

/-- An offer does not look at the item. -/
theorem offer_mapped {γ β δ : Type} [Draws γ] (f : β → δ) (r : Reservoir γ β) (x : β) :
    (r.mapped f).offer (f x) = (r.offer x).mapped f := by
  have hplace : ∀ slot, (r.mapped f).place (f x) slot = (r.place x slot).map f := by
    intro slot
    by_cases hslot : slot < r.capacity <;> simp [place, mapped, hslot]
  by_cases hroom : r.samples.size < r.capacity
  · rw [offer, offer, if_pos hroom, if_pos (by simpa [mapped] using hroom)]
    simp [mapped]
  · rw [offer, offer, if_neg hroom, if_neg (by simpa [mapped] using hroom)]
    simp only [hplace]
    rfl

theorem mapped_empty {γ β δ : Type} (f : β → δ) (hpos : 0 < capacity) (draws : γ) :
    (empty capacity hpos draws).mapped f = empty capacity hpos draws := by
  simp [mapped, empty]

theorem foldl_offer_mapped {γ β δ : Type} [Draws γ] (f : β → δ) (xs : List β)
    (r : Reservoir γ β) : (xs.map f).foldl offer (r.mapped f) = (xs.foldl offer r).mapped f := by
  induction xs generalizing r with
  | nil => rfl
  | cons x rest ih => rw [List.map_cons, List.foldl_cons, List.foldl_cons, offer_mapped, ih]

/-- The places that a reservoir keeps of `n` items, for some choices. -/
def retained (hpos : 0 < capacity) (c : Choices capacity n) : Finset (Fin n) :=
  ((List.finRange n).foldl offer (empty capacity hpos c)).samples.toList.toFinset

/-- A reservoir does the same with places below `n` as with their numbers. -/
theorem map_val_samples (hpos : 0 < capacity) (c : Choices capacity n) :
    ((List.finRange n).foldl offer (empty capacity hpos c)).samples.toList.map Fin.val =
      keptPlaces capacity c.slot n := by
  have hmapped := foldl_offer_mapped Fin.val (List.finRange n) (empty capacity hpos c)
  rw [List.map_coe_finRange_eq_range, mapped_empty] at hmapped
  rw [← toList_samples_ofPlaces hpos, ofPlaces, hmapped, mapped, Array.toList_map]

theorem map_retained (hpos : 0 < capacity) (c : Choices capacity n) :
    (retained hpos c).map Fin.valEmbedding = (keptPlaces capacity c.slot n).toFinset := by
  ext p
  simp [← map_val_samples hpos, retained]

theorem card_retained (hpos : 0 < capacity) (c : Choices capacity n) (h : capacity ≤ n) :
    (retained hpos c).card = capacity := by
  obtain ⟨hnodup, hlen, _⟩ := keptPlaces_of_full hpos c h
  rw [← Finset.card_map Fin.valEmbedding, map_retained, List.toFinset_card_of_nodup hnodup, hlen]

/-- A reservoir of any items keeps what stands at the places that it retains. -/
theorem toList_samples_perm (hpos : 0 < capacity) {β : Type} (xs : List β)
    (c : Choices capacity xs.length) (h : capacity ≤ xs.length) :
    (xs.foldl offer (empty capacity hpos c)).samples.toList.Perm
      ((retained hpos c).toList.map xs.get) := by
  have hmapped := foldl_offer_mapped xs.get (List.finRange xs.length) (empty capacity hpos c)
  rw [List.map_get_finRange, mapped_empty] at hmapped
  have hnodup : ((List.finRange xs.length).foldl offer
      (empty capacity hpos c)).samples.toList.Nodup := by
    refine List.Nodup.of_map Fin.val ?_
    rw [map_val_samples hpos]
    exact (keptPlaces_of_full hpos c h).1
  rw [hmapped, mapped, Array.toList_map]
  exact (List.toFinset_toList hnodup).symm.map _

/-! ## The law of the sample -/

theorem card_retained_eq (hpos : 0 < capacity) (h : capacity ≤ n) {S : Finset (Fin n)}
    (hS : S.card = capacity) :
    ({c : Choices capacity n | retained hpos c = S} : Finset _).card =
      (n - capacity).factorial := by
  have hsub : S.map Fin.valEmbedding ⊆ Finset.range n := by
    intro p hp
    obtain ⟨i, _, rfl⟩ := Finset.mem_map.mp hp
    exact Finset.mem_range.mpr i.isLt
  rw [← card_keepers hpos h hsub (by rw [Finset.card_map, hS])]
  congr 1
  ext c
  rw [Finset.mem_filter_univ, mem_keepers, ← map_retained hpos, Finset.map_inj]

/-- The choices that retain only some of the places, by what they retain. -/
theorem card_retained_subset (hpos : 0 < capacity) (h : capacity ≤ n) (T : Finset (Fin n)) :
    ({c : Choices capacity n | retained hpos c ⊆ T} : Finset _).card =
      T.card.choose capacity * (n - capacity).factorial := by
  have hmaps : ∀ c ∈ ({c : Choices capacity n | retained hpos c ⊆ T} : Finset _),
      retained hpos c ∈ T.powersetCard capacity := by
    intro c hc
    rw [Finset.mem_powersetCard]
    exact ⟨(Finset.mem_filter_univ c).mp hc, card_retained hpos c h⟩
  rw [Finset.card_eq_sum_card_fiberwise hmaps, ← Finset.card_powersetCard]
  refine Finset.sum_const_nat fun S hS => ?_
  obtain ⟨hsub, hcard⟩ := Finset.mem_powersetCard.mp hS
  rw [← card_retained_eq hpos h hcard]
  congr 1
  ext c
  rw [Finset.mem_filter, Finset.mem_filter_univ, Finset.mem_filter_univ]
  constructor
  · exact And.right
  · rintro rfl
    exact ⟨hsub, rfl⟩

/-- As many choices as there are pairs of a set of places and an order of the others. -/
theorem card_choices (hpos : 0 < capacity) (h : capacity ≤ n) :
    Fintype.card (Choices capacity n) = n.choose capacity * (n - capacity).factorial := by
  have hall := card_retained_subset hpos h (Finset.univ : Finset (Fin n))
  rw [Finset.card_univ, Fintype.card_fin] at hall
  rw [← hall]
  simp

/-- Every place is retained by the same fraction of the choices. -/
theorem card_mem_retained (hpos : 0 < capacity) (h : capacity ≤ n) (i : Fin n) :
    n * ({c : Choices capacity n | i ∈ retained hpos c} : Finset _).card =
      capacity * Fintype.card (Choices capacity n) := by
  have hsplit := Finset.card_filter_add_card_filter_not (s := Finset.univ)
    fun c : Choices capacity n => i ∈ retained hpos c
  have hwithout : ({c : Choices capacity n | i ∉ retained hpos c} : Finset _).card =
      (n - 1).choose capacity * (n - capacity).factorial := by
    have hsubset := card_retained_subset hpos h (Finset.univ.erase i)
    rw [Finset.card_erase_of_mem (Finset.mem_univ i), Finset.card_univ, Fintype.card_fin]
      at hsubset
    rw [← hsubset]
    congr 1
    ext c
    simp [Finset.subset_erase]
  obtain ⟨m, rfl⟩ : ∃ m, n = m + 1 := ⟨n - 1, by have := i.isLt; omega⟩
  have hchoose := Nat.choose_mul_succ_eq m capacity
  have hcard := card_choices hpos h
  rw [Finset.card_univ] at hsplit
  have hout : (m + 1) * ({c : Choices capacity (m + 1) | i ∉ retained hpos c} : Finset _).card =
      (m + 1 - capacity) * Fintype.card (Choices capacity (m + 1)) := by
    rw [hwithout, hcard, Nat.add_sub_cancel, ← mul_assoc, mul_comm (m + 1), hchoose,
      mul_comm _ (m + 1 - capacity), mul_assoc]
  have htotal : capacity * Fintype.card (Choices capacity (m + 1)) +
      (m + 1 - capacity) * Fintype.card (Choices capacity (m + 1)) =
        (m + 1) * Fintype.card (Choices capacity (m + 1)) := by
    rw [← add_mul, Nat.add_sub_cancel' h]
  have hsum := congrArg ((m + 1) * ·) hsplit
  simp only [mul_add] at hsum
  omega

end Reservoir

namespace Sketch

open Reservoir

variable {γ : Type} [Draws γ]

/-- Updates offer the numbers among the values. -/
theorem foldl_update (s : Sketch γ) (xs : List Float) :
    xs.foldl update s = (numbers xs).foldl offer s := by
  rw [numbers, List.foldl_filter]
  congr 1
  funext s x
  rw [update]
  cases Double.isNaN x <;> rfl

/-- The sample that a sketch holds after some updates is a uniform one.  Of the
choices that can be made for `n` numbers, of which there are `n! / capacity!`,
each set of as many places as there is room for is retained by `(n - capacity)!`,
and each place by the fraction `capacity / n`.  What the sketch holds are the
numbers at the places that are retained; if the numbers are distinct, these are
told by the sample itself. -/
theorem update_uniform {capacity : Nat} (hpos : 0 < capacity) (xs : List Float)
    (hlen : capacity ≤ (numbers xs).length) :
    let n := (numbers xs).length
    let sample (c : Choices capacity n) : List Float :=
      (xs.foldl update (empty capacity hpos c)).samples.toList
    Nat.card (Choices capacity n) * capacity.factorial = n.factorial ∧
      (∀ S : Finset (Fin n), S.card = capacity →
        Nat.card {c : Choices capacity n // retained hpos c = S} = (n - capacity).factorial) ∧
      (∀ i : Fin n, n * Nat.card {c : Choices capacity n // i ∈ retained hpos c} =
        capacity * Nat.card (Choices capacity n)) ∧
      (∀ c : Choices capacity n,
        (sample c).Perm ((retained hpos c).toList.map (numbers xs).get)) ∧
      ((numbers xs).Nodup → ∀ S : Finset (Fin n), S.card = capacity →
        Nat.card {c : Choices capacity n // (sample c).Perm (S.toList.map (numbers xs).get)} =
          (n - capacity).factorial) := by
  intro n sample
  have hsample : ∀ c, (sample c).Perm ((retained hpos c).toList.map (numbers xs).get) := by
    intro c
    simp only [sample, foldl_update]
    exact toList_samples_perm hpos (numbers xs) c hlen
  have hcount : ∀ S : Finset (Fin n), S.card = capacity →
      Nat.card {c : Choices capacity n // retained hpos c = S} = (n - capacity).factorial := by
    intro S hS
    rw [Nat.card_eq_fintype_card, Fintype.card_subtype, card_retained_eq hpos hlen hS]
  refine ⟨?_, hcount, ?_, hsample, ?_⟩
  · rw [Nat.card_eq_fintype_card, card_choices hpos hlen, mul_right_comm,
      Nat.choose_mul_factorial_mul_factorial hlen]
  · intro i
    rw [Nat.card_eq_fintype_card, Nat.card_eq_fintype_card, Fintype.card_subtype,
      card_mem_retained hpos hlen i]
  · intro hnodup S hS
    rw [← hcount S hS]
    refine Nat.card_congr (Equiv.subtypeEquivRight fun c => ?_)
    have hinjective := List.nodup_iff_injective_get.mp hnodup
    constructor
    · intro hperm
      have hplaces := (List.map_perm_map_iff hinjective).mp ((hsample c).symm.trans hperm)
      rw [← Finset.toList_toFinset (retained hpos c), List.toFinset_eq_of_perm _ _ hplaces,
        Finset.toList_toFinset]
    · rintro rfl
      exact hsample c

/-- Three numbers, with something else among them, that are offered to a sketch
with room for two: only one choice drops the second of them. -/
theorem update_uniform_three :
    ∃ h : (numbers [5, 0 / 0, 7, 9]).length = 3,
      Nat.card (Choices 2 (numbers [5, 0 / 0, 7, 9]).length) * 2 = 6 ∧
        Nat.card {c : Choices 2 (numbers [5, 0 / 0, 7, 9]).length //
          retained (by decide) c = {Fin.cast h.symm 0, Fin.cast h.symm 2}} = 1 := by
  have hlen : (numbers [5, 0 / 0, 7, 9]).length = 3 := by decide +kernel
  obtain ⟨htotal, hsets, _⟩ :=
    update_uniform (show 0 < 2 by decide) [5, 0 / 0, 7, 9] (by rw [hlen]; decide)
  refine ⟨hlen, ?_, ?_⟩
  · rw [hlen] at htotal
    exact htotal
  · rw [hsets _ (by rfl), hlen]
    rfl

end Sketch

end RecordAudit
