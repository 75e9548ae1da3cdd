import Mathlib.Data.List.Basic
import RecordAudit.Report.Page

/-!
# The pages of a report

A page is asked for by two numbers of 64 bits, whose product may be greater
than any such number.  The place where the page begins is cut back then
(`Page.toNat_start`).  A report has less than `2 ^ 64` outcomes, so what is
left of them from there on is what is left from the true place on: nothing.
A page that is asked for far beyond the end is never an earlier page once more.

* `content_page` is one page, as a slice between unbounded numbers.
* `flatMap_slices` joins the slices of one size, and `flatMap_pages` the pages.
* `lt_pageCount_iff` tells the pages with outcomes from those without.
* `pages_partition` puts them together.
-/

namespace RecordAudit

/-- Where a page begins, cut back to 64 bits. -/
theorem Page.toNat_start (p : Page) :
    p.start.toNat = min (p.number.toNat * p.size.toNat) (UInt64.size - 1) := by
  unfold Page.start
  split
  · next hfits =>
    rw [UInt64.toNat_mul, Nat.mod_eq_of_lt hfits]
    omega
  · next hwide =>
    have hlast : (0 - 1 : UInt64).toNat = UInt64.size - 1 := by decide
    rw [hlast]
    omega

namespace Report

variable {α : Type}

/-! ## One page -/

/-- From a place that was cut back no outcomes are left, and from the true one neither. -/
theorem content_page_eq {r : Report α} (hcount : r.total < UInt64.size) (p : Page) :
    (r.page p).content =
      (r.outcomes.drop (p.number.toNat * p.size.toNat)).take p.size.toNat := by
  show (r.outcomes.drop p.start.toNat).take p.size.toNat = _
  rw [Page.toNat_start]
  have hlength : r.outcomes.length < UInt64.size := hcount
  by_cases hfits : p.number.toNat * p.size.toNat < UInt64.size
  · rw [Nat.min_eq_left (by omega)]
  · have hnone : r.outcomes.drop (p.number.toNat * p.size.toNat) = [] := by
      apply List.drop_eq_nil_of_le
      omega
    have hcut : r.outcomes.drop
        (min (p.number.toNat * p.size.toNat) (UInt64.size - 1)) = [] := by
      apply List.drop_eq_nil_of_le
      omega
    rw [hnone, hcut]

/-- A page is the slice of the outcomes between two unbounded numbers. -/
theorem content_page {r : Report α} (hcount : r.total < UInt64.size) (p : Page) :
    (r.page p).content = r.outcomes.extract (p.number.toNat * p.size.toNat)
      (min ((p.number.toNat + 1) * p.size.toNat) r.total) := by
  rw [content_page_eq hcount, List.extract_eq_take_drop, List.take_eq_take_iff,
    List.length_drop, Nat.add_one_mul]
  show _ = min (min _ r.outcomes.length - _) _
  omega

theorem length_content_page {r : Report α} (hcount : r.total < UInt64.size) (p : Page) :
    (r.page p).content.length = min p.size.toNat (r.total - p.number.toNat * p.size.toNat) := by
  rw [content_page_eq hcount, List.length_take, List.length_drop]
  rfl

/-! ## Page after page -/

/-- The first pages of one size. -/
def pages (r : Report α) {size : UInt64} (positive : 0 < size) (count : Nat) : List PageContent :=
  (List.range count).map fun k => r.page ⟨UInt64.ofNat k, size, positive⟩

/-- Slices of one length, one after the other. -/
theorem flatMap_slices {β : Type} (xs : List β) (length count : Nat) :
    (List.range count).flatMap (fun k => (xs.drop (k * length)).take length) =
      xs.take (count * length) := by
  induction count with
  | zero => simp
  | succ count ih =>
    rw [List.range_succ, List.flatMap_append, ih, Nat.succ_mul, List.take_add]
    simp

/-- The first pages hold the first outcomes, in their order. -/
theorem flatMap_pages {r : Report α} (hcount : r.total < UInt64.size) {size : UInt64}
    (hpos : 0 < size) {count : Nat} (hcount' : count ≤ UInt64.size) :
    (r.pages hpos count).flatMap (·.content) = r.outcomes.take (count * size.toNat) := by
  rw [pages, List.flatMap_map, ← flatMap_slices]
  apply List.flatMap_congr
  intro k hk
  have hnumber : (UInt64.ofNat k).toNat = k := by
    apply UInt64.toNat_ofNat_of_lt'
    have := List.mem_range.mp hk
    omega
  rw [content_page_eq hcount]
  show ((r.outcomes.drop ((UInt64.ofNat k).toNat * size.toNat)).take size.toNat) = _
  rw [hnumber]

/-- How many pages of one size it takes for all outcomes. -/
def pageCount (r : Report α) (size : UInt64) : Nat := (r.total + size.toNat - 1) / size.toNat

/-- A page is needed iff it begins before the end. -/
theorem lt_pageCount_iff {r : Report α} {size : UInt64} (hpos : 0 < size) (k : Nat) :
    k < r.pageCount size ↔ k * size.toNat < r.total := by
  have hsize : 0 < size.toNat := UInt64.lt_iff_toNat_lt.mp hpos
  rw [pageCount, ← Nat.succ_le_iff, Nat.le_div_iff_mul_le hsize, Nat.succ_mul]
  omega

theorem mem_pages {r : Report α} {size : UInt64} {hpos : 0 < size} {count : Nat}
    {c : PageContent} (hcount : count ≤ UInt64.size) (h : c ∈ r.pages hpos count) :
    ∃ p : Page, p.size = size ∧ p.number.toNat < count ∧ c = r.page p := by
  obtain ⟨k, hk, rfl⟩ := List.mem_map.mp h
  have hlt : k < count := List.mem_range.mp hk
  refine ⟨_, rfl, ?_, rfl⟩
  show (UInt64.ofNat k).toNat < count
  rw [UInt64.toNat_ofNat_of_lt' (by omega)]
  exact hlt

/-- All pages but the last of some. -/
theorem dropLast_pages (r : Report α) {size : UInt64} (hpos : 0 < size) (count : Nat) :
    (r.pages hpos count).dropLast = r.pages hpos (count - 1) := by
  cases count with
  | zero => rfl
  | succ count => simp [pages, List.range_succ]

/-- Pages partition the outcomes of a report.  Each page of a size is the slice that begins where
the pages before it end, and is empty where the place of its first outcome takes more than 64 bits.
The pages up to the first empty one hold every outcome once, in order, and all of them but the
last are full. -/
theorem pages_partition {r : Report α} (hcount : r.total < UInt64.size) {size : UInt64}
    (hpos : 0 < size) :
    (∀ number : UInt64, ∃ p, Page.new number size = .ok p ∧
      (r.page p).content = r.outcomes.extract (number.toNat * size.toNat)
        (min ((number.toNat + 1) * size.toNat) r.total) ∧
      (UInt64.size ≤ number.toNat * size.toNat → (r.page p).content = []) ∧
      (r.page p).number = number ∧ (r.page p).total = r.total) ∧
    ∃ first : UInt64, (r.page ⟨first, size, hpos⟩).content = [] ∧
      (∀ c ∈ r.pages hpos first.toNat, c.content ≠ []) ∧
      (r.pages hpos first.toNat).flatMap (·.content) = r.outcomes ∧
      ∀ c ∈ (r.pages hpos first.toNat).dropLast, c.content.length = size.toNat := by
  have hsize : 0 < size.toNat := UInt64.lt_iff_toNat_lt.mp hpos
  constructor
  · intro number
    refine ⟨⟨number, size, hpos⟩, dif_pos hpos, content_page hcount _, ?_, rfl, rfl⟩
    intro hwide
    apply List.eq_nil_of_length_eq_zero
    rw [length_content_page hcount]
    show min size.toNat (r.total - number.toNat * size.toNat) = 0
    omega
  -- The page after the last outcome still has a number of 64 bits.
  have hall : r.total ≤ r.pageCount size * size.toNat := by
    have hlast := (lt_pageCount_iff hpos (r := r) (r.pageCount size)).not.mp (Nat.lt_irrefl _)
    omega
  have hfits : r.pageCount size < UInt64.size := by
    have hnot := (lt_pageCount_iff hpos (r := r) r.total).not.mpr
    have hle := Nat.le_mul_of_pos_right r.total hsize
    omega
  have hfirst : (UInt64.ofNat (r.pageCount size)).toNat = r.pageCount size :=
    UInt64.toNat_ofNat_of_lt' hfits
  refine ⟨UInt64.ofNat (r.pageCount size), ?_, ?_, ?_, ?_⟩
  · apply List.eq_nil_of_length_eq_zero
    rw [length_content_page hcount]
    show min size.toNat (r.total - (UInt64.ofNat (r.pageCount size)).toNat * size.toNat) = 0
    rw [hfirst]
    omega
  · rw [hfirst]
    intro c hc
    obtain ⟨p, rfl, hnumber, rfl⟩ := mem_pages (Nat.le_of_lt hfits) hc
    have hbegins := (lt_pageCount_iff p.positive _).mp hnumber
    apply List.ne_nil_of_length_pos
    rw [length_content_page hcount]
    omega
  · rw [hfirst, flatMap_pages hcount hpos (Nat.le_of_lt hfits)]
    exact List.take_of_length_le hall
  · rw [hfirst, dropLast_pages]
    intro c hc
    obtain ⟨p, rfl, hnumber, rfl⟩ := mem_pages (by omega) hc
    have hnext := (lt_pageCount_iff p.positive (r := r) (p.number.toNat + 1)).mp (by omega)
    rw [Nat.add_one_mul] at hnext
    rw [length_content_page hcount]
    omega

/-- Five outcomes. -/
def fiveOutcomes : Report Float := ⟨(List.range 5).map fun k => ⟨k, []⟩, [], 0⟩

/-- Five outcomes in pages of two, and a page whose place would be `2 ^ 64`. -/
theorem pages_partition_fiveOutcomes :
    fiveOutcomes.total < UInt64.size ∧ (0 : UInt64) < 2 ∧
      (∃ first : UInt64, (fiveOutcomes.pages (show (0 : UInt64) < 2 by decide)
        first.toNat).flatMap (·.content) = fiveOutcomes.outcomes) ∧
      (∃ p, Page.new 1 2 = .ok p ∧ (fiveOutcomes.page p).content = [⟨2, []⟩, ⟨3, []⟩]) ∧
      ∃ p, Page.new 9223372036854775808 2 = .ok p ∧ (fiveOutcomes.page p).content = [] := by
  obtain ⟨hone, first, -, -, hall, -⟩ :=
    @pages_partition _ fiveOutcomes (by decide) 2 (by decide)
  refine ⟨by decide, by decide, ⟨first, hall⟩, ?_, ?_⟩
  · obtain ⟨p, hp, hcontent, -⟩ := hone 1
    exact ⟨p, hp, hcontent⟩
  · obtain ⟨p, hp, -, hwide, -⟩ := hone 9223372036854775808
    exact ⟨p, hp, hwide (by decide)⟩

end Report

end RecordAudit
