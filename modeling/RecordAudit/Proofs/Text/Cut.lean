import RecordAudit.Text.Cut

/-!
# What is kept of a text that is cut

`LongestStart` says which start of a text is kept: it is made of whole
characters, it fits into the limit, and every other start that fits is a start
of it.

* `before?_eq_some_iff` divides a text at a place: the text before it is a start
  of as many bytes.
* `longestStart_of_last` says where the longest start ends: at the last place up
  to the limit that is inside no character, which the search finds
  (`exists_boundary?`).
* `LongestStart.le_add_three` bounds what is given up below the limit: the next
  character does not fit, and it takes four bytes at most.
-/

namespace RecordAudit.Text

/-- The longest start of a text that has at most `limit` bytes.  A start is made of whole
characters. -/
structure LongestStart (text : String) (limit : Nat) (start : String) : Prop where
  starts : ∃ rest, text = start ++ rest
  fits : start.utf8ByteSize ≤ limit
  longest : ∀ other rest, text = other ++ rest → other.utf8ByteSize ≤ limit →
    ∃ more, start = other ++ more

/-! ## Places and starts -/

theorem isValid_append_left (start rest : String) :
    String.Pos.Raw.IsValid (start ++ rest) start.rawEndPos :=
  String.Pos.Raw.isValid_rawEndPos.append_right rest

theorem before?_eq_some_iff {text : String} {place : Nat} {start : String} :
    before? text place = some start ↔
      (∃ rest, text = start ++ rest) ∧ start.utf8ByteSize = place := by
  constructor
  · intro h
    obtain ⟨hvalid, hstart⟩ := Option.dite_none_right_eq_some.mp h
    obtain ⟨rest, hsplits⟩ := String.copy_sliceTo_eq_iff_exists_splits.mp (Option.some.inj hstart)
    have hplace : place = start.utf8ByteSize :=
      congrArg String.Pos.Raw.byteIdx hsplits.offset_eq_rawEndPos
    exact ⟨⟨rest, hsplits.eq_append⟩, hplace.symm⟩
  · rintro ⟨⟨rest, rfl⟩, rfl⟩
    rw [before?_of_isValid (isValid_append_left start rest)]
    exact congrArg some (String.copy_sliceTo_eq_iff_exists_splits.mpr ⟨rest, rfl, rfl⟩)

/-- Of two starts of a text, one with no more bytes is a start of the other. -/
theorem exists_append_of_le {s t rest rest' : String} (h : s ++ rest = t ++ rest')
    (hle : s.utf8ByteSize ≤ t.utf8ByteSize) : ∃ more, t = s ++ more := by
  have hs : String.Pos.Splits (s := s ++ rest) ⟨_, isValid_append_left s rest⟩ s rest :=
    ⟨rfl, rfl⟩
  have ht : String.Pos.Splits (s := s ++ rest) ⟨t.rawEndPos, h ▸ isValid_append_left t rest'⟩
      t rest' := ⟨h, rfl⟩
  obtain ⟨more, hmore, _⟩ := (hs.le_iff_exists_eq_append ht).mp hle
  exact ⟨more, hmore⟩

/-- The text before the last place up to a limit is the longest start that fits. -/
theorem longestStart_of_last {text start : String} {place limit : Nat}
    (hstart : before? text place = some start) (hle : place ≤ limit)
    (hlast : ∀ other, String.Pos.Raw.IsValid text ⟨other⟩ → other ≤ limit → other ≤ place) :
    LongestStart text limit start := by
  obtain ⟨⟨rest, rfl⟩, rfl⟩ := before?_eq_some_iff.mp hstart
  refine ⟨⟨rest, rfl⟩, hle, fun other rest' htext hother => ?_⟩
  have hvalid : String.Pos.Raw.IsValid (start ++ rest) ⟨other.utf8ByteSize⟩ :=
    htext ▸ isValid_append_left other rest'
  exact exists_append_of_le htext.symm (hlast _ hvalid hother)

/-! ## What is given up -/

theorem exists_singleton_append {text : String} (h : text.utf8ByteSize ≠ 0) :
    ∃ c rest, text = String.singleton c ++ rest := by
  cases htext : text.toList with
  | nil =>
    rw [String.toList_eq_nil_iff] at htext
    exact absurd (String.utf8ByteSize_eq_zero_iff.mpr htext) h
  | cons c rest =>
    exact ⟨c, String.ofList rest, by rw [← String.ofList_cons, ← htext, String.ofList_toList]⟩

/-- The character after the longest start does not fit any more. -/
theorem LongestStart.le_add_three {text start : String} {limit : Nat}
    (h : LongestStart text limit start) (hlong : limit < text.utf8ByteSize) :
    limit ≤ start.utf8ByteSize + 3 := by
  obtain ⟨rest, htext⟩ := h.starts
  have hrest : rest.utf8ByteSize ≠ 0 := by
    have hfits := h.fits
    rw [htext, String.utf8ByteSize_append] at hlong
    omega
  obtain ⟨c, rest', rfl⟩ := exists_singleton_append hrest
  have hnext : ¬(start ++ String.singleton c).utf8ByteSize ≤ limit := by
    intro hfits
    have hstart : text = start ++ String.singleton c ++ rest' := by
      rw [htext, String.append_assoc]
    obtain ⟨more, hmore⟩ := h.longest _ rest' hstart hfits
    have hsize := congrArg String.utf8ByteSize hmore
    have hpos := c.utf8Size_pos
    rw [String.utf8ByteSize_append, String.utf8ByteSize_append,
      String.utf8ByteSize_singleton] at hsize
    omega
  have hwidth := c.utf8Size_le_four
  rw [String.utf8ByteSize_append, String.utf8ByteSize_singleton] at hnext
  omega

/-! ## The cut -/

/-- A text that fits into the limit is kept, and of any other text the longest
start that fits.  The search for the place of the cut finds one before it runs
out of bytes, and the text is divided there, inside no character and at most
three bytes below the limit. -/
theorem cut_keepsLongestStart (text : String) (limit : Nat) :
    cut? text limit = some (cut text limit) ∧
      if text.utf8ByteSize ≤ limit then cut text limit = text
      else
        ∃ place start, boundary? text limit = some place ∧ before? text place = some start ∧
          start.utf8ByteSize = place ∧ place ≤ limit ∧ limit ≤ place + 3 ∧
          LongestStart text limit start ∧ cut text limit = start ++ "...(truncated)" := by
  have hcut : cut? text limit = some (cut text limit) := (Option.some_get _).symm
  refine ⟨hcut, ?_⟩
  split
  · next hfits =>
    rw [cut?, if_pos hfits] at hcut
    exact (Option.some.inj hcut).symm
  · next hlong =>
    obtain ⟨place, hplace, hvalid, hle, hlast⟩ := exists_boundary? text limit
    have hstart := before?_of_isValid hvalid
    have hkept := longestStart_of_last hstart hle hlast
    have hsize := (before?_eq_some_iff.mp hstart).2
    refine ⟨place, _, hplace, hstart, hsize, hle, ?_, hkept, ?_⟩
    · exact hsize ▸ hkept.le_add_three (Nat.lt_of_not_le hlong)
    · rw [cut?, if_neg hlong, hplace, Option.bind_eq_bind, Option.bind_some, hstart] at hcut
      exact (Option.some.inj hcut).symm

/-- The second byte of a character is at the limit. -/
example : cut "aé-tail" 2 = "a...(truncated)" := by rfl

end RecordAudit.Text
