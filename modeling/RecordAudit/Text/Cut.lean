/-!
# Cutting text to a number of bytes

A logged value is cut when its UTF-8 form is longer than a limit.  The place of the cut is
looked for backwards, byte by byte from the limit, until it falls inside no character.  Such
a search might run out of bytes, and a text cannot be divided inside a character: `boundary?`
and `before?` say where that happens, and `isSome_cut?` that it does not.
-/

namespace RecordAudit.Text

/-- The number of bytes that characters take in UTF-8. -/
def byteLength : List Char → Nat
  | [] => 0
  | c :: rest => c.utf8Size + byteLength rest

/-- The last place that is inside no character, looked for backwards from a place.  A search that
would go on before the first byte has no result. -/
def boundary? (text : String) (place : Nat) : Option Nat :=
  if String.Pos.Raw.isValid text ⟨place⟩ then some place
  else
    match place with
    | 0 => none
    | place + 1 => boundary? text place

/-- The text before a place, which must be inside no character. -/
def before? (text : String) (place : Nat) : Option String :=
  if h : String.Pos.Raw.IsValid text ⟨place⟩ then some (text.sliceTo ⟨⟨place⟩, h⟩).copy else none

/-- What is written after a text that was cut. -/
def cutMark : String := "...(truncated)"

/-- The text itself if it has at most `limit` bytes, and else its start up to the last place that
is inside no character and a mark. -/
def cut? (text : String) (limit : Nat) : Option String :=
  if text.utf8ByteSize ≤ limit then some text
  else do
    let place ← boundary? text limit
    let start ← before? text place
    return start ++ cutMark

/-- The search ends at the last place up to the limit that is inside no character.  It does not run
out of bytes, since the first one begins a character. -/
theorem exists_boundary? (text : String) (limit : Nat) :
    ∃ place, boundary? text limit = some place ∧ String.Pos.Raw.IsValid text ⟨place⟩ ∧
      place ≤ limit ∧ ∀ other, String.Pos.Raw.IsValid text ⟨other⟩ → other ≤ limit →
        other ≤ place := by
  induction limit with
  | zero =>
    have hzero : String.Pos.Raw.IsValid text ⟨0⟩ := String.Pos.Raw.isValid_zero
    refine ⟨0, ?_, hzero, Nat.le_refl 0, fun other _ hother => hother⟩
    rw [boundary?, if_pos (String.Pos.Raw.isValid_eq_true_iff.mpr hzero)]
  | succ limit ih =>
    rw [boundary?]
    split
    · next hvalid =>
      exact ⟨_, rfl, String.Pos.Raw.isValid_eq_true_iff.mp hvalid, Nat.le_refl _,
        fun other _ hother => hother⟩
    · next hinside =>
      obtain ⟨place, hplace, hvalid, hle, hlast⟩ := ih
      refine ⟨place, hplace, hvalid, Nat.le_succ_of_le hle, fun other hother hother' => ?_⟩
      have hne : other ≠ limit + 1 := by
        rintro rfl
        exact hinside (String.Pos.Raw.isValid_eq_true_iff.mpr hother)
      exact hlast other hother (by omega)

theorem before?_of_isValid {text : String} {place : Nat}
    (h : String.Pos.Raw.IsValid text ⟨place⟩) :
    before? text place = some (text.sliceTo ⟨⟨place⟩, h⟩).copy :=
  dif_pos h

theorem isSome_cut? (text : String) (limit : Nat) : (cut? text limit).isSome = true := by
  rw [cut?]
  split
  · rfl
  · obtain ⟨place, hplace, hvalid, _⟩ := exists_boundary? text limit
    rw [hplace, Option.bind_eq_bind, Option.bind_some, before?_of_isValid hvalid]
    rfl

/-- A text cut to a number of bytes. -/
def cut (text : String) (limit : Nat) : String := (cut? text limit).get (isSome_cut? text limit)

end RecordAudit.Text
