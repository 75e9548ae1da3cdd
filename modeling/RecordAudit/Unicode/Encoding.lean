import RecordAudit.Unicode.CodeSet

/-!
# Ranges of code points in bytes

A code point is written in one to four bytes.  `byteSequences` cuts a set of code points
into pieces, in ascending order: a piece is a sequence of ranges of bytes, and its members
are written in all ways to choose one byte out of each range.
-/

namespace RecordAudit.Unicode

/-- A range of bytes: the first and the last one. -/
abbrev ByteRange := UInt8 × UInt8

/-- Code points that take the same number of bytes.  Those of a block of one of the sizes share all
bytes but the last, all but the last two, and so on. -/
structure Width where
  first : Nat
  last : Nat
  blocks : List Nat

/-- Every width; surrogates have none. -/
def widths : List Width := [
  ⟨0, 0x7F, []⟩,
  ⟨0x80, 0x7FF, [0x40]⟩,
  ⟨0x800, 0xD7FF, [0x40, 0x1000]⟩,
  ⟨0xE000, 0xFFFF, [0x40, 0x1000]⟩,
  ⟨0x10000, 0x10FFFF, [0x40, 0x1000, 0x40000]⟩]

/-- Cuts a range at its first and last boundary of a block, and what lies between them by the next
size.  A range within one block is a piece. -/
def pieces : List Nat → Nat → Nat → List (Nat × Nat)
  | [], lo, hi => [(lo, hi)]
  | block :: larger, lo, hi =>
    if lo / block = hi / block then [(lo, hi)]
    else
      let start := (lo + block - 1) / block * block
      let stop := (hi + 1) / block * block
      (if lo < start then [(lo, start - 1)] else []) ++
        (if start < stop then pieces larger start (stop - 1) else []) ++
          (if stop ≤ hi then [(stop, hi)] else [])

/-- The bytes of a code point. -/
def encoded (n : Nat) : List UInt8 := String.utf8EncodeChar (Char.ofNat n)

/-- The pieces of a set of code points. -/
def byteSequences (s : CodeSet) : List (List ByteRange) :=
  s.ranges.flatMap fun (lo, hi) => widths.flatMap fun w =>
    let lo := max lo w.first
    let hi := min hi w.last
    if lo ≤ hi then (pieces w.blocks lo hi).map fun (a, b) => (encoded a).zip (encoded b) else []

end RecordAudit.Unicode
