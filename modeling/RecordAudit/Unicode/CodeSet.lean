/-!
# Sets of code points

A set of code points is a list of ranges in ascending order, each with its first and last
member.  `ofRanges` brings any list of ranges into order, so that two sets with the same
members have the same ranges; only a range that ends at the surrogates and one that begins
after them stay apart.  `ofTable` reads the notation of the tables in this folder.
-/

namespace RecordAudit

/-- A set of code points, as ranges of first and last member. -/
structure CodeSet where
  ranges : List (Nat × Nat)
deriving Repr, DecidableEq, Inhabited

namespace CodeSet

/-- The last code point. -/
def last : Nat := 0x10FFFF

/-- The set without members. -/
def empty : CodeSet := ⟨[]⟩

/-- Whether a code point is a member. -/
def mem (s : CodeSet) (n : Nat) : Bool :=
  s.ranges.any fun (lo, hi) => lo ≤ n && n ≤ hi

/-- Whether a character is a member. -/
def has (s : CodeSet) (c : Char) : Bool := s.mem c.toNat

/-- Joins a range with those of an ordered list that overlap or touch it. -/
def joinFrom (lo hi : Nat) : List (Nat × Nat) → List (Nat × Nat)
  | [] => [(lo, hi)]
  | (lo', hi') :: rest =>
    if lo' ≤ hi + 1 then joinFrom lo (max hi hi') rest else (lo, hi) :: joinFrom lo' hi' rest

/-- Joins ranges that overlap or touch; the list is ordered by first member. -/
def join : List (Nat × Nat) → List (Nat × Nat)
  | [] => []
  | (lo, hi) :: rest => joinFrom lo hi rest

/-- The set of the members of some ranges; a range whose ends are the wrong way round is empty. -/
def ofRanges (ranges : List (Nat × Nat)) : CodeSet :=
  ⟨join ((ranges.filter fun (lo, hi) => lo ≤ hi).mergeSort fun a b => a.1 ≤ b.1)⟩

/-- The set with one member. -/
def singleton (n : Nat) : CodeSet := ⟨[(n, n)]⟩

/-- The members of either set. -/
def union (a b : CodeSet) : CodeSet := ofRanges (a.ranges ++ b.ranges)

/-! ## Gaps

No character is a surrogate, so the code points on either side of the surrogates are neighbours.
-/

/-- The code point after another one. -/
def following (n : Nat) : Nat := if n = 0xD7FF then 0xE000 else n + 1

/-- The code point before another one. -/
def preceding (n : Nat) : Nat := if n = 0xE000 then 0xD7FF else n - 1

/-- The gaps that ordered ranges leave after a code point.  Between two ranges that meet at the
surrogates the ends of the gap are the wrong way round. -/
def gapsAfter (hi : Nat) : List (Nat × Nat) → List (Nat × Nat)
  | [] => if hi < last then [(following hi, last)] else []
  | (lo', hi') :: rest => (following hi, preceding lo') :: gapsAfter hi' rest

/-- The gaps that ordered ranges leave. -/
def gaps : List (Nat × Nat) → List (Nat × Nat)
  | [] => [(0, last)]
  | (lo, hi) :: rest => (if 0 < lo then [(0, preceding lo)] else []) ++ gapsAfter hi rest

/-- The code points that are not members.  Where two ranges meet at the surrogates, the complement
has the two code points that meet there. -/
def complement (s : CodeSet) : CodeSet :=
  ⟨(gaps s.ranges).map fun (a, b) => (min a b, max a b)⟩

/-- What ordered ranges have in common with other ones. -/
def overlaps : List (Nat × Nat) → List (Nat × Nat) → List (Nat × Nat)
  | (a, b) :: xs, (c, d) :: ys =>
    let rest := if b < d then overlaps xs ((c, d) :: ys) else overlaps ((a, b) :: xs) ys
    if max a c ≤ min b d then (max a c, min b d) :: rest else rest
  | _, _ => []
termination_by xs ys => xs.length + ys.length

/-- The members of both sets. -/
def inter (a b : CodeSet) : CodeSet := ⟨overlaps a.ranges b.ranges⟩

/-- The members of the first set that are not in the second. -/
def diff (a b : CodeSet) : CodeSet := ⟨overlaps a.ranges (gaps b.ranges)⟩

/-- The members of exactly one of the sets. -/
def symmDiff (a b : CodeSet) : CodeSet := (a.union b).diff (a.inter b)

/-- Every code point. -/
def all : CodeSet := ⟨[(0, last)]⟩

/-! ## The notation of the tables -/

/-- Reads a hexadecimal number; other characters count as zero. -/
def hexNumber (digits : List Char) : Nat :=
  digits.foldl (fun n c =>
    16 * n + (if c.isDigit then c.toNat - 48 else if 'A' ≤ c && c ≤ 'F' then c.toNat - 55 else 0)) 0

/-- Reads one entry of a table: a code point, or two joined by a hyphen for all from one to the
other, or by a colon for every second one. -/
def entry (word : List Char) : List (Nat × Nat) :=
  let isMark (c : Char) : Bool := c == '-' || c == ':'
  let lo := hexNumber (word.takeWhile fun c => !isMark c)
  match word.dropWhile fun c => !isMark c with
  | [] => [(lo, lo)]
  | mark :: rest =>
    let hi := hexNumber rest
    if mark == '-' then [(lo, hi)]
    else (List.range ((hi - lo) / 2 + 1)).map fun i => (lo + 2 * i, lo + 2 * i)

/-- The words of a line, which blanks divide. -/
def words (line : List Char) : List (List Char) :=
  (line.splitOn ' ').filter (· ≠ [])

/-- Reads a table: lines of entries in ascending order. -/
def ofTable (lines : List String) : CodeSet :=
  ⟨lines.flatMap fun line => (words line.toList).flatMap entry⟩

end CodeSet

end RecordAudit
