/-!
# Comparisons of a filter

The ways in which a filter compares a value with its operands, and their short codes.
-/

namespace RecordAudit

/-- How a filter compares a value with its operands. -/
inductive Comparison where
  | equals
  | notEquals
  | startsWith
  | endsWith
  /-- In one of some closed ranges of numbers. -/
  | between
  /-- In one of some closed ranges of time. -/
  | betweenDates
  | isNull
  | isNotNull
deriving Repr, DecidableEq

namespace Comparison

/-- The code of a comparison. -/
def code : Comparison → String
  | equals => "EQ"
  | notEquals => "NE"
  | startsWith => "SW"
  | endsWith => "EW"
  | between => "BW"
  | betweenDates => "BD"
  | isNull => "IS_NULL"
  | isNotNull => "IS_NOT_NULL"

/-- All comparisons. -/
def all : List Comparison :=
  [equals, notEquals, startsWith, endsWith, between, betweenDates, isNull, isNotNull]

/-- Every comparison is listed. -/
theorem mem_all (c : Comparison) : c ∈ all := by cases c <;> simp [all]

/-- The comparisons by their codes. -/
def coded : List (String × Comparison) := all.map fun c => (c.code, c)

/-- The comparison with a code. -/
def ofCode? (s : String) : Option Comparison := all.find? (·.code = s)

end Comparison

end RecordAudit
