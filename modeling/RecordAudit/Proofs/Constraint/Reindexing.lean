import RecordAudit.Constraint.FieldConstraint

/-!
# Validation at another place

Validation writes the place of a record into its violations, and does nothing
else with it.  So at another place it finds the same violations, in the same
order, with that place in them.  Each lemma says so of one step, with violations
that were found before it.
-/

namespace RecordAudit.FieldConstraint

variable {ρ : Type} [Record ρ]

theorem hasReadViolation_reindexed (j : Nat) (vs : List Violation) (field : String) :
    hasReadViolation (vs.map (·.reindexed j)) field = hasReadViolation vs field := by
  rw [hasReadViolation, List.any_map]
  rfl

theorem addReadViolation_reindexed (i j : Nat) (vs : List Violation) (field message : String) :
    addReadViolation j (vs.map (·.reindexed j)) field message =
      (addReadViolation i vs field message).map (·.reindexed j) := by
  rw [addReadViolation, addReadViolation, hasReadViolation_reindexed]
  split
  · rfl
  · rw [List.map_append]
    rfl

theorem addViolations_reindexed (i j : Nat) (r : ρ) (vs : List Violation) (c : FieldConstraint) :
    addViolations j r (vs.map (·.reindexed j)) c =
      (addViolations i r vs c).map (·.reindexed j) := by
  rw [addViolations, addViolations]
  cases Record.get r c.field with
  | error e => exact addReadViolation_reindexed i j vs c.field e.message
  | ok v =>
    cases hcheck : c.check v with
    | none => simp only [hcheck]
    | some message =>
      simp only [hcheck, List.map_append]
      rfl

theorem validateInto_reindexed (i j : Nat) (r : ρ) (cs : List FieldConstraint)
    (vs : List Violation) :
    validateInto j r cs (vs.map (·.reindexed j)) =
      (validateInto i r cs vs).map (·.reindexed j) :=
  List.foldl_hom _ fun vs c => addViolations_reindexed i j r vs c

end RecordAudit.FieldConstraint
