import TestScribe.Emission

/-!
What came of the units of an export.
-/

namespace TestScribe

inductive Result where
  | written (path : Path)
  | failed (error : UnitError)

def Result.isWritten : Result → Bool
  | written _ => true
  | failed _ => false

structure Outcome where
  /-- The name of the unit. -/
  name : Text
  result : Result

structure Summary where
  mode : Mode
  /-- One outcome for each selected unit, in order. -/
  outcomes : List Outcome := []
  /-- The number of units that were not selected. -/
  skipped : Int := 0

namespace Summary

def written (s : Summary) : List Outcome := s.outcomes.filter (·.result.isWritten)
def failed (s : Summary) : List Outcome := s.outcomes.filter fun o => !o.result.isWritten

/-- The code with which a program that made this export ends. -/
def exitCode (s : Summary) : Nat := if s.failed.isEmpty then 0 else 2

theorem length_written_add_failed (s : Summary) :
    s.written.length + s.failed.length = s.outcomes.length := by
  unfold written failed
  induction s.outcomes with
  | nil => rfl
  | cons o r ih =>
    cases h : o.result.isWritten <;> simp [h] <;> omega

end Summary

end TestScribe
