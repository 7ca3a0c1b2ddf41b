import TestScribe.Text.Basic

/-!
Sets of code points, given by the points at which membership changes: a code point belongs to the
set when an odd number of turning points is at or below it.
-/

namespace TestScribe.Text

/-- Membership in the set that begins at the first turning point, stops before the second, begins
again at the third, and so on. -/
def turnsContain (turns : List Nat) (n : Nat) : Bool :=
  turns.foldl (fun inside t => if t ≤ n then !inside else inside) false

def rangesContain (ranges : List (Nat × Nat)) (n : Nat) : Bool :=
  ranges.any fun (lo, hi) => lo ≤ n && n ≤ hi

theorem rangesContain_iff {ranges : List (Nat × Nat)} {n : Nat} :
    rangesContain ranges n = true ↔ ∃ r ∈ ranges, r.1 ≤ n ∧ n ≤ r.2 := by
  simp [rangesContain]

end TestScribe.Text
