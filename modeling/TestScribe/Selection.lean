import TestScribe.Fault
import TestScribe.Pattern.Search

/-!
Selecting units by name. A filter matches anywhere in a name; without one everything is selected.
Each unit is selected at most once, at its first place, units being told apart by what identifies
them and not by their names.
-/

namespace TestScribe

/-- What lies behind a refused pattern, unless it is just malformed. -/
def Pattern.PatternError.fault? : Pattern.PatternError → Option Fault
  | .malformed => none
  | .repetitionTooLarge => some (.raised .overflow "the repetition number is too large")
  | .tooManyDigits n => some (.tooManyDigits n)
  | .contradictoryFlags => some (.raised .value "ASCII and UNICODE flags are incompatible")
  | .tooFarBehind => some (.raised .runtime "invalid SRE code")

structure Filter where
  source : Text
  program : Pattern.Program

namespace Filter

def matchAll : Text := ".*"

/-- The text of a filter, where nothing stands for the one that matches everything. -/
def sourceOf : Option Text → Text
  | none | some [] => matchAll
  | some t => t

def compile (pattern : Option Text) : Except Pattern.PatternError Filter :=
  (Pattern.compile (sourceOf pattern)).map fun p => ⟨sourceOf pattern, p⟩

def accepts (f : Filter) (name : Text) : Bool := f.program.search name ≠ .nothing

/-- Whether the match in a name has groups that end before they start. -/
def crossesIn (f : Filter) (name : Text) : Bool := f.program.search name = .crossedGroups

end Filter

/-- The first occurrences of the units with a property, those in `seen` left out. -/
def selectFrom {ι : Type} [DecidableEq ι] (accepts : Text → Bool) (seen : List ι) :
    List (ι × Text) → List (ι × Text)
  | [] => []
  | u :: r =>
    if u.1 ∈ seen then selectFrom accepts seen r
    else if accepts u.2 then u :: selectFrom accepts (u.1 :: seen) r
    else selectFrom accepts (u.1 :: seen) r

/-- The units whose names are accepted, in order, each once. -/
def select {ι : Type} [DecidableEq ι] (accepts : Text → Bool) (units : List (ι × Text)) :
    List (ι × Text) := selectFrom accepts [] units

def Filter.select {ι : Type} [DecidableEq ι] (f : Filter) (units : List (ι × Text)) :
    Except Fault (List (ι × Text)) :=
  if units.any fun u => f.crossesIn u.2 then
    .error (.raised .internal "a group of the pattern ends before it starts")
  else .ok (TestScribe.select f.accepts units)

theorem mem_of_mem_selectFrom {ι : Type} [DecidableEq ι] {accepts : Text → Bool} {seen : List ι}
    {units : List (ι × Text)} {u : ι × Text} (h : u ∈ selectFrom accepts seen units) :
    u ∈ units ∧ accepts u.2 = true ∧ u.1 ∉ seen := by
  induction units generalizing seen with
  | nil => simp [selectFrom] at h
  | cons v r ih =>
    unfold selectFrom at h
    split at h
    · obtain ⟨h1, h2, h3⟩ := ih h
      exact ⟨List.mem_cons_of_mem _ h1, h2, h3⟩
    · split at h
      · rcases List.mem_cons.1 h with rfl | h
        · exact ⟨List.mem_cons_self, ‹_›, ‹_›⟩
        · obtain ⟨h1, h2, h3⟩ := ih h
          exact ⟨List.mem_cons_of_mem _ h1, h2, fun hs => h3 (List.mem_cons_of_mem _ hs)⟩
      · obtain ⟨h1, h2, h3⟩ := ih h
        exact ⟨List.mem_cons_of_mem _ h1, h2, fun hs => h3 (List.mem_cons_of_mem _ hs)⟩

end TestScribe
