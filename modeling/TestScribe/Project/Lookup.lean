import TestScribe.Project.Basic
import TestScribe.Fault

/-!
Finding tests and suites. Units are found by name, the first of equal names winning. A suite refers
to a test by its identifier, the last of equal identifiers winning, or else by name; a test that is
referred to again is not repeated.
-/

namespace TestScribe

namespace Project

def test? (p : Project) (name : Text) : Option TestCase := p.tests.find? (·.name = name)

def suite? (p : Project) (name : Text) : Option Suite := p.suites.find? (·.name = name)

def missingTest (name : Text) : Fault := .absent ("Test '" ++ name ++ "' not found in project")
def missingSuite (name : Text) : Fault := .absent ("Suite '" ++ name ++ "' not found in project")

def test (p : Project) (name : Text) : Except Fault TestCase :=
  match p.test? name with
  | some t => .ok t
  | none => .error (missingTest name)

def suite (p : Project) (name : Text) : Except Fault Suite :=
  match p.suite? name with
  | some s => .ok s
  | none => .error (missingSuite name)

def isIdentifier (ref : Text) : Value → Bool
  | .text t => !t.isEmpty && t = ref
  | _ => false

/-- The position of the last element with a property. -/
def lastIdx? {α : Type} (q : α → Bool) : List α → Option Nat
  | [] => none
  | a :: r =>
    match lastIdx? q r with
    | some i => some (i + 1)
    | none => if q a then some 0 else none

def position? (p : Project) (ref : Text) : Option Nat :=
  match lastIdx? (fun t => isIdentifier ref t.id) p.tests with
  | some i => some i
  | none => p.tests.findIdx? (·.name = ref)

/-- The first identifier that cannot be a key. -/
def unusableIdentifier? (p : Project) : Option Kind :=
  p.tests.findSome? fun t =>
    match t.id with
    | .list (_ :: _) => some .list
    | .object (_ :: _) => some .object
    | _ => none

def unknownReference (suite ref : Text) : Fault :=
  .absent ("Suite '" ++ suite ++ "' references unknown test '" ++ ref ++ "'")

/-- The positions that references stand for, without those already seen. -/
def positionsFrom (p : Project) (suite : Text) (seen : List Nat) :
    List Text → Except Fault (List Nat)
  | [] => .ok []
  | ref :: r =>
    match p.position? ref with
    | none => .error (unknownReference suite ref)
    | some i =>
      if seen.contains i then positionsFrom p suite seen r
      else (positionsFrom p suite (i :: seen) r).map (i :: ·)

def positions (p : Project) (s : Suite) : Except Fault (List Nat) :=
  match p.unusableIdentifier? with
  | some k => .error (.unhashable k)
  | none => positionsFrom p s.name [] s.tests

/-- The tests of a suite, in the order of its references. -/
def testsOf (p : Project) (s : Suite) : Except Fault (List TestCase) :=
  (p.positions s).map fun is => is.filterMap fun i => p.tests[i]?

end Project

end TestScribe
