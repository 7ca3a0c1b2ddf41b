import TestScribe.Format.JUnit
import TestScribe.Format.Pytest
import TestScribe.Proofs.Naming.Humps
import TestScribe.Proofs.Naming.Words
import TestScribe.Proofs.Phases
import TestScribe.Proofs.Project.References

/-!
The functions of a suite's file. Each test has one, named for its title, and the tests are different
tests; but a name does not tell everything about a title, and nothing keeps two functions of one
name apart. So a file has a function for each of its tests exactly if no two titles come to the same
words (`functions_distinct_iff`).
-/

namespace TestScribe

namespace Pytest

def functionName (t : TestCase) : Text := "test_" ++ Naming.snake t.name

theorem testHeader_eq (t : TestCase) :
    testHeader t = "    def " ++ functionName t ++ "(self):" := rfl

theorem functionName_eq_iff {t u : TestCase} :
    functionName t = functionName u ↔ Naming.snakeWords t.name = Naming.snakeWords u.name :=
  (List.append_right_inj _).trans Naming.snake_eq_snake_iff

end Pytest

namespace JUnit

def methodLine (name : Text) : Text := "    public void " ++ name ++ "() \x7b"

def methodName (t : TestCase) : Text := Naming.camel t.name

/-- The methods that every class has. -/
def fixedMethods : List Text := ["setUp", "tearDown"]

theorem testHeader_eq (t : TestCase) :
    testHeader t = Text.unlines ["    @Test", methodLine (methodName t)] := rfl

theorem newline_not_mem_methodLine {name : Text} (h : '\n' ∉ name) : '\n' ∉ methodLine name := by
  unfold methodLine
  simp [h]

theorem fixedMethods_eq : fixedMethods = [("set up" : Text), "tear down"].map Naming.camel := by
  decide +kernel

theorem methodLine_mem_header {asked : Value} {name header m : Text} {p : Project} {parallel : Bool}
    (h : JUnit.header asked name p parallel = .ok header) (hm : m ∈ fixedMethods) :
    methodLine m ∈ Text.lines header := by
  obtain ⟨url, -, h⟩ := Except.bind_eq_ok.1 h
  cases h
  have hname : '\n' ∉ m := by
    rcases List.mem_pair.1 hm with rfl | rfl <;> decide
  refine Text.mem_lines_unlines (List.mem_append_right _ ?_) (newline_not_mem_methodLine hname)
  rcases List.mem_pair.1 hm with rfl | rfl
  · exact List.mem_of_getElem? (i := 7) rfl
  · exact List.mem_of_getElem? (i := 13) rfl

end JUnit

theorem nodup_map_iff {α β γ : Type} {f : α → β} {g : α → γ} (h : ∀ x y, f x = f y ↔ g x = g y)
    (l : List α) : (l.map f).Nodup ↔ (l.map g).Nodup := by
  rw [List.Nodup, List.pairwise_map, List.Nodup, List.pairwise_map]
  exact List.Pairwise.iff fun x y => not_congr (h x y)

/-- The tests of a suite are different tests of the project, and each is headed by the name of its
function. The functions have different names exactly if the titles have different words; and the
methods have names that are different from each other and from those of the fixed methods exactly if
the titles have different humps, also from `set up` and `tear down`. -/
theorem functions_distinct_iff {p : Project} {s : Suite} {tests : List TestCase}
    (h : p.testsOf s = .ok tests) :
    (∃ is, p.positions s = .ok is ∧ is.Nodup ∧
      List.Forall₂ (fun i t => p.tests[i]? = some t) is tests) ∧
    (∀ t ∈ tests, Pytest.testHeader t = "    def " ++ Pytest.functionName t ++ "(self):" ∧
      JUnit.testHeader t = Text.unlines ["    @Test", JUnit.methodLine (JUnit.methodName t)]) ∧
    ((tests.map Pytest.functionName).Nodup ↔
      (tests.map fun t => Naming.snakeWords t.name).Nodup) ∧
    ((JUnit.fixedMethods ++ tests.map JUnit.methodName).Nodup ↔
      (("set up" :: "tear down" :: tests.map (·.name) : List Text).map Naming.humps).Nodup) := by
  refine ⟨Project.exists_nodup_of_testsOf h,
    fun t _ => ⟨Pytest.testHeader_eq t, JUnit.testHeader_eq t⟩,
    nodup_map_iff (fun _ _ => Pytest.functionName_eq_iff) tests, ?_⟩
  have hmethods : JUnit.fixedMethods ++ tests.map JUnit.methodName =
      ("set up" :: "tear down" :: tests.map (·.name) : List Text).map Naming.camel := by
    have hnames : tests.map JUnit.methodName = (tests.map (·.name)).map Naming.camel := by
      rw [List.map_map]
      rfl
    rw [JUnit.fixedMethods_eq, hnames, ← List.map_append]
    rfl
  calc (JUnit.fixedMethods ++ tests.map JUnit.methodName).Nodup
    _ ↔ (("set up" :: "tear down" :: tests.map (·.name) : List Text).map Naming.camel).Nodup := by
      rw [hmethods]
    _ ↔ _ := nodup_map_iff (fun _ _ => Naming.camel_eq_camel_iff) _

/-- A suite of two tests whose titles have different words. -/
theorem functions_distinct_iff_of_two :
    let t : TestCase := { name := "Log in" }
    let u : TestCase := { name := "Log out", id := .text "2" }
    let p : Project := { tests := [t, u] }
    let s : Suite := { name := "all", tests := ["2", "Log in", "Log out"] }
    p.testsOf s = .ok [u, t] ∧
      (∃ is, p.positions s = .ok is ∧ is.Nodup ∧
        List.Forall₂ (fun i t => p.tests[i]? = some t) is [u, t]) ∧
      (∀ v ∈ [u, t], Pytest.testHeader v = "    def " ++ Pytest.functionName v ++ "(self):" ∧
        JUnit.testHeader v = Text.unlines ["    @Test", JUnit.methodLine (JUnit.methodName v)]) ∧
      (([u, t].map Pytest.functionName).Nodup ↔
        ([u, t].map fun t => Naming.snakeWords t.name).Nodup) ∧
      ((JUnit.fixedMethods ++ [u, t].map JUnit.methodName).Nodup ↔
        (("set up" :: "tear down" :: [u, t].map (·.name) : List Text).map Naming.humps).Nodup) ∧
      ([u, t].map fun t => Naming.snakeWords t.name).Nodup := by
  intro t u p s
  have h : p.testsOf s = .ok [u, t] := rfl
  obtain ⟨htests, hheaders, hfunctions, hmethods⟩ := functions_distinct_iff h
  exact ⟨h, htests, hheaders, hfunctions, hmethods, by decide +kernel⟩

/-- Two different tests of a suite whose functions have one name in both formats, and a test whose
method has the name of one that every class has. -/
theorem functions_clash :
    let t : TestCase := { name := "Log in" }
    let u : TestCase := { name := "log-in" }
    let v : TestCase := { name := "set up" }
    let p : Project := { tests := [t, u, v] }
    let s : Suite := { name := "all", tests := ["Log in", "log-in", "set up"] }
    p.testsOf s = .ok [t, u, v] ∧ Pytest.functionName t = Pytest.functionName u ∧
      JUnit.methodName t = JUnit.methodName u ∧ JUnit.methodName v ∈ JUnit.fixedMethods := by
  intro t u v p s
  exact ⟨rfl, by decide +kernel, by decide +kernel, by decide +kernel⟩

end TestScribe
