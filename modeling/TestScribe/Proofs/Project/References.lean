import TestScribe.Project.Lookup
import Mathlib.Data.List.Forall2

/-!
The tests that a suite refers to. Each reference stands for one test of the project, and a test that
is referred to again is not repeated, so the tests of a suite are different tests
(`exists_nodup_of_testsOf`), though their names may be the same.
-/

namespace TestScribe.Project

variable {p : Project} {s : Suite} {suite ref : Text} {refs : List Text} {seen is : List Nat}
  {tests : List TestCase} {i : Nat}

theorem lt_of_lastIdx? {α : Type} {q : α → Bool} {l : List α} (h : lastIdx? q l = some i) :
    i < l.length := by
  induction l generalizing i with
  | nil => cases h
  | cons a l ih =>
    unfold lastIdx? at h
    split at h
    · rename_i j hj
      cases h
      exact Nat.succ_lt_succ (ih hj)
    · split at h
      · cases h
        exact Nat.succ_pos _
      · cases h

theorem lt_of_position? (h : p.position? ref = some i) : i < p.tests.length := by
  unfold position? at h
  split at h
  · rename_i j hj
    cases h
    exact lt_of_lastIdx? hj
  · exact (List.findIdx?_eq_some_iff_findIdx_eq.1 h).1

theorem nodup_positionsFrom (h : p.positionsFrom suite seen refs = .ok is) :
    is.Nodup ∧ ∀ i ∈ is, i ∉ seen ∧ i < p.tests.length := by
  induction refs generalizing seen is with
  | nil =>
    cases h
    simp
  | cons ref refs ih =>
    unfold positionsFrom at h
    split at h
    · cases h
    · rename_i i hi
      split at h
      · exact ih h
      · rename_i hnew
        cases hrest : p.positionsFrom suite (i :: seen) refs with
        | error f =>
          rw [hrest] at h
          cases h
        | ok js =>
          rw [hrest] at h
          cases h
          obtain ⟨hnodup, hjs⟩ := ih hrest
          refine ⟨List.nodup_cons.2 ⟨fun hmem => (hjs i hmem).1 List.mem_cons_self, hnodup⟩, ?_⟩
          refine List.forall_mem_cons.2 ⟨⟨by simpa using hnew, lt_of_position? hi⟩, ?_⟩
          exact fun j hj => ⟨fun hseen => (hjs j hj).1 (List.mem_cons_of_mem _ hseen), (hjs j hj).2⟩

theorem forall₂_filterMap (h : ∀ i ∈ is, i < p.tests.length) :
    List.Forall₂ (fun i t => p.tests[i]? = some t) is (is.filterMap fun i => p.tests[i]?) := by
  induction is with
  | nil => exact .nil
  | cons i is ih =>
    obtain ⟨hi, his⟩ := List.forall_mem_cons.1 h
    rw [List.filterMap_cons_some (List.getElem?_eq_getElem hi)]
    exact .cons (List.getElem?_eq_getElem hi) (ih his)

theorem exists_nodup_of_testsOf (h : p.testsOf s = .ok tests) :
    ∃ is, p.positions s = .ok is ∧ is.Nodup ∧
      List.Forall₂ (fun i t => p.tests[i]? = some t) is tests := by
  unfold testsOf at h
  cases his : p.positions s with
  | error f =>
    rw [his] at h
    cases h
  | ok is =>
    rw [his] at h
    cases h
    refine ⟨is, rfl, ?_⟩
    unfold positions at his
    split at his
    · cases his
    · obtain ⟨hnodup, hbound⟩ := nodup_positionsFrom his
      exact ⟨hnodup, forall₂_filterMap fun i hi => (hbound i hi).2⟩

end TestScribe.Project
