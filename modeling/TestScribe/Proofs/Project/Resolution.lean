import TestScribe.Proofs.Phases
import TestScribe.Proofs.Project.References

/-!
What the references of a suite come to. A reference means the last test with that identifier, or
else the first test with that name (`position?_eq_some`). To go through the references is to look
each of them up and then to drop what came before (`positionsFrom_eq`), and everything about the
tests of a suite follows from this one equation.
-/

namespace TestScribe

/-- Whether a test goes by a text as its identifier. An identifier that does not hold is none. -/
def TestCase.IsKnownAs (t : TestCase) (ref : Text) : Prop := t.id.holds = true ∧ t.id = .text ref

def Value.IsKey (v : Value) : Prop := v.kind ≠ .list ∧ v.kind ≠ .object

namespace Project

variable {p : Project} {s : Suite} {suite ref : Text} {refs : List Text} {seen is : List Nat}
  {i j : Nat} {f : Fault}

/-- Whether a reference means the test at a position: the last one that goes by it, or, if there is
none, the first one with that name. -/
inductive Means (p : Project) (ref : Text) (i : Nat) : Prop
  | identifier {before : List TestCase} {t : TestCase} {after : List TestCase}
    (split : p.tests = before ++ t :: after) (position : before.length = i)
    (known : t.IsKnownAs ref) (last : ∀ u ∈ after, ¬ u.IsKnownAs ref)
  | name {before : List TestCase} {t : TestCase} {after : List TestCase}
    (unknown : ∀ u ∈ p.tests, ¬ u.IsKnownAs ref)
    (split : p.tests = before ++ t :: after) (position : before.length = i)
    (named : t.name = ref) (first : ∀ u ∈ before, u.name ≠ ref)

theorem isIdentifier_iff {t : TestCase} : isIdentifier ref t.id = true ↔ t.IsKnownAs ref := by
  unfold TestCase.IsKnownAs
  cases t.id <;> simp [isIdentifier]

theorem lastIdx?_eq_none {α : Type} {q : α → Bool} {l : List α} :
    lastIdx? q l = none ↔ ∀ a ∈ l, q a = false := by
  induction l with
  | nil => simp [lastIdx?]
  | cons a l ih =>
    rw [List.forall_mem_cons, ← ih]
    cases hl : lastIdx? q l <;> cases ha : q a <;> simp [lastIdx?, hl, ha]

theorem lastIdx?_eq_some {α : Type} {q : α → Bool} {l : List α} : lastIdx? q l = some i ↔
    ∃ before a after, l = before ++ a :: after ∧ before.length = i ∧ q a = true ∧
      ∀ b ∈ after, q b = false := by
  induction l generalizing i with
  | nil => simp [lastIdx?]
  | cons a l ih =>
    constructor
    · intro h
      unfold lastIdx? at h
      split at h
      · rename_i k hk
        obtain ⟨before, b, after, rfl, rfl, hb, hafter⟩ := ih.1 hk
        exact ⟨a :: before, b, after, rfl, Option.some.inj h, hb, hafter⟩
      · rename_i hnone
        split at h
        · rename_i ha
          exact ⟨[], a, l, rfl, Option.some.inj h, ha, lastIdx?_eq_none.1 hnone⟩
        · cases h
    · rintro ⟨before, b, after, hl, rfl, hb, hafter⟩
      cases before with
      | nil =>
        obtain ⟨rfl, rfl⟩ := List.cons.inj hl
        have hnone : lastIdx? q l = none := lastIdx?_eq_none.2 hafter
        simp [lastIdx?, hnone, hb]
      | cons c before =>
        obtain ⟨rfl, rfl⟩ := List.cons.inj hl
        have hrest : lastIdx? q (before ++ b :: after) = some before.length :=
          ih.2 ⟨before, b, after, rfl, rfl, hb, hafter⟩
        simp [lastIdx?, hrest]

theorem findIdx?_eq_some {α : Type} {q : α → Bool} {l : List α} : l.findIdx? q = some i ↔
    ∃ before a after, l = before ++ a :: after ∧ before.length = i ∧ q a = true ∧
      ∀ b ∈ before, q b = false := by
  rw [List.findIdx?_eq_some_iff_getElem]
  constructor
  · rintro ⟨hi, ha, hbefore⟩
    refine ⟨l.take i, l[i], l.drop (i + 1), ?_, List.length_take_of_le (Nat.le_of_lt hi), ha, ?_⟩
    · rw [List.getElem_cons_drop, List.take_append_drop]
    · intro b hb
      obtain ⟨j, hj, rfl⟩ := List.mem_take_iff_getElem.1 hb
      exact Bool.eq_false_iff.2 (hbefore j (by omega))
  · rintro ⟨before, a, after, rfl, rfl, ha, hbefore⟩
    refine ⟨by simp, by simpa using ha, fun j hj => ?_⟩
    rw [List.getElem_append_left hj, hbefore _ (List.getElem_mem hj)]
    exact Bool.false_ne_true

theorem position?_eq_some : p.position? ref = some i ↔ p.Means ref i := by
  have hid : ∀ {u : TestCase}, isIdentifier ref u.id = false ↔ ¬ u.IsKnownAs ref := by
    intro u
    rw [← isIdentifier_iff, Bool.not_eq_true]
  unfold position?
  split
  · rename_i k hk
    obtain ⟨before, t, after, hsplit, hlength, ht, hafter⟩ := lastIdx?_eq_some.1 hk
    constructor
    · intro h
      exact .identifier hsplit (hlength.trans (Option.some.inj h)) (isIdentifier_iff.1 ht)
        fun u hu => hid.1 (hafter u hu)
    · rintro (⟨hsplit', hlength', ht', hafter'⟩ | ⟨hunknown, -, -, -, -⟩)
      · rw [← hk, lastIdx?_eq_some]
        exact ⟨_, _, _, hsplit', hlength', isIdentifier_iff.2 ht', fun u hu => hid.2 (hafter' u hu)⟩
      · have hmem : t ∈ p.tests := hsplit ▸ List.mem_append_right before List.mem_cons_self
        exact absurd (isIdentifier_iff.1 ht) (hunknown t hmem)
  · rename_i hnone
    have hunknown : ∀ u ∈ p.tests, ¬ u.IsKnownAs ref :=
      fun u hu => hid.1 (lastIdx?_eq_none.1 hnone u hu)
    rw [findIdx?_eq_some]
    constructor
    · rintro ⟨before, t, after, hsplit, hlength, ht, hbefore⟩
      exact .name hunknown hsplit hlength (of_decide_eq_true ht)
        fun u hu => of_decide_eq_false (hbefore u hu)
    · rintro (⟨hsplit, -, ht, -⟩ | ⟨-, hsplit, hlength, ht, hbefore⟩)
      · exact absurd ht (hunknown _ (hsplit ▸ List.mem_append_right _ List.mem_cons_self))
      · exact ⟨_, _, _, hsplit, hlength, decide_eq_true ht,
          fun u hu => decide_eq_false (hbefore u hu)⟩

/-- The position of the test that a reference means, or else the fault that names it. -/
def lookUp (p : Project) (suite ref : Text) : Except Fault Nat :=
  match p.position? ref with
  | some i => .ok i
  | none => .error (unknownReference suite ref)

theorem lookUp_eq_ok : p.lookUp suite ref = .ok i ↔ p.Means ref i := by
  rw [← position?_eq_some, lookUp]
  cases p.position? ref <;> simp

theorem lookUp_eq_error :
    p.lookUp suite ref = .error f ↔ (∀ i, ¬ p.Means ref i) ∧ f = unknownReference suite ref := by
  simp only [← position?_eq_some, lookUp]
  cases p.position? ref with
  | none => simp [eq_comm]
  | some i => simp

/-- Going through references is to look each of them up, and to drop what was seen before. -/
theorem positionsFrom_eq (p : Project) (suite : Text) (seen : List Nat) (refs : List Text) :
    p.positionsFrom suite seen refs = (refs.mapM (p.lookUp suite)).map fun is =>
      (is.filter fun i => !seen.contains i).eraseDups := by
  induction refs generalizing seen with
  | nil => rfl
  | cons ref refs ih =>
    rw [List.mapM_cons]
    cases hi : p.position? ref with
    | none =>
      have hlook : p.lookUp suite ref = .error (unknownReference suite ref) := by
        rw [lookUp, hi]
      simp only [positionsFrom, hi, hlook]
      rfl
    | some i =>
      have hlook : p.lookUp suite ref = .ok i := by rw [lookUp, hi]
      simp only [positionsFrom, hi, hlook, ih]
      cases refs.mapM (p.lookUp suite) with
      | error f => cases seen.contains i <;> rfl
      | ok is =>
        show (if seen.contains i then _ else _) =
          Except.ok ((i :: is).filter fun j => !seen.contains j).eraseDups
        cases hseen : seen.contains i with
        | true =>
          rw [List.filter_cons_of_neg (by simpa using hseen)]
          rfl
        | false =>
          rw [List.filter_cons_of_pos (by simpa using hseen), List.eraseDups_cons,
            List.filter_filter]
          have hrest : (is.filter fun j => !(i :: seen).contains j) =
              is.filter fun j => !j == i && !seen.contains j :=
            List.filter_congr fun j _ => by rw [List.contains_cons, Bool.not_or]
          rw [← hrest]
          rfl

theorem unusableIdentifier?_eq_none :
    p.unusableIdentifier? = none ↔ ∀ t ∈ p.tests, t.id.holds = true → t.id.IsKey := by
  rw [unusableIdentifier?, List.findSome?_eq_none_iff]
  refine forall₂_congr fun t _ => ?_
  rcases t.id with _ | b | n | x | t | ⟨_ | ⟨v, vs⟩⟩ | ⟨_ | ⟨v, vs⟩⟩ <;>
    simp [Value.IsKey, Value.kind, Value.holds]

/-- The positions of a suite's tests: those that its references mean, each once. -/
theorem positions_eq (h : ∀ t ∈ p.tests, t.id.holds = true → t.id.IsKey) (s : Suite) :
    p.positions s = (s.tests.mapM (p.lookUp s.name)).map List.eraseDups := by
  have hall : (fun is : List Nat => (is.filter fun i => !([] : List Nat).contains i).eraseDups) =
      List.eraseDups := by
    funext is
    exact congrArg List.eraseDups (List.filter_eq_self.2 fun _ _ => rfl)
  rw [← hall, ← positionsFrom_eq, positions, unusableIdentifier?_eq_none.2 h]

theorem testsOf_eq_error (h : ∀ t ∈ p.tests, t.id.holds = true → t.id.IsKey) :
    p.testsOf s = .error f ↔ s.tests.mapM (p.lookUp s.name) = .error f := by
  rw [testsOf, positions_eq h]
  cases s.tests.mapM (p.lookUp s.name) <;> simp [Except.map]

theorem exists_mem_of_forall₂ {α β : Type} {R : α → β → Prop} {xs : List α} {ys : List β}
    (h : List.Forall₂ R xs ys) {x : α} (hx : x ∈ xs) : ∃ y ∈ ys, R x y := by
  induction h with
  | nil => cases hx
  | cons hy _ ih =>
    rcases List.mem_cons.1 hx with rfl | hx
    · exact ⟨_, List.mem_cons_self, hy⟩
    · obtain ⟨y, hmem, hy⟩ := ih hx
      exact ⟨y, List.mem_cons_of_mem _ hmem, hy⟩

/-- What becomes of a suite whose references mean the tests at these positions. -/
structure ComesTo (p : Project) (s : Suite) (is : List Nat) (tests : List TestCase) : Prop where
  /-- The tests at these positions, in order, without those that came before. -/
  each : List.Forall₂ (fun i t => p.tests[i]? = some t) is.eraseDups tests
  /-- No test comes twice. -/
  distinct : is.eraseDups.Nodup
  /-- The test of every reference is there. -/
  covered : ∀ ref ∈ s.tests, ∃ i ∈ is.eraseDups, ∃ t ∈ tests,
    p.Means ref i ∧ p.tests[i]? = some t

theorem exists_comesTo (h : ∀ t ∈ p.tests, t.id.holds = true → t.id.IsKey)
    (hmeans : List.Forall₂ p.Means s.tests is) :
    ∃ tests, p.testsOf s = .ok tests ∧ p.ComesTo s is tests := by
  have hlook : s.tests.mapM (p.lookUp s.name) = .ok is :=
    Except.mapM_eq_ok.2 (hmeans.imp fun _ _ => lookUp_eq_ok.2)
  have hpositions : p.positions s = .ok is.eraseDups := by
    rw [positions_eq h, hlook]
    rfl
  have htests : p.testsOf s = .ok (is.eraseDups.filterMap fun i => p.tests[i]?) := by
    rw [testsOf, hpositions]
    rfl
  obtain ⟨js, hjs, hnodup, heach⟩ := exists_nodup_of_testsOf htests
  obtain rfl : is.eraseDups = js := Except.ok.inj (hpositions.symm.trans hjs)
  refine ⟨_, htests, heach, hnodup, fun ref href => ?_⟩
  obtain ⟨i, hi, hmeans⟩ := exists_mem_of_forall₂ hmeans href
  have hkept : i ∈ is.eraseDups := List.mem_eraseDups.2 hi
  obtain ⟨t, ht, hat⟩ := exists_mem_of_forall₂ heach hkept
  exact ⟨i, hkept, t, ht, hmeans, hat⟩

/-- The references of a suite are resolved one by one. The fault, if there is one, is that of the
first reference that means no test. Otherwise the suite comes to the tests that its references mean,
in order, where a test that is meant again is not repeated. -/
theorem references_resolved (p : Project) (s : Suite)
    (h : ∀ t ∈ p.tests, t.id.holds = true → t.id.IsKey) :
    (∀ f, p.testsOf s = .error f ↔ ∃ before ref after, s.tests = before ++ ref :: after ∧
      (∀ r ∈ before, ∃ i, p.Means r i) ∧ (∀ i, ¬ p.Means ref i) ∧
      f.cls = .key ∧ f = unknownReference s.name ref) ∧
    ∀ is, List.Forall₂ p.Means s.tests is →
      ∃ tests, p.testsOf s = .ok tests ∧ p.ComesTo s is tests := by
  refine ⟨fun f => ?_, fun is => exists_comesTo h⟩
  rw [testsOf_eq_error h, Except.mapM_eq_error]
  simp only [lookUp_eq_ok, lookUp_eq_error]
  constructor
  · rintro ⟨before, ref, after, hsplit, hbefore, hnone, rfl⟩
    exact ⟨before, ref, after, hsplit, hbefore, hnone, rfl, rfl⟩
  · rintro ⟨before, ref, after, hsplit, hbefore, hnone, -, hf⟩
    exact ⟨before, ref, after, hsplit, hbefore, hnone, hf⟩

/-- Two tests of one identifier, and a third one that has the name of the first. The references go
by the identifier, which means the second test, by the name of that test, and by the name that two
tests have, which means the first. -/
theorem references_resolved_of_namesakes :
    let p : Project :=
      { tests := [{ name := "a", id := .text "x" }, { name := "b", id := .text "x" },
          { name := "a" }] }
    let s : Suite := { name := "s", tests := ["x", "b", "a"] }
    (∀ t ∈ p.tests, t.id.holds = true → t.id.IsKey) ∧ List.Forall₂ p.Means s.tests [1, 1, 0] ∧
      [1, 1, 0].eraseDups = [1, 0] ∧
      ∃ tests, p.testsOf s = .ok tests ∧ p.ComesTo s [1, 1, 0] tests := by
  intro p s
  have hkeys : ∀ t ∈ p.tests, t.id.holds = true → t.id.IsKey := by
    simp [p, Value.IsKey, Value.kind, Value.empty]
  have hx : p.position? "x" = some 1 := by decide +kernel
  have hb : p.position? "b" = some 1 := by decide +kernel
  have ha : p.position? "a" = some 0 := by decide +kernel
  have hmeans : List.Forall₂ p.Means s.tests [1, 1, 0] :=
    .cons (position?_eq_some.1 hx) (.cons (position?_eq_some.1 hb)
      (.cons (position?_eq_some.1 ha) .nil))
  exact ⟨hkeys, hmeans, by decide, (references_resolved p s hkeys).2 _ hmeans⟩

end Project

end TestScribe
