import TestScribe.Proofs.Project.Documents
import TestScribe.Proofs.Project.Resolution

/-!
References in a document against the identifiers in it. A suite has the text of what was recorded as
a reference, while a test keeps its identifier as it was recorded, so the two can meet only if both
are texts (`means_of_text`); a number is never found as an identifier, and what is left for it are
the names of tests (`means_of_number`).
-/

namespace TestScribe

open Value (field?)

/-- Whether a suite of a document has a reference that is recorded as the identifier of one test of
the document, and of no other one. -/
structure Cites (fields : List (Text × Value)) (suite test : Nat) (ref : Value) : Prop where
  referring : ∃ inner refs, (listed fields "suites")[suite]? = some (.object inner) ∧
    recordedItems inner "tests" = .ok refs ∧ ref ∈ refs
  there : test < (listed fields "tests").length
  identified : ∀ n inner, (listed fields "tests")[n]? = some (.object inner) →
    (field? inner "id" = some ref ↔ n = test)

namespace Project

/-- Whether a suite gets the test at a position for a reference. Alone, the reference stands for
that test; and among the others, which may fail themselves, it is not what the suite fails on, and
its test is there. -/
structure Gets (p : Project) (s : Suite) (ref : Text) (i : Nat) : Prop where
  alone : p.positions { s with tests := [ref] } = .ok [i]
  unfailing : p.positions s ≠ .error (unknownReference s.name ref)
  present : ∀ is, p.positions s = .ok is → i ∈ is

variable {p : Project} {s : Suite} {ref : Text} {i j : Nat} {fields : List (Text × Value)}

theorem unknownReference_inj {suite other : Text}
    (h : unknownReference suite ref = unknownReference suite other) : ref = other := by
  unfold unknownReference Fault.absent at h
  simpa only [Fault.raised.injEq, true_and, List.append_assoc, List.append_cancel_left_eq,
    List.append_cancel_right_eq] using h

theorem isKey_of_positions {is : List Nat} (h : p.positions s = .ok is) :
    ∀ t ∈ p.tests, t.id.holds = true → t.id.IsKey := by
  rw [← unusableIdentifier?_eq_none]
  unfold positions at h
  split at h
  · cases h
  · assumption

theorem gets_iff (href : ref ∈ s.tests) :
    p.Gets s ref i ↔ (∀ t ∈ p.tests, t.id.holds = true → t.id.IsKey) ∧ p.Means ref i := by
  constructor
  · rintro ⟨halone, -, -⟩
    have hkeys := isKey_of_positions halone
    rw [positions_eq hkeys] at halone
    have hmeans : p.lookUp s.name ref = .ok i → p.Means ref i := lookUp_eq_ok.1
    refine ⟨hkeys, hmeans ?_⟩
    cases hlook : p.lookUp s.name ref with
    | error f =>
      simp only [List.mapM_cons, hlook] at halone
      cases halone
    | ok k =>
      simp only [List.mapM_cons, List.mapM_nil, hlook] at halone
      cases halone
      rfl
  · rintro ⟨hkeys, hmeans⟩
    have hlook : p.lookUp s.name ref = .ok i := lookUp_eq_ok.2 hmeans
    constructor
    · rw [positions_eq hkeys]
      simp only [List.mapM_cons, List.mapM_nil, hlook]
      rfl
    · intro hfail
      rw [positions_eq hkeys] at hfail
      cases hall : s.tests.mapM (p.lookUp s.name) with
      | ok is =>
        rw [hall] at hfail
        cases hfail
      | error f =>
        rw [hall] at hfail
        obtain ⟨before, other, after, -, -, hother⟩ := Except.mapM_eq_error.1 hall
        obtain ⟨hnone, rfl⟩ := lookUp_eq_error.1 hother
        obtain rfl := unknownReference_inj (Except.error.inj hfail)
        exact hnone i hmeans
    · intro is his
      rw [positions_eq hkeys] at his
      cases hall : s.tests.mapM (p.lookUp s.name) with
      | error f =>
        rw [hall] at his
        cases his
      | ok js =>
        rw [hall] at his
        cases his
        obtain ⟨k, hk, hlook'⟩ := exists_mem_of_forall₂ (Except.mapM_eq_ok.1 hall) href
        obtain rfl := Except.ok.inj (hlook.symm.trans hlook')
        exact List.mem_eraseDups.2 hk

end Project

/-! What is read from a document. -/

section

variable {fields : List (Text × Value)} {p : Project}

theorem TestCase.recorded_of_ofValue {v : Value} {t : TestCase} (h : TestCase.ofValue v = .ok t) :
    ∃ inner, v = .object inner ∧ t.id = recorded inner "id" ∧ t.name ≠ [] := by
  simp only [TestCase.ofValue, Except.bind_eq_ok, Value.fields_eq_ok] at h
  obtain ⟨inner, rfl, name, hname, items, -, commands, -, h⟩ := h
  cases h
  obtain ⟨-, c, hc, -⟩ := requiredName_eq_ok.1 hname
  exact ⟨inner, rfl, rfl, List.ne_nil_of_mem hc⟩

theorem Suite.recorded_of_ofValue {v : Value} {s : Suite} (h : Suite.ofValue v = .ok s) :
    ∃ inner refs, v = .object inner ∧ recordedItems inner "tests" = .ok refs ∧
      s.tests = refs.map Value.display := by
  simp only [Suite.ofValue, Except.bind_eq_ok, Value.fields_eq_ok] at h
  obtain ⟨inner, rfl, name, -, refs, hrefs, timeout, -, h⟩ := h
  cases h
  exact ⟨inner, refs, rfl, hrefs, rfl⟩

theorem Project.read_of_ofValue (h : Project.ofValue (.object fields) = .ok p) :
    List.Forall₂ (fun v t => TestCase.ofValue v = .ok t) (listed fields "tests") p.tests ∧
      List.Forall₂ (fun v s => Suite.ofValue v = .ok s) (listed fields "suites") p.suites := by
  obtain ⟨key, -, -, hof⟩ | ⟨hlists, hof⟩ := ofValue_object fields
  · rw [hof] at h
    cases h
  · have htests := recordedItems_of_list (hlists "tests" (by decide))
    have hsuites := recordedItems_of_list (hlists "suites" (by decide))
    rw [hof, Except.mapError_eq_ok] at h
    simp only [Project.ofFields, Except.bind_eq_ok, htests, hsuites, Except.ok.injEq] at h
    obtain ⟨urls, -, plugins, -, _, rfl, tests, ht, _, rfl, suites, hs, h⟩ := h
    cases h
    exact ⟨Except.mapM_eq_ok.1 ht, Except.mapM_eq_ok.1 hs⟩

theorem getElem?_of_split {α : Type} {l before after : List α} {a : α} {i : Nat}
    (hsplit : l = before ++ a :: after) (hposition : before.length = i) : l[i]? = some a := by
  simp [hsplit, ← hposition]

theorem exists_getElem?_of_forall₂ {α β : Type} {R : α → β → Prop} {xs : List α} {ys : List β}
    (h : List.Forall₂ R xs ys) (n : Nat) :
    (∃ x y, xs[n]? = some x ∧ ys[n]? = some y ∧ R x y) ∨ xs[n]? = none ∧ ys[n]? = none := by
  induction h generalizing n with
  | nil => simp
  | @cons x y xs ys hxy _ ih =>
    cases n with
    | zero => exact .inl ⟨x, y, rfl, rfl, hxy⟩
    | succ n => simpa using ih n

end

theorem TestCase.isKnownAs_iff {u : TestCase} {inner : List (Text × Value)} {t : Text}
    (h : u.id = recorded inner "id") :
    u.IsKnownAs t ↔ t ≠ [] ∧ field? inner "id" = some (.text t) := by
  rw [IsKnownAs, h, recorded]
  cases hf : field? inner "id" with
  | none => simp [Value.orElse, Value.holds, Value.empty]
  | some v =>
    cases hv : v.holds with
    | true =>
      rw [Option.getD_some, Value.orElse_of_holds hv, hv, Option.some.injEq]
      refine ⟨fun h => ⟨?_, h.2⟩, fun h => ⟨rfl, h.2⟩⟩
      rintro rfl
      rw [h.2] at hv
      cases hv
    | false =>
      rw [Option.getD_some, Value.orElse_of_not_holds hv, Option.some.injEq]
      refine iff_of_false (by simp [Value.empty, Value.holds]) ?_
      rintro ⟨hne, rfl⟩
      simp [Value.holds, hne] at hv

namespace Project

variable {p : Project} {i j n : Nat} {fields : List (Text × Value)} {ref : Value} {t : Text}
  {u : TestCase}

theorem recorded_of_cites (h : Project.ofValue (.object fields) = .ok p)
    (hc : Cites fields j i ref) (hu : p.tests[n]? = some u) :
    ∃ inner, u.id = recorded inner "id" ∧ u.name ≠ [] ∧
      (field? inner "id" = some ref ↔ n = i) := by
  obtain ⟨v, u', hv, hu', hread⟩ | ⟨-, hnone⟩ :=
    exists_getElem?_of_forall₂ (read_of_ofValue h).1 n
  · obtain rfl := Option.some.inj (hu.symm.trans hu')
    obtain ⟨inner, rfl, hid, hname⟩ := TestCase.recorded_of_ofValue hread
    exact ⟨inner, hid, hname, hc.identified n inner hv⟩
  · rw [hu] at hnone
    cases hnone

theorem exists_cited (h : Project.ofValue (.object fields) = .ok p) (hc : Cites fields j i ref) :
    ∃ u, p.tests[i]? = some u := by
  have hlength := (read_of_ofValue h).1.length_eq
  exact ⟨_, List.getElem?_eq_getElem (hlength ▸ hc.there)⟩

theorem means_of_text (h : Project.ofValue (.object fields) = .ok p)
    (hc : Cites fields j i (.text t)) : p.Means t i ↔ t ≠ [] := by
  have hknown : ∀ n u, p.tests[n]? = some u → (u.IsKnownAs t ↔ t ≠ [] ∧ n = i) := by
    intro n u hu
    obtain ⟨inner, hid, -, hfield⟩ := recorded_of_cites h hc hu
    rw [TestCase.isKnownAs_iff hid, hfield]
  constructor
  · rintro (⟨hsplit, hposition, hmeant, -⟩ | ⟨-, hsplit, hposition, rfl, -⟩)
    · exact ((hknown i _ (getElem?_of_split hsplit hposition)).1 hmeant).1
    · obtain ⟨-, -, hname, -⟩ := recorded_of_cites h hc (getElem?_of_split hsplit hposition)
      exact hname
  · intro hne
    obtain ⟨u, hu⟩ := exists_cited h hc
    obtain ⟨hi, rfl⟩ := List.getElem?_eq_some_iff.1 hu
    have hsplit : p.tests = p.tests.take i ++ p.tests[i] :: p.tests.drop (i + 1) := by simp
    have hlength : (p.tests.take i).length = i := List.length_take_of_le (Nat.le_of_lt hi)
    refine .identifier hsplit hlength ((hknown i _ hu).2 ⟨hne, rfl⟩) ?_
    intro w hw hmeant
    obtain ⟨k, hk⟩ := List.mem_iff_getElem?.1 hw
    rw [List.getElem?_drop] at hk
    have hki := ((hknown _ w hk).1 hmeant).2
    omega

/-- A number that is the identifier of one test means this test only by its name. -/
theorem means_of_number (h : Project.ofValue (.object fields) = .ok p) (hc : Cites fields j i ref)
    (hkind : ref.kind ≠ .text) : p.Means ref.display i ↔
      (∀ u ∈ p.tests, ¬ u.IsKnownAs ref.display) ∧
        p.tests.findIdx? (·.name = ref.display) = some i := by
  have hother : ∀ u, p.tests[i]? = some u → ¬ u.IsKnownAs ref.display := by
    intro u hu hmeant
    obtain ⟨inner, hid, -, hfield⟩ := recorded_of_cites h hc hu
    have htext := ((TestCase.isKnownAs_iff hid).1 hmeant).2
    rw [hfield.2 rfl, Option.some.injEq] at htext
    rw [htext] at hkind
    exact hkind rfl
  rw [findIdx?_eq_some]
  constructor
  · rintro (⟨hsplit, hposition, hmeant, -⟩ | ⟨hunknown, hsplit, hposition, hnamed, hfirst⟩)
    · exact absurd hmeant (hother _ (getElem?_of_split hsplit hposition))
    · exact ⟨hunknown, _, _, _, hsplit, hposition, decide_eq_true hnamed,
        fun u hu => decide_eq_false (hfirst u hu)⟩
  · rintro ⟨hunknown, before, u, after, hsplit, hposition, hnamed, hfirst⟩
    exact .name hunknown hsplit hposition (of_decide_eq_true hnamed)
      fun w hw => of_decide_eq_false (hfirst w hw)

/-- Where a reference and the identifier of just one test are the same text or number in a document,
the suite gets that test exactly if a table of identifiers can be made and the reference is a text,
which is not empty, or a number that is the name of that test before all others and, as a text, the
identifier of none. -/
theorem cited_test_found_iff (h : Project.ofValue (.object fields) = .ok p)
    (hc : Cites fields j i ref) :
    ∃ s, p.suites[j]? = some s ∧ ref.display ∈ s.tests ∧
      (p.Gets s ref.display i ↔ (∀ u ∈ p.tests, u.id.holds = true → u.id.IsKey) ∧
        ((∃ t, ref = .text t ∧ t ≠ []) ∨
          ref.kind ≠ .text ∧ (∀ u ∈ p.tests, ¬ u.IsKnownAs ref.display) ∧
            p.tests.findIdx? (·.name = ref.display) = some i)) := by
  obtain ⟨inner, refs, hsuite, hrefs, hmem⟩ := hc.referring
  obtain ⟨v, s, hv, hs, hread⟩ | ⟨hnone, -⟩ := exists_getElem?_of_forall₂ (read_of_ofValue h).2 j
  · obtain rfl := Option.some.inj (hsuite.symm.trans hv)
    obtain ⟨inner', refs', hinner, hrefs', htests⟩ := Suite.recorded_of_ofValue hread
    obtain rfl := Value.object.inj hinner
    obtain rfl := Except.ok.inj (hrefs.symm.trans hrefs')
    have hdisplay : ref.display ∈ s.tests := htests ▸ List.mem_map_of_mem hmem
    refine ⟨s, hs, hdisplay, ?_⟩
    rw [gets_iff hdisplay]
    refine and_congr_right fun _ => ?_
    by_cases hkind : ref.kind = .text
    · obtain ⟨t, rfl⟩ : ∃ t, ref = .text t := by
        cases ref <;> first | exact ⟨_, rfl⟩ | cases hkind
      rw [Value.display_text, means_of_text h hc]
      simp [Value.kind]
    · rw [means_of_number h hc hkind]
      have hne : ∀ t, ref ≠ .text t := by
        rintro t rfl
        exact hkind rfl
      simp [hkind, hne]
  · rw [hsuite] at hnone
    cases hnone

/-- A test that has the identifier of another one as its name, and a number as its own. -/
theorem cited_test_found_of_text :
    let fields : List (Text × Value) :=
      [("tests", .list [.object [("name", .text "one"), ("id", .text "a")],
          .object [("name", .text "a"), ("id", .int 7)]]),
        ("suites", .list [.object
          [("name", .text "s"), ("tests", .list [.text "one", .text "a", .text "ghost"])]])]
    ∃ p, Project.ofValue (.object fields) = .ok p ∧ Cites fields 0 0 (.text "a") ∧
      (∀ u ∈ p.tests, u.id.holds = true → u.id.IsKey) ∧
      ∃ s, p.suites[0]? = some s ∧ p.Gets s "a" 0 := by
  intro fields
  obtain ⟨p, hp, hkeys⟩ : ∃ p, Project.ofValue (.object fields) = .ok p ∧
      ∀ u ∈ p.tests, u.id.holds = true → u.id.IsKey :=
    ⟨_, rfl, unusableIdentifier?_eq_none.1 rfl⟩
  have hcites : Cites fields 0 0 (.text "a") := by
    refine ⟨⟨_, _, rfl, rfl, by simp⟩, by decide, fun n inner hn => ?_⟩
    match n with
    | 0 => cases hn; exact iff_of_true rfl rfl
    | 1 => cases hn; exact iff_of_false nofun (by decide)
    | n + 2 => cases hn
  obtain ⟨s, hs, -, hgets⟩ := cited_test_found_iff hp hcites
  exact ⟨p, hp, hcites, hkeys, s, hs, hgets.2 ⟨hkeys, .inl ⟨"a", rfl, by decide⟩⟩⟩

/-- A document in which a suite refers to its only test by the number that is recorded as the
identifier of this test: the suite fails on the reference. -/
theorem cited_number_unknown :
    let fields : List (Text × Value) :=
      [("tests", .list [.object [("name", .text "one"), ("id", .int 5)]]),
        ("suites", .list [.object [("name", .text "s"), ("tests", .list [.int 5])]])]
    ∃ p s, Project.ofValue (.object fields) = .ok p ∧ Cites fields 0 0 (.int 5) ∧
      p.suites[0]? = some s ∧ p.positions s = .error (unknownReference "s" "5") ∧
      ¬ p.Gets s "5" 0 := by
  intro fields
  have hcites : Cites fields 0 0 (.int 5) := by
    refine ⟨⟨_, _, rfl, rfl, by simp⟩, by decide, fun n inner hn => ?_⟩
    match n with
    | 0 => cases hn; exact iff_of_true rfl rfl
    | n + 1 => cases hn
  refine ⟨_, _, rfl, hcites, rfl, rfl, fun hgets => hgets.unfailing rfl⟩

end Project

end TestScribe
