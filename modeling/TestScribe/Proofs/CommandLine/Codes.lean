import TestScribe.Proofs.CommandLine.Starting
import TestScribe.Proofs.Export.Accounting
import TestScribe.Proofs.Export.Exits

/-!
The codes with which the program returns. It gives up and returns 1, or its export has a summary,
and then the code says whether all units were written (`returned_code`). A program that gives up has
touched no file.
-/

namespace TestScribe.CommandLine

variable {conduct : Format → Export.Conduct} {w v : World} {cwd : Text}
  {env : List (Text × Text)} {argv : List Text} {a : Arguments} {c : Configuration}
  {schedule : List Nat → List Event} {f : Finish} {s : Summary}
  {r r' : Except (Failure ConfigurationError) Configuration}

theorem Builds.needed (h : Builds w cwd env a r) : a.needed ≠ none := by
  obtain ⟨needed, s, hn, -⟩ := h
  simp [hn]

theorem Builds.unique (h : Builds w cwd env a r) (h' : Builds w cwd env a r') : r = r' := by
  obtain ⟨needed, s, hn, hs, -, hr⟩ := h
  obtain ⟨needed', s', hn', hs', -, hr'⟩ := h'
  rw [hn] at hn'
  rw [hs] at hs'
  cases hn'
  cases hs'
  rw [← hr, hr']

/-- The program makes its export, and this is the summary: the configuration is built, everything is
loaded, units are selected, and there is one outcome for each of them, in order. -/
def Summarizes (conduct : Format → Export.Conduct) (w : World) (cwd : Text)
    (env : List (Text × Text)) (a : Arguments) (schedule : List Nat → List Event)
    (s : Summary) : Prop :=
  ∃ c v l units, Builds w cwd env a (.ok c) ∧ Export.Selects w c none v l units ∧
    (Export.runBy conduct w c none schedule).result = .ok s ∧
    s.outcomes.map (·.name) = units.map Prod.snd

/-- The program has nothing to show: an argument that it needs is missing or empty, its
configuration is refused, or its export ends with an error of the program's own. -/
def GivesUp (conduct : Format → Export.Conduct) (w : World) (cwd : Text)
    (env : List (Text × Text)) (a : Arguments) (schedule : List Nat → List Event) : Prop :=
  (∃ t ∈ [a.format, a.project, a.directory], t = none ∨ t = some []) ∨
  (∃ e, Builds w cwd env a (.error (.reported e))) ∨
  ∃ c e, Builds w cwd env a (.ok c) ∧
    (Export.runBy conduct w c none schedule).result = .error (.reported e)

theorem summarizes_iff (hc : Builds w cwd env a (.ok c)) :
    Summarizes conduct w cwd env a schedule s ↔
      (Export.runBy conduct w c none schedule).result = .ok s := by
  constructor
  · rintro ⟨c', v, l, units, hc', -, hs, -⟩
    cases hc.unique hc'
    exact hs
  · intro hs
    rcases Export.runBy_cases conduct w c none schedule with
      ⟨v, err, -, hrun⟩ | ⟨v, l, f, -, -, hrun⟩ | ⟨v, l, units, hu⟩
    · rw [hrun] at hs
      cases hs
    · rw [hrun] at hs
      cases hs
    · refine ⟨c, v, l, units, hc, hu, hs, ?_⟩
      rw [hu.runBy, Export.result_emitAll hu.sublist] at hs
      cases hs
      simp

theorem givesUp_iff (hc : Builds w cwd env a (.ok c)) :
    GivesUp conduct w cwd env a schedule ↔
      ∃ e, (Export.runBy conduct w c none schedule).result = .error (.reported e) := by
  rw [GivesUp, ← needed_eq_none, or_iff_right hc.needed]
  constructor
  · rintro (⟨e, he⟩ | ⟨c', e, hc', he⟩)
    · cases hc.unique he
    · cases hc.unique hc'
      exact ⟨e, he⟩
  · rintro ⟨e, he⟩
    exact .inr ⟨c, e, hc, he⟩

/-- A program that returns has given up with the code 1 before it touched a file, or it returns the
code of its summary. -/
theorem runBy_cases (hread : Arguments.read argv = .ok a)
    (hrun : runBy conduct w cwd env argv schedule = (v, .ok f)) :
    (GivesUp conduct w cwd env a schedule ∧ (∀ s, ¬ Summarizes conduct w cwd env a schedule s) ∧
      f.exit = .returned 1 ∧ v.files = w.files) ∨
    ∃ s, Summarizes conduct w cwd env a schedule s ∧
      (∀ t, Summarizes conduct w cwd env a schedule t → t = s) ∧
      ¬ GivesUp conduct w cwd env a schedule ∧ f.exit = .returned s.exitCode := by
  rcases start_cases w cwd env hread with
    ⟨hnone, hstart⟩ | ⟨-, crash, -, hstart, -⟩ | ⟨r, hr, hstart⟩
  · simp only [runBy, hstart] at hrun
    cases hrun
    refine .inl ⟨.inl (needed_eq_none.1 hnone), ?_, rfl, rfl⟩
    rintro s ⟨c, v, l, units, hc, -⟩
    exact hc.needed hnone
  · simp only [runBy, hstart] at hrun
    cases hrun
  · rcases r with (e | f') | c
    · simp only [runBy, hstart] at hrun
      cases hrun
      refine .inl ⟨.inr (.inl ⟨e, hr⟩), ?_, rfl, rfl⟩
      rintro s ⟨c, v, l, units, hc, -⟩
      cases hr.unique hc
    · simp only [runBy, hstart] at hrun
      cases hrun
    · simp only [runBy, hstart] at hrun
      simp only [summarizes_iff hr, givesUp_iff hr]
      cases hresult : (Export.runBy conduct w c none schedule).result with
      | error err =>
        obtain ⟨u, hu, hend⟩ := Export.runBy_of_error hresult
        rw [hresult] at hrun
        cases err with
        | reported e =>
          cases hrun
          refine .inl ⟨⟨e, rfl⟩, by simp, rfl, ?_⟩
          rw [hend]
          exact hu.files
        | escaped f' => cases hrun
      | ok s =>
        rw [hresult] at hrun
        cases hrun
        refine .inr ⟨s, rfl, fun t ht => ?_, by simp, rfl⟩
        cases ht
        rfl

/-- The codes of a program that returns: 0 if its export has a summary in which every outcome is a
file that was written, 2 if it has one in which some outcome is not, and 1 if the program gives up;
and a program that gives up leaves all files as they were. -/
theorem returned_code (conduct : Format → Export.Conduct) (w : World) (cwd : Text)
    (env : List (Text × Text)) (schedule : List Nat → List Event)
    (hread : Arguments.read argv = .ok a)
    (hrun : runBy conduct w cwd env argv schedule = (v, .ok f)) :
    ∃ code, f.exit = .returned code ∧ (code = 0 ∨ code = 1 ∨ code = 2) ∧
      (code = 0 ↔ ∃ s, Summarizes conduct w cwd env a schedule s ∧
        ∀ o ∈ s.outcomes, o.result.isWritten = true) ∧
      (code = 2 ↔ ∃ s, Summarizes conduct w cwd env a schedule s ∧
        ∃ o ∈ s.outcomes, o.result.isWritten = false) ∧
      (code = 1 ↔ GivesUp conduct w cwd env a schedule) ∧
      (code = 1 → v.files = w.files) := by
  rcases runBy_cases hread hrun with ⟨hup, hnone, hexit, hfiles⟩ | ⟨s, hs, hunique, hup, hexit⟩
  · refine ⟨1, hexit, .inr (.inl rfl), ?_, ?_, iff_of_true rfl hup, fun _ => hfiles⟩
    · exact iff_of_false (by decide) fun ⟨s, hs, _⟩ => hnone s hs
    · exact iff_of_false (by decide) fun ⟨s, hs, _⟩ => hnone s hs
  · have hcode : s.exitCode = 0 ∨ s.exitCode = 2 := by
      unfold Summary.exitCode
      split
      · exact .inl rfl
      · exact .inr rfl
    have hne : s.exitCode ≠ 1 := by omega
    refine ⟨s.exitCode, hexit, by omega, ?_, ?_, iff_of_false hne hup, fun h => absurd h hne⟩
    · rw [Summary.exitCode_eq_zero_iff]
      exact ⟨fun h => ⟨s, hs, h⟩, fun ⟨t, ht, h⟩ => hunique t ht ▸ h⟩
    · rw [Summary.exitCode_eq_two_iff]
      exact ⟨fun h => ⟨s, hs, h⟩, fun ⟨t, ht, h⟩ => hunique t ht ▸ h⟩

/-- Two tests whose files have one name: the second finds the path taken. -/
theorem returned_code_of_two :
    let format := Export.Sample.format fun name => Export.Sample.file name "f"
    let w : World :=
      { Export.Sample.world ["a", "b"] with
        library := { named := [("one", { members := .ofFormat format })] } }
    let argv : List Text := ["one", "p", "out", "-m", "test", "-f", "(?:)"]
    ∃ a v f, Arguments.read argv = .ok a ∧
      runBy Export.byName w "/" [] argv (fun _ => []) = (v, .ok f) ∧ f.exit = .returned 2 ∧
      ∃ s, Summarizes Export.byName w "/" [] a (fun _ => []) s ∧
        ∃ o ∈ s.outcomes, o.result.isWritten = false := by
  intro format w argv
  let c : Configuration :=
    { Export.Sample.configuration "/out" ⟨"(?:)", Export.Sample.everything.program⟩ with
      format := "one" }
  have hread : Arguments.read argv = .ok
      { format := some "one", project := some "p", directory := some "out", mode := some "test"
        filter := some "(?:)" } := rfl
  have hstart : start w "/" [] argv = .ok (.inr c) := rfl
  have hcode : (match (Export.runBy Export.byName w c none fun _ => []).result with
      | .ok s => decide (s.exitCode = 2)
      | .error _ => false) = true := by
    decide +kernel
  cases hresult : (Export.runBy Export.byName w c none fun _ => []).result with
  | error e =>
    rw [hresult] at hcode
    cases hcode
  | ok s =>
    rw [hresult] at hcode
    have hexit : s.exitCode = 2 := of_decide_eq_true hcode
    have hrun : runBy Export.byName w "/" [] argv (fun _ => []) =
        ((Export.runBy Export.byName w c none fun _ => []).world,
          .ok ⟨.returned s.exitCode, .text (report s)⟩) := by
      simp only [runBy, hstart, hresult]
    obtain ⟨code, hreturned, -, -, htwo, -⟩ :=
      returned_code Export.byName w "/" [] (fun _ => []) hread hrun
    cases hreturned
    exact ⟨_, _, _, hread, hrun, congrArg Exit.returned hexit, htwo.1 hexit⟩

end TestScribe.CommandLine
