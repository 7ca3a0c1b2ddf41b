import TestScribe.Proofs.Export.Words

/-!
Every unit is accounted for: whatever formats do and in whatever order things happen, the format is
called once for each selected unit, each of them has one outcome of its own, and the counts of a
summary add up. The one thing that can go wrong before that is the search of a name, and the one
after it a failure that cannot be put into words.
-/

namespace TestScribe

namespace Summary

theorem exitCode_eq_two_iff {s : Summary} :
    s.exitCode = 2 ↔ ∃ o ∈ s.outcomes, o.result.isWritten = false := by
  unfold exitCode failed
  cases hf : s.outcomes.filter fun o => !o.result.isWritten with
  | nil =>
    rw [List.filter_eq_nil_iff] at hf
    simp only [List.isEmpty_nil, if_true]
    refine iff_of_false (by decide) ?_
    rintro ⟨o, ho, hw⟩
    exact hf o ho (by simp [hw])
  | cons o os =>
    have ho : o ∈ s.outcomes.filter fun o => !o.result.isWritten := by simp [hf]
    rw [List.mem_filter] at ho
    simp only [List.isEmpty_cons, Bool.false_eq_true, if_false, true_iff]
    exact ⟨o, ho.1, by simpa using ho.2⟩

theorem exitCode_eq_zero_iff {s : Summary} :
    s.exitCode = 0 ↔ ∀ o ∈ s.outcomes, o.result.isWritten = true := by
  have h : s.exitCode = 0 ↔ ¬ s.exitCode = 2 := by
    unfold exitCode
    split <;> simp
  rw [h, exitCode_eq_two_iff]
  simp

theorem total {s : Summary} {m n : Nat} (ho : s.outcomes.length = n) (hs : s.skipped = m - n) :
    (s.written.length : Int) + s.failed.length + s.skipped = m := by
  have h := s.length_written_add_failed
  omega

end Summary

namespace Export

variable {w v : World} {c : Configuration} {l : Loaded} {units : List (Nat × Text)}
  {given : Option Format}

/-- An outcome that goes back to what a unit asks for: the error of its emission, or the claim to
its path or the write of its file. -/
def Answers (w : Wish) (i : Nat) (r : Result) : Prop :=
  match w i with
  | .error e => r = .failed e
  | .ok (path, _) =>
    r = .written path ∨ r = .failed (.emission (.claimed path)) ∨ ∃ f, r = .failed (.fault f)

theorem answers_verdict (p : Plan) (w : Wish) (t : FileTree) (h : List Mark) (i : Nat) :
    Answers w i (p.verdict w t h i) := by
  unfold Answers
  cases hi : w i with
  | error e => exact Plan.verdict_of_error hi
  | ok f =>
    obtain ⟨path, body⟩ := f
    by_cases ho : w.owner h path = some i
    · rw [Plan.verdict_of_owner hi ho]
      rcases p.save_result (p.found w t h i) path body with hs | hs
      · exact .inl hs
      · exact .inr (.inr hs)
    · exact .inr (.inl (Plan.verdict_of_ne hi ho))

/-- Selected units are accounted for by the calls and the summary of an export. -/
structure Accounted (c : Configuration) (p : Project) (w : Wish) (units : List (Nat × Text))
    (e : Ended) (s : Summary) : Prop where
  /-- The units are those whose names the filter accepts, in order. -/
  selection : units = (p.units c.mode).filter fun u => c.pattern.accepts u.2
  /-- The format is called once for each unit, by the function of the mode. -/
  calls : e.calls = units.map fun u => (c.mode, u.2)
  mode : s.mode = c.mode
  /-- There is one outcome for each unit, in order. -/
  names : s.outcomes.map (·.name) = units.map Prod.snd
  /-- An outcome says what has come of its own unit. -/
  own : ∀ u o, (u, o) ∈ units.zip s.outcomes → Answers w u.1 o.result
  /-- Nothing is counted twice or left out. -/
  total : (s.written.length : Int) + s.failed.length + s.skipped = (p.units c.mode).length
  failing : s.exitCode = 2 ↔ ∃ o ∈ s.outcomes, o.result.isWritten = false
  passing : s.exitCode = 0 ↔ ∀ o ∈ s.outcomes, o.result.isWritten = true

/-- Once everything is loaded, an export accounts for all units that are selected, unless one of
them fails without words. If the search of a name goes wrong, it ends before any unit is emitted. -/
theorem units_accounted (mute : Mute) (conduct : Format → Conduct)
    (schedule : List Nat → List Event) (h : load w c given = (v, .ok l)) :
    match selected c l.project with
    | .ok units =>
      (wish (conduct l.format) v c l.project).Worded mute (units.map Prod.fst) →
      ∃ s, (runWith mute conduct w c given schedule).result = .ok s ∧
        Accounted c l.project (wish (conduct l.format) v c l.project) units
          (runWith mute conduct w c given schedule) s
    | .error f => runWith mute conduct w c given schedule =
        { world := v, calls := [], result := .error (.escaped f) } := by
  cases hsel : selected c l.project with
  | error f => simp only [runWith, h, hsel]
  | ok units =>
    intro hw
    have hu : Selects w c given v l units := ⟨h, hsel⟩
    have hs := hu.sublist
    rw [hu.runWith_eq hw, hu.runBy]
    refine ⟨_, result_emitAll hs, ?_⟩
    constructor
    case selection => exact (selected_eq_ok.1 hsel).2
    case calls => exact calls_emitAll _ _ _ _ _ _
    case mode => rfl
    case names => simp
    case own =>
      intro u o huo
      obtain ⟨-, rfl⟩ := of_mem_zip_map huo
      exact answers_verdict _ _ _ _ _
    case total => exact Summary.total (by simp) rfl
    case failing => exact Summary.exitCode_eq_two_iff
    case passing => exact Summary.exitCode_eq_zero_iff

theorem units_accounted_of_two :
    let w := Sample.world ["a", "b"]
    let c := Sample.configuration "/out" Sample.everything
    let format := some (Sample.format fun name =>
      if name = ['a'] then .fails (.fault (.raised .runtime "boom")) else Sample.file name name)
    ∃ v l, load w c format = (v, .ok l) ∧
      match selected c l.project with
      | .ok units => (wish (byName l.format) v c l.project).Worded Sample.unworded
            (units.map Prod.fst) ∧
          ∃ s, (runWith Sample.unworded byName w c format fun _ => []).result = .ok s ∧
          Accounted c l.project (wish (byName l.format) v c l.project) units
            (runWith Sample.unworded byName w c format fun _ => []) s
      | .error f => runWith Sample.unworded byName w c format (fun _ => []) =
          { world := v, calls := [], result := .error (.escaped f) } := by
  intro w c format
  have hsel : selectsAs w c format (fun v l units =>
      decide ((wish (byName l.format) v c l.project).Worded Sample.unworded
        (units.map Prod.fst))) = true := by
    decide +kernel
  obtain ⟨v, l, units, h, hw⟩ := exists_selects hsel
  have key := units_accounted Sample.unworded byName (fun _ => []) h.load
  refine ⟨v, l, h.load, ?_⟩
  rw [h.selected] at key ⊢
  exact ⟨of_decide_eq_true hw, key (of_decide_eq_true hw)⟩

/-- A filter that finds groups which end before they start: there is no summary. -/
theorem no_summary_of_crossed_groups :
    let w := Sample.world ["aabb"]
    let format := Sample.format fun name => Sample.file name name
    ∃ f v l, Filter.compile (some "(?:((a)|.))++".toList) = .ok f ∧
      load w (Sample.configuration "/out" f) (some format) = (v, .ok l) ∧
      ∀ s, (runBy byName w (Sample.configuration "/out" f) (some format) fun _ => []).result ≠ .ok s
    := by
  intro w format
  have key : (match Filter.compile (some "(?:((a)|.))++".toList) with
      | .ok f =>
        (load w (Sample.configuration "/out" f) (some format)).2.isOk &&
          !(runBy byName w (Sample.configuration "/out" f) (some format) fun _ => []).result.isOk
      | .error _ => false) = true := by
    decide +kernel
  split at key
  · rename_i f hf
    rw [Bool.and_eq_true, Bool.not_eq_true'] at key
    obtain ⟨hload, hrun⟩ := key
    cases hl : load w (Sample.configuration "/out" f) (some format) with
    | mk v r =>
      cases r with
      | error e =>
        rw [hl] at hload
        cases hload
      | ok l =>
        refine ⟨f, v, l, hf, hl, fun s hs => ?_⟩
        rw [hs] at hrun
        cases hrun
  · cases key

end Export

end TestScribe
