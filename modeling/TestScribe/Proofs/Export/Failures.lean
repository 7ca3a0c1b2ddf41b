import TestScribe.Proofs.Export.Namesakes

/-!
Why units of the built-in formats fail. Their names may be any texts, but a name is never the
reason: the filename that it stands for has a fixed shape, is accepted as it is, and leads to a file
in the output directory itself (`filenames_safe`). What is left is that there is no code for the
unit, that another unit has its file already, or that the file cannot be written.
-/

namespace TestScribe

open Naming (IsWords)
open JUnit (IsClassName)

namespace Export

variable {w v : World} {c : Configuration} {p : Project} {l : Loaded} {b : Builtin}
  {units : List (Nat × Text)} {given : Option Format}

inductive Fails (d : Dialect) (r : Registry) (c : Configuration) (p : Project) (name : Text) :
    UnitError → Prop
  /-- There is no code for it. -/
  | unmade {f : Fault} (h : d.emitUnit r c.mode p name = .error f) : Fails d r c p name (.fault f)
  /-- Another unit has its file. -/
  | taken : Fails d r c p name (.emission (.claimed (Path.inside c.directory (d.filename name))))
  /-- Its file cannot be written. -/
  | unwritten {files : FileTree} {body : Text} {e : UnitError}
    (h : ((plan c p).save files (Path.inside c.directory (d.filename name)) body).2 = .failed e) :
    Fails d r c p name e

theorem fails_of_verdict (hb : b ∈ Builtin.all) {u : Nat × Text} (hu : u ∈ p.units c.mode)
    {files : FileTree} {marks : List Mark} {e : UnitError}
    (h : (plan c p).verdict (wish (byName b.dialect.format) w c p) files marks u.1 = .failed e) :
    Fails b.dialect (seen w) c p u.2 e := by
  have hwish := wish_eq hb w c p u.1
  rw [Project.unitName_of_mem hu] at hwish
  cases hmade : b.dialect.emitUnit (seen w) c.mode p u.2 with
  | error f =>
    rw [hmade] at hwish
    rw [Plan.verdict_of_error hwish] at h
    cases h
    exact .unmade hmade
  | ok file =>
    rw [hmade] at hwish
    by_cases howner : (wish (byName b.dialect.format) w c p).owner marks
        (Path.inside c.directory (b.dialect.filename u.2)) = some u.1
    · rw [Plan.verdict_of_owner hwish howner] at h
      exact .unwritten h
    · rw [Plan.verdict_of_ne hwish howner] at h
      cases h
      exact .taken

/-- Whatever a unit is called, the name of its file is made of words of small letters and digits, or
is that of a class. It is accepted, and it is one component more than the output directory has. So
no unit of a built-in format fails for its name. -/
theorem filenames_safe :
    (∀ name,
      (∃ t, IsWords '_' t ∧ Pytest.dialect.filename name = "test_" ++ t ++ ".py") ∧
      (∃ t, IsWords '-' t ∧ Playwright.dialect.filename name = t ++ ".spec.ts") ∧
      (∃ t, IsClassName t ∧ JUnit.dialect.filename name = t ++ ".java")) ∧
    ∀ b ∈ Builtin.all,
      (∀ name unit body directory,
        Answer.accept unit (.file (.text body) (.text (b.dialect.filename name))) =
          .ok ⟨body, b.dialect.filename name⟩ ∧
        outputPath directory (b.dialect.filename name) = .ok ⟨(Path.ofText directory).slashes,
          (Path.ofText directory).parts ++ [b.dialect.filename name]⟩) ∧
      ∀ w c given v l units schedule, Selects w c given v l units → l.format = b.dialect.format →
        ∃ s, (run w c given schedule).result = .ok s ∧
          ∀ u o e, (u, o) ∈ units.zip s.outcomes → o.result = .failed e →
            Fails b.dialect (seen v) c l.project u.2 e := by
  constructor
  · intro name
    exact ⟨⟨_, Naming.isWords_snake name, rfl⟩, ⟨_, Naming.isWords_kebab name, rfl⟩,
      ⟨_, JUnit.isClassName_className name, rfl⟩⟩
  · intro b hb
    refine ⟨fun name unit body directory => ?_, ?_⟩
    · have hname := Builtin.isName_filename hb name
      have hvisible : ¬ Text.allBlank (b.dialect.filename name) = true :=
        Bool.eq_false_iff.1 hname.visible
      exact ⟨by rw [Answer.accept, Answer.check_text, if_neg hvisible], hname.outputPath directory⟩
    · intro w c given v l units schedule h hformat
      have hs := h.sublist
      rw [run, h.runBy, hformat, result_emitAll hs]
      refine ⟨_, rfl, fun u o e huo hfailed => ?_⟩
      obtain ⟨hu, rfl⟩ := of_mem_zip_map huo
      exact fails_of_verdict hb (hs.subset hu) hfailed

/-- Two tests whose names are paths that lead upwards. They come to one file, in the directory. -/
theorem filenames_safe_of_two :
    let b : Builtin := ⟨"python-selenium", "side_export.export.templates.python_selenium",
      Pytest.dialect⟩
    let test (name : Text) : Text := "\x7b\x22name\x22:\x22".toList ++ name ++ "\x22\x7d".toList
    let w := Sample.pluggedWorld ("\x7b\x22tests\x22:[".toList ++
      Text.join "," [test "../Ab", test "/.. ab"] ++ "]\x7d".toList) []
    let c := { Sample.configuration "/out" Sample.everything with format := b.moduleName }
    b ∈ Builtin.all ∧ ∃ v l units, Selects w c none v l units ∧ l.format = b.dialect.format ∧
      units.map Prod.snd = ["../Ab".toList, "/.. ab".toList] ∧
      ∃ s, (run w c none fun _ => []).result = .ok s ∧
        s.outcomes.map (fun o => o.result.path?) = [some (Path.ofText "/out/test_ab.py"), none] ∧
        ∀ u o e, (u, o) ∈ units.zip s.outcomes → o.result = .failed e →
          Fails b.dialect (seen v) c l.project u.2 e := by
  intro b test w c
  have hb : b ∈ Builtin.all := by simp [b, Builtin.all]
  have hlibrary : w.library.named.lookup b.moduleName = some b.code := rfl
  have hsel : selectsAs w c none (fun _ _ units =>
      decide (units.map Prod.snd = ["../Ab".toList, "/.. ab".toList])) = true := by
    decide +kernel
  have hpaths : ((run w c none fun _ => []).result.toOption.map fun s =>
      s.outcomes.map fun o => o.result.path?) =
        some [some (Path.ofText "/out/test_ab.py"), none] := by
    decide +kernel
  obtain ⟨v, l, units, h, hnames⟩ := exists_selects hsel
  have hformat : l.format = b.dialect.format := format_of_load hb rfl hlibrary h.load
  obtain ⟨s, hs, hfails⟩ := (filenames_safe.2 b hb).2 w c none v l units (fun _ => []) h hformat
  rw [hs] at hpaths
  exact ⟨hb, v, l, units, h, hformat, of_decide_eq_true hnames, s, hs, Option.some.inj hpaths,
    hfails⟩

end Export

end TestScribe
