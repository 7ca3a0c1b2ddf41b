import TestScribe.Proofs.Export.Exits
import TestScribe.Proofs.Export.Ownership
import TestScribe.Proofs.Format.Composition

/-!
Plugins and the built-in formats. A built-in format asks the registry that all share
(`emitUnit_of_wish`), which is where the plugins of a run have registered their translators unless
the run has a registry of its own (`shared_of_load`). So the code that a plugin gives for a command
which the format does not know stands in the file.
-/

namespace TestScribe

def Builtin.code (b : Builtin) : Module := { object := some (Members.ofFormat b.dialect.format) }

theorem Library.loadNamed_of_lookup {lib : Library} {name : Text} {m : Module} (hname : name ≠ [])
    (hdot : name.head? ≠ some '.') (hm : lib.named.lookup name = some m) (hfault : m.fault = none) :
    lib.loadNamed name = .ok m := by
  unfold loadNamed
  split
  · exact absurd rfl hname
  · exact absurd rfl hdot
  · simp only [hm, hfault]

theorem Builtin.load_format {b : Builtin} (hb : b ∈ all) {lib : Library}
    (hlib : lib.named.lookup b.moduleName = some b.code) (files : FileTree) :
    Format.load lib files b.moduleName = .ok b.dialect.format := by
  have hnames : ∀ b ∈ all, (Path.ofText b.moduleName).isAbsolute = false ∧ b.moduleName ≠ [] ∧
      b.moduleName.head? ≠ some '.' := by decide +kernel
  obtain ⟨hpath, hname, hdot⟩ := hnames b hb
  have hload : lib.loadNamed b.moduleName = .ok b.code :=
    Library.loadNamed_of_lookup hname hdot hlib rfl
  simp only [Format.load, hpath, Library.load, Library.about, Bool.false_eq_true, ↓reduceIte, hload]
  rfl

/-- The tests that a unit is made of, and whether they are to run in parallel. -/
def Project.group (p : Project) : Mode → Text → Except Fault (List TestCase × Bool)
  | .test, name => do
    let t ← p.test name
    return ([t], false)
  | .suite, name => do
    let s ← p.suite name
    let tests ← p.testsOf s
    return (tests, s.parallel)

namespace Project

variable {p : Project} {name : Text}

theorem name_of_test {t : TestCase} (h : p.test name = .ok t) : t.name = name := by
  unfold test at h
  split at h
  · rename_i found hfind
    cases h
    simpa using List.find?_some hfind
  · cases h

theorem name_of_suite {s : Suite} (h : p.suite name = .ok s) : s.name = name := by
  unfold suite at h
  split at h
  · rename_i found hfind
    cases h
    simpa using List.find?_some hfind
  · cases h

end Project

namespace Dialect

variable {d : Dialect} {r : Registry} {m : Mode} {p : Project} {name : Text} {e : EmittedFile}

def emitUnit (d : Dialect) (r : Registry) (m : Mode) (p : Project) (name : Text) :
    Except Fault EmittedFile :=
  match m with
  | .test => d.emitTest r .null p name
  | .suite => d.emitSuite r .null p name

/-- The file for a unit, where a class name may be asked for. -/
def emitNamed (d : Dialect) (r : Registry) (asked : Value) (m : Mode) (p : Project) (name : Text) :
    Except Fault EmittedFile :=
  match m with
  | .test => d.emitTest r asked p name
  | .suite => d.emitSuite r asked p name

theorem emitNamed_eq (asked : Value) : d.emitNamed r asked m p name = (do
    let (tests, parallel) ← p.group m name
    let body ← d.generate r asked name tests p parallel
    return ⟨body, d.filename name⟩) := by
  cases m with
  | test =>
    rw [emitNamed, emitTest, Project.group]
    cases ht : p.test name with
    | error f => rfl
    | ok t => rw [← Project.name_of_test ht]; rfl
  | suite =>
    rw [emitNamed, emitSuite, Project.group]
    cases hs : p.suite name with
    | error f => rfl
    | ok s =>
      rw [← Project.name_of_suite hs]
      cases ht : p.testsOf s with
      | error f => simp only [bind, Except.bind, ht]
      | ok tests => simp only [bind, Except.bind, ht]; rfl

theorem generate_of_emitNamed {asked : Value} (h : d.emitNamed r asked m p name = .ok e) :
    ∃ tests parallel, p.group m name = .ok (tests, parallel) ∧
      d.generate r asked name tests p parallel = .ok e.body ∧ e.filename = d.filename name := by
  rw [emitNamed_eq] at h
  obtain ⟨⟨tests, parallel⟩, hgroup, h⟩ := Except.bind_eq_ok.1 h
  obtain ⟨body, hbody, he⟩ := Except.bind_eq_ok.1 h
  cases he
  exact ⟨tests, parallel, hgroup, hbody, rfl⟩

theorem drive_format (d : Dialect) (g : Registries) (m : Mode) (p : Project) (name : Text) :
    ((d.format.emit m p name).drive g).2 =
      ((d.emitUnit g.shared m p name).map fun e =>
        .file (.text e.body) (.text e.filename)).mapError .fault := by
  cases m with
  | test =>
    simp only [format, Format.emit, Emission.drive, emitUnit]
    cases d.emitTest g.shared .null p name <;> rfl
  | suite =>
    simp only [format, Format.emit, Emission.drive, emitUnit]
    cases d.emitSuite g.shared .null p name <;> rfl

theorem isFile_of_emitUnit (h : d.emitUnit r m p name = .ok e) :
    ∃ tests parallel, p.group m name = .ok (tests, parallel) ∧
      d.IsFile (fun c part => d.emitCommand r p c = .ok part) parallel tests e.body := by
  have hnamed : d.emitNamed r .null m p name = .ok e := h
  obtain ⟨tests, parallel, hgroup, hbody, -⟩ := generate_of_emitNamed hnamed
  exact ⟨tests, parallel, hgroup, isFile_of_generate hbody⟩

end Dialect

namespace Export

variable {w v : World} {c : Configuration} {p : Project} {l : Loaded} {b : Builtin}
  {units : List (Nat × Text)} {given : Option Format} {a : Conduct} {i : Nat} {path : Path}
  {body : RawText}

/-- What a unit of a built-in format hands back is the file that is made with the registry that all
share. -/
theorem emitUnit_of_handed {d : Dialect} {f : UnitFile}
    (h : handed (byName d.format) w c p i = .ok f) :
    ∃ e, d.emitUnit (w.registries.update .freeze).shared c.mode p (p.unitName c.mode i) = .ok e ∧
      f = ⟨e.body, e.filename⟩ := by
  unfold handed at h
  rw [Except.bind_eq_ok] at h
  obtain ⟨answer, hanswer, haccept⟩ := h
  rw [Except.mapError_eq_ok] at haccept
  have hmade := (d.drive_format _ _ _ _).symm.trans hanswer
  cases he : d.emitUnit (w.registries.update .freeze).shared c.mode p (p.unitName c.mode i) with
  | error f =>
    rw [he] at hmade
    cases hmade
  | ok e =>
    rw [he] at hmade
    cases hmade
    rw [Answer.accept, Answer.check_text] at haccept
    split at haccept
    · cases haccept
    · cases haccept
      exact ⟨e, rfl, rfl⟩

theorem emitUnit_of_wish {d : Dialect} (h : wish (byName d.format) w c p i = .ok (path, body)) :
    ∃ e, d.emitUnit (w.registries.update .freeze).shared c.mode p (p.unitName c.mode i) = .ok e ∧
      e.body = body := by
  obtain ⟨f, hf, -, hbody⟩ := wish_eq_ok.1 h
  obtain ⟨e, he, rfl⟩ := emitUnit_of_handed hf
  exact ⟨e, he, hbody⟩

theorem read_of_written (hs : units.Sublist (p.units c.mode)) {schedule : List Nat → List Event}
    {u : Nat × Text} (hu : u ∈ units)
    (hverdict : (plan c p).verdict (wish a w c p) w.files (chronicle a w c p schedule units) u.1 =
      .written path) :
    ∃ body, ∃ text : Text, wish a w c p u.1 = .ok (path, body) ∧
      Address.override p.url c.baseUrl body = .ok text ∧
      (emitAll a w c p schedule units).world.files.read path = .ok (.text text) := by
  have ho := owner_of_verdict hverdict
  obtain ⟨body, hw⟩ := Wish.asks_iff.1 (Wish.of_owner ho).2
  have hwrote := (wrote_iff hs schedule u.1).2 ⟨List.mem_map_of_mem hu, path, body, hw, ho⟩
  rw [files_emitAll hs]
  exact Plan.read_replay_of_written (below_wish a w c p) (nodup_chronicle hs schedule) hwrote
    (fun j hj => ((wrote_iff hs schedule j).1 hj).2) hverdict

/-- A run that has no registry of its own emits with what its plugins have registered. -/
theorem shared_of_load (hshared : w.registries.own = none) (hv : LoadedFrom w v) :
    (v.registries.update .freeze).shared = v.registries.current.freeze := by
  obtain ⟨g, -, hregistries⟩ := hv.registries
  have hown : v.registries.own = none := by
    rw [hregistries, Registries.update, hshared]
  rw [Registries.update, Registries.current, hown]
  rfl

theorem format_of_load (hb : b ∈ Builtin.all) (hformat : c.format = b.moduleName)
    (hlibrary : w.library.named.lookup b.moduleName = some b.code)
    (h : load w c none = (v, .ok l)) : l.format = b.dialect.format := by
  have hload := Builtin.load_format hb hlibrary w.files
  rcases load_cases h with ⟨err, -, -, he⟩ | ⟨k, err, -, -, he⟩ | ⟨k, hprepare, -, he⟩
  · cases he
  · cases he
  · cases he
    rw [prepare_eq, Except.bind_eq_ok] at hprepare
    obtain ⟨f, hf, hprepare⟩ := hprepare
    rw [Except.mapError_eq_ok, hformat, hload] at hf
    cases hf
    rw [Except.bind_eq_ok] at hprepare
    obtain ⟨p, -, hl⟩ := hprepare
    cases hl
    rfl

/-- The translators of a run reach the built-in formats: in each file that a run with the shared
registry has written in a built-in format there is a part for each command of each test of its unit,
in order; and where the format does not know a command, that has a name and is not disabled, and
some translator that is there after the plugins have been loaded accepts it, the part is the code of
the first one that does. -/
theorem translations_reach_files (hb : b ∈ Builtin.all) (hformat : c.format = b.moduleName)
    (hlibrary : w.library.named.lookup b.moduleName = some b.code)
    (hshared : w.registries.own = none) (h : Selects w c none v l units)
    (schedule : List Nat → List Event) :
    ∃ s, (run w c none schedule).result = .ok s ∧
      ∀ u o path, (u, o) ∈ units.zip s.outcomes → o.result = .written path →
        ∃ tests parallel body, ∃ text : Text,
          l.project.group c.mode u.2 = .ok (tests, parallel) ∧
          b.dialect.IsFile (b.dialect.Honours v.registries.current l.project) parallel tests body ∧
          Address.override l.project.url c.baseUrl body = .ok text ∧
          (run w c none schedule).world.files.read path = .ok (.text text) := by
  have hs := h.sublist
  have hrun : run w c none schedule =
      emitAll (byName b.dialect.format) v c l.project schedule units := by
    rw [run, h.runBy, format_of_load hb hformat hlibrary h.load]
  rw [hrun]
  refine ⟨_, result_emitAll hs, fun u o path huo hwritten => ?_⟩
  obtain ⟨hu, rfl⟩ := of_mem_zip_map huo
  obtain ⟨body, text, hwish, htext, hread⟩ := read_of_written hs hu hwritten
  obtain ⟨e, he, rfl⟩ := emitUnit_of_wish hwish
  rw [Project.unitName_of_mem (hs.subset hu)] at he
  obtain ⟨tests, parallel, hgroup, hfile⟩ := Dialect.isFile_of_emitUnit he
  refine ⟨tests, parallel, e.body, text, hgroup, hfile.imp fun cmd part hpart => ?_, htext, hread⟩
  rw [shared_of_load hshared (loadedFrom_load h.load)] at hpart
  exact Dialect.honours_of_emitCommand hpart

def linesAt (files : FileTree) (path : Text) : List Text :=
  match files.read (Path.ofText path) with
  | .ok (.text t) => Text.lines t
  | _ => []

/-- Two plugins with translators for one command: the first one declines. -/
theorem translations_reach_files_of_two :
    let b : Builtin := ⟨"typescript-playwright",
      "side_export.export.templates.typescript_playwright", Playwright.dialect⟩
    let w := Sample.pluggedWorld (Sample.pluggedDocument ["shout"] ["q.py", "r.py"])
      [("q.py", Sample.plugin "shout" fun _ _ => .ok none),
        ("r.py", Sample.plugin "shout" fun _ _ => .ok (some "loud"))]
    let c := { Sample.configuration "/out" Sample.everything with format := b.moduleName }
    b ∈ Builtin.all ∧ w.library.named.lookup b.moduleName = some b.code ∧
      ∃ v l units, Selects w c none v l units ∧
        (b.dialect.Leaves l.project { name := .text "shout" } "shout" ∧
          ∃ h ∈ v.registries.current.hooksOf "shout",
            h { name := .text "shout" } b.dialect.language = .ok (some "loud".toList)) ∧
        "    loud".toList ∈ linesAt (run w c none fun _ => []).world.files "/out/a.spec.ts" ∧
        ∃ s, (run w c none fun _ => []).result = .ok s ∧
          ∀ u o path, (u, o) ∈ units.zip s.outcomes → o.result = .written path →
            ∃ tests parallel body, ∃ text : Text,
              l.project.group c.mode u.2 = .ok (tests, parallel) ∧
              b.dialect.IsFile (b.dialect.Honours v.registries.current l.project) parallel tests
                body ∧
              Address.override l.project.url c.baseUrl body = .ok text ∧
              (run w c none fun _ => []).world.files.read path = .ok (.text text) := by
  intro b w c
  have hb : b ∈ Builtin.all := by simp [b, Builtin.all]
  have hlibrary : w.library.named.lookup b.moduleName = some b.code := rfl
  have hline : "    loud".toList ∈
      linesAt (run w c none fun _ => []).world.files "/out/a.spec.ts" := by decide +kernel
  have hsel : selectsAs w c none (fun v _ units =>
      (v.registries.current.hooksOf "shout").any fun h =>
        (h { name := .text "shout" } b.dialect.language).toOption == some (some "loud".toList)) =
      true := by
    decide +kernel
  obtain ⟨v, l, units, h, hany⟩ := exists_selects hsel
  obtain ⟨hook, hmem, hanswer⟩ := List.any_eq_true.1 hany
  have haccepts : hook { name := .text "shout" } b.dialect.language = .ok (some "loud".toList) := by
    cases hk : hook { name := .text "shout" } b.dialect.language with
    | error f =>
      rw [hk] at hanswer
      cases hanswer
    | ok answer =>
      rw [hk] at hanswer
      simpa [Except.toOption] using hanswer
  have hleaves : b.dialect.Leaves l.project { name := .text "shout" } "shout" :=
    ⟨rfl, by decide, by decide, rfl⟩
  exact ⟨hb, hlibrary, v, l, units, h, ⟨hleaves, hook, hmem, haccepts⟩, hline,
    translations_reach_files hb rfl hlibrary rfl h fun _ => []⟩

/-- Two runs in which the registry of the run has a translator that accepts the one command there
is, which the format does not know, and still its code is not in the file: the first run has a
registry of its own, where the format does not look, and in the second one the command is disabled.
-/
theorem translations_miss_files :
    let shouting (command : Text) := Sample.pluggedWorld (Sample.pluggedDocument [command] ["q.py"])
      [("q.py", Sample.plugin command fun _ _ => .ok (some "loud"))]
    let c := { Sample.configuration "/out" Sample.everything with
      format := "side_export.export.templates.typescript_playwright" }
    let apart := run { shouting "shout" with registries := { own := some .empty } } c none
      fun _ => []
    let disabled := run (shouting "//shout") c none fun _ => []
    (Verb.ofName? "shout" = none ∧
      (apart.world.registries.current.translate { name := .text "shout" } "typescript").toOption =
        some (some "loud".toList) ∧
      "    // Unsupported command: shout".toList ∈ linesAt apart.world.files "/out/a.spec.ts" ∧
      "    loud".toList ∉ linesAt apart.world.files "/out/a.spec.ts") ∧
    (Verb.ofName? "//shout" = none ∧
      (disabled.world.registries.current.translate { name := .text "//shout" }
        "typescript").toOption = some (some "loud".toList) ∧
      "    // shout |  |".toList ∈ linesAt disabled.world.files "/out/a.spec.ts" ∧
      "    loud".toList ∉ linesAt disabled.world.files "/out/a.spec.ts") := by
  intro shouting c apart disabled
  decide +kernel

end Export

end TestScribe
