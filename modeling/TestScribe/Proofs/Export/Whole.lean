import TestScribe.Export.Engine
import TestScribe.Proofs.Export.Chronicle
import TestScribe.Proofs.Files.Growth
import TestScribe.Proofs.Selection

/-!
Whole exports, told by the chronicle of their run: what is called, what the files hold in the end,
and the summary.
-/

namespace TestScribe

namespace Project

def unitName (p : Project) (m : Mode) (i : Nat) : Text := ((p.units m).lookup i).getD []

theorem exists_units (p : Project) (m : Mode) :
    ∃ names : List Text, p.units m = names.zipIdx.map Prod.swap := by
  cases m with
  | test => exact ⟨p.tests.map (·.name), rfl⟩
  | suite => exact ⟨p.suites.map (·.name), rfl⟩

theorem pairwise_units (p : Project) (m : Mode) :
    ((p.units m).map Prod.fst).Pairwise (· < ·) := by
  obtain ⟨names, hn⟩ := p.exists_units m
  have hfst : (Prod.fst ∘ Prod.swap : Text × Nat → Nat) = Prod.snd := rfl
  rw [hn, List.map_map, hfst, List.zipIdx_map_snd]
  exact List.pairwise_lt_range'

theorem nodup_units (p : Project) (m : Mode) : ((p.units m).map Prod.fst).Nodup :=
  (p.pairwise_units m).imp Nat.ne_of_lt

theorem lookup_of_mem {us : List (Nat × Text)} (hn : (us.map Prod.fst).Nodup) {u : Nat × Text}
    (hu : u ∈ us) : us.lookup u.1 = some u.2 := by
  induction us with
  | nil => cases hu
  | cons v us ih =>
    obtain ⟨i, name⟩ := v
    rw [List.map_cons, List.nodup_cons] at hn
    rcases List.mem_cons.1 hu with rfl | hu
    · simp
    · have hne : (u.1 == i) = false := by
        rw [beq_eq_false_iff_ne]
        intro he
        exact hn.1 (List.mem_map.2 ⟨u, hu, he⟩)
      rw [List.lookup_cons, hne]
      exact ih hn.2 hu

theorem unitName_of_mem {p : Project} {m : Mode} {u : Nat × Text} (hu : u ∈ p.units m) :
    p.unitName m u.1 = u.2 := by
  rw [unitName, lookup_of_mem (p.nodup_units m) hu, Option.getD_some]

end Project

namespace Export

/-- The file that the unit at a position asks for in the end, with its path, or why it asks for
none. -/
def wish (a : Conduct) (w : World) (c : Configuration) (p : Project) : Wish := fun i =>
  Run.target (plan c p) (p.unitName c.mode i)
    ((a c.mode p i (p.unitName c.mode i)).drive (w.registries.update .freeze)).2

/-- The file that the unit at a position hands back in the end, or why there is none. -/
def handed (a : Conduct) (w : World) (c : Configuration) (p : Project) (i : Nat) :
    Except UnitError UnitFile := do
  let answer ← ((a c.mode p i (p.unitName c.mode i)).drive (w.registries.update .freeze)).2
  (Answer.accept (p.unitName c.mode i) answer).mapError .emission

def chronicle (a : Conduct) (w : World) (c : Configuration) (p : Project)
    (schedule : List Nat → List Event) (units : List (Nat × Text)) : List Mark :=
  (start w (issue a c.mode p units).2).chronicle (plan c p) (schedule (units.map Prod.fst))

variable {a : Conduct} {w v : World} {c : Configuration} {p : Project} {l : Loaded}
  {schedule : List Nat → List Event} {units : List (Nat × Text)} {given : Option Format}

theorem wish_eq_ok {i : Nat} {path : Path} {body : RawText} : wish a w c p i = .ok (path, body) ↔
    ∃ f, handed a w c p i = .ok f ∧ outputPath c.directory f.filename = .ok path ∧
      f.body = body := by
  unfold wish Run.target handed
  rw [Except.bind_eq_ok]
  constructor
  · rintro ⟨answer, hanswer, h⟩
    rw [Except.bind_eq_ok] at h
    obtain ⟨f, hf, h⟩ := h
    rw [Except.bind_eq_ok] at h
    obtain ⟨q, hq, h⟩ := h
    cases h
    exact ⟨f, Except.bind_eq_ok.2 ⟨answer, hanswer, hf⟩, Except.mapError_eq_ok.1 hq, rfl⟩
  · rintro ⟨f, hf, hq, rfl⟩
    obtain ⟨answer, hanswer, hf⟩ := Except.bind_eq_ok.1 hf
    exact ⟨answer, hanswer, Except.bind_eq_ok.2 ⟨f, hf,
      Except.bind_eq_ok.2 ⟨path, Except.mapError_eq_ok.2 hq, rfl⟩⟩⟩

theorem selected_eq_ok : selected c p = .ok units ↔
    (∀ u ∈ p.units c.mode, c.pattern.crossesIn u.2 = false) ∧
      units = (p.units c.mode).filter fun u => c.pattern.accepts u.2 := by
  have hfilter := selectFrom_eq_filter c.pattern.accepts [] (p.nodup_units c.mode) (by simp)
  rw [selected, Filter.select, select, hfilter]
  by_cases hc : ((p.units c.mode).any fun u => c.pattern.crossesIn u.2) = true
  · obtain ⟨u, hu, hcross⟩ := List.any_eq_true.1 hc
    rw [if_pos hc]
    refine ⟨fun h => ?_, fun h => absurd (h.1 u hu) (by simp [hcross])⟩
    cases h
  · rw [if_neg hc, Except.ok.injEq, eq_comm]
    refine ⟨fun h => ⟨fun u hu => ?_, h⟩, And.right⟩
    by_contra hcross
    exact hc (List.any_eq_true.2 ⟨u, hu, by simpa using hcross⟩)

/-- An export that gets to its units: everything is loaded, and the filter has selected them. -/
structure Selects (w : World) (c : Configuration) (given : Option Format) (v : World) (l : Loaded)
    (units : List (Nat × Text)) : Prop where
  load : Export.load w c given = (v, .ok l)
  selected : Export.selected c l.project = .ok units

theorem Selects.sublist (h : Selects w c given v l units) :
    units.Sublist (l.project.units c.mode) := by
  rw [(selected_eq_ok.1 h.selected).2]
  exact List.filter_sublist

theorem Selects.runBy {conduct : Format → Conduct} (h : Selects w c given v l units) :
    runBy conduct w c given schedule =
      emitAll (conduct l.format) v c l.project schedule units := by
  simp only [Export.runBy, runWith, h.load, h.selected, emitAll]

theorem issue_eq (a : Conduct) (m : Mode) (p : Project) (units : List (Nat × Text)) :
    issue a m p units = (units.map fun u => (m, u.2),
      units.map fun u => ⟨u.1, u.2, .emitting (a m p u.1 u.2)⟩) := by
  induction units with
  | nil => rfl
  | cons u us ih =>
    obtain ⟨i, name⟩ := u
    simp only [issue, ih, List.map_cons]

theorem units_start (a : Conduct) (w : World) (m : Mode) (p : Project)
    (units : List (Nat × Text)) : (start w (issue a m p units).2).units = units := by
  rw [issue_eq, Run.units, start, List.map_map]
  exact List.map_id units

theorem ids_start (a : Conduct) (w : World) (m : Mode) (p : Project) (units : List (Nat × Text)) :
    (start w (issue a m p units).2).tasks.map (·.id) = units.map Prod.fst := by
  rw [← Run.fst_units, units_start]

theorem begins (a : Conduct) (w : World) (c : Configuration) (p : Project)
    (hs : units.Sublist (p.units c.mode)) :
    Run.Begins (plan c p) (wish a w c p) (start w (issue a c.mode p units).2) where
  frozen := by simp [start]
  claimed := rfl
  distinct := by
    rw [ids_start]
    exact (p.nodup_units c.mode).sublist (hs.map _)
  emitting := by
    intro t ht
    rw [issue_eq] at ht
    obtain ⟨u, hu, rfl⟩ := List.mem_map.1 ht
    refine ⟨_, rfl, ?_⟩
    simp only [wish, Project.unitName_of_mem (hs.subset hu)]
    rfl

theorem wrote_iff (hs : units.Sublist (p.units c.mode)) (schedule : List Nat → List Event)
    (i : Nat) :
    .wrote i ∈ chronicle a w c p schedule units ↔ i ∈ units.map Prod.fst ∧
      ∃ path body, wish a w c p i = .ok (path, body) ∧
        (wish a w c p).owner (chronicle a w c p schedule units) path = some i := by
  have key := Run.wrote_mem_chronicle (i := i) (begins a w c p hs) (schedule (units.map Prod.fst))
  rw [ids_start] at key
  exact key

theorem ended_iff (hs : units.Sublist (p.units c.mode)) (schedule : List Nat → List Event)
    (i : Nat) :
    .ended i ∈ chronicle a w c p schedule units ↔ i ∈ units.map Prod.fst := by
  have key := Run.ended_mem_chronicle (i := i) (begins a w c p hs) (schedule (units.map Prod.fst))
  rw [ids_start] at key
  exact key

theorem nodup_chronicle (hs : units.Sublist (p.units c.mode)) (schedule : List Nat → List Event) :
    (chronicle a w c p schedule units).Nodup :=
  (Run.tells_complete (begins a w c p hs) (schedule (units.map Prod.fst))).nodup

theorem emitAll_cons (a : Conduct) (w : World) (c : Configuration) (p : Project)
    (schedule : List Nat → List Event) (u : Nat × Text) (us : List (Nat × Text)) :
    let r := (start w (issue a c.mode p (u :: us)).2).complete (plan c p)
      (schedule ((u :: us).map Prod.fst))
    emitAll a w c p schedule (u :: us) =
      { world := {
          files := r.files
          library := w.library.renewed w.files r.files
          registries := r.registries.update .thaw }
        calls := (issue a c.mode p (u :: us)).1
        result := .ok {
          mode := c.mode
          outcomes := r.outcomes
          skipped := (p.units c.mode).length - (u :: us).length } } := by
  simp only [emitAll, emitAllWith, emitWith, Run.carryOut_never, Run.breach_never]

theorem calls_emitAll (a : Conduct) (w : World) (c : Configuration) (p : Project)
    (schedule : List Nat → List Event) (units : List (Nat × Text)) :
    (emitAll a w c p schedule units).calls = units.map fun u => (c.mode, u.2) := by
  cases units with
  | nil => rfl
  | cons u us =>
    rw [emitAll_cons, issue_eq]

theorem chronicle_nil (a : Conduct) (w : World) (c : Configuration) (p : Project)
    (schedule : List Nat → List Event) : chronicle a w c p schedule [] = [] := by
  have ht := Run.tells_complete (begins a w c p (List.nil_sublist _)) (schedule [])
  refine List.eq_nil_iff_forall_not_mem.2 fun m hm => ?_
  have hk := ht.known m hm
  rw [← Run.fst_units, Run.units_complete, units_start] at hk
  cases hk

/-- The files after an export are those of its writes in their order. -/
theorem files_emitAll (hs : units.Sublist (p.units c.mode)) :
    (emitAll a w c p schedule units).world.files =
      (plan c p).replay (wish a w c p) w.files (chronicle a w c p schedule units) := by
  cases units with
  | nil =>
    rw [chronicle_nil]
    rfl
  | cons u us =>
    rw [emitAll_cons]
    exact Run.files_complete (begins a w c p hs) _

/-- The summary of an export: the verdicts of its chronicle, one for each unit, in order. -/
theorem result_emitAll (hs : units.Sublist (p.units c.mode)) :
    (emitAll a w c p schedule units).result = .ok
      { mode := c.mode
        outcomes := units.map fun u => ⟨u.2, (plan c p).verdict (wish a w c p) w.files
          (chronicle a w c p schedule units) u.1⟩
        skipped := (p.units c.mode).length - units.length } := by
  cases units with
  | nil => simp [emitAll, emitAllWith]
  | cons u us =>
    have ho := Run.outcomes_complete (begins a w c p hs) (schedule ((u :: us).map Prod.fst))
    rw [units_start] at ho
    rw [emitAll_cons]
    simp only [ho]
    rfl

theorem of_mem_zip_map {f : Nat × Text → Outcome} {u : Nat × Text} {o : Outcome}
    (h : (u, o) ∈ units.zip (units.map f)) : u ∈ units ∧ o = f u := by
  induction units with
  | nil => cases h
  | cons x units ih =>
    rw [List.map_cons, List.zip_cons_cons] at h
    rcases List.mem_cons.1 h with h | h
    · cases h
      exact ⟨List.mem_cons_self, rfl⟩
    · exact ⟨List.mem_cons_of_mem _ (ih h).1, (ih h).2⟩

/-- Whether an export gets to its units, and whether these and what is loaded are as wanted. -/
def selectsAs (w : World) (c : Configuration) (given : Option Format)
    (wanted : World → Loaded → List (Nat × Text) → Bool) : Bool :=
  match load w c given with
  | (_, .error _) => false
  | (v, .ok l) =>
    match selected c l.project with
    | .error _ => false
    | .ok units => wanted v l units

theorem exists_selects {wanted : World → Loaded → List (Nat × Text) → Bool}
    (h : selectsAs w c given wanted = true) :
    ∃ v l units, Selects w c given v l units ∧ wanted v l units = true := by
  unfold selectsAs at h
  split at h
  · cases h
  · rename_i v l hload
    split at h
    · cases h
    · rename_i units hselected
      exact ⟨v, l, units, ⟨hload, hselected⟩, h⟩

theorem files_of_load {r : Except (Failure ExportError) Loaded}
    (h : load w c given = (v, r)) : v.files = w.files := by
  have key : ∀ p, (loadPlugins w c p).1.files = w.files := by
    intro p
    unfold loadPlugins
    split <;> rfl
  unfold load at h
  split at h
  · cases h
    rfl
  · rename_i l _
    have hk := key l.project
    split at h <;> rename_i hl <;> rw [hl] at hk <;> cases h <;> exact hk

/-! Small exports, on which theorems can be tried. -/

namespace Sample

def document (names : List Text) : Text :=
  "\x7b\x22tests\x22:[".toList
    ++ Text.join "," (names.map fun n => "\x7b\x22name\x22:\x22".toList ++ n ++ "\x22\x7d".toList)
    ++ "]\x7d".toList

def world (names : List Text) : World :=
  { files := ⟨[(["p".toList], .file (.text (document names)))]⟩, library := {} }

def format (emission : Text → Emission) : Format :=
  ⟨fun _ name => emission name, fun _ name => emission name⟩

def file (body filename : Text) : Emission := .answers (.file (.text body) (.text filename))

/-- The filter that an empty pattern makes: it accepts every name. -/
def everything : Filter := ⟨[], ⟨⟨0, none, false⟩, []⟩⟩

def configuration (directory : Text) (pattern : Filter) : Configuration :=
  { format := [], project := "/p", directory, baseUrl := [], filter := pattern.source, pattern
    mode := .test, debug := false }

def pluggedDocument (commands plugins : List Text) : Text :=
  let command (t : Text) : Text := "\x7b\x22command\x22:\x22".toList ++ t ++ "\x22\x7d".toList
  let reference (t : Text) : Text := "\x22".toList ++ t ++ "\x22".toList
  "\x7b\x22tests\x22:[\x7b\x22name\x22:\x22a\x22,\x22commands\x22:[".toList
    ++ Text.join "," (commands.map command) ++ "]\x7d],\x22plugins\x22:[".toList
    ++ Text.join "," (plugins.map reference) ++ "]\x7d".toList

/-- A world with the built-in formats in which there is a project, and next to it the code of its
plugins. -/
def pluggedWorld (document : Text) (plugins : List (Text × Module)) : World :=
  { files := ⟨(["p".toList], .file (.text document)) ::
      plugins.map fun q => ([q.1], .file (.text []))⟩
    library := { named := Builtin.modules, files := plugins.map fun q => ([q.1], q.2) } }

def plugin (name : Text) (hook : Hook) : Module :=
  { registration := some { commands := [(name, some hook)] } }

end Sample

end Export

end TestScribe
