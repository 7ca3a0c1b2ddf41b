import TestScribe.Proofs.Export.Whole
import TestScribe.Proofs.Plugins.Loading

/-!
The ways out of an export. Either it ends with an error while things are loaded and units are
selected, or it gets to its units and ends with a summary (`runBy_cases`). Loading touches nothing
but the registry of the run (`loadedFrom_load`), so an error leaves no output behind
(`runBy_of_error`).
-/

namespace TestScribe

namespace Registries

@[simp] theorem update_current (g : Registries) : (g.update fun _ => g.current) = g := by
  obtain ⟨s, o⟩ := g
  cases o <;> rfl

end Registries

namespace Export

variable {w v : World} {c : Configuration} {p : Project} {l : Loaded}
  {units : List (Nat × Text)} {given : Option Format} {e : Option (Failure ExportError)}
  {r : Except (Failure ExportError) Loaded}

theorem prepare_eq (w : World) (c : Configuration) (given : Option Format) :
    prepare w c given =
      ((match given with
        | some f => .ok f
        | none => (Format.load w.library w.files c.format).mapError (Failure.within .format)) >>=
      fun format => (Project.load w.files (Path.ofText c.project)).mapError
        (Failure.within .project) >>= fun project => .ok ⟨format, project⟩) := by
  cases given <;> rfl

/-- Loading plugins goes wrong with a reference, or does to the registry what loading them does. -/
theorem loadPlugins_cases (h : loadPlugins w c p = (v, e)) :
    (∃ f, Plugins.correctedAll (Path.ofText c.project) p.plugins = .error f ∧ v = w ∧
      e = some (.escaped f)) ∨
    ∃ references g err, Plugins.correctedAll (Path.ofText c.project) p.plugins = .ok references ∧
      Plugins.load w.library w.files references w.registries.current = (g, err) ∧
      v = { w with registries := w.registries.update fun _ => g } ∧
      e = err.map (Failure.within .plugin) := by
  unfold loadPlugins at h
  split at h
  · rename_i f hf
    cases h
    exact .inl ⟨f, hf, rfl, rfl⟩
  · rename_i references hr
    cases h
    exact .inr ⟨references, _, _, hr, rfl, rfl, rfl⟩

/-- Loading ends before the plugins, with them, or with everything loaded. -/
theorem load_cases (h : load w c given = (v, r)) :
    (∃ err, prepare w c given = .error err ∧ v = w ∧ r = .error err) ∨
    (∃ l err, prepare w c given = .ok l ∧ loadPlugins w c l.project = (v, some err) ∧
      r = .error err) ∨
    ∃ l, prepare w c given = .ok l ∧ loadPlugins w c l.project = (v, none) ∧ r = .ok l := by
  unfold load at h
  split at h
  · rename_i err he
    cases h
    exact .inl ⟨err, he, rfl, rfl⟩
  · rename_i l hl
    split at h
    · rename_i u err hp
      cases h
      exact .inr (.inl ⟨l, err, hl, hp, rfl⟩)
    · rename_i u hp
      cases h
      exact .inr (.inr ⟨l, hl, hp, rfl⟩)

/-- What has become of a world in which something was loaded. -/
structure LoadedFrom (w v : World) : Prop where
  files : v.files = w.files
  library : v.library = w.library
  registries : ∃ g, Plugins.Outgrows g w.registries.current ∧
    v.registries = w.registries.update fun _ => g

theorem LoadedFrom.refl (w : World) : LoadedFrom w w :=
  ⟨rfl, rfl, w.registries.current, .refl _, by simp⟩

theorem loadedFrom_loadPlugins (h : loadPlugins w c p = (v, e)) : LoadedFrom w v := by
  rcases loadPlugins_cases h with ⟨f, -, rfl, -⟩ | ⟨references, g, err, -, hg, rfl, -⟩
  · exact .refl _
  · exact ⟨rfl, rfl, g, Plugins.outgrows_load hg, rfl⟩

theorem loadedFrom_load (h : load w c given = (v, r)) : LoadedFrom w v := by
  rcases load_cases h with ⟨err, -, rfl, -⟩ | ⟨l, err, -, hp, -⟩ | ⟨l, -, hp, -⟩
  · exact .refl _
  · exact loadedFrom_loadPlugins hp
  · exact loadedFrom_loadPlugins hp

theorem LoadedFrom.frozen (h : LoadedFrom w v) :
    v.registries.current.frozen = w.registries.current.frozen := by
  obtain ⟨g, hg, hv⟩ := h.registries
  rw [hv, Registries.current_update, hg.frozen]

/-- An export ends with an error of loading, with the fault of a search, or it gets to its units. -/
theorem runWith_cases (mute : Mute) (conduct : Format → Conduct) (w : World) (c : Configuration)
    (given : Option Format) (schedule : List Nat → List Event) :
    (∃ v err, load w c given = (v, .error err) ∧
      runWith mute conduct w c given schedule = { world := v, result := .error err }) ∨
    (∃ v l f, load w c given = (v, .ok l) ∧ selected c l.project = .error f ∧
      runWith mute conduct w c given schedule = { world := v, result := .error (.escaped f) }) ∨
    ∃ v l units, Selects w c given v l units := by
  rcases hload : load w c given with ⟨v, err | l⟩
  · exact .inl ⟨v, err, rfl, by simp only [runWith, hload]⟩
  · cases hsel : selected c l.project with
    | error f => exact .inr (.inl ⟨v, l, f, rfl, hsel, by simp only [runWith, hload, hsel]⟩)
    | ok units => exact .inr (.inr ⟨v, l, units, hload, hsel⟩)

theorem runBy_cases (conduct : Format → Conduct) (w : World) (c : Configuration)
    (given : Option Format) (schedule : List Nat → List Event) :
    (∃ v err, load w c given = (v, .error err) ∧
      runBy conduct w c given schedule = { world := v, result := .error err }) ∨
    (∃ v l f, load w c given = (v, .ok l) ∧ selected c l.project = .error f ∧
      runBy conduct w c given schedule = { world := v, result := .error (.escaped f) }) ∨
    ∃ v l units, Selects w c given v l units := runWith_cases .never conduct w c given schedule

theorem Selects.exists_result (h : Selects w c given v l units) (conduct : Format → Conduct)
    (schedule : List Nat → List Event) :
    ∃ s, (Export.runBy conduct w c given schedule).result = .ok s := by
  rw [h.runBy]
  exact ⟨_, result_emitAll h.sublist⟩

/-- An export that ends with an error ends before its units, in the world as it was loaded. -/
theorem runBy_of_error {conduct : Format → Conduct} {schedule : List Nat → List Event}
    {err : Failure ExportError} (h : (runBy conduct w c given schedule).result = .error err) :
    ∃ v, LoadedFrom w v ∧
      runBy conduct w c given schedule = { world := v, calls := [], result := .error err } := by
  rcases runBy_cases conduct w c given schedule with
    ⟨v, err', hload, hrun⟩ | ⟨v, l, f, hload, -, hrun⟩ | ⟨v, l, units, hsel⟩
  · rw [hrun] at h
    cases h
    exact ⟨v, loadedFrom_load hload, hrun⟩
  · rw [hrun] at h
    cases h
    exact ⟨v, loadedFrom_load hload, hrun⟩
  · obtain ⟨s, hs⟩ := hsel.exists_result conduct schedule
    rw [hs] at h
    cases h

end Export

end TestScribe
