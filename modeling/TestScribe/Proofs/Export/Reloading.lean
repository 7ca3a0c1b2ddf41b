import TestScribe.Proofs.Export.Exits
import TestScribe.Proofs.Files.Growth

/-!
Loading once more. What could be loaded can be loaded again, and comes to the same, as long as the
files have only grown, and the project and the code of the format are what they were
(`load_of_spared`); and what an export could not load it cannot load the next time either, for the
same reason (`load_of_failed`).
-/

namespace TestScribe

namespace Library

variable {lib lib' : Library} {t u : FileTree} {p q : Path} {m : Module} {role : Role}
  {isPath : Bool} {reference : Text}

theorem asked_eq_ok {α : Type} {r : Except FileCause α} {a : α} :
    asked p r = .ok a ↔ r = .ok a := Except.mapError_eq_ok

theorem codePath_of_grows (hg : FileTree.Grows t u) (h : codePath t p = .ok q)
    (hq : t.hasFile q.parts = .ok true) : codePath u p = .ok q := by
  unfold codePath at h ⊢
  rw [Except.bind_eq_ok] at h ⊢
  obtain ⟨b, hb, h⟩ := h
  rw [asked_eq_ok] at hb
  cases b with
  | true =>
    exact ⟨true, asked_eq_ok.2 (FileTree.hasDirectory_of_grows hg hb), h⟩
  | false =>
    obtain rfl : p = q := by simpa [pure, Except.pure] using h
    have hu := FileTree.hasDirectory_of_hasFile (FileTree.hasFile_of_grows hg hq)
    exact ⟨false, asked_eq_ok.2 hu, h⟩

/-- What has become of a library and of files by writing. -/
structure IsRenewal (lib : Library) (t : FileTree) (lib' : Library) (u : FileTree) : Prop where
  named : lib'.named = lib.named
  mute : lib'.mute = lib.mute
  files : ∀ l, u.at? l = t.at? l → lib'.files.lookup l = lib.files.lookup l
  grows : FileTree.Grows t u

theorem IsRenewal.refl (lib : Library) (t : FileTree) : IsRenewal lib t lib t :=
  ⟨rfl, rfl, fun _ _ => rfl, (FileTree.Keeps.refl t).grows⟩

theorem isRenewal_renewed (lib : Library) (hg : FileTree.Grows t u) :
    IsRenewal lib t (lib.renewed t u) u := ⟨rfl, rfl, fun _ h => lib.lookup_renewed h, hg⟩

/-- Whether a file holds what it held, if it could be read. -/
def Unwritten (t u : FileTree) (p : Path) : Prop := ∀ c, t.read p = .ok c → u.read p = .ok c

theorem loadFile_of_renewal (hr : IsRenewal lib t lib' u)
    (hsame : ∀ q, codePath t p = .ok q → Unwritten t u q) (h : lib.loadFile t p = .ok m) :
    lib'.loadFile u p = .ok m := by
  unfold loadFile at h ⊢
  rw [Except.bind_eq_ok] at h ⊢
  obtain ⟨q, hq, h⟩ := h
  rw [Except.bind_eq_ok] at h
  obtain ⟨b, hb, h⟩ := h
  rw [asked_eq_ok] at hb
  cases b with
  | false => cases h
  | true =>
    refine ⟨q, codePath_of_grows hr.grows hq hb, ?_⟩
    rw [Except.bind_eq_ok]
    refine ⟨true, asked_eq_ok.2 (FileTree.hasFile_of_grows hr.grows hb), ?_⟩
    cases hcode : isCode q with
    | false => simp [hcode] at h
    | true =>
      simp only [hcode, Bool.not_true, Bool.false_eq_true, ↓reduceIte, Except.bind_eq_ok,
        asked_eq_ok] at h ⊢
      obtain ⟨l, hl, hrun⟩ := h
      obtain ⟨c, hread, hat⟩ := FileTree.read_of_hasFile hb hl
      obtain ⟨-, l', hl', hat'⟩ := FileTree.read_eq_ok.1 (hsame q hq c hread)
      obtain rfl : l = l' := by simpa [FileTree.locate_of_grows hr.grows hl] using hl'
      refine ⟨l, hl', ?_⟩
      rw [run, hr.files l (hat'.trans hat.symm), hr.mute]
      exact hrun

theorem load_of_renewal (hr : IsRenewal lib t lib' u)
    (hsame : isPath = true → ∀ q, codePath t (Path.ofText reference) = .ok q → Unwritten t u q)
    (h : lib.load t role isPath reference = .ok m) :
    lib'.load u role isPath reference = .ok m := by
  unfold load about at h ⊢
  rw [Except.mapError_eq_ok] at h ⊢
  cases isPath with
  | true => exact loadFile_of_renewal hr (hsame rfl) h
  | false =>
    simp only [Bool.false_eq_true, ↓reduceIte, loadNamed, hr.named] at h ⊢
    exact h

end Library

theorem Format.load_of_renewal {lib lib' : Library} {t u : FileTree} {reference : Text} {f : Format}
    (hr : Library.IsRenewal lib t lib' u)
    (hsame : (Path.ofText reference).isAbsolute = true → ∀ q,
      Library.codePath t (Path.ofText reference) = .ok q → Library.Unwritten t u q)
    (h : Format.load lib t reference = .ok f) : Format.load lib' u reference = .ok f := by
  unfold Format.load at h ⊢
  rw [Except.bind_eq_ok] at h ⊢
  obtain ⟨m, hm, h⟩ := h
  rw [Except.mapError_eq_ok] at hm
  exact ⟨m, Except.mapError_eq_ok.2 (Library.load_of_renewal hr hsame hm), h⟩

theorem Project.load_of_read {t u : FileTree} {path : Path} {p : Project}
    (hread : Library.Unwritten t u path) (h : Project.load t path = .ok p) :
    Project.load u path = .ok p := by
  unfold Project.load at h ⊢
  rw [Except.bind_eq_ok] at h ⊢
  obtain ⟨c, hc, h⟩ := h
  unfold Project.content at hc ⊢
  rw [Except.mapError_eq_ok] at hc
  exact ⟨c, Except.mapError_eq_ok.2 (hread c hc), h⟩

namespace Export

variable {w v x : World} {c : Configuration} {p : Project} {l : Loaded} {given : Option Format}
  {err : Failure ExportError}

/-- What is needed for loading once more: nothing has been done but writing, and neither to the
project nor to the code of the format. -/
structure Spared (w : World) (c : Configuration) (given : Option Format) (x : World) : Prop where
  renewal : Library.IsRenewal w.library w.files x.library x.files
  project : Library.Unwritten w.files x.files (Path.ofText c.project)
  format : given = none → (Path.ofText c.format).isAbsolute = true → ∀ q,
    Library.codePath w.files (Path.ofText c.format) = .ok q → Library.Unwritten w.files x.files q

theorem prepare_of_spared (hx : Spared w c given x) (h : prepare w c given = .ok l) :
    prepare x c given = .ok l := by
  rw [prepare_eq, Except.bind_eq_ok] at h ⊢
  obtain ⟨f, hf, h⟩ := h
  rw [Except.bind_eq_ok] at h
  obtain ⟨p, hp, h⟩ := h
  rw [Except.mapError_eq_ok] at hp
  refine ⟨f, ?_, Except.bind_eq_ok.2
    ⟨p, Except.mapError_eq_ok.2 (Project.load_of_read hx.project hp), h⟩⟩
  cases given with
  | some g => exact hf
  | none =>
    rw [Except.mapError_eq_ok] at hf ⊢
    exact Format.load_of_renewal hx.renewal (hx.format rfl) hf

theorem loadPlugins_of_loaded (h : loadPlugins w c p = (v, none))
    (hloaded : ∀ reference, v.registries.current.isLoaded reference = true →
      x.registries.current.isLoaded reference = true) : loadPlugins x c p = (x, none) := by
  rcases loadPlugins_cases h with ⟨f, -, -, he⟩ | ⟨references, g, err, href, hload, rfl, he⟩
  · cases he
  · obtain rfl : err = none := by simpa using he.symm
    have hall : ∀ reference ∈ references, x.registries.current.isLoaded reference = true := by
      intro reference hm
      refine hloaded reference ?_
      rw [Registries.current_update]
      exact Plugins.isLoaded_of_load hload hm
    simp only [loadPlugins, href, Plugins.load_of_loaded hall, Registries.update_current,
      Option.map_none]

/-- What could be loaded is loaded again, and nothing else happens. -/
theorem load_of_spared (h : load w c given = (v, .ok l)) (hx : Spared w c given x)
    (hloaded : ∀ reference, v.registries.current.isLoaded reference = true →
      x.registries.current.isLoaded reference = true) : load x c given = (x, .ok l) := by
  rcases load_cases h with ⟨err, -, -, he⟩ | ⟨k, err, -, -, he⟩ | ⟨k, hprepare, hplugins, he⟩
  · cases he
  · cases he
  · cases he
    simp only [load, prepare_of_spared hx hprepare, loadPlugins_of_loaded hplugins hloaded]

theorem prepare_congr (hlibrary : v.library = w.library) (hfiles : v.files = w.files) :
    prepare v c given = prepare w c given := by
  unfold prepare
  rw [hlibrary, hfiles]

theorem loadPlugins_again (h : loadPlugins w c p = (v, some err)) :
    (loadPlugins v c p).2 = some err := by
  rcases loadPlugins_cases h with ⟨f, hf, rfl, -⟩ | ⟨references, g, e, href, hload, rfl, he⟩
  · rw [h]
  · obtain ⟨f, rfl, rfl⟩ := Option.map_eq_some_iff.1 he.symm
    have hg := Plugins.outgrows_load hload
    have hagain : (Plugins.load w.library w.files references g).2 = some f :=
      Plugins.load_again hload rfl hg.frozen
    simp only [loadPlugins, href, Registries.current_update, hagain, Option.map_some]

/-- What could not be loaded cannot be loaded the next time, for the same reason. -/
theorem load_of_failed (h : load w c given = (v, .error err)) :
    ∃ u, load v c given = (u, .error err) := by
  have hv := loadedFrom_load h
  have hprepare : prepare v c given = prepare w c given := prepare_congr hv.library hv.files
  rcases load_cases h with ⟨e, hp, -, he⟩ | ⟨l, e, hp, hplugins, he⟩ | ⟨l, -, -, he⟩
  · cases he
    exact ⟨v, by simp only [load, hprepare, hp]⟩
  · cases he
    have hagain := loadPlugins_again hplugins
    rcases hl : loadPlugins v c l.project with ⟨u, e⟩
    rw [hl] at hagain
    obtain rfl : e = some err := hagain
    exact ⟨u, by simp only [load, hprepare, hp, hl]⟩
  · cases he

end Export

end TestScribe
