import TestScribe.Plugins
import TestScribe.Proofs.Plugins.Registry

/-!
What loading plugins does to a registry. A plugin adds what it registers before the first refusal,
whether it fails afterwards or not (`loadNew_eq`). Loading never touches the freeze, and what is
loaded stays loaded (`Outgrows`). References that are all loaded load nothing more
(`load_of_loaded`), and references of which one has failed fail again in the same way
(`load_again`): which error a plugin fails with does not depend on the translators that are there
already.
-/

namespace TestScribe.Plugins

variable {lib : Library} {files : FileTree} {reference : Text} {references : List Text}
  {r s : Registry} {f : Failure PluginError} {e : Option (Failure PluginError)}

/-! What one plugin adds. -/

def callable : List (Text × Option Hook) → List (Text × Hook)
  | (name, some h) :: rest => (name, h) :: callable rest
  | _ => []

/-- The registrations before the first that is refused: there are none if the registry is frozen. -/
def admitted (frozen : Bool) (commands : List (Text × Option Hook)) : List (Text × Hook) :=
  if frozen then [] else callable commands

def additions (lib : Library) (files : FileTree) (frozen : Bool) (reference : Text) :
    List (Text × Hook) :=
  match registrationOf lib files reference with
  | .ok g => admitted frozen g.commands
  | .error _ => []

/-- Whether the plugin of a reference adds all that it wants to register, and ends well. -/
def Completes (lib : Library) (files : FileTree) (frozen : Bool) (reference : Text) : Prop :=
  ∃ g, registrationOf lib files reference = .ok g ∧ g.ending = .done ∧
    g.commands = (additions lib files frozen reference).map fun a => (a.1, some a.2)

theorem registerAll_cons_of_ok {name : Text} {h : Hook} (hr : r.frozen = false)
    (rest : List (Text × Option Hook)) :
    registerAll r ((name, some h) :: rest) = registerAll (r.extend [(name, h)]) rest := by
  rw [registerAll, Registry.register_eq_ok.2 ⟨hr, h, rfl, rfl⟩]

theorem registerAll_of_open (hr : r.frozen = false) (commands : List (Text × Option Hook)) :
    (registerAll r commands).1 = r.extend (callable commands) ∧
      ((registerAll r commands).2 = none ↔
        commands = (callable commands).map fun a => (a.1, some a.2)) := by
  induction commands generalizing r with
  | nil => exact ⟨rfl, by simp [registerAll, callable]⟩
  | cons c rest ih =>
    obtain ⟨name, hook⟩ := c
    cases hook with
    | none => simp [registerAll, Registry.register, hr, callable]
    | some h =>
      have hopen : (r.extend [(name, h)]).frozen = false := by rw [Registry.frozen_extend, hr]
      obtain ⟨hadds, hall⟩ := ih hopen
      rw [registerAll_cons_of_ok hr]
      refine ⟨hadds.trans (Registry.extend_extend r [(name, h)] _), hall.trans ?_⟩
      rw [callable, List.map_cons, List.cons.injEq, and_iff_right rfl]

theorem registerAll_of_frozen (hr : r.frozen = true) (commands : List (Text × Option Hook)) :
    (registerAll r commands).1 = r ∧ ((registerAll r commands).2 = none ↔ commands = []) := by
  cases commands with
  | nil => exact ⟨rfl, by simp [registerAll]⟩
  | cons c rest => simp [registerAll, Registry.register, hr]

theorem registerAll_eq (r : Registry) (commands : List (Text × Option Hook)) :
    (registerAll r commands).1 = r.extend (admitted r.frozen commands) ∧
      ((registerAll r commands).2 = none ↔
        commands = (admitted r.frozen commands).map fun a => (a.1, some a.2)) := by
  unfold admitted
  cases hr : r.frozen with
  | false => exact registerAll_of_open hr commands
  | true => exact registerAll_of_frozen hr commands

theorem perform_eq (lib : Library) (reference : Text) (g : Registration) (r : Registry) :
    (perform lib reference g r).1 = r.extend (admitted r.frozen g.commands) ∧
      ((perform lib reference g r).2 = none ↔ g.ending = .done ∧
        g.commands = (admitted r.frozen g.commands).map fun a => (a.1, some a.2)) := by
  obtain ⟨hadds, hall⟩ := registerAll_eq r g.commands
  unfold perform
  rw [← hall]
  rcases hreg : registerAll r g.commands with ⟨s, _ | err⟩ <;> rw [hreg] at hadds
  · exact ⟨hadds, by simp [report_eq_none_iff]⟩
  · exact ⟨hadds, by simp⟩

/-- A plugin that completes adds all that it wants to register and is marked; any other fails, and
adds what it has registered until then. -/
theorem loadNew_eq (h : loadNew lib files reference r = (s, e)) :
    e = none ∧ s = (r.extend (additions lib files r.frozen reference)).markLoaded reference ∧
        Completes lib files r.frozen reference ∨
      (∃ f, e = some f) ∧ s = r.extend (additions lib files r.frozen reference) ∧
        ¬ Completes lib files r.frozen reference := by
  unfold loadNew at h
  unfold Completes additions
  split at h
  · rename_i err hg
    cases h
    rw [hg]
    exact .inr ⟨⟨err, rfl⟩, rfl, by simp⟩
  · rename_i g hg
    obtain ⟨hadds, hall⟩ := perform_eq lib reference g r
    rw [hg]
    simp only [Except.ok.injEq, exists_eq_left']
    rw [← hall]
    rcases hp : perform lib reference g r with ⟨u, _ | err⟩ <;> rw [hp] at h hadds <;> cases h
    · exact .inl ⟨rfl, congrArg (Registry.markLoaded · reference) hadds, rfl⟩
    · exact .inr ⟨⟨_, rfl⟩, hadds, by simp⟩

/-! What stays as it is. -/

/-- A registry that has come out of another one by loading. -/
structure Outgrows (s r : Registry) : Prop where
  frozen : s.frozen = r.frozen
  loaded : ∀ reference, r.isLoaded reference = true → s.isLoaded reference = true

theorem Outgrows.refl (r : Registry) : Outgrows r r := ⟨rfl, fun _ h => h⟩

theorem Outgrows.trans {u : Registry} (h : Outgrows u s) (h' : Outgrows s r) : Outgrows u r :=
  ⟨h.frozen.trans h'.frozen, fun reference hr => h.loaded reference (h'.loaded reference hr)⟩

theorem isLoaded_of_loadNew (h : loadNew lib files reference r = (s, none)) :
    s.isLoaded reference = true := by
  obtain ⟨-, rfl, -⟩ | ⟨⟨_, he⟩, -⟩ := loadNew_eq h
  · simp [Registry.isLoaded, Registry.markLoaded]
  · cases he

theorem loadOne_of_loaded (h : r.isLoaded reference = true) :
    loadOne lib files reference r = (r, none) := by rw [loadOne, if_pos h]

theorem loadOne_of_not_loaded (h : r.isLoaded reference = false) :
    loadOne lib files reference r = loadNew lib files reference r := by
  rw [loadOne, if_neg (by simp [h])]

theorem outgrows_loadOne (h : loadOne lib files reference r = (s, e)) : Outgrows s r := by
  cases hl : r.isLoaded reference with
  | true =>
    rw [loadOne_of_loaded hl] at h
    cases h
    exact .refl r
  | false =>
    rw [loadOne_of_not_loaded hl] at h
    obtain ⟨-, rfl, -⟩ | ⟨-, rfl, -⟩ := loadNew_eq h
    · refine ⟨rfl, fun x hx => ?_⟩
      rw [Registry.isLoaded_iff] at hx ⊢
      exact List.mem_append_left _ hx
    · exact ⟨rfl, fun _ hx => hx⟩

theorem isLoaded_of_loadOne (h : loadOne lib files reference r = (s, none)) :
    s.isLoaded reference = true := by
  cases hl : r.isLoaded reference with
  | true =>
    rw [loadOne_of_loaded hl] at h
    cases h
    exact hl
  | false =>
    rw [loadOne_of_not_loaded hl] at h
    exact isLoaded_of_loadNew h

theorem load_cons (lib : Library) (files : FileTree) (reference : Text) (rest : List Text)
    (r : Registry) : load lib files (reference :: rest) r =
      match loadOne lib files reference r with
      | (s, some e) => (s, some e)
      | (s, none) => load lib files rest s := rfl

theorem outgrows_load (h : load lib files references r = (s, e)) : Outgrows s r := by
  induction references generalizing r with
  | nil =>
    cases h
    exact .refl _
  | cons reference rest ih =>
    rw [load_cons] at h
    rcases hone : loadOne lib files reference r with ⟨u, _ | err⟩ <;> rw [hone] at h
    · exact (ih h).trans (outgrows_loadOne hone)
    · cases h
      exact outgrows_loadOne hone

theorem isLoaded_of_load (h : load lib files references r = (s, none))
    (hm : reference ∈ references) : s.isLoaded reference = true := by
  induction references generalizing r with
  | nil => cases hm
  | cons first rest ih =>
    rw [load_cons] at h
    rcases hone : loadOne lib files first r with ⟨u, _ | err⟩ <;> rw [hone] at h
    · rcases List.mem_cons.1 hm with rfl | hm
      · exact (outgrows_load h).loaded _ (isLoaded_of_loadOne hone)
      · exact ih h hm
    · cases h

theorem loadEach_eq_some {α : Type} {one : α → Registry → Registry × Option (Failure PluginError)}
    {xs : List α} : loadEach one xs r = (s, some f) ↔
      ∃ before x after u, xs = before ++ x :: after ∧ loadEach one before r = (u, none) ∧
        one x u = (s, some f) := by
  constructor
  · intro h
    induction xs generalizing r with
    | nil => cases h
    | cons x rest ih =>
      rw [loadEach] at h
      rcases hone : one x r with ⟨u, _ | err⟩ <;> rw [hone] at h
      · obtain ⟨before, y, after, v, rfl, hbefore, hy⟩ := ih h
        refine ⟨x :: before, y, after, v, rfl, ?_, hy⟩
        rw [loadEach, hone]
        exact hbefore
      · cases h
        exact ⟨[], x, rest, r, rfl, rfl, hone⟩
  · rintro ⟨before, x, after, u, rfl, hbefore, hx⟩
    rw [loadEach_append, hbefore]
    simp only [loadEach, hx]

theorem loadOne_eq_some : loadOne lib files reference r = (s, some f) ↔
    r.isLoaded reference = false ∧ loadNew lib files reference r = (s, some f) := by
  unfold loadOne
  cases r.isLoaded reference <;> simp

theorem load_eq_some : load lib files references r = (s, some f) ↔
    ∃ before reference after u, references = before ++ reference :: after ∧
      load lib files before r = (u, none) ∧ u.isLoaded reference = false ∧
      loadNew lib files reference u = (s, some f) := by
  simp only [load, loadEach_eq_some, loadOne_eq_some]

theorem load_of_loaded (h : ∀ reference ∈ references, r.isLoaded reference = true) :
    load lib files references r = (r, none) := by
  induction references with
  | nil => rfl
  | cons reference rest ih =>
    rw [load_cons, loadOne_of_loaded (h reference List.mem_cons_self)]
    exact ih fun x hx => h x (List.mem_cons_of_mem _ hx)

/-! Loading that has failed fails again. -/

theorem registerAll_snd_congr (hf : s.frozen = r.frozen) (commands : List (Text × Option Hook)) :
    (registerAll s commands).2 = (registerAll r commands).2 := by
  induction commands generalizing r s with
  | nil => rfl
  | cons c rest ih =>
    obtain ⟨name, hook⟩ := c
    cases hr : r.frozen with
    | true => simp [registerAll, Registry.register, hf, hr]
    | false =>
      cases hook with
      | none => simp [registerAll, Registry.register, hf, hr]
      | some h =>
        rw [registerAll_cons_of_ok (hf.trans hr), registerAll_cons_of_ok hr]
        exact ih hf

theorem perform_snd_congr (hf : s.frozen = r.frozen) (lib : Library) (reference : Text)
    (g : Registration) :
    (perform lib reference g s).2 = (perform lib reference g r).2 := by
  have hall := registerAll_snd_congr hf g.commands
  unfold perform
  rcases hs : registerAll s g.commands with ⟨u, eu⟩
  rcases hr : registerAll r g.commands with ⟨v, ev⟩
  rw [hs, hr] at hall
  obtain rfl : eu = ev := hall
  cases eu <;> rfl

theorem loadNew_snd_congr (hf : s.frozen = r.frozen) :
    (loadNew lib files reference s).2 = (loadNew lib files reference r).2 := by
  unfold loadNew
  cases registrationOf lib files reference with
  | error err => rfl
  | ok g =>
    have hp := perform_snd_congr hf lib reference g
    simp only
    rcases hs : perform lib reference g s with ⟨u, eu⟩
    rcases hr : perform lib reference g r with ⟨v, ev⟩
    rw [hs, hr] at hp
    obtain rfl : eu = ev := hp
    cases eu <;> rfl

/-- Plugins of which one has failed fail again in the same way: those before it are loaded, and it
is not. -/
theorem load_again (h : load lib files references r = (s, some f)) {u : Registry}
    (hloaded : u.loaded = s.loaded) (hfrozen : u.frozen = r.frozen) :
    (load lib files references u).2 = some f := by
  induction references generalizing r with
  | nil => cases h
  | cons reference rest ih =>
    have hisLoaded : ∀ x, u.isLoaded x = s.isLoaded x := by
      intro x
      rw [Registry.isLoaded, hloaded, Registry.isLoaded]
    rw [load_cons] at h ⊢
    rcases hone : loadOne lib files reference r with ⟨v, _ | err⟩ <;> rw [hone] at h
    · have hdone : u.isLoaded reference = true := by
        rw [hisLoaded]
        exact (outgrows_load h).loaded _ (isLoaded_of_loadOne hone)
      rw [loadOne_of_loaded hdone]
      exact ih h (hfrozen.trans (outgrows_loadOne hone).frozen.symm)
    · cases h
      have hnot : r.isLoaded reference = false := by
        cases hr : r.isLoaded reference with
        | false => rfl
        | true =>
          rw [loadOne_of_loaded hr] at hone
          cases hone
      rw [loadOne_of_not_loaded hnot] at hone
      have hsame : s.loaded = r.loaded := by
        obtain ⟨he, -⟩ | ⟨-, rfl, -⟩ := loadNew_eq hone
        · cases he
        · rfl
      have hagain : (loadNew lib files reference u).2 = (loadNew lib files reference r).2 :=
        loadNew_snd_congr hfrozen
      rw [hone] at hagain
      rw [loadOne_of_not_loaded (by rw [hisLoaded, Registry.isLoaded, hsame]; exact hnot)]
      rcases hu : loadNew lib files reference u with ⟨v, ev⟩
      rw [hu] at hagain
      obtain rfl : ev = some f := hagain
      rfl

end TestScribe.Plugins
