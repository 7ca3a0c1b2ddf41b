import TestScribe.Proofs.Plugins.Loading

/-!
What loading plugins adds to a registry. A list of references that loads to its end adds what its
new plugins register, one after another (`load_eq_none`). One that does not adds what those before
the failing plugin register, and then what that one has registered before it failed (`Remains`).
-/

namespace TestScribe

namespace Registry

variable {r s : Registry} {x : Text} {xs : List Text}

/-- The references that are not loaded, each at its first place. -/
def fresh (r : Registry) (references : List Text) : List Text :=
  (references.filter fun x => !r.isLoaded x).eraseDups

theorem fresh_congr (h : s.loaded = r.loaded) (xs : List Text) : s.fresh xs = r.fresh xs := by
  simp only [fresh, isLoaded, h]

theorem mem_fresh : x ∈ r.fresh xs ↔ x ∈ xs ∧ r.isLoaded x = false := by
  simp [fresh]

theorem fresh_cons_of_loaded (h : r.isLoaded x = true) : r.fresh (x :: xs) = r.fresh xs := by
  simp [fresh, h]

theorem fresh_cons_of_not_loaded (h : r.isLoaded x = false) :
    r.fresh (x :: xs) = x :: (r.markLoaded x).fresh xs := by
  have hfilter : (xs.filter fun y => !r.isLoaded y).filter (fun y => !y == x) =
      xs.filter fun y => !(r.markLoaded x).isLoaded y := by
    rw [List.filter_filter]
    refine List.filter_congr fun y _ => ?_
    simp [isLoaded, markLoaded, Bool.and_comm, beq_eq_decide]
  rw [fresh, List.filter_cons_of_pos (by simp [h]), List.eraseDups_cons, hfilter, fresh]

theorem nodup_fresh (r : Registry) (xs : List Text) : (r.fresh xs).Nodup := by
  induction xs generalizing r with
  | nil => exact List.nodup_nil
  | cons x xs ih =>
    cases h : r.isLoaded x with
    | true => rw [fresh_cons_of_loaded h]; exact ih r
    | false =>
      rw [fresh_cons_of_not_loaded h, List.nodup_cons]
      refine ⟨fun hx => ?_, ih _⟩
      simpa [isLoaded, markLoaded] using (mem_fresh.1 hx).2

theorem nodup_append_fresh (h : r.loaded.Nodup) (xs : List Text) :
    (r.loaded ++ r.fresh xs).Nodup := by
  refine h.append (nodup_fresh r xs) fun x hx hfresh => ?_
  have hnot := (mem_fresh.1 hfresh).2
  rw [isLoaded_iff.2 hx] at hnot
  cases hnot

end Registry

namespace Plugins

open Registry (under)

variable {lib : Library} {files : FileTree} {reference : Text} {references before : List Text}
  {r s u : Registry} {f : Failure PluginError} {e : Option (Failure PluginError)}

/-! One plugin. -/

theorem called_of_loaded (h : r.isLoaded reference = true) :
    called lib files reference r = [] := by
  simp [called, h]

theorem called_of_ok {g : Registration} (h : r.isLoaded reference = false)
    (hg : registrationOf lib files reference = .ok g) :
    called lib files reference r = [reference] := by
  rw [called, h, hg]
  rfl

theorem called_of_error (hg : registrationOf lib files reference = .error f) (r : Registry) :
    called lib files reference r = [] := by
  rw [called, hg]
  cases r.isLoaded reference <;> rfl

theorem loadOne_adds (h : loadOne lib files reference r = (s, e)) :
    s = { r.extend ((called lib files reference r).flatMap (additions lib files r.frozen)) with
      loaded := s.loaded } := by
  cases hr : r.isLoaded reference with
  | true =>
    rw [loadOne_of_loaded hr] at h
    cases h
    rw [called_of_loaded hr]
    rfl
  | false =>
    rw [loadOne_of_not_loaded hr] at h
    have hadds : (called lib files reference r).flatMap (additions lib files r.frozen) =
        additions lib files r.frozen reference := by
      cases hg : registrationOf lib files reference with
      | ok g => rw [called_of_ok hr hg, List.flatMap_singleton]
      | error err => rw [called_of_error hg, additions, hg, List.flatMap_nil]
    rw [hadds]
    obtain ⟨-, rfl, -⟩ | ⟨-, rfl, -⟩ := loadNew_eq h <;> rfl

/-! Lists of plugins. -/

theorem calls_cons (lib : Library) (files : FileTree) (reference : Text) (rest : List Text)
    (r : Registry) : calls lib files (reference :: rest) r =
      called lib files reference r ++
        match loadOne lib files reference r with
        | (_, some _) => []
        | (s, none) => calls lib files rest s := rfl

/-- Whether loading comes to its end or not, it adds what the plugins register whose registration
functions are called, one after another. -/
theorem load_adds (h : load lib files references r = (s, e)) :
    s = { r.extend ((calls lib files references r).flatMap (additions lib files r.frozen)) with
      loaded := s.loaded } := by
  induction references generalizing r with
  | nil =>
    cases h
    rfl
  | cons x rest ih =>
    rw [load_cons] at h
    rw [calls_cons]
    rcases hone : loadOne lib files x r with ⟨u, _ | err⟩ <;> rw [hone] at h
    · have hu := loadOne_adds hone
      have hfrozen : u.frozen = r.frozen := (outgrows_loadOne hone).frozen
      have hs := ih h
      rw [hfrozen] at hs
      rw [hs, hu, List.flatMap_append, ← Registry.extend_extend]
      rfl
    · cases h
      simpa using loadOne_adds hone

theorem hooksOf_load (h : load lib files references r = (s, e)) (name : Text) :
    s.hooksOf name = r.hooksOf name ++
      under name ((calls lib files references r).flatMap (additions lib files r.frozen)) := by
  rw [load_adds h]
  exact Registry.hooksOf_extend r name _

theorem load_eq_none (h : load lib files references r = (s, none)) :
    s.loaded = r.loaded ++ r.fresh references ∧
      calls lib files references r = r.fresh references ∧
      ∀ x ∈ r.fresh references, Completes lib files r.frozen x := by
  induction references generalizing r with
  | nil =>
    cases h
    exact ⟨by simp [Registry.fresh], rfl, by simp [Registry.fresh]⟩
  | cons x rest ih =>
    rw [load_cons] at h
    rw [calls_cons]
    rcases hone : loadOne lib files x r with ⟨u, _ | err⟩ <;> rw [hone] at h
    · obtain ⟨hloaded, hcalls, hall⟩ := ih h
      cases hx : r.isLoaded x with
      | true =>
        rw [loadOne_of_loaded hx] at hone
        cases hone
        rw [called_of_loaded hx, Registry.fresh_cons_of_loaded hx]
        exact ⟨hloaded, hcalls, hall⟩
      | false =>
        rw [loadOne_of_not_loaded hx] at hone
        obtain ⟨-, rfl, hcompletes⟩ | ⟨⟨_, hsome⟩, -⟩ := loadNew_eq hone
        · have hrest (y : List Text) := Registry.fresh_congr
            (s := (r.extend (additions lib files r.frozen x)).markLoaded x) (r := r.markLoaded x)
            rfl y
          rw [hrest] at hloaded hcalls hall
          have ⟨g, hg, _⟩ := hcompletes
          rw [Registry.fresh_cons_of_not_loaded hx, called_of_ok hx hg]
          refine ⟨?_, ?_, ?_⟩
          · simpa [Registry.markLoaded] using hloaded
          · simpa using hcalls
          · exact List.forall_mem_cons.2 ⟨hcompletes, hall⟩
        · cases hsome
    · cases h

theorem calls_append {a : List Text} (h : load lib files a r = (u, none)) (b : List Text) :
    calls lib files (a ++ b) r = calls lib files a r ++ calls lib files b u := by
  induction a generalizing r with
  | nil =>
    cases h
    rfl
  | cons x rest ih =>
    rw [load_cons] at h
    rw [List.cons_append, calls_cons, calls_cons]
    rcases hone : loadOne lib files x r with ⟨v, _ | err⟩ <;> rw [hone] at h
    · simp only [ih h, List.append_assoc]
    · cases h

/-- The course that loading takes: the references of `done` are loaded, and then it is at its end or
fails with the next one, which does not complete. -/
structure Course (lib : Library) (files : FileTree) (references : List Text) (r s : Registry)
    (e : Option (Failure PluginError)) (done : List Text) : Prop where
  loaded : s.loaded = r.loaded ++ r.fresh done
  completes : ∀ x ∈ r.fresh done, Completes lib files r.frozen x
  ends : e = none ∧ references = done ∧ calls lib files references r = r.fresh done ∨
    ∃ f x after u, e = some f ∧ references = done ++ x :: after ∧
      load lib files done r = (u, none) ∧ u.isLoaded x = false ∧
      ¬ Completes lib files r.frozen x ∧ loadNew lib files x u = (s, some f) ∧
      calls lib files references r = r.fresh done ++ called lib files x u

theorem exists_course (h : load lib files references r = (s, e)) :
    ∃ done, Course lib files references r s e done := by
  cases e with
  | none =>
    obtain ⟨hloaded, hcalls, hall⟩ := load_eq_none h
    exact ⟨references, hloaded, hall, .inl ⟨rfl, rfl, hcalls⟩⟩
  | some f =>
    obtain ⟨done, x, after, u, rfl, hdone, hx, hnew⟩ := load_eq_some.1 h
    obtain ⟨hloaded, hcalls, hall⟩ := load_eq_none hdone
    have hcallsx : calls lib files (done ++ x :: after) r =
        r.fresh done ++ called lib files x u := by
      rw [calls_append hdone, hcalls, calls_cons, loadOne_of_not_loaded hx, hnew, List.append_nil]
    obtain ⟨hnone, -⟩ | ⟨-, rfl, hfails⟩ := loadNew_eq hnew
    · cases hnone
    · rw [(outgrows_load hdone).frozen] at hfails
      exact ⟨done, hloaded, hall, .inr ⟨f, x, after, u, rfl, rfl, hdone, hx, hfails, hnew, hcallsx⟩⟩

/-- Loading comes to its end if all new plugins complete, and only then. -/
theorem load_completes_iff : (load lib files references r).2 = none ↔
    ∀ x ∈ r.fresh references, Completes lib files r.frozen x := by
  rcases h : load lib files references r with ⟨s, e⟩
  constructor
  · rintro rfl
    exact (load_eq_none h).2.2
  · intro hall
    obtain ⟨done, -, -, ⟨rfl, -⟩ | ⟨f, x, after, u, -, rfl, hdone, hx, hfails, -⟩⟩ := exists_course h
    · rfl
    · have hr : r.isLoaded x = false := by
        cases hr : r.isLoaded x with
        | false => rfl
        | true => exact ((outgrows_load hdone).loaded x hr).symm.trans hx
      exact absurd (hall x (Registry.mem_fresh.2 ⟨by simp, hr⟩)) hfails

/-- Loading goes from left to right and only forward. Two lists of references are loaded as one
after the other; plugins that have been loaded are not called again, and nothing changes. It comes
to its end exactly if all new plugins complete; the list of loaded plugins goes on with the new ones
that could be loaded, each at its first place; and each name gets the translators of the plugins
that were called, in the order of the plugins and, for each plugin, of its registrations. -/
theorem loading_composes (lib : Library) (files : FileTree) (a b : List Text) (r : Registry) :
    (load lib files (a ++ b) r =
      match load lib files a r with
      | (s, some f) => (s, some f)
      | (s, none) => load lib files b s) ∧
    (∀ s, load lib files a r = (s, none) → ∀ c ⊆ a,
      calls lib files c s = [] ∧ load lib files c s = (s, none)) ∧
    ∀ s e, load lib files a r = (s, e) →
      (e = none ↔ ∀ x ∈ r.fresh a, Completes lib files r.frozen x) ∧
      (r.loaded.Nodup → s.loaded.Nodup) ∧
      (∃ done, Course lib files a r s e done) ∧
      ∀ name, s.hooksOf name = r.hooksOf name ++
        under name ((calls lib files a r).flatMap (additions lib files r.frozen)) := by
  refine ⟨load_append lib files a b r, fun s h c hc => ?_, fun s e h => ⟨?_, fun hr => ?_,
    exists_course h, hooksOf_load h⟩⟩
  · have hagain : load lib files c s = (s, none) :=
      load_of_loaded fun x hx => isLoaded_of_load h (hc hx)
    obtain ⟨hloaded, hcalls, -⟩ := load_eq_none hagain
    refine ⟨hcalls.trans ?_, hagain⟩
    simpa using hloaded
  · rw [← load_completes_iff, h]
  · obtain ⟨done, hcourse⟩ := exists_course h
    rw [hcourse.loaded]
    exact Registry.nodup_append_fresh hr done

theorem extend_eq_self {added : List (Text × Hook)} : r.extend added = r ↔ added = [] := by
  constructor
  · intro h
    cases added with
    | nil => rfl
    | cons a rest =>
      have hhooks := Registry.hooksOf_extend r a.1 (a :: rest)
      rw [h] at hhooks
      simp [under] at hhooks
  · rintro rfl
    rfl

/-- What is left behind of loading that failed with the plugin of `x`: the registry `u` of the
references before it, and the translators that it had registered until then. -/
structure Remains (lib : Library) (files : FileTree) (references before : List Text) (x : Text)
    (r u s : Registry) : Prop where
  split : ∃ after, references = before ++ x :: after
  loaded : load lib files before r = (u, none)
  new : u.isLoaded x = false
  fails : ¬ Completes lib files r.frozen x
  remains : s = u.extend (additions lib files r.frozen x)
  nothing : s = u ↔ additions lib files r.frozen x = []
  /-- A mended list comes to its end: it calls no plugin again and each other one once, and their
  translators stand behind those that have been left. -/
  mended : ∀ lib' files' list, (∀ y ∈ s.fresh list, Completes lib' files' r.frozen y) →
    calls lib' files' list s = s.fresh list ∧ (s.fresh list).Nodup ∧
      (∀ y ∈ s.fresh list, y ∉ r.loaded ∧ y ∉ before) ∧
      ∃ t, load lib' files' list s = (t, none) ∧ ∀ name, t.hooksOf name =
        r.hooksOf name ++ under name ((r.fresh before).flatMap (additions lib files r.frozen)) ++
          under name (additions lib files r.frozen x) ++
          under name ((s.fresh list).flatMap (additions lib' files' r.frozen))

/-- A plugin that fails leaves behind what it has registered until then, and nothing else: the
registry is that of the references before it with these translators added, and it is the same if and
only if there are none. A mended list of references that is loaded afterwards brings in each plugin
that is not loaded once, behind what has been left. -/
theorem failed_plugin_leaves (h : load lib files references r = (s, some f)) :
    ∃ before x u, Remains lib files references before x r u s := by
  obtain ⟨before, x, after, u, hsplit, hbefore, hx, hnew⟩ := load_eq_some.1 h
  have hu := outgrows_load hbefore
  obtain ⟨hs, hfails⟩ : s = u.extend (additions lib files r.frozen x) ∧
      ¬ Completes lib files r.frozen x := by
    obtain ⟨hnone, -⟩ | ⟨-, hs⟩ := loadNew_eq hnew
    · cases hnone
    · rwa [hu.frozen] at hs
  have hfrozen : s.frozen = r.frozen := hs ▸ hu.frozen
  refine ⟨before, x, u, ⟨after, hsplit⟩, hbefore, hx, hfails, hs, hs ▸ extend_eq_self,
    fun lib' files' list hall => ?_⟩
  rw [← hfrozen] at hall
  rcases hmended : load lib' files' list s with ⟨t, e⟩
  obtain rfl : e = none := by
    have hnone := load_completes_iff.2 hall
    rwa [hmended] at hnone
  obtain ⟨-, hcalls, -⟩ := load_eq_none hmended
  refine ⟨hcalls, Registry.nodup_fresh s list, fun y hy => ?_, t, rfl, fun name => ?_⟩
  · have hnot : u.isLoaded y = false := by
      have hsnot := (Registry.mem_fresh.1 hy).2
      rwa [hs] at hsnot
    refine ⟨fun hr => ?_, fun hb => ?_⟩
    · rw [hu.loaded y (Registry.isLoaded_iff.2 hr)] at hnot
      cases hnot
    · rw [isLoaded_of_load hbefore hb] at hnot
      cases hnot
  · rw [hooksOf_load hmended, hcalls, hfrozen, hs, Registry.hooksOf_extend, hooksOf_load hbefore,
      (load_eq_none hbefore).2.1]

/-! Small libraries, on which theorems can be tried. -/

namespace Sample

def library (plugins : List (Text × Module)) : Library :=
  { files := plugins.map fun q => ([q.1], q.2) }

def tree (plugins : List (Text × Module)) : FileTree :=
  ⟨plugins.map fun q => ([q.1], .file (.text []))⟩

/-- A plugin that registers translators which decline everything, and ends in some way. -/
def plugin (names : List Text) (ending : Ending) : Module :=
  { registration := some { commands := names.map fun n => (n, some fun _ _ => .ok none), ending } }

def failure : Ending := .fails (.raised .value "boom")

end Sample

/-- The second of two plugins registers two translators before it fails. -/
theorem failed_plugin_leaves_of_two :
    let plugins := [("q.py".toList, Sample.plugin ["shout"] .done),
      ("r.py".toList, Sample.plugin ["shout", "sing"] Sample.failure)]
    let lib := Sample.library plugins
    let files := Sample.tree plugins
    ∃ s f, load lib files ["/q.py", "/r.py"] .empty = (s, some f) ∧
      (s.hooksOf "shout").length = 2 ∧ s.loaded = ["/q.py"] ∧
      ∃ before x u, Remains lib files ["/q.py", "/r.py"] before x .empty u s := by
  intro plugins lib files
  have hrun : ((load lib files ["/q.py", "/r.py"] .empty).2.isSome &&
      ((load lib files ["/q.py", "/r.py"] .empty).1.hooksOf "shout").length == 2 &&
      (load lib files ["/q.py", "/r.py"] .empty).1.loaded == ["/q.py".toList]) = true := by
    decide +kernel
  rcases h : load lib files ["/q.py", "/r.py"] .empty with ⟨s, _ | f⟩ <;> rw [h] at hrun
  · simp at hrun
  · simp only [Bool.and_eq_true, beq_iff_eq] at hrun
    exact ⟨s, f, rfl, hrun.1.2, hrun.2, failed_plugin_leaves h⟩

/-- A plugin that fails after it has registered a translator: the translator stays, where there was
none before, and loading the mended plugin registers it a second time. -/
theorem failed_plugin_registers_twice :
    let failing := [("q.py".toList, Sample.plugin ["shout"] Sample.failure)]
    let mended := [("q.py".toList, Sample.plugin ["shout"] .done)]
    let files := Sample.tree failing
    let failed := load (Sample.library failing) files ["/q.py"] .empty
    let again := load (Sample.library mended) files ["/q.py"] failed.1
    failed.2.isSome = true ∧
      (load (Sample.library failing) files [] .empty).1.has "shout" = false ∧
      failed.1.has "shout" = true ∧
      again.2.isNone = true ∧ (again.1.hooksOf "shout").length = 2 := by
  decide +kernel

end Plugins

end TestScribe
