import TestScribe.Proofs.Export.Exits

/-!
Failures that cannot be put into words. Only what a format itself fails with can be of this kind
(`error_of_verdict_muted`), so a run in which no unit does so goes on to its end
(`carryOut_eq_complete`), and an export that breaks off after it has begun does so for the failure
of one of its units (`runWith_of_error`).
-/

namespace TestScribe

namespace Plan

variable {p : Plan} {w : Wish} {t : FileTree} {h : List Mark} {path : Path} {body : RawText}
  {e : UnitError} {i : Nat} {mute : Mute} {f : Fault}

theorem mutedBy_of_save (hs : (p.save t path body).2 = .failed e) : e.mutedBy mute = none := by
  cases ho : Address.override p.recorded p.override body with
  | error f =>
    rw [save_of_error ho] at hs
    cases hs
    unfold Address.override at ho
    split at ho
    · cases ho
    · split at ho <;> cases ho
      rfl
  | ok content =>
    rw [snd_save ho] at hs
    split at hs
    · cases hs
      rfl
    · split at hs <;> cases hs
      rfl

/-- A failure that cannot be put into words is that of an emission. -/
theorem error_of_verdict_muted (hv : p.verdict w t h i = .failed e)
    (hm : e.mutedBy mute = some f) : w i = .error e := by
  cases hw : w i with
  | error e' =>
    rw [verdict_of_error hw] at hv
    cases hv
    rfl
  | ok q =>
    obtain ⟨path, body⟩ := q
    by_cases ho : w.owner h path = some i
    · rw [verdict_of_owner hw ho] at hv
      rw [mutedBy_of_save hv] at hm
      cases hm
    · rw [verdict_of_ne hw ho] at hv
      cases hv
      cases hm

end Plan

/-- Whether all failures of units can be put into words. -/
def Wish.Worded (w : Wish) (mute : Mute) (ids : List Nat) : Prop :=
  ∀ i ∈ ids, ∀ e, w i = .error e → e.mutedBy mute = none

instance (w : Wish) (mute : Mute) (ids : List Nat) : Decidable (w.Worded mute ids) :=
  decidable_of_iff (ids.all fun i =>
      match w i with
      | .error e => (e.mutedBy mute).isNone
      | .ok _ => true) <| by
    rw [List.all_eq_true]
    refine forall₂_congr fun i _ => ?_
    cases w i <;> simp

theorem Wish.Worded.sublist {w : Wish} {mute : Mute} {ids ids' : List Nat} (h : w.Worded mute ids)
    (hs : ids'.Sublist ids) : w.Worded mute ids' := fun i hi => h i (hs.subset hi)

namespace Run

variable {p : Plan} {w : Wish} {r : Run} {h : List Mark} {f : FileTree} {mute : Mute} {g : Fault}

theorem Tells.of_breach (ht : Tells p w f h r) (hb : r.breach mute = some g) :
    ∃ i ∈ r.tasks.map (·.id), ∃ e, w i = .error e ∧ e.mutedBy mute = some g := by
  obtain ⟨t, hmem, hstage⟩ := List.exists_of_findSome?_eq_some hb
  split at hstage
  · rename_i e he
    have hs := ht.stands t hmem
    simp only [Stands, he] at hs
    exact ⟨t.id, List.mem_map_of_mem hmem, e,
      Plan.error_of_verdict_muted hs.2.1.symm hstage, hstage⟩
  · cases hstage

theorem Tells.breach_eq_none (ht : Tells p w f h r) (hw : w.Worded mute (r.tasks.map (·.id))) :
    r.breach mute = none := by
  cases hb : r.breach mute with
  | none => rfl
  | some g =>
    obtain ⟨i, hi, e, he, hm⟩ := ht.of_breach hb
    rw [hw i hi e he] at hm
    cases hm

theorem ids_finish (p : Plan) (r : Run) (i : Nat) :
    (r.finish p i).tasks.map (·.id) = r.tasks.map (·.id) := by
  rw [← fst_units, units_finish, fst_units]

theorem ids_schedule (p : Plan) (es : List Event) (r : Run) :
    (es.foldl (step p) r).tasks.map (·.id) = r.tasks.map (·.id) := by
  rw [← fst_units, units_schedule, fst_units]

/-- While failures can be put into words, tasks finish one after another. -/
theorem Tells.conclude_eq (ht : Tells p w f h r) (hw : w.Worded mute (r.tasks.map (·.id)))
    (is : List Nat) : Run.conclude mute p is r = is.foldl (Run.finish p) r := by
  induction is generalizing h r with
  | nil => rfl
  | cons i is ih =>
    rw [Run.conclude, ht.breach_eq_none hw, List.foldl_cons]
    exact ih (ht.finish i) (by rwa [ids_finish])

theorem conclude_of_breach_eq_none {is : List Nat}
    (hb : (Run.conclude mute p is r).breach mute = none) :
    Run.conclude mute p is r = is.foldl (Run.finish p) r := by
  induction is generalizing r with
  | nil => rfl
  | cons i is ih =>
    rw [Run.conclude] at hb ⊢
    split at hb
    · rename_i hsome
      rw [hb] at hsome
      cases hsome
    · rename_i hnone
      rw [if_neg hnone, List.foldl_cons]
      exact ih hb

theorem Tells.conclude (ht : Tells p w f h r) (mute : Mute) (is : List Nat) :
    ∃ h', Tells p w f h' (Run.conclude mute p is r) ∧
      (Run.conclude mute p is r).tasks.map (·.id) = r.tasks.map (·.id) := by
  induction is generalizing h r with
  | nil => exact ⟨h, ht, rfl⟩
  | cons i is ih =>
    rw [Run.conclude]
    split
    · exact ⟨h, ht, rfl⟩
    · obtain ⟨h', ht', hids⟩ := ih (ht.finish i)
      exact ⟨h', ht', hids.trans (ids_finish p r i)⟩

theorem carryOut_eq_complete (hb : Begins p w r) (hw : w.Worded mute (r.tasks.map (·.id)))
    (schedule : List Event) : r.carryOut mute p schedule = r.complete p schedule :=
  (hb.tells.history schedule).conclude_eq (by rwa [ids_schedule]) _

/-- Tasks without a breach have had no failure that cannot be put into words. -/
theorem worded_of_breach_eq_none (hb : Begins p w r) {schedule : List Event}
    (hn : (r.carryOut mute p schedule).breach mute = none) :
    w.Worded mute (r.tasks.map (·.id)) := by
  intro i hi e he
  have hend : (r.complete p schedule).breach mute = none := by
    rwa [carryOut, conclude_of_breach_eq_none hn] at hn
  rw [← fst_units, ← units_complete p schedule r, fst_units] at hi
  obtain ⟨t, ht, rfl⟩ := List.mem_map.1 hi
  have hdone := outcome?_complete hb schedule ht
  rw [Plan.verdict_of_error he, Task.outcome?] at hdone
  have hstage := List.findSome?_eq_none_iff.1 hend t ht
  split at hdone
  · rename_i hs
    cases hdone
    rw [hs] at hstage
    exact hstage
  · cases hdone

theorem tells_carryOut (hb : Begins p w r) (mute : Mute) (schedule : List Event) :
    ∃ h, Tells p w r.files h (r.carryOut mute p schedule) ∧
      (r.carryOut mute p schedule).tasks.map (·.id) = r.tasks.map (·.id) := by
  obtain ⟨h, ht, hids⟩ := (hb.tells.history schedule).conclude mute (r.tasks.map (·.id))
  exact ⟨h, ht, hids.trans (ids_schedule p schedule r)⟩

end Run

namespace Export

variable {a : Conduct} {w v : World} {c : Configuration} {p : Project} {l : Loaded}
  {units : List (Nat × Text)} {given : Option Format} {mute : Mute} {conduct : Format → Conduct}
  {schedule : List Nat → List Event}

theorem emitAllWith_eq (hs : units.Sublist (p.units c.mode))
    (hw : (wish a w c p).Worded mute (units.map Prod.fst)) :
    emitAllWith mute a w c p schedule units = emitAll a w c p schedule units := by
  cases units with
  | nil => rfl
  | cons u us =>
    have hb := begins a w c p hs
    rw [← ids_start a w c.mode p] at hw
    have hrun := Run.carryOut_eq_complete hb hw (schedule ((u :: us).map Prod.fst))
    have hbreach : Run.breach mute ((start w (issue a c.mode p (u :: us)).2).complete (plan c p)
        (schedule ((u :: us).map Prod.fst))) = none :=
      (Run.tells_complete hb _).breach_eq_none (by
        rwa [← Run.fst_units, Run.units_complete, Run.fst_units])
    rw [emitAll_cons]
    simp only [emitAllWith, emitWith, hrun, hbreach]

theorem exists_error_of_not_worded (hs : units.Sublist (p.units c.mode))
    (hw : ¬ (wish a w c p).Worded mute (units.map Prod.fst)) :
    ∃ f, (emitAllWith mute a w c p schedule units).result = .error (.escaped f) := by
  cases units with
  | nil => exact absurd (fun i hi => by cases hi) hw
  | cons u us =>
    simp only [emitAllWith, emitWith]
    split
    · exact ⟨_, rfl⟩
    · rename_i hn
      rw [← ids_start a w c.mode p] at hw
      exact absurd (Run.worded_of_breach_eq_none (begins a w c p hs) hn) hw

theorem Selects.runWith (h : Selects w c given v l units) :
    runWith mute conduct w c given schedule =
      emitAllWith mute (conduct l.format) v c l.project schedule units := by
  simp only [Export.runWith, h.load, h.selected]

theorem Selects.runWith_eq (h : Selects w c given v l units)
    (hw : (wish (conduct l.format) v c l.project).Worded mute (units.map Prod.fst)) :
    Export.runWith mute conduct w c given schedule = Export.runBy conduct w c given schedule := by
  rw [h.runBy, ← emitAllWith_eq h.sublist hw]
  exact h.runWith

/-- An export of units ends with an error only for a unit that fails without words. -/
theorem emitAllWith_of_error (hs : units.Sublist (p.units c.mode)) {err : Failure ExportError}
    (h : (emitAllWith mute a w c p schedule units).result = .error err) :
    ∃ u ∈ units, ∃ e f, wish a w c p u.1 = .error e ∧ e.mutedBy mute = some f ∧
      err = .escaped f := by
  cases units with
  | nil => cases h
  | cons u us =>
    obtain ⟨marks, ht, hids⟩ := Run.tells_carryOut (begins a w c p hs) mute
      (schedule ((u :: us).map Prod.fst))
    simp only [emitAllWith, emitWith] at h
    split at h
    · rename_i f hbreach
      cases h
      obtain ⟨i, hi, e, he, hm⟩ := ht.of_breach hbreach
      rw [hids, ids_start] at hi
      obtain ⟨x, hx, rfl⟩ := List.mem_map.1 hi
      exact ⟨x, hx, e, f, he, hm, rfl⟩
    · cases h

/-- An export that ends with an error ends before its units, in the world as it was loaded, or for a
unit that fails without words. -/
theorem runWith_of_error {err : Failure ExportError}
    (h : (runWith mute conduct w c given schedule).result = .error err) :
    (∃ v, LoadedFrom w v ∧
      runWith mute conduct w c given schedule = { world := v, calls := [], result := .error err }) ∨
    ∃ v l units, Selects w c given v l units ∧ ∃ u ∈ units, ∃ e f,
      wish (conduct l.format) v c l.project u.1 = .error e ∧ e.mutedBy mute = some f ∧
        err = .escaped f := by
  rcases runWith_cases mute conduct w c given schedule with
    ⟨v, err', hload, hrun⟩ | ⟨v, l, f, hload, -, hrun⟩ | ⟨v, l, units, hsel⟩
  · rw [hrun] at h
    cases h
    exact .inl ⟨v, loadedFrom_load hload, hrun⟩
  · rw [hrun] at h
    cases h
    exact .inl ⟨v, loadedFrom_load hload, hrun⟩
  · refine .inr ⟨v, l, units, hsel, ?_⟩
    rw [hsel.runWith] at h
    exact emitAllWith_of_error hsel.sublist h

theorem frozen_emitAllWith (mute : Mute) (a : Conduct) (w : World) (c : Configuration) (p : Project)
    (schedule : List Nat → List Event) (hu : units ≠ []) :
    (emitAllWith mute a w c p schedule units).world.registries.current.frozen = false := by
  cases units with
  | nil => exact absurd rfl hu
  | cons u us => simp [emitAllWith, emitWith]

/-- Whatever an export ends with an error for: no function of the format has been called, every file
and directory is what it was, and so is the freeze of the registry. The one exception is a unit that
fails without words; then the registry is open. -/
theorem error_leaves_no_output (mute : Mute) (conduct : Format → Conduct)
    (schedule : List Nat → List Event) {err : Failure ExportError}
    (h : (runWith mute conduct w c given schedule).result = .error err) :
    ((runWith mute conduct w c given schedule).calls = [] ∧
      (runWith mute conduct w c given schedule).world.files = w.files ∧
      (runWith mute conduct w c given schedule).world.registries.current.frozen =
        w.registries.current.frozen) ∨
    (runWith mute conduct w c given schedule).world.registries.current.frozen = false ∧
      ∃ v l units, Selects w c given v l units ∧ ∃ u ∈ units, ∃ e f,
        wish (conduct l.format) v c l.project u.1 = .error e ∧ e.mutedBy mute = some f ∧
          err = .escaped f := by
  rcases runWith_of_error h with ⟨v, hv, hrun⟩ | ⟨v, l, units, hsel, u, hu, hmuted⟩
  · rw [hrun]
    exact .inl ⟨rfl, hv.files, hv.frozen⟩
  · refine .inr ⟨?_, v, l, units, hsel, u, hu, hmuted⟩
    rw [hsel.runWith]
    exact frozen_emitAllWith _ _ _ _ _ _ (List.ne_nil_of_mem hu)

namespace Sample

def unworded : Mute := fun _ t =>
  if t = "unworded".toList then
    some (.raised .type "__str__ returned non-string (type int)")
  else none

def failing : Emission := .fails (.fault (.raised .runtime "unworded"))

end Sample

/-- A project of two plugins: the first registers a translator, and the second is not there. -/
theorem error_leaves_no_output_of_missing_plugin :
    let w := Sample.pluggedWorld (Sample.pluggedDocument [] ["q.py", "r.py"])
      [("q.py", Sample.plugin "shout" fun _ _ => .ok (some "loud"))]
    let c := Sample.configuration "/out" Sample.everything
    let format := some (Sample.format fun name => Sample.file name name)
    ∃ err, (runWith Sample.unworded byName w c format fun _ => []).result = .error err ∧
      (runWith Sample.unworded byName w c format fun _ => []).world.registries.current.has
        "shout" = true ∧
      (((runWith Sample.unworded byName w c format fun _ => []).calls = [] ∧
        (runWith Sample.unworded byName w c format fun _ => []).world.files = w.files ∧
        (runWith Sample.unworded byName w c format fun _ => []).world.registries.current.frozen =
          w.registries.current.frozen) ∨
      (runWith Sample.unworded byName w c format fun _ => []).world.registries.current.frozen =
          false ∧
        ∃ v l units, Selects w c format v l units ∧ ∃ u ∈ units, ∃ e f,
          wish (byName l.format) v c l.project u.1 = .error e ∧
            e.mutedBy Sample.unworded = some f ∧ err = .escaped f) := by
  intro w c format
  have hrun : (!(runWith Sample.unworded byName w c format fun _ => []).result.isOk &&
      (runWith Sample.unworded byName w c format fun _ => []).world.registries.current.has
        "shout") = true := by
    decide +kernel
  rw [Bool.and_eq_true, Bool.not_eq_true'] at hrun
  obtain ⟨herr, hhas⟩ := hrun
  obtain ⟨err, hr⟩ := Except.exists_of_isOk_eq_false herr
  exact ⟨err, hr, hhas, error_leaves_no_output Sample.unworded byName (fun _ => []) hr⟩

/-- Two units, of which the second fails without words when the file of the first is written: the
export ends with an error after all. -/
theorem output_before_error :
    let w := Sample.world ["a", "b"]
    let c := Sample.configuration "/out" Sample.everything
    let format := Sample.format fun name =>
      if name = ['a'] then Sample.file name name else .waits Sample.failing
    let ended := runWith Sample.unworded byName w c (some format) fun _ => [.resume 0, .write 0]
    ended.result.isOk = false ∧ ended.calls = [(.test, ['a']), (.test, ['b'])] ∧
      w.files.at? ["out".toList, ['a']] = none ∧
      ended.world.files.at? ["out".toList, ['a']] = some (.file (.text "a")) := by
  decide +kernel

end Export

end TestScribe
