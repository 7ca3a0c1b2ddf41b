import Mathlib.Data.List.Induction
import TestScribe.Proofs.Export.Freeze
import TestScribe.Proofs.Export.Order
import TestScribe.Proofs.Export.Reloading
import TestScribe.Proofs.Export.Schedules
import TestScribe.Proofs.Files.Rewriting

/-!
Running an export again. Whatever the units of an export have left, written files, directories on
the way to files that could not be written, is still there when it ends (`left_replay`). So when the
same units write again to the files that are there, each of them succeeds or fails as before, and
nothing changes, in whichever order the files are written (`replay_again`, `verdict_again`). All
that matters of the first export is in which order the emissions ended (`repeats_emitAll`).
-/

namespace TestScribe

open FileTree (Grows Keeps)

namespace Plan

variable {p : Plan} {w : Wish} {t u : FileTree} {h h' : List Mark} {path q base : Path}
  {body : RawText} {c : FileContent} {i : Nat}

theorem save_grows (p : Plan) (t : FileTree) (path : Path) (body : RawText) :
    Grows t (p.save t path body).1 := by
  rw [fst_save]
  split
  · exact (Keeps.refl t).grows
  · exact FileTree.write_grows t path _

theorem record_grows (p : Plan) (w : Wish) (t : FileTree) (m : Mark) :
    Grows t (p.record w t m) := by
  have hrefl : Grows t t := (FileTree.Keeps.refl t).grows
  cases m with
  | ended i => exact hrefl
  | wrote i =>
    cases hw : w i with
    | error e => simpa only [record, hw] using hrefl
    | ok f =>
      rw [record_wrote hw]
      exact p.save_grows t f.1 f.2

theorem replay_grows (p : Plan) (w : Wish) (t : FileTree) (h : List Mark) :
    Grows t (p.replay w t h) := by
  induction h generalizing t with
  | nil => exact (FileTree.Keeps.refl t).grows
  | cons m h ih => exact (p.record_grows w t m).trans (ih _)

theorem replay_of_wrote (hw : w i = .ok (path, body)) (t : FileTree) (before after : List Mark) :
    p.replay w t (before ++ .wrote i :: after) =
      p.replay w (p.save (p.replay w t before) path body).1 after := by
  rw [replay_append, ← record_wrote hw]
  rfl

/-! Writing again. -/

/-- Whether files have what a save has left: everything that was there after it, and what it has put
into its file. -/
structure Retains (p : Plan) (t : FileTree) (path : Path) (body : RawText) (u : FileTree) :
    Prop where
  grows : Grows (p.save t path body).1 u
  read : ∀ text, p.inscribed body = .ok text → (t.write path text).2 = none →
    u.read path = .ok (.text text)

/-- Saving the same once more changes nothing, and fails if and only if it failed before. -/
theorem save_again (h : Retains p t path body u) : (p.save u path body).1.at? = u.at? ∧
    (p.save u path body).2.path? = (p.save t path body).2.path? := by
  obtain ⟨hgrows, hread⟩ := h
  cases ho : Address.override p.recorded p.override body with
  | error f =>
    rw [save_of_error ho, save_of_error ho]
    exact ⟨rfl, rfl⟩
  | ok content =>
    have hput := inscribed_of_ok ho
    rw [fst_save, hput] at hgrows
    obtain ⟨hat, hagain⟩ := FileTree.write_again hgrows (hread _ hput)
    rw [fst_save, hput, snd_save ho, snd_save ho]
    refine ⟨hat, ?_⟩
    cases ht : (t.write path (content.text?.getD [])).2 with
    | none => rw [hagain.2 ht]
    | some e =>
      have hu : (u.write path (content.text?.getD [])).2 ≠ none := fun hu => by
        simp [hagain.1 hu] at ht
      obtain ⟨e', he'⟩ := Option.ne_none_iff_exists'.1 hu
      rw [he']
      rfl

def Left (p : Plan) (w : Wish) (t : FileTree) (h : List Mark) (u : FileTree) : Prop :=
  ∀ i path body, .wrote i ∈ h → w i = .ok (path, body) → Retains p (p.found w t h i) path body u

theorem left_replay (hb : w.Below base) (hn : h.Nodup)
    (howner : ∀ j, .wrote j ∈ h → ∃ path body, w j = .ok (path, body) ∧ w.owner h path = some j) :
    Left p w t h (p.replay w t h) := by
  intro i path body hi hw
  obtain ⟨path', body', hw', ho⟩ := howner i hi
  obtain ⟨rfl, rfl⟩ : path = path' ∧ body = body' := by simpa [hw] using hw'
  constructor
  case grows =>
    obtain ⟨before, after, rfl⟩ := List.append_of_mem hi
    rw [found_of_nodup hn, replay_of_wrote hw]
    exact p.replay_grows w _ after
  case read =>
    exact fun text htext hnone => read_replay_of_inscribed hb hn hi howner hw htext hnone

theorem trace_again (hleft : Left p w t h u) {m : Mark} (hm : m ∈ h) :
    p.trace w u.at? m = u.at? := by
  rw [← at?_record]
  cases m with
  | ended i => rfl
  | wrote i =>
    cases hw : w i with
    | error e => simp only [record, hw]
    | ok f =>
      rw [record_wrote hw]
      exact (save_again (hleft i f.1 f.2 hm hw)).1

/-- Marks that are made again, in any order, change nothing. -/
theorem replay_again (hleft : Left p w t h u) (hsub : ∀ m ∈ h', m ∈ h) :
    (p.replay w u h').at? = u.at? := by
  rw [at?_replay]
  induction h' with
  | nil => rfl
  | cons m h' ih =>
    have hm := trace_again hleft (hsub m List.mem_cons_self)
    have hrest := ih fun k hk => hsub k (List.mem_cons_of_mem _ hk)
    rw [List.foldl_cons, hm, hrest]

theorem verdict_again (hleft : Left p w t h u) (hsub : ∀ m ∈ h', m ∈ h)
    (hsame : endings h' = endings h)
    (hwrites : ∀ path body, w i = .ok (path, body) → w.owner h path = some i → .wrote i ∈ h) :
    (p.verdict w u h' i).path? = (p.verdict w t h i).path? := by
  cases hw : w i with
  | error e => rw [verdict_of_error hw, verdict_of_error hw]
  | ok f =>
    obtain ⟨path, body⟩ := f
    have howner : w.owner h' path = w.owner h path := Wish.owner_congr hsame w path
    by_cases ho : w.owner h path = some i
    · have hfound : (p.found w u h' i).at? = u.at? :=
        replay_again hleft fun m hm => hsub m ((List.takeWhile_prefix _).subset hm)
      have hsave : (p.save (p.found w u h' i) path body).2 = (p.save u path body).2 := by
        rw [result_save, result_save, hfound]
      rw [verdict_of_owner hw ho, verdict_of_owner hw (howner.trans ho), hsave]
      exact (save_again (hleft i path body (hwrites path body hw ho) hw)).2
    · rw [verdict_of_ne hw ho, verdict_of_ne hw (howner ▸ ho)]

end Plan

theorem Result.isWritten_eq (r : Result) : r.isWritten = r.path?.isSome := by cases r <;> rfl

/-- What an outcome tells, its error apart: the unit, whether its file is written, and where. -/
def Outcome.facts (o : Outcome) : Text × Bool × Option Path :=
  (o.name, o.result.isWritten, o.result.path?)

namespace Export

variable {a : Conduct} {w v x : World} {c : Configuration} {p : Project} {l : Loaded}
  {units : List (Nat × Text)} {given : Option Format} {conduct : Format → Conduct}
  {schedule schedule' : List Nat → List Event}

/-- Whether an export that was run again has come to the same as before and has changed no file. -/
structure Repeats (first second : Ended) : Prop where
  calls : second.calls = first.calls
  entries : ∀ l, second.world.files.at? l = first.world.files.at? l
  error : ∀ e, first.result = .error e → second.result = .error e
  summary : ∀ s, first.result = .ok s → ∃ s', second.result = .ok s' ∧ s'.mode = s.mode ∧
    s'.skipped = s.skipped ∧ s'.outcomes.map Outcome.facts = s.outcomes.map Outcome.facts

/-- Whether an export has left what it was loaded from: the document of its project, and the code of
its format where that is a file. -/
structure Spares (w : World) (c : Configuration) (given : Option Format) (e : Ended) : Prop where
  project : Library.Unwritten w.files e.world.files (Path.ofText c.project)
  format : given = none → (Path.ofText c.format).isAbsolute = true → ∀ q,
    Library.codePath w.files (Path.ofText c.format) = .ok q →
      Library.Unwritten w.files e.world.files q

theorem registries_after (a : Conduct) (w : World) (c : Configuration) (p : Project)
    (schedule : List Nat → List Event) (units : List (Nat × Text)) :
    (emitAll a w c p schedule units).world.registries.update .freeze =
        w.registries.update .freeze ∧
      (emitAll a w c p schedule units).world.registries.current.loaded =
        w.registries.current.loaded := by
  cases units with
  | nil => exact ⟨rfl, rfl⟩
  | cons u us =>
    have hrun : (emitAll a w c p schedule (u :: us)).world.registries =
        (w.registries.update .freeze).update .thaw := by
      simp only [emitAll_cons, Run.registries_complete (frozen_start w _)]
      rfl
    rw [hrun, Registries.current_update, Registries.current_update, Registries.update_update,
      Registries.update_update]
    exact ⟨rfl, rfl⟩

theorem isRenewal_emitAll (hs : units.Sublist (p.units c.mode)) :
    Library.IsRenewal w.library w.files (emitAll a w c p schedule units).world.library
      (emitAll a w c p schedule units).world.files := by
  have hgrows := Plan.replay_grows (plan c p) (wish a w c p) w.files
    (chronicle a w c p schedule units)
  rw [← files_emitAll hs] at hgrows
  cases units with
  | nil => exact .refl _ _
  | cons u us =>
    rw [emitAll_cons] at hgrows ⊢
    exact Library.isRenewal_renewed _ hgrows

/-- What an export has left is enough to load the project and the format once more. -/
theorem spared_emitAll (h : Selects w c given v l units)
    (hspares : Spares w c given (emitAll a v c l.project schedule units)) :
    Spared w c given (emitAll a v c l.project schedule units).world := by
  have hrenewal : v.library.IsRenewal v.files (emitAll a v c l.project schedule units).world.library
      (emitAll a v c l.project schedule units).world.files := isRenewal_emitAll h.sublist
  rw [files_of_load h.load, (loadedFrom_load h.load).library] at hrenewal
  exact ⟨hrenewal, hspares.project, hspares.format⟩

/-- An export that has got to its units gets to the same units when it is run again. -/
theorem selects_again (h : Selects w c given v l units)
    (hspares : Spares w c given (emitAll a v c l.project schedule units)) :
    Selects (emitAll a v c l.project schedule units).world c given
      (emitAll a v c l.project schedule units).world l units := by
  refine ⟨load_of_spared h.load (spared_emitAll h hspares) fun reference hloaded => ?_, h.selected⟩
  have hsame := (registries_after a v c l.project schedule units).2
  rwa [Registry.isLoaded, hsame]

/-- The units of an export, exported again with their emissions ending in the same order. -/
theorem repeats_emitAll (hs : units.Sublist (p.units c.mode))
    (hx : x = (emitAll a w c p schedule units).world)
    (hsame : endings (chronicle a x c p schedule' units) =
      endings (chronicle a w c p schedule units)) :
    Repeats (emitAll a w c p schedule units) (emitAll a x c p schedule' units) := by
  have hfreeze : x.registries.update .freeze = w.registries.update .freeze := by
    rw [hx, (registries_after a w c p schedule units).1]
  have hwish : wish a x c p = wish a w c p := wish_congr hfreeze a c p
  have hfiles : x.files = (plan c p).replay (wish a w c p) w.files
      (chronicle a w c p schedule units) := by rw [hx, files_emitAll hs]
  have howner : ∀ j, .wrote j ∈ chronicle a w c p schedule units → ∃ path body,
      wish a w c p j = .ok (path, body) ∧
        (wish a w c p).owner (chronicle a w c p schedule units) path = some j :=
    fun j hj => ((wrote_iff hs schedule j).1 hj).2
  have hleft : Plan.Left (plan c p) (wish a w c p) w.files (chronicle a w c p schedule units)
      x.files := by
    rw [hfiles]
    exact Plan.left_replay (below_wish a w c p) (nodup_chronicle hs schedule) howner
  have hsub : ∀ m ∈ chronicle a x c p schedule' units, m ∈ chronicle a w c p schedule units := by
    intro m hm
    cases m with
    | ended i => exact (ended_iff hs schedule i).2 ((ended_iff hs schedule' i).1 hm)
    | wrote i =>
      obtain ⟨hi, path, body, hw, ho⟩ := (wrote_iff hs schedule' i).1 hm
      rw [hwish] at hw ho
      rw [Wish.owner_congr hsame] at ho
      exact (wrote_iff hs schedule i).2 ⟨hi, path, body, hw, ho⟩
  refine ⟨?_, ?_, ?_, ?_⟩
  · rw [calls_emitAll, calls_emitAll]
  · intro k
    rw [files_emitAll hs, hwish, Plan.replay_again hleft hsub, hx]
  · intro e he
    rw [result_emitAll hs] at he
    cases he
  · intro s hsum
    rw [result_emitAll hs] at hsum
    cases hsum
    refine ⟨_, result_emitAll hs, rfl, rfl, ?_⟩
    simp only [List.map_map]
    refine List.map_congr_left fun u hu => ?_
    have hverdict := Plan.verdict_again (i := u.1) hleft hsub hsame fun path body hw ho =>
      (wrote_iff hs schedule u.1).2 ⟨List.mem_map_of_mem hu, path, body, hw, ho⟩
    simp only [Function.comp_apply, Outcome.facts, Result.isWritten_eq, hwish, hverdict]

theorem Selects.completions (h : Selects w c given v l units) :
    Export.completions conduct w c given schedule =
      endings (chronicle (conduct l.format) v c l.project schedule units) := by
  simp only [Export.completions, h.load, h.selected]

theorem spared_of_loaded (h : LoadedFrom w v) : Spared w c given v := by
  have hsame : ∀ q, Library.Unwritten w.files v.files q := by
    intro q content hread
    rwa [h.files]
  refine ⟨?_, hsame _, fun _ _ q _ => hsame q⟩
  rw [h.library, h.files]
  exact .refl _ _

/-- Running an export again. If it has left the document of its project and the code of its format
as they were, the second export, with the emissions ending in the order of the first one, comes to
the same: the same error, or for each unit the same status and path; and it changes no file. The
order of the first one is what the same schedule gives rise to. -/
theorem rerun_alike (conduct : Format → Conduct) (schedule : List Nat → List Event)
    (hspares : Spares w c given (runBy conduct w c given schedule)) :
    completions conduct (runBy conduct w c given schedule).world c given schedule =
        completions conduct w c given schedule ∧
      ∀ schedule', completions conduct (runBy conduct w c given schedule).world c given schedule' =
          completions conduct w c given schedule →
        Repeats (runBy conduct w c given schedule)
          (runBy conduct (runBy conduct w c given schedule).world c given schedule') := by
  rcases runBy_cases conduct w c given schedule with
    ⟨v, err, hload, hrun⟩ | ⟨v, l, f, hload, hselected, hrun⟩ | ⟨v, l, units, h⟩
  · obtain ⟨u, hu⟩ := load_of_failed hload
    have hagain : ∀ schedule', runBy conduct v c given schedule' =
        { world := u, result := .error err } := by
      intro schedule'
      simp only [runBy, runWith, hu]
    rw [hrun]
    refine ⟨by simp only [completions, hload, hu], fun schedule' _ => ?_⟩
    rw [hagain]
    exact ⟨rfl, fun k => by rw [files_of_load hu], fun e he => he, fun _ hs => by cases hs⟩
  · have hu : load v c given = (v, .ok l) :=
      load_of_spared hload (spared_of_loaded (loadedFrom_load hload)) fun _ hr => hr
    have hagain : ∀ schedule', runBy conduct v c given schedule' =
        { world := v, result := .error (.escaped f) } := by
      intro schedule'
      simp only [runBy, runWith, hu, hselected]
    rw [hrun]
    refine ⟨by simp only [completions, hload, hu, hselected], fun schedule' _ => ?_⟩
    rw [hagain]
    exact ⟨rfl, fun _ => rfl, fun e he => he, fun _ hs => by cases hs⟩
  · rw [h.runBy] at hspares ⊢
    have hx := selects_again h hspares
    have hfreeze := (registries_after (conduct l.format) v c l.project schedule units).1
    rw [hx.completions, h.completions]
    refine ⟨by rw [chronicle_congr hfreeze], fun schedule' hsame => ?_⟩
    rw [hx.completions] at hsame
    rw [hx.runBy]
    exact repeats_emitAll h.sublist rfl hsame

/-- Units that fail for each other's sake: of two that ask for one path the second fails, one whose
directory is the file of another fails, one fails because there is a directory in its place, and one
because there are no bytes for its text. -/
theorem rerun_alike_of_conflicts :
    let w := { Sample.world ["a", "b", "c", "d", "e", "g"] with
      files := ((Sample.world ["a", "b", "c", "d", "e", "g"]).files.put ["out".toList]
        .directory).put ["out".toList, ['d']] .directory }
    let c := Sample.configuration "/out" Sample.everything
    let format := Sample.format fun name =>
      if name = ['a'] ∨ name = ['b'] then Sample.file name "f"
      else if name = ['c'] then Sample.file name "f/x"
      else if name = ['g'] then .answers (.raw [.surrogate 0] (.text "g"))
      else Sample.file name name
    let schedule : List Nat → List Event := fun _ => [.resume 1, .write 1]
    let first := runBy byName w c (some format) schedule
    Spares w c (some format) first ∧
      (first.result.toOption.map fun s => s.outcomes.map (·.result.isWritten)) =
        some [false, true, false, false, true, false] ∧
      completions byName first.world c (some format) schedule =
        completions byName w c (some format) schedule ∧
      ∀ schedule', completions byName first.world c (some format) schedule' =
          completions byName w c (some format) schedule →
        Repeats first (runBy byName first.world c (some format) schedule') := by
  intro w c format schedule first
  have hread : (first.world.files.read (Path.ofText c.project)).toOption =
      (w.files.read (Path.ofText c.project)).toOption := by decide +kernel
  have hspares : Spares w c (some format) first := by
    refine ⟨fun content hc => ?_, nofun⟩
    rw [hc] at hread
    cases h : first.world.files.read (Path.ofText c.project) with
    | error e =>
      rw [h] at hread
      cases hread
    | ok content' =>
      rw [h] at hread
      cases hread
      rfl
  have hwritten : (first.result.toOption.map fun s => s.outcomes.map (·.result.isWritten)) =
      some [false, true, false, false, true, false] := by decide +kernel
  exact ⟨hspares, hwritten, rerun_alike byName schedule hspares⟩

/-- Two exports of which no written path is that of the project, but which come to another end when
they are run again. In the first the only unit is to write a text without bytes where the document
is, so that it fails and empties the document. In the second the unit writes where the code of the
format is. -/
theorem rerun_ends_otherwise :
    let w := Sample.world ["a"]
    let c := Sample.configuration "/" Sample.everything
    let emptying := Sample.format fun _ => .answers (.raw [.surrogate 0] (.text "p"))
    let overwriting := Sample.format fun name => Sample.file name "f.py"
    let first := runBy byName w c (some emptying) fun _ => []
    let second := runBy byName first.world c (some emptying) fun _ => []
    let w' : World := {
      files := w.files.put ["f.py".toList] (.file (.text []))
      library := { files := [(["f.py".toList], { members := Members.ofFormat overwriting })] } }
    let c' := { c with format := "/f.py" }
    let first' := runBy byName w' c' none fun _ => []
    let second' := runBy byName first'.world c' none fun _ => []
    ((first.result.toOption.map fun s => s.outcomes.map (·.result.path?)) = some [none] ∧
      second.result.isOk = false) ∧
    ((first'.result.toOption.map fun s => s.outcomes.map (·.result.path?)) =
        some [some (Path.ofText "/f.py")] ∧
      second'.result.isOk = false) := by
  decide +kernel

end Export

end TestScribe
