import TestScribe.Proofs.Export.Words

/-!
Units that fail before they write leave no trace. A run without them goes the same way, event by
event, as the run with them: they take no path, change no registry and write no file, so what the
rest comes to and what the files hold is the same (`complete_without`).
-/

namespace TestScribe

def Event.unit : Event → Nat
  | resume i => i
  | write i => i

namespace Run

def without (r : Run) (E : List Nat) : Run := { r with tasks := r.tasks.filter fun t => t.id ∉ E }

def eventsWithout (E : List Nat) (es : List Event) : List Event := es.filter fun e => e.unit ∉ E

def marksWithout (E : List Nat) (ms : List Mark) : List Mark := ms.filter fun m => m.unit ∉ E

variable {p : Plan} {w : Wish} {r : Run} {h : List Mark} {f : FileTree} {i : Nat} {E : List Nat}
  {s : Stage} {t : Task}

/-- Units that ask for no file. -/
def Fails (w : Wish) (E : List Nat) : Prop := ∀ i ∈ E, ∃ e, w i = .error e

theorem fails_singleton (h : (w i).isOk = false) : Fails w [i] := by
  intro j hj
  obtain rfl : j = i := by simpa using hj
  exact Except.exists_of_isOk_eq_false h

@[simp] theorem marksWithout_append (E : List Nat) (a b : List Mark) :
    marksWithout E (a ++ b) = marksWithout E a ++ marksWithout E b := List.filter_append ..

theorem marksWithout_of_mem (hi : i ∈ E) {ms : List Mark} (hm : ∀ m ∈ ms, m.unit = i) :
    marksWithout E ms = [] := by
  rw [marksWithout, List.filter_eq_nil_iff]
  intro m hmem
  simp [hm m hmem, hi]

theorem marksWithout_of_not_mem (hi : i ∉ E) {ms : List Mark} (hm : ∀ m ∈ ms, m.unit = i) :
    marksWithout E ms = ms := by
  rw [marksWithout, List.filter_eq_self]
  intro m hmem
  simp [hm m hmem, hi]

@[simp] theorem files_without (r : Run) (E : List Nat) : (r.without E).files = r.files := rfl
@[simp] theorem registries_without (r : Run) (E : List Nat) :
    (r.without E).registries = r.registries := rfl

theorem task?_without (hi : i ∉ E) : (r.without E).task? i = r.task? i := by
  unfold task? without
  rw [List.find?_filter]
  congr 1
  funext t
  by_cases ht : t.id = i
  · simp [ht, hi]
  · simp [ht]

theorem setStage_without (r : Run) (E : List Nat) (i : Nat) (s : Stage) :
    (r.setStage i s).without E = (r.without E).setStage i s := by
  simp only [without, setStage, List.filter_map]
  congr 3
  funext t
  by_cases ht : t.id = i <;> simp [ht]

theorem setStage_without_of_mem (hi : i ∈ E) : (r.setStage i s).without E = r.without E := by
  rw [setStage_without]
  have key : ∀ t ∈ (r.without E).tasks, (if t.id = i then { t with stage := s } else t) = t := by
    intro t ht
    have hne : t.id ≠ i := by
      rintro rfl
      simp [without, hi] at ht
    rw [if_neg hne]
  rw [setStage, List.map_congr_left key, List.map_id']

theorem settle_without (p : Plan) (r : Run) (E : List Nat) (t : Task)
    (e : Except UnitError Answer) : (settle p r t e).without E = settle p (r.without E) t e := by
  cases he : target p t.name e with
  | error err => rw [settle_of_error he, settle_of_error he, setStage_without]
  | ok q =>
    by_cases hc : q.1 ∈ r.claimed
    · have hc' : q.1 ∈ (r.without E).claimed := hc
      rw [settle_of_taken he hc, settle_of_taken he hc', setStage_without]
    · have hc' : q.1 ∉ (r.without E).claimed := hc
      rw [settle_of_free he hc, settle_of_free he hc', setStage_without]
      rfl

/-! Events of other units. -/

theorem resume_without (hi : i ∉ E) : (r.resume p i).without E = (r.without E).resume p i := by
  unfold Run.resume
  rw [task?_without hi, registries_without]
  split
  · split
    · split
      · exact setStage_without ..
      · exact settle_without ..
    · rfl
  · rfl

theorem write_without (hi : i ∉ E) : (r.write p i).without E = (r.without E).write p i := by
  unfold Run.write
  rw [task?_without hi, files_without]
  split
  · split
    · exact setStage_without ..
    · rfl
  · rfl

theorem drive_without (hi : i ∉ E) : (r.drive p i).without E = (r.without E).drive p i := by
  unfold Run.drive
  rw [task?_without hi, registries_without]
  split
  · split
    · exact settle_without ..
    · rfl
  · rfl

/-! Events of the units that are left out. -/

theorem of_fails (ht : Tells p w f h r) (hE : Fails w E) (hi : i ∈ E) (htask : r.task? i = some t) :
    (∀ path body, t.stage ≠ .writing path body) ∧
      ∀ e, t.stage = .emitting e →
        ∃ err, target p t.name (e.drive r.registries).2 = .error err := by
  obtain ⟨hmem, rfl⟩ := of_task? htask
  obtain ⟨err, hw⟩ := hE _ hi
  have hs := ht.stands t hmem
  constructor
  · intro path body hstage
    simp only [Stands, hstage, hw] at hs
    cases hs.2.2.1
  · intro e hstage
    simp only [Stands, hstage, hw] at hs
    exact ⟨err, hs.2.2⟩

/-- A task that asks for no file only fails. -/
theorem settle_without_of_fails {e : Except UnitError Answer} {err : UnitError} (hi : t.id ∈ E)
    (he : target p t.name e = .error err) : (settle p r t e).without E = r.without E := by
  rw [settle_of_error he]
  exact setStage_without_of_mem hi

theorem resume_without_of_mem (ht : Tells p w f h r) (hE : Fails w E) (hi : i ∈ E) :
    (r.resume p i).without E = r.without E := by
  rcases r.emission_cases i with hs | ⟨t, e, g, htask, he, hstep⟩
  · rw [resume_of_silent hs]
  · obtain ⟨err, herr⟩ := (of_fails ht hE hi htask).2 e he
    obtain ⟨-, rfl⟩ := of_task? htask
    have hg := e.advance_of_frozen ht.frozen
    rcases hstep with ⟨rest, ha⟩ | ⟨a, ha⟩
    · obtain rfl : g = r.registries := by simpa [ha] using hg
      rw [resume_of_waiting htask he ha]
      exact setStage_without_of_mem hi
    · obtain rfl : g = r.registries := by simpa [ha] using hg
      rw [Emission.drive_of_ended ha] at herr
      rw [resume_of_ended htask he ha]
      exact settle_without_of_fails hi herr

theorem drive_without_of_mem (ht : Tells p w f h r) (hE : Fails w E) (hi : i ∈ E) :
    (r.drive p i).without E = r.without E := by
  rcases r.emitting_or_silent i with ⟨t, e, htask, he⟩ | hs
  · obtain ⟨err, herr⟩ := (of_fails ht hE hi htask).2 e he
    obtain ⟨-, rfl⟩ := of_task? htask
    rw [drive_of_emitting htask he, e.drive_of_frozen ht.frozen]
    exact settle_without_of_fails hi herr
  · rw [drive_of_silent hs]

theorem write_without_of_mem (ht : Tells p w f h r) (hE : Fails w E) (hi : i ∈ E) :
    (r.write p i).without E = r.without E := by
  have hidle : r.Idle i := fun t htask => (of_fails ht hE hi htask).1
  rw [write_of_idle hidle]

/-! The marks of both. -/

theorem unit_of_resumeMarks {m : Mark} (hm : m ∈ r.resumeMarks i) : m.unit = i := by
  rcases r.emission_cases i with hs | ⟨t, e, g, hi, he, ⟨rest, ha⟩ | ⟨a, ha⟩⟩
  · rw [resumeMarks_of_silent hs] at hm
    cases hm
  · rw [resumeMarks_of_waiting hi he ha] at hm
    cases hm
  · rw [resumeMarks_of_ended hi he ha, List.mem_singleton] at hm
    rw [hm, Mark.unit]

theorem unit_of_writeMarks {m : Mark} (hm : m ∈ r.writeMarks i) : m.unit = i := by
  rcases r.writing_or_idle i with ⟨t, path, body, hi, hs⟩ | hs
  · rw [writeMarks_of_writing hi hs, List.mem_singleton] at hm
    rw [hm, Mark.unit]
  · rw [writeMarks_of_idle hs] at hm
    cases hm

theorem unit_of_driveMarks {m : Mark} (hm : m ∈ r.driveMarks i) : m.unit = i := by
  rcases r.emitting_or_silent i with ⟨t, e, hi, he⟩ | hs
  · rw [driveMarks_of_emitting hi he, List.mem_singleton] at hm
    rw [hm, Mark.unit]
  · rw [driveMarks_of_silent hs] at hm
    cases hm

theorem resumeMarks_without (hi : i ∉ E) : (r.without E).resumeMarks i = r.resumeMarks i := by
  unfold resumeMarks
  rw [task?_without hi, registries_without]

theorem writeMarks_without (hi : i ∉ E) : (r.without E).writeMarks i = r.writeMarks i := by
  unfold writeMarks
  rw [task?_without hi]

theorem driveMarks_without (hi : i ∉ E) : (r.without E).driveMarks i = r.driveMarks i := by
  unfold driveMarks
  rw [task?_without hi]

/-! One event, and one task that finishes. -/

theorem unit_of_marks {e : Event} {m : Mark} (hm : m ∈ r.marks e) : m.unit = e.unit := by
  cases e with
  | resume i => exact unit_of_resumeMarks hm
  | write i => exact unit_of_writeMarks hm

theorem step_without {e : Event} (he : e.unit ∉ E) :
    (r.step p e).without E = (r.without E).step p e ∧
      marksWithout E (r.marks e) = (r.without E).marks e := by
  rw [marksWithout_of_not_mem he fun m => unit_of_marks]
  cases e with
  | resume i => exact ⟨resume_without he, (resumeMarks_without he).symm⟩
  | write i => exact ⟨write_without he, (writeMarks_without he).symm⟩

theorem step_without_of_mem (ht : Tells p w f h r) (hE : Fails w E) {e : Event} (he : e.unit ∈ E) :
    (r.step p e).without E = r.without E ∧ marksWithout E (r.marks e) = [] := by
  refine ⟨?_, marksWithout_of_mem he fun m => unit_of_marks⟩
  cases e with
  | resume i => exact resume_without_of_mem ht hE he
  | write i => exact write_without_of_mem ht hE he

theorem unit_of_finishMarks {m : Mark} (hm : m ∈ r.finishMarks p i) : m.unit = i := by
  rcases List.mem_append.1 hm with hm | hm
  · exact unit_of_driveMarks hm
  · exact unit_of_writeMarks hm

theorem finish_without (hi : i ∉ E) :
    (r.finish p i).without E = (r.without E).finish p i ∧
      marksWithout E (r.finishMarks p i) = (r.without E).finishMarks p i := by
  rw [marksWithout_of_not_mem hi fun m => unit_of_finishMarks]
  unfold finish finishMarks
  rw [write_without hi, ← drive_without hi, driveMarks_without hi, writeMarks_without hi]
  exact ⟨rfl, rfl⟩

theorem finish_without_of_mem (ht : Tells p w f h r) (hE : Fails w E) (hi : i ∈ E) :
    (r.finish p i).without E = r.without E ∧ marksWithout E (r.finishMarks p i) = [] := by
  refine ⟨?_, marksWithout_of_mem hi fun m => unit_of_finishMarks⟩
  unfold finish
  rw [write_without_of_mem (ht.drive i) hE hi, drive_without_of_mem ht hE hi]

/-! Whole runs. -/

theorem schedule_without (ht : Tells p w f h r) (hE : Fails w E) (es : List Event) :
    (es.foldl (step p) r).without E = (eventsWithout E es).foldl (step p) (r.without E) ∧
      marksWithout E (history p es r) = history p (eventsWithout E es) (r.without E) := by
  induction es generalizing h r with
  | nil => exact ⟨rfl, rfl⟩
  | cons e es ih =>
    obtain ⟨hrun, hmarks⟩ := ih (ht.step e)
    rw [List.foldl_cons, history, marksWithout_append, hrun, hmarks]
    by_cases he : e.unit ∈ E
    · obtain ⟨hstep, hnone⟩ := step_without_of_mem ht hE he
      have hskip : eventsWithout E (e :: es) = eventsWithout E es := by simp [eventsWithout, he]
      rw [hstep, hnone, hskip]
      exact ⟨rfl, rfl⟩
    · obtain ⟨hstep, hsame⟩ := step_without (p := p) (r := r) he
      have hkeep : eventsWithout E (e :: es) = e :: eventsWithout E es := by
        simp [eventsWithout, he]
      rw [hstep, hsame, hkeep]
      exact ⟨rfl, rfl⟩

theorem closing_without (ht : Tells p w f h r) (hE : Fails w E) (is : List Nat) :
    (is.foldl (finish p) r).without E = (is.filter (· ∉ E)).foldl (finish p) (r.without E) ∧
      marksWithout E (closing p is r) = closing p (is.filter (· ∉ E)) (r.without E) := by
  induction is generalizing h r with
  | nil => exact ⟨rfl, rfl⟩
  | cons i is ih =>
    obtain ⟨hrun, hmarks⟩ := ih (ht.finish i)
    rw [List.foldl_cons, closing, marksWithout_append, hrun, hmarks]
    by_cases hi : i ∈ E
    · obtain ⟨hstep, hnone⟩ := finish_without_of_mem ht hE hi
      rw [hstep, hnone, List.filter_cons_of_neg (by simpa using hi)]
      exact ⟨rfl, rfl⟩
    · obtain ⟨hstep, hsame⟩ := finish_without (p := p) (r := r) hi
      rw [hstep, hsame, List.filter_cons_of_pos (by simpa using hi)]
      exact ⟨rfl, rfl⟩

theorem ids_without (r : Run) (E : List Nat) :
    (r.without E).tasks.map (·.id) = (r.tasks.map (·.id)).filter (· ∉ E) := by
  rw [List.filter_map]
  rfl

/-- A run without some units that fail is the same run with these units taken out, mark by mark. -/
theorem complete_without (hb : Begins p w r) (hE : Fails w E) (schedule : List Event) :
    (r.complete p schedule).without E = (r.without E).complete p (eventsWithout E schedule) ∧
      marksWithout E (r.chronicle p schedule) =
        (r.without E).chronicle p (eventsWithout E schedule) := by
  have ht := hb.tells
  obtain ⟨hrun, hmarks⟩ := schedule_without ht hE schedule
  obtain ⟨hrun', hmarks'⟩ := closing_without (ht.history schedule) hE (r.tasks.map (·.id))
  unfold complete chronicle
  rw [hrun', hrun, marksWithout_append, hmarks, hmarks', hrun, ids_without]
  exact ⟨rfl, rfl⟩

theorem Begins.without (hb : Begins p w r) (E : List Nat) : Begins p w (r.without E) where
  frozen := hb.frozen
  claimed := hb.claimed
  distinct := by
    rw [ids_without]
    exact hb.distinct.filter _
  emitting := fun t ht => hb.emitting t (List.mem_filter.1 ht).1

theorem units_without (r : Run) (E : List Nat) :
    (r.without E).units = r.units.filter fun u => u.1 ∉ E := by
  unfold units without
  rw [List.filter_map]
  rfl

theorem outcomes_without (hb : Begins p w r) (E : List Nat) (schedule : List Event) :
    ((r.complete p schedule).without E).outcomes = (r.without E).units.map fun u =>
      ⟨u.2, p.verdict w r.files (r.chronicle p schedule) u.1⟩ := by
  have key : ∀ t ∈ ((r.complete p schedule).without E).tasks, t.outcome? =
      some ⟨t.name, p.verdict w r.files (r.chronicle p schedule) t.id⟩ :=
    fun t ht => outcome?_complete hb schedule (List.mem_filter.1 ht).1
  rw [units_without, ← units_complete p schedule, ← units_without, units, List.map_map, outcomes,
    List.filterMap_congr key, ← List.filterMap_eq_map]
  rfl

theorem verdicts_without (hb : Begins p w r) (hE : Fails w E) (schedule : List Event) :
    ((r.without E).units.map fun u => (⟨u.2, p.verdict w r.files
        (marksWithout E (r.chronicle p schedule)) u.1⟩ : Outcome)) =
      (r.without E).units.map fun u =>
        ⟨u.2, p.verdict w r.files (r.chronicle p schedule) u.1⟩ := by
  obtain ⟨hrun, hmarks⟩ := complete_without hb hE schedule
  rw [← outcomes_without hb E schedule, hrun, outcomes_complete (hb.without E), hmarks]
  rfl

theorem replay_without (hb : Begins p w r) (hE : Fails w E) (schedule : List Event) :
    p.replay w r.files (marksWithout E (r.chronicle p schedule)) =
      p.replay w r.files (r.chronicle p schedule) := by
  obtain ⟨hrun, hmarks⟩ := complete_without hb hE schedule
  have hfiles : (r.complete p schedule).files = ((r.complete p schedule).without E).files := rfl
  rw [hmarks, ← files_complete hb schedule, hfiles, hrun, files_complete (hb.without E)]
  rfl

end Run

namespace Export

variable {a : Conduct} {w v : World} {c : Configuration} {p : Project} {l : Loaded}
  {units : List (Nat × Text)} {given : Option Format} {E : List Nat}

theorem start_without (a : Conduct) (w : World) (m : Mode) (p : Project)
    (units : List (Nat × Text)) (E : List Nat) :
    (start w (issue a m p units).2).without E =
      start w (issue a m p (units.filter fun u => u.1 ∉ E)).2 := by
  simp only [issue_eq, start, Run.without, List.filter_map]
  rfl

/-- The order of the rest is one that a schedule gives rise to: the one without the events of the
units that fail. -/
theorem chronicle_without (hs : units.Sublist (p.units c.mode)) (hE : Run.Fails (wish a w c p) E)
    (schedule : List Nat → List Event) :
    chronicle a w c p (fun _ => Run.eventsWithout E (schedule (units.map Prod.fst)))
        (units.filter fun u => u.1 ∉ E) =
      Run.marksWithout E (chronicle a w c p schedule units) := by
  unfold chronicle
  rw [(Run.complete_without (begins a w c p hs) hE _).2, start_without]

theorem zip_map_filter {f g : Nat × Text → Outcome} (keep : Nat × Text → Bool)
    (h : (units.filter keep).map f = (units.filter keep).map g) :
    (units.filter keep).zip ((units.filter keep).map f) =
      (units.zip (units.map g)).filter fun x => keep x.1 := by
  have hzip : ∀ us : List (Nat × Text), us.zip (us.map g) = us.map fun u => (u, g u) := by
    intro us
    induction us with
    | nil => rfl
    | cons u us ih => rw [List.map_cons, List.zip_cons_cons, ih, List.map_cons]
  rw [h, hzip, hzip, List.filter_map]
  rfl

/-- Isolation over two runs, while failures can be put into words: a run without units that fail
before they write, the order of the rest being the same, comes to the same for the rest and leaves
the same files. A failure without words puts an end to the whole run. -/
theorem failing_units_leave_no_trace (mute : Mute) (conduct : Format → Conduct)
    (schedule : List Nat → List Event) (h : Selects w c given v l units)
    (hE : ∀ i ∈ E, ∃ e, wish (conduct l.format) v c l.project i = .error e) :
    (¬ (wish (conduct l.format) v c l.project).Worded mute (units.map Prod.fst) →
      ∃ f, (runWith mute conduct w c given schedule).result = .error (.escaped f)) ∧
    ((wish (conduct l.format) v c l.project).Worded mute (units.map Prod.fst) →
      ∃ s, (runWith mute conduct w c given schedule).result = .ok s ∧
      (∃ schedule', chronicle (conduct l.format) v c l.project schedule'
          (units.filter fun u => u.1 ∉ E) =
        Run.marksWithout E (chronicle (conduct l.format) v c l.project schedule units)) ∧
      ∀ schedule', chronicle (conduct l.format) v c l.project schedule'
          (units.filter fun u => u.1 ∉ E) =
        Run.marksWithout E (chronicle (conduct l.format) v c l.project schedule units) →
      ∃ s', (emitAllWith mute (conduct l.format) v c l.project schedule'
          (units.filter fun u => u.1 ∉ E)).result = .ok s' ∧
        (units.filter fun u => u.1 ∉ E).zip s'.outcomes =
          (units.zip s.outcomes).filter (fun x => x.1.1 ∉ E) ∧
        (emitAllWith mute (conduct l.format) v c l.project schedule'
            (units.filter fun u => u.1 ∉ E)).world.files =
          (runWith mute conduct w c given schedule).world.files) := by
  have hs := h.sublist
  have hrest : (units.filter fun u => u.1 ∉ E).Sublist (l.project.units c.mode) :=
    List.filter_sublist.trans hs
  constructor
  · intro hw
    rw [h.runWith]
    exact exists_error_of_not_worded hs hw
  · intro hw
    have hw' := hw.sublist (List.filter_sublist.map Prod.fst : List.Sublist
      ((units.filter fun u => u.1 ∉ E).map Prod.fst) _)
    have hb := begins (conduct l.format) v c l.project hs
    rw [h.runWith_eq hw, h.runBy, result_emitAll hs, files_emitAll hs]
    refine ⟨_, rfl, ⟨_, chronicle_without hs hE schedule⟩, fun schedule' horder => ?_⟩
    rw [emitAllWith_eq hrest hw', result_emitAll hrest, files_emitAll hrest, horder]
    refine ⟨_, rfl, ?_, Run.replay_without hb hE _⟩
    have hv := Run.verdicts_without hb hE (schedule (units.map Prod.fst))
    rw [Run.units_without, units_start] at hv
    exact zip_map_filter (fun u => u.1 ∉ E) hv

/-- Two units, of which the first is emitted to a place outside the directory. -/
theorem failing_unit_leaves_no_trace_of_two :
    let w := Sample.world ["a", "b"]
    let c := Sample.configuration "/out" Sample.everything
    let format := some (Sample.format fun name =>
      Sample.file name (if name = ['a'] then "../f" else "f"))
    let rest : List (Nat × Text) := [(1, ['b'])]
    ∃ v l units, Selects w c format v l units ∧
      (units.filter fun u => u.1 ∉ [0]) = rest ∧
      (∀ i ∈ [0], ∃ e, wish (byName l.format) v c l.project i = .error e) ∧
      (wish (byName l.format) v c l.project).Worded Sample.unworded (units.map Prod.fst) ∧
      (∃ s, (runWith Sample.unworded byName w c format fun _ => []).result = .ok s ∧
        (∃ schedule', chronicle (byName l.format) v c l.project schedule' rest =
          Run.marksWithout [0] (chronicle (byName l.format) v c l.project (fun _ => []) units)) ∧
        ∀ schedule', chronicle (byName l.format) v c l.project schedule' rest =
          Run.marksWithout [0] (chronicle (byName l.format) v c l.project (fun _ => []) units) →
        ∃ s', (emitAllWith Sample.unworded (byName l.format) v c l.project schedule'
            rest).result = .ok s' ∧
          rest.zip s'.outcomes = (units.zip s.outcomes).filter (fun x => x.1.1 ∉ [0]) ∧
          (emitAllWith Sample.unworded (byName l.format) v c l.project schedule'
              rest).world.files =
            (runWith Sample.unworded byName w c format fun _ => []).world.files) := by
  intro w c format rest
  have hsel : selectsAs w c format (fun v l units =>
      decide ((units.filter fun u => u.1 ∉ [0]) = rest ∧
        (wish (byName l.format) v c l.project 0).isOk = false ∧
        (wish (byName l.format) v c l.project).Worded Sample.unworded (units.map Prod.fst))) = true
      := by
    decide +kernel
  obtain ⟨v, l, units, h, hu⟩ := exists_selects hsel
  obtain ⟨hrest, hfails, hw⟩ := of_decide_eq_true hu
  have key := (failing_units_leave_no_trace Sample.unworded byName (fun _ => []) h
    (Run.fails_singleton hfails)).2 hw
  rw [hrest] at key
  exact ⟨v, l, units, h, hrest, Run.fails_singleton hfails, hw, key⟩

/-- Two units, of which the first fails without words before the second is done: the file that the
second leaves when it is alone is missing, and there are no outcomes. -/
theorem unworded_failure_leaves_traces :
    let w := Sample.world ["a", "b"]
    let c := Sample.configuration "/out" Sample.everything
    let format := some (Sample.format fun name =>
      if name = ['a'] then Sample.failing else .waits (Sample.file name name))
    let rest : List (Nat × Text) := [(1, ['b'])]
    ∃ v l units, Selects w c format v l units ∧
      (units.filter fun u => u.1 ∉ [0]) = rest ∧
      (∀ i ∈ [0], ∃ e, wish (byName l.format) v c l.project i = .error e) ∧
      (runWith Sample.unworded byName w c format fun _ => [.resume 0]).result.isOk = false ∧
      (runWith Sample.unworded byName w c format fun _ => [.resume 0]).world.files.at?
        ["out".toList, ['b']] = none ∧
      (emitAllWith Sample.unworded (byName l.format) v c l.project (fun _ => [])
        rest).result.isOk = true ∧
      (emitAllWith Sample.unworded (byName l.format) v c l.project (fun _ => [])
        rest).world.files.at? ["out".toList, ['b']] = some (.file (.text "b")) := by
  intro w c format rest
  have hsel : selectsAs w c format (fun v l units =>
      decide ((units.filter fun u => u.1 ∉ [0]) = rest ∧
        (wish (byName l.format) v c l.project 0).isOk = false ∧
        (emitAllWith Sample.unworded (byName l.format) v c l.project (fun _ => [])
          rest).result.isOk = true ∧
        (emitAllWith Sample.unworded (byName l.format) v c l.project (fun _ => [])
          rest).world.files.at? ["out".toList, ['b']] = some (.file (.text "b")))) = true := by
    decide +kernel
  obtain ⟨v, l, units, h, hu⟩ := exists_selects hsel
  obtain ⟨hrest, hfails, hok, hthere⟩ := of_decide_eq_true hu
  exact ⟨v, l, units, h, hrest, Run.fails_singleton hfails, by decide +kernel, by decide +kernel,
    hok, hthere⟩

end Export

end TestScribe
