import TestScribe.Proofs.Export.Whole

/-!
The order of a run. Which emission ends when, and which file is written when, does not depend on
what the files hold: runs that are the same once the files and the results of the units that are
done are blanked out make the same marks (`chronicle_congr`). To whom a path belongs is settled by
the order in which emissions end alone (`owner_congr`).
-/

namespace TestScribe

def Mark.ended? : Mark → Option Nat
  | ended i => some i
  | wrote _ => none

/-- The units in the order in which their emissions end. -/
def endings (h : List Mark) : List Nat := h.filterMap Mark.ended?

theorem mem_endings {h : List Mark} {i : Nat} : i ∈ endings h ↔ .ended i ∈ h := by
  rw [endings, List.mem_filterMap]
  constructor
  · rintro ⟨m, hm, hi⟩
    cases m with
    | wrote j => cases hi
    | ended j =>
      cases hi
      exact hm
  · exact fun hm => ⟨_, hm, rfl⟩

theorem endings_append (h k : List Mark) : endings (h ++ k) = endings h ++ endings k :=
  List.filterMap_append

namespace Wish

theorem owner_eq_find? (w : Wish) (h : List Mark) (path : Path) :
    w.owner h path = (endings h).find? (w.asks path) := by
  induction h with
  | nil => rfl
  | cons m h ih =>
    have hcons := owner_append w [m] h path
    rw [List.singleton_append, ih] at hcons
    rw [hcons]
    cases m with
    | wrote i =>
      have hskip : endings (.wrote i :: h) = endings h := List.filterMap_cons_none rfl
      rw [owner_wrote, hskip, Option.none_or]
    | ended i =>
      have hhead : endings (.ended i :: h) = i :: endings h := List.filterMap_cons_some rfl
      rw [owner_ended, hhead, List.find?_cons]
      cases w.asks path i <;> simp

theorem owner_congr {h h' : List Mark} (he : endings h = endings h') (w : Wish)
    (path : Path) : w.owner h path = w.owner h' path := by
  rw [owner_eq_find?, he, owner_eq_find?]

end Wish

def Stage.blank : Stage → Stage
  | done _ => done (.written ⟨0, []⟩)
  | s => s

@[simp] theorem Stage.blank_blank (s : Stage) : s.blank.blank = s.blank := by cases s <;> rfl

def Task.blank (t : Task) : Task := { t with stage := t.stage.blank }

namespace Run

/-- A run in which the files are blanked out, and what has come of its units. -/
def blank (r : Run) : Run := { r with files := {}, tasks := r.tasks.map Task.blank }

variable {p : Plan} {r s : Run} {t : Task} {i : Nat}

@[simp] theorem blank_blank (r : Run) : r.blank.blank = r.blank := by
  simp only [blank, List.map_map]
  congr 2
  funext t
  simp [Task.blank]

@[simp] theorem blank_of_blank_tasks (files files' : FileTree) (g : Registries)
    (claimed : List Path) (r : Run) :
    blank ⟨files, g, claimed, r.blank.tasks⟩ = blank ⟨files', g, claimed, r.tasks⟩ := by
  have htasks := congrArg Run.tasks (blank_blank r)
  exact congrArg (fun tasks => (⟨{}, g, claimed, tasks⟩ : Run)) htasks

theorem ids_blank (r : Run) : r.blank.tasks.map (·.id) = r.tasks.map (·.id) := by
  simp only [blank, List.map_map]
  rfl

theorem task?_blank (r : Run) (i : Nat) : r.blank.task? i = (r.task? i).map Task.blank := by
  rw [task?, blank, List.find?_map]
  rfl

theorem blank_setStage (r : Run) (i : Nat) (s : Stage) :
    (r.setStage i s).blank = r.blank.setStage i s.blank := by
  simp only [blank, setStage, List.map_map]
  congr 2
  funext t
  by_cases ht : t.id = i <;> simp [Task.blank, ht]

theorem task?_blank_of_some (hi : r.task? i = some t) : r.blank.task? i = some t.blank := by
  rw [task?_blank, hi]
  rfl

theorem stage_blank_of_emitting {e : Emission} (he : t.stage = .emitting e) :
    t.blank.stage = .emitting e := by simp only [Task.blank, he, Stage.blank]

theorem stage_blank_of_writing {path : Path} {body : RawText} (hs : t.stage = .writing path body) :
    t.blank.stage = .writing path body := by simp only [Task.blank, hs, Stage.blank]

theorem Silent.blank (hs : r.Silent i) : r.blank.Silent i := by
  intro u hu e he
  rw [task?_blank, Option.map_eq_some_iff] at hu
  obtain ⟨t, ht, rfl⟩ := hu
  cases hst : t.stage with
  | emitting e' => exact hs t ht e' hst
  | writing path body => exact nomatch (stage_blank_of_writing hst).symm.trans he
  | done result => simp [Task.blank, hst, Stage.blank] at he

theorem Idle.blank (hs : r.Idle i) : r.blank.Idle i := by
  intro u hu path body hw
  rw [task?_blank, Option.map_eq_some_iff] at hu
  obtain ⟨t, ht, rfl⟩ := hu
  cases hst : t.stage with
  | emitting e => exact nomatch (stage_blank_of_emitting hst).symm.trans hw
  | writing path' body' => exact hs t ht path' body' hst
  | done result => simp [Task.blank, hst, Stage.blank] at hw

/-! What a run comes to, blanked out, can be told from the run blanked out. -/

theorem blank_settle (p : Plan) (r : Run) (t : Task) (e : Except UnitError Answer) :
    (settle p r t e).blank = (settle p r.blank t.blank e).blank := by
  have hid : t.blank.id = t.id := rfl
  cases he : target p t.name e with
  | error err =>
    have he' : target p t.blank.name e = .error err := he
    rw [settle_of_error he, settle_of_error he', hid, blank_setStage, blank_setStage,
      blank_blank]
  | ok q =>
    have he' : target p t.blank.name e = .ok q := he
    by_cases hc : q.1 ∈ r.claimed
    · have hc' : q.1 ∈ r.blank.claimed := hc
      rw [settle_of_taken he hc, settle_of_taken he' hc', hid, blank_setStage, blank_setStage,
        blank_blank]
    · have hc' : q.1 ∉ r.blank.claimed := hc
      rw [settle_of_free he hc, settle_of_free he' hc', hid, blank_setStage, blank_setStage,
        blank_of_blank_tasks _ r.files]
      rfl

theorem blank_resume (p : Plan) (r : Run) (i : Nat) :
    (r.resume p i).blank = (r.blank.resume p i).blank := by
  rcases r.emission_cases i with hs | ⟨t, e, g, hi, he, ⟨rest, ha⟩ | ⟨a, ha⟩⟩
  · rw [resume_of_silent hs, resume_of_silent hs.blank, blank_blank]
  · rw [resume_of_waiting hi he ha,
      resume_of_waiting (task?_blank_of_some hi) (stage_blank_of_emitting he) ha, blank_setStage,
      blank_setStage, blank_of_blank_tasks _ r.files]
    rfl
  · rw [resume_of_ended hi he ha,
      resume_of_ended (task?_blank_of_some hi) (stage_blank_of_emitting he) ha, blank_settle]
    rfl

theorem blank_drive (p : Plan) (r : Run) (i : Nat) :
    (r.drive p i).blank = (r.blank.drive p i).blank := by
  rcases r.emitting_or_silent i with ⟨t, e, hi, he⟩ | hs
  · rw [drive_of_emitting hi he,
      drive_of_emitting (task?_blank_of_some hi) (stage_blank_of_emitting he), blank_settle]
    rfl
  · rw [drive_of_silent hs, drive_of_silent hs.blank, blank_blank]

theorem blank_write (p : Plan) (r : Run) (i : Nat) :
    (r.write p i).blank = (r.blank.write p i).blank := by
  rcases r.writing_or_idle i with ⟨t, path, body, hi, hs⟩ | hs
  · rw [write_of_writing hi hs,
      write_of_writing (task?_blank_of_some hi) (stage_blank_of_writing hs), blank_setStage,
      blank_setStage, blank_of_blank_tasks _ r.files]
    rfl
  · rw [write_of_idle hs, write_of_idle hs.blank, blank_blank]

theorem resumeMarks_blank (r : Run) (i : Nat) : r.blank.resumeMarks i = r.resumeMarks i := by
  rcases r.emission_cases i with hs | ⟨t, e, g, hi, he, ⟨rest, ha⟩ | ⟨a, ha⟩⟩
  · rw [resumeMarks_of_silent hs, resumeMarks_of_silent hs.blank]
  · rw [resumeMarks_of_waiting hi he ha,
      resumeMarks_of_waiting (task?_blank_of_some hi) (stage_blank_of_emitting he) ha]
  · rw [resumeMarks_of_ended hi he ha,
      resumeMarks_of_ended (task?_blank_of_some hi) (stage_blank_of_emitting he) ha]

theorem driveMarks_blank (r : Run) (i : Nat) : r.blank.driveMarks i = r.driveMarks i := by
  rcases r.emitting_or_silent i with ⟨t, e, hi, he⟩ | hs
  · rw [driveMarks_of_emitting hi he,
      driveMarks_of_emitting (task?_blank_of_some hi) (stage_blank_of_emitting he)]
  · rw [driveMarks_of_silent hs, driveMarks_of_silent hs.blank]

theorem writeMarks_blank (r : Run) (i : Nat) : r.blank.writeMarks i = r.writeMarks i := by
  rcases r.writing_or_idle i with ⟨t, path, body, hi, hs⟩ | hs
  · rw [writeMarks_of_writing hi hs,
      writeMarks_of_writing (task?_blank_of_some hi) (stage_blank_of_writing hs)]
  · rw [writeMarks_of_idle hs, writeMarks_of_idle hs.blank]

/-! Two runs that look the same go on looking the same, and make the same marks. -/

theorem step_congr (h : r.blank = s.blank) (e : Event) :
    (r.step p e).blank = (s.step p e).blank ∧ r.marks e = s.marks e := by
  cases e with
  | resume i =>
    constructor
    · show (r.resume p i).blank = (s.resume p i).blank
      rw [blank_resume, h, ← blank_resume]
    · show r.resumeMarks i = s.resumeMarks i
      rw [← resumeMarks_blank, h, resumeMarks_blank]
  | write i =>
    constructor
    · show (r.write p i).blank = (s.write p i).blank
      rw [blank_write, h, ← blank_write]
    · show r.writeMarks i = s.writeMarks i
      rw [← writeMarks_blank, h, writeMarks_blank]

theorem finish_congr (h : r.blank = s.blank) (i : Nat) :
    (r.finish p i).blank = (s.finish p i).blank ∧ r.finishMarks p i = s.finishMarks p i := by
  have hdrive : (r.drive p i).blank = (s.drive p i).blank := by
    rw [blank_drive, h, ← blank_drive]
  have hmarks : r.driveMarks i = s.driveMarks i := by
    rw [← driveMarks_blank, h, driveMarks_blank]
  have hwrite : (r.drive p i).writeMarks i = (s.drive p i).writeMarks i := by
    rw [← writeMarks_blank, hdrive, writeMarks_blank]
  refine ⟨?_, by rw [finishMarks, finishMarks, hmarks, hwrite]⟩
  rw [finish, blank_write, hdrive, ← blank_write, finish]

theorem history_congr (h : r.blank = s.blank) (es : List Event) :
    (es.foldl (step p) r).blank = (es.foldl (step p) s).blank ∧
      history p es r = history p es s := by
  induction es generalizing r s with
  | nil => exact ⟨h, rfl⟩
  | cons e es ih =>
    obtain ⟨hstep, hmarks⟩ := step_congr (p := p) h e
    obtain ⟨hrest, hhistory⟩ := ih hstep
    exact ⟨hrest, by rw [history, history, hmarks, hhistory]⟩

theorem closing_congr (h : r.blank = s.blank) (is : List Nat) :
    closing p is r = closing p is s := by
  induction is generalizing r s with
  | nil => rfl
  | cons i is ih =>
    obtain ⟨hfinish, hmarks⟩ := finish_congr (p := p) h i
    rw [closing, closing, hmarks, ih hfinish]

theorem chronicle_congr (h : r.blank = s.blank) (schedule : List Event) :
    r.chronicle p schedule = s.chronicle p schedule := by
  obtain ⟨hrun, hhistory⟩ := history_congr (p := p) h schedule
  have hids : r.tasks.map (·.id) = s.tasks.map (·.id) := by rw [← ids_blank, h, ids_blank]
  rw [chronicle, chronicle, hhistory, hids, closing_congr hrun]

end Run

namespace Export

variable {a : Conduct} {w v : World} {c : Configuration} {p : Project} {units : List (Nat × Text)}

theorem wish_congr (h : v.registries.update .freeze = w.registries.update .freeze) (a : Conduct)
    (c : Configuration) (p : Project) : wish a v c p = wish a w c p := by
  funext i
  rw [wish, h, wish]

/-- In worlds that differ in their files only, an export makes the same marks. -/
theorem chronicle_congr (h : v.registries.update .freeze = w.registries.update .freeze)
    (a : Conduct) (c : Configuration) (p : Project) (schedule : List Nat → List Event)
    (units : List (Nat × Text)) :
    chronicle a v c p schedule units = chronicle a w c p schedule units := by
  refine Run.chronicle_congr ?_ _
  rw [start, start, h]
  rfl

/-- The units whose emissions an export has driven, in the order in which these have ended. -/
def completions (conduct : Format → Conduct) (w : World) (c : Configuration)
    (given : Option Format) (schedule : List Nat → List Event) : List Nat :=
  match load w c given with
  | (_, .error _) => []
  | (v, .ok l) =>
    match selected c l.project with
    | .error _ => []
    | .ok units => endings (chronicle (conduct l.format) v c l.project schedule units)

end Export

end TestScribe
