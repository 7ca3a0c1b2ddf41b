import Mathlib.Data.List.Nodup
import TestScribe.Proofs.Export.History

/-!
The steps of a run: what each of them comes to, by the stage of its task, and which marks it makes.
A step changes the stage of one task at most (`Moves`).
-/

namespace TestScribe

namespace Emission

theorem drive_of_waiting {e rest : Emission} {g g' : Registries}
    (h : e.advance g = (g', .waiting rest)) : e.drive g = rest.drive g' := by
  induction e generalizing g with
  | answers a => simp [advance] at h
  | fails a => simp [advance] at h
  | waits e _ =>
    simp only [advance, Prod.mk.injEq, Progress.waiting.injEq] at h
    obtain ⟨rfl, rfl⟩ := h
    rfl
  | consults next ih => exact ih g.shared h
  | registers name hook next ih =>
    simp only [advance] at h
    exact ih _ h

theorem drive_of_ended {e : Emission} {g g' : Registries} {a : Except UnitError Answer}
    (h : e.advance g = (g', .ended a)) : e.drive g = (g', a) := by
  induction e generalizing g with
  | answers _ =>
    simp only [advance, Prod.mk.injEq, Progress.ended.injEq] at h
    obtain ⟨rfl, rfl⟩ := h
    rfl
  | fails _ =>
    simp only [advance, Prod.mk.injEq, Progress.ended.injEq] at h
    obtain ⟨rfl, rfl⟩ := h
    rfl
  | waits e _ => simp [advance] at h
  | consults next ih => exact ih g.shared h
  | registers name hook next ih =>
    simp only [advance] at h
    exact ih _ h

end Emission

namespace Run

def resumeMarks (r : Run) (i : Nat) : List Mark :=
  match r.task? i with
  | some t =>
    match t.stage with
    | .emitting e =>
      match (e.advance r.registries).2 with
      | .waiting _ => []
      | .ended _ => [.ended i]
    | _ => []
  | none => []

def writeMarks (r : Run) (i : Nat) : List Mark :=
  match r.task? i with
  | some t =>
    match t.stage with
    | .writing _ _ => [.wrote i]
    | _ => []
  | none => []

def driveMarks (r : Run) (i : Nat) : List Mark :=
  match r.task? i with
  | some t =>
    match t.stage with
    | .emitting _ => [.ended i]
    | _ => []
  | none => []

def marks (r : Run) : Event → List Mark
  | .resume i => r.resumeMarks i
  | .write i => r.writeMarks i

def finishMarks (p : Plan) (r : Run) (i : Nat) : List Mark :=
  r.driveMarks i ++ (r.drive p i).writeMarks i

def history (p : Plan) : List Event → Run → List Mark
  | [], _ => []
  | e :: es, r => r.marks e ++ history p es (r.step p e)

def closing (p : Plan) : List Nat → Run → List Mark
  | [], _ => []
  | i :: is, r => r.finishMarks p i ++ closing p is (r.finish p i)

/-- The marks of a whole run. -/
def chronicle (p : Plan) (schedule : List Event) (r : Run) : List Mark :=
  history p schedule r ++ closing p (r.tasks.map (·.id)) (schedule.foldl (step p) r)

def units (r : Run) : List (Nat × Text) := r.tasks.map fun t => (t.id, t.name)

variable {p : Plan} {r : Run} {t u : Task} {i : Nat} {s : Stage}

@[simp] theorem units_setStage (r : Run) (i : Nat) (s : Stage) :
    (r.setStage i s).units = r.units := by
  simp only [units, setStage, List.map_map]
  refine List.map_congr_left fun t _ => ?_
  by_cases h : t.id = i <;> simp [h]

@[simp] theorem fst_units (r : Run) : r.units.map Prod.fst = r.tasks.map (·.id) := by
  simp only [units, List.map_map]
  rfl

theorem of_task? (ht : r.task? i = some t) : t ∈ r.tasks ∧ t.id = i := by
  unfold task? at ht
  exact ⟨List.mem_of_find?_eq_some ht, by simpa using List.find?_some ht⟩

theorem mem_setStage (hu : u ∈ (r.setStage i s).tasks) :
    u.id = i ∧ (∃ t ∈ r.tasks, t.id = i ∧ u = { t with stage := s }) ∨ u.id ≠ i ∧ u ∈ r.tasks := by
  obtain ⟨t, ht, rfl⟩ := List.mem_map.1 hu
  by_cases hi : t.id = i
  · exact .inl ⟨by simp [hi], t, ht, hi, by simp [hi]⟩
  · exact .inr ⟨by simp [hi], by simpa [hi] using ht⟩

theorem task?_ne_none (ht : t ∈ r.tasks) : r.task? t.id ≠ none := by
  intro hn
  rw [task?, List.find?_eq_none] at hn
  exact absurd (hn t ht) (by simp)

theorem task?_of_mem (hd : (r.tasks.map (·.id)).Nodup) (ht : t ∈ r.tasks) :
    r.task? t.id = some t := by
  cases hi : r.task? t.id with
  | none => exact absurd hi (task?_ne_none ht)
  | some u =>
    obtain ⟨hu, hid⟩ := of_task? hi
    rw [List.inj_on_of_nodup_map hd hu ht hid]

/-! What a step comes to, by the stage of its task. -/

def Silent (r : Run) (i : Nat) : Prop := ∀ t, r.task? i = some t → ∀ e, t.stage ≠ .emitting e

def Idle (r : Run) (i : Nat) : Prop :=
  ∀ t, r.task? i = some t → ∀ path body, t.stage ≠ .writing path body

theorem Silent.cases (hs : r.Silent i) : r.task? i = none ∨ ∃ t, r.task? i = some t ∧
    ((∃ path body, t.stage = .writing path body) ∨ ∃ result, t.stage = .done result) := by
  cases hi : r.task? i with
  | none => exact .inl rfl
  | some t =>
    refine .inr ⟨t, rfl, ?_⟩
    cases ht : t.stage with
    | emitting e => exact absurd ht (hs t hi e)
    | writing path body => exact .inl ⟨path, body, rfl⟩
    | done result => exact .inr ⟨result, rfl⟩

theorem Idle.cases (hs : r.Idle i) : r.task? i = none ∨ ∃ t, r.task? i = some t ∧
    ((∃ e, t.stage = .emitting e) ∨ ∃ result, t.stage = .done result) := by
  cases hi : r.task? i with
  | none => exact .inl rfl
  | some t =>
    refine .inr ⟨t, rfl, ?_⟩
    cases ht : t.stage with
    | emitting e => exact .inl ⟨e, rfl⟩
    | writing path body => exact absurd ht (hs t hi path body)
    | done result => exact .inr ⟨result, rfl⟩

theorem emitting_or_silent (r : Run) (i : Nat) :
    (∃ t e, r.task? i = some t ∧ t.stage = .emitting e) ∨ r.Silent i := by
  by_cases h : ∃ t e, r.task? i = some t ∧ t.stage = .emitting e
  · exact .inl h
  · exact .inr fun t ht e he => h ⟨t, e, ht, he⟩

theorem writing_or_idle (r : Run) (i : Nat) :
    (∃ t path body, r.task? i = some t ∧ t.stage = .writing path body) ∨ r.Idle i := by
  by_cases h : ∃ t path body, r.task? i = some t ∧ t.stage = .writing path body
  · exact .inl h
  · exact .inr fun t ht path body hs => h ⟨t, path, body, ht, hs⟩

theorem resume_of_silent (hs : r.Silent i) : r.resume p i = r := by
  rcases hs.cases with hn | ⟨t, hi, ⟨path, body, ht⟩ | ⟨result, ht⟩⟩
  · simp only [Run.resume, hn]
  · simp only [Run.resume, hi, ht]
  · simp only [Run.resume, hi, ht]

theorem resumeMarks_of_silent (hs : r.Silent i) : r.resumeMarks i = [] := by
  rcases hs.cases with hn | ⟨t, hi, ⟨path, body, ht⟩ | ⟨result, ht⟩⟩
  · simp only [resumeMarks, hn]
  · simp only [resumeMarks, hi, ht]
  · simp only [resumeMarks, hi, ht]

section Emitting

variable {e rest : Emission} {g : Registries} {a : Except UnitError Answer}
  (hi : r.task? i = some t) (he : t.stage = .emitting e)
include hi he

theorem resume_of_waiting (ha : e.advance r.registries = (g, .waiting rest)) :
    r.resume p i = { r with registries := g }.setStage i (.emitting rest) := by
  simp only [Run.resume, hi, he, ha]

theorem resumeMarks_of_waiting (ha : e.advance r.registries = (g, .waiting rest)) :
    r.resumeMarks i = [] := by simp only [resumeMarks, hi, he, ha]

theorem resume_of_ended (ha : e.advance r.registries = (g, .ended a)) :
    r.resume p i = settle p { r with registries := g } t a := by
  simp only [Run.resume, hi, he, ha]

theorem resumeMarks_of_ended (ha : e.advance r.registries = (g, .ended a)) :
    r.resumeMarks i = [.ended i] := by simp only [resumeMarks, hi, he, ha]

theorem drive_of_emitting : r.drive p i =
    settle p { r with registries := (e.drive r.registries).1 } t (e.drive r.registries).2 := by
  simp only [Run.drive, hi, he]

theorem driveMarks_of_emitting : r.driveMarks i = [.ended i] := by simp only [driveMarks, hi, he]

end Emitting

theorem drive_of_silent (hs : r.Silent i) : r.drive p i = r := by
  rcases hs.cases with hn | ⟨t, hi, ⟨path, body, ht⟩ | ⟨result, ht⟩⟩
  · simp only [Run.drive, hn]
  · simp only [Run.drive, hi, ht]
  · simp only [Run.drive, hi, ht]

theorem driveMarks_of_silent (hs : r.Silent i) : r.driveMarks i = [] := by
  rcases hs.cases with hn | ⟨t, hi, ⟨path, body, ht⟩ | ⟨result, ht⟩⟩
  · simp only [driveMarks, hn]
  · simp only [driveMarks, hi, ht]
  · simp only [driveMarks, hi, ht]

theorem write_of_writing {path : Path} {body : RawText} (hi : r.task? i = some t)
    (ht : t.stage = .writing path body) :
    r.write p i = { r with files := (p.save r.files path body).1 }.setStage i
      (.done (p.save r.files path body).2) := by
  simp only [Run.write, hi, ht]

theorem writeMarks_of_writing {path : Path} {body : RawText} (hi : r.task? i = some t)
    (ht : t.stage = .writing path body) : r.writeMarks i = [.wrote i] := by
  simp only [writeMarks, hi, ht]

theorem write_of_idle (hs : r.Idle i) : r.write p i = r := by
  rcases hs.cases with hn | ⟨t, hi, ⟨e, ht⟩ | ⟨result, ht⟩⟩
  · simp only [Run.write, hn]
  · simp only [Run.write, hi, ht]
  · simp only [Run.write, hi, ht]

theorem writeMarks_of_idle (hs : r.Idle i) : r.writeMarks i = [] := by
  rcases hs.cases with hn | ⟨t, hi, ⟨e, ht⟩ | ⟨result, ht⟩⟩
  · simp only [writeMarks, hn]
  · simp only [writeMarks, hi, ht]
  · simp only [writeMarks, hi, ht]

theorem emission_cases (r : Run) (i : Nat) : r.Silent i ∨
    ∃ t e g, r.task? i = some t ∧ t.stage = .emitting e ∧
      ((∃ rest, e.advance r.registries = (g, .waiting rest)) ∨
        ∃ a, e.advance r.registries = (g, .ended a)) := by
  rcases r.emitting_or_silent i with ⟨t, e, hi, he⟩ | hs
  · refine .inr ⟨t, e, (e.advance r.registries).1, hi, he, ?_⟩
    rcases e.advance r.registries with ⟨g, rest | a⟩
    · exact .inl ⟨rest, rfl⟩
    · exact .inr ⟨a, rfl⟩
  · exact .inl hs

theorem settle_of_error {e : Except UnitError Answer} {err : UnitError}
    (he : target p t.name e = .error err) :
    settle p r t e = r.setStage t.id (.done (.failed err)) := by simp only [settle, he]

theorem settle_of_taken {e : Except UnitError Answer} {path : Path} {body : RawText}
    (he : target p t.name e = .ok (path, body)) (hc : path ∈ r.claimed) :
    settle p r t e = r.setStage t.id (.done (.failed (.emission (.claimed path)))) := by
  simp only [settle, he, claim, if_pos hc]

theorem settle_of_free {e : Except UnitError Answer} {path : Path} {body : RawText}
    (he : target p t.name e = .ok (path, body)) (hc : path ∉ r.claimed) :
    settle p r t e =
      { r with claimed := path :: r.claimed }.setStage t.id (.writing path body) := by
  simp only [settle, he, claim, if_neg hc]

theorem settle_eq (p : Plan) (r : Run) (t : Task) (e : Except UnitError Answer) :
    ∃ claimed s, (∀ e, s ≠ .emitting e) ∧
      settle p r t e = { r with claimed }.setStage t.id s := by
  cases he : target p t.name e with
  | error err => exact ⟨r.claimed, .done _, by simp, settle_of_error he⟩
  | ok q =>
    by_cases hc : q.1 ∈ r.claimed
    · exact ⟨r.claimed, .done _, by simp, settle_of_taken he hc⟩
    · exact ⟨_, .writing _ _, by simp, settle_of_free he hc⟩

/-! What steps do to tasks. -/

/-- Whether nothing has become of the tasks except that one unit has come to another stage. -/
def Moves (r q : Run) (i : Nat) : Prop :=
  q.tasks = r.tasks ∨ ∃ s, q.tasks = (r.setStage i s).tasks

theorem Moves.units {q : Run} (hm : Moves r q i) : q.units = r.units := by
  rcases hm with h | ⟨s, h⟩
  · rw [Run.units, h, Run.units]
  · rw [Run.units, h, ← units_setStage r i s, Run.units]

theorem Moves.mem_of_ne {q : Run} (hm : Moves r q i) (hu : u ∈ q.tasks) (hne : u.id ≠ i) :
    u ∈ r.tasks := by
  rcases hm with h | ⟨s, h⟩
  · exact h ▸ hu
  · rw [h] at hu
    exact (mem_setStage hu).elim (fun hi => absurd hi.1 hne) And.right

theorem settle_moves (p : Plan) (r : Run) (t : Task) (e : Except UnitError Answer) :
    Moves r (settle p r t e) t.id := by
  obtain ⟨claimed, s, -, h⟩ := settle_eq p r t e
  rw [h]
  exact .inr ⟨s, rfl⟩

theorem resume_moves (p : Plan) (r : Run) (i : Nat) : Moves r (r.resume p i) i := by
  rcases r.emission_cases i with hs | ⟨t, e, g, hi, he, hstep⟩
  · exact .inl (by rw [resume_of_silent hs])
  · obtain ⟨-, rfl⟩ := of_task? hi
    rcases hstep with ⟨rest, ha⟩ | ⟨a, ha⟩
    · rw [resume_of_waiting hi he ha]
      exact .inr ⟨_, rfl⟩
    · rw [resume_of_ended hi he ha]
      exact settle_moves p { r with registries := g } t a

theorem drive_moves (p : Plan) (r : Run) (i : Nat) : Moves r (r.drive p i) i := by
  rcases r.emitting_or_silent i with ⟨t, e, hi, he⟩ | hs
  · obtain ⟨-, rfl⟩ := of_task? hi
    rw [drive_of_emitting hi he]
    exact settle_moves p { r with registries := (e.drive r.registries).1 } t _
  · exact .inl (by rw [drive_of_silent hs])

theorem write_moves (p : Plan) (r : Run) (i : Nat) : Moves r (r.write p i) i := by
  rcases r.writing_or_idle i with ⟨t, path, body, hi, hs⟩ | hs
  · rw [write_of_writing hi hs]
    exact .inr ⟨_, rfl⟩
  · exact .inl (by rw [write_of_idle hs])

theorem units_schedule (p : Plan) (es : List Event) (r : Run) :
    (es.foldl (Run.step p) r).units = r.units := by
  induction es generalizing r with
  | nil => rfl
  | cons e es ih =>
    rw [List.foldl_cons, ih]
    cases e with
    | resume i => exact (resume_moves p r i).units
    | write i => exact (write_moves p r i).units

theorem units_finish (p : Plan) (r : Run) (i : Nat) : (r.finish p i).units = r.units := by
  rw [Run.finish, (write_moves p _ i).units, (drive_moves p r i).units]

theorem units_closing (p : Plan) (is : List Nat) (r : Run) :
    (is.foldl (Run.finish p) r).units = r.units := by
  induction is generalizing r with
  | nil => rfl
  | cons i is ih => rw [List.foldl_cons, ih, units_finish]

end Run

end TestScribe
