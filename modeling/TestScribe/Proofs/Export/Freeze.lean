import TestScribe.Proofs.Export.Exits

/-!
Nothing can be registered while units are exported. Every attempt that an emission makes is refused
and changes nothing (`refused_of_frozen`), so the registries stay what they are from step to step
(`registries_step`) and through the whole run (`registries_complete`). After the export they are as
they were when the plugins had been loaded (`registries_emitAll`).
-/

namespace TestScribe

/-- An attempt to register a translator: the registries before and after it, and what it was refused
for. -/
structure Attempt where
  name : Text
  before : Registries
  after : Registries
  refusal : Option RegistryError

/-- Whether an attempt was refused because nothing can be registered, and left everything as it
was. -/
structure Attempt.Refused (g : Registries) (a : Attempt) : Prop where
  before : a.before = g
  after : a.after = g
  refusal : a.refusal = some (.frozen a.name)

/-- What a translator does that is asked in the course of an emission: it may try to register others
before it answers. -/
inductive Consultation where
  | answers (a : Except Fault (Option Text))
  | registers (name : Text) (hook : Option Hook) (next : Option RegistryError → Consultation)

def Consultation.attempts : Consultation → Registries → List Attempt
  | answers _, _ => []
  | registers name hook next, g =>
    let (h, refusal) := Emission.attempt g name hook
    ⟨name, g, h, refusal⟩ :: (next refusal).attempts h

def Consultation.drive : Consultation → Registries → Registries × Except Fault (Option Text)
  | answers a, g => (g, a)
  | registers name hook next, g =>
    let (h, refusal) := Emission.attempt g name hook
    (next refusal).drive h

namespace Emission

/-- The emission that asks a translator and goes on with its answer. -/
def asking (next : Except Fault (Option Text) → Emission) : Consultation → Emission
  | .answers a => next a
  | .registers name hook rest => .registers name hook fun refusal => asking next (rest refusal)

/-- The attempts of an emission, to its end or only until it waits. -/
def attempts (toEnd : Bool) : Emission → Registries → List Attempt
  | answers _, _ => []
  | fails _, _ => []
  | waits rest, g => if toEnd then rest.attempts toEnd g else []
  | consults next, g => (next g.shared).attempts toEnd g
  | registers name hook next, g =>
    let (h, refusal) := attempt g name hook
    ⟨name, g, h, refusal⟩ :: (next refusal).attempts toEnd h

variable {g : Registries} {a : Attempt}

theorem attempts_asking (toEnd : Bool) (next : Except Fault (Option Text) → Emission)
    (c : Consultation) (g : Registries) :
    (asking next c).attempts toEnd g =
      c.attempts g ++ (next (c.drive g).2).attempts toEnd (c.drive g).1 := by
  induction c generalizing g with
  | answers a => rfl
  | registers name hook rest ih =>
    simp only [asking, attempts, Consultation.attempts, Consultation.drive, ih, List.cons_append]

theorem refused_of_frozen (h : g.current.frozen = true) (toEnd : Bool) (e : Emission)
    (ha : a ∈ e.attempts toEnd g) : a.Refused g := by
  induction e with
  | answers _ => cases ha
  | fails _ => cases ha
  | waits rest ih =>
    rw [attempts] at ha
    split at ha
    · exact ih ha
    · cases ha
  | consults next ih => exact ih _ ha
  | registers name hook next ih =>
    simp only [attempts, attempt_of_frozen h] at ha
    rcases List.mem_cons.1 ha with rfl | ha
    · exact ⟨rfl, rfl, rfl⟩
    · exact ih _ ha

end Emission

namespace Run

def attemptsOf (toEnd : Bool) (r : Run) (i : Nat) : List Attempt :=
  match r.task? i with
  | some t =>
    match t.stage with
    | .emitting e => e.attempts toEnd r.registries
    | _ => []
  | none => []

def eventAttempts (r : Run) : Event → List Attempt
  | .resume i => r.attemptsOf false i
  | .write _ => []

def scheduleAttempts (p : Plan) : List Event → Run → List Attempt
  | [], _ => []
  | e :: es, r => r.eventAttempts e ++ scheduleAttempts p es (r.step p e)

def closingAttempts (p : Plan) : List Nat → Run → List Attempt
  | [], _ => []
  | i :: is, r => r.attemptsOf true i ++ closingAttempts p is (r.finish p i)

def attempts (p : Plan) (schedule : List Event) (r : Run) : List Attempt :=
  scheduleAttempts p schedule r ++
    closingAttempts p (r.tasks.map (·.id)) (schedule.foldl (step p) r)

variable {p : Plan} {r : Run} {t : Task} {a : Attempt} {i : Nat}

@[simp] theorem registries_settle (p : Plan) (r : Run) (t : Task) (e : Except UnitError Answer) :
    (settle p r t e).registries = r.registries := by
  obtain ⟨claimed, s, -, h⟩ := settle_eq p r t e
  rw [h]
  rfl

@[simp] theorem registries_write (p : Plan) (i : Nat) (r : Run) :
    (r.write p i).registries = r.registries := by
  rcases r.writing_or_idle i with ⟨t, path, body, hi, hs⟩ | hs
  · rw [write_of_writing hi hs]
    rfl
  · rw [write_of_idle hs]

theorem registries_resume (h : r.registries.current.frozen = true) (i : Nat) :
    (r.resume p i).registries = r.registries := by
  rcases r.emission_cases i with hs | ⟨t, e, g, hi, he, hstep⟩
  · rw [resume_of_silent hs]
  · have hg := e.advance_of_frozen h
    rcases hstep with ⟨rest, ha⟩ | ⟨a, ha⟩ <;> rw [ha] at hg
    · rw [resume_of_waiting hi he ha]
      exact hg
    · rw [resume_of_ended hi he ha, registries_settle]
      exact hg

theorem registries_drive (h : r.registries.current.frozen = true) (i : Nat) :
    (r.drive p i).registries = r.registries := by
  rcases r.emitting_or_silent i with ⟨t, e, hi, he⟩ | hs
  · rw [drive_of_emitting hi he, registries_settle]
    exact e.drive_of_frozen h
  · rw [drive_of_silent hs]

/-- One step of a run in which nothing can be registered leaves the registries as they are. -/
theorem registries_step (h : r.registries.current.frozen = true) (e : Event) :
    (r.step p e).registries = r.registries := by
  cases e with
  | resume i => exact registries_resume h i
  | write i => exact registries_write p i r

theorem registries_finish (h : r.registries.current.frozen = true) (i : Nat) :
    (r.finish p i).registries = r.registries := by
  rw [finish, registries_write, registries_drive h]

theorem registries_schedule (h : r.registries.current.frozen = true) (es : List Event) :
    (es.foldl (step p) r).registries = r.registries := by
  induction es generalizing r with
  | nil => rfl
  | cons e es ih =>
    have he : (r.step p e).registries = r.registries := registries_step h e
    rw [List.foldl_cons, ih (by rwa [he]), he]

theorem registries_closing (h : r.registries.current.frozen = true) (is : List Nat) :
    (is.foldl (finish p) r).registries = r.registries := by
  induction is generalizing r with
  | nil => rfl
  | cons i is ih =>
    have hi : (r.finish p i).registries = r.registries := registries_finish h i
    rw [List.foldl_cons, ih (by rwa [hi]), hi]

/-- A whole run in which nothing can be registered leaves the registries as they are. -/
theorem registries_complete (h : r.registries.current.frozen = true) (schedule : List Event) :
    (r.complete p schedule).registries = r.registries := by
  have hs : (schedule.foldl (step p) r).registries = r.registries := registries_schedule h schedule
  rw [complete, registries_closing (by rwa [hs]), hs]

theorem refused_of_mem_attemptsOf (h : r.registries.current.frozen = true) {toEnd : Bool}
    (ha : a ∈ r.attemptsOf toEnd i) : a.Refused r.registries := by
  unfold attemptsOf at ha
  split at ha
  · split at ha
    · exact Emission.refused_of_frozen h toEnd _ ha
    · cases ha
  · cases ha

theorem refused_of_mem_schedule (h : r.registries.current.frozen = true) {es : List Event}
    (ha : a ∈ scheduleAttempts p es r) : a.Refused r.registries := by
  induction es generalizing r with
  | nil => cases ha
  | cons e es ih =>
    have he : (r.step p e).registries = r.registries := registries_step h e
    rcases List.mem_append.1 ha with ha | ha
    · cases e with
      | resume i => exact refused_of_mem_attemptsOf h ha
      | write i => cases ha
    · rw [← he]
      exact ih (by rwa [he]) ha

theorem refused_of_mem_closing (h : r.registries.current.frozen = true) {is : List Nat}
    (ha : a ∈ closingAttempts p is r) : a.Refused r.registries := by
  induction is generalizing r with
  | nil => cases ha
  | cons i is ih =>
    have hi : (r.finish p i).registries = r.registries := registries_finish h i
    rcases List.mem_append.1 ha with ha | ha
    · exact refused_of_mem_attemptsOf h ha
    · rw [← hi]
      exact ih (by rwa [hi]) ha

/-- In a run in which nothing can be registered every attempt is refused, whenever it is made. -/
theorem refused_of_mem_attempts (h : r.registries.current.frozen = true) {schedule : List Event}
    (ha : a ∈ r.attempts p schedule) : a.Refused r.registries := by
  have hs : (schedule.foldl (step p) r).registries = r.registries := registries_schedule h schedule
  rcases List.mem_append.1 ha with ha | ha
  · exact refused_of_mem_schedule h ha
  · rw [← hs]
    exact refused_of_mem_closing (by rwa [hs]) ha

end Run

namespace Registries

theorem thaw_freeze {g : Registries} (h : g.current.frozen = false) :
    (g.update .freeze).update .thaw = g := by
  have key : ∀ r : Registry, r.frozen = false → r.freeze.thaw = r := by
    rintro ⟨hooks, loaded, frozen⟩ rfl
    rfl
  obtain ⟨s, o⟩ := g
  cases o with
  | none => exact congrArg (Registries.mk · none) (key s h)
  | some r => exact congrArg (fun r => Registries.mk s (some r)) (key r h)

end Registries

namespace Export

variable {w v : World} {c : Configuration} {p : Project} {given : Option Format}

/-- The attempts to register that are made while an export emits its units. -/
def attempts (conduct : Format → Conduct) (w : World) (c : Configuration) (given : Option Format)
    (schedule : List Nat → List Event) : List Attempt :=
  match load w c given with
  | (_, .error _) => []
  | (v, .ok l) =>
    match selected c l.project with
    | .error _ => []
    | .ok units =>
      (start v (issue (conduct l.format) c.mode l.project units).2).attempts (plan c l.project)
        (schedule (units.map Prod.fst))

theorem frozen_start (v : World) (tasks : List Task) :
    (start v tasks).registries.current.frozen = true := by simp [start]

/-- The export of units leaves registries that are not frozen as they are. -/
theorem registries_emitAll (h : v.registries.current.frozen = false) (a : Conduct)
    (schedule : List Nat → List Event) (units : List (Nat × Text)) :
    (emitAll a v c p schedule units).world.registries = v.registries := by
  cases units with
  | nil => rfl
  | cons u us =>
    simp only [emitAll_cons, Run.registries_complete (frozen_start v _)]
    exact Registries.thaw_freeze h

/-- The registry is closed while units are emitted: whatever formats and the translators that they
ask try to register, at whatever time, is refused with a message that says so and changes nothing.
After the export, however it ends, the translators, their order and the loaded plugins are those
that were there right after loading, and the registry is open again. -/
theorem registry_closed (conduct : Format → Conduct) (schedule : List Nat → List Event)
    (hw : w.registries.current.frozen = false) :
    (∀ a ∈ attempts conduct w c given schedule,
      a.Refused ((load w c given).1.registries.update .freeze) ∧
        a.refusal.map (·.message) = some ("Cannot register command '".toList ++ a.name
          ++ "' after plugins are loaded".toList)) ∧
      (runBy conduct w c given schedule).world.registries = (load w c given).1.registries ∧
      (runBy conduct w c given schedule).world.registries.current.frozen = false := by
  have hloaded : LoadedFrom w (load w c given).1 := loadedFrom_load rfl
  have hopen : (load w c given).1.registries.current.frozen = false := by rw [hloaded.frozen, hw]
  have hrun : (runBy conduct w c given schedule).world.registries =
      (load w c given).1.registries := by
    rcases runBy_cases conduct w c given schedule with
      ⟨v, err, hload, hrun⟩ | ⟨v, l, f, hload, -, hrun⟩ | ⟨v, l, units, hsel⟩
    · rw [hrun, hload]
    · rw [hrun, hload]
    · rw [hsel.load] at hopen ⊢
      rw [hsel.runBy]
      exact registries_emitAll hopen _ _ _
  refine ⟨fun a ha => ?_, hrun, by rw [hrun, hopen]⟩
  have hrefused : a.Refused ((load w c given).1.registries.update .freeze) := by
    unfold attempts at ha
    split at ha
    · cases ha
    · rename_i v l hload
      split at ha
      · cases ha
      · rw [hload]
        exact Run.refused_of_mem_attempts (frozen_start v _) ha
  refine ⟨hrefused, ?_⟩
  rw [hrefused.refusal]
  rfl

/-- Two units: in the emission of each, a translator that is asked and then, after a wait, the
format itself try to register. -/
theorem registry_closed_of_two :
    let w := Sample.pluggedWorld (Sample.pluggedDocument [] ["q.py"])
      [("q.py", Sample.plugin "shout" fun _ _ => .ok (some "loud"))]
    let c := Sample.configuration "/out" Sample.everything
    let hook : Option Hook := some fun _ _ => .ok none
    let format := Sample.format fun name =>
      Emission.asking
        (fun _ => .waits (.registers "late" hook fun
          | some e => .fails (.refused e)
          | none => Sample.file name name))
        (.registers "later" hook fun _ => .answers (.ok none))
    let schedule : List Nat → List Event := fun _ => [.resume 0]
    w.registries.current.frozen = false ∧
      (attempts byName w c (some format) schedule).map (·.name) = ["later", "late"] ∧
      (∀ a ∈ attempts byName w c (some format) schedule,
        a.Refused ((load w c (some format)).1.registries.update .freeze) ∧
          a.refusal.map (·.message) = some ("Cannot register command '".toList ++ a.name
            ++ "' after plugins are loaded".toList)) ∧
      (runBy byName w c (some format) schedule).world.registries =
        (load w c (some format)).1.registries ∧
      (runBy byName w c (some format) schedule).world.registries.current.frozen = false := by
  intro w c hook format schedule
  have hnames : (attempts byName w c (some format) schedule).map (·.name) = ["later", "late"] := by
    decide +kernel
  exact ⟨rfl, hnames, registry_closed byName schedule rfl⟩

end Export

end TestScribe
