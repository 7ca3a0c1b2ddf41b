import TestScribe.Export.Summary
import TestScribe.Writing

/-!
The units of one export, side by side. Each unit is a task: it emits, claims the path that its file
goes to, and writes. The path of a file belongs to the unit whose emission ends first; every other
unit that wants it fails. In which order tasks go on is up to a schedule of events, and what a
schedule leaves undone is done at the end.
-/

namespace TestScribe

inductive Stage where
  | emitting (rest : Emission)
  | writing (path : Path) (body : RawText)
  | done (result : Result)

structure Task where
  /-- What tells the unit apart from others, which may have the same name. -/
  id : Nat
  /-- The name of the unit. -/
  name : Text
  stage : Stage

def Task.outcome? (t : Task) : Option Outcome :=
  match t.stage with
  | .done r => some ⟨t.name, r⟩
  | _ => none

structure Plan where
  /-- The directory that files go to. -/
  directory : Text
  /-- The address at which everything was recorded. -/
  recorded : Value
  /-- The address that goes in its place; empty for none. -/
  override : Text

/-- Writes the file of a unit: what becomes of the files, and what comes of the unit. -/
def Plan.save (p : Plan) (files : FileTree) (path : Path) (body : RawText) : FileTree × Result :=
  match Address.override p.recorded p.override body with
  | .error f => (files, .failed (.fault f))
  | .ok content =>
    match files.writeRaw path content with
    | (files, none) => (files, .written path)
    | (files, some e) => (files, .failed (.fault (e.fault content)))

structure Run where
  files : FileTree
  registries : Registries
  claimed : List Path := []
  tasks : List Task := []

inductive Event where
  /-- The emission goes on until it waits or ends. -/
  | resume (i : Nat)
  /-- The file is written. -/
  | write (i : Nat)

namespace Run

def task? (r : Run) (i : Nat) : Option Task := r.tasks.find? (·.id = i)

def setStage (r : Run) (i : Nat) (s : Stage) : Run :=
  { r with tasks := r.tasks.map fun t => if t.id = i then { t with stage := s } else t }

def target (p : Plan) (name : Text) (e : Except UnitError Answer) :
    Except UnitError (Path × RawText) := do
  let f ← (Answer.accept name (← e)).mapError .emission
  let path ← (outputPath p.directory f.filename).mapError .emission
  return (path, f.body)

/-- Takes the path for the unit, unless another one has it. -/
def claim (claimed : List Path) (path : Path) : Except UnitError (List Path) :=
  if path ∈ claimed then .error (.emission (.claimed path)) else .ok (path :: claimed)

/-- The end of an emission. A failure stays with its unit here; `carryOut` says what follows from
one that cannot be put into words. -/
def settle (p : Plan) (r : Run) (t : Task) (e : Except UnitError Answer) : Run :=
  match target p t.name e with
  | .error err => r.setStage t.id (.done (.failed err))
  | .ok (path, body) =>
    match claim r.claimed path with
    | .error err => r.setStage t.id (.done (.failed err))
    | .ok claimed => { r with claimed }.setStage t.id (.writing path body)

def resume (p : Plan) (i : Nat) (r : Run) : Run :=
  match r.task? i with
  | some t =>
    match t.stage with
    | .emitting e =>
      match e.advance r.registries with
      | (g, .waiting rest) => { r with registries := g }.setStage i (.emitting rest)
      | (g, .ended result) => settle p { r with registries := g } t result
    | _ => r
  | none => r

def write (p : Plan) (i : Nat) (r : Run) : Run :=
  match r.task? i with
  | some t =>
    match t.stage with
    | .writing path body =>
      let (files, result) := p.save r.files path body
      { r with files }.setStage i (.done result)
    | _ => r
  | none => r

/-- Lets a task emit to the end. -/
def drive (p : Plan) (i : Nat) (r : Run) : Run :=
  match r.task? i with
  | some t =>
    match t.stage with
    | .emitting e =>
      let (g, result) := e.drive r.registries
      settle p { r with registries := g } t result
    | _ => r
  | none => r

def step (p : Plan) (r : Run) : Event → Run
  | .resume i => r.resume p i
  | .write i => r.write p i

def finish (p : Plan) (r : Run) (i : Nat) : Run := (r.drive p i).write p i

/-- Lets all tasks finish, after a schedule. -/
def complete (p : Plan) (schedule : List Event) (r : Run) : Run :=
  (r.tasks.map (·.id)).foldl (finish p) (schedule.foldl (step p) r)

/-- What asking for the words of failures raises: the first of those that have none. -/
def breach (mute : Mute) (r : Run) : Option Fault :=
  r.tasks.findSome? fun t =>
    match t.stage with
    | .done (.failed e) => e.mutedBy mute
    | _ => none

/-- Lets tasks finish one after another, as long as every failure can be put into words. -/
def conclude (mute : Mute) (p : Plan) : List Nat → Run → Run
  | [], r => r
  | i :: is, r => if (r.breach mute).isSome then r else conclude mute p is (r.finish p i)

/-- Lets tasks finish, after a schedule. A failure that cannot be put into words leaves its task,
and all others are called off: what they have not done by then they never do. The schedule may have
them do something before they hear of it. -/
def carryOut (mute : Mute) (p : Plan) (schedule : List Event) (r : Run) : Run :=
  conclude mute p (r.tasks.map (·.id)) (schedule.foldl (step p) r)

def outcomes (r : Run) : List Outcome := r.tasks.filterMap Task.outcome?

@[simp] theorem breach_never (r : Run) : r.breach .never = none := by
  rw [breach, List.findSome?_eq_none_iff]
  intro t _
  split
  · exact UnitError.mutedBy_never _
  · rfl

theorem conclude_never (p : Plan) (is : List Nat) (r : Run) :
    conclude .never p is r = is.foldl (finish p) r := by
  induction is generalizing r with
  | nil => rfl
  | cons i is ih => simp [conclude, ih]

@[simp] theorem carryOut_never (p : Plan) (schedule : List Event) (r : Run) :
    r.carryOut .never p schedule = r.complete p schedule := conclude_never _ _ _

@[simp] theorem ids_setStage (r : Run) (i : Nat) (s : Stage) :
    (r.setStage i s).tasks.map (·.id) = r.tasks.map (·.id) := by
  simp only [setStage, List.map_map]
  refine List.map_congr_left fun t _ => ?_
  by_cases h : t.id = i <;> simp [h]

@[simp] theorem names_setStage (r : Run) (i : Nat) (s : Stage) :
    (r.setStage i s).tasks.map (·.name) = r.tasks.map (·.name) := by
  simp only [setStage, List.map_map]
  refine List.map_congr_left fun t _ => ?_
  by_cases h : t.id = i <;> simp [h]

theorem task?_setStage (r : Run) (i j : Nat) (s : Stage) :
    (r.setStage i s).task? j =
      (r.task? j).map fun t => if t.id = i then { t with stage := s } else t := by
  have key : ((fun t : Task => decide (t.id = j)) ∘ fun t : Task =>
      if t.id = i then { t with stage := s } else t) = fun t => decide (t.id = j) := by
    funext t
    by_cases h : t.id = i <;> simp [h]
  rw [task?, setStage, List.find?_map, key, task?]

theorem task?_setStage_of_ne (r : Run) {i j : Nat} (h : j ≠ i) (s : Stage) :
    (r.setStage i s).task? j = r.task? j := by
  rw [task?_setStage]
  cases ht : r.task? j with
  | none => rfl
  | some t =>
    have hj : t.id = j := by simpa using List.find?_some ht
    simp [hj, h]

theorem task?_setStage_self (r : Run) (i : Nat) (s : Stage) :
    (r.setStage i s).task? i = (r.task? i).map fun t => { t with stage := s } := by
  rw [task?_setStage]
  cases ht : r.task? i with
  | none => rfl
  | some t =>
    have hi : t.id = i := by simpa using List.find?_some ht
    simp [hi]

end Run

/-- The schedule by which units take their turns in order, so many times, and each writes as soon
as it can. -/
def turns (units : List Nat) : Nat → List Event
  | 0 => []
  | n + 1 => (units.flatMap fun i => [.resume i, .write i]) ++ turns units n

end TestScribe
