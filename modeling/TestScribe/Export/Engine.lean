import TestScribe.Configuration
import TestScribe.Export.Run
import TestScribe.Plugins
import TestScribe.Project.File

/-!
A whole export: loading the format, the project and its plugins, and exporting the selected units
while nothing can be registered.
-/

namespace TestScribe

/-- What an export works on. Its writes change the library too: a module in a file that is written
is the one that its new content makes (`Library.renewed`). -/
structure World where
  files : FileTree
  library : Library
  registries : Registries := {}

inductive ExportError where
  | format (e : FormatError)
  | project (e : LoadError)
  | plugin (e : PluginError)

structure Ended where
  world : World
  /-- The calls of the format: which function, and for which unit. -/
  calls : List (Mode × Text) := []
  result : Except (Failure ExportError) Summary

namespace Project

/-- The units of a collection: their positions, which tell them apart, and their names. -/
def units (p : Project) : Mode → List (Nat × Text)
  | .test => (p.tests.map (·.name)).zipIdx.map Prod.swap
  | .suite => (p.suites.map (·.name)).zipIdx.map Prod.swap

end Project

namespace Export

structure Loaded where
  format : Format
  project : Project

/-- Loads the format, unless one is given, and the project. -/
def prepare (w : World) (c : Configuration) (given : Option Format) :
    Except (Failure ExportError) Loaded := do
  let format ← match given with
    | some f => .ok f
    | none => (Format.load w.library w.files c.format).mapError (Failure.within .format)
  let project ← (Project.load w.files (Path.ofText c.project)).mapError (Failure.within .project)
  return ⟨format, project⟩

def loadPlugins (w : World) (c : Configuration) (p : Project) :
    World × Option (Failure ExportError) :=
  match Plugins.correctedAll (Path.ofText c.project) p.plugins with
  | .error f => (w, some (.escaped f))
  | .ok references =>
    let (r, e) := Plugins.load w.library w.files references w.registries.current
    ({ w with registries := w.registries.update fun _ => r }, e.map (Failure.within .plugin))

/-- Loads everything that an export needs: the world with what the plugins have registered, and the
format and the project. -/
def load (w : World) (c : Configuration) (given : Option Format) :
    World × Except (Failure ExportError) Loaded :=
  match prepare w c given with
  | .error e => (w, .error e)
  | .ok l =>
    match loadPlugins w c l.project with
    | (v, some e) => (v, .error e)
    | (v, none) => (v, .ok l)

/-- The units that a configuration selects, unless the search of a name goes wrong. -/
def selected (c : Configuration) (p : Project) : Except Fault (List (Nat × Text)) :=
  c.pattern.select (p.units c.mode)

/-- What a format does about the unit at a position. A format may keep count of what it is asked
for, so units of one name need not be treated alike. -/
abbrev Conduct := Mode → Project → Nat → Text → Emission

def byName (f : Format) : Conduct := fun m p _ name => f.emit m p name

/-- Calls the format for each unit in order: the calls, and the tasks that come of them. -/
def issue (a : Conduct) (m : Mode) (p : Project) :
    List (Nat × Text) → List (Mode × Text) × List Task
  | [] => ([], [])
  | (i, name) :: units =>
    let (calls, tasks) := issue a m p units
    ((m, name) :: calls, ⟨i, name, .emitting (a m p i name)⟩ :: tasks)

def plan (c : Configuration) (p : Project) : Plan := ⟨c.directory, p.url, c.baseUrl⟩

/-- The run of tasks at its start. From here on nothing can be registered. -/
def start (w : World) (tasks : List Task) : Run :=
  { files := w.files, registries := w.registries.update .freeze, tasks }

/-- The export of units of a project. It ends with a summary, unless some unit fails with an
exception that cannot be put into words. -/
def emitWith (mute : Mute) (a : Conduct) (w : World) (c : Configuration) (p : Project)
    (schedule : List Event) (units : List (Nat × Text)) : Ended :=
  let (calls, tasks) := issue a c.mode p units
  let r := (start w tasks).carryOut mute (plan c p) schedule
  { world := {
      files := r.files
      library := w.library.renewed w.files r.files
      registries := r.registries.update .thaw }
    calls
    result := match r.breach mute with
      | some f => .error (.escaped f)
      | none => .ok {
          mode := c.mode
          outcomes := r.outcomes
          skipped := (p.units c.mode).length - units.length } }

/-- The export of units of a project, if any. The schedule may depend on which they are. -/
def emitAllWith (mute : Mute) (a : Conduct) (w : World) (c : Configuration) (p : Project)
    (schedule : List Nat → List Event) : List (Nat × Text) → Ended
  | [] => { world := w, result := .ok { mode := c.mode, skipped := (p.units c.mode).length } }
  | u :: us => emitWith mute a w c p (schedule ((u :: us).map Prod.fst)) (u :: us)

/-- The export of a configuration, with a format of one's own if one is given, where `conduct` says
what formats do, and `mute` which of their exceptions cannot be put into words. -/
def runWith (mute : Mute) (conduct : Format → Conduct) (w : World) (c : Configuration)
    (given : Option Format) (schedule : List Nat → List Event) : Ended :=
  match load w c given with
  | (v, .error e) => { world := v, result := .error e }
  | (v, .ok l) =>
    match selected c l.project with
    | .error f => { world := v, result := .error (.escaped f) }
    | .ok units => emitAllWith mute (conduct l.format) v c l.project schedule units

/-- The export of units by formats whose exceptions have texts. -/
def emitAll (a : Conduct) (w : World) (c : Configuration) (p : Project)
    (schedule : List Nat → List Event) (units : List (Nat × Text)) : Ended :=
  emitAllWith .never a w c p schedule units

/-- The export of a configuration by formats whose exceptions have texts. -/
def runBy (conduct : Format → Conduct) (w : World) (c : Configuration) (given : Option Format)
    (schedule : List Nat → List Event) : Ended := runWith .never conduct w c given schedule

/-- The export of a configuration by formats that go by the names of units. -/
def run (w : World) (c : Configuration) (given : Option Format)
    (schedule : List Nat → List Event) : Ended := runBy byName w c given schedule

end Export

end TestScribe
