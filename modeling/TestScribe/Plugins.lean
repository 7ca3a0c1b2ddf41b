import TestScribe.Modules

/-!
Plugins of a project: which modules its references mean, and their registration. A reference is a
path, taken from the directory of the project, or the name of a module. Each reference is loaded
once; what a plugin has registered before it fails stays registered.
-/

namespace TestScribe

inductive PluginError where
  | module (error : ModuleError)
  | noRegistration (reference : Text)
  | failed (reference : Text) (f : Fault)
  | refused (error : RegistryError)
  /-- The plugin's own words. -/
  | stated (t : Text)

def PluginError.headline : PluginError → Text
  | module e => e.headline
  | noRegistration reference => "Plugin " ++ reference ++ " has no register(registry) function"
  | failed reference _ => "Plugin " ++ reference ++ " failed to register"
  | refused e => e.message
  | stated t => t

namespace Plugins

def isPath (reference : Text) : Bool :=
  ".".toList.isPrefixOf reference || reference.contains '/'
    || Library.codeSuffix.isSuffixOf reference

/-- The reference as a run uses it: paths are taken from a directory and followed. -/
def corrected (base : Path) (reference : Value) : Except Fault Text := do
  let t ← reference.textFor "startswith"
  if isPath t then
    let p := base.join (Path.ofText t)
    if FileTree.hasNul p.parts then .error (.file ⟨.embeddedNul, p⟩) else .ok p.resolved.toText
  else .ok t

def correctedAll (project : Path) (references : List Value) : Except Fault (List Text) :=
  if FileTree.hasNul project.parts then .error (.file ⟨.embeddedNul, project⟩)
  else references.mapM (corrected project.resolved.parent)

def registerAll (r : Registry) : List (Text × Option Hook) → Registry × Option RegistryError
  | [] => (r, none)
  | (name, hook) :: rest =>
    match r.register name hook with
    | .ok s => registerAll s rest
    | .error e => (r, some e)

/-- What comes of the end of a registration function. The report of a fault has the text of the
fault in it. -/
def report (lib : Library) (reference : Text) : Ending → Option (Failure PluginError)
  | .done => none
  | .fails f =>
    match f.mutedBy lib.mute with
    | some g => some (.escaped g)
    | none => some (.reported (.failed reference f))
  | .refuses t => some (.reported (.stated t))

def perform (lib : Library) (reference : Text) (g : Registration) (r : Registry) :
    Registry × Option (Failure PluginError) :=
  match registerAll r g.commands with
  | (s, some e) => (s, some (.reported (.refused e)))
  | (s, none) => (s, report lib reference g.ending)

theorem report_eq_none_iff {lib : Library} {reference : Text} {e : Ending} :
    report lib reference e = none ↔ e = .done := by
  cases e with
  | fails f => simp only [report]; split <;> simp
  | _ => simp [report]

/-- The registration function of the module to which a reference leads. -/
def registrationOf (lib : Library) (files : FileTree) (reference : Text) :
    Except (Failure PluginError) Registration := do
  let m ← (lib.load files .plugin (isPath reference) reference).mapError (Failure.within .module)
  match m.registration with
  | some g => .ok g
  | none => .error (.reported (.noRegistration reference))

def loadNew (lib : Library) (files : FileTree) (reference : Text) (r : Registry) :
    Registry × Option (Failure PluginError) :=
  match registrationOf lib files reference with
  | .error e => (r, some e)
  | .ok g =>
    match perform lib reference g r with
    | (s, some e) => (s, some e)
    | (s, none) => (s.markLoaded reference, none)

def loadOne (lib : Library) (files : FileTree) (reference : Text) (r : Registry) :
    Registry × Option (Failure PluginError) :=
  if r.isLoaded reference then (r, none) else loadNew lib files reference r

/-- Loads one after another, up to the first that fails. -/
def loadEach {α : Type} (one : α → Registry → Registry × Option (Failure PluginError)) :
    List α → Registry → Registry × Option (Failure PluginError)
  | [], r => (r, none)
  | x :: rest, r =>
    match one x r with
    | (s, some e) => (s, some e)
    | (s, none) => loadEach one rest s

def load (lib : Library) (files : FileTree) (references : List Text) (r : Registry) :
    Registry × Option (Failure PluginError) :=
  loadEach (loadOne lib files) references r

/-- The plugin of a reference, if its registration function is called in loading it. -/
def called (lib : Library) (files : FileTree) (reference : Text) (r : Registry) : List Text :=
  if !r.isLoaded reference && (registrationOf lib files reference).isOk then [reference] else []

/-- The plugins whose registration functions are called in loading references, in order. -/
def calls (lib : Library) (files : FileTree) : List Text → Registry → List Text
  | [], _ => []
  | reference :: rest, r =>
    called lib files reference r ++
      match loadOne lib files reference r with
      | (_, some _) => []
      | (s, none) => calls lib files rest s

theorem loadEach_append {α : Type} (one : α → Registry → Registry × Option (Failure PluginError))
    (a b : List α) (r : Registry) :
    loadEach one (a ++ b) r =
      match loadEach one a r with
      | (s, some e) => (s, some e)
      | (s, none) => loadEach one b s := by
  induction a generalizing r with
  | nil => rfl
  | cons x rest ih =>
    simp only [List.cons_append, loadEach]
    rcases one x r with ⟨s, _ | e⟩
    · exact ih s
    · rfl

/-- Loading two lists of references is loading one after the other. -/
theorem load_append (lib : Library) (files : FileTree) (a b : List Text) (r : Registry) :
    load lib files (a ++ b) r =
      match load lib files a r with
      | (s, some e) => (s, some e)
      | (s, none) => load lib files b s := loadEach_append _ a b r

end Plugins

end TestScribe
