import TestScribe.Format.Builtin
import TestScribe.Settings

/-!
What one export needs, put together from what was asked for, the environment's defaults, and the
directory that relative paths start from.
-/

namespace TestScribe

structure Request where
  format : Text
  project : Text
  directory : Text
  baseUrl : Option Text := none
  filter : Option Text := none
  mode : Option Text := none
  debug : Bool := false

structure Configuration where
  /-- An absolute path or the name of a module. -/
  format : Text
  project : Text
  directory : Text
  /-- The address that goes in place of the recorded one; empty for none. -/
  baseUrl : Text
  filter : Text
  /-- The compiled filter. -/
  pattern : Filter
  mode : Mode
  debug : Bool

inductive ConfigurationError where
  | badFilter (filter : Text)
  | badMode (mode : Text)
  | noFormat
  | unknownFormat (identifier : Text)
  deriving DecidableEq

def ConfigurationError.headline : ConfigurationError → Text
  | badFilter t => "Invalid filter '" ++ t ++ "'"
  | badMode t => "Invalid mode '" ++ t ++ "'. Valid options: ['test', 'suite']"
  | noFormat => "No format given"
  | unknownFormat t =>
    "Cannot resolve format '" ++ t ++ "'. Use a file path, a module name or one of: ["
      ++ Text.join ", " (Builtin.all.map fun b => Text.quoted b.shortName) ++ "]"

/-- Where somebody asks: the directory, the files, the modules and the defaults. -/
structure Surroundings where
  cwd : Text
  files : FileTree
  library : Library
  settings : Settings

namespace Surroundings

/-- A path that is taken from the directory; an absolute one is left as it is written. -/
def resolve (s : Surroundings) (path : Text) : Text :=
  if (Path.ofText path).isAbsolute then path
  else ((Path.ofText s.cwd).join (Path.ofText path)).toText

def holds (s : Surroundings) (p : Path) : Except Fault Bool :=
  if FileTree.hasNul p.parts then .ok false
  else
    match s.files.find p.parts with
    | .ok _ => .ok true
    | .error .nameTooLong => .error (.file ⟨.nameTooLong, p⟩)
    | .error _ => .ok false

/-- The format that an identifier means: an absolute path, a path that is there, a short name, or
the name of a module, in this order. -/
def resolveFormat (s : Surroundings) (identifier : Text) :
    Except (Failure ConfigurationError) Text := do
  if identifier.isEmpty then .error (.reported .noFormat)
  else if (Path.ofText identifier).isAbsolute then .ok identifier
  else
    let there ← (s.holds ((Path.ofText s.cwd).join (Path.ofText identifier))).mapError .escaped
    if there then .ok (s.resolve identifier)
    else
      match Builtin.ofShortName? identifier with
      | some b => .ok b.moduleName
      | none =>
        match s.library.find identifier with
        | .ok true => .ok identifier
        | .ok false => .error (.reported (.unknownFormat identifier))
        | .error f =>
          -- A wrong value behind a name counts as a name that nothing has.
          if f.cls = .value then .error (.reported (.unknownFormat identifier))
          else .error (.escaped f)

end Surroundings

namespace Configuration

def given (t : Option Text) : Option Text := t.filter fun t => !t.isEmpty

def compile (filter : Text) : Except (Failure ConfigurationError) Filter :=
  (Filter.compile (some filter)).mapError fun e =>
    match e.fault? with
    | some f => .escaped f
    | none => .reported (.badFilter filter)

def chooseMode (default : Mode) : Option Text → Except (Failure ConfigurationError) Mode
  | none => .ok default
  | some t =>
    match Mode.ofName? t with
    | some m => .ok m
    | none => .error (.reported (.badMode t))

def build (s : Surroundings) (q : Request) : Except (Failure ConfigurationError) Configuration := do
  let filter := (given q.filter).getD s.settings.defaultFilter
  let pattern ← compile filter
  let mode ← chooseMode s.settings.defaultMode (given q.mode)
  let format ← s.resolveFormat q.format
  return {
    format, filter, pattern, mode
    project := s.resolve q.project
    directory := s.resolve q.directory
    baseUrl := q.baseUrl.getD []
    debug := q.debug }

end Configuration

end TestScribe
