import TestScribe.CommandLine.Arguments
import TestScribe.Export.Engine
import TestScribe.Log.Level

/-!
One use of the program from a command line: what it prints, and how it ends. A wrong command line
and a call for help end it at once; a configuration that cannot be built and an export that cannot
begin end it with the code 1; otherwise the export has a summary, and that has a code.
-/

namespace TestScribe.CommandLine

inductive Printed where
  | help
  | text (t : Text)

inductive Exit where
  /-- The reading of the arguments ended the program. -/
  | stopped (code : Nat)
  | returned (code : Nat)
  deriving DecidableEq

/-- What no handler covers. -/
inductive Crash where
  | settings (e : SettingsError)
  | fault (f : Fault)

structure Finish where
  exit : Exit
  printed : Printed := .text []

def Stop.finish : Stop → Finish
  | help => ⟨.stopped 0, .help⟩
  | misuse => ⟨.stopped 2, .text []⟩

def fatal : Finish := { exit := .returned 1 }

def rule : Text := List.replicate 50 '='

def report (s : Summary) : Text :=
  let count (n : Nat) := Text.ofNat n
  let failures : List Text := s.failed.map fun o =>
    "  - " ++ o.name ++ ": " ++ (match o.result with
      | .failed e => e.message
      | .written _ => [])
  Text.unlines ([[], rule, "EXPORT SUMMARY", rule, "Mode: " ++ s.mode.name,
    "Matched: " ++ count s.outcomes.length, "Written: " ++ count s.written.length,
    "Failed: " ++ count s.failed.length] ++ failures ++ [rule, [], []])

/-- The three arguments that an export needs; empty ones are none. -/
def Arguments.needed (a : Arguments) : Option (Text × Text × Text) := do
  let format ← Configuration.given a.format
  let project ← Configuration.given a.project
  let directory ← Configuration.given a.directory
  return (format, project, directory)

def Arguments.request (a : Arguments) : Text × Text × Text → Request
  | (format, project, directory) =>
    { format, project, directory
      baseUrl := some a.baseUrl
      filter := a.filter
      mode := a.mode
      debug := a.debug }

def level (a : Arguments) (s : Settings) : Except Fault LogLevel :=
  LogLevel.ofText (if a.debug then "DEBUG" else s.logLevel)

/-- What is settled before an export: its configuration, or how the program ends without one. -/
def start (w : World) (cwd : Text) (env : List (Text × Text)) (argv : List Text) :
    Except Crash (Finish ⊕ Configuration) :=
  match Arguments.read argv with
  | .error s => .ok (.inl s.finish)
  | .ok a =>
    match a.needed with
    | none => .ok (.inl ⟨.returned 1, .help⟩)
    | some needed => do
      let settings ← (Settings.ofEnvironment env).mapError .settings
      let _ ← (level a settings).mapError .fault
      match Configuration.build ⟨cwd, w.files, w.library, settings⟩ (a.request needed) with
      | .ok c => return .inr c
      | .error (.reported _) => return .inl fatal
      | .error (.escaped f) => .error (.fault f)

/-- Everything that the program does, where a format conducts itself as `conduct` says. -/
def runBy (conduct : Format → Export.Conduct) (w : World) (cwd : Text) (env : List (Text × Text))
    (argv : List Text) (schedule : List Nat → List Event) : World × Except Crash Finish :=
  match start w cwd env argv with
  | .error e => (w, .error e)
  | .ok (.inl f) => (w, .ok f)
  | .ok (.inr c) =>
    let e := Export.runBy conduct w c none schedule
    (e.world, match e.result with
      | .ok s => .ok ⟨.returned s.exitCode, .text (report s)⟩
      | .error (.reported _) => .ok fatal
      | .error (.escaped f) => .error (.fault f))

/-- Everything that the program does, where the answers of a format depend on the name alone. -/
def run : World → Text → List (Text × Text) → List Text → (List Nat → List Event) →
    World × Except Crash Finish :=
  runBy Export.byName

end TestScribe.CommandLine
