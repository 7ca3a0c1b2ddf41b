import TestScribe.Export.Engine

/-!
References to plugins as documents have them: anything may stand in the place of a reference, and a
recorded text may have halves of surrogate pairs in it. Most of these have no place in the name of a
file, which shows when a path is followed and the operating system is asked for each name on the
way.
-/

namespace TestScribe

inductive Reference where
  | text (t : RawText)
  /-- Anything but a text. -/
  | other (v : Value)

def Reference.ofValue : Value → Reference
  | .text t => .text t
  | v => .other v

/-- A location whose names may have halves of pairs in them. -/
abbrev RawLocation := List RawText

namespace RawLocation

def toText (l : RawLocation) : RawText := .char '/' :: Text.join [.char '/'] l

/-- Why the operating system cannot be asked for the last name of a location. -/
def refusal? (asked : Path) (l : RawLocation) (name : RawText) : Option Fault :=
  if (name.misfit? .name).isSome then some (.notEncodable .name (toText (l ++ [name])))
  else if name.contains (.char '\x00') then some (.file ⟨.embeddedNul, asked⟩)
  else none

/-- Follows the pieces of a written path from a location on: nothing and a dot mean the place that
one is at, two dots the one above it, and the system is asked for any other name. -/
def follow (asked : Path) : RawLocation → List RawText → Except Fault RawLocation
  | l, [] => .ok l
  | l, part :: rest =>
    if part = [] ∨ part = [.char '.'] then follow asked l rest
    else if part = [.char '.', .char '.'] then follow asked l.dropLast rest
    else
      match refusal? asked l part with
      | some f => .error f
      | none => follow asked (l ++ [part]) rest

def find (dir : RawLocation) (t : RawText) : Except Fault RawLocation :=
  let asked := (⟨1, dir.map RawText.shown⟩ : Path).join (Path.ofText t.shown)
  follow asked (if t.head? = some (.char '/') then [] else dir) (Text.split (.char '/') t)

end RawLocation

namespace Reference

/-- The reference as a run uses it, given the directory from which paths are taken. -/
def corrected (dir : RawLocation) : Reference → Except Fault RawText
  | .text t => if Plugins.isPath t.shown then (dir.find t).map RawLocation.toText else .ok t
  | .other v => .error (.lacks v.kind "startswith")

def correctedAll (project : RawText) (references : List Reference) :
    Except Fault (List RawText) := do
  let l ← RawLocation.follow (Path.ofText project.shown) [] (Text.split (.char '/') project)
  references.mapM (corrected l.dropLast)

end Reference

/-- The length of a name in bytes, where half a pair stands for a single one. -/
def RawText.nameLength : RawText → Nat
  | [] => 0
  | .char c :: r => Utf8.size c + nameLength r
  | .surrogate _ :: r => 1 + nameLength r

/-- Why there is nothing at the end of a way. No entry has a name that is no text. -/
def FileTree.lack (files : FileTree) : Location → List RawText → FileCause
  | _, [] => .notFound
  | dir, part :: rest =>
    match part.text? with
    | some name =>
      match files.enter dir name with
      | .ok l => lack files l rest
      | .error c => c
    | none =>
      if !files.isDirectory dir then .notDirectory
      else if FileTree.maxName < part.nameLength then .nameTooLong
      else .notFound

/-- What goes wrong in the packages that a dotted name goes through. -/
def Library.faultBefore? (lib : Library) (name : RawText) : Option Fault :=
  let parts := Text.split (.char '.') name
  (List.range (parts.length - 1)).findSome? fun n =>
    (RawText.text? (Text.join [.char '.'] (parts.take (n + 1)))).bind fun package =>
      (lib.named.lookup package).bind Module.fault

namespace Plugins

def names (t : RawText) : List RawText :=
  (Text.split (.char '/') t).filter fun p => !p.isEmpty && p ≠ [.char '.']

/-- What comes of loading the plugin of a reference that is no text: there is nothing, unless it is
not possible to look for it. -/
def lost (lib : Library) (files : FileTree) (t : RawText) : Failure PluginError :=
  if isPath t.shown then
    if (t.misfit? .name).isNone && !t.contains (.char '\x00') &&
        files.lack [] (names t) = .nameTooLong
    then .escaped (.file ⟨.nameTooLong, Path.ofText t.shown⟩)
    else .reported (.module ⟨.plugin, t.shown, .noFile⟩)
  else
    match lib.faultBefore? t with
    | some f => .escaped f
    | none => .reported (.module ⟨.plugin, t.shown, .unknown⟩)

def loadRawOne (lib : Library) (files : FileTree) (t : RawText) (r : Registry) :
    Registry × Option (Failure PluginError) :=
  match t.text? with
  | some reference => loadOne lib files reference r
  | none => (r, some (lost lib files t))

def loadRaw (lib : Library) (files : FileTree) (references : List RawText) (r : Registry) :
    Registry × Option (Failure PluginError) :=
  loadEach (loadRawOne lib files) references r

end Plugins

/-- Loads the plugins that a document refers to. -/
def Export.loadReferences (w : World) (c : Configuration) (references : List Reference) :
    World × Option (Failure ExportError) :=
  match Reference.correctedAll c.project references with
  | .error f => (w, some (.escaped f))
  | .ok corrected =>
    let (r, e) := Plugins.loadRaw w.library w.files corrected w.registries.current
    ({ w with registries := w.registries.update fun _ => r }, e.map (Failure.within .plugin))

end TestScribe
