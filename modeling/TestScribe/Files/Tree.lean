import TestScribe.Files.Path
import TestScribe.Text.Utf8

/-!
A tree of files and directories without links. An entry is known by its location, the components
from the root down to it; the root itself is always a directory. Written paths are followed
component by component, as an operating system does it, so that two dots need a directory to stand
in. Everything may be read and written here, and a path may be of any length as a whole. Names of
entries are texts; `Reference` deals with those that are asked for and are none.
-/

namespace TestScribe

/-- What a file holds: a text, or bytes that need not be one. -/
inductive FileContent where
  | text (t : Text)
  | bytes (bs : List UInt8)
  deriving DecidableEq

def FileContent.text? : FileContent → Option Text
  | text t => some t
  | bytes bs => Utf8.ofBytes? bs

inductive Entry where
  | file (content : FileContent)
  | directory
  deriving DecidableEq

inductive FileCause where
  | notFound | present | notDirectory | isDirectory | nameTooLong | embeddedNul
  deriving DecidableEq

structure FileError where
  cause : FileCause
  path : Path
  deriving DecidableEq

abbrev Location := List Text

structure FileTree where
  entries : List (Location × Entry) := []

namespace FileTree

def empty : FileTree := {}

def at? (t : FileTree) (l : Location) : Option Entry :=
  if l = [] then some .directory else t.entries.lookup l

def putEntry (l : Location) (e : Entry) : List (Location × Entry) → List (Location × Entry)
  | [] => [(l, e)]
  | (k, f) :: r => if k = l then (k, e) :: r else (k, f) :: putEntry l e r

def put (t : FileTree) (l : Location) (e : Entry) : FileTree := ⟨putEntry l e t.entries⟩

theorem lookup_putEntry (l k : Location) (e : Entry) (es : List (Location × Entry)) :
    (putEntry l e es).lookup k = if k = l then some e else es.lookup k := by
  induction es with
  | nil => by_cases h : k = l <;> simp [putEntry, h]
  | cons f r ih =>
    obtain ⟨j, g⟩ := f
    by_cases hj : j = l
    · subst hj
      by_cases hk : k = j
      · simp [putEntry, hk]
      · simp [putEntry, hk, List.lookup_cons, beq_eq_false_iff_ne.2 hk]
    · by_cases hk : k = j
      · subst hk
        simp [putEntry, hj]
      · simpa [putEntry, hj, List.lookup_cons, beq_eq_false_iff_ne.2 hk] using ih

theorem at?_put (t : FileTree) {l : Location} (hl : l ≠ []) (k : Location) (e : Entry) :
    (t.put l e).at? k = if k = l then some e else t.at? k := by
  by_cases hk : k = []
  · subst hk
    simp [at?, hl.symm]
  · simp [at?, hk, put, lookup_putEntry]

def isDirectory (t : FileTree) (l : Location) : Bool := t.at? l == some .directory

def maxName : Nat := 255

def isTooLong (name : Text) : Bool := maxName < Utf8.byteLength name

/-- The place of a name in a directory, whether there is an entry or not. -/
def place (t : FileTree) (dir : Location) (name : Text) : Except FileCause Location :=
  if !t.isDirectory dir then .error .notDirectory
  else if name = "..".toList then .ok dir.dropLast
  else if isTooLong name then .error .nameTooLong
  else .ok (dir ++ [name])

/-- One step down to an entry that must be there. -/
def enter (t : FileTree) (dir : Location) (name : Text) : Except FileCause Location := do
  let l ← t.place dir name
  if (t.at? l).isSome then .ok l else .error .notFound

def locate (t : FileTree) (parts : List Text) : Except FileCause Location :=
  parts.foldlM t.enter []

def find (t : FileTree) (parts : List Text) : Except FileCause (Location × Entry) := do
  let l ← t.locate parts
  match t.at? l with
  | some e => .ok (l, e)
  | none => .error .notFound

def hasNul (parts : List Text) : Bool := parts.any (·.contains '\x00')

/-- Whether there is an entry, where names that are too long are an error of their own. -/
def hasFile (t : FileTree) (parts : List Text) : Except FileCause Bool :=
  if hasNul parts then .ok false
  else
    match t.find parts with
    | .ok (_, .file _) => .ok true
    | .error .nameTooLong => .error .nameTooLong
    | _ => .ok false

def hasDirectory (t : FileTree) (parts : List Text) : Except FileCause Bool :=
  if hasNul parts then .ok false
  else
    match t.find parts with
    | .ok (_, .directory) => .ok true
    | .error .nameTooLong => .error .nameTooLong
    | _ => .ok false

def read (t : FileTree) (p : Path) : Except FileError FileContent :=
  if hasNul p.parts then .error ⟨.embeddedNul, p⟩
  else
    match t.find p.parts with
    | .ok (_, .file c) => .ok c
    | .ok (_, .directory) => .error ⟨.isDirectory, p⟩
    | .error c => .error ⟨c, p⟩

/-- The files below a location, by their components from there on. -/
def filesBelow (t : FileTree) (l : Location) : List (List Text × FileContent) :=
  t.entries.filterMap fun (k, e) =>
    match e with
    | .file c => if l.isPrefixOf k then some (k.drop l.length, c) else none
    | .directory => none

end FileTree

end TestScribe
