import TestScribe.Files.Tree
import TestScribe.Text.Digit
import TestScribe.Text.Quoted

/-!
Writing files. Missing directories on the way are made first, from the top down; those that have
been made stay, even if a later step fails. A file that is there is replaced.
-/

namespace TestScribe.FileTree

def makeDirectory (t : FileTree) (parts : List Text) : Except FileCause FileTree :=
  match parts.getLast? with
  | none => .error .present
  | some name => do
    let dir ← t.locate parts.dropLast
    let l ← t.place dir name
    if name = "..".toList || (t.at? l).isSome then .error .present
    else .ok (t.put l .directory)

/-- The end of an attempt to make a directory: one that is there already will do. -/
def settled (t : FileTree) (parts : List Text) :
    Except FileCause FileTree → FileTree × Option FileCause
  | .ok s => (s, none)
  | .error .notFound => (t, some .notFound)
  | .error c => if t.hasDirectory parts matches .ok true then (t, none) else (t, some c)

/-- Makes a directory and those on the way to it. The components are given from the last one to the
first. -/
def makeWay (slashes : Nat) (t : FileTree) : List Text → FileTree × Option FileError
  | [] => (t, none)
  | name :: up =>
    let parts := (name :: up).reverse
    match t.makeDirectory parts with
    | .error .notFound =>
      match makeWay slashes t up with
      | (s, some e) => (s, some e)
      | (s, none) =>
        let (s, c) := s.settled parts (s.makeDirectory parts)
        (s, c.map fun c => ⟨c, ⟨slashes, parts⟩⟩)
    | r =>
      let (s, c) := t.settled parts r
      (s, c.map fun c => ⟨c, ⟨slashes, parts⟩⟩)

/-- Puts a text into a file in a directory that is there. -/
def save (t : FileTree) (parts : List Text) (body : Text) : Except FileCause FileTree :=
  if hasNul parts then .error .embeddedNul
  else
    match parts.getLast? with
    | none => .error .isDirectory
    | some name => do
      let dir ← t.locate parts.dropLast
      let l ← t.place dir name
      if t.isDirectory l then .error .isDirectory
      else .ok (t.put l (.file (.text body)))

/-- Writes a file: what became of the tree, and the error if there was one. -/
def write (t : FileTree) (p : Path) (body : Text) : FileTree × Option FileError :=
  if hasNul p.parent.parts then (t, some ⟨.embeddedNul, p.parent⟩)
  else
    match makeWay p.slashes t p.parent.parts.reverse with
    | (s, some e) => (s, some e)
    | (s, none) =>
      match s.save p.parts body with
      | .ok u => (u, none)
      | .error c => (s, some ⟨c, p⟩)

end TestScribe.FileTree

namespace TestScribe

/-- The number and the words by which the operating system knows a cause. -/
def FileCause.known : FileCause → Option (Nat × Text)
  | notFound => some (2, "No such file or directory")
  | present => some (17, "File exists")
  | notDirectory => some (20, "Not a directory")
  | isDirectory => some (21, "Is a directory")
  | nameTooLong => some (36, "File name too long")
  | embeddedNul => none

def FileError.message (e : FileError) : Text :=
  match e.cause.known with
  | some (n, words) =>
    "[Errno " ++ Text.ofNat n ++ "] " ++ words ++ ": " ++ Text.quoted e.path.toText
  | none => "embedded null byte"

end TestScribe
