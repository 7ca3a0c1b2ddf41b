import TestScribe.Address
import TestScribe.Files.Write
import TestScribe.Text.Surrogate

/-!
Writing the text of a unit. The recorded address is replaced in it first. A text in which there is
half a surrogate pair cannot be encoded, but that comes out only when the file has been opened, and
so emptied.
-/

namespace TestScribe

inductive WriteError where
  | file (error : FileError)
  | notEncodable
  deriving DecidableEq

def WriteError.fault (content : RawText) : WriteError → Fault
  | file e => .file e
  | notEncodable => .notEncodable .content content

/-- Writes a text into a file: what became of the tree, and the error if there was one. What cannot
be encoded leaves the file empty. -/
def FileTree.writeRaw (t : FileTree) (path : Path) (content : RawText) :
    FileTree × Option WriteError :=
  match t.write path (content.text?.getD []) with
  | (s, some e) => (s, some (.file e))
  | (s, none) => (s, if content.text?.isSome then none else some .notEncodable)

theorem FileTree.fst_writeRaw (t : FileTree) (path : Path) (content : RawText) :
    (t.writeRaw path content).1 = (t.write path (content.text?.getD [])).1 := by
  unfold writeRaw
  split <;> rename_i hwrite <;> rw [hwrite]

theorem FileTree.snd_writeRaw (t : FileTree) (path : Path) (content : RawText) :
    (t.writeRaw path content).2 = match (t.write path (content.text?.getD [])).2 with
      | some e => some (.file e)
      | none => if content.text?.isSome then none else some .notEncodable := by
  unfold writeRaw
  split <;> rename_i hwrite <;> rw [hwrite]

/-- A text for a file, with the recorded address and the one that is to stand in its place. -/
structure Writing where
  path : Path
  body : RawText
  recorded : RawText := []
  override : RawText := []

namespace Writing

def content (w : Writing) : RawText := Address.rebase w.recorded w.override w.body

def perform (w : Writing) (t : FileTree) : FileTree × Option WriteError :=
  t.writeRaw w.path w.content

end Writing

end TestScribe
