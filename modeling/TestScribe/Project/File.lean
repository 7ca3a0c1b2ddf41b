import TestScribe.Files.Write
import TestScribe.Json
import TestScribe.Project.Document

/-!
Loading the project from its file.
-/

namespace TestScribe

inductive LoadError where
  | missing (path : Text)
  | unreadable (path : Text) (error : FileError)
  | notUtf8 (path : Text)
  | notJson (path : Text)
  | document (error : DocumentError)

def LoadError.headline : LoadError → Text
  | missing path => "Project file not found: " ++ path
  | unreadable path _ => "Could not read project file " ++ path
  | notUtf8 path => "Project file " ++ path ++ " is not valid UTF-8"
  | notJson path => "Project file " ++ path ++ " is not valid JSON"
  | document e => e.headline

/-- The document in the content of a file, where `path` says which file it is. -/
def Project.decode (path : Text) (content : FileContent) : Except (Failure LoadError) Value :=
  match content.text? with
  | none => .error (.reported (.notUtf8 path))
  | some t =>
    match Json.read t with
    | .ok v => .ok v
    | .error .malformed => .error (.reported (.notJson path))
    | .error (.tooManyDigits n) => .error (.escaped (.tooManyDigits n))

/-- The project of a document, as a loader of files sees it. -/
def Project.ofDocument (v : Value) : Except (Failure LoadError) Project :=
  (Project.ofValue v).mapError (Failure.within .document)

def Project.content (files : FileTree) (path : Path) : Except (Failure LoadError) FileContent :=
  (files.read path).mapError fun e =>
    match e.cause with
    | .notFound => .reported (.missing path.toText)
    | .embeddedNul => .escaped (.file e)
    | _ => .reported (.unreadable path.toText e)

def Project.load (files : FileTree) (path : Path) : Except (Failure LoadError) Project := do
  Project.ofDocument (← Project.decode path.toText (← Project.content files path))

end TestScribe
