import TestScribe.Project.Basic
import TestScribe.Fault

/-!
Reading a project from a decoded document. The shape is checked only as far as the project needs it:
lists must be lists, entries must be objects, tests and suites need a name that is not blank.
-/

namespace TestScribe

open Value (field?)

inductive DocumentError where
  | notObject
  | notList (key : Text)
  | missingKey (key : Text)
  | malformed (fault : Fault)

namespace DocumentError

/-- The message without what the fault behind it says. -/
def headline : DocumentError → Text
  | notObject => "Project document must be a JSON object"
  | notList key => "Project '" ++ key ++ "' must be a list"
  | missingKey key => "Project entry is missing required key " ++ Text.quoted key
  | malformed _ => "Malformed project document"

def message : DocumentError → Text
  | malformed f => headline (.malformed f) ++ ": " ++ f.message
  | e => e.headline

end DocumentError

/-- A recorded field. One that is absent, or does not hold, is empty. -/
def recorded (fields : List (Text × Value)) (key : Text) : Value :=
  ((field? fields key).getD .null).orElse .empty

/-- What a recorded field consists of. One that is absent, or does not hold, has no items. -/
def recordedItems (fields : List (Text × Value)) (key : Text) : Except Fault (List Value) :=
  ((field? fields key).getD .null |>.orElse (.list [])).items

def requiredName (what : Text) (fields : List (Text × Value)) : Except Fault Text :=
  match field? fields "name" with
  | none => .error (.absent "name")
  | some (.text t) => if (Text.trim t).isEmpty then .error (.badName what (.text t)) else .ok t
  | some v => .error (.badName what v)

/-- An alternative locator with its strategy; what is no list with something in it is skipped. -/
def alternative? : Value → Option (Text × Text)
  | .list (locator :: strategy :: _) => some (locator.display, strategy.display)
  | .list [locator] => some (locator.display, [])
  | _ => none

def Command.ofValue (v : Value) : Except Fault Command := do
  let fields ← v.fields
  let targets ← recordedItems fields "targets"
  .ok
    { name := recorded fields "command"
      target := recorded fields "target"
      value := recorded fields "value"
      id := recorded fields "id"
      comment := recorded fields "comment"
      targets := targets.filterMap alternative? }

def TestCase.ofValue (v : Value) : Except Fault TestCase := do
  let fields ← v.fields
  let name ← requiredName "Test" fields
  let commands ← (← recordedItems fields "commands").mapM Command.ofValue
  .ok { name, commands, id := recorded fields "id" }

def Suite.ofValue (v : Value) : Except Fault Suite := do
  let fields ← v.fields
  let name ← requiredName "Suite" fields
  let tests ← recordedItems fields "tests"
  let timeout ← (((field? fields "timeout").getD .null).orElse (.int 300)).integer
  .ok
    { name
      tests := tests.map Value.display
      parallel := ((field? fields "parallel").getD .null).holds
      persistSession := ((field? fields "persistSession").getD .null).holds
      timeout
      id := recorded fields "id" }

def Project.ofFields (fields : List (Text × Value)) : Except Fault Project := do
  let urls ← recordedItems fields "urls"
  let plugins ← recordedItems fields "plugins"
  let tests ← (← recordedItems fields "tests").mapM TestCase.ofValue
  let suites ← (← recordedItems fields "suites").mapM Suite.ofValue
  .ok
    { name := recorded fields "name"
      url := recorded fields "url"
      id := recorded fields "id"
      version := (recorded fields "version").display
      tests, suites, plugins, urls }

/-- The fields of a document that must be lists if they are there. -/
def listKeys : List Text := ["tests", "suites", "plugins"]

def absentOrList (fields : List (Text × Value)) (key : Text) : Bool :=
  match field? fields key with
  | none | some (.list _) => true
  | some _ => false

/-- A fault met while reading a document, as the reader of the document sees it. -/
def DocumentError.ofFault (f : Fault) : Failure DocumentError :=
  match f with
  | .raised .key key => .reported (.missingKey key)
  | f =>
    match f.cls with
    | .type | .value | .attribute => .reported (.malformed f)
    | _ => .escaped f

def Project.ofValue : Value → Except (Failure DocumentError) Project
  | .object fields =>
    match listKeys.find? fun key => !absentOrList fields key with
    | some key => .error (.reported (.notList key))
    | none => (Project.ofFields fields).mapError DocumentError.ofFault
  | _ => .error (.reported .notObject)

end TestScribe
