import TestScribe.Format.Verb
import TestScribe.Project.Lookup
import TestScribe.Layout
import TestScribe.Registry

/-!
How a project unit becomes a source file. A `Dialect` holds what differs between the built-in
formats; the composition of a file, the order in which a command is tried (built in, then plugins,
then a comment), and the placeholder for tests without a statement are the same for all.
-/

namespace TestScribe

structure EmittedFile where
  body : Text
  filename : Text
  deriving DecidableEq

/-- A built-in target language with its test framework. -/
structure Dialect where
  language : Text
  framework : Text
  extension : Text
  indent : Text
  /-- The imports of a file, given whether its tests are to run in parallel. -/
  imports : Bool → Text
  /-- The opening of a file for a unit of a name; the first value is the class name asked for. -/
  header : Value → Text → Project → Bool → Except Fault Text
  testHeader : TestCase → Text
  /-- The code for a command with a known verb. -/
  step : Verb → Command → Project → Except Fault Text
  /-- The statement of a test that has no other. -/
  emptyBody : Option Text
  testFooter : Text
  footer : Text
  filename : Text → Text

namespace Dialect

def pad (d : Dialect) : Text := d.indent ++ d.indent

def commentMark (d : Dialect) : Text := if Layout.isIndented d.language then "#" else "//"

def comment (d : Dialect) (t : Text) : Text := Text.trimEnd (d.commentMark ++ " " ++ t)

/-- The code for a command, if its verb is known. -/
def translate (d : Dialect) (c : Command) (p : Project) : Except Fault (Option Text) :=
  match Verb.ofValue? c.name with
  | none => .ok none
  | some v => (d.step v c p).map some

/-- A block of code, each line that is not empty moved in. -/
def indentBlock (pad code : Text) : Text :=
  Text.unlines ((Text.lines code).map fun l => if l.isEmpty then l else pad ++ l)

def unsupported (name : Text) : Text := "Unsupported command: " ++ name

/-- The code for a command that is not disabled and has a name. -/
def statement (d : Dialect) (r : Registry) (p : Project) (name : Text) (c : Command) :
    Except Fault Text := do
  match ← d.translate c p with
  | some code => .ok code
  | none =>
    match ← r.translate c d.language with
    | some code => .ok (indentBlock d.pad code)
    | none => .ok (d.pad ++ d.comment (unsupported name))

def remarks (d : Dialect) (c : Command) : List Text :=
  if c.comment.holds then [d.pad ++ d.comment c.comment.display] else []

def disabled (name : Text) (c : Command) : Text :=
  name.drop 2 ++ " | " ++ c.target.display ++ " | " ++ c.value.display

/-- The part of a file that a command gives rise to. -/
def emitCommand (d : Dialect) (r : Registry) (p : Project) (c : Command) : Except Fault Text := do
  let name := Text.trim (← c.name.textFor "strip")
  if name.isEmpty then .ok (Text.unlines (d.remarks c))
  else if "//".toList.isPrefixOf name then .ok (d.pad ++ d.comment (disabled name c))
  else
    let code ← d.statement r p name c
    .ok (Text.unlines (d.remarks c ++ [code]))

/-- Whether a line is neither blank nor a comment. -/
def isStatement (d : Dialect) (line : Text) : Bool :=
  let t := Text.trim line
  !t.isEmpty && !d.commentMark.isPrefixOf t

def hasStatement (d : Dialect) (chunks : List Text) : Bool :=
  chunks.any fun chunk => (Text.lines chunk).any d.isStatement

/-- The placeholder that a test with this code needs. -/
def placeholder (d : Dialect) (chunks : List Text) : List Text :=
  if d.hasStatement chunks then [] else d.emptyBody.toList

def block (d : Dialect) (r : Registry) (p : Project) (t : TestCase) : Except Fault (List Text) := do
  let code ← t.commands.mapM (d.emitCommand r p)
  let body := code.filter fun c => !c.isEmpty
  .ok (d.testHeader t :: body ++ d.placeholder body ++ [d.testFooter])

def generate (d : Dialect) (r : Registry) (className : Value) (name : Text) (tests : List TestCase)
    (p : Project) (parallel : Bool) : Except Fault Text := do
  let header ← d.header className name p parallel
  let blocks ← tests.mapM (d.block r p)
  .ok (Layout.format d.language
    (Text.unlines ([d.imports parallel, [], header] ++ blocks.flatten ++ [d.footer])))

def emitTest (d : Dialect) (r : Registry) (className : Value) (p : Project) (name : Text) :
    Except Fault EmittedFile := do
  let t ← p.test name
  let body ← d.generate r className t.name [t] p false
  .ok ⟨body, d.filename t.name⟩

def emitSuite (d : Dialect) (r : Registry) (className : Value) (p : Project) (name : Text) :
    Except Fault EmittedFile := do
  let s ← p.suite name
  let tests ← p.testsOf s
  let body ← d.generate r className s.name tests p s.parallel
  .ok ⟨body, d.filename s.name⟩

end Dialect

end TestScribe
