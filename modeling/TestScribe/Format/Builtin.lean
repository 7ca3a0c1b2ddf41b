import TestScribe.Format.JUnit
import TestScribe.Format.Playwright
import TestScribe.Format.Pytest
import TestScribe.Modules

/-!
The built-in formats, with the short names by which they are asked for and the names of the modules
that they are found in.
-/

namespace TestScribe

/-- A built-in format looks at the shared registry once, and then answers or fails at once. -/
def Dialect.format (d : Dialect) : Format :=
  let emit (f : Registry → Except Fault EmittedFile) : Emission :=
    .consults fun r =>
      match f r with
      | .ok e => .answers (.file (.text e.body) (.text e.filename))
      | .error f => .fails (.fault f)
  { emitTest := fun p name => emit fun r => d.emitTest r .null p name
    emitSuite := fun p name => emit fun r => d.emitSuite r .null p name }

structure Builtin where
  shortName : Text
  moduleName : Text
  dialect : Dialect

namespace Builtin

def all : List Builtin :=
  [⟨"java-selenium", "side_export.export.templates.java_selenium", JUnit.dialect⟩,
   ⟨"python-selenium", "side_export.export.templates.python_selenium", Pytest.dialect⟩,
   ⟨"typescript-playwright", "side_export.export.templates.typescript_playwright",
    Playwright.dialect⟩]

def ofShortName? (t : Text) : Option Builtin := all.find? (·.shortName = t)

def modules : List (Text × Module) :=
  all.map fun b => (b.moduleName, { object := some (Members.ofFormat b.dialect.format) })

end Builtin

inductive FormatError where
  | module (error : ModuleError)
  /-- One of the two functions is missing. -/
  | incomplete (reference : Text)

def FormatError.headline : FormatError → Text
  | module e => e.headline
  | incomplete reference =>
    "Format " ++ reference ++ " must provide emit_test and emit_suite "
      ++ "(as a 'default' object or module-level functions)"

/-- The format to which a reference leads: an absolute path or the name of a module. -/
def Format.load (lib : Library) (files : FileTree) (reference : Text) :
    Except (Failure FormatError) Format := do
  let isPath := (Path.ofText reference).isAbsolute
  let m ← (lib.load files .format isPath reference).mapError (Failure.within .module)
  match m.format? with
  | some f => .ok f
  | none => .error (.reported (.incomplete reference))

end TestScribe
