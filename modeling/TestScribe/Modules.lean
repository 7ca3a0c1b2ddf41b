import TestScribe.Emission

/-!
Modules of somebody else's code: a file, a directory that stands for the first file in it, or a name
in a library. A module may register translators with a registry, and it may provide a format, either
as an object or by functions of its own.
-/

namespace TestScribe

inductive Ending where
  | done
  | fails (f : Fault)
  /-- It raises a plugin error of its own. -/
  | refuses (t : Text)

/-- What the registration function of a module does: it registers these one after another, `none`
being something that cannot be called, stops at the first refusal, and ends. -/
structure Registration where
  commands : List (Text × Option Hook) := []
  ending : Ending := .done

structure Members where
  emitTest : Option Emitter := none
  emitSuite : Option Emitter := none

/-- A format needs both functions. -/
def Members.format? (m : Members) : Option Format := do
  let test ← m.emitTest
  let suite ← m.emitSuite
  return ⟨test, suite⟩

def Members.ofFormat (f : Format) : Members := ⟨some f.emitTest, some f.emitSuite⟩

@[simp] theorem Members.format?_ofFormat (f : Format) : (ofFormat f).format? = some f := rfl

structure Module where
  /-- The fault with which loading it ends. -/
  fault : Option Fault := none
  registration : Option Registration := none
  members : Members := {}
  /-- The object that goes before the functions of the module. -/
  object : Option Members := none

def Module.format? (m : Module) : Option Format := (m.object.getD m.members).format?

/-- The modules that there are. A file that is not listed holds an empty module. The fault of a name
is that of everything on the way to it: a module in a broken package cannot be loaded either. -/
structure Library where
  named : List (Text × Module) := []
  files : List (Location × Module) := []
  /-- The module in a file that is written anew. -/
  code : FileContent → Module := fun _ => {}
  /-- The exceptions of modules that have no text. -/
  mute : Mute := .never

inductive Role where
  | plugin | format
  deriving DecidableEq

namespace Role

def word : Role → Text
  | plugin => "plugin"
  | format => "format"

def title : Role → Text
  | plugin => "Plugin"
  | format => "Format"

end Role

inductive ModuleProblem where
  | noFile
  | notCode
  | failed (f : Fault)
  | unknown

structure ModuleError where
  role : Role
  reference : Text
  problem : ModuleProblem

def ModuleError.headline (e : ModuleError) : Text :=
  match e.problem with
  | .noFile => e.role.title ++ " file not found: " ++ e.reference
  | .notCode => "Cannot load " ++ e.role.word ++ " from " ++ e.reference
  | .failed _ => e.role.title ++ " " ++ e.reference ++ " failed to import"
  | .unknown => "Could not import " ++ e.role.word ++ " module '" ++ e.reference ++ "'"

namespace Library

def codeSuffix : Text := ".py"

/-- The file that stands for its directory. -/
def indexFile : Text := "__init__.py"

def isCode (p : Path) : Bool := codeSuffix.isSuffixOf p.toText

/-- The answer of the operating system to a question about a path. -/
def asked {α : Type} (p : Path) (r : Except FileCause α) : Except (Failure ModuleProblem) α :=
  r.mapError fun c => .escaped (.file ⟨c, p⟩)

/-- The module in a file, unless loading it fails. The report of that has the text of the fault in
it. -/
def run (lib : Library) (m : Module) : Except (Failure ModuleProblem) Module :=
  match m.fault with
  | some f =>
    match f.mutedBy lib.mute with
    | some g => .error (.escaped g)
    | none => .error (.reported (.failed f))
  | none => .ok m

def rewritten (lib : Library) (before after : FileTree) (l : Location) : Option Module :=
  match after.at? l with
  | some (.file c) => if after.at? l = before.at? l then none else some (lib.code c)
  | _ => none

/-- The library after files have been written. -/
def renewed (lib : Library) (before after : FileTree) : Library :=
  let modules := after.entries.filterMap fun e =>
    (lib.rewritten before after e.1).map fun m => (e.1, m)
  { lib with files := modules ++ lib.files }

theorem rewritten_of_eq (lib : Library) {before after : FileTree} {l : Location}
    (h : after.at? l = before.at? l) : lib.rewritten before after l = none := by
  unfold rewritten
  split
  · exact if_pos h
  · rfl

theorem lookup_renewed (lib : Library) {before after : FileTree} {l : Location}
    (h : after.at? l = before.at? l) :
    (lib.renewed before after).files.lookup l = lib.files.lookup l := by
  have hnone : (after.entries.filterMap fun e =>
      (lib.rewritten before after e.1).map fun m => (e.1, m)).lookup l = none := by
    rw [List.lookup_eq_none_iff]
    rintro ⟨k, m⟩ hk
    obtain ⟨e, -, he⟩ := List.mem_filterMap.1 hk
    obtain ⟨n, hn, hpair⟩ := Option.map_eq_some_iff.1 he
    obtain ⟨rfl, rfl⟩ := Prod.mk.inj hpair
    rw [bne_iff_ne]
    rintro rfl
    rw [lib.rewritten_of_eq h] at hn
    cases hn
  rw [renewed, List.lookup_append, hnone, Option.none_or]

def codePath (files : FileTree) (p : Path) : Except (Failure ModuleProblem) Path := do
  if ← asked p (files.hasDirectory p.parts) then return ⟨p.slashes, p.parts ++ [indexFile]⟩
  else return p

def loadFile (lib : Library) (files : FileTree) (p : Path) :
    Except (Failure ModuleProblem) Module := do
  let q ← codePath files p
  if !(← asked q (files.hasFile q.parts)) then .error (.reported .noFile)
  else if !isCode q then .error (.reported .notCode)
  else
    let l ← asked q (files.locate q.parts)
    lib.run ((lib.files.lookup l).getD {})

/-- The module of a name; a fault in it is nobody's but its own. -/
def loadNamed (lib : Library) (name : Text) : Except (Failure ModuleProblem) Module :=
  match name with
  | [] => .error (.escaped (.raised .value "Empty module name"))
  | '.' :: _ =>
    .error (.escaped (.raised .type
      ("a relative name has nothing to start from: " ++ Text.quoted name)))
  | _ =>
    match lib.named.lookup name with
    | none => .error (.reported .unknown)
    | some m =>
      match m.fault with
      | some f => .error (.escaped f)
      | none => .ok m

/-- The packages that a dotted name goes through, the outermost first. -/
def packages (name : Text) : List Text :=
  let parts := Text.split '.' name
  (List.range (parts.length - 1)).map fun n => Text.join "." (parts.take (n + 1))

/-- Whether there is a module of this name. To look for one runs the packages on the way to it; a
package that is not listed has nothing to run. A relative name has nothing to start from. -/
def find (lib : Library) (name : Text) : Except Fault Bool :=
  if name.head? = some '.' then .ok false
  else
    match (packages name).findSome? fun p => (lib.named.lookup p).bind Module.fault with
    | some f => .error f
    | none => .ok (lib.named.lookup name).isSome

def about {α : Type} (role : Role) (reference : Text) (r : Except (Failure ModuleProblem) α) :
    Except (Failure ModuleError) α :=
  r.mapError (Failure.within fun p => ⟨role, reference, p⟩)

/-- The module to which a reference leads, either in a file or by its name. -/
def load (lib : Library) (files : FileTree) (role : Role) (isPath : Bool) (reference : Text) :
    Except (Failure ModuleError) Module :=
  about role reference
    (if isPath then lib.loadFile files (Path.ofText reference) else lib.loadNamed reference)

end Library

end TestScribe
