import TestScribe.Format.Dialect
import TestScribe.Proofs.Phases
import TestScribe.Proofs.Plugins.Registry

/-!
How a file is put together from its commands. A file is the parts of its tests one after another,
and each of these has a part for each command in order (`isFile_of_generate`). The part of a command
that the format does not know is what the first translator makes of it that accepts it, if there is
one (`honours_of_emitCommand`); blank and disabled commands never get to a translator.
-/

namespace TestScribe

namespace Registry

variable {c : Command} {language code : Text} {hooks : List Hook}

def IsFirst (c : Command) (language : Text) (hooks : List Hook) (code : Text) : Prop :=
  ∃ before h after, hooks = before ++ h :: after ∧ (∀ k ∈ before, k c language = .ok none) ∧
    h c language = .ok (some code)

theorem firstAnswer_eq_none (h : firstAnswer c language hooks = .ok none) :
    ∀ k ∈ hooks, k c language = .ok none := by
  rcases firstAnswer_eq_iff.1 h with ⟨-, hall⟩ | ⟨hne, -⟩
  · exact hall
  · exact absurd rfl hne

theorem firstAnswer_eq_some (h : firstAnswer c language hooks = .ok (some code)) :
    IsFirst c language hooks code := by
  rcases firstAnswer_eq_iff.1 h with ⟨hx, -⟩ | ⟨-, hfirst⟩
  · cases hx
  · exact hfirst

end Registry

namespace Dialect

variable {d : Dialect} {r : Registry} {p : Project} {c : Command} {t : TestCase}
  {name code part body : Text} {tests : List TestCase} {className : Value} {parallel : Bool}

/-- The part of a file that a command with a code gives rise to. -/
def withRemarks (d : Dialect) (c : Command) (code : Text) : Text :=
  Text.unlines (d.remarks c ++ [code])

/-- A command that a format leaves to translators: it has a name, is not disabled, and the format
has no code for it. -/
structure Leaves (d : Dialect) (p : Project) (c : Command) (name : Text) : Prop where
  recorded : c.name = .text name
  named : Text.trim name ≠ []
  enabled : "//".toList.isPrefixOf (Text.trim name) = false
  unknown : d.translate c p = .ok none

/-- Whether a part of a file is, if its command is left to translators and one of them accepts it,
what the first one that does makes of the command. -/
def Honours (d : Dialect) (r : Registry) (p : Project) (c : Command) (part : Text) : Prop :=
  ∀ name, d.Leaves p c name → (∃ h ∈ r.hooksOf name, ∃ code, h c d.language = .ok (some code)) →
    ∃ code, Registry.IsFirst c d.language (r.hooksOf name) code ∧
      part = d.withRemarks c (indentBlock d.pad code)

theorem emitCommand_of_leaves (h : d.Leaves p c name) : d.emitCommand r p c =
    (Registry.firstAnswer c d.language (r.hooksOf name)).map fun answer =>
      d.withRemarks c (match answer with
        | some code => indentBlock d.pad code
        | none => d.pad ++ d.comment (unsupported (Text.trim name))) := by
  obtain ⟨hname, hnamed, henabled, hunknown⟩ := h
  have htranslate : r.translate c d.language =
      Registry.firstAnswer c d.language (r.hooksOf name) := Registry.translate_of_text hname
  have hempty : (Text.trim name).isEmpty = false := by simpa using hnamed
  unfold emitCommand statement
  rw [hname, Value.textFor_text, hunknown, htranslate]
  simp only [bind, Except.bind, hempty, henabled, Bool.false_eq_true, ↓reduceIte]
  cases Registry.firstAnswer c d.language (r.hooksOf name) with
  | error f => rfl
  | ok answer => cases answer <;> rfl

theorem honours_of_emitCommand (h : d.emitCommand r p c = .ok part) : d.Honours r p c part := by
  rintro name hleaves ⟨k, hk, given, hgiven⟩
  rw [emitCommand_of_leaves hleaves] at h
  cases hfirst : Registry.firstAnswer c d.language (r.hooksOf name) with
  | error f =>
    rw [hfirst] at h
    cases h
  | ok answer =>
    rw [hfirst] at h
    cases answer with
    | none =>
      have hnone := Registry.firstAnswer_eq_none hfirst k hk
      rw [hgiven] at hnone
      cases hnone
    | some code =>
      cases h
      exact ⟨code, Registry.firstAnswer_eq_some hfirst, rfl⟩

/-- Whether a block of a file is that of a test: its opening, the parts of its commands in order as
far as there is anything in them, a placeholder if one is needed, and its end. -/
def IsBlock (d : Dialect) (holds : Command → Text → Prop) (t : TestCase) (block : List Text) :
    Prop :=
  ∃ parts, List.Forall₂ holds t.commands parts ∧
    block = d.testHeader t :: parts.filter (fun part => !part.isEmpty) ++
      d.placeholder (parts.filter fun part => !part.isEmpty) ++ [d.testFooter]

def IsFile (d : Dialect) (holds : Command → Text → Prop) (parallel : Bool) (tests : List TestCase)
    (body : Text) : Prop :=
  ∃ header blocks, List.Forall₂ (d.IsBlock holds) tests blocks ∧
    body = Layout.format d.language
      (Text.unlines ([d.imports parallel, [], header] ++ blocks.flatten ++ [d.footer]))

theorem isBlock_of_block {block : List Text} (h : d.block r p t = .ok block) :
    d.IsBlock (fun c part => d.emitCommand r p c = .ok part) t block := by
  unfold Dialect.block at h
  rw [Except.bind_eq_ok] at h
  obtain ⟨parts, hparts, h⟩ := h
  cases h
  exact ⟨parts, Except.mapM_eq_ok.1 hparts, rfl⟩

def fileCode (d : Dialect) (parallel : Bool) (header : Text) (blocks : List (List Text)) : Text :=
  Text.unlines ([d.imports parallel, [], header] ++ blocks.flatten ++ [d.footer])

/-- A file is generated if its header and the blocks of its tests are. -/
theorem generate_eq_ok : d.generate r className name tests p parallel = .ok body ↔
    ∃ header blocks, d.header className name p parallel = .ok header ∧
      List.Forall₂ (fun t block => d.block r p t = .ok block) tests blocks ∧
      Layout.format d.language (d.fileCode parallel header blocks) = body := by
  simp only [generate, Except.bind_eq_ok, Except.mapM_eq_ok, Except.ok.injEq]
  constructor
  · rintro ⟨header, hheader, blocks, hblocks, hbody⟩
    exact ⟨header, blocks, hheader, hblocks, hbody⟩
  · rintro ⟨header, blocks, hheader, hblocks, hbody⟩
    exact ⟨header, hheader, blocks, hblocks, hbody⟩

/-- A generated file has a block for each test, and in it a part for each command. -/
theorem isFile_of_generate (h : d.generate r className name tests p parallel = .ok body) :
    d.IsFile (fun c part => d.emitCommand r p c = .ok part) parallel tests body := by
  obtain ⟨header, blocks, -, hblocks, hbody⟩ := generate_eq_ok.1 h
  exact ⟨header, blocks, hblocks.imp fun _ _ => isBlock_of_block, hbody.symm⟩

theorem IsFile.imp {holds holds' : Command → Text → Prop} (h : d.IsFile holds parallel tests body)
    (himp : ∀ c part, holds c part → holds' c part) : d.IsFile holds' parallel tests body := by
  obtain ⟨header, blocks, hblocks, hbody⟩ := h
  refine ⟨header, blocks, hblocks.imp ?_, hbody⟩
  rintro t block ⟨parts, hparts, hblock⟩
  exact ⟨parts, hparts.imp himp, hblock⟩

end Dialect

end TestScribe
