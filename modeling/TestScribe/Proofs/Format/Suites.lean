import TestScribe.Format.Builtin
import TestScribe.Proofs.Format.Composition
import TestScribe.Proofs.Format.Layers

/-!
The file of a suite. It has the blocks of the suite's tests one after another, between what opens
the file and its footer, and the block of a test is the one that the test has in a file of its own
(`suite_composed`). The layout sees to each part by itself, so that only the blank lines between
blocks may differ (`Layout.layered_arrange`).
-/

namespace TestScribe

open Text (nonBlank shown)

namespace Dialect

variable {d : Dialect} {r : Registry} {p : Project} {t : TestCase} {tests : List TestCase}
  {asked : Value} {name header body : Text} {parallel : Bool} {parts : List (List Text)}

def opening (d : Dialect) (parallel : Bool) (header : Text) : Text :=
  Text.unlines [d.imports parallel, [], header]

/-- The lines of a piece of code that is laid out alone. -/
def laid (d : Dialect) (code : Text) : List Text :=
  Layout.arrange (Layout.blankLimit d.language) (Text.lines code)

/-- Whether a file is made of blocks of lines: it shows what its opening, the blocks in order and
its footer show, and these stand in it one after another, with blank lines between them. -/
structure IsComposed (d : Dialect) (parallel : Bool) (header : Text) (blocks : List (List Text))
    (body : Text) : Prop where
  shows : nonBlank (Text.lines body) = shown (d.imports parallel) ++ shown header ++
    blocks.flatMap nonBlank ++ shown d.footer
  layered : Layered (d.laid (d.opening parallel header) :: blocks ++ [d.laid d.footer])
    (Text.lines body)

/-- Whether a block of lines is that of a test: the test has it in every file of its own. -/
def IsOwnBlock (d : Dialect) (r : Registry) (p : Project) (t : TestCase) (block : List Text) :
    Prop :=
  (∃ parts, d.block r p t = .ok parts ∧ block = d.laid (Text.unlines parts)) ∧
    ∀ asked name parallel, ∃ header body, d.header asked name p parallel = .ok header ∧
      d.generate r asked name [t] p parallel = .ok body ∧
      d.IsComposed parallel header [block] body

theorem nonBlank_laid (d : Dialect) (code : Text) : nonBlank (d.laid code) = shown code :=
  Layout.nonBlank_arrange _ _

theorem shown_opening (d : Dialect) (parallel : Bool) (header : Text) :
    shown (d.opening parallel header) = shown (d.imports parallel) ++ shown header := by
  rw [opening, Text.shown_unlines (by simp)]
  simp [shown, Text.lines, Text.split, nonBlank, Text.trimEnd, Text.dropEndWhile, Text.allBlank]

theorem ne_nil_of_block {parts : List Text} (h : d.block r p t = .ok parts) : parts ≠ [] := by
  unfold Dialect.block at h
  rw [Except.bind_eq_ok] at h
  obtain ⟨code, -, h⟩ := h
  cases h
  simp

theorem ne_nil_of_blocks (h : List.Forall₂ (fun t b => d.block r p t = .ok b) tests parts) :
    ∀ b ∈ parts, b ≠ [] := by
  induction h with
  | nil => simp
  | cons hb _ ih => exact List.forall_mem_cons.2 ⟨ne_nil_of_block hb, ih⟩

theorem flatMap_lines_flatten (h : ∀ b ∈ parts, b ≠ []) :
    parts.flatten.flatMap Text.lines =
      (parts.map fun b => Text.lines (Text.unlines b)).flatten := by
  induction parts with
  | nil => rfl
  | cons b parts ih =>
    obtain ⟨hb, hparts⟩ := List.forall_mem_cons.1 h
    rw [List.flatten_cons, List.flatMap_append, ih hparts, List.map_cons, List.flatten_cons,
      Text.lines_unlines hb]

theorem lines_fileCode (d : Dialect) (parallel : Bool) (header : Text)
    (hparts : ∀ b ∈ parts, b ≠ []) :
    Text.lines (d.fileCode parallel header parts) = (Text.lines (d.opening parallel header) ::
      (parts.map fun b => Text.lines (Text.unlines b)) ++ [Text.lines d.footer]).flatten := by
  rw [fileCode, Text.lines_unlines (by simp), List.flatMap_append, List.flatMap_append,
    flatMap_lines_flatten hparts, opening, Text.lines_unlines (by simp)]
  simp

theorem IsComposed.of_layered {blocks : List (List Text)}
    (h : Layered (d.laid (d.opening parallel header) :: blocks ++ [d.laid d.footer])
      (Text.lines body)) : d.IsComposed parallel header blocks body := by
  refine ⟨?_, h⟩
  rw [h.nonBlank_eq, List.cons_append, List.flatMap_cons, List.flatMap_append,
    List.flatMap_singleton, nonBlank_laid, nonBlank_laid, shown_opening, ← List.append_assoc]

/-- A file is laid out block by block. -/
theorem isComposed_format (d : Dialect) (parallel : Bool) (header : Text)
    (hparts : ∀ b ∈ parts, b ≠ []) :
    d.IsComposed parallel header (parts.map fun b => d.laid (Text.unlines b))
      (Layout.format d.language (d.fileCode parallel header parts)) := by
  obtain ⟨gap, hgap, hlines⟩ :=
    Layout.lines_format d.language (d.fileCode parallel header parts)
  have hlaid := Layout.layered_arrange (Layout.blankLimit d.language)
    (Text.lines (d.opening parallel header) ::
      (parts.map fun b => Text.lines (Text.unlines b)) ++ [Text.lines d.footer])
  rw [List.map_append, List.map_cons, List.map_map,
    ← lines_fileCode d parallel header hparts] at hlaid
  refine .of_layered ?_
  rw [hlines]
  exact hlaid.append_right hgap

theorem isComposed_of_generate (h : d.generate r asked name tests p parallel = .ok body) :
    ∃ header parts, d.header asked name p parallel = .ok header ∧
      List.Forall₂ (fun t b => d.block r p t = .ok b) tests parts ∧
      d.IsComposed parallel header (parts.map fun b => d.laid (Text.unlines b)) body := by
  obtain ⟨header, parts, hheader, hparts, rfl⟩ := generate_eq_ok.1 h
  exact ⟨header, parts, hheader, hparts,
    isComposed_format d parallel header (ne_nil_of_blocks hparts)⟩

theorem generate_of_emitSuite {e : EmittedFile} (h : d.emitSuite r asked p name = .ok e) :
    ∃ s tests, p.suite name = .ok s ∧ p.testsOf s = .ok tests ∧
      d.generate r asked s.name tests p s.parallel = .ok e.body := by
  unfold emitSuite at h
  rw [Except.bind_eq_ok] at h
  obtain ⟨s, hs, h⟩ := h
  rw [Except.bind_eq_ok] at h
  obtain ⟨tests, htests, h⟩ := h
  rw [Except.bind_eq_ok] at h
  obtain ⟨body, hbody, h⟩ := h
  cases h
  exact ⟨s, tests, hs, htests, hbody⟩

theorem isOwnBlock_of_block {b : List Text}
    (hheader : ∀ asked name parallel, ∃ header, d.header asked name p parallel = .ok header)
    (hblock : d.block r p t = .ok b) : d.IsOwnBlock r p t (d.laid (Text.unlines b)) := by
  refine ⟨⟨b, hblock, rfl⟩, fun asked name parallel => ?_⟩
  obtain ⟨header, hheader⟩ := hheader asked name parallel
  have hgenerate := generate_eq_ok.2 ⟨header, [b], hheader, .cons hblock .nil, rfl⟩
  exact ⟨header, _, hheader, hgenerate,
    isComposed_format d parallel header (List.forall_mem_singleton.2 (ne_nil_of_block hblock))⟩

end Dialect

theorem Builtin.exists_header {b : Builtin} (hb : b ∈ Builtin.all) {p : Project} {asked : Value}
    {name header : Text} {parallel : Bool}
    (h : b.dialect.header asked name p parallel = .ok header) (asked' : Value) (name' : Text)
    (parallel' : Bool) : ∃ header', b.dialect.header asked' name' p parallel' = .ok header' := by
  simp only [Builtin.all, List.mem_cons, List.not_mem_nil, or_false] at hb
  rcases hb with rfl | rfl | rfl
  all_goals
    obtain ⟨url, hurl, -⟩ := Except.bind_eq_ok.1 h
    exact ⟨_, Except.bind_eq_ok.2 ⟨url, hurl, rfl⟩⟩

/-- A suite's file is composed of the blocks of its tests in order, and each of these is the block
that the test has in any file of its own, which comes about whatever it is named for. -/
theorem suite_composed {b : Builtin} (hb : b ∈ Builtin.all) {r : Registry} {asked : Value}
    {p : Project} {name : Text} {e : EmittedFile}
    (h : b.dialect.emitSuite r asked p name = .ok e) :
    ∃ s tests header blocks, p.suite name = .ok s ∧ p.testsOf s = .ok tests ∧
      b.dialect.header asked s.name p s.parallel = .ok header ∧
      b.dialect.IsComposed s.parallel header blocks e.body ∧
      List.Forall₂ (b.dialect.IsOwnBlock r p) tests blocks := by
  obtain ⟨s, tests, hs, htests, hbody⟩ := Dialect.generate_of_emitSuite h
  obtain ⟨header, parts, hheader, hparts, hcomposed⟩ := Dialect.isComposed_of_generate hbody
  refine ⟨s, tests, header, _, hs, htests, hheader, hcomposed, ?_⟩
  rw [List.forall₂_map_right_iff]
  exact hparts.imp fun _ _ => Dialect.isOwnBlock_of_block (Builtin.exists_header hb hheader)

/-- A suite of two tests, of which one has no statement. -/
theorem suite_composed_of_two :
    let b : Builtin := ⟨"python-selenium", "side_export.export.templates.python_selenium",
      Pytest.dialect⟩
    let p : Project := {
      tests := [
        { name := "Log in", commands := [{ name := .text "open", target := .text "/" }] },
        { name := "Log out" }]
      suites := [{ name := "all", tests := ["Log out", "Log in"], parallel := true }] }
    b ∈ Builtin.all ∧ ∃ e, b.dialect.emitSuite .empty .null p "all" = .ok e ∧
      ∃ s tests header blocks, p.suite "all" = .ok s ∧ p.testsOf s = .ok tests ∧
        b.dialect.header .null s.name p s.parallel = .ok header ∧
        b.dialect.IsComposed s.parallel header blocks e.body ∧
        List.Forall₂ (b.dialect.IsOwnBlock .empty p) tests blocks := by
  intro b p
  have hb : b ∈ Builtin.all := by simp [b, Builtin.all]
  have hemits : (b.dialect.emitSuite .empty .null p "all").toOption.isSome = true := by
    decide +kernel
  cases h : b.dialect.emitSuite .empty .null p "all" with
  | error f =>
    rw [h] at hemits
    cases hemits
  | ok e => exact ⟨hb, e, rfl, suite_composed hb h⟩

/-- A suite whose name ends in a blank: the line of the opening that has the name in it does not
stand in the file, whatever comes after it. -/
theorem opening_loses_blanks :
    let d : Dialect := JUnit.dialect
    let p : Project := { tests := [{ name := "a" }], suites := [{ name := "s ", tests := ["a"] }] }
    ∃ e header, d.emitSuite .empty .null p "s " = .ok e ∧
      d.header .null "s " p false = .ok header ∧
      ∀ rest, nonBlank (Text.lines e.body) ≠
        nonBlank (Text.lines (d.imports false)) ++ nonBlank (Text.lines header) ++ rest := by
  intro d p
  let line : Text := " * Generated from: s "
  have hemits : (d.emitSuite .empty .null p "s ").toOption.isSome = true := by decide +kernel
  have hopens : (d.header .null "s " p false).toOption.any
      (fun header => (nonBlank (Text.lines header)).contains line) = true := by
    decide +kernel
  cases he : d.emitSuite .empty .null p "s " with
  | error f =>
    rw [he] at hemits
    cases hemits
  | ok e =>
    cases hheader : d.header .null "s " p false with
    | error f =>
      rw [hheader] at hopens
      cases hopens
    | ok header =>
      rw [hheader] at hopens
      refine ⟨e, header, rfl, rfl, fun rest hrest => ?_⟩
      have hline : line ∈ nonBlank (Text.lines e.body) := by
        rw [hrest]
        exact List.mem_append_left _ (List.mem_append_right _ (List.contains_iff_mem.1 hopens))
      obtain ⟨s, tests, -, -, hbody⟩ := Dialect.generate_of_emitSuite he
      obtain ⟨_, _, -, -, hformat⟩ := Dialect.generate_eq_ok.1 hbody
      rw [← hformat] at hline
      have hblank := Layout.trimEnd_of_mem_lines_format (List.mem_of_mem_filter hline)
      exact absurd hblank (by decide)

end TestScribe
