import TestScribe.Proofs.Format.Classes
import TestScribe.Proofs.Format.Spacing

/-!
The bodies of the functions in a Python file. A function needs a statement, but commands may leave
nothing but blank lines and comments; then the test gets a placeholder. Whether it needs one is told
by the code before this is laid out. The layout leaves alone what is not blank, so in the file, too,
each function has a statement (`functions_have_bodies`).
-/

namespace TestScribe

open Text (nonBlank shown)

theorem forall₂_comp {α β γ : Type} {R : α → β → Prop} {S : β → γ → Prop} {T : α → γ → Prop}
    (h : ∀ {a b c}, R a b → S b c → T a c) {as : List α} {bs : List β} {cs : List γ}
    (hr : List.Forall₂ R as bs) (hs : List.Forall₂ S bs cs) : List.Forall₂ T as cs := by
  induction hr generalizing cs with
  | nil =>
    cases hs
    exact .nil
  | cons hab _ ih =>
    cases hs with
    | cons hbc hrest => exact .cons (h hab hbc) (ih hrest)

namespace Layered

variable {ls foot : List Text} {parts : List (List Text)}

theorem of_append_blank (hfoot : ∀ l ∈ foot, l = []) (h : Layered (parts ++ [foot]) ls) :
    Layered parts ls := by
  induction parts generalizing ls with
  | nil =>
    cases h with
    | part hgap hrest =>
      cases hrest with
      | done hend =>
        refine .done fun l hl => ?_
        rcases List.mem_append.1 hl with hl | hl
        · exact (List.mem_append.1 hl).elim (hgap l) (hfoot l)
        · exact hend l hl
  | cons p parts ih =>
    cases h with
    | part hgap hrest => exact .part hgap (ih hrest)

theorem exists_flatten (h : Layered parts ls) : ∃ gap wholes, ls = gap ++ wholes.flatten ∧
    (∀ l ∈ gap, l = []) ∧
    List.Forall₂ (fun part whole => ∃ after, (∀ l ∈ after, l = []) ∧ whole = part ++ after)
      parts wholes := by
  induction h with
  | @done gap hgap => exact ⟨gap, [], by simp, hgap, .nil⟩
  | @part gap part ls parts hgap hrest ih =>
    obtain ⟨after, wholes, rfl, hafter, hwholes⟩ := ih
    refine ⟨gap, (part ++ after) :: wholes, ?_, hgap, .cons ⟨after, hafter, rfl⟩ hwholes⟩
    simp only [List.flatten_cons, List.append_assoc]

end Layered

/-- A piece of code that begins with a line of its own is laid out with this line as the first. -/
theorem Dialect.exists_laid_eq (d : Dialect) {first : Text} (hline : '\n' ∉ first)
    (hend : Text.trimEnd first = first) (hshows : Text.allBlank first = false) (ts : List Text) :
    ∃ rest, d.laid (Text.unlines (first :: ts)) = first :: rest ∧
      nonBlank rest = ts.flatMap shown := by
  have hne : first ≠ [] := Layout.ne_nil_of_allBlank hshows
  obtain ⟨rest, hrest⟩ : ∃ rest, d.laid (Text.unlines (first :: ts)) = first :: rest := by
    -- nothing is dropped before a line that is not blank, and this one is the first
    have hlines : Text.lines (Text.unlines (first :: ts)) = first :: ts.flatMap Text.lines := by
      rw [Text.lines_unlines (List.cons_ne_nil _ _), List.flatMap_cons, Text.lines,
        Text.split_of_not_mem hline, List.singleton_append]
    rw [laid, Layout.arrange, hlines, List.map_cons, hend, Layout.limit_cons hne,
      Text.dropEndWhile_cons_of_neg (List.isEmpty_eq_false_iff.2 hne)]
    exact ⟨_, rfl⟩
  refine ⟨rest, hrest, ?_⟩
  have hfirst : nonBlank [first] = [first] := by simp [nonBlank, hshows]
  have hshown := d.nonBlank_laid (Text.unlines (first :: ts))
  rw [hrest, Text.shown_unlines (List.cons_ne_nil _ _), List.flatMap_cons,
    Text.shown_of_not_mem hline, hend, ← List.singleton_append, Text.nonBlank_append,
    hfirst] at hshown
  exact List.append_cancel_left hshown

namespace Pytest

variable {ls : List Text} {line part : Text} {parts : List Text} {t : TestCase}

/-- Whether a line is more than blanks and a comment. -/
def IsStatement (line : Text) : Prop := Text.trim line ≠ [] ∧ (Text.trim line).head? ≠ some '#'

def HasStatement (ls : List Text) : Prop := ∃ line ∈ ls, IsStatement line

def placeholder : Text := "        pass"

theorem isStatement_iff : dialect.isStatement line = true ↔ IsStatement line := by
  have hmark : dialect.commentMark = ['#'] := by decide
  unfold Dialect.isStatement IsStatement
  rw [hmark]
  cases Text.trim line with
  | nil => exact iff_of_false (by decide) fun h => h.1 rfl
  | cons c r => by_cases hc : c = '#' <;> simp [List.isPrefixOf, hc, Ne.symm]

theorem IsStatement.allBlank (h : IsStatement line) : Text.allBlank line = false := by
  rw [← Bool.not_eq_true, ← Text.trim_eq_nil_iff]
  exact h.1

theorem hasStatement_nonBlank : HasStatement (nonBlank ls) ↔ HasStatement ls := by
  constructor
  · rintro ⟨line, hmem, hline⟩
    exact ⟨line, List.mem_of_mem_filter hmem, hline⟩
  · rintro ⟨line, hmem, hline⟩
    exact ⟨line, List.mem_filter.2 ⟨hmem, by rw [hline.allBlank]; rfl⟩, hline⟩

theorem hasStatement_flatMap {α : Type} {f : α → List Text} {parts : List α} :
    HasStatement (parts.flatMap f) ↔ ∃ part ∈ parts, HasStatement (f part) := by
  simp only [HasStatement, List.mem_flatMap]
  constructor
  · rintro ⟨line, ⟨part, hpart, hmem⟩, hline⟩
    exact ⟨part, hpart, line, hmem, hline⟩
  · rintro ⟨part, hpart, line, hmem, hline⟩
    exact ⟨line, ⟨part, hpart, hmem⟩, hline⟩

theorem hasStatement_shown : HasStatement (shown part) ↔ HasStatement (Text.lines part) := by
  rw [shown, hasStatement_nonBlank]
  simp [HasStatement, IsStatement, Text.trim_trimEnd]

theorem hasStatement_iff : dialect.hasStatement (parts.filter fun part => !part.isEmpty) = true ↔
    HasStatement (parts.flatMap Text.lines) := by
  rw [hasStatement_flatMap, Dialect.hasStatement, List.any_eq_true]
  constructor
  · rintro ⟨part, hpart, hany⟩
    obtain ⟨line, hline, hstatement⟩ := List.any_eq_true.1 hany
    exact ⟨part, List.mem_of_mem_filter hpart, line, hline, isStatement_iff.1 hstatement⟩
  · rintro ⟨part, hpart, line, hline, hstatement⟩
    refine ⟨part, List.mem_filter.2 ⟨hpart, ?_⟩,
      List.any_eq_true.2 ⟨line, hline, isStatement_iff.2 hstatement⟩⟩
    cases part with
    | nil =>
      obtain rfl := List.mem_singleton.1 hline
      exact absurd rfl hstatement.1
    | cons c r => rfl

theorem flatMap_shown_filter (parts : List Text) :
    (parts.filter fun part => !part.isEmpty).flatMap shown = parts.flatMap shown := by
  induction parts with
  | nil => rfl
  | cons part parts ih =>
    cases part with
    | nil => exact ih
    | cons c r => rw [List.filter_cons_of_pos rfl, List.flatMap_cons, List.flatMap_cons, ih]

/-- Whether lines are the function of a test: the header, and below it what the parts of the
commands show, with the placeholder at the end exactly if these have no statement. -/
def IsFunction (r : Registry) (p : Project) (t : TestCase) (ls : List Text) : Prop :=
  ∃ parts rest, List.Forall₂ (fun c part => dialect.emitCommand r p c = .ok part) t.commands parts ∧
    ls = testHeader t :: rest ∧ HasStatement rest ∧
    (HasStatement (parts.flatMap Text.lines) → nonBlank rest = parts.flatMap shown) ∧
    (¬ HasStatement (parts.flatMap Text.lines) →
      nonBlank rest = parts.flatMap shown ++ [placeholder])

theorem newline_not_mem_testHeader (t : TestCase) : '\n' ∉ testHeader t := by
  have hname : '\n' ∉ Naming.snake t.name :=
    (Naming.isWords_snake t.name).not_mem (by decide) (by decide)
  unfold testHeader
  simp [hname]

theorem trimEnd_testHeader (t : TestCase) : Text.trimEnd (testHeader t) = testHeader t := by
  have hsplit : testHeader t =
      ("    def test_" ++ Naming.snake t.name ++ "(self)".toList) ++ [':'] :=
    (List.append_assoc _ "(self)".toList [':']).symm
  rw [hsplit, Text.trimEnd_append_singleton _ (by decide)]

theorem allBlank_testHeader (t : TestCase) : Text.allBlank (testHeader t) = false := by
  unfold testHeader
  simp +decide [Text.allBlank]

/-- The lines of a test's block are its function, whatever blank lines come after them. -/
theorem isFunction_of_block {r : Registry} {p : Project} {block after : List Text}
    (hblock : dialect.block r p t = .ok block) (hafter : ∀ l ∈ after, l = []) :
    IsFunction r p t (dialect.laid (Text.unlines block) ++ after) := by
  obtain ⟨parts, hparts, rfl⟩ := Dialect.isBlock_of_block hblock
  obtain ⟨rest, hlaid, hrest⟩ := dialect.exists_laid_eq (newline_not_mem_testHeader t)
    (trimEnd_testHeader t) (allBlank_testHeader t)
    (parts.filter (fun part => !part.isEmpty) ++
      dialect.placeholder (parts.filter fun part => !part.isEmpty) ++ [dialect.testFooter])
  have hshown : nonBlank (rest ++ after) = parts.flatMap shown ++
      (dialect.placeholder (parts.filter fun part => !part.isEmpty)).flatMap shown := by
    have hfooter : shown dialect.testFooter = [] := by decide
    rw [Text.nonBlank_append, Text.nonBlank_eq_nil hafter, List.append_nil, hrest,
      List.flatMap_append, List.flatMap_append, List.flatMap_singleton, hfooter,
      flatMap_shown_filter, List.append_nil]
  have hstated : HasStatement (parts.flatMap Text.lines) →
      nonBlank (rest ++ after) = parts.flatMap shown := by
    intro h
    rw [hshown, Dialect.placeholder, if_pos (hasStatement_iff.2 h), List.flatMap_nil,
      List.append_nil]
  have hbare : ¬ HasStatement (parts.flatMap Text.lines) →
      nonBlank (rest ++ after) = parts.flatMap shown ++ [placeholder] := by
    intro h
    have hpass : shown placeholder = [placeholder] := by decide
    rw [hshown, Dialect.placeholder, if_neg (mt hasStatement_iff.1 h)]
    exact congrArg (_ ++ ·) hpass
  refine ⟨parts, rest ++ after, hparts, congrArg (· ++ after) hlaid, ?_, hstated, hbare⟩
  -- a line that is not blank is kept, be it one of the code or the placeholder
  rw [← hasStatement_nonBlank]
  by_cases h : HasStatement (parts.flatMap Text.lines)
  · rw [hstated h, hasStatement_flatMap]
    simpa only [hasStatement_shown, hasStatement_flatMap] using h
  · rw [hbare h]
    exact ⟨placeholder, List.mem_append_right _ List.mem_cons_self, by decide, by decide⟩

end Pytest

/-- Every function of a Python file has a body. Below what opens the file, there is a function for
each test: its header, and behind it a line that is neither blank nor a comment. What it shows is
the code of the commands in order, and the placeholder exactly if none of these lines is in it. -/
theorem functions_have_bodies {r : Registry} {asked : Value} {name : Text}
    {tests : List TestCase} {p : Project} {parallel : Bool} {body : Text}
    (h : Pytest.dialect.generate r asked name tests p parallel = .ok body) :
    ∃ header top functions, Pytest.header asked name p parallel = .ok header ∧
      nonBlank top = shown (Pytest.imports parallel) ++ shown header ∧
      Text.lines body = top ++ functions.flatten ∧
      List.Forall₂ (Pytest.IsFunction r p) tests functions := by
  obtain ⟨header, blocks, hheader, hblocks, hcomposed⟩ := Dialect.isComposed_of_generate h
  have hfooter : ∀ l ∈ Pytest.dialect.laid Pytest.dialect.footer, l = [] := by decide
  have hlayered := hcomposed.layered.of_append_blank hfooter
  obtain ⟨gap, wholes, hlines, hgap, hwholes⟩ := hlayered.exists_flatten
  obtain ⟨top, functions, ⟨after, hafter, htop⟩, hfunctions, rfl⟩ :=
    List.forall₂_cons_left_iff.1 hwholes
  refine ⟨header, gap ++ top, functions, hheader, ?_,
    hlines.trans (List.append_assoc gap top functions.flatten).symm, ?_⟩
  · rw [htop, Text.nonBlank_append, Text.nonBlank_append, Text.nonBlank_eq_nil hgap,
      Text.nonBlank_eq_nil hafter, Dialect.nonBlank_laid, Dialect.shown_opening, List.append_nil]
    rfl
  · rw [List.forall₂_map_left_iff] at hfunctions
    refine forall₂_comp ?_ hblocks hfunctions
    rintro t block _ hblock ⟨after, hafter, rfl⟩
    exact Pytest.isFunction_of_block hblock hafter

/-- A test with a disabled command and one that a translator answers with a comment, and a test with
a statement. -/
theorem functions_have_bodies_of_comments :
    let quiet : TestCase := {
      name := "Quiet", commands := [{ name := .text "//click" }, { name := .text "hush" }] }
    let loud : TestCase := { name := "Loud", commands := [{ name := .text "close" }] }
    let r : Registry := { hooks := [("hush", [fun _ _ => .ok (some "# hush\n")])] }
    ∃ body, Pytest.dialect.generate r .null "s" [quiet, loud] {} false = .ok body ∧
      ∃ header top functions, Pytest.header .null "s" {} false = .ok header ∧
        nonBlank top = shown (Pytest.imports false) ++ shown header ∧
        Text.lines body = top ++ functions.flatten ∧
        List.Forall₂ (Pytest.IsFunction r {}) [quiet, loud] functions := by
  intro quiet loud r
  have hgenerates : (Pytest.dialect.generate r .null "s" [quiet, loud] {} false).toOption.isSome =
      true := by
    decide +kernel
  cases h : Pytest.dialect.generate r .null "s" [quiet, loud] {} false with
  | error f =>
    rw [h] at hgenerates
    cases hgenerates
  | ok body => exact ⟨body, rfl, functions_have_bodies h⟩

end TestScribe
