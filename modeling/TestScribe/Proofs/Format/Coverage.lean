import TestScribe.Proofs.Format.Comments
import TestScribe.Proofs.Format.Independence
import TestScribe.Proofs.Format.Suites

/-!
No command gets lost. The built-in formats know the same commands (`translate_eq_none_iff`), and the
code that they give for one has words of its own in it, whatever has been recorded
(`Builtin.shows_of_translate`). So each command with a name leaves a line in the file that is not
blank: its code, or a comment (`commands_covered`).
-/

namespace TestScribe

namespace Text

variable {s t : Text} {ts : List Text}

/-- Whether there is a character in a text that is not blank. -/
def Shows (t : Text) : Prop := ∃ c ∈ t, isBlank c = false

instance (t : Text) : Decidable t.Shows :=
  decidable_of_iff (t.any (!isBlank ·) = true) (by simp [Shows])

theorem shows_iff : Shows t ↔ allBlank t = false := by
  simp [Shows, allBlank, List.all_eq_false]

theorem shows_append : Shows (s ++ t) ↔ Shows s ∨ Shows t := by
  simp [Shows, List.mem_append, or_and_right, exists_or]

theorem shows_trimEnd : Shows (trimEnd t) ↔ Shows t := by
  obtain ⟨u, ht, hu⟩ := exists_dropEndWhile_append isBlank t
  have hblank : ¬ Shows u := by
    rintro ⟨c, hc, hshows⟩
    rw [hu c hc] at hshows
    cases hshows
  have happend := shows_append (s := trimEnd t) (t := u)
  rw [trimEnd, ← ht, or_iff_left hblank] at happend
  exact happend.symm

theorem shows_unlines : Shows (unlines ts) ↔ ∃ t ∈ ts, Shows t := by
  induction ts with
  | nil => simp [unlines, Shows]
  | cons t ts ih =>
    by_cases hts : ts = []
    · simp [hts, unlines]
    · have hfeed : ¬ Shows ['\n'] := by decide
      rw [unlines, join_cons_of_ne_nil _ _ hts, shows_append, shows_append, or_iff_left hfeed,
        List.exists_mem_cons_iff, ← ih, unlines]

theorem shown_ne_nil : shown t ≠ [] ↔ Shows t := by
  have hlines : Shows t ↔ ∃ l ∈ lines t, Shows (trimEnd l) := by
    simp only [shows_trimEnd, ← shows_unlines, unlines_lines]
  simp only [hlines, shows_iff, shown, nonBlank, ne_eq, List.filter_eq_nil_iff]
  simp

end Text

open Text (Shows shown nonBlank)

/-- Whether a text that may come about shows something if it does. -/
def Yields (x : Except Fault Text) : Prop := ∀ t, x = .ok t → Shows t

namespace Yields

variable {α : Type} {x : Except Fault α} {f : α → Except Fault Text} {t : Text}

theorem ok (h : Shows t) : Yields (.ok t) := by
  rintro u ⟨⟩
  exact h

theorem unlines {l : Text} (h : Shows l) (ls : List Text) : Yields (.ok (Text.unlines (l :: ls))) :=
  .ok (Text.shows_unlines.2 ⟨l, List.mem_cons_self, h⟩)

theorem bind (h : ∀ a, x = .ok a → Yields (f a)) : Yields (x >>= f) := by
  intro t ht
  obtain ⟨a, ha, hf⟩ := Except.bind_eq_ok.1 ht
  exact h a ha t hf

end Yields

/-! In each format a piece of the code for a verb shows, whatever is put in between the pieces. Only
where the code has more than one line, or comes from another function as a whole, it has to be said
which piece that is. -/

theorem JUnit.yields_toggle (condition : Text) (v : Value) : Yields (toggle condition v) :=
  .bind fun _ _ => .unlines (by decide) _

theorem JUnit.yields_step (v : Verb) (c : Command) (p : Project) : Yields (step v c p) := by
  cases v
  case check => exact yields_toggle _ _
  case uncheck => exact yields_toggle _ _
  case pause => exact .bind fun _ _ => .unlines (by decide) _
  case waitVisible =>
    refine .bind fun _ _ => .bind fun _ _ => .unlines ?_ _
    simp +decide only [Text.shows_append, or_true]
  case executeScript =>
    refine .bind fun _ _ => ?_
    split
    · refine .bind fun _ _ => .ok ?_
      simp +decide only [Text.shows_append, or_true]
    · refine .ok ?_
      simp +decide only [Text.shows_append, or_true]
  all_goals
    repeat' refine .bind fun _ _ => ?_
    refine .ok ?_
    simp +decide only [assertEqual, Text.shows_append, or_true, true_or]

theorem Pytest.yields_script (v : Value) : Yields (script v) :=
  .bind fun _ _ => .ok (by simp +decide only [Text.shows_append, or_true, true_or])

theorem Pytest.yields_toggle (condition : Text) (v : Value) : Yields (toggle condition v) :=
  .bind fun _ _ => .unlines (by simp +decide only [Text.shows_append, true_or]) _

theorem Pytest.yields_step (v : Verb) (c : Command) (p : Project) : Yields (step v c p) := by
  cases v
  case check => exact yields_toggle _ _
  case uncheck => exact yields_toggle _ _
  case runScript =>
    refine .bind fun _ h => .ok ?_
    exact Text.shows_append.2 (.inr (yields_script _ _ h))
  case waitVisible =>
    refine .bind fun _ _ => .bind fun _ _ => .unlines ?_ _
    simp +decide only [Text.shows_append, or_true]
  case executeScript =>
    refine .bind fun _ h => ?_
    split
    · refine .bind fun _ _ => .ok ?_
      simp +decide only [Text.shows_append, or_true, true_or]
    · exact .ok (Text.shows_append.2 (.inr (yields_script _ _ h)))
  all_goals
    repeat' refine .bind fun _ _ => ?_
    refine .ok ?_
    simp +decide only [Text.shows_append, or_true, true_or]

theorem Playwright.yields_typePart (target : Value) (k : KeyPart) :
    Yields (typePart target k) := by
  refine .bind fun _ _ => ?_
  cases k with
  | key name =>
    refine .ok ?_
    simp +decide only [Text.shows_append, or_true, true_or]
  | text t =>
    refine .ok ?_
    simp +decide only [Text.shows_append, or_true, true_or]

theorem Playwright.yields_expectText (assertion : Text) (c : Command) :
    Yields (expectText assertion c) := by
  refine .bind fun _ _ => .bind fun _ _ => .ok ?_
  simp +decide only [Text.shows_append, or_true, true_or]

theorem Playwright.yields_step (v : Verb) (c : Command) (p : Project) : Yields (step v c p) := by
  cases v
  case assertText => exact yields_expectText _ _
  case assertValue => exact yields_expectText _ _
  case sendKeys =>
    refine .bind fun parts _ => ?_
    cases parts with
    | nil =>
      refine .bind fun _ _ => .ok ?_
      simp +decide only [Text.shows_append, or_true, true_or]
    | cons k ks =>
      refine .bind fun statements h => ?_
      cases Except.mapM_eq_ok.1 h with
      | cons hk _ => exact .unlines (yields_typePart _ _ _ hk) _
  case executeScript =>
    show Yields (if c.value.holds then _ else _)
    split
    · refine .bind fun _ _ => .ok ?_
      simp +decide only [Text.shows_append, or_true]
    · refine .ok ?_
      simp +decide only [Text.shows_append, or_true]
  all_goals
    repeat' refine .bind fun _ _ => ?_
    refine .ok ?_
    simp +decide only [Text.shows_append, or_true, true_or]

theorem Builtin.shows_of_translate {b : Builtin} (hb : b ∈ all) {p : Project} {c : Command}
    {code : Text} (h : b.dialect.translate c p = .ok (some code)) : Shows code := by
  unfold Dialect.translate at h
  cases hv : Verb.ofValue? c.name with
  | none =>
    rw [hv] at h
    cases h
  | some v =>
    rw [hv] at h
    have hstep : b.dialect.step v c p = .ok code := by
      cases hs : b.dialect.step v c p with
      | error f => simp [hs, Except.map] at h
      | ok t => simpa [hs, Except.map] using h
    simp only [all, List.mem_cons, List.not_mem_nil, or_false] at hb
    rcases hb with rfl | rfl | rfl
    · exact JUnit.yields_step v c p code hstep
    · exact Pytest.yields_step v c p code hstep
    · exact Playwright.yields_step v c p code hstep

def Command.IsNamed (c : Command) : Prop := ∃ name, c.name = .text name ∧ Text.trim name ≠ []

/-- Whether no translator answers a command with blanks. -/
def Registry.AnswersShow (r : Registry) (c : Command) (language : Text) : Prop :=
  ∀ name, c.name = .text name → ∀ h ∈ r.hooksOf name, ∀ code, h c language = .ok (some code) →
    shown code ≠ []

namespace Dialect

variable {d : Dialect} {r : Registry} {p : Project} {c : Command} {t : TestCase}
  {name code part body : Text} {tests : List TestCase} {asked : Value} {parallel : Bool}

theorem shows_note (d : Dialect) (t : Text) : Shows (d.note t) := by
  have hmark : Shows d.commentMark := by
    rcases d.commentMark_cases with h | h <;> rw [h] <;> decide
  rw [note, comment, Text.shows_append, Text.shows_trimEnd, Text.shows_append, Text.shows_append]
  exact .inr (.inl (.inl hmark))

theorem shows_indentBlock (pad : Text) (h : Shows code) : Shows (indentBlock pad code) := by
  rw [← Text.unlines_lines code, Text.shows_unlines] at h
  obtain ⟨l, hl, hshows⟩ := h
  refine Text.shows_unlines.2 ⟨_, List.mem_map_of_mem hl, ?_⟩
  split
  · exact hshows
  · exact Text.shows_append.2 (.inr hshows)

/-- A command with a name leaves code that shows something, or a note. -/
theorem shows_of_emitCommand
    (hknown : ∀ code, d.translate c p = .ok (some code) → Shows code) (hnamed : c.IsNamed)
    (hanswers : r.AnswersShow c d.language) (h : d.emitCommand r p c = .ok part) : Shows part := by
  obtain ⟨notes, code, hparts, rfl⟩ := parts_of_emitCommand h
  rw [Text.shows_unlines]
  cases hparts with
  | nameless hname hempty =>
    obtain ⟨n, hn, hne⟩ := hnamed
    obtain rfl := Value.text.inj (hname.symm.trans hn)
    exact absurd hempty hne
  | @disabled n hname hdisabled =>
    exact ⟨d.note (Dialect.disabled (Text.trim n) c), by simp, shows_note d _⟩
  | @known n given hactive hgiven => exact ⟨given, by simp, hknown given hgiven⟩
  | @translated n given hactive hunknown haccepted =>
    rw [Registry.translate_of_text hactive.recorded] at haccepted
    obtain ⟨before, hook, after, hhooks, -, hanswer⟩ := Registry.firstAnswer_eq_some haccepted
    have hmem : hook ∈ r.hooksOf n := by simp [hhooks]
    have hshows := Text.shown_ne_nil.1 (hanswers n hactive.recorded hook hmem given hanswer)
    exact ⟨_, by simp, shows_indentBlock d.pad hshows⟩
  | @unsupported n hactive hunknown hdeclined =>
    exact ⟨d.note (Dialect.unsupported (Text.trim n)), by simp, shows_note d _⟩

/-- Whether a part of a file is that of a command, and shows something if the command has a name and
no translator answers it with blanks. -/
def Covers (d : Dialect) (r : Registry) (p : Project) (c : Command) (part : Text) : Prop :=
  d.emitCommand r p c = .ok part ∧
    (c.IsNamed → r.AnswersShow c d.language → shown part ≠ [])

theorem shown_of_generate (h : d.generate r asked name tests p parallel = .ok body) :
    ∃ header blocks, d.header asked name p parallel = .ok header ∧
      List.Forall₂ (d.IsBlock fun c part => d.emitCommand r p c = .ok part) tests blocks ∧
      nonBlank (Text.lines body) = shown (d.imports parallel) ++ shown header ++
        blocks.flatten.flatMap shown ++ shown d.footer := by
  obtain ⟨header, blocks, hheader, hblocks, hcomposed⟩ := isComposed_of_generate h
  refine ⟨header, blocks, hheader, hblocks.imp fun _ _ => isBlock_of_block, ?_⟩
  have hlaid : ∀ b ∈ blocks, nonBlank (d.laid (Text.unlines b)) = b.flatMap shown := fun b hb => by
    rw [nonBlank_laid, Text.shown_unlines (ne_nil_of_blocks hblocks b hb)]
  have hflat : (blocks.map fun b => d.laid (Text.unlines b)).flatMap nonBlank =
      blocks.flatten.flatMap shown := by
    rw [List.flatMap_map, List.flatMap_congr hlaid, List.flatten_eq_flatMap, List.flatMap_assoc]
    rfl
  rw [hcomposed.shows, hflat]

end Dialect

/-- No command gets lost. The built-in formats leave the same commands to translators, and the code
of one that they know has a line that is not blank. The lines of a file that are not blank are those
of its opening, of its blocks and of its footer; and in the block of a test each command has a part,
with a line that is not blank if the command has a name and no translator answers it with blanks. -/
theorem commands_covered {b : Builtin} (hb : b ∈ Builtin.all) (p : Project) :
    (∀ c, (∀ b' ∈ Builtin.all,
        b.dialect.translate c p = .ok none ↔ b'.dialect.translate c p = .ok none) ∧
      ∀ code, b.dialect.translate c p = .ok (some code) → shown code ≠ []) ∧
    ∀ r asked name tests parallel body,
      b.dialect.generate r asked name tests p parallel = .ok body →
      ∃ header blocks, b.dialect.header asked name p parallel = .ok header ∧
        List.Forall₂ (b.dialect.IsBlock (b.dialect.Covers r p)) tests blocks ∧
        nonBlank (Text.lines body) = shown (b.dialect.imports parallel) ++ shown header ++
          blocks.flatten.flatMap shown ++ shown b.dialect.footer := by
  have hknown : ∀ {c code}, b.dialect.translate c p = .ok (some code) → Shows code :=
    Builtin.shows_of_translate hb
  refine ⟨fun c => ⟨fun b' _ => ?_, fun code hcode => Text.shown_ne_nil.2 (hknown hcode)⟩, ?_⟩
  · rw [Dialect.translate_eq_none_iff, Dialect.translate_eq_none_iff]
  · intro r asked name tests parallel body h
    obtain ⟨header, blocks, hheader, hblocks, hshown⟩ := Dialect.shown_of_generate h
    refine ⟨header, blocks, hheader, hblocks.imp fun t block hblock => ?_, hshown⟩
    obtain ⟨parts, hparts, rfl⟩ := hblock
    refine ⟨parts, hparts.imp fun c part hpart => ⟨hpart, fun hnamed hanswers => ?_⟩, rfl⟩
    exact Text.shown_ne_nil.2
      (Dialect.shows_of_emitCommand (fun _ => hknown) hnamed hanswers hpart)

/-- Keys without a part, a disabled command without a word, and one that a translator answers. -/
theorem commands_covered_of_keys :
    let b : Builtin := ⟨"typescript-playwright",
      "side_export.export.templates.typescript_playwright", Playwright.dialect⟩
    let t : TestCase := {
      name := "t"
      commands := [{ name := .text "sendKeys", target := .text "id=a" }, { name := .text "//" },
        { name := .text "shout" }] }
    let r : Registry := { hooks := [("shout", [fun _ _ => .ok (some "loud")])] }
    b ∈ Builtin.all ∧ ∃ body, b.dialect.generate r .null "t" [t] {} false = .ok body ∧
      ∃ header blocks, b.dialect.header .null "t" {} false = .ok header ∧
        List.Forall₂ (b.dialect.IsBlock (b.dialect.Covers r {})) [t] blocks ∧
        nonBlank (Text.lines body) = shown (b.dialect.imports false) ++ shown header ++
          blocks.flatten.flatMap shown ++ shown b.dialect.footer := by
  intro b t r
  have hb : b ∈ Builtin.all := by simp [b, Builtin.all]
  have hgenerates : (b.dialect.generate r .null "t" [t] {} false).toOption.isSome = true := by
    decide +kernel
  cases h : b.dialect.generate r .null "t" [t] {} false with
  | error f =>
    rw [h] at hgenerates
    cases hgenerates
  | ok body => exact ⟨hb, body, rfl, (commands_covered hb {}).2 r .null "t" [t] false body h⟩

end TestScribe
