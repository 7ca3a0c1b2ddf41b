import TestScribe.Format.Builtin
import TestScribe.Proofs.Number.Counting

/-!
Choices in a list. Each built-in format has a call for options by their text, one for options by a
value, and one for options by their place. For all but the last, the argument is the option as a
literal. Only the Python format counts the option before it looks what it is chosen by, and so it
fails at an option that cannot be counted, whatever that is chosen by (`options_written_iff`).
-/

namespace TestScribe

theorem Except.bind_ok_eq_map {ε α β : Type} (x : Except ε α) (f : α → β) :
    (x >>= fun a => .ok (f a)) = x.map f := by
  cases x <;> rfl

/-- How a format writes choices in lists. -/
structure Chooser where
  /-- The quote of literals. -/
  quote : Char
  element : Value → Except Fault Text
  /-- What stands before the call, given the list, and after it. -/
  before : Text → Text
  after : Text
  /-- What stands before and after the argument of the call. -/
  opening : ChoiceKind → Text
  closing : ChoiceKind → Text
  /-- Whether an option is counted whatever it is chosen by. -/
  countsAlways : Bool

namespace Chooser

def call (s : Chooser) (kind : ChoiceKind) (argument : Text) : Text :=
  s.opening kind ++ argument ++ s.closing kind

/-- The call for a choice: places are counted, other options are literals. -/
def chosen (s : Chooser) (choice : Choice) : Except Fault Text :=
  if choice.kind = .index then
    (Duration.ofValue (.text choice.option)).map fun ms => s.call .index (Text.ofInt ms)
  else .ok (s.call choice.kind (Literal.written s.quote choice.option))

def choice (s : Chooser) (choice : Choice) : Except Fault Text :=
  if s.countsAlways then Duration.ofValue (.text choice.option) >>= fun _ => s.chosen choice
  else s.chosen choice

def code (s : Chooser) (e call : Text) : Text := s.before e ++ call ++ s.after

def junit : Chooser where
  quote := '\"'
  element := JUnit.element
  before := fun e => JUnit.pad ++ "new Select(" ++ e ++ ")."
  after := ";"
  opening
    | .label => "selectByVisibleText("
    | .value | .id => "selectByValue("
    | .index => "selectByIndex("
  closing _ := ")"
  countsAlways := false

def pytest : Chooser where
  quote := '\"'
  element := Pytest.element
  before := fun e => Pytest.pad ++ "Select(" ++ e ++ ")."
  after := []
  opening
    | .label => "select_by_visible_text("
    | .value | .id => "select_by_value("
    | .index => "select_by_index("
  closing _ := ")"
  countsAlways := true

def playwright : Chooser where
  quote := Playwright.quote
  element := Playwright.element
  before := fun e => Playwright.pad ++ "await " ++ e ++ ".selectOption("
  after := ");"
  opening
    | .label => "\x7b label: "
    | .value | .id => []
    | .index => "\x7b index: "
  closing
    | .value | .id => []
    | .label | .index => " \x7d"
  countsAlways := false

/-- The languages of the built-in formats, and how these write choices. -/
def all : List (Text × Chooser) :=
  [("java", junit), ("python", pytest), ("typescript", playwright)]

end Chooser

/-- Whether a command with texts in its fields makes a choice in a list. -/
structure Command.Selects (c : Command) (target value : Text) : Prop where
  name : c.name = .text "select"
  target : c.target = .text target
  value : c.value = .text value

def Chooser.IsOf (s : Chooser) (d : Dialect) : Prop := ∀ c p t v, Command.Selects c t v →
  ∃ e, s.element (.text t) = .ok e ∧
    d.translate c p = ((s.choice (Choice.ofText v)).map (s.code e)).map some

theorem JUnit.choice_text (t : Text) :
    choice (.text t) = Chooser.junit.choice (Choice.ofText t) := by
  unfold choice
  rw [Choice.ofValue_text]
  obtain ⟨kind, option⟩ := Choice.ofText t
  cases kind with
  | index => exact Except.bind_ok_eq_map _ _
  | _ => rfl

theorem Playwright.choice_text (t : Text) :
    choice (.text t) = Chooser.playwright.choice (Choice.ofText t) := by
  unfold choice
  rw [Choice.ofValue_text]
  obtain ⟨kind, option⟩ := Choice.ofText t
  cases kind with
  | index => exact Except.bind_ok_eq_map _ _
  | label => rfl
  | _ => exact congrArg Except.ok (List.append_nil _).symm

theorem Pytest.choice_text (t : Text) :
    choice (.text t) = Chooser.pytest.choice (Choice.ofText t) := by
  unfold choice
  rw [Choice.ofValue_text]
  obtain ⟨kind, option⟩ := Choice.ofText t
  -- the option is counted before its kind is looked at, on both sides
  show (Duration.ofValue (.text option) >>= fun _ => _) = Duration.ofValue (.text option) >>= _
  cases h : Duration.ofValue (.text option) with
  | error f => rfl
  | ok ms =>
    cases kind with
    | index =>
      show _ = (Duration.ofValue (.text option)).map _
      rw [h]
      rfl
    | _ => rfl

theorem Dialect.translate_of_step {d : Dialect} {c : Command} {p : Project} {name : Text} {v : Verb}
    {x : Except Fault Text} (hname : c.name = .text name) (hverb : Verb.ofName? name = some v)
    (hstep : d.step v c p = x) : d.translate c p = x.map some := by
  rw [Dialect.translate, hname, Verb.ofValue?, hverb]
  exact congrArg (Except.map some) hstep

/-- What a format writes for the verb is what it writes for the command. -/
theorem Chooser.isOf_of_step {s : Chooser} {d : Dialect}
    (h : ∀ (c : Command) (p : Project) (t v : Text), c.target = .text t → c.value = .text v →
      ∃ e, s.element (.text t) = .ok e ∧
        d.step .select c p = (s.choice (Choice.ofText v)).map (s.code e)) : s.IsOf d := by
  intro c p t v hselects
  obtain ⟨e, he, hstep⟩ := h c p t v hselects.target hselects.value
  exact ⟨e, he, Dialect.translate_of_step hselects.name (by decide +kernel) hstep⟩

theorem JUnit.isOf_chooser : Chooser.junit.IsOf dialect := by
  refine Chooser.isOf_of_step fun c p t v htarget hvalue => ⟨_, rfl, ?_⟩
  show (choice c.value >>= fun call => element c.target >>= fun e => _) = _
  rw [htarget, hvalue, choice_text]
  exact Except.bind_ok_eq_map _ _

theorem Playwright.isOf_chooser : Chooser.playwright.IsOf dialect := by
  refine Chooser.isOf_of_step fun c p t v htarget hvalue => ⟨_, rfl, ?_⟩
  show (choice c.value >>= fun call => element c.target >>= fun e => _) = _
  rw [htarget, hvalue, choice_text]
  exact Except.bind_ok_eq_map _ _

theorem Pytest.isOf_chooser : Chooser.pytest.IsOf dialect := by
  refine Chooser.isOf_of_step fun c p t v htarget hvalue => ⟨_, rfl, ?_⟩
  show (choice c.value >>= fun call => element c.target >>= fun e => _) = _
  rw [htarget, hvalue, choice_text]
  refine (Except.bind_ok_eq_map _ _).trans (congrArg (Except.map · _) (funext fun call => ?_))
  exact (List.append_nil _).symm

theorem Builtin.exists_chooser {b : Builtin} (hb : b ∈ all) :
    ∃ s, (b.dialect.language, s) ∈ Chooser.all ∧ s.IsOf b.dialect := by
  simp only [all, List.mem_cons, List.not_mem_nil, or_false] at hb
  rcases hb with rfl | rfl | rfl
  · exact ⟨.junit, .head _, JUnit.isOf_chooser⟩
  · exact ⟨.pytest, .tail _ (.head _), Pytest.isOf_chooser⟩
  · exact ⟨.playwright, .tail _ (.tail _ (.head _)), Playwright.isOf_chooser⟩

namespace Chooser

variable {s : Chooser} {language : Text} {choice : Choice}

theorem countsAlways_iff (h : (language, s) ∈ all) :
    s.countsAlways = true ↔ language = "python".toList := by
  simp only [all, List.mem_cons, List.not_mem_nil, or_false, Prod.mk.injEq] at h
  rcases h with ⟨rfl, rfl⟩ | ⟨rfl, rfl⟩ | ⟨rfl, rfl⟩ <;> decide

theorem read_written (h : (language, s) ∈ all) (t rest : Text) :
    Literal.read s.quote (Literal.written s.quote t ++ rest) = some (t, rest) := by
  simp only [all, List.mem_cons, List.not_mem_nil, or_false, Prod.mk.injEq] at h
  rcases h with ⟨-, rfl⟩ | ⟨-, rfl⟩ | ⟨-, rfl⟩ <;> exact Literal.read_written (by decide) t rest

theorem choice_of_index (hkind : choice.kind = .index) : s.choice choice =
    (Duration.ofValue (.text choice.option)).map fun ms => s.call .index (Text.ofInt ms) := by
  unfold Chooser.choice chosen
  rw [if_pos hkind]
  cases Duration.ofValue (.text choice.option) with
  | error f => exact ite_self _
  | ok ms => exact ite_self _

theorem choice_of_literal (hkind : choice.kind ≠ .index)
    (h : ¬ (s.countsAlways = true ∧ Duration.IsUnbounded choice.option)) :
    s.choice choice = .ok (s.call choice.kind (Literal.written s.quote choice.option)) := by
  unfold Chooser.choice chosen
  rw [if_neg hkind]
  split
  · rename_i hcounts
    obtain ⟨ms, hms, -⟩ | ⟨-, hunbounded⟩ := Duration.ofValue_cases choice.option
    · rw [hms]
      rfl
    · exact absurd ⟨hcounts, hunbounded⟩ h
  · rfl

theorem choice_of_isUnbounded (hcounts : s.countsAlways = true)
    (h : Duration.IsUnbounded choice.option) : s.choice choice = .error .infinityToInteger := by
  unfold Chooser.choice
  rw [if_pos hcounts, Duration.ofValue_eq_error_iff.2 ⟨rfl, h⟩]
  rfl

end Chooser

/-- What becomes of a choice of an option that goes by its text, its value or its id. The Java and
the TypeScript format always write the call for what it goes by, and the Python format does unless
the option denotes an infinite number: then it fails. The argument is a literal that is read back as
the option, whatever this is. -/
theorem options_written_iff {b : Builtin} (hb : b ∈ Builtin.all) {c : Command} {t v : Text}
    (hselects : c.Selects t v) (hkind : (Choice.ofText v).kind ≠ .index) (p : Project) :
    ∃ s e, (b.dialect.language, s) ∈ Chooser.all ∧ s.element (.text t) = .ok e ∧
      (¬ (b.dialect.language = "python".toList ∧ Duration.IsUnbounded (Choice.ofText v).option) →
        b.dialect.translate c p = .ok (some (s.code e (s.call (Choice.ofText v).kind
          (Literal.written s.quote (Choice.ofText v).option))))) ∧
      (b.dialect.language = "python".toList ∧ Duration.IsUnbounded (Choice.ofText v).option →
        b.dialect.translate c p = .error .infinityToInteger) ∧
      ∀ rest, Literal.read s.quote (Literal.written s.quote (Choice.ofText v).option ++ rest) =
        some ((Choice.ofText v).option, rest) := by
  obtain ⟨s, hs, his⟩ := Builtin.exists_chooser hb
  obtain ⟨e, he, htranslate⟩ := his c p t v hselects
  refine ⟨s, e, hs, he, fun h => ?_, fun h => ?_, Chooser.read_written hs _⟩
  · rw [← Chooser.countsAlways_iff hs] at h
    rw [htranslate, Chooser.choice_of_literal hkind h]
    rfl
  · rw [← Chooser.countsAlways_iff hs] at h
    rw [htranslate, Chooser.choice_of_isUnbounded h.1 h.2]
    rfl

/-- An option with the quotes of all the formats in it. -/
theorem options_written_iff_of_quotes :
    let c : Command := {
      name := .text "select", target := .text "id=a", value := .text "value=\x22'\\" }
    c.Selects "id=a" "value=\x22'\\" ∧
    (Choice.ofText "value=\x22'\\").kind ≠ .index ∧
    ∀ b ∈ Builtin.all, ∃ s e, (b.dialect.language, s) ∈ Chooser.all ∧
      s.element (.text "id=a") = .ok e ∧ b.dialect.translate c {} =
        .ok (some (s.code e (s.call .value (Literal.written s.quote "\x22'\\")))) := by
  intro c
  have hselects : c.Selects "id=a" "value=\x22'\\" := ⟨rfl, rfl, rfl⟩
  have hchoice : Choice.ofText "value=\x22'\\" = ⟨.value, "\x22'\\"⟩ := by decide +kernel
  have hkind : (Choice.ofText "value=\x22'\\").kind ≠ .index := by
    rw [hchoice]
    decide
  refine ⟨hselects, hkind, fun b hb => ?_⟩
  obtain ⟨s, e, hs, he, hwritten, -⟩ := options_written_iff hb hselects hkind {}
  rw [hchoice] at hwritten
  refine ⟨s, e, hs, he, hwritten fun h => ?_⟩
  have hcounted : Duration.ofValue (.text "\x22'\\") = .ok 0 := by rfl
  rw [Duration.ofValue_eq_error_iff.2 ⟨rfl, h.2⟩] at hcounted
  cases hcounted

/-- An option that is called like an infinity: two formats choose it by its text, and the Python
format fails. -/
theorem option_counted :
    let c : Command := {
      name := .text "select", target := .text "id=a", value := .text "label=inf" }
    c.Selects "id=a" "label=inf" ∧ Choice.ofText "label=inf" = ⟨.label, "inf"⟩ ∧
      JUnit.dialect.translate c {} = .ok (some
        "        new Select(driver.findElement(By.id(\"a\"))).selectByVisibleText(\"inf\");") ∧
      Playwright.dialect.translate c {} = .ok (some
        "    await page.locator('#a').selectOption(\x7b label: 'inf' \x7d);") ∧
      Pytest.dialect.translate c {} = .error .infinityToInteger := by
  intro c
  exact ⟨⟨rfl, rfl, rfl⟩, rfl, rfl, rfl, rfl⟩

end TestScribe
