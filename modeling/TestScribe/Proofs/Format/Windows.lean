import TestScribe.Proofs.Format.Choices
import TestScribe.Proofs.Format.Comments
import TestScribe.Proofs.Text.Lowering

/-!
Sizes of windows. Width and height go into the code of every built-in format as they were recorded,
without blanks around them and in small letters, and not as literals. They are numbers, and stay on
one line, only if that is what was recorded (`sizes_numeric_iff`).
-/

namespace TestScribe

theorem Text.length_splitOnP_eq_one_iff {ends : Char → Bool} {t : Text} :
    (t.splitOnP ends).length = 1 ↔ ∀ c ∈ t, ends c = false := by
  induction t with
  | nil => simp
  | cons c r ih =>
    rw [List.splitOnP_cons_eq_if_modifyHead, List.forall_mem_cons, ← ih]
    cases hc : ends c with
    | true => simp [List.splitOnP_ne_nil]
    | false => simp

namespace WindowSize

open Text (Lowered isKept)

def sides (t : Text) : Text × Text := (Text.trim (Text.halves t).1, Text.trim (Text.halves t).2)

def IsNumber (t : Text) : Prop := t ≠ [] ∧ ∀ c ∈ t, Naming.isDigit c = true

variable {t u other : Text} {p : Char → Bool} {b : Bool}

theorem isDigit_eq_false {c : Char} (h : isKept c = false) : Naming.isDigit c = false := by
  refine Bool.eq_false_iff.2 fun hdigit => ?_
  have hkept : isKept c = true :=
    Naming.forall_of_isPlain (P := fun c => Naming.isDigit c = true → isKept c = true) (by decide)
      (by rw [Naming.isPlain, hdigit, Bool.or_true]) hdigit
  rw [hkept] at h
  cases h

theorem ofText_eq (t : Text) :
    ofText t = ⟨orDefault (Text.trim ((Text.cut? 'x' (Text.lower t)).getD (Text.lower t, [])).1)
        "1280",
      orDefault (Text.trim ((Text.cut? 'x' (Text.lower t)).getD (Text.lower t, [])).2) "800"⟩ := by
  unfold ofText
  cases Text.cut? 'x' (Text.lower t) with
  | none => rfl
  | some q => rfl

theorem orDefault_ne_nil (hother : other ≠ []) (t : Text) : orDefault t other ≠ [] := by
  unfold orDefault
  cases t with
  | nil => exact hother
  | cons c r => exact List.cons_ne_nil c r

theorem forall_orDefault_iff (hp : ∀ c, isKept c = false → p c = b) (h : Lowered t u)
    (hother : ∀ c ∈ other, p c = true) :
    (∀ c ∈ orDefault u other, p c = true) ↔ ∀ c ∈ t, p c = true := by
  rw [← h.forall_iff hp, orDefault]
  cases u with
  | nil => simpa using hother
  | cons c r => rfl

/-- A class of blanks and digits has all of the width and all of the height, if it has the defaults
of both, exactly if it has all that was recorded for them. -/
theorem forall_ofText_iff (hp : ∀ c, isKept c = false → p c = b)
    (hwidth : "1280".toList.all p = true) (hheight : "800".toList.all p = true) (t : Text) :
    ((∀ c ∈ (ofText t).width, p c = true) ↔ ∀ c ∈ (sides t).1, p c = true) ∧
      ((∀ c ∈ (ofText t).height, p c = true) ↔ ∀ c ∈ (sides t).2, p c = true) := by
  obtain ⟨hfirst, hsecond⟩ := (Text.lowered_lower t).halves
  rw [ofText_eq]
  exact ⟨forall_orDefault_iff hp hfirst.trim (List.all_eq_true.1 hwidth),
    forall_orDefault_iff hp hsecond.trim (List.all_eq_true.1 hheight)⟩

theorem ofText_ne_nil (t : Text) : (ofText t).width ≠ [] ∧ (ofText t).height ≠ [] := by
  rw [ofText_eq]
  exact ⟨orDefault_ne_nil (by decide) _, orDefault_ne_nil (by decide) _⟩

theorem isNumber_iff (t : Text) :
    (IsNumber (ofText t).width ↔ ∀ c ∈ (sides t).1, Naming.isDigit c = true) ∧
      (IsNumber (ofText t).height ↔ ∀ c ∈ (sides t).2, Naming.isDigit c = true) := by
  obtain ⟨hwidth, hheight⟩ :=
    forall_ofText_iff (fun c hc => isDigit_eq_false hc) (by decide) (by decide) t
  obtain ⟨hwidth_ne, hheight_ne⟩ := ofText_ne_nil t
  exact ⟨(and_iff_right hwidth_ne).trans hwidth, (and_iff_right hheight_ne).trans hheight⟩

theorem forall_ends_iff {ends : Char → Bool} (hends : Dialect.EndsLines ends) (t : Text) :
    ((∀ c ∈ (ofText t).width, ends c = false) ↔ ∀ c ∈ (sides t).1, ends c = false) ∧
      ((∀ c ∈ (ofText t).height, ends c = false) ↔ ∀ c ∈ (sides t).2, ends c = false) := by
  have hkept : ∀ c, isKept c = false → (!ends c) = true := fun c hc => by
    rw [hends.eq_false (.inr (Text.isBlank_eq_false hc)), Bool.not_false]
  have hdefault : ∀ s : Text, s.all (fun c => c = ' ' || !Text.isBlank c) = true →
      s.all (fun c => !ends c) = true := fun s hs =>
    List.all_eq_true.2 fun c hc => by rw [hends.eq_false_of_all hs c hc, Bool.not_false]
  simpa only [Bool.not_eq_true'] using
    forall_ofText_iff hkept (hdefault _ (by decide)) (hdefault _ (by decide)) t

end WindowSize

/-- How a format writes the size of a window: what stands before the width, between it and the
height, and after that. -/
structure Resizer where
  before : Text
  between : Text
  after : Text

namespace Resizer

def code (r : Resizer) (s : WindowSize) : Text :=
  r.before ++ s.width ++ r.between ++ s.height ++ r.after

def junit : Resizer where
  before := JUnit.pad ++ "driver.manage().window().setSize(new Dimension("
  between := ", "
  after := "));"

def pytest : Resizer where
  before := Pytest.pad ++ "self.driver.set_window_size("
  between := ", "
  after := ")"

def playwright : Resizer where
  before := Playwright.pad ++ "await page.setViewportSize(\x7b width: "
  between := ", height: "
  after := " \x7d);"

def all : List (Text × Resizer) :=
  [("java", junit), ("python", pytest), ("typescript", playwright)]

variable {r : Resizer} {language : Text} {ends : Char → Bool}

theorem eq_false_of_mem (h : (language, r) ∈ all) (hends : Dialect.EndsLines ends) :
    ∀ c ∈ r.before ++ r.between ++ r.after, ends c = false := by
  have hall : all.all (fun q => (q.2.before ++ q.2.between ++ q.2.after).all
      fun c => c = ' ' || !Text.isBlank c) = true := by decide +kernel
  exact hends.eq_false_of_all (List.all_eq_true.1 hall _ h)

theorem length_splitOnP_code (h : (language, r) ∈ all) (hends : Dialect.EndsLines ends)
    (s : WindowSize) : ((r.code s).splitOnP ends).length = 1 ↔
      (∀ c ∈ s.width, ends c = false) ∧ ∀ c ∈ s.height, ends c = false := by
  have hfixed := eq_false_of_mem h hends
  simp only [List.forall_mem_append] at hfixed
  obtain ⟨⟨hbefore, hbetween⟩, hafter⟩ := hfixed
  rw [Text.length_splitOnP_eq_one_iff]
  simp only [code, List.forall_mem_append]
  constructor
  · rintro ⟨⟨⟨⟨-, hwidth⟩, -⟩, hheight⟩, -⟩
    exact ⟨hwidth, hheight⟩
  · rintro ⟨hwidth, hheight⟩
    exact ⟨⟨⟨⟨hbefore, hwidth⟩, hbetween⟩, hheight⟩, hafter⟩

end Resizer

theorem Builtin.exists_resizer {b : Builtin} (hb : b ∈ all) :
    ∃ r, (b.dialect.language, r) ∈ Resizer.all ∧ ∀ (c : Command) (p : Project) (t : Text),
      c.target = .text t → b.dialect.step .resize c p = .ok (r.code (.ofText t)) := by
  simp only [all, List.mem_cons, List.not_mem_nil, or_false] at hb
  rcases hb with rfl | rfl | rfl
  · refine ⟨.junit, .head _, fun c p t ht => ?_⟩
    show (WindowSize.ofValue c.target >>= fun size => _) = _
    rw [ht]
    rfl
  · refine ⟨.pytest, .tail _ (.head _), fun c p t ht => ?_⟩
    show (WindowSize.ofValue c.target >>= fun size => _) = _
    rw [ht]
    rfl
  · refine ⟨.playwright, .tail _ (.tail _ (.head _)), fun c p t ht => ?_⟩
    show (WindowSize.ofValue c.target >>= fun size => _) = _
    rw [ht]
    rfl

/-- What goes into the code for the size of a window, in every built-in format and for every target.
The command is always translated, with a width and a height that are not empty. Each of them is a
number exactly if there is nothing but digits in what was recorded for it, or nothing at all; and
the code is one line exactly if neither side has an end of a line within it. -/
theorem sizes_numeric_iff {b : Builtin} (hb : b ∈ Builtin.all) {c : Command} {t : Text}
    (hname : c.name = .text "setWindowSize") (htarget : c.target = .text t) (p : Project)
    {ends : Char → Bool} (hends : Dialect.EndsLines ends) :
    ∃ r, (b.dialect.language, r) ∈ Resizer.all ∧
      b.dialect.translate c p = .ok (some (r.code (.ofText t))) ∧
      (WindowSize.ofText t).width ≠ [] ∧ (WindowSize.ofText t).height ≠ [] ∧
      (WindowSize.IsNumber (WindowSize.ofText t).width ↔
        ∀ ch ∈ (WindowSize.sides t).1, Naming.isDigit ch = true) ∧
      (WindowSize.IsNumber (WindowSize.ofText t).height ↔
        ∀ ch ∈ (WindowSize.sides t).2, Naming.isDigit ch = true) ∧
      (((r.code (.ofText t)).splitOnP ends).length = 1 ↔
        (∀ ch ∈ (WindowSize.sides t).1, ends ch = false) ∧
          ∀ ch ∈ (WindowSize.sides t).2, ends ch = false) := by
  obtain ⟨r, hr, hstep⟩ := Builtin.exists_resizer hb
  obtain ⟨hwidth, hheight⟩ := WindowSize.ofText_ne_nil t
  obtain ⟨hwidth_number, hheight_number⟩ := WindowSize.isNumber_iff t
  obtain ⟨hwidth_ends, hheight_ends⟩ := WindowSize.forall_ends_iff hends t
  refine ⟨r, hr, Dialect.translate_of_step hname (by decide +kernel) (hstep c p t htarget), hwidth,
    hheight, hwidth_number, hheight_number, ?_⟩
  rw [Resizer.length_splitOnP_code hr hends, hwidth_ends, hheight_ends]

/-- A size with blanks and a large letter in it, and without a height. -/
theorem sizes_numeric_iff_of_width :
    let b : Builtin := ⟨"python-selenium", "side_export.export.templates.python_selenium",
      Pytest.dialect⟩
    let c : Command := { name := .text "setWindowSize", target := .text " 1024 X\n" }
    let ends (ch : Char) : Bool := ch ∈ ['\n', '\r']
    b ∈ Builtin.all ∧ Dialect.EndsLines ends ∧
      WindowSize.sides " 1024 X\n" = ("1024".toList, []) ∧
      ∃ r, (b.dialect.language, r) ∈ Resizer.all ∧
        b.dialect.translate c {} = .ok (some (r.code ⟨"1024", "800"⟩)) ∧
        WindowSize.IsNumber "1024" ∧ WindowSize.IsNumber "800" ∧
        ((r.code ⟨"1024", "800"⟩).splitOnP ends).length = 1 := by
  intro b c ends
  have hb : b ∈ Builtin.all := by simp [b, Builtin.all]
  have hends : Dialect.EndsLines ends := by
    intro ch hch
    have hmem : ch ∈ ['\n', '\r'] := of_decide_eq_true hch
    simp only [List.mem_cons, List.not_mem_nil, or_false] at hmem
    rcases hmem with rfl | rfl <;> decide
  have hsize : WindowSize.ofText " 1024 X\n" = ⟨"1024", "800"⟩ := by decide +kernel
  have hsides : WindowSize.sides " 1024 X\n" = ("1024".toList, []) := by decide +kernel
  obtain ⟨r, hr, hcode, -, -, hwidth, hheight, hline⟩ :=
    sizes_numeric_iff hb (c := c) rfl rfl {} hends
  rw [hsides] at hwidth hheight hline
  rw [hsize] at hcode hwidth hheight hline
  have hdigits : "1024".toList.all Naming.isDigit = true := by decide
  exact ⟨hb, hends, hsides, r, hr, hcode, hwidth.2 (List.all_eq_true.1 hdigits),
    hheight.2 (List.forall_mem_nil _),
    hline.2 ⟨hends.eq_false_of_all (by decide), List.forall_mem_nil _⟩⟩

/-- A height with more behind it than digits: in every built-in format what is behind them stands in
the code as it was recorded, on a line of its own. -/
theorem sizes_not_numeric :
    let c : Command :=
      { name := .text "setWindowSize", target := .text "1024x768\nimport os" }
    WindowSize.ofText "1024x768\nimport os" = ⟨"1024", "768\nimport os"⟩ ∧
      ¬ WindowSize.IsNumber "768\nimport os" ∧
      (Builtin.all.map fun b => (b.dialect.translate c {}).toOption.join.map Text.lines) =
        ([some ["        driver.manage().window().setSize(new Dimension(1024, 768", "import os));"],
          some ["        self.driver.set_window_size(1024, 768", "import os)"],
          some ["    await page.setViewportSize(\x7b width: 1024, height: 768",
            "import os \x7d);"]] : List (Option (List Text))) := by
  intro c
  refine ⟨by decide +kernel, fun h => ?_, by decide +kernel⟩
  exact absurd (h.2 'i' (by decide)) (by decide)

end TestScribe
