import TestScribe.Format.Builtin
import TestScribe.Proofs.Phases
import TestScribe.Proofs.Text.Trimming

/-!
Recorded texts in comments. A command leaves notes, which are written as comments, and perhaps code
below them (`parts_of_emitCommand`). A comment is opened once, so it keeps to its first line: where
a note has more of them, the others stand in the file as they are (`inert_note`).
-/

namespace TestScribe

theorem Value.textFor_eq_ok {operation t : Text} {v : Value} :
    v.textFor operation = .ok t ↔ v = .text t := by
  cases v <;> simp [textFor]

namespace Text

variable {ends : Char → Bool} {c : Char}

theorem forall₂_splitOnP_append (hc : ends c = false) (t : Text) :
    List.Forall₂ (fun l m => m = l ∨ m = l ++ [c]) (t.splitOnP ends) ((t ++ [c]).splitOnP ends) := by
  induction t with
  | nil =>
    have hlast : ∀ e ∈ [c], ends e = false := by simpa using hc
    rw [List.nil_append, List.splitOnP_eq_singleton hlast]
    exact .cons (.inr rfl) .nil
  | cons d r ih =>
    rw [List.cons_append, List.splitOnP_cons_eq_if_modifyHead, List.splitOnP_cons_eq_if_modifyHead]
    split
    · exact .cons (.inl rfl) ih
    · obtain ⟨l, ls, hl⟩ := List.exists_cons_of_ne_nil (List.splitOnP_ne_nil ends r)
      obtain ⟨m, ms, hm⟩ := List.exists_cons_of_ne_nil (List.splitOnP_ne_nil ends (r ++ [c]))
      rw [hl, hm, List.forall₂_cons] at ih
      rw [hl, hm, List.modifyHead_cons, List.modifyHead_cons, List.forall₂_cons]
      refine ⟨ih.1.imp ?_ ?_, ih.2⟩ <;> rintro rfl <;> rfl

theorem splitOnP_append_of_forall {s : Text} (hs : ∀ c ∈ s, ends c = false) (t : Text) :
    (s ++ t).splitOnP ends = (t.splitOnP ends).modifyHead (s ++ ·) := by
  induction s with
  | nil =>
    rw [List.nil_append]
    cases t.splitOnP ends <;> rfl
  | cons d r ih =>
    rw [List.cons_append, List.splitOnP_cons_eq_if_modifyHead, if_neg (by simp [hs d]),
      ih fun c hc => hs c (List.mem_cons_of_mem _ hc)]
    cases t.splitOnP ends <;> rfl

end Text

def Command.remark (c : Command) : List Text :=
  if c.comment.holds then [c.comment.display] else []

theorem Command.mem_remark {c : Command} {t : Text} (h : t ∈ c.remark) : t = c.comment.display := by
  unfold remark at h
  split at h
  · exact List.mem_singleton.1 h
  · cases h

/-- The recorded texts of a command that may go into notes. -/
def Command.texts (c : Command) : List Text :=
  [c.name.display, c.target.display, c.value.display, c.comment.display]

structure Command.Active (c : Command) (name : Text) : Prop where
  recorded : c.name = .text name
  named : Text.trim name ≠ []
  enabled : "//".toList.isPrefixOf (Text.trim name) = false

namespace Dialect

variable {d : Dialect} {r : Registry} {p : Project} {c : Command} {ends : Char → Bool}
  {name code part : Text}

/-- Whether no line of a text is a statement, where the lines end at characters of a class. -/
def Inert (d : Dialect) (ends : Char → Bool) (t : Text) : Prop :=
  ∀ line ∈ t.splitOnP ends, d.isStatement line = false

theorem isStatement_append_singleton {ch : Char} (h : Text.isBlank ch = true) (line : Text) :
    d.isStatement (line ++ [ch]) = d.isStatement line := by
  rw [isStatement, Text.trim_append_singleton h, isStatement]

theorem inert_append_singleton {ch : Char} (h : Text.isBlank ch = true) (t : Text) :
    d.Inert ends (t ++ [ch]) ↔ d.Inert ends t := by
  unfold Inert
  cases hch : ends ch with
  | true =>
    have hempty : d.isStatement [] = false := rfl
    rw [List.splitOnP_append_cons t [] hch]
    simp [List.mem_append, or_imp, forall_and, hempty]
  | false =>
    have hlines := Text.forall₂_splitOnP_append hch t
    generalize t.splitOnP ends = before at hlines ⊢
    generalize (t ++ [ch]).splitOnP ends = after at hlines ⊢
    induction hlines with
    | nil => rfl
    | cons hl _ ih =>
      rw [List.forall_mem_cons, List.forall_mem_cons]
      refine and_congr ?_ ih
      rcases hl with rfl | rfl
      · rfl
      · rw [isStatement_append_singleton h]

theorem inert_append {s : Text} (hs : ∀ ch ∈ s, Text.isBlank ch = true) (t : Text) :
    d.Inert ends (t ++ s) ↔ d.Inert ends t := by
  induction s generalizing t with
  | nil => rw [List.append_nil]
  | cons ch s ih =>
    rw [List.append_cons, ih (fun e he => hs e (List.mem_cons_of_mem _ he)),
      inert_append_singleton (hs ch List.mem_cons_self)]

theorem inert_append_trimEnd (front t : Text) :
    d.Inert ends (front ++ Text.trimEnd t) ↔ d.Inert ends (front ++ t) := by
  obtain ⟨s, hs, hblank⟩ := Text.exists_dropEndWhile_append Text.isBlank t
  have hfront : front ++ t = front ++ Text.trimEnd t ++ s := by
    rw [List.append_assoc, Text.trimEnd, ← hs]
  rw [hfront]
  exact (inert_append hblank _).symm

theorem commentMark_cases (d : Dialect) : d.commentMark = ['#'] ∨ d.commentMark = ['/', '/'] := by
  unfold commentMark
  split
  · exact .inl rfl
  · exact .inr rfl

theorem isBlank_of_mem_commentMark (d : Dialect) :
    ∀ ch ∈ d.commentMark, Text.isBlank ch = false := by
  have hshown : d.commentMark.any Text.isBlank = false := by
    rcases d.commentMark_cases with h | h <;> rw [h] <;> decide
  simpa using hshown

theorem isStatement_of_mark {pad : Text} (hpad : ∀ ch ∈ pad, Text.isBlank ch = true) (t : Text) :
    d.isStatement (pad ++ d.commentMark ++ t) = false := by
  have htrim : Text.trim (pad ++ d.commentMark ++ t) =
      d.commentMark ++ Text.dropEndWhile Text.isBlank t := by
    rw [Text.trim, Text.dropAroundWhile, List.append_assoc, List.dropWhile_append_of_pos hpad]
    rcases d.commentMark_cases with h | h <;> rw [h]
    · exact Text.dropEndWhile_cons_of_neg (by decide) t
    · have hslash : Text.isBlank '/' = false := by decide
      show Text.dropEndWhile Text.isBlank ('/' :: '/' :: t) = _
      rw [Text.dropEndWhile_cons_of_neg hslash, Text.dropEndWhile_cons_of_neg hslash]
      rfl
  have hmark : d.commentMark.isPrefixOf (d.commentMark ++ Text.dropEndWhile Text.isBlank t) = true :=
    List.isPrefixOf_iff_prefix.2 (List.prefix_append _ _)
  rw [isStatement, htrim, hmark]
  simp

def note (d : Dialect) (t : Text) : Text := d.pad ++ d.comment t

/-- Whether the lines of a text may end at characters of a class: they are blank, but not spaces. -/
def EndsLines (ends : Char → Bool) : Prop :=
  ∀ ch, ends ch = true → Text.isBlank ch = true ∧ ch ≠ ' '

theorem EndsLines.eq_false (h : EndsLines ends) {ch : Char}
    (hch : ch = ' ' ∨ Text.isBlank ch = false) : ends ch = false := by
  refine Bool.eq_false_iff.2 fun he => ?_
  obtain ⟨hblank, hne⟩ := h ch he
  rcases hch with rfl | hshown
  · exact hne rfl
  · rw [hblank] at hshown
    cases hshown

theorem EndsLines.eq_false_of_all (h : EndsLines ends) {t : Text}
    (ht : t.all (fun ch => ch = ' ' || !Text.isBlank ch) = true) : ∀ ch ∈ t, ends ch = false := by
  intro ch hch
  have hspace_or := List.all_eq_true.1 ht ch hch
  rw [Bool.or_eq_true, decide_eq_true_eq, Bool.not_eq_true'] at hspace_or
  exact h.eq_false hspace_or

theorem EndsLines.opening (h : EndsLines ends) (hpad : ∀ ch ∈ d.pad, ch = ' ') :
    ∀ ch ∈ d.pad ++ d.commentMark ++ " ".toList, ends ch = false := by
  intro ch hch
  apply h.eq_false
  rcases List.mem_append.1 hch with hch | hch
  · rcases List.mem_append.1 hch with hch | hch
    · exact .inl (hpad ch hch)
    · exact .inr (d.isBlank_of_mem_commentMark ch hch)
  · exact .inl (by simpa using hch)

/-- A note adds a statement only by a line after its first. -/
theorem inert_note (hpad : ∀ ch ∈ d.pad, ch = ' ') (hends : EndsLines ends) (t : Text) :
    d.Inert ends (d.note t) ↔ ∀ line ∈ (t.splitOnP ends).tail, d.isStatement line = false := by
  have hnote : d.Inert ends (d.note t) ↔
      d.Inert ends (d.pad ++ d.commentMark ++ " ".toList ++ t) := by
    rw [note, comment, inert_append_trimEnd]
    simp only [List.append_assoc]
  have hblank : ∀ ch ∈ d.pad, Text.isBlank ch = true := by
    intro ch hch
    rw [hpad ch hch]
    rfl
  rw [hnote, Inert, Text.splitOnP_append_of_forall (hends.opening hpad)]
  obtain ⟨l, ls, hl⟩ := List.exists_cons_of_ne_nil (List.splitOnP_ne_nil ends t)
  rw [hl, List.modifyHead_cons, List.forall_mem_cons, List.tail_cons]
  have hfirst := isStatement_of_mark (d := d) hblank (" ".toList ++ l)
  rw [← List.append_assoc] at hfirst
  exact ⟨And.right, fun h => ⟨hfirst, h⟩⟩

/-- The notes that a command leaves in a file, and the code below them. -/
inductive Parts (d : Dialect) (r : Registry) (p : Project) (c : Command) :
    List Text → List Text → Prop
  /-- A command without a name is a comment. -/
  | nameless {name : Text} (hname : c.name = .text name) (hempty : Text.trim name = []) :
    Parts d r p c c.remark []
  /-- A disabled command is a note of what it was. -/
  | disabled {name : Text} (hname : c.name = .text name)
    (hdisabled : "//".toList.isPrefixOf (Text.trim name) = true) :
    Parts d r p c [disabled (Text.trim name) c] []
  /-- The format knows the command. -/
  | known {name code : Text} (hactive : c.Active name)
    (hknown : d.translate c p = .ok (some code)) : Parts d r p c c.remark [code]
  /-- A translator of a plugin knows the command. -/
  | translated {name code : Text} (hactive : c.Active name) (hunknown : d.translate c p = .ok none)
    (haccepted : r.translate c d.language = .ok (some code)) :
    Parts d r p c c.remark [indentBlock d.pad code]
  /-- Nobody knows the command. -/
  | unsupported {name : Text} (hactive : c.Active name) (hunknown : d.translate c p = .ok none)
    (hdeclined : r.translate c d.language = .ok none) :
    Parts d r p c (c.remark ++ [unsupported (Text.trim name)]) []

theorem remarks_eq (d : Dialect) (c : Command) : d.remarks c = c.remark.map d.note := by
  unfold remarks Command.remark
  split <;> rfl

/-- What a command gives rise to are its notes, and the code below them. -/
theorem parts_of_emitCommand (h : d.emitCommand r p c = .ok part) :
    ∃ notes code, d.Parts r p c notes code ∧ part = Text.unlines (notes.map d.note ++ code) := by
  unfold emitCommand at h
  rw [Except.bind_eq_ok] at h
  obtain ⟨name, hname, h⟩ := h
  rw [Value.textFor_eq_ok] at hname
  simp only [remarks_eq] at h
  split at h
  · rename_i hempty
    cases h
    exact ⟨_, _, .nameless hname (List.isEmpty_iff.1 hempty), by rw [List.append_nil]⟩
  · rename_i hnamed
    split at h
    · rename_i hdisabled
      cases h
      exact ⟨_, _, .disabled hname hdisabled, rfl⟩
    · rename_i henabled
      have hactive : c.Active name :=
        ⟨hname, mt List.isEmpty_iff.2 hnamed, Bool.eq_false_iff.2 henabled⟩
      rw [Except.bind_eq_ok] at h
      obtain ⟨code, hcode, h⟩ := h
      cases h
      unfold statement at hcode
      rw [Except.bind_eq_ok] at hcode
      obtain ⟨known, hknown, hcode⟩ := hcode
      cases known with
      | some given =>
        cases hcode
        exact ⟨_, _, .known hactive hknown, rfl⟩
      | none =>
        rw [Except.bind_eq_ok] at hcode
        obtain ⟨answer, hanswer, hcode⟩ := hcode
        cases answer with
        | some given =>
          cases hcode
          exact ⟨_, _, .translated hactive hknown hanswer, rfl⟩
        | none =>
          cases hcode
          refine ⟨_, _, .unsupported hactive hknown hanswer, ?_⟩
          rw [List.map_append, List.append_nil]
          rfl

/-- What stands in a note besides recorded text. -/
def noteWords : Text := " | ".toList ++ "Unsupported command: ".toList

theorem Parts.mem_note {notes code : List Text} (h : d.Parts r p c notes code) {t : Text}
    (ht : t ∈ notes) {ch : Char} (hch : ch ∈ t) :
    (∃ field ∈ c.texts, ch ∈ field) ∨ ch ∈ noteWords := by
  rw [noteWords, List.mem_append]
  have htrim : ∀ name, c.name = .text name → ch ∈ Text.trim name → ∃ field ∈ c.texts, ch ∈ field := by
    intro name hname hmem
    refine ⟨c.name.display, List.mem_cons_self, ?_⟩
    rw [hname]
    exact Text.mem_of_mem_dropAroundWhile hmem
  have hremark : t ∈ c.remark → ∃ field ∈ c.texts, ch ∈ field := fun hmem =>
    ⟨c.comment.display, by simp [Command.texts], Command.mem_remark hmem ▸ hch⟩
  cases h with
  | nameless hname hempty => exact .inl (hremark ht)
  | known hactive hknown => exact .inl (hremark ht)
  | translated hactive hunknown haccepted => exact .inl (hremark ht)
  | disabled hname hdisabled =>
    rw [List.mem_singleton.1 ht] at hch
    simp only [Dialect.disabled, List.mem_append] at hch
    rcases hch with (((hch | hch) | hch) | hch) | hch
    · exact .inl (htrim _ hname (List.mem_of_mem_drop hch))
    · exact .inr (.inl hch)
    · exact .inl ⟨c.target.display, by simp [Command.texts], hch⟩
    · exact .inr (.inl hch)
    · exact .inl ⟨c.value.display, by simp [Command.texts], hch⟩
  | unsupported hactive hunknown hdeclined =>
    rcases List.mem_append.1 ht with ht | ht
    · exact .inl (hremark ht)
    · rw [List.mem_singleton.1 ht] at hch
      rcases List.mem_append.1 hch with hch | hch
      · exact .inr (.inr hch)
      · exact .inl (htrim _ hactive.recorded hch)

/-- Recorded text without an end of a line leaves notes of one line. -/
theorem Parts.splitOnP_note {notes code : List Text} (h : d.Parts r p c notes code)
    (hends : EndsLines ends) (hfields : ∀ field ∈ c.texts, ∀ ch ∈ field, ends ch = false) {t : Text}
    (ht : t ∈ notes) : t.splitOnP ends = [t] := by
  refine List.splitOnP_eq_singleton fun ch hch => ?_
  rcases h.mem_note ht hch with ⟨field, hfield, hmem⟩ | hword
  · exact hfields field hfield ch hmem
  · exact hends.eq_false_of_all (by decide) ch hword

end Dialect

theorem Builtin.eq_space_of_mem_pad {b : Builtin} (hb : b ∈ all) :
    ∀ ch ∈ b.dialect.pad, ch = ' ' := by
  have hpads : ∀ b ∈ all, b.dialect.pad.all (· == ' ') = true := by decide +kernel
  simpa using hpads b hb

/-- Where recorded text goes in the code of a command. In what a built-in format makes of it there
are notes, written as comments, and below them code, if the format or a plugin knows the command. A
note adds a statement exactly if a line of its text after the first is one; and none does if the
recorded text of the command has no end of a line in it. -/
theorem notes_inert_iff {b : Builtin} (hb : b ∈ Builtin.all) {ends : Char → Bool}
    (hends : Dialect.EndsLines ends) {r : Registry} {p : Project} {c : Command} {part : Text}
    (h : b.dialect.emitCommand r p c = .ok part) :
    ∃ notes code, b.dialect.Parts r p c notes code ∧
      part = Text.unlines (notes.map b.dialect.note ++ code) ∧
      (∀ t ∈ notes, b.dialect.Inert ends (b.dialect.note t) ↔
        ∀ line ∈ (t.splitOnP ends).tail, b.dialect.isStatement line = false) ∧
      ((∀ field ∈ c.texts, ∀ ch ∈ field, ends ch = false) →
        ∀ t ∈ notes, b.dialect.Inert ends (b.dialect.note t)) := by
  obtain ⟨notes, code, hparts, hpart⟩ := Dialect.parts_of_emitCommand h
  have hinert : ∀ t, b.dialect.Inert ends (b.dialect.note t) ↔
      ∀ line ∈ (t.splitOnP ends).tail, b.dialect.isStatement line = false :=
    Dialect.inert_note (Builtin.eq_space_of_mem_pad hb) hends
  refine ⟨notes, code, hparts, hpart, fun t _ => hinert t, fun hfields t ht => ?_⟩
  rw [hinert, hparts.splitOnP_note hends hfields ht]
  simp

/-- A command that nobody knows, and a comment of two lines, of which the second is not blank and no
comment either. -/
theorem notes_inert_iff_of_two_lines :
    let b : Builtin := ⟨"python-selenium", "side_export.export.templates.python_selenium",
      Pytest.dialect⟩
    let ends (ch : Char) : Bool := ch ∈ ['\n', '\r', '\u2028', '\u2029']
    let c : Command := { name := .text "shout", comment := .text "a\u2028b" }
    let part : Text := "        # a\u2028b\n        # Unsupported command: shout"
    b ∈ Builtin.all ∧ Dialect.EndsLines ends ∧ b.dialect.emitCommand .empty {} c = .ok part ∧
      ∃ notes code, b.dialect.Parts .empty {} c notes code ∧
        part = Text.unlines (notes.map b.dialect.note ++ code) ∧
        (∀ t ∈ notes, b.dialect.Inert ends (b.dialect.note t) ↔
          ∀ line ∈ (t.splitOnP ends).tail, b.dialect.isStatement line = false) ∧
        ((∀ field ∈ c.texts, ∀ ch ∈ field, ends ch = false) →
          ∀ t ∈ notes, b.dialect.Inert ends (b.dialect.note t)) := by
  intro b ends c part
  have hb : b ∈ Builtin.all := by simp [b, Builtin.all]
  have hends : Dialect.EndsLines ends := by
    intro ch hch
    have hmem : ch ∈ ['\n', '\r', '\u2028', '\u2029'] := of_decide_eq_true hch
    simp only [List.mem_cons, List.not_mem_nil, or_false] at hmem
    rcases hmem with rfl | rfl | rfl | rfl <;> decide
  have hpart : b.dialect.emitCommand .empty {} c = .ok part := by rfl
  exact ⟨hb, hends, hpart, notes_inert_iff hb hends hpart⟩

/-- A recorded comment, the target of a disabled command and the name of an unknown one, each with a
line feed in it: in every built-in format the line behind it stands in the file as a statement. -/
theorem notes_add_statements :
    let commands : List Command := [
      { comment := .text "note\nimport os" },
      { name := .text "//click", target := .text "id=a\nimport os" },
      { name := .text "shout\nimport os" }]
    (Builtin.all.all fun b => commands.all fun c =>
      (b.dialect.emitCommand .empty {} c).toOption.any fun part =>
        (Text.lines part).any b.dialect.isStatement) = true := by
  decide +kernel

end TestScribe
