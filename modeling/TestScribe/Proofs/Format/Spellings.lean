import TestScribe.Proofs.Format.Independence

/-!
Spellings of a recorded name. Whether a command has a name and is not disabled is read from the name
without the blanks around it, and so is the name in the comment on a command that nobody knows. But
the format and the registry look the name up as it is recorded. No verb has blanks around its name
(`Verb.trim_of_ofName?`), so a verb that is recorded with such blanks is written as unsupported.
-/

namespace TestScribe

theorem Verb.trim_of_ofName? {name : Text} (h : (Verb.ofName? name).isSome) :
    Text.trim name = name := by
  have hnames : ∀ e ∈ Verb.names, Text.trim e.1 = e.1 := by decide +kernel
  rw [Verb.ofName?, List.lookup_isSome_iff] at h
  obtain ⟨e, he, hname⟩ := h
  rw [beq_iff_eq] at hname
  exact hname ▸ hnames e he

def Registry.Accepts (r : Registry) (name : Text) (c : Command) (language : Text) : Prop :=
  ∃ h ∈ r.hooksOf name, ∃ code, h c language = .ok (some code)

namespace Dialect

variable {d : Dialect} {r : Registry} {p : Project} {c : Command} {name : Text}

/-- A command that is written as a comment: the format leaves it to translators, and these have
nothing for it. -/
structure GivesUp (d : Dialect) (r : Registry) (p : Project) (c : Command) (name : Text) :
    Prop where
  leaves : d.Leaves p c name
  declined : r.translate c d.language = .ok none

/-- Whether a command could be translated by a name: the format has code for the command of that
name, or there is a translator of the name that accepts the command. -/
def Supports (d : Dialect) (r : Registry) (p : Project) (c : Command) (name : Text) : Prop :=
  d.translate { c with name := .text name } p ≠ .ok none ∨ r.Accepts name c d.language

theorem supports_iff : d.Supports r p c name ↔
    (Verb.ofName? name).isSome ∨ r.Accepts name c d.language := by
  rw [Supports, ne_eq, translate_eq_none_iff, Verb.ofValue?, Option.isSome_iff_ne_none]

/-- Nobody has code for a command exactly if its name, as it is recorded, is that of no verb, and
all translators of this name decline. -/
theorem givesUp_iff (hrecorded : c.name = .text name) : d.GivesUp r p c name ↔
    Dialect.IsForeign name ∧ ∀ h ∈ r.hooksOf name, h c d.language = .ok none := by
  have hdeclined : r.translate c d.language = .ok none ↔
      ∀ h ∈ r.hooksOf name, h c d.language = .ok none := by
    rw [Registry.translate_of_text hrecorded, Registry.firstAnswer_eq_iff, Registry.Settles]
    simp
  constructor
  · rintro ⟨hleaves, hnone⟩
    exact ⟨(leaves_iff.1 hleaves).2, hdeclined.1 hnone⟩
  · rintro ⟨hforeign, hall⟩
    exact ⟨leaves_iff.2 ⟨hrecorded, hforeign⟩, hdeclined.2 hall⟩

theorem emitCommand_of_givesUp (h : d.GivesUp r p c name) : d.emitCommand r p c =
    .ok (d.withRemarks c (d.pad ++ d.comment (unsupported (Text.trim name)))) := by
  rw [emitCommand_of_leaves h.leaves, ← Registry.translate_of_text h.leaves.recorded, h.declined]
  rfl

theorem GivesUp.not_supports (h : d.GivesUp r p c name) : ¬ d.Supports r p c name := by
  obtain ⟨hforeign, hall⟩ := (givesUp_iff h.leaves.recorded).1 h
  rw [supports_iff, hforeign.unknown]
  rintro (hknown | ⟨k, hk, code, hcode⟩)
  · cases hknown
  · rw [hall k hk] at hcode
    cases hcode

end Dialect

/-- When a command is written as unsupported, and when that is not true. It is so written if its
name, just as it is recorded, is that of no verb and all translators of this name decline; and the
name in the comment is one by which the command could be translated exactly if there are blanks
around the recorded name, all translators of this name decline, and without the blanks it is that of
a verb or of a translator that accepts. With blanks around its name, no verb is known. -/
theorem unsupported_untrue_iff (d : Dialect) (r : Registry) (p : Project) {c : Command}
    {name : Text} (hrecorded : c.name = .text name) :
    (d.GivesUp r p c name → d.emitCommand r p c =
      .ok (d.withRemarks c (d.pad ++ d.comment (Dialect.unsupported (Text.trim name))))) ∧
    (d.GivesUp r p c name ↔
      Dialect.IsForeign name ∧ ∀ h ∈ r.hooksOf name, h c d.language = .ok none) ∧
    (d.GivesUp r p c name ∧ d.Supports r p c (Text.trim name) ↔
      Text.trim name ≠ name ∧ Text.trim name ≠ [] ∧
        "//".toList.isPrefixOf (Text.trim name) = false ∧
        (∀ h ∈ r.hooksOf name, h c d.language = .ok none) ∧
        ((Verb.ofName? (Text.trim name)).isSome ∨ r.Accepts (Text.trim name) c d.language)) ∧
    (Text.trim name ≠ name → d.translate c p = .ok none) := by
  have hunknown : Text.trim name ≠ name → Verb.ofName? name = none := by
    intro hblanks
    rw [← Option.not_isSome_iff_eq_none]
    exact fun hknown => hblanks (Verb.trim_of_ofName? hknown)
  refine ⟨Dialect.emitCommand_of_givesUp, Dialect.givesUp_iff hrecorded, ?_, fun hblanks => ?_⟩
  · rw [← d.supports_iff (p := p)]
    constructor
    · rintro ⟨hgives, hsupports⟩
      obtain ⟨⟨hnamed, henabled, -⟩, hall⟩ := (Dialect.givesUp_iff hrecorded).1 hgives
      refine ⟨fun hsame => ?_, hnamed, henabled, hall, hsupports⟩
      rw [hsame] at hsupports
      exact hgives.not_supports hsupports
    · rintro ⟨hblanks, hnamed, henabled, hall, hsupports⟩
      exact ⟨(Dialect.givesUp_iff hrecorded).2 ⟨⟨hnamed, henabled, hunknown hblanks⟩, hall⟩,
        hsupports⟩
  · rw [Dialect.translate_eq_none_iff, hrecorded]
    exact hunknown hblanks

/-- A blank before a name of which there is a translator. -/
theorem unsupported_untrue_of_blank :
    let c : Command := { name := .text " shout", target := .text "id=a" }
    let loud : Hook := fun c _ => .ok (some c.target.display)
    let r : Registry := { hooks := [("shout", [loud])] }
    c.name = .text " shout" ∧
      Pytest.dialect.emitCommand r {} c = .ok "        # Unsupported command: shout" ∧
      Pytest.dialect.GivesUp r {} c " shout" ∧ Pytest.dialect.Supports r {} c "shout" := by
  intro c loud r
  have haccepts : r.Accepts "shout" c Pytest.dialect.language :=
    ⟨loud, by simp [r, Registry.hooksOf], "id=a", rfl⟩
  have hnone : r.hooksOf " shout" = [] := by decide
  have hall : ∀ h ∈ r.hooksOf " shout", h c Pytest.dialect.language = .ok none := by
    rw [hnone]
    exact fun h hmem => absurd hmem List.not_mem_nil
  obtain ⟨hcomment, -, huntrue, -⟩ := unsupported_untrue_iff Pytest.dialect r {} (c := c) rfl
  obtain ⟨hgives, hsupports⟩ := huntrue.2
    ⟨by decide, by decide, by decide, hall, .inr haccepts⟩
  exact ⟨rfl, (hcomment hgives).trans rfl, hgives, hsupports⟩

/-- A click, with blanks around its name: every built-in format writes that it does not support the
command, and has code for the command of the name that it says so of. -/
theorem click_unsupported :
    let c : Command := { name := .text " click ", target := .text "id=a" }
    ∀ b ∈ Builtin.all, b.dialect.GivesUp .empty {} c " click " ∧
      b.dialect.emitCommand .empty {} c = .ok (b.dialect.note (Dialect.unsupported "click")) ∧
      b.dialect.Supports .empty {} c "click" ∧
      ∃ code, b.dialect.translate { c with name := .text "click" } {} = .ok (some code) := by
  intro c b hb
  have hgives : b.dialect.GivesUp .empty {} c " click " :=
    (Dialect.givesUp_iff rfl).2
      ⟨⟨by decide, by decide, by decide⟩, fun h hmem => absurd hmem List.not_mem_nil⟩
  refine ⟨hgives, Dialect.emitCommand_of_givesUp hgives, Dialect.supports_iff.2 (.inl rfl), ?_⟩
  simp only [Builtin.all, List.mem_cons, List.not_mem_nil, or_false] at hb
  obtain rfl | rfl | rfl := hb <;> exact ⟨_, rfl⟩

end TestScribe
