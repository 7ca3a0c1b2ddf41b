import TestScribe.Proofs.Export.Translation
import TestScribe.Proofs.Format.Comments

/-!
What a file can tell of the registry it was made with. A command gets to the registry only if it is
left to translators, and then all that is asked for are the translators of its recorded name
(`emitCommand_congr`). So two registries that agree on the names which the format leaves to them
make the same file of a unit, or fail in the same way, whatever else is registered in them.
-/

namespace TestScribe

/-- A recorded name whose commands the built-in formats leave to translators: it is not blank, not
that of a disabled command, and that of no verb. -/
structure Dialect.IsForeign (name : Text) : Prop where
  named : Text.trim name ≠ []
  enabled : "//".toList.isPrefixOf (Text.trim name) = false
  unknown : Verb.ofName? name = none

/-- Whether two registries have the same translators, in the same order, for each name in tests
whose commands are left to translators. -/
def Registry.AgreeOn (r s : Registry) (tests : List TestCase) : Prop :=
  ∀ t ∈ tests, ∀ c ∈ t.commands, ∀ name, c.name = .text name → Dialect.IsForeign name →
    r.hooksOf name = s.hooksOf name

namespace Dialect

variable {d : Dialect} {r s : Registry} {p : Project} {c : Command} {t : TestCase} {name : Text}
  {tests : List TestCase} {className : Value} {parallel : Bool}

theorem translate_eq_none_iff : d.translate c p = .ok none ↔ Verb.ofValue? c.name = none := by
  unfold translate
  cases Verb.ofValue? c.name with
  | none => simp
  | some v =>
    show (d.step v c p).map some = .ok none ↔ some v = none
    cases d.step v c p <;> simp [Except.map]

theorem leaves_iff : d.Leaves p c name ↔ c.name = .text name ∧ Dialect.IsForeign name := by
  constructor
  · rintro ⟨hrecorded, hnamed, henabled, hunknown⟩
    rw [translate_eq_none_iff, hrecorded] at hunknown
    exact ⟨hrecorded, hnamed, henabled, hunknown⟩
  · rintro ⟨hrecorded, hnamed, henabled, hunknown⟩
    refine ⟨hrecorded, hnamed, henabled, translate_eq_none_iff.2 ?_⟩
    rw [hrecorded]
    exact hunknown

theorem emitCommand_of_not_leaves (h : ∀ name, ¬ d.Leaves p c name) (r s : Registry) :
    d.emitCommand r p c = d.emitCommand s p c := by
  unfold emitCommand
  cases hname : c.name.textFor "strip" with
  | error f => rfl
  | ok name =>
    rw [Value.textFor_eq_ok] at hname
    simp only [bind, Except.bind]
    split
    · rfl
    · rename_i hnamed
      split
      · rfl
      · rename_i henabled
        have hstatement : ∀ t, d.statement r p t c = d.statement s p t c := by
          intro t
          unfold statement
          cases hknown : d.translate c p with
          | error f => rfl
          | ok known =>
            cases known with
            | some code => rfl
            | none =>
              exact absurd ⟨hname, mt List.isEmpty_iff.2 hnamed, Bool.eq_false_iff.2 henabled,
                hknown⟩ (h name)
        rw [hstatement]

/-- All that a command asks of a registry are the translators of its name, if it is left to them. -/
theorem emitCommand_congr (h : ∀ name, d.Leaves p c name → r.hooksOf name = s.hooksOf name) :
    d.emitCommand r p c = d.emitCommand s p c := by
  by_cases hleaves : ∃ name, d.Leaves p c name
  · obtain ⟨name, hleaves⟩ := hleaves
    rw [emitCommand_of_leaves hleaves, emitCommand_of_leaves hleaves, h name hleaves]
  · exact emitCommand_of_not_leaves (not_exists.1 hleaves) r s

theorem block_congr (h : ∀ c ∈ t.commands, d.emitCommand r p c = d.emitCommand s p c) :
    d.block r p t = d.block s p t := by
  unfold block
  rw [Except.mapM_congr h]

theorem generate_congr (h : ∀ t ∈ tests, d.block r p t = d.block s p t) :
    d.generate r className name tests p parallel =
      d.generate s className name tests p parallel := by
  unfold generate
  rw [Except.mapM_congr h]

/-- The same tests make the same file with registries that agree on them. -/
theorem generate_of_agreeOn (h : r.AgreeOn s tests) :
    d.generate r className name tests p parallel =
      d.generate s className name tests p parallel :=
  generate_congr fun t ht => block_congr fun c hc => emitCommand_congr fun n hleaves =>
    h t ht c hc n hleaves.recorded (leaves_iff.1 hleaves).2

theorem emitNamed_congr {m : Mode} {asked : Value}
    (h : ∀ tests parallel, p.group m name = .ok (tests, parallel) → r.AgreeOn s tests) :
    d.emitNamed r asked m p name = d.emitNamed s asked m p name := by
  rw [emitNamed_eq, emitNamed_eq]
  cases hgroup : p.group m name with
  | error f => rfl
  | ok unit =>
    obtain ⟨tests, parallel⟩ := unit
    simp only [bind, Except.bind, generate_of_agreeOn (h tests parallel hgroup)]

end Dialect

/-- Plugins cannot disturb what they do not own. Two registries that have the same translators for
the names in a unit's tests that are left to translators give the same result for the unit, be it a
file or an error. And a command that the format knows, that is disabled or that has no name is the
same with all registries. -/
theorem emission_independent (d : Dialect) (p : Project) :
    (∀ asked m name (r s : Registry),
      (∀ tests parallel, p.group m name = .ok (tests, parallel) → r.AgreeOn s tests) →
        d.emitNamed r asked m p name = d.emitNamed s asked m p name) ∧
    ∀ c name, c.name = .text name →
      ((Verb.ofName? name).isSome ∨ "//".toList.isPrefixOf (Text.trim name) ∨
        Text.trim name = []) →
      ∀ r s, d.emitCommand r p c = d.emitCommand s p c := by
  refine ⟨fun asked m name r s h => Dialect.emitNamed_congr h, fun c name hname hkept r s => ?_⟩
  refine Dialect.emitCommand_of_not_leaves (fun n hleaves => ?_) r s
  obtain ⟨hrecorded, hnamed, henabled, hunknown⟩ := Dialect.leaves_iff.1 hleaves
  obtain rfl : name = n := Value.text.inj (hname.symm.trans hrecorded)
  rcases hkept with hknown | hdisabled | hempty
  · rw [hunknown] at hknown
    cases hknown
  · rw [henabled] at hdisabled
    cases hdisabled
  · exact hnamed hempty

/-- A suite with a command of each kind. The second registry has translators that fail for all names
but the one that is left to translators, on which the two agree. -/
theorem emission_independent_of_hostile :
    let d := Pytest.dialect
    let clicking : Command := { name := .text "click", target := .text "id=a" }
    let p : Project := {
      url := .text "https://a.b"
      tests := [{
        name := "t"
        commands := [clicking, { name := .text "//click" }, { name := .text "" },
          { name := .text "shout" }] }]
      suites := [{ name := "s", tests := ["t"] }] }
    let loud : Hook := fun _ _ => .ok (some "loud")
    let hostile : Hook := fun _ _ => .error (.unhashable .list)
    let r : Registry := { hooks := [("shout", [loud])] }
    let s : Registry := { hooks := [("click", [hostile]), ("//click", [hostile]), ("", [hostile]),
      ("shout", [loud]), ("whisper", [hostile])] }
    (∀ tests parallel, p.group .suite "s" = .ok (tests, parallel) → r.AgreeOn s tests) ∧
      clicking.name = .text "click" ∧ (Verb.ofName? "click").isSome ∧
      d.emitNamed r .null .suite p "s" = d.emitNamed s .null .suite p "s" ∧
      d.emitCommand r p clicking = d.emitCommand s p clicking := by
  intro d clicking p loud hostile r s
  have hagree : ∀ tests parallel, p.group .suite "s" = .ok (tests, parallel) →
      r.AgreeOn s tests := by
    intro tests parallel h
    have hgroup : p.group .suite "s" = .ok (p.tests, false) := rfl
    obtain ⟨rfl, -⟩ := Prod.mk.inj (Except.ok.inj (hgroup.symm.trans h))
    intro t ht c hc name hname hforeign
    obtain rfl := List.mem_singleton.1 ht
    obtain ⟨hnamed, henabled, hunknown⟩ := hforeign
    rcases List.mem_cons.1 hc with rfl | hc
    · obtain rfl := Value.text.inj hname
      exact absurd hunknown (by decide +kernel)
    rcases List.mem_cons.1 hc with rfl | hc
    · obtain rfl := Value.text.inj hname
      exact absurd henabled (by decide)
    rcases List.mem_cons.1 hc with rfl | hc
    · obtain rfl := Value.text.inj hname
      exact absurd rfl hnamed
    · obtain rfl := List.mem_singleton.1 hc
      obtain rfl := Value.text.inj hname
      rfl
  have hknown : (Verb.ofName? "click").isSome = true := by decide +kernel
  exact ⟨hagree, rfl, hknown, (emission_independent d p).1 .null .suite "s" r s hagree,
    (emission_independent d p).2 clicking "click" rfl (.inl hknown) r s⟩

end TestScribe
