import TestScribe.Proofs.Format.Choices

/-!
Commands that count by a recorded number: pauses, waits, and choices by the place of an option. The
built-in formats write each of them with the number, and fail at exactly the numbers that cannot be
counted (`durations_counted_iff`).
-/

namespace TestScribe

open Binary64 (limit IsNearest)
open Numeral (Denotes IsDecimalOf NamesInfinity)

/-- The recorded number by which a command with texts in its fields counts. -/
inductive Command.CountsBy (c : Command) (number : Text) : Prop
  | pause {target value : Text} (hname : c.name = .text "pause")
    (htarget : c.target = .text target) (hvalue : c.value = .text value)
    (hnumber : number = if target = [] then value else target)
  | select {target value : Text} (hselects : c.Selects target value)
    (hchoice : Choice.ofText value = ⟨.index, number⟩)
  | wait {target value : Text} (hname : c.name = .text "waitForElementVisible")
    (htarget : c.target = .text target) (hvalue : c.value = .text value)
    (hnumber : number = if value = [] then "30000".toList else value)

theorem Value.orElse_text (t u : Text) :
    (Value.text t).orElse (.text u) = .text (if t = [] then u else t) := by
  cases t <;> rfl

variable {c : Command} {number : Text}

theorem Builtin.exists_pause_eq {b : Builtin} (hb : b ∈ all) (c : Command) (p : Project) :
    ∃ code : Int → Text, b.dialect.step .pause c p =
      (Duration.ofValue (c.target.orElse c.value)).map code := by
  simp only [all, List.mem_cons, List.not_mem_nil, or_false] at hb
  rcases hb with rfl | rfl | rfl
  · exact ⟨_, Except.bind_ok_eq_map _ _⟩
  · exact ⟨_, Except.bind_ok_eq_map _ _⟩
  · exact ⟨_, Except.bind_ok_eq_map _ _⟩

theorem Builtin.exists_wait_eq {b : Builtin} (hb : b ∈ all) {t : Text}
    (htarget : c.target = .text t) (p : Project) :
    ∃ code : Int → Text, b.dialect.step .waitVisible c p =
      (Duration.ofValue (c.value.orElse (.text "30000"))).map code := by
  obtain ⟨name, target, value, id, comment, targets⟩ := c
  obtain rfl : target = .text t := htarget
  simp only [all, List.mem_cons, List.not_mem_nil, or_false] at hb
  rcases hb with rfl | rfl | rfl
  · exact ⟨_, Except.bind_ok_eq_map _ _⟩
  · exact ⟨_, Except.bind_ok_eq_map _ _⟩
  · exact ⟨_, Except.bind_ok_eq_map _ _⟩

/-- Each built-in format puts the number that a command counts by into its code. -/
theorem Builtin.exists_translate_eq {b : Builtin} (hb : b ∈ all) (h : c.CountsBy number)
    (p : Project) : ∃ code : Int → Text, b.dialect.translate c p =
      ((Duration.ofValue (.text number)).map code).map some := by
  cases h with
  | pause hname htarget hvalue hnumber =>
    obtain ⟨code, hcode⟩ := exists_pause_eq hb c p
    rw [htarget, hvalue, Value.orElse_text, ← hnumber] at hcode
    exact ⟨code, Dialect.translate_of_step hname (by decide +kernel) hcode⟩
  | wait hname htarget hvalue hnumber =>
    obtain ⟨code, hcode⟩ := exists_wait_eq hb htarget p
    rw [hvalue, Value.orElse_text, ← hnumber] at hcode
    exact ⟨code, Dialect.translate_of_step hname (by decide +kernel) hcode⟩
  | @select t v hselects hchoice =>
    obtain ⟨s, -, his⟩ := exists_chooser hb
    obtain ⟨e, -, htranslate⟩ := his c p t v hselects
    rw [htranslate, Chooser.choice_of_index (by rw [hchoice]), hchoice]
    refine ⟨fun ms => s.code e (s.call .index (Text.ofInt ms)), ?_⟩
    cases Duration.ofValue (.text number) <;> rfl

/-- What a recorded text counts as, and what becomes of the commands that count by it. It counts as
the whole part of the finite number that it denotes, which is the nearest one to the decimal that is
written, and as nothing if it denotes neither a finite number nor an infinite one. Only an infinity
by its name, and a decimal that is too far out for a finite number, cannot be counted. The built-in
formats write a pause, a wait, or a choice by place if its number can be counted, and fail if not.
-/
theorem durations_counted_iff (v : Text) :
    (∀ n, Duration.ofValue (.text v) = .ok n ↔ Duration.Counts v n) ∧
    (∀ negative m q, Denotes v (.finite negative m q) →
      ∃ y, IsDecimalOf v negative y ∧ y < limit ∧ IsNearest y m q) ∧
    (∀ f, Duration.ofValue (.text v) = .error f ↔
      f = .infinityToInteger ∧ Duration.IsUnbounded v) ∧
    ∀ b ∈ Builtin.all, ∀ c p, Command.CountsBy c v →
      ((∃ code, b.dialect.translate c p = .ok (some code)) ↔ ¬ Duration.IsUnbounded v) ∧
      (b.dialect.translate c p = .error .infinityToInteger ↔ Duration.IsUnbounded v) := by
  refine ⟨fun n => Duration.ofValue_eq_ok_iff, fun _ _ _ => Numeral.exists_isNearest,
    fun f => Duration.ofValue_eq_error_iff, fun b hb c p hcounts => ?_⟩
  obtain ⟨code, hcode⟩ := Builtin.exists_translate_eq hb hcounts p
  obtain ⟨n, hn, -, hbounded⟩ | ⟨herror, hunbounded⟩ := Duration.ofValue_cases v
  · rw [hn] at hcode
    exact ⟨iff_of_true ⟨_, hcode⟩ hbounded,
      iff_of_false (fun h => nomatch hcode.symm.trans h) hbounded⟩
  · rw [herror] at hcode
    exact ⟨iff_of_false (fun ⟨_, h⟩ => nomatch hcode.symm.trans h) (not_not_intro hunbounded),
      iff_of_true hcode hunbounded⟩

/-- A wait of one and a half seconds and a bit, as people write it. -/
theorem durations_counted_iff_of_decimal :
    let c : Command := {
      name := .text "waitForElementVisible", target := .text "id=a", value := .text " +1_500.9 " }
    Duration.ofValue (.text " +1_500.9 ") = .ok 1500 ∧
      Command.CountsBy c " +1_500.9 " ∧
      ∀ b ∈ Builtin.all, ∃ code, b.dialect.translate c {} = .ok (some code) := by
  intro c
  have hcounts : Command.CountsBy c " +1_500.9 " := .wait rfl rfl rfl rfl
  obtain ⟨-, -, herror, hcommands⟩ := durations_counted_iff " +1_500.9 "
  have hnumber : Numeral.number? " +1_500.9 " = some (.ofDecimal false 15009 (-1)) := by
    decide +kernel
  have hcounted : Duration.ofValue (.text " +1_500.9 ") = .ok 1500 := by
    rw [Duration.ofValue, hnumber]
    rfl
  refine ⟨hcounted, hcounts, fun b hb => (hcommands b hb c {} hcounts).1.2 fun hunbounded => ?_⟩
  rw [(herror _).2 ⟨rfl, hunbounded⟩] at hcounted
  cases hcounted

/-- A power of ten and an infinity by its name, with which no format can write a pause. -/
theorem durations_uncounted :
    Duration.ofValue (.text "1e999") = .error .infinityToInteger ∧
      Duration.ofValue (.text "inf") = .error .infinityToInteger ∧
      ∀ b ∈ Builtin.all,
        b.dialect.translate { name := .text "pause", target := .text "inf" } {} =
          .error .infinityToInteger := by
  have hpower : Numeral.number? "1e999" = some (.infinite false) := by decide +kernel
  have hname : Numeral.number? "inf" = some (.infinite false) := by decide +kernel
  have huncounted : Duration.ofValue (.text "inf") = .error .infinityToInteger := by
    rw [Duration.ofValue, hname]
    rfl
  refine ⟨by rw [Duration.ofValue, hpower]; rfl, huncounted, fun b hb => ?_⟩
  have hcounts : Command.CountsBy { name := .text "pause", target := .text "inf" } "inf" :=
    .pause rfl rfl rfl rfl
  obtain ⟨code, hcode⟩ := Builtin.exists_translate_eq hb hcounts {}
  rw [hcode, huncounted]
  rfl

end TestScribe
