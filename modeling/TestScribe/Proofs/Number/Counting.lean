import TestScribe.Argument
import TestScribe.Proofs.Number.Numerals
import TestScribe.Proofs.Number.Rounding

/-!
Counting by a recorded number. A text that denotes a finite number counts as what is left of this
when it is cut off behind its point, and a text that denotes no number as nothing
(`ofValue_eq_ok_iff`). What denotes an infinite number cannot be counted: an infinity by its name,
or a decimal as far out as half a step beyond the greatest finite number (`ofValue_eq_error_iff`).
-/

namespace TestScribe

open Binary64 (limit magnitude Rounds IsNearest)
open Numeral (Denotes)

namespace Binary64

variable {negative s : Bool} {y : ℚ} {x : Binary64} {m : Nat} {q : Int}

theorem Rounds.eq_infinite_iff (h : Rounds negative y x) :
    x = .infinite s ↔ negative = s ∧ limit ≤ y := by
  cases h with
  | infinite hy => simp [hy]
  | finite hy _ => simp [hy]

theorem Rounds.isNearest (h : Rounds negative y (.finite s m q)) :
    negative = s ∧ y < limit ∧ IsNearest y m q := by
  cases h with
  | finite hy hm => exact ⟨rfl, hy, hm⟩

end Binary64

namespace Numeral

variable {negative : Bool} {t : Text} {x x' : Binary64} {m : Nat} {q : Int}

def NamesInfinity (t : Text) (negative : Bool) : Prop :=
  ∃ s body, Text.dropAroundWhile isMargin t = s ++ body ∧ IsSign negative s ∧
    (body.map Char.toLower = "inf".toList ∨ body.map Char.toLower = "infinity".toList)

def IsDecimalOf (t : Text) (negative : Bool) (y : ℚ) : Prop :=
  ∃ s body whole part e, Text.dropAroundWhile isMargin t = s ++ body ∧ IsSign negative s ∧
    IsDecimal whole part e body ∧ y = valueOf (whole ++ part) * 10 ^ (e - part.length)

theorem Denotes.unique (h : Denotes t x) (h' : Denotes t x') : x = x' :=
  Option.some.inj ((number?_eq_some_iff.2 h).symm.trans (number?_eq_some_iff.2 h'))

theorem IsDecimalOf.exists_rounds {y : ℚ} (h : IsDecimalOf t negative y) :
    ∃ x, Denotes t x ∧ Rounds negative y x := by
  obtain ⟨s, body, whole, part, e, ht, hs, hbody, rfl⟩ := h
  exact ⟨_, ⟨negative, s, body, ht, hs, .decimal hbody⟩, Binary64.rounds_ofDecimal _ _ _⟩

theorem Denotes.cases (h : Denotes t x) : x = .notANumber ∨
    (∃ negative, NamesInfinity t negative ∧ x = .infinite negative) ∨
    ∃ negative y, IsDecimalOf t negative y ∧ Rounds negative y x := by
  obtain ⟨negative, s, body, ht, hs, hbody⟩ := h
  cases hbody with
  | notANumber => exact .inl rfl
  | infinite hword => exact .inr (.inl ⟨negative, ⟨s, body, ht, hs, hword⟩, rfl⟩)
  | decimal hdecimal =>
    exact .inr (.inr ⟨negative, _, ⟨s, body, _, _, _, ht, hs, hdecimal, rfl⟩,
      Binary64.rounds_ofDecimal _ _ _⟩)

theorem denotes_infinite_iff : Denotes t (.infinite negative) ↔
    NamesInfinity t negative ∨ ∃ y, IsDecimalOf t negative y ∧ limit ≤ y := by
  constructor
  · intro h
    obtain h | ⟨s, hnames, h⟩ | ⟨s, y, hy, hrounds⟩ := h.cases
    · cases h
    · cases h
      exact .inl hnames
    · obtain ⟨rfl, hlimit⟩ := hrounds.eq_infinite_iff.1 rfl
      exact .inr ⟨y, hy, hlimit⟩
  · rintro (⟨s, body, ht, hs, hword⟩ | ⟨y, hy, hlimit⟩)
    · exact ⟨negative, s, body, ht, hs, .infinite hword⟩
    · obtain ⟨x, hx, hrounds⟩ := hy.exists_rounds
      exact hrounds.eq_infinite_iff.2 ⟨rfl, hlimit⟩ ▸ hx

theorem exists_isNearest (h : Denotes t (.finite negative m q)) :
    ∃ y, IsDecimalOf t negative y ∧ y < limit ∧ IsNearest y m q := by
  obtain h | ⟨s, -, h⟩ | ⟨s, y, hy, hrounds⟩ := h.cases
  · cases h
  · cases h
  · obtain ⟨rfl, hlimit, hnearest⟩ := hrounds.isNearest
    exact ⟨y, hy, hlimit, hnearest⟩

end Numeral

namespace Duration

variable {t : Text} {n : Int} {f : Fault}

/-- The whole number that a text counts as. -/
inductive Counts (t : Text) : Int → Prop
  | number {negative : Bool} {m : Nat} {q : Int} (h : Denotes t (.finite negative m q)) :
    Counts t (Binary64.wholePart (Binary64.signed negative (magnitude m q)))
  | nothing (hfinite : ∀ negative m q, ¬ Denotes t (.finite negative m q))
    (hinfinite : ∀ negative, ¬ Denotes t (.infinite negative)) : Counts t 0

/-- Whether a text names an infinity, or is a decimal that is too far out for a finite number. -/
def IsUnbounded (t : Text) : Prop := ∃ negative,
  Numeral.NamesInfinity t negative ∨ ∃ y, Numeral.IsDecimalOf t negative y ∧ limit ≤ y

theorem isUnbounded_iff : IsUnbounded t ↔ ∃ negative, Denotes t (.infinite negative) := by
  simp only [IsUnbounded, Numeral.denotes_infinite_iff]

theorem ofValue_cases (t : Text) :
    (∃ n, ofValue (.text t) = .ok n ∧ Counts t n ∧ ¬ IsUnbounded t) ∨
      ofValue (.text t) = .error .infinityToInteger ∧ IsUnbounded t := by
  have hdenotes : ∀ x, Numeral.number? t = some x ↔ Denotes t x :=
    fun _ => Numeral.number?_eq_some_iff
  rw [isUnbounded_iff]
  simp only [← hdenotes]
  cases h : Numeral.number? t with
  | none =>
    refine .inl ⟨0, by rw [ofValue, h], .nothing ?_ ?_, by simp⟩ <;> simp [← hdenotes, h]
  | some x =>
    have hof : ofValue (.text t) = wholePart x := by rw [ofValue, h]
    rw [hof]
    cases x with
    | notANumber =>
      refine .inl ⟨0, rfl, .nothing ?_ ?_, by simp⟩ <;> simp [← hdenotes, h]
    | infinite negative => exact .inr ⟨rfl, negative, rfl⟩
    | finite negative m q =>
      refine .inl ⟨_, rfl, ?_, by simp⟩
      rw [Binary64.truncate_eq]
      exact .number ((hdenotes _).1 h)

theorem Counts.unique {k : Int} (h : Counts t n) (h' : Counts t k) : n = k := by
  cases h with
  | number hn =>
    cases h' with
    | number hk =>
      cases hn.unique hk
      rfl
    | nothing hfinite _ => exact absurd hn (hfinite _ _ _)
  | nothing hfinite _ =>
    cases h' with
    | number hk => exact absurd hk (hfinite _ _ _)
    | nothing => rfl

theorem Counts.not_isUnbounded (h : Counts t n) : ¬ IsUnbounded t := by
  rw [isUnbounded_iff]
  rintro ⟨negative, hinfinite⟩
  cases h with
  | number hn => cases hn.unique hinfinite
  | nothing _ hnone => exact hnone negative hinfinite

theorem ofValue_eq_ok_iff : ofValue (.text t) = .ok n ↔ Counts t n := by
  obtain ⟨k, hk, hcounts, -⟩ | ⟨herror, hunbounded⟩ := ofValue_cases t
  · rw [hk, Except.ok.injEq]
    exact ⟨fun h => h ▸ hcounts, fun h => hcounts.unique h⟩
  · rw [herror]
    exact ⟨fun h => (nomatch h), fun h => absurd hunbounded h.not_isUnbounded⟩

theorem ofValue_eq_error_iff :
    ofValue (.text t) = .error f ↔ f = .infinityToInteger ∧ IsUnbounded t := by
  obtain ⟨k, hk, -, hbounded⟩ | ⟨herror, hunbounded⟩ := ofValue_cases t
  · rw [hk]
    exact ⟨fun h => (nomatch h), fun h => absurd h.2 hbounded⟩
  · rw [herror, Except.error.injEq]
    exact ⟨fun h => ⟨h.symm, hunbounded⟩, fun h => h.1.symm⟩

end Duration

end TestScribe
