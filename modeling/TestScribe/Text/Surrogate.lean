import TestScribe.Text.Basic

/-!
Texts that may have halves of surrogate pairs in them, which are code points but no characters. A
recorded text can have such halves, and so can one that a plugin makes; there are no bytes for them.
Where such a text is to be encoded, `misfit?` says from where on it cannot.
-/

namespace TestScribe

/-- A character, or one of the 2048 halves of surrogate pairs. -/
inductive CodePoint where
  | char (c : Char)
  | surrogate (n : Fin 2048)
  deriving DecidableEq

abbrev RawText := List CodePoint

/-- What a text is encoded for. In the name of a file half a pair may stand for a byte that is no
part of a character. -/
inductive Encoding where
  | content | name
  deriving DecidableEq

def Encoding.fits : Encoding → Fin 2048 → Bool
  | content, _ => false
  | name, n => 0x480 ≤ n.val && n.val < 0x500

/-- Halves of pairs next to each other, the first of which cannot be encoded. -/
structure Misfit where
  position : Nat
  first : Fin 2048
  length : Nat
  deriving DecidableEq

namespace RawText

def ofText (t : Text) : RawText := t.map .char

instance : Coe Text RawText := ⟨ofText⟩

theorem injective_char (c d : Char) (h : CodePoint.char c = .char d) : c = d := CodePoint.char.inj h

@[simp] theorem ofText_inj {t u : Text} : ofText t = ofText u ↔ t = u :=
  List.map_inj_right injective_char

/-- The text that is written so, unless there is half a pair in it. -/
def text? : RawText → Option Text
  | [] => some []
  | .char c :: r => (text? r).map (c :: ·)
  | .surrogate _ :: _ => none

theorem text?_eq_some {t : RawText} {u : Text} : t.text? = some u ↔ t = ofText u := by
  induction t generalizing u with
  | nil => cases u <;> simp [text?, ofText]
  | cons a r ih =>
    cases a with
    | surrogate n => cases u <;> simp [text?, ofText]
    | char c =>
      cases u with
      | nil => simp [text?, ofText]
      | cons d u =>
        simp only [text?, Option.map_eq_some_iff, ih, ofText, List.map_cons, List.cons.injEq,
          CodePoint.char.injEq]
        exact ⟨fun ⟨v, hv, hc, hu⟩ => ⟨hc, hu ▸ hv⟩, fun ⟨hc, hu⟩ => ⟨u, hu, hc, rfl⟩⟩

@[simp] theorem text?_ofText (t : Text) : (ofText t).text? = some t := text?_eq_some.2 rfl

/-- The text with the replacement character in the place of each half of a pair. -/
def shown (t : RawText) : Text :=
  t.map fun
    | .char c => c
    | .surrogate _ => Char.ofNat 0xFFFD

@[simp] theorem shown_ofText (t : Text) : (ofText t).shown = t := by
  simp [shown, ofText, Function.comp_def]

def halves : RawText → Nat
  | .surrogate _ :: r => halves r + 1
  | _ => 0

def misfitFrom (e : Encoding) (position : Nat) : RawText → Option Misfit
  | [] => none
  | .char _ :: r => misfitFrom e (position + 1) r
  | .surrogate n :: r =>
    if e.fits n then misfitFrom e (position + 1) r else some ⟨position, n, halves r + 1⟩

def misfit? (e : Encoding) (t : RawText) : Option Misfit := misfitFrom e 0 t

theorem misfitFrom_eq_none_iff {e : Encoding} {position : Nat} {t : RawText} :
    misfitFrom e position t = none ↔ ∀ n, .surrogate n ∈ t → e.fits n = true := by
  induction t generalizing position with
  | nil => simp [misfitFrom]
  | cons a r ih =>
    cases a with
    | char c => simp [misfitFrom, ih]
    | surrogate n => by_cases h : e.fits n = true <;> simp [misfitFrom, ih, h]

theorem misfit?_eq_none_iff {e : Encoding} {t : RawText} :
    t.misfit? e = none ↔ ∀ n, .surrogate n ∈ t → e.fits n = true := misfitFrom_eq_none_iff

@[simp] theorem misfit?_ofText (e : Encoding) (t : Text) : (ofText t).misfit? e = none := by
  rw [misfit?_eq_none_iff]
  simp [ofText]

end RawText

end TestScribe
