import TestScribe.Text.CodePoints

/-!
Blank characters, and the operations on texts that look at them: trimming and splitting into words.
-/

namespace TestScribe.Text

/-- The closed ranges of blank characters: controls that move the print position, the information
separators, and the space separators of all scripts. -/
def blankRanges : List (Nat × Nat) :=
  [(9, 13), (28, 32), (133, 133), (160, 160), (5760, 5760), (8192, 8202), (8232, 8233),
   (8239, 8239), (8287, 8287), (12288, 12288)]

def isBlank (c : Char) : Bool := rangesContain blankRanges c.toNat

example : isBlank ' ' = true ∧ isBlank '\n' = true ∧ isBlank '\u00a0' = true := by decide
example : isBlank '\u200b' = false ∧ isBlank '\ufeff' = false ∧ isBlank 'x' = false := by decide

def trimEnd (t : Text) : Text := dropEndWhile isBlank t

def trim (t : Text) : Text := dropAroundWhile isBlank t

/-- A text of blanks only; the empty text is one. -/
def allBlank (t : Text) : Bool := t.all isBlank

theorem trimEnd_eq_nil_iff {t : Text} : trimEnd t = [] ↔ allBlank t = true := by
  simp [trimEnd, allBlank, dropEndWhile_eq_nil_iff]

theorem trim_eq_nil_iff {t : Text} : trim t = [] ↔ allBlank t = true := by
  induction t with
  | nil => simp [trim, dropAroundWhile, dropEndWhile, allBlank]
  | cons c r ih =>
    by_cases h : isBlank c
    · simpa [trim, dropAroundWhile, h, allBlank] using ih
    · simp [trim, dropAroundWhile, h, dropEndWhile_eq_nil_iff, allBlank]

def words (t : Text) : List Text := fieldsBy isBlank t

end TestScribe.Text
