import TestScribe.Format.JUnit
import TestScribe.Format.Playwright
import TestScribe.Format.Pytest
import TestScribe.Proofs.Naming.Initials
import TestScribe.Proofs.Naming.Words

/-!
The shapes of names. Whatever a unit is called, its `snake_case` and `kebab-case` names are words of
small letters and digits with single separators between them (`isWords_snake`, `isWords_kebab`), and
the name of its class is an identifier that ends in `Test` (`isClassName_className`).
-/

namespace TestScribe

namespace Naming

/-- Whether a text is words of small letters and digits with a mark between each two of them. -/
def IsWords (mark : Char) (t : Text) : Prop :=
  ∃ ws : List Text, ws ≠ [] ∧ (∀ w ∈ ws, w ≠ [] ∧ ∀ c ∈ w, (isLower c || isDigit c) = true) ∧
    t = Text.join [mark] ws

variable {mark c : Char} {t : Text}

theorem isWords_snake (title : Text) : IsWords '_' (snake title) :=
  ⟨snakeWords title, snakeWords_ne_nil title, fun _ => mem_snakeWords, snake_eq_join title⟩

theorem isWords_kebab (title : Text) : IsWords '-' (kebab title) :=
  ⟨snakeWords title, snakeWords_ne_nil title, fun _ => mem_snakeWords, kebab_eq_join title⟩

theorem IsWords.not_mem (h : IsWords mark t) (hmark : c ≠ mark)
    (hc : (isLower c || isDigit c) = false) : c ∉ t := by
  obtain ⟨ws, -, hws, rfl⟩ := h
  intro hmem
  rcases Text.mem_of_mem_join hmem with hmem | ⟨w, hw, hmem⟩
  · exact hmark (List.mem_singleton.1 hmem)
  · rw [(hws w hw).2 c hmem] at hc
    cases hc

end Naming

namespace JUnit

open Naming (isPlain isUpper isDigit)

def guarded : Text → Text
  | c :: r => if isDigit c then '_' :: c :: r else c :: r
  | [] => []

def tested (t : Text) : Text := if "Test".toList.isSuffixOf t then t else t ++ "Test"

theorem className_eq (name : Text) : className name = tested (guarded (Naming.pascal name)) := rfl

variable {c : Char} {t : Text}

/-- Whether a text is an identifier of letters, digits and underscores that starts with a capital,
or with an underscore and a digit, and ends in `Test`. -/
structure IsClassName (t : Text) : Prop where
  plain : ∀ c ∈ t, isPlain c = true ∨ c = '_'
  opens : (∃ c r, t = c :: r ∧ isUpper c = true) ∨ ∃ c r, t = '_' :: c :: r ∧ isDigit c = true
  ends : "Test".toList <:+ t

theorem exists_tested_eq (t : Text) :
    ∃ s, tested t = t ++ s ∧ (∀ c ∈ s, isPlain c = true) ∧ "Test".toList <:+ t ++ s := by
  unfold tested
  split
  · rename_i hends
    rw [List.isSuffixOf_iff_suffix] at hends
    exact ⟨[], (List.append_nil t).symm, nofun, by rwa [List.append_nil]⟩
  · have hall : ("Test" : Text).all isPlain = true := rfl
    exact ⟨"Test", rfl, List.all_eq_true.1 hall, List.suffix_append t _⟩

theorem mem_guarded (h : c ∈ guarded t) : c ∈ t ∨ c = '_' := by
  unfold guarded at h
  split at h
  · split at h
    · exact (List.mem_cons.1 h).symm
    · exact .inl h
  · exact .inl h

theorem isClassName_className (name : Text) : IsClassName (className name) := by
  obtain ⟨s, htested, hs, hends⟩ := exists_tested_eq (guarded (Naming.pascal name))
  rw [className_eq, htested]
  refine ⟨fun c hc => ?_, ?_, hends⟩
  · rcases List.mem_append.1 hc with hc | hc
    · exact (mem_guarded hc).imp_left Naming.isPlain_of_mem_pascal
    · exact .inl (hs c hc)
  · obtain ⟨r, hpascal⟩ := Naming.exists_pascal_eq name
    have hplain := Naming.isPlain_initial name
    rw [hpascal, guarded]
    -- a title that starts with a digit is the one that is guarded
    cases hdigit : isDigit (Naming.initial name) with
    | true =>
      rw [Naming.isDigit_toUpper hplain, if_pos hdigit]
      exact .inr ⟨_, r ++ s, rfl, (Naming.isDigit_toUpper hplain).trans hdigit⟩
    | false =>
      rw [Naming.isDigit_toUpper hplain, hdigit, if_neg Bool.false_ne_true]
      exact .inl ⟨_, r ++ s, rfl, Naming.isUpper_toUpper hplain hdigit⟩

theorem IsClassName.not_mem (h : IsClassName t) (hc : isPlain c = false) (hne : c ≠ '_') :
    c ∉ t := by
  intro hmem
  rcases h.plain c hmem with hplain | rfl
  · rw [hc] at hplain
    cases hplain
  · exact hne rfl

end JUnit

end TestScribe
