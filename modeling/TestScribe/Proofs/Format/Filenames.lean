import TestScribe.Format.Builtin
import TestScribe.Output
import TestScribe.Proofs.Format.Shapes

/-!
The filenames of the built-in formats. A unit may have any name, but the name of its file is one
component that stays in the directory (`isName_filename`): what goes into it is made of ASCII
letters, digits and separators. So files of different names have different paths.
-/

namespace TestScribe

namespace Path

/-- Whether a text is the name of a file: one component that leads to no other directory, and not a
blank one. -/
structure IsName (t : Text) : Prop where
  whole : '/' ∉ t
  visible : Text.allBlank t = false
  proper : t ≠ ['.'] ∧ t ≠ ['.', '.']

theorem isName_append {s suffix : Text} (hs : '/' ∉ s) (hsuffix : '/' ∉ suffix)
    (hvisible : Text.allBlank suffix = false) (hlong : 2 < suffix.length) :
    IsName (s ++ suffix) where
  whole := by
    rw [List.mem_append, not_or]
    exact ⟨hs, hsuffix⟩
  visible := by
    rw [Text.allBlank, List.all_append, ← Text.allBlank, ← Text.allBlank, hvisible, Bool.and_false]
  proper := by
    have hlength : 2 < (s ++ suffix).length := by
      rw [List.length_append]
      omega
    constructor <;> intro h <;> rw [h] at hlength <;> simp at hlength

theorem IsName.ne_nil {t : Text} (h : IsName t) : t ≠ [] := by
  rintro rfl
  cases h.visible

theorem IsName.partsOf {t : Text} (h : IsName t) : partsOf t = [t] := by
  rw [Path.partsOf, Text.split_of_not_mem h.whole]
  simp [h.ne_nil, h.proper.1]

theorem IsName.rootOf {t : Text} (h : IsName t) : rootOf t = 0 := by
  unfold Path.rootOf
  split <;> first | rfl | exact absurd List.mem_cons_self h.whole

def inside (directory name : Text) : Path :=
  ⟨(ofText directory).slashes, (ofText directory).parts ++ [name]⟩

theorem inside_inj {directory a b : Text} : inside directory a = inside directory b ↔ a = b := by
  simp [inside]

theorem IsName.outputPath {t : Text} (h : IsName t) (directory : Text) :
    outputPath directory t = .ok (inside directory t) := by
  have hpath : Path.ofText t = ⟨0, [t]⟩ := by rw [Path.ofText, h.rootOf, h.partsOf]
  have hdots : [t].contains "..".toList = false := by simpa using h.proper.2.symm
  unfold TestScribe.outputPath
  simp only [hpath, isAbsolute, hdots, join]
  rfl

end Path

theorem Builtin.isName_filename {b : Builtin} (hb : b ∈ all) (name : Text) :
    Path.IsName (b.dialect.filename name) := by
  rcases (by simpa [all] using hb : b = _ ∨ b = _ ∨ b = _) with rfl | rfl | rfl
  · have hclass := (JUnit.isClassName_className name).not_mem (c := '/') (by decide) (by decide)
    exact Path.isName_append hclass (by decide) (by decide) (by decide)
  · have hwords := (Naming.isWords_snake name).not_mem (c := '/') (by decide) (by decide)
    refine Path.isName_append ?_ (by decide) (by decide) (by decide)
    rw [List.mem_append, not_or]
    exact ⟨by decide, hwords⟩
  · have hwords := (Naming.isWords_kebab name).not_mem (c := '/') (by decide) (by decide)
    exact Path.isName_append hwords (by decide) (by decide) (by decide)

end TestScribe
