import Mathlib.Data.List.Basic
import TestScribe.Proofs.Format.Shapes

/-!
The class of a Java file and the types that the file imports. A file may not declare a class under
the simple name of a type that it imports. Of the imported types only `Test` is called as a class of
a unit may be, since the names of these end so. Other titles come to longer names, but a title
without letters and digits, or with no word but `test`, gives its class just that name
(`class_imported_iff`).
-/

namespace TestScribe

open Naming (plainWords)

namespace Naming

variable {w title : Text} {c : Char}

theorem exists_raised_eq (hw : w ≠ []) (hplain : ∀ c ∈ w, isPlain c = true) :
    ∃ c r, raised w = c :: r ∧ isLower c = false := by
  obtain ⟨c, r, rfl⟩ := List.exists_cons_of_ne_nil hw
  refine ⟨c.toUpper, r, rfl, ?_⟩
  exact forall_of_isPlain (P := fun c => isLower c.toUpper = false) (by decide)
    (hplain c List.mem_cons_self)

/-- Words that come to a name with small letters after its first character are one word. -/
theorem eq_nil_of_flatten_raised {ws : List Text} (hws : ∀ w ∈ ws, w ≠ [])
    (hplain : ∀ w ∈ ws, ∀ c ∈ w, isPlain c = true)
    (hsmall : ∀ c ∈ (ws.map raised).flatten, isLower c = true) : ws = [] := by
  cases ws with
  | nil => rfl
  | cons w ws =>
    obtain ⟨c, r, hw, hc⟩ :=
      exists_raised_eq (hws w List.mem_cons_self) (hplain w List.mem_cons_self)
    have hmem : c ∈ ((w :: ws).map raised).flatten := by simp [hw]
    rw [hsmall c hmem] at hc
    cases hc

theorem toUpper_eq_iff (h : isPlain c = true) : c.toUpper = 'T' ↔ c = 't' ∨ c = 'T' :=
  forall_of_isPlain (P := fun c => c.toUpper = 'T' ↔ c = 't' ∨ c = 'T') (by decide) h

/-- The titles that are called `Test`. -/
theorem pascal_eq_iff : pascal title = "Test".toList ↔
    plainWords title = [] ∨ plainWords title = ["test".toList] ∨
      plainWords title = ["Test".toList] := by
  have hwords : ∀ w ∈ plainWords title, w ≠ [] ∧ ∀ c ∈ w, isPlain c = true :=
    fun w hw => ⟨fieldsBy_ne_nil hw, isPlain_of_mem_plainWords hw⟩
  unfold pascal
  cases hw : plainWords title with
  | nil => simp
  | cons w ws =>
    rw [hw, List.forall_mem_cons] at hwords
    obtain ⟨⟨hne, hplain⟩, hws⟩ := hwords
    obtain ⟨c, r, rfl⟩ := List.exists_cons_of_ne_nil hne
    have hc := hplain c List.mem_cons_self
    constructor
    · intro h
      obtain ⟨hfirst, hrest⟩ : c.toUpper = 'T' ∧ r ++ (ws.map raised).flatten = "est".toList :=
        List.cons.inj h
      have hsmall : ∀ c ∈ (ws.map raised).flatten, isLower c = true := by
        intro d hd
        have hall : ("est" : Text).all isLower = true := rfl
        exact List.all_eq_true.1 hall d (hrest ▸ List.mem_append_right r hd)
      obtain rfl :=
        eq_nil_of_flatten_raised (fun w h => (hws w h).1) (fun w h => (hws w h).2) hsmall
      rw [List.map_nil, List.flatten_nil, List.append_nil] at hrest
      subst hrest
      rcases (toUpper_eq_iff hc).1 hfirst with rfl | rfl
      · exact .inr (.inl rfl)
      · exact .inr (.inr rfl)
    · rintro (h | h | h)
      · cases h
      · cases h
        rfl
      · cases h
        rfl

end Naming

namespace JUnit

/-- The simple name of the type that a line of code imports. A static import names no type. -/
def importedType? (line : Text) : Option Text :=
  match Text.words line with
  | [keyword, type] =>
    if keyword = "import".toList then
      (Text.split '.' (Text.dropEndWhile (· = ';') type)).getLast?
    else none
  | _ => none

def typesIn (code : Text) : List Text := (Text.lines code).filterMap importedType?

example : typesIn "import java.util.Map;\nimport static a.B.*;\nimport Map;" =
    ["Map".toList, "Map".toList] := by
  decide +kernel

variable {name : Text} {parallel : Bool}

/-- Neither the suffix nor the underscore makes another name `Test`. -/
theorem className_eq_iff : className name = "Test".toList ↔
    Naming.pascal name = "Test".toList := by
  rw [className_eq]
  constructor
  · intro h
    obtain ⟨r, hpascal⟩ := Naming.exists_pascal_eq name
    rw [hpascal, guarded] at h
    rw [hpascal]
    cases hdigit : Naming.isDigit (Naming.initial name).toUpper with
    | true =>
      obtain ⟨s, htested, -, -⟩ := exists_tested_eq ('_' :: (Naming.initial name).toUpper :: r)
      rw [hdigit, if_pos rfl, htested] at h
      cases h
    | false =>
      rw [hdigit, if_neg Bool.false_ne_true, tested] at h
      split at h
      · exact h
      · cases List.append_left_eq_self.1 h
  · intro h
    rw [h]
    rfl

def simpleName (type : Text) : Text := (Text.split '.' type).getLastD []

/-- Whether a text may stand for a type in a line that imports it. -/
def IsTypeName (t : Text) : Prop := t ≠ [] ∧ ∀ c ∈ t, Text.isBlank c = false ∧ c ≠ ';'

/-- Whether no class of a unit is called like a type, unless both are called `Test`. -/
def IsImportable (t : Text) : Prop :=
  IsTypeName t ∧ ("Test".toList.isSuffixOf (simpleName t) = true → simpleName t = "Test".toList)

instance (t : Text) : Decidable (IsTypeName t) :=
  decidable_of_iff (t ≠ [] ∧ t.all (fun c => !Text.isBlank c && c != ';') = true)
    (by simp [IsTypeName])

instance (t : Text) : Decidable (IsImportable t) := inferInstanceAs (Decidable (IsTypeName t ∧ _))

theorem isImportable_of_mem_imported {type : Text} (h : type ∈ imported parallel) :
    IsImportable type := by
  have hliteral : ∀ {l : List Char}, IsImportable l → IsImportable (String.ofList l).toList := by
    intro l hl
    rwa [String.toList_ofList]
  have htypes : ∀ t ∈ testingTypes ++ concurrencyTypes ++ importedTypes, IsImportable t := by
    simp only [testingTypes, concurrencyTypes, importedTypes, List.cons_append, List.nil_append,
      List.forall_mem_cons]
    repeat refine ⟨hliteral (by decide +kernel), ?_⟩
    exact nofun
  refine htypes type ?_
  cases parallel with
  | true => exact h
  | false =>
    rcases List.mem_append.1 h with h | h
    · exact List.mem_append_left _ (List.mem_append.1 h |>.elim (List.mem_append_left _) nofun)
    · exact List.mem_append_right _ h

theorem importedType?_importLine {type : Text} (h : IsTypeName type) :
    importedType? (importLine type) = some (simpleName type) := by
  obtain ⟨hne, hplain⟩ := h
  have hend : Text.dropEndWhile (· = ';') (type ++ [';']) = type := by
    rw [Text.dropEndWhile_append_singleton (by decide)]
    exact Text.dropEndWhile_of_forall fun c hc => decide_eq_false (hplain c hc).2
  have hwords : Text.words (importLine type) = ["import".toList, type ++ [';']] := by
    show Text.fieldsBy Text.isBlank ("import".toList ++ ' ' :: (type ++ [';'])) = _
    have hkeyword : "import".toList.all (fun c => !Text.isBlank c) = true := by decide +kernel
    rw [Text.fieldsBy_append_cons (by simpa using hkeyword) (by decide) (by decide),
      Text.fieldsBy_of_forall]
    · intro c hc
      rcases List.mem_append.1 hc with hc | hc
      · exact (hplain c hc).1
      · rw [List.mem_singleton.1 hc]
        decide
    · exact List.append_ne_nil_of_left_ne_nil hne _
  rw [importedType?, hwords]
  show (Text.split '.' (Text.dropEndWhile (· = ';') (type ++ [';']))).getLast? = _
  rw [hend, simpleName, List.getLastD_eq_getLast?, List.getLast?_eq_some_getLast
    (Text.split_ne_nil '.' type), Option.getD_some]

theorem typesIn_imports : typesIn (imports parallel) = (imported parallel).map simpleName := by
  have hline : ∀ {type : Text}, '\n' ∉ type → '\n' ∉ importLine type := by
    intro type htype
    unfold importLine
    simp [htype]
  have hlines : Text.lines (imports parallel) = (imported parallel).map importLine ++
      [importLine "static org.junit.jupiter.api.Assertions.*"] := by
    refine Text.lines_unlines_of_not_mem (by simp) (List.forall_mem_append.2 ⟨?_, ?_⟩)
    · rw [List.forall_mem_map]
      intro type hmem
      exact hline fun hfeed => nomatch ((isImportable_of_mem_imported hmem).1.2 '\n' hfeed).1
    · exact List.forall_mem_singleton.2 (hline (by decide +kernel))
  have hstatic : importedType? (importLine "static org.junit.jupiter.api.Assertions.*") = none := by
    decide +kernel
  have htypes : ∀ type ∈ imported parallel, importedType? (importLine type) =
      some (simpleName type) := by
    intro type hmem
    exact importedType?_importLine (isImportable_of_mem_imported hmem).1
  have hnames : (imported parallel).filterMap (importedType? ∘ importLine) =
      (imported parallel).filterMap (some ∘ simpleName) := List.filterMap_congr htypes
  rw [typesIn, hlines, List.filterMap_append, List.filterMap_map, hnames, List.filterMap_eq_map,
    List.filterMap_cons_none hstatic, List.filterMap_nil, List.append_nil]

theorem mem_typesIn_iff {t : Text} (h : "Test".toList <:+ t) :
    t ∈ typesIn (imports parallel) ↔ t = "Test".toList := by
  rw [typesIn_imports, List.mem_map]
  constructor
  · rintro ⟨type, hmem, rfl⟩
    exact (isImportable_of_mem_imported hmem).2 (List.isSuffixOf_iff_suffix.2 h)
  · rintro rfl
    refine ⟨"org.junit.jupiter.api.Test", ?_, by decide +kernel⟩
    exact List.mem_append_left _ (List.mem_append_left _ (by simp [testingTypes]))

end JUnit

/-- A class has the simple name of a type that its file imports exactly if it is called `Test`, and
it is called so exactly if the title of its unit has no letters and digits, or is the word test but
for other characters. -/
theorem class_imported_iff (title : Text) (parallel : Bool) :
    (JUnit.className title ∈ JUnit.typesIn (JUnit.imports parallel) ↔
      JUnit.className title = "Test".toList) ∧
    (JUnit.className title = "Test".toList ↔
      plainWords title = [] ∨ plainWords title = ["test".toList] ∨
        plainWords title = ["Test".toList]) :=
  ⟨JUnit.mem_typesIn_iff (JUnit.isClassName_className title).ends,
    JUnit.className_eq_iff.trans Naming.pascal_eq_iff⟩

/-- The class of a test called test is named like the annotation of tests that its file imports. -/
theorem class_clashes_with_import :
    JUnit.className "test" = "Test".toList ∧
      "Test".toList ∈ JUnit.typesIn (JUnit.imports false) :=
  ⟨by decide +kernel, (JUnit.mem_typesIn_iff (List.suffix_refl _)).2 rfl⟩

end TestScribe
