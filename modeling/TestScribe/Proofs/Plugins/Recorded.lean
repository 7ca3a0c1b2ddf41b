import Mathlib.Data.List.Infix
import TestScribe.Proofs.Export.Exits
import TestScribe.Proofs.Files.Resolving
import TestScribe.Reference

/-!
References without halves of surrogate pairs. What they come to is told by their texts alone
(`correctedAll_ofValue`), and the plugins that are loaded for them are those of these texts
(`loadReferences_ofValue`).
-/

namespace TestScribe

namespace RawText

theorem split_ofText (mark : Char) (t : Text) :
    Text.split (.char mark) (ofText t) = (Text.split mark t).map ofText :=
  Text.split_map (fun _ _ h => CodePoint.char.inj h) mark t

theorem head?_ofText (t : Text) (c : Char) :
    (ofText t).head? = some (.char c) ↔ t.head? = some c := by
  cases t <;> simp [ofText]

end RawText

theorem FileTree.hasNul_cons (first : Text) (rest : List Text) :
    hasNul (first :: rest) = (first.contains '\x00' || hasNul rest) := List.any_cons

theorem FileTree.hasNul_append (front back : List Text) :
    hasNul (front ++ back) = (hasNul front || hasNul back) := List.any_append

namespace RawLocation

open RawText (ofText)

theorem toText_ofText (l : Location) : toText (l.map ofText) = ofText (Path.ofLocation l).toText :=
  congrArg (CodePoint.char '/' :: ·) (Text.map_join CodePoint.char ['/'] l).symm

theorem refusal?_ofText (asked : Path) (l : RawLocation) (name : Text) :
    refusal? asked l (ofText name) =
      if name.contains '\x00' then some (.file ⟨.embeddedNul, asked⟩) else none := by
  have hmem : (ofText name).contains (.char '\x00') = name.contains '\x00' := by
    rw [Bool.eq_iff_iff, List.contains_iff_mem, List.contains_iff_mem]
    simp [ofText]
  rw [refusal?, RawText.misfit?_ofText, hmem]
  rfl

/-- One piece is dropped, cannot be asked for, or changes the way so far, which is given from its end
in following components. -/
theorem follow_cons_ofText (asked : Path) (back : Location) (first : Text) (rest : List RawText) :
    follow asked (back.reverse.map ofText) (ofText first :: rest) =
      if first = [] ∨ first = ['.'] then follow asked (back.reverse.map ofText) rest
      else if first.contains '\x00' then .error (.file ⟨.embeddedNul, asked⟩)
      else follow asked ((Path.follow back first).reverse.map ofText) rest := by
  have hword (s : Text) : ofText first = ofText s ↔ first = s := RawText.ofText_inj
  have hempty : ofText first = [] ↔ first = [] := hword []
  have hdot : ofText first = [.char '.'] ↔ first = ['.'] := hword ['.']
  have hdots : ofText first = [.char '.', .char '.'] ↔ first = "..".toList := hword ['.', '.']
  rw [follow, Path.follow]
  by_cases hdropped : first = [] ∨ first = ['.']
  · rw [if_pos (by rwa [hempty, hdot]), if_pos hdropped]
  · rw [if_neg (by rwa [hempty, hdot]), if_neg hdropped]
    by_cases hup : first = "..".toList
    · have hnul : first.contains '\x00' = false := by
        rw [hup]
        rfl
      have hparent : (back.reverse.map ofText).dropLast = back.tail.reverse.map ofText := by
        rw [← List.map_dropLast, List.dropLast_reverse]
      rw [if_pos (hdots.2 hup), if_pos hup, hnul, hparent]
      rfl
    · have hdown : back.reverse.map ofText ++ [ofText first] =
          (first :: back).reverse.map ofText := by
        rw [List.reverse_cons, List.map_append, List.map_singleton]
      rw [if_neg (by rwa [hdots]), if_neg hup, refusal?_ofText, hdown]
      cases first.contains '\x00' <;> rfl

theorem follow_ofText (asked : Path) (back : Location) (parts : List Text) :
    let kept := parts.filter fun p => !p.isEmpty && p ≠ ['.']
    follow asked (back.reverse.map ofText) (parts.map ofText) =
      if FileTree.hasNul kept then .error (.file ⟨.embeddedNul, asked⟩)
      else .ok ((kept.foldl Path.follow back).reverse.map ofText) := by
  intro kept
  induction parts generalizing back with
  | nil => rfl
  | cons first rest ih =>
    rw [List.map_cons, follow_cons_ofText]
    by_cases hdropped : first = [] ∨ first = ['.']
    · have hkept : kept = rest.filter fun p => !p.isEmpty && p ≠ ['.'] :=
        List.filter_cons_of_neg (by rcases hdropped with rfl | rfl <;> simp)
      rw [if_pos hdropped, ih, hkept]
    · rw [if_neg hdropped]
      rw [not_or] at hdropped
      have hkept : kept = first :: rest.filter fun p => !p.isEmpty && p ≠ ['.'] :=
        List.filter_cons_of_pos (by simp [hdropped.1, hdropped.2])
      rw [hkept, FileTree.hasNul_cons, List.foldl_cons]
      cases first.contains '\x00' with
      | true => rfl
      | false =>
        rw [if_neg Bool.false_ne_true, ih, Bool.false_or]

theorem follow_split (asked : Path) (back : Location) (t : Text) :
    follow asked (back.reverse.map ofText) (Text.split (.char '/') (ofText t)) =
      if FileTree.hasNul (Path.partsOf t) then .error (.file ⟨.embeddedNul, asked⟩)
      else .ok (((Path.partsOf t).foldl Path.follow back).reverse.map ofText) := by
  rw [RawText.split_ofText]
  exact follow_ofText asked back (Text.split '/' t)

end RawLocation

theorem Path.foldl_follow_of_entries {l back : List Text} (h : "..".toList ∉ l) :
    l.foldl follow back = l.reverse ++ back := by
  induction l generalizing back with
  | nil => rfl
  | cons first rest ih =>
    rw [List.mem_cons, not_or] at h
    rw [List.foldl_cons, follow, if_neg (Ne.symm h.1), ih h.2, List.reverse_cons, List.append_assoc,
      List.singleton_append]

namespace RawLocation

open RawText (ofText)

variable {dir : Location}

/-- A written path without halves of pairs leads where the path does that is put together with the
one of the directory. -/
theorem find_ofText (hdots : "..".toList ∉ dir) (hnul : FileTree.hasNul dir = false) (t : Text) :
    let p := (Path.ofLocation dir).join (Path.ofText t)
    find (dir.map ofText) (ofText t) =
      if FileTree.hasNul p.parts then .error (.file ⟨.embeddedNul, p⟩)
      else .ok (p.resolved.parts.map ofText) := by
  intro p
  have hshown : (dir.map ofText).map RawText.shown = dir := by
    rw [List.map_map]
    exact List.map_id'' RawText.shown_ofText dir
  have hasked : (⟨1, dir⟩ : Path).join (Path.ofText t) = p := rfl
  rw [find, hshown, RawText.shown_ofText, hasked]
  by_cases hroot : t.head? = some '/'
  · have hp : p = Path.ofText t := if_pos (Path.isAbsolute_ofText_iff.2 hroot)
    rw [if_pos ((RawText.head?_ofText t '/').2 hroot), hp]
    exact follow_split _ [] t
  · have hp : p = Path.ofLocation (dir ++ Path.partsOf t) :=
      if_neg (mt Path.isAbsolute_ofText_iff.1 hroot)
    have hkept : FileTree.hasNul (dir ++ Path.partsOf t) = FileTree.hasNul (Path.partsOf t) := by
      rw [FileTree.hasNul_append, hnul, Bool.false_or]
    have hfollowed := follow_split p dir.reverse t
    rw [List.reverse_reverse] at hfollowed
    rw [if_neg (mt (RawText.head?_ofText t '/').1 hroot), hfollowed, hp, Path.resolved,
      Path.ofLocation]
    dsimp only
    rw [hkept, List.foldl_append, Path.foldl_follow_of_entries hdots, List.append_nil]

end RawLocation

namespace Reference

open RawText (ofText)

theorem corrected_ofValue {dir : Location} (hdots : "..".toList ∉ dir)
    (hnul : FileTree.hasNul dir = false) (v : Value) :
    corrected (dir.map ofText) (ofValue v) =
      (Plugins.corrected (Path.ofLocation dir) v).map ofText := by
  cases v with
  | text t =>
    rw [ofValue, corrected, RawText.shown_ofText, Plugins.corrected, Value.textFor_text,
      RawLocation.find_ofText hdots hnul]
    simp only [bind, Except.bind]
    split
    · split
      · rfl
      · exact congrArg Except.ok (RawLocation.toText_ofText _)
    · rfl
  | _ => rfl

theorem dirOf_resolved {project : Text}
    (hnul : FileTree.hasNul (Path.ofText project).parts = false) :
    "..".toList ∉ (Path.ofText project).resolved.parent.parts ∧
      FileTree.hasNul (Path.ofText project).resolved.parent.parts = false := by
  have hresolved : ∀ part ∈ (Path.ofText project).resolved.parent.parts,
      part ∈ (Path.ofText project).parts ∧ part ≠ "..".toList := by
    intro part hpart
    have hmem := List.mem_of_mem_dropLast hpart
    rw [Path.resolved, List.mem_reverse] at hmem
    rcases Path.mem_foldl_follow hmem with hnil | hpart
    · cases hnil
    · exact hpart
  refine ⟨fun h => (hresolved _ h).2 rfl, ?_⟩
  rw [FileTree.hasNul, List.any_eq_false] at hnul ⊢
  exact fun part hpart => hnul part (hresolved part hpart).1

/-- References without halves of pairs come to what their texts come to. -/
theorem correctedAll_ofValue (project : Text) (references : List Value) :
    correctedAll project (references.map ofValue) =
      (Plugins.correctedAll (Path.ofText project) references).map (List.map ofText) := by
  have hfollowed := RawLocation.follow_split (Path.ofText project) [] project
  rw [List.reverse_nil, List.map_nil] at hfollowed
  have hparts : (Path.ofText project).parts = Path.partsOf project := rfl
  rw [correctedAll, Plugins.correctedAll, RawText.shown_ofText, hfollowed, hparts]
  cases hnul : FileTree.hasNul (Path.partsOf project) with
  | true => rfl
  | false =>
    obtain ⟨hdots, hdir⟩ := dirOf_resolved hnul
    have hdirectory : (((Path.partsOf project).foldl Path.follow []).reverse.map ofText).dropLast =
        (Path.ofText project).resolved.parent.parts.map ofText := by
      rw [← List.map_dropLast]
      rfl
    simp only [Bool.false_eq_true, ↓reduceIte, bind, Except.bind, hdirectory]
    exact Except.mapM_map (corrected_ofValue hdots hdir) references

end Reference

namespace Plugins

variable {lib : Library} {files : FileTree}

theorem loadRaw_ofText (references : List Text) (r : Registry) :
    loadRaw lib files (references.map RawText.ofText) r = load lib files references r := by
  induction references generalizing r with
  | nil => rfl
  | cons reference rest ih =>
    have hone : loadRawOne lib files (RawText.ofText reference) r =
        loadOne lib files reference r := by
      rw [loadRawOne, RawText.text?_ofText]
    rw [List.map_cons, loadRaw, loadEach, hone, load_cons]
    rcases loadOne lib files reference r with ⟨s, _ | e⟩
    · exact ih s
    · rfl

end Plugins

theorem Export.loadReferences_ofValue (w : World) (c : Configuration) (p : Project) :
    loadReferences w c (p.plugins.map .ofValue) = loadPlugins w c p := by
  rw [loadReferences, loadPlugins, Reference.correctedAll_ofValue]
  cases Plugins.correctedAll (Path.ofText c.project) p.plugins with
  | error f => rfl
  | ok references =>
    simp only [Except.map, Plugins.loadRaw_ofText]

end TestScribe
