import TestScribe.Proofs.Files.Imprint

/-!
Writing again. As long as a tree still has what a write has left in it, the directories and the file
with its text, the same write changes nothing and is refused if and only if it was refused before
(`write_again`); in particular it does not matter what has been made around that in the meantime.
-/

namespace TestScribe

namespace View

variable {v x : View} {q : Path} {text name : Text} {l : Location} {parts : List Text}

theorem name_of_leaf (h : v.leaf parts = .ok l) (hname : parts = parts.dropLast ++ [name]) :
    name ≠ "..".toList ∧ FileTree.isTooLong name = false := by
  unfold leaf at h
  split at h
  · cases h
  · rw [hname, List.getLast?_concat] at h
    simp only [spot] at h
    split at h
    · cases h
    · rename_i hn
      split at h
      · cases h
      · rename_i hlong
        exact ⟨hn, by simpa using hlong⟩

theorem imprint_of_nul (h : FileTree.hasNul q.parent.parts = true) :
    v.imprint q = ⟨[], none⟩ := if_pos h

theorem imprint_of_not_nul (h : FileTree.hasNul q.parent.parts = false) :
    v.imprint q = ⟨(v.walk q.parent.parts).seen,
      if (v.walk q.parent.parts).bar = none then (v.leaf q.parts).toOption else none⟩ :=
  if_neg (by simp [h])

theorem of_imprint_file (h : (v.imprint q).file = some l) :
    FileTree.hasNul q.parent.parts = false ∧ (v.walk q.parent.parts).bar = none ∧
      v.leaf q.parts = .ok l := by
  cases hnul : FileTree.hasNul q.parent.parts with
  | true =>
    rw [imprint_of_nul hnul] at h
    cases h
  | false =>
    obtain ⟨-, -, hbar, -, -⟩ := file_imprint h
    rw [imprint_of_not_nul hnul] at h
    simp only [if_pos hbar] at h
    refine ⟨rfl, hbar, ?_⟩
    cases hleaf : v.leaf q.parts <;> rw [hleaf] at h <;> cases h
    rfl

theorem refusal_of_file (h : (v.imprint q).file = some l) : v.refusal q = none := by
  obtain ⟨hnul, hbar, hleaf⟩ := of_imprint_file h
  unfold View.refusal
  rw [if_neg (by simp [hnul]), hindrance_of_open hbar, hleaf]

/-- Whether a view still has what a write to a path has left in another one. -/
structure Retains (v : View) (q : Path) (text : Text) (x : View) : Prop where
  directory : ∀ l, v.stamp q text l = some .directory → x l = some .directory
  file : ∀ l, (v.stamp q text).isFile l = true → x.isFile l = true
  text : ∀ l, (v.imprint q).file = some l → x l = some (.file (.text text))

theorem Retains.refl (v : View) (q : Path) (text : Text) : Retains v q text (v.stamp q text) :=
  ⟨fun _ h => h, fun _ h => h, fun _ hf => if_pos hf⟩

theorem Retains.seen (h : Retains v q text x) (hl : l ∈ (v.imprint q).seen) :
    x l ≠ none ∧ x.isFile l = v.isFile l := by
  have hne : (v.imprint q).file ≠ some l := by
    intro hf
    obtain ⟨name, -, -, -, hn⟩ := file_imprint hf
    exact hn (seen_imprint hl)
  have hstamp : v.stamp q text l = some ((v l).getD .directory) := by
    rw [stamp_of_ne hne, fill_of_mem hl]
  cases hfile : v.isFile l with
  | true =>
    obtain ⟨c, hc⟩ := isFile_iff.1 hfile
    have hx : x.isFile l = true := h.file l (isFile_iff.2 ⟨c, by rw [hstamp, hc]; rfl⟩)
    obtain ⟨c', hc'⟩ := isFile_iff.1 hx
    exact ⟨by simp [hc'], hx⟩
  | false =>
    have hx : x l = some .directory := by
      refine h.directory _ ?_
      rw [stamp_of_ne hne, fill_eq_directory hfile hl]
    exact ⟨by simp [hx], by simp [isFile, hx]⟩

theorem Retains.walk (h : Retains v q text x) (hnul : FileTree.hasNul q.parent.parts = false) :
    x.walk q.parent.parts = v.walk q.parent.parts :=
  walk_congr fun l hl => (h.seen (by rw [imprint_of_not_nul hnul]; exact hl)).2

theorem Retains.fill (h : Retains v q text x) : x.fill (v.imprint q).seen = x :=
  fill_eq_self fun _ hl => (h.seen hl).1

theorem Retains.fill_place (h : Retains v q text x)
    (hnul : FileTree.hasNul q.parent.parts = false) (hb : (v.walk q.parent.parts).bar = none)
    (hleaf : v.leaf q.parts = v.spot (v.walk q.parent.parts) name) (hn : name ≠ "..".toList)
    (hlong : FileTree.isTooLong name = false) :
    x.fill (v.walk q.parent.parts).seen ((v.walk q.parent.parts).place ++ [name]) =
        some .directory ↔
      v.fill (v.walk q.parent.parts).seen ((v.walk q.parent.parts).place ++ [name]) =
        some .directory := by
  have hseen : (v.imprint q).seen = (v.walk q.parent.parts).seen := by
    rw [imprint_of_not_nul hnul]
  have hfile : (v.imprint q).file = (v.leaf q.parts).toOption := by
    rw [imprint_of_not_nul hnul]
    exact if_pos hb
  have hfill := h.fill
  rw [hseen] at hfill
  rw [hfill]
  unfold spot at hleaf
  rw [if_neg hn, if_neg (by simp [hlong])] at hleaf
  constructor
  · intro hx
    by_contra hv
    rw [if_neg hv] at hleaf
    have htext := h.text _ (by rw [hfile, hleaf]; rfl)
    rw [hx] at htext
    cases htext
  · intro hv
    rw [if_pos hv] at hleaf
    have hne : ∀ l, (v.imprint q).file ≠ some l := by
      intro l
      rw [hfile, hleaf]
      exact nofun
    refine h.directory _ ?_
    rw [stamp_of_ne (hne _), hseen, hv]

theorem Retains.leaf (h : Retains v q text x) (hnul : FileTree.hasNul q.parent.parts = false)
    (hb : (v.walk q.parent.parts).bar = none) : x.leaf q.parts = v.leaf q.parts := by
  have hwalk := h.walk hnul
  by_cases hnul' : FileTree.hasNul q.parts = true
  · rw [View.leaf, View.leaf, if_pos hnul', if_pos hnul']
  · cases hlast : q.parts.getLast? with
    | none => simp only [View.leaf, hlast]
    | some name =>
      have key : ∀ y : View, y.leaf q.parts = y.spot (y.walk q.parent.parts) name := by
        intro y
        rw [View.leaf, if_neg hnul', hlast]
        rfl
      have hleaf := key v
      rw [key x, hleaf, hwalk]
      by_cases hn : name = "..".toList
      · rw [spot, if_pos hn, spot, if_pos hn]
      · cases hlong : FileTree.isTooLong name with
        | true => rw [spot, if_neg hn, if_pos hlong, spot, if_neg hn, if_pos hlong]
        | false =>
          have hplace := h.fill_place hnul hb hleaf hn hlong
          simp only [spot, hplace]

theorem Retains.imprint (h : Retains v q text x) : x.imprint q = v.imprint q := by
  by_cases hnul : FileTree.hasNul q.parent.parts = true
  · rw [imprint_of_nul hnul, imprint_of_nul hnul]
  · rw [Bool.not_eq_true] at hnul
    rw [imprint_of_not_nul hnul, imprint_of_not_nul hnul, h.walk hnul]
    by_cases hb : (v.walk q.parent.parts).bar = none
    · rw [if_pos hb, if_pos hb, h.leaf hnul hb]
    · rw [if_neg hb, if_neg hb]

theorem Retains.stamp (h : Retains v q text x) : x.stamp q text = x := by
  funext l
  by_cases hf : (v.imprint q).file = some l
  · rw [h.text l hf]
    exact if_pos (by rw [h.imprint]; exact hf)
  · rw [stamp_of_ne (by rw [h.imprint]; exact hf), h.imprint, h.fill]

theorem Retains.refusal (h : Retains v q text x) : x.refusal q = none ↔ v.refusal q = none := by
  unfold View.refusal
  cases hnul : FileTree.hasNul q.parent.parts with
  | true => simp
  | false =>
    have hwalk := h.walk hnul
    cases hb : (v.walk q.parent.parts).bar with
    | none =>
      rw [hindrance_of_open hb, hindrance_of_open (by rw [hwalk, hb]), h.leaf hnul hb]
    | some c => simp [hindrance, hwalk, hb]

end View

namespace FileTree

variable {t u : FileTree} {p : Path} {text : Text}

theorem locate_write {l : Location} (hl : (View.imprint t.at? p).file = some l) (text : Text) :
    (t.write p text).1.locate p.parts = .ok l := by
  obtain ⟨hnul, hbar, hleaf⟩ := View.of_imprint_file hl
  obtain ⟨name, hparts, -, rfl, -⟩ := View.file_imprint hl
  obtain ⟨hn, hlong⟩ := View.name_of_leaf hleaf hparts
  have hkeep : View.Retains t.at? p text (t.write p text).1.at? := by
    rw [(t.write_eq p text).1]
    exact .refl _ _ _
  have hf := followed_walk (t.write p text).1 p.parent.parts
  rw [hkeep.walk hnul] at hf
  have hlacks : ¬ (View.walk t.at? p.parent.parts).lacks (t.write p text).1.at? := by
    rintro ⟨k, hk, hnone⟩
    exact (hkeep.seen (by rw [View.imprint_of_not_nul hnul]; exact hk)).1 hnone
  obtain ⟨hloc, hdirs⟩ := hf.clear hlacks hbar
  have hplace := place_down (hdirs _ (List.prefix_refl _)) hn hlong
  rw [hparts, locate_append_singleton, hloc]
  exact enter_eq_ok.2 ⟨hplace, by rw [hkeep.text _ hl]; rfl⟩

/-- A tree has what a write has left as long as it has grown out of that and the text of the write,
if it came to that, can still be read at its path. -/
theorem retains_of_grows (hg : Grows (t.write p text).1 u)
    (hr : (t.write p text).2 = none → u.read p = .ok (.text text)) :
    View.Retains t.at? p text u.at? := by
  rw [(t.write_eq p text).2] at hr
  have hkind : ∀ l e, View.stamp t.at? p text l = some e →
      ∃ f, u.at? l = some f ∧ (f = .directory ↔ e = .directory) := by
    rw [← (t.write_eq p text).1]
    exact hg
  refine ⟨fun l hl => ?_, fun l hl => ?_, fun l hl => ?_⟩
  · obtain ⟨f, hf, hfd⟩ := hkind l _ hl
    rw [hf, hfd.2 rfl]
  · obtain ⟨c, hc⟩ := View.isFile_iff.1 hl
    obtain ⟨f, hf, hfd⟩ := hkind l _ hc
    cases f with
    | file c' => exact View.isFile_iff.2 ⟨c', hf⟩
    | directory => cases hfd.1 rfl
  · obtain ⟨-, k, hk, hc⟩ := read_eq_ok.1 (hr (View.refusal_of_file hl))
    have hkl := hk.symm.trans (locate_of_grows hg (locate_write hl text))
    cases hkl
    exact hc

/-- The same write changes nothing, and is refused if and only if it was refused before. -/
theorem write_again (hg : Grows (t.write p text).1 u)
    (hr : (t.write p text).2 = none → u.read p = .ok (.text text)) :
    (u.write p text).1.at? = u.at? ∧ ((u.write p text).2 = none ↔ (t.write p text).2 = none) := by
  have h := retains_of_grows hg hr
  rw [(u.write_eq p text).1, (u.write_eq p text).2, (t.write_eq p text).2]
  exact ⟨h.stamp, h.refusal⟩

end FileTree

end TestScribe
