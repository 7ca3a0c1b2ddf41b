import TestScribe.Proofs.Export.Exits
import TestScribe.Proofs.Export.Repetition

/-!
What an export can touch. A write makes directories that are missing and puts its file where its
path leads, and nothing else changes (`write_alters`), so neither does anything else over a whole
run (`replay_alters`). A path that is accepted goes straight down from the output directory by the
components of the filename, and so do the files of a run. A filename that is all dots and slashes
has no components: its file takes the place of the directory.
-/

namespace TestScribe

namespace Path

theorem partsOf_eq_nil_iff {t : Text} :
    partsOf t = [] ↔ ∀ piece ∈ Text.split '/' t, piece = [] ∨ piece = ['.'] := by
  simp [partsOf, List.filter_eq_nil_iff, or_iff_not_imp_left]

end Path

/-- A filename is refused, or its components come after those of the directory. -/
theorem outputPath_cases (directory filename : Text) :
    outputPath directory filename = .error (.outside filename) ∨
      "..".toList ∉ Path.partsOf filename ∧ outputPath directory filename =
        .ok ⟨(Path.ofText directory).slashes,
          (Path.ofText directory).parts ++ Path.partsOf filename⟩ := by
  cases h : outputPath directory filename with
  | error e =>
    refine .inl ?_
    unfold outputPath at h
    simp only at h
    split at h <;> cases h
    rfl
  | ok p =>
    obtain ⟨hdots, rfl⟩ := of_outputPath h
    exact .inr ⟨hdots, rfl⟩

namespace FileTree

/-- Trees that differ in nothing but directories that were missing, and files to which paths of a
kind lead. -/
structure Alters (reach : Path → Prop) (t s : FileTree) : Prop where
  grows : Grows t s
  only : ∀ l, s.at? l ≠ t.at? l → (t.at? l = none ∧ s.at? l = some .directory) ∨
    ∃ p text, reach p ∧ s.locate p.parts = .ok l ∧ s.at? l = some (.file (.text text))

variable {t s u : FileTree} {reach : Path → Prop}

theorem Alters.refl (reach : Path → Prop) (t : FileTree) : Alters reach t t :=
  ⟨(Keeps.refl t).grows, fun _ h => absurd rfl h⟩

theorem Alters.trans (h : Alters reach t s) (h' : Alters reach s u) : Alters reach t u where
  grows := h.grows.trans h'.grows
  only := by
    intro l hl
    by_cases hus : u.at? l = s.at? l
    · rw [hus] at hl ⊢
      -- the last trees agree here, and whatever led here leads here still
      rcases h.only l hl with hdir | ⟨p, text, hp, hlocate, hfile⟩
      · exact .inl hdir
      · exact .inr ⟨p, text, hp, locate_of_grows h'.grows hlocate, hfile⟩
    · rcases h'.only l hus with ⟨hnone, hdir⟩ | hfile
      · refine .inl ⟨?_, hdir⟩
        by_contra hsome
        obtain ⟨e, he⟩ := Option.ne_none_iff_exists'.1 hsome
        obtain ⟨f, hf, -⟩ := h.grows l e he
        rw [hnone] at hf
        cases hf
      · exact .inr hfile

theorem write_alters {p : Path} (hp : reach p) (t : FileTree) (body : Text) :
    Alters reach t (t.write p body).1 where
  grows := write_grows t p body
  only := by
    intro l hl
    have hstamp := congrFun (t.write_eq p body).1 l
    by_cases hfile : (View.imprint t.at? p).file = some l
    · exact .inr ⟨p, body, hp, locate_write hfile body, hstamp.trans (if_pos hfile)⟩
    · have hfill : (t.write p body).1.at? l = View.fill t.at? (View.imprint t.at? p).seen l :=
        hstamp.trans (if_neg hfile)
      rw [hfill] at hl ⊢
      by_cases hseen : l ∈ (View.imprint t.at? p).seen
      · rw [View.fill_of_mem hseen] at hl ⊢
        cases hat : t.at? l with
        | none => exact .inl ⟨rfl, rfl⟩
        | some e =>
          rw [hat] at hl
          exact absurd rfl hl
      · exact absurd (View.fill_of_not_mem hseen) hl

end FileTree

namespace Plan

open FileTree (Alters)

variable {p : Plan} {w : Wish} {h : List Mark} {reach : Path → Prop}

theorem save_alters {path : Path} (hp : reach path) (t : FileTree) (body : RawText) :
    Alters reach t (p.save t path body).1 := by
  rw [fst_save]
  split
  · exact .refl reach t
  · exact FileTree.write_alters hp t _

theorem replay_alters (hw : ∀ i path body, .wrote i ∈ h → w i = .ok (path, body) → reach path)
    (t : FileTree) : Alters reach t (p.replay w t h) := by
  induction h generalizing t with
  | nil => exact .refl reach t
  | cons m h ih =>
    refine Alters.trans ?_
      (ih (fun i path body hi => hw i path body (List.mem_cons_of_mem _ hi)) (p.record w t m))
    cases m with
    | ended i => exact .refl reach t
    | wrote i =>
      cases hi : w i with
      | error e =>
        simp only [record, hi]
        exact .refl reach t
      | ok f =>
        rw [record_wrote hi]
        exact save_alters (hw i f.1 f.2 List.mem_cons_self hi) t f.2

end Plan

namespace Export

variable {w v : World} {c : Configuration} {l : Loaded} {units : List (Nat × Text)}
  {given : Option Format} {conduct : Format → Conduct} {schedule : List Nat → List Event}

def Handed (conduct : Format → Conduct) (w : World) (c : Configuration) (given : Option Format)
    (path : Path) : Prop :=
  ∃ v l units u f, Selects w c given v l units ∧ u ∈ units ∧
    handed (conduct l.format) v c l.project u.1 = .ok f ∧
    outputPath c.directory f.filename = .ok path

/-- A run changes nothing but directories that were missing, and files to which the paths of its
selected units lead. -/
theorem alters_runBy (conduct : Format → Conduct) (w : World) (c : Configuration)
    (given : Option Format) (schedule : List Nat → List Event) :
    FileTree.Alters (Handed conduct w c given) w.files
      (runBy conduct w c given schedule).world.files := by
  rcases runBy_cases conduct w c given schedule with
    ⟨v, err, hload, hrun⟩ | ⟨v, l, f, hload, -, hrun⟩ | ⟨v, l, units, hsel⟩
  · rw [hrun, files_of_load hload]
    exact .refl _ _
  · rw [hrun, files_of_load hload]
    exact .refl _ _
  · have hs := hsel.sublist
    rw [hsel.runBy, files_emitAll hs, ← files_of_load hsel.load]
    refine Plan.replay_alters (fun i path body hi hw => ?_) v.files
    obtain ⟨hmem, -⟩ := (wrote_iff hs schedule i).1 hi
    obtain ⟨u, hu, rfl⟩ := List.mem_map.1 hmem
    obtain ⟨f, hf, hpath, -⟩ := wish_eq_ok.1 hw
    exact ⟨v, l, units, u, f, hsel, hu, hf, hpath⟩

/-- Whether a place is that of the file of a selected unit: as many components below the output
directory as the filename has, so that it is the place of the directory itself only if the filename
is all dots and slashes. -/
def IsUnitFile (conduct : Format → Conduct) (w : World) (c : Configuration)
    (given : Option Format) (after : FileTree) (place : Location) : Prop :=
  ∃ v l units u f base text, Selects w c given v l units ∧ u ∈ units ∧
    handed (conduct l.format) v c l.project u.1 = .ok f ∧
    after.at? place = some (.file (.text text)) ∧
    after.locate (Path.ofText c.directory).parts = .ok base ∧
    place = base ++ Path.partsOf f.filename ∧ "..".toList ∉ Path.partsOf f.filename ∧
    (place = base ↔ ∀ piece ∈ Text.split '/' f.filename, piece = [] ∨ piece = ['.'])

theorem isUnitFile_of_handed {after : FileTree} {path : Path} {place : Location} {text : Text}
    (h : Handed conduct w c given path) (hlocate : after.locate path.parts = .ok place)
    (hfile : after.at? place = some (.file (.text text))) :
    IsUnitFile conduct w c given after place := by
  obtain ⟨v, l, units, u, f, hsel, hu, hf, hpath⟩ := h
  obtain ⟨hdots, rfl⟩ := of_outputPath hpath
  rw [FileTree.locate_append, Except.bind_eq_ok] at hlocate
  obtain ⟨base, hbase, hrest⟩ := hlocate
  have hplace := FileTree.eq_append_of_follow hdots hrest
  refine ⟨v, l, units, u, f, base, text, hsel, hu, hf, hfile, hbase, hplace, hdots, ?_⟩
  rw [hplace, List.append_right_eq_self, Path.partsOf_eq_nil_iff]

/-- Where files go. A filename is refused, or its path has the components of the output directory
and then those of the filename, none of them two dots; and there are such components unless the
filename is all dots and slashes. So an entry that a run has changed is a directory that was
missing, or the file of a selected unit below the output directory. -/
theorem files_stay_in_directory (conduct : Format → Conduct) (w : World) (c : Configuration)
    (given : Option Format) (schedule : List Nat → List Event) :
    (∀ filename, outputPath c.directory filename = .error (.outside filename) ∨
      ∃ rest, outputPath c.directory filename =
          .ok ⟨(Path.ofText c.directory).slashes, (Path.ofText c.directory).parts ++ rest⟩ ∧
        "..".toList ∉ rest ∧
        (rest = [] ↔ ∀ piece ∈ Text.split '/' filename, piece = [] ∨ piece = ['.'])) ∧
    ∀ place, (runBy conduct w c given schedule).world.files.at? place ≠ w.files.at? place →
      w.files.at? place = none ∧
          (runBy conduct w c given schedule).world.files.at? place = some .directory ∨
        IsUnitFile conduct w c given (runBy conduct w c given schedule).world.files place := by
  constructor
  · intro filename
    rcases outputPath_cases c.directory filename with herr | ⟨hdots, hok⟩
    · exact .inl herr
    · exact .inr ⟨_, hok, hdots, Path.partsOf_eq_nil_iff⟩
  · intro place hchange
    refine ((alters_runBy conduct w c given schedule).only place hchange).imp id ?_
    rintro ⟨path, text, hpath, hlocate, hfile⟩
    exact isUnitFile_of_handed hpath hlocate hfile

/-- A unit whose filename leads down into a new directory. -/
theorem files_stay_in_directory_of_nested :
    let w := Sample.world ["a"]
    let c := Sample.configuration "/out/./x" Sample.everything
    let format := Sample.format fun name => Sample.file name ".//d/f"
    let after := (runBy byName w c (some format) fun _ => []).world.files
    let place : Location := ["out", "x", "d", "f"]
    after.at? place ≠ w.files.at? place ∧
      (w.files.at? place = none ∧ after.at? place = some .directory ∨
        IsUnitFile byName w c (some format) after place) := by
  intro w c format after place
  have hchange : after.at? place ≠ w.files.at? place := by decide +kernel
  exact ⟨hchange, (files_stay_in_directory byName w c (some format) fun _ => []).2 _ hchange⟩

/-- A filename of one dot is not blank, and it is accepted. Its path is that of the output
directory, and where the directory should be there is a file in the end. -/
theorem file_takes_place_of_directory :
    let w := Sample.world ["a"]
    let c := Sample.configuration "/out" Sample.everything
    let format := Sample.format fun name => Sample.file name "."
    Text.allBlank ".".toList = false ∧
      outputPath "/out" "." = .ok (Path.ofText "/out") ∧
      w.files.at? ["out".toList] = none ∧
      (runBy byName w c (some format) fun _ => []).world.files.at? ["out".toList] =
        some (.file (.text "a")) := by
  decide +kernel

end Export

end TestScribe
