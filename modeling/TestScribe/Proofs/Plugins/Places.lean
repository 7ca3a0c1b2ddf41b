import Mathlib.Data.Finset.Card
import TestScribe.Proofs.Export.Reloading
import TestScribe.Proofs.Files.Resolving
import TestScribe.Proofs.Files.Walk
import TestScribe.Proofs.Plugins.Contributions

/-!
Where the code of plugins is. References that lead to one place through their text are one reference
once they have been resolved, and are loaded once. But a directory stands for the first file in it,
and that is found out only when the code is looked for: so the path of a directory and the path of
this file are two references to one file, and these are the only two (`called_twice_iff`).
-/

namespace TestScribe

namespace FileTree

variable {t : FileTree} {parts : List Text} {l : Location} {name : Text} {e : Entry}

theorem find_of_entries (hn : "..".toList ∉ parts) (h : t.find parts = .ok (l, e)) : l = parts := by
  simpa using eq_append_of_follow hn (find_eq_ok.1 h).1

theorem find_of_find_append_singleton (hn : "..".toList ∉ parts)
    (h : t.find (parts ++ [name]) = .ok (l, e)) : t.find parts = .ok (parts, .directory) := by
  have hlocate := (find_eq_ok.1 h).1
  rw [locate_append_singleton, Except.bind_eq_ok] at hlocate
  obtain ⟨dir, hdir, henter⟩ := hlocate
  obtain rfl : dir = parts := by simpa using eq_append_of_follow hn hdir
  exact find_eq_ok.2 ⟨hdir, isDirectory_iff.1 (place_eq_ok.1 (enter_eq_ok.1 henter).1).1⟩

end FileTree

namespace Library

variable {lib : Library} {files : FileTree} {p q : Path} {m : Module}

theorem codePath_eq_ok : codePath files p = .ok q ↔
    files.hasDirectory p.parts = .ok true ∧ q = ⟨p.slashes, p.parts ++ [indexFile]⟩ ∨
      files.hasDirectory p.parts = .ok false ∧ q = p := by
  unfold codePath
  rw [Except.bind_eq_ok]
  simp only [asked_eq_ok]
  constructor
  · rintro ⟨_ | _, hb, h⟩ <;> cases h
    · exact .inr ⟨hb, rfl⟩
    · exact .inl ⟨hb, rfl⟩
  · rintro (⟨hb, rfl⟩ | ⟨hb, rfl⟩)
    · exact ⟨true, hb, rfl⟩
    · exact ⟨false, hb, rfl⟩

theorem exists_file_of_loadFile (h : lib.loadFile files p = .ok m) :
    ∃ q l c, codePath files p = .ok q ∧ files.find q.parts = .ok (l, .file c) ∧
      m = (lib.files.lookup l).getD {} := by
  unfold loadFile at h
  rw [Except.bind_eq_ok] at h
  obtain ⟨q, hq, h⟩ := h
  rw [Except.bind_eq_ok] at h
  obtain ⟨b, hb, h⟩ := h
  rw [asked_eq_ok] at hb
  cases b with
  | false => cases h
  | true =>
    obtain ⟨-, l, c, hfind⟩ := FileTree.hasFile_iff.1 hb
    cases hcode : isCode q with
    | false => simp [hcode] at h
    | true =>
      simp only [hcode, Bool.not_true, Bool.false_eq_true, ↓reduceIte, Except.bind_eq_ok,
        asked_eq_ok] at h
      obtain ⟨k, hk, hrun⟩ := h
      obtain rfl : k = l := by
        rw [(FileTree.find_eq_ok.1 hfind).1] at hk
        exact (Except.ok.inj hk).symm
      refine ⟨q, k, c, hq, hfind, ?_⟩
      unfold run at hrun
      split at hrun
      · split at hrun <;> cases hrun
      · exact (Except.ok.inj hrun).symm

end Library

namespace Plugins

open TestScribe.Path (IsEntry ofLocation)

variable {lib : Library} {files : FileTree} {reference x : Text} {references : List Value}
  {paths : List Text} {base : Path} {r : Registry} {l : Location} {parts : List Text}
  {g : Registration}

/-- The location of the file with code to which a reference leads, if it is a path and there is one.
-/
def fileOf? (files : FileTree) (reference : Text) : Option Location :=
  if isPath reference then
    (Library.codePath files (Path.ofText reference)).toOption.bind fun q =>
      (files.find q.parts).toOption.bind fun (l, e) => if e = .directory then none else some l
  else none

theorem fileOf?_eq_some : fileOf? files reference = some l ↔ isPath reference = true ∧
    ∃ q c, Library.codePath files (Path.ofText reference) = .ok q ∧
      files.find q.parts = .ok (l, .file c) := by
  unfold fileOf?
  split
  · rename_i hpath
    cases hcode : Library.codePath files (Path.ofText reference) with
    | error f => simp [Except.toOption]
    | ok q =>
      rw [and_iff_right hpath]
      cases hfind : files.find q.parts with
      | error c => simp [Except.toOption, hfind]
      | ok found =>
        obtain ⟨k, c | _⟩ := found <;> simp [Except.toOption, hfind]
  · rename_i hpath
    simp [hpath]

theorem isPath_toText (l : Location) : isPath (ofLocation l).toText = true := by
  rw [Path.toText_ofLocation, isPath]
  simp

theorem fileOf?_toText (hparts : ∀ part ∈ parts, IsEntry part) :
    fileOf? files (ofLocation parts).toText = some l ↔
      files.hasDirectory parts = .ok true ∧ l = parts ++ [Library.indexFile] ∧
          (∃ c, files.find l = .ok (l, .file c)) ∨
        l = parts ∧ files.hasDirectory parts = .ok false ∧
          ∃ c, files.find l = .ok (l, .file c) := by
  have hread := Path.ofText_toText fun part hpart => (hparts part hpart).toIsPart
  have hdots : "..".toList ∉ parts := fun h => (hparts _ h).ne_dots rfl
  rw [fileOf?_eq_some, and_iff_right (isPath_toText parts), hread]
  simp only [Library.codePath_eq_ok]
  constructor
  · rintro ⟨q, c, ⟨hdir, rfl⟩ | ⟨hdir, rfl⟩, hfind⟩
    · have hindex : "..".toList ∉ parts ++ [Library.indexFile] := by
        rw [List.mem_append, not_or]
        exact ⟨hdots, by decide⟩
      obtain rfl := FileTree.find_of_entries hindex hfind
      exact .inl ⟨hdir, rfl, c, hfind⟩
    · obtain rfl := FileTree.find_of_entries hdots hfind
      exact .inr ⟨rfl, hdir, c, hfind⟩
  · rintro (⟨hdir, rfl, c, hfind⟩ | ⟨rfl, hdir, c, hfind⟩)
    · exact ⟨_, c, .inl ⟨hdir, rfl⟩, hfind⟩
    · exact ⟨_, c, .inr ⟨hdir, rfl⟩, hfind⟩

theorem isEntry_of_mem_index (hparts : ∀ part ∈ parts, IsEntry part) :
    ∀ part ∈ parts ++ [Library.indexFile], IsEntry part := by
  rw [List.forall_mem_append, List.forall_mem_singleton]
  exact ⟨hparts, ⟨by decide, by decide, by decide⟩, by decide⟩

theorem eq_or_eq_of_fileOf? (hparts : ∀ part ∈ parts, IsEntry part)
    (h : fileOf? files (ofLocation parts).toText = some l) :
    l = parts ∨ l = parts ++ [Library.indexFile] := by
  rcases (fileOf?_toText hparts).1 h with ⟨-, hl, -⟩ | ⟨hl, -⟩
  · exact .inr hl
  · exact .inl hl

/-- If there is code at the path of a directory and at the path of the file that stands for it, it
is the code in this file. -/
theorem fileOf?_of_index (hparts : ∀ part ∈ parts, IsEntry part)
    (hl : l = parts ++ [Library.indexFile])
    (hdir : (fileOf? files (ofLocation parts).toText).isSome = true)
    (hindex : (fileOf? files (ofLocation l).toText).isSome = true) :
    fileOf? files (ofLocation parts).toText = some l ∧
      fileOf? files (ofLocation l).toText = some l := by
  have hentries : ∀ part ∈ l, IsEntry part := hl ▸ isEntry_of_mem_index hparts
  have hdots : "..".toList ∉ parts := fun h => (hparts _ h).ne_dots rfl
  obtain ⟨j, hj⟩ := Option.isSome_iff_exists.1 hdir
  obtain ⟨k, hk⟩ := Option.isSome_iff_exists.1 hindex
  have hfound : ∃ e, files.find l = .ok (l, e) ∧ (k = l ∨ e = .directory) := by
    rcases (fileOf?_toText hentries).1 hk with ⟨hd, -⟩ | ⟨rfl, -, c, hc⟩
    · obtain ⟨-, m, hm⟩ := FileTree.hasDirectory_iff.1 hd
      obtain rfl := FileTree.find_of_entries (fun h => (hentries _ h).ne_dots rfl) hm
      exact ⟨_, hm, .inr rfl⟩
    · exact ⟨_, hc, .inl rfl⟩
  obtain ⟨e, he, hke⟩ := hfound
  have hd : files.find parts = .ok (parts, .directory) :=
    FileTree.find_of_find_append_singleton hdots (hl ▸ he)
  rcases (fileOf?_toText hparts).1 hj with ⟨-, hjl, c, hc⟩ | ⟨rfl, -, c, hc⟩
  · obtain rfl : j = l := hjl.trans hl.symm
    rw [hc] at he
    cases he
    obtain rfl | hno := hke
    · exact ⟨hj, hk⟩
    · cases hno
  · rw [hd] at hc
    cases hc

theorem exists_file_of_registrationOf (hpath : isPath x = true)
    (h : registrationOf lib files x = .ok g) : ∃ l, fileOf? files x = some l ∧
      ((lib.files.lookup l).getD {}).registration = some g := by
  unfold registrationOf at h
  rw [Except.bind_eq_ok] at h
  obtain ⟨m, hm, hg⟩ := h
  rw [Except.mapError_eq_ok, Library.load, Library.about, Except.mapError_eq_ok, hpath,
    if_pos rfl] at hm
  obtain ⟨q, l, c, hq, hfind, rfl⟩ := Library.exists_file_of_loadFile hm
  refine ⟨l, fileOf?_eq_some.2 ⟨hpath, q, c, hq, hfind⟩, ?_⟩
  split at hg
  · rename_i hregistration
    cases hg
    exact hregistration
  · cases hg

/-! The references whose registration functions are called. -/

theorem mem_called (h : x ∈ called lib files reference r) :
    x = reference ∧ ∃ g, registrationOf lib files reference = .ok g := by
  unfold called at h
  split at h
  · rename_i hcalled
    refine ⟨List.mem_singleton.1 h, ?_⟩
    cases hg : registrationOf lib files reference with
    | ok g => exact ⟨g, rfl⟩
    | error f =>
      rw [hg] at hcalled
      simp [Except.isOk, Except.toBool] at hcalled
  · cases h

theorem calls_spec (lib : Library) (files : FileTree) (paths : List Text) (r : Registry) :
    (calls lib files paths r).Nodup ∧ ∀ x ∈ calls lib files paths r,
      x ∈ paths ∧ ∃ g, registrationOf lib files x = .ok g := by
  rcases hload : load lib files paths r with ⟨s, e⟩
  obtain ⟨done, -, hcompletes, hends⟩ := exists_course hload
  have hdone : ∀ x ∈ r.fresh done, x ∈ done ∧ ∃ g, registrationOf lib files x = .ok g :=
    fun x hx => ⟨(Registry.mem_fresh.1 hx).1, (hcompletes x hx).imp fun _ h => h.1⟩
  obtain ⟨-, rfl, hcalls⟩ | ⟨f, y, after, u, -, rfl, hload, hy, -, -, hcalls⟩ := hends
  · rw [hcalls]
    exact ⟨Registry.nodup_fresh r _, hdone⟩
  · rw [hcalls]
    refine ⟨(Registry.nodup_fresh r done).append ?_ ?_, fun x hx => ?_⟩
    · unfold called
      split <;> simp
    · intro x hx hcalled
      rw [(mem_called hcalled).1, Registry.mem_fresh] at hx
      rw [isLoaded_of_load hload hx.1] at hy
      cases hy
    · rcases List.mem_append.1 hx with hx | hx
      · exact (hdone x hx).imp_left (List.mem_append_left _)
      · obtain ⟨rfl, hg⟩ := mem_called hx
        exact ⟨by simp, hg⟩

theorem exists_entries_of_corrected {project : Text} {v : Value}
    (h : corrected (Path.ofText project).resolved.parent v = .ok x) (hx : isPath x = true) :
    ∃ parts, (∀ part ∈ parts, IsEntry part) ∧ x = (ofLocation parts).toText := by
  unfold corrected at h
  rw [Except.bind_eq_ok] at h
  obtain ⟨t, -, h⟩ := h
  split at h
  · dsimp only at h
    split at h
    · cases h
    · cases h
      refine ⟨_, fun part hpart => Path.isEntry_of_mem_resolved (fun q hq => ?_) hpart, rfl⟩
      refine Path.isPart_of_mem_join (fun a ha => ?_) (fun a => Path.isPart_of_mem_partsOf) hq
      have hparts : ∀ b ∈ (Path.ofText project).parts, Path.IsPart b :=
        fun b => Path.isPart_of_mem_partsOf
      exact (Path.isEntry_of_mem_resolved hparts (List.mem_of_mem_dropLast ha)).toIsPart
  · rename_i hno
    cases h
    exact absurd hx hno

/-- The two ways to refer to a file: by its path, or by that of the directory that it stands for. -/
theorem eq_or_exists_of_mem_calls {project : Text}
    (h : correctedAll (Path.ofText project) references = .ok paths)
    (hx : x ∈ calls lib files paths r) (hl : fileOf? files x = some l) :
    x = (ofLocation l).toText ∨ ∃ dir, (∀ part ∈ dir, IsEntry part) ∧
      l = dir ++ [Library.indexFile] ∧ x = (ofLocation dir).toText := by
  rw [correctedAll] at h
  split at h
  · cases h
  obtain ⟨v, -, hv⟩ : ∃ v ∈ references, corrected (Path.ofText project).resolved.parent v = .ok x :=
    Except.exists_of_mem_mapM h ((calls_spec lib files paths r).2 x hx).1
  obtain ⟨parts, hparts, rfl⟩ := exists_entries_of_corrected hv (fileOf?_eq_some.1 hl).1
  rcases eq_or_eq_of_fileOf? hparts hl with rfl | hindex
  · exact .inl rfl
  · exact .inr ⟨parts, hparts, hindex, rfl⟩

theorem countP_of_two {α : Type} [DecidableEq α] {xs : List α} (hxs : xs.Nodup) {q : α → Bool}
    {a b : α} (h : ∀ x ∈ xs, q x = true → x = a ∨ x = b) : xs.countP q ≤ 2 ∧
      (1 < xs.countP q ↔ a ≠ b ∧ (a ∈ xs ∧ q a = true) ∧ b ∈ xs ∧ q b = true) := by
  have hcard : xs.countP q = (xs.filter q).toFinset.card := by
    rw [List.countP_eq_length_filter, List.toFinset_card_of_nodup (hxs.filter q)]
  have hmem : ∀ x, x ∈ (xs.filter q).toFinset ↔ x ∈ xs ∧ q x = true := fun x => by simp
  have hsubset : (xs.filter q).toFinset ⊆ {a, b} := fun x hx => by
    rw [hmem] at hx
    simpa using h x hx.1 hx.2
  rw [hcard, Finset.one_lt_card]
  refine ⟨(Finset.card_le_card hsubset).trans Finset.card_le_two, ?_, ?_⟩
  · rintro ⟨x, hx, y, hy, hne⟩
    rw [hmem] at hx hy
    rcases h x hx.1 hx.2 with rfl | rfl <;> rcases h y hy.1 hy.2 with rfl | rfl
    · exact absurd rfl hne
    · exact ⟨hne, hx, hy⟩
    · exact ⟨hne.symm, hy, hx⟩
    · exact absurd rfl hne
  · rintro ⟨hne, ha, hb⟩
    exact ⟨a, (hmem a).2 ha, b, (hmem b).2 hb, hne⟩

/-- The plugins of a project are called for what they are. A registration function that is called is
that of a reference, and of the module in the file to which this leads if it is a path. However the
references of a project are written, those that are called lead to a file once; or twice, and this
if and only if the file stands for a directory, and both its own path and that of the directory are
called. References are texts here, and files have no links and no second names: half a surrogate
pair in a name, by which some systems give the same bytes once more, is left out. -/
theorem called_twice_iff {project : Text}
    (h : correctedAll (Path.ofText project) references = .ok paths) (lib : Library)
    (files : FileTree) (r : Registry) :
    (∀ x ∈ calls lib files paths r, x ∈ paths ∧ ∃ g, registrationOf lib files x = .ok g ∧
      (isPath x = true → ∃ l, fileOf? files x = some l ∧
        ((lib.files.lookup l).getD {}).registration = some g)) ∧
    ∀ l, (calls lib files paths r).countP (fun x => fileOf? files x = some l) ≤ 2 ∧
      (1 < (calls lib files paths r).countP (fun x => fileOf? files x = some l) ↔
        ∃ dir, (∀ part ∈ dir, IsEntry part) ∧ l = dir ++ [Library.indexFile] ∧
          (ofLocation dir).toText ∈ calls lib files paths r ∧
          (ofLocation l).toText ∈ calls lib files paths r) := by
  obtain ⟨hnodup, hspec⟩ := calls_spec lib files paths r
  have hfile : ∀ x ∈ calls lib files paths r, isPath x = true →
      (fileOf? files x).isSome = true := by
    intro x hx hpath
    obtain ⟨-, g, hg⟩ := hspec x hx
    obtain ⟨l, hl, -⟩ := exists_file_of_registrationOf hpath hg
    exact Option.isSome_iff_exists.2 ⟨l, hl⟩
  refine ⟨fun x hx => ?_, fun l => ?_⟩
  · obtain ⟨hmem, g, hg⟩ := hspec x hx
    exact ⟨hmem, g, hg, fun hpath => exists_file_of_registrationOf hpath hg⟩
  · have htwo : ∀ x ∈ calls lib files paths r, decide (fileOf? files x = some l) = true →
        x = (ofLocation l.dropLast).toText ∨ x = (ofLocation l).toText := by
      intro x hx hl
      rcases eq_or_exists_of_mem_calls h hx (of_decide_eq_true hl) with hx | ⟨dir, -, rfl, hx⟩
      · exact .inr hx
      · exact .inl (by rwa [List.dropLast_concat])
    obtain ⟨hle, hlt⟩ := countP_of_two hnodup htwo
    refine ⟨hle, hlt.trans ?_⟩
    constructor
    · rintro ⟨hne, ⟨hdcalled, hd⟩, hlcalled, -⟩
      have hway := eq_or_exists_of_mem_calls h hdcalled (of_decide_eq_true hd)
      rcases hway with heq | ⟨dir, hdir, hdl, hx⟩
      · exact absurd heq hne
      · exact ⟨dir, hdir, hdl, hx ▸ hdcalled, hlcalled⟩
    · rintro ⟨dir, hdir, rfl, hdcalled, hlcalled⟩
      obtain ⟨hd, hi⟩ := fileOf?_of_index hdir rfl (hfile _ hdcalled (isPath_toText _))
        (hfile _ hlcalled (isPath_toText _))
      rw [List.dropLast_concat]
      refine ⟨?_, ⟨hdcalled, decide_eq_true hd⟩, hlcalled, decide_eq_true hi⟩
      rw [Ne, Path.toText_ofLocation_inj (fun part hpart => (hdir part hpart).toIsPart)
        fun part hpart => (isEntry_of_mem_index hdir part hpart).toIsPart]
      simp

namespace Sample

def packageTree : FileTree :=
  ⟨[(["q.py"], .file (.text [])), (["pkg"], .directory),
    (["pkg", Library.indexFile], .file (.text []))]⟩

/-- The code in this tree: both plugins register a translator of one name. -/
def packageLibrary : Library :=
  { files := [(["q.py"], plugin ["shout"] .done),
      (["pkg", Library.indexFile], plugin ["shout"] .done)] }

end Sample

/-- Five references of a project that lead to two files. -/
theorem called_twice_iff_of_spellings :
    let references : List Value :=
      ["./q.py", "pkg/../q.py", "pkg/", "//q.py", "./pkg/."].map fun t => .text (String.toList t)
    let paths : List Text := ["/q.py", "/q.py", "/pkg", "/q.py", "/pkg"]
    let called := calls Sample.packageLibrary Sample.packageTree paths .empty
    correctedAll (Path.ofText "/p.side") references = .ok paths ∧
      called = ["/q.py".toList, "/pkg".toList] ∧
      (∀ x ∈ called, x ∈ paths ∧
        ∃ g, registrationOf Sample.packageLibrary Sample.packageTree x = .ok g ∧
          (isPath x = true → ∃ l, fileOf? Sample.packageTree x = some l ∧
            ((Sample.packageLibrary.files.lookup l).getD {}).registration = some g)) ∧
      ∀ l, called.countP (fun x => fileOf? Sample.packageTree x = some l) ≤ 2 ∧
        (1 < called.countP (fun x => fileOf? Sample.packageTree x = some l) ↔
          ∃ dir, (∀ part ∈ dir, IsEntry part) ∧ l = dir ++ [Library.indexFile] ∧
            (ofLocation dir).toText ∈ called ∧ (ofLocation l).toText ∈ called) := by
  intro references paths called
  have h : correctedAll (Path.ofText "/p.side") references = .ok paths := by rfl
  have hcalled : called = ["/q.py".toList, "/pkg".toList] := by decide +kernel
  exact ⟨h, hcalled, called_twice_iff h Sample.packageLibrary Sample.packageTree .empty⟩

/-- A project that refers to a directory and to the file that stands for it: the registration
function of this file is called twice, and its translator is there twice. -/
theorem index_file_called_twice :
    let paths := correctedAll (Path.ofText "/p.side") [.text "./pkg", .text "pkg/__init__.py"]
    paths.toOption.any (fun paths =>
      let loaded := load Sample.packageLibrary Sample.packageTree paths .empty
      (calls Sample.packageLibrary Sample.packageTree paths .empty).countP
          (fun x => fileOf? Sample.packageTree x = some ["pkg".toList, Library.indexFile]) == 2 &&
        loaded.2.isNone && (loaded.1.hooksOf "shout").length == 2) = true := by
  decide +kernel

end Plugins

end TestScribe
