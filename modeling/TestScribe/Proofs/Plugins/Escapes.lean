import TestScribe.Proofs.Export.Words
import TestScribe.Proofs.Files.Walk
import TestScribe.Proofs.Plugins.Correction
import TestScribe.Proofs.Plugins.Recorded

/-!
How loading the plugins of a project fails. Nearly everything that goes wrong is reported as an
error of a plugin. What escapes is what goes wrong with a reference itself, before it has come to a
plugin, what goes wrong in a module that is imported by its name, and a failure of a plugin that
cannot be put into words (`plugin_phase_escapes_iff`).
-/

namespace TestScribe

@[simp] theorem Failure.within_eq_escaped {ε δ : Type} {g : ε → δ} {x : Failure ε} {f : Fault} :
    within g x = .escaped f ↔ x = .escaped f := by
  cases x <;> simp [within]

theorem Failure.mapError_within {ε δ α : Type} {g : ε → δ} {x : Except (Failure ε) α} {f : Fault} :
    x.mapError (within g) = .error (.escaped f) ↔ x = .error (.escaped f) := by
  rw [Except.mapError_eq_error]
  simp

namespace FileTree

variable {t : FileTree} {parts : List Text} {c : FileCause}

theorem hasDirectory_eq_error : t.hasDirectory parts = .error c ↔
    hasNul parts = false ∧ t.find parts = .error .nameTooLong ∧ c = .nameTooLong := by
  unfold hasDirectory
  cases hasNul parts with
  | true => simp
  | false =>
    rcases t.find parts with d | ⟨l, _ | _⟩
    · cases d <;> simp [eq_comm]
    · simp
    · simp

theorem hasFile_eq_error : t.hasFile parts = .error c ↔
    hasNul parts = false ∧ t.find parts = .error .nameTooLong ∧ c = .nameTooLong := by
  unfold hasFile
  cases hasNul parts with
  | true => simp
  | false =>
    rcases t.find parts with d | ⟨l, _ | _⟩
    · cases d <;> simp [eq_comm]
    · simp
    · simp

/-- In a directory that is there, a name of a fit length can be asked for. -/
theorem find_append_singleton_ne {name : Text} {l : Location}
    (h : t.find parts = .ok (l, .directory))
    (hname : isTooLong name = false) : t.find (parts ++ [name]) ≠ .error .nameTooLong := by
  obtain ⟨hlocate, hentry⟩ := find_eq_ok.1 h
  have hplace : ∃ k, t.place l name = .ok k := by
    by_cases hdots : name = "..".toList
    · exact ⟨l.dropLast, by simp [place, isDirectory, hentry, hdots]⟩
    · refine ⟨l ++ [name], ?_⟩
      rw [place, if_neg (by simp [isDirectory, hentry]), if_neg hdots, if_neg (by simp [hname])]
  obtain ⟨k, hk⟩ := hplace
  rw [find, locate_append_singleton, hlocate]
  simp only [bind, Except.bind, enter, hk]
  cases hentry : t.at? k <;> simp [hentry]

theorem lack_ofText (t : FileTree) (dir : Location) (parts : List Text) :
    t.lack dir (parts.map RawText.ofText) =
      match parts.foldlM t.enter dir with
      | .ok _ => .notFound
      | .error c => c := by
  induction parts generalizing dir with
  | nil => rfl
  | cons first rest ih =>
    rw [List.map_cons, lack, RawText.text?_ofText, List.foldlM_cons]
    cases h : t.enter dir first with
    | error c => simp only [h, bind, Except.bind]
    | ok l =>
      simp only [h, bind, Except.bind]
      exact ih l

theorem lack_eq_nameTooLong : t.lack [] (parts.map RawText.ofText) = .nameTooLong ↔
    t.find parts = .error .nameTooLong := by
  rw [lack_ofText, find, locate]
  cases parts.foldlM t.enter [] with
  | error d => simp [bind, Except.bind]
  | ok l =>
    simp only [bind, Except.bind]
    cases t.at? l <;> simp

end FileTree

namespace Library

variable {lib : Library} {files : FileTree} {p : Path} {f : Fault} {name : Text}

/-- The module in the file with code to which a path leads. -/
def CodeAt (lib : Library) (files : FileTree) (p : Path) (m : Module) : Prop :=
  ∃ q l, codePath files p = .ok q ∧ files.hasFile q.parts = .ok true ∧ isCode q = true ∧
    files.locate q.parts = .ok l ∧ m = (lib.files.lookup l).getD {}

/-- If it can be told whether a path is a directory, it can be told whether its code is there. -/
theorem exists_codePath {b : Bool} (h : files.hasDirectory p.parts = .ok b) :
    ∃ q b', codePath files p = .ok q ∧ files.hasFile q.parts = .ok b' := by
  have hcode : codePath files p =
      if b then .ok ⟨p.slashes, p.parts ++ [indexFile]⟩ else .ok p := by
    simp only [codePath, asked, h, Except.mapError, bind, Except.bind]
    cases b <;> rfl
  cases b with
  | false =>
    cases hfile : files.hasFile p.parts with
    | ok b' => exact ⟨p, b', hcode, hfile⟩
    | error c =>
      rw [FileTree.hasDirectory_eq_error.2 (FileTree.hasFile_eq_error.1 hfile)] at h
      cases h
  | true =>
    obtain ⟨-, l, hl⟩ := FileTree.hasDirectory_iff.1 h
    cases hfile : files.hasFile (p.parts ++ [indexFile]) with
    | ok b' => exact ⟨_, b', hcode, hfile⟩
    | error c =>
      exact absurd (FileTree.hasFile_eq_error.1 hfile).2.1
        (FileTree.find_append_singleton_ne hl (by decide +kernel))

theorem run_eq_escaped {m : Module} : lib.run m = .error (.escaped f) ↔
    ∃ g, m.fault = some g ∧ g.mutedBy lib.mute = some f := by
  unfold run
  cases m.fault with
  | none => simp
  | some g => cases hg : g.mutedBy lib.mute <;> simp [hg]

theorem loadFile_eq_escaped_of_hasFile {q : Path} {b : Bool} (hq : codePath files p = .ok q)
    (hb : files.hasFile q.parts = .ok b) : lib.loadFile files p = .error (.escaped f) ↔
      ∃ m, lib.CodeAt files p m ∧ lib.run m = .error (.escaped f) := by
  have hload : lib.loadFile files p =
      if !b then .error (.reported .noFile)
      else if !isCode q then .error (.reported .notCode)
      else asked q (files.locate q.parts) >>= fun l => lib.run ((lib.files.lookup l).getD {}) := by
    simp only [loadFile, asked, hq, hb, Except.mapError, bind, Except.bind]
  rw [hload]
  constructor
  · intro h
    cases b with
    | false => cases h
    | true =>
      obtain ⟨-, l, c, hl⟩ := FileTree.hasFile_iff.1 hb
      have hlocate := (FileTree.find_eq_ok.1 hl).1
      cases hcode : isCode q with
      | false =>
        rw [hcode] at h
        cases h
      | true =>
        rw [hcode, hlocate] at h
        exact ⟨_, ⟨q, l, hq, hb, hcode, hlocate, rfl⟩, h⟩
  · rintro ⟨m, ⟨q', l, hq', hb', hcode, hlocate, rfl⟩, h⟩
    obtain rfl : q' = q := Except.ok.inj (hq'.symm.trans hq)
    obtain rfl : true = b := Except.ok.inj (hb'.symm.trans hb)
    rw [hcode, hlocate]
    exact h

/-- What escapes from loading a file with code is a name that is too long, or a fault of the code
that cannot be put into words. -/
theorem loadFile_eq_escaped : lib.loadFile files p = .error (.escaped f) ↔
    (FileTree.hasNul p.parts = false ∧ files.find p.parts = .error .nameTooLong ∧
      f = .file ⟨.nameTooLong, p⟩) ∨
    ∃ m g, lib.CodeAt files p m ∧ m.fault = some g ∧ g.mutedBy lib.mute = some f := by
  have hmuted : (∃ m g, lib.CodeAt files p m ∧ m.fault = some g ∧ g.mutedBy lib.mute = some f) ↔
      ∃ m, lib.CodeAt files p m ∧ lib.run m = .error (.escaped f) := by
    simp only [run_eq_escaped, exists_and_left]
  rw [hmuted]
  cases hd : files.hasDirectory p.parts with
  | error c =>
    obtain ⟨hnul, hfind, rfl⟩ := FileTree.hasDirectory_eq_error.1 hd
    have hload : lib.loadFile files p = .error (.escaped (.file ⟨.nameTooLong, p⟩)) := by
      simp only [loadFile, codePath, asked, hd, Except.mapError, bind, Except.bind]
    have hcode : ∀ m, ¬ lib.CodeAt files p m := by
      rintro m ⟨q, l, hq, -⟩
      simp only [codePath, asked, hd, Except.mapError, bind, Except.bind, reduceCtorEq] at hq
    simp [hload, hnul, hfind, hcode, eq_comm]
  | ok b =>
    obtain ⟨q, b', hq, hb⟩ := exists_codePath hd
    rw [loadFile_eq_escaped_of_hasFile hq hb, or_iff_right]
    rintro ⟨hnul, hfind, -⟩
    rw [FileTree.hasDirectory_eq_error.2 ⟨hnul, hfind, rfl⟩] at hd
    cases hd

theorem loadNamed_eq_escaped (hdot : name.head? ≠ some '.') :
    lib.loadNamed name = .error (.escaped f) ↔
      if name = [] then f = .raised .value "Empty module name"
      else ∃ m, lib.named.lookup name = some m ∧ m.fault = some f := by
  unfold loadNamed
  split
  · simp [eq_comm]
  · exact absurd rfl hdot
  · rename_i hne _
    rw [if_neg hne]
    cases lib.named.lookup name with
    | none => simp
    | some m => cases hm : m.fault <;> simp [hm, eq_comm]

end Library

theorem Path.hasNul_ofText (t : Text) :
    FileTree.hasNul (Path.ofText t).parts = true ↔ '\x00' ∈ t := by
  rw [FileTree.hasNul, List.any_eq_true]
  constructor
  · rintro ⟨part, hpart, hnul⟩
    exact Text.mem_of_mem_split (List.mem_filter.1 hpart).1 (List.contains_iff_mem.1 hnul)
  · intro h
    rw [← Text.join_split '/' t] at h
    rcases Text.mem_of_mem_join h with hslash | ⟨part, hpart, hnul⟩
    · cases List.mem_singleton.1 hslash
    · refine ⟨part, List.mem_filter.2 ⟨hpart, ?_⟩, List.contains_iff_mem.2 hnul⟩
      have hempty : part ≠ [] := List.ne_nil_of_mem hnul
      have hdot : part ≠ ['.'] := by
        rintro rfl
        simp at hnul
      simp [hempty, hdot]

namespace Plugins

open RawText (ofText)

variable {lib : Library} {files : FileTree} {reference : Text} {t : RawText} {r s : Registry}
  {f : Fault}

/-- Whether a reference does not lead to a plugin, or to one that fails without words, and with
which fault. -/
inductive IsStray (lib : Library) (files : FileTree) (r : Registry) : Fault → RawText → Prop
  /-- A path with a name in it that is too long for the directory where it would have to be. -/
  | tooLong {t : RawText} (hpath : isPath t.shown = true) (hname : t.IsNameable)
    (hnul : .char '\x00' ∉ t) (hlack : files.lack [] (names t) = .nameTooLong) :
    IsStray lib files r (.file ⟨.nameTooLong, Path.ofText t.shown⟩) t
  | empty : IsStray lib files r (.raised .value "Empty module name") []
  /-- Something goes wrong in the module of a name, or on the way to it. -/
  | module {name : Text} {m : Module} {f : Fault} (hname : isPath name = false) (hne : name ≠ [])
    (hm : lib.named.lookup name = some m) (hf : m.fault = some f) : IsStray lib files r f name
  | package {t : RawText} {f : Fault} (hraw : t.text? = none) (hname : isPath t.shown = false)
    (hf : lib.faultBefore? t = some f) : IsStray lib files r f t
  /-- The code of a file fails without words. -/
  | code {reference : Text} {m : Module} {g f : Fault} (hpath : isPath reference = true)
    (hm : lib.CodeAt files (Path.ofText reference) m) (hg : m.fault = some g)
    (hmute : g.mutedBy lib.mute = some f) : IsStray lib files r f reference
  /-- A registration function fails without words after all that it registers is accepted. -/
  | registration {reference : Text} {g : Registration} {e f : Fault}
    (hg : registrationOf lib files reference = .ok g) (hall : (registerAll r g.commands).2 = none)
    (he : g.ending = .fails e) (hmute : e.mutedBy lib.mute = some f) :
    IsStray lib files r f reference

theorem names_ofText (t : Text) : names (ofText t) = (Path.ofText t).parts.map ofText := by
  have hkeep : ((fun p : RawText => !p.isEmpty && decide (p ≠ [.char '.'])) ∘ ofText) =
      fun p : Text => !p.isEmpty && decide (p ≠ ['.']) := by
    funext p
    have hdot : ofText p = [.char '.'] ↔ p = ['.'] := RawText.ofText_inj (u := ['.'])
    have hempty : (ofText p).isEmpty = p.isEmpty := List.isEmpty_map
    simp only [Function.comp_apply, hempty, ne_eq, hdot]
  rw [names, RawText.split_ofText, List.filter_map, hkeep]
  rfl

theorem registrationOf_eq_escaped :
    registrationOf lib files reference = .error (.escaped f) ↔
      if isPath reference then
        (FileTree.hasNul (Path.ofText reference).parts = false ∧
          files.find (Path.ofText reference).parts = .error .nameTooLong ∧
          f = .file ⟨.nameTooLong, Path.ofText reference⟩) ∨
        ∃ m g, lib.CodeAt files (Path.ofText reference) m ∧ m.fault = some g ∧
          g.mutedBy lib.mute = some f
      else if reference = [] then f = .raised .value "Empty module name"
      else ∃ m, lib.named.lookup reference = some m ∧ m.fault = some f := by
  have hload : registrationOf lib files reference = .error (.escaped f) ↔
      (if isPath reference then lib.loadFile files (Path.ofText reference)
        else lib.loadNamed reference) = .error (.escaped f) := by
    rw [registrationOf, Except.bind_eq_error, Failure.mapError_within, Library.load, Library.about,
      Failure.mapError_within]
    refine or_iff_left ?_
    rintro ⟨m, -, hm⟩
    split at hm <;> cases hm
  rw [hload]
  cases hpath : isPath reference with
  | true => exact Library.loadFile_eq_escaped
  | false =>
    refine Library.loadNamed_eq_escaped fun hdot => ?_
    cases reference with
    | nil => cases hdot
    | cons c rest =>
      cases hdot
      simp [isPath] at hpath

theorem perform_eq_escaped {g : Registration} :
    (perform lib reference g r).2 = some (.escaped f) ↔
      (registerAll r g.commands).2 = none ∧
        ∃ e, g.ending = .fails e ∧ e.mutedBy lib.mute = some f := by
  unfold perform
  rcases registerAll r g.commands with ⟨s, _ | err⟩
  · cases g.ending with
    | done => simp [report]
    | refuses t => simp [report]
    | fails e => cases he : e.mutedBy lib.mute <;> simp [report, he]
  · simp

theorem isStray_of_registrationOf (h : registrationOf lib files reference = .error (.escaped f)) :
    IsStray lib files r f reference := by
  rw [registrationOf_eq_escaped] at h
  split at h
  · rename_i hpath
    rcases h with ⟨hnul, hfind, rfl⟩ | ⟨m, g, hm, hg, hmute⟩
    · have hno : .char '\x00' ∉ ofText reference := by
        simpa [ofText, hnul] using mt (Path.hasNul_ofText reference).2
      have hlack : files.lack [] (names (ofText reference)) = .nameTooLong := by
        rw [names_ofText, FileTree.lack_eq_nameTooLong]
        exact hfind
      have hstray : IsStray lib files r
          (.file ⟨.nameTooLong, Path.ofText (ofText reference).shown⟩) (ofText reference) :=
        .tooLong (by rwa [RawText.shown_ofText]) (by simp [RawText.IsNameable, ofText]) hno hlack
      rwa [RawText.shown_ofText] at hstray
    · exact .code hpath hm hg hmute
  · rename_i hpath
    rw [Bool.not_eq_true] at hpath
    split at h
    · rename_i hempty
      rw [h, hempty]
      exact .empty
    · rename_i hne
      obtain ⟨m, hm, hf⟩ := h
      exact .module hpath hne hm hf

/-- A stray reference is given up before its registration function is called, or by it. -/
theorem escapes_of_isStray (h : IsStray lib files r f (ofText reference)) :
    registrationOf lib files reference = .error (.escaped f) ∨
      ∃ g, registrationOf lib files reference = .ok g ∧
        (perform lib reference g r).2 = some (.escaped f) := by
  generalize ht : ofText reference = t at h
  cases h with
  | tooLong hpath hname hnul hlack =>
    subst ht
    rw [RawText.shown_ofText] at hpath ⊢
    rw [names_ofText, FileTree.lack_eq_nameTooLong] at hlack
    have hno : FileTree.hasNul (Path.ofText reference).parts = false := by
      rw [← Bool.not_eq_true, Path.hasNul_ofText]
      simpa [ofText] using hnul
    left
    rw [registrationOf_eq_escaped, if_pos hpath]
    exact .inl ⟨hno, hlack, rfl⟩
  | empty =>
    obtain rfl : reference = [] := RawText.ofText_inj.1 ht
    left
    rw [registrationOf_eq_escaped]
    rfl
  | module hname hne hm hf =>
    obtain rfl := RawText.ofText_inj.1 ht
    left
    rw [registrationOf_eq_escaped, if_neg (by simp [hname]), if_neg hne]
    exact ⟨_, hm, hf⟩
  | package hraw =>
    rw [← ht, RawText.text?_ofText] at hraw
    cases hraw
  | code hpath hm hg hmute =>
    obtain rfl := RawText.ofText_inj.1 ht
    left
    rw [registrationOf_eq_escaped, if_pos hpath]
    exact .inr ⟨_, _, hm, hg, hmute⟩
  | registration hg hall he hmute =>
    obtain rfl := RawText.ofText_inj.1 ht
    exact .inr ⟨_, hg, perform_eq_escaped.2 ⟨hall, _, he, hmute⟩⟩

theorem loadNew_snd_eq_some {e : Failure PluginError} :
    (loadNew lib files reference r).2 = some e ↔
      registrationOf lib files reference = .error e ∨
        ∃ g, registrationOf lib files reference = .ok g ∧ (perform lib reference g r).2 = some e := by
  rw [loadNew]
  cases registrationOf lib files reference with
  | error e' => simp
  | ok g =>
    rcases hp : perform lib reference g r with ⟨s, _ | e'⟩ <;> simp [hp]

theorem loadNew_eq_escaped : (loadNew lib files reference r).2 = some (.escaped f) ↔
    IsStray lib files r f reference := by
  rw [loadNew_snd_eq_some]
  constructor
  · rintro (hg | ⟨g, hg, hperform⟩)
    · exact isStray_of_registrationOf hg
    · obtain ⟨hall, e, he, hmute⟩ := perform_eq_escaped.1 hperform
      exact .registration hg hall he hmute
  · exact escapes_of_isStray

theorem lost_eq_escaped (ht : t.text? = none) :
    lost lib files t = .escaped f ↔ IsStray lib files r f t := by
  constructor
  · intro h
    unfold lost at h
    split at h
    · rename_i hpath
      split at h
      · rename_i hlong
        rw [Bool.and_eq_true, Bool.and_eq_true, decide_eq_true_eq] at hlong
        obtain ⟨⟨hname, hnul⟩, hlack⟩ := hlong
        cases h
        refine .tooLong hpath (RawText.misfit?_name_eq_none_iff.1 (by simpa using hname)) ?_ hlack
        simpa using hnul
      · cases h
    · rename_i hpath
      split at h
      · rename_i g hg
        cases h
        exact .package ht (by simpa using hpath) hg
      · cases h
  · intro h
    cases h with
    | tooLong hpath hname hnul hlack =>
      have hlong : ((t.misfit? .name).isNone && !t.contains (.char '\x00') &&
          decide (files.lack [] (names t) = .nameTooLong)) = true := by
        rw [RawText.misfit?_name_eq_none_iff.2 hname]
        simp [hnul, hlack]
      rw [lost, if_pos hpath, if_pos hlong]
    | package hraw hname hf => simp [lost, hname, hf]
    | empty => cases ht
    | module | code | registration =>
      rw [RawText.text?_ofText] at ht
      cases ht

theorem loadRawOne_eq_escaped : (loadRawOne lib files t r).2 = some (.escaped f) ↔
    (∀ reference : Text, t = reference → r.isLoaded reference = false) ∧
      IsStray lib files r f t := by
  rw [loadRawOne]
  cases ht : t.text? with
  | some reference =>
    obtain rfl := RawText.text?_eq_some.1 ht
    simp only [RawText.ofText_inj, forall_eq', ← loadNew_eq_escaped]
    cases hl : r.isLoaded reference with
    | true => simp [loadOne_of_loaded hl]
    | false => simp [loadOne_of_not_loaded hl]
  | none =>
    have hno : ∀ reference : Text, t = reference → r.isLoaded reference = false := by
      rintro reference rfl
      rw [RawText.text?_ofText] at ht
      cases ht
    rw [and_iff_right hno, ← lost_eq_escaped ht]
    exact Option.some_inj

end Plugins

namespace Reference

open TestScribe.RawLocation (IsAskable directoryOf refusal? walk)

variable {dir : RawLocation} {v : Reference} {references : List Reference} {f : Fault}

/-- Whether a recorded reference cannot be used, and for which fault: it is no text, or a path with
a name in it that the operating system cannot be asked for. -/
inductive IsUnusable (dir : RawLocation) : Fault → Reference → Prop
  | other {v : Value} : IsUnusable dir (.lacks v.kind "startswith") (.other v)
  | path {t part : RawText} {before after : List RawText} {f : Fault} (hbare : ¬ IsBare t)
    (hsplit : Text.split (.char '/') t = before ++ part :: after)
    (hbefore : ∀ p ∈ before, IsAskable p)
    (hpart : refusal? ((⟨1, dir.map RawText.shown⟩ : Path).join (Path.ofText t.shown))
      (walk (if t.head? = some (.char '/') then [] else dir) before) part = some f) :
    IsUnusable dir f (.text t)

theorem corrected_eq_error_iff : corrected dir v = .error f ↔ IsUnusable dir f v := by
  cases v with
  | other v =>
    rw [corrected, Except.error.injEq]
    constructor
    · rintro rfl
      exact .other
    · rintro ⟨⟩
      rfl
  | text t =>
    by_cases hbare : IsBare t
    · rw [corrected_of_isBare hbare]
      constructor
      · intro h
        cases h
      · rintro ⟨⟩
        contradiction
    · have hfind : (dir.find t).map RawLocation.toText = .error f ↔ dir.find t = .error f := by
        cases dir.find t <;> simp [Except.map]
      rw [corrected_of_not_isBare hbare, hfind, RawLocation.find, RawLocation.follow_eq_error_iff]
      constructor
      · rintro ⟨before, part, after, hsplit, hbefore, hpart⟩
        exact .path hbare hsplit hbefore hpart
      · rintro (_ | ⟨-, hsplit, hbefore, hpart⟩)
        exact ⟨_, _, _, hsplit, hbefore, hpart⟩

theorem exists_corrected : (∃ x, corrected dir v = .ok x) ↔ ∀ g, ¬ IsUnusable dir g v := by
  simp only [← corrected_eq_error_iff]
  cases corrected dir v <;> simp

theorem correctedAll_eq_error_iff {project : Text} :
    correctedAll project references = .error f ↔
      ('\x00' ∈ project ∧ f = .file ⟨.embeddedNul, Path.ofText project⟩) ∨
      '\x00' ∉ project ∧ ∃ before v after, references = before ++ v :: after ∧
        (∀ u ∈ before, ∀ g, ¬ IsUnusable (directoryOf project) g u) ∧
        IsUnusable (directoryOf project) f v := by
  by_cases hnul : '\x00' ∈ project
  · have hparts : FileTree.hasNul (Path.partsOf project) = true :=
      (Path.hasNul_ofText project).2 hnul
    have hfollowed := RawLocation.follow_split (Path.ofText project) [] project
    rw [List.reverse_nil, List.map_nil, if_pos hparts] at hfollowed
    have hall : correctedAll project references =
        .error (.file ⟨.embeddedNul, Path.ofText project⟩) := by
      rw [correctedAll, RawText.shown_ofText, hfollowed]
      rfl
    simp [hall, hnul, eq_comm]
  · have hraw : .char '\x00' ∉ RawText.ofText project := by simpa [RawText.ofText] using hnul
    have hname : RawText.IsNameable project := by simp [RawText.IsNameable, RawText.ofText]
    rw [correctedAll_of_isNameable hraw hname, Except.mapM_eq_error]
    simp only [exists_corrected, corrected_eq_error_iff, hnul, false_and, not_false_eq_true,
      true_and, false_or]

end Reference

namespace Export

variable {w : World} {c : Configuration} {references : List Reference} {f : Fault}

theorem loadReferences_eq_escaped : (loadReferences w c references).2 = some (.escaped f) ↔
    Reference.correctedAll c.project references = .error f ∨
      ∃ corrected, Reference.correctedAll c.project references = .ok corrected ∧
        (Plugins.loadRaw w.library w.files corrected w.registries.current).2 =
          some (.escaped f) := by
  unfold loadReferences
  cases Reference.correctedAll c.project references with
  | error g => simp
  | ok corrected => simp

theorem loadReferences_eq_reported {e : ExportError}
    (h : (loadReferences w c references).2 = some (.reported e)) : ∃ d, e = .plugin d := by
  unfold loadReferences at h
  split at h
  · cases h
  · obtain ⟨d | d, -, hd⟩ := Option.map_eq_some_iff.1 h
    · cases hd
      exact ⟨d, rfl⟩
    · cases hd

/-- What escapes from loading plugins is that a reference which is not loaded yet, and before which
all could be loaded, does not lead to a plugin or to one that fails without words. -/
theorem loadRaw_eq_escaped {lib : Library} {files : FileTree} {corrected : List RawText}
    {r : Registry} : (Plugins.loadRaw lib files corrected r).2 = some (.escaped f) ↔
      ∃ before, ∃ t : RawText, ∃ after u, corrected = before ++ t :: after ∧
        Plugins.loadRaw lib files before r = (u, none) ∧
        (∀ reference : Text, t = reference → u.isLoaded reference = false) ∧
        Plugins.IsStray lib files u f t := by
  constructor
  · intro h
    rcases hload : Plugins.loadRaw lib files corrected r with ⟨s, e⟩
    rw [hload] at h
    obtain rfl : e = some (.escaped f) := h
    obtain ⟨before, t, after, u, hsplit, hbefore, hone⟩ := Plugins.loadEach_eq_some.1 hload
    exact ⟨before, t, after, u, hsplit, hbefore,
      Plugins.loadRawOne_eq_escaped.1 (congrArg Prod.snd hone)⟩
  · rintro ⟨before, t, after, u, hsplit, hbefore, ht⟩
    have hone := Plugins.loadRawOne_eq_escaped.2 ht
    rw [Plugins.loadRaw, Plugins.loadEach_eq_some.2 ⟨before, t, after, u, hsplit, hbefore,
      Prod.ext rfl hone⟩]

end Export

end TestScribe
