import TestScribe.Proofs.Files.Locations
import TestScribe.Proofs.Phases

/-!
What references of a project come to. The name of a module stays as it is, and any other reference
becomes the path of the location that it means in the directory of the project. This path is in no
need of being corrected again, and there is one for each location. All of that is for paths that the
operating system can be asked for; where one of them is no name of any file, there is an error
(`references_have_normal_form`).
-/

namespace TestScribe

namespace RawText

variable {t u : RawText}

theorem shown_eq_iff {s : Text} (h : Char.ofNat 0xFFFD ∉ s) : t.shown = s ↔ t = ofText s := by
  refine ⟨fun ht => ?_, fun ht => by rw [ht, shown_ofText]⟩
  induction t generalizing s with
  | nil => rw [← ht]; rfl
  | cons a r ih =>
    rw [← ht] at h ⊢
    cases a with
    | surrogate n => exact absurd List.mem_cons_self h
    | char c =>
      have hr := ih (fun hmem => h (List.mem_cons_of_mem c hmem)) rfl
      exact congrArg (CodePoint.char c :: ·) hr

theorem mem_shown_iff {c : Char} (hc : c ≠ Char.ofNat 0xFFFD) : c ∈ t.shown ↔ .char c ∈ t := by
  rw [shown, List.mem_map]
  constructor
  · rintro ⟨a, ha, hac⟩
    cases a with
    | char d =>
      obtain rfl : d = c := hac
      exact ha
    | surrogate n => exact absurd hac.symm hc
  · intro h
    exact ⟨.char c, h, rfl⟩

theorem prefix_shown_iff {s : Text} (h : Char.ofNat 0xFFFD ∉ s) :
    s <+: t.shown ↔ ofText s <+: t := by
  rw [shown, List.prefix_map_iff]
  constructor
  · rintro ⟨u, hu, rfl⟩
    rwa [← (shown_eq_iff h).1 rfl]
  · intro hs
    exact ⟨ofText s, hs, (shown_ofText s).symm⟩

theorem suffix_shown_iff {s : Text} (h : Char.ofNat 0xFFFD ∉ s) :
    s <:+ t.shown ↔ ofText s <:+ t := by
  rw [shown, List.suffix_map_iff]
  constructor
  · rintro ⟨u, hu, rfl⟩
    rwa [← (shown_eq_iff h).1 rfl]
  · intro hs
    exact ⟨ofText s, hs, (shown_ofText s).symm⟩

end RawText

namespace Reference

open TestScribe.RawLocation (IsEntry IsAskable locationIn directoryOf)

variable {dir : RawLocation} {t x : RawText} {references entries : List RawText}

structure IsBare (reference : RawText) : Prop where
  no_slash : .char '/' ∉ reference
  no_dot : ¬ [.char '.'] <+: reference
  no_ending : ¬ [.char '.', .char 'p', .char 'y'] <:+ reference

/-- What a reference comes to in a directory: a name stays as it is, and anything else becomes the
absolute path of the location that it means there. -/
inductive IsCorrected (dir : RawLocation) (reference : RawText) : RawText → Prop
  | name (hbare : IsBare reference) : IsCorrected dir reference reference
  | path (hbare : ¬ IsBare reference) (hentries : ∀ part ∈ locationIn dir reference, IsEntry part) :
    IsCorrected dir reference (.char '/' :: Text.join [.char '/'] (locationIn dir reference))

theorem isPath_shown_iff : Plugins.isPath t.shown = true ↔ ¬ IsBare t := by
  have hwritten : Plugins.isPath t.shown = true ↔
      ([.char '.'] <+: t ∨ .char '/' ∈ t) ∨ [.char '.', .char 'p', .char 'y'] <:+ t := by
    rw [Plugins.isPath, Bool.or_eq_true, Bool.or_eq_true, List.isPrefixOf_iff_prefix,
      List.contains_iff_mem, List.isSuffixOf_iff_suffix, RawText.mem_shown_iff (by decide),
      RawText.prefix_shown_iff (by decide), RawText.suffix_shown_iff (by decide)]
    rfl
  rw [hwritten]
  constructor
  · rintro ((hdot | hslash) | hending) hbare
    · exact hbare.no_dot hdot
    · exact hbare.no_slash hslash
    · exact hbare.no_ending hending
  · intro h
    by_contra hno
    rw [not_or, not_or] at hno
    exact h ⟨hno.1.2, hno.1.1, hno.2⟩

instance (t : RawText) : Decidable (IsBare t) :=
  decidable_of_iff (¬ Plugins.isPath t.shown = true) (by rw [isPath_shown_iff, not_not])

theorem corrected_of_isBare (h : IsBare t) (dir : RawLocation) :
    corrected dir (.text t) = .ok t := by
  rw [corrected, if_neg fun hpath => isPath_shown_iff.1 hpath h]

theorem corrected_of_not_isBare (h : ¬ IsBare t) (dir : RawLocation) :
    corrected dir (.text t) = (dir.find t).map RawLocation.toText := by
  rw [corrected, if_pos (isPath_shown_iff.2 h)]

theorem exists_isCorrected (hdir : ∀ part ∈ dir, IsEntry part) (t : RawText) :
    ∃ x, IsCorrected dir t x := by
  by_cases hbare : IsBare t
  · exact ⟨t, .name hbare⟩
  · exact ⟨_, .path hbare fun part => RawLocation.isEntry_of_mem_locationIn hdir⟩

theorem corrected_eq_ok_iff (hdir : ∀ part ∈ dir, IsEntry part) (hnul : .char '\x00' ∉ t)
    (ht : ¬ IsBare t → t.IsNameable) :
    corrected dir (.text t) = .ok x ↔ IsCorrected dir t x := by
  by_cases hbare : IsBare t
  · rw [corrected_of_isBare hbare, Except.ok.injEq]
    constructor
    · rintro rfl
      exact .name hbare
    · rintro (_ | ⟨hno, -⟩)
      · rfl
      · exact absurd hbare hno
  · rw [corrected_of_not_isBare hbare, RawLocation.find_of_isNameable hnul (ht hbare), Except.map,
      Except.ok.injEq]
    constructor
    · rintro rfl
      exact .path hbare fun part => RawLocation.isEntry_of_mem_locationIn hdir
    · rintro (hyes | _)
      · exact absurd hyes hbare
      · rfl

/-- What a reference has come to comes to itself, in whatever directory. -/
theorem IsCorrected.again (h : IsCorrected dir t x) (hdir : ∀ part ∈ dir, IsAskable part)
    (hnul : .char '\x00' ∉ t) (ht : ¬ IsBare t → t.IsNameable) (other : RawLocation) :
    corrected other (.text x) = .ok x := by
  cases h with
  | name hbare => exact corrected_of_isBare hbare other
  | path hbare hentries =>
    have hno : ¬ IsBare (.char '/' :: Text.join [.char '/'] (locationIn dir t)) :=
      fun hname => hname.no_slash List.mem_cons_self
    have hread : other.find (locationIn dir t).toText = .ok (locationIn dir t) := by
      have hways : ∀ part ∈ Text.split (.char '/') (locationIn dir t).toText, IsAskable part := by
        rw [RawLocation.split_toText hentries]
        intro part hpart
        have hempty : IsAskable [] := ⟨by simp [RawText.IsNameable], by simp⟩
        rcases List.mem_cons.1 hpart with rfl | hpart
        · exact hempty
        · split at hpart
          · rw [List.mem_singleton.1 hpart]
            exact hempty
          · exact RawLocation.isAskable_of_mem_locationIn hdir hnul (ht hbare) hpart
      have hwalk := RawLocation.locationIn_toText hentries other
      rw [locationIn] at hwalk
      rw [RawLocation.find, RawLocation.follow_of_isAskable hways, hwalk]
    have hcorrected := corrected_of_not_isBare hno other
    rwa [← RawLocation.toText, hread] at hcorrected

theorem IsCorrected.eq_iff {s y : RawText} (hx : IsCorrected dir t x) (hy : IsCorrected dir s y)
    (ht : ¬ IsBare t) (hs : ¬ IsBare s) : x = y ↔ locationIn dir t = locationIn dir s := by
  rcases hx with hbare | ⟨-, hleft⟩
  · exact absurd hbare ht
  · rcases hy with hbare | ⟨-, hright⟩
    · exact absurd hbare hs
    · exact RawLocation.toText_inj hleft hright

theorem exists_forall₂_isCorrected (hdir : ∀ part ∈ dir, IsEntry part)
    (references : List RawText) : ∃ entries, List.Forall₂ (IsCorrected dir) references entries := by
  induction references with
  | nil => exact ⟨[], .nil⟩
  | cons t rest ih =>
    obtain ⟨x, hx⟩ := exists_isCorrected hdir t
    obtain ⟨entries, hentries⟩ := ih
    exact ⟨x :: entries, .cons hx hentries⟩

theorem correctedAll_of_isNameable {project : RawText} (hnul : .char '\x00' ∉ project)
    (hp : project.IsNameable) (references : List Reference) :
    correctedAll project references = references.mapM (corrected (directoryOf project)) := by
  rw [correctedAll, RawLocation.follow_split_of_isNameable hnul hp, directoryOf, locationIn,
    ite_self]
  rfl

theorem mapM_text {references entries : List RawText} :
    (references.map .text).mapM (corrected dir) = .ok entries ↔
      List.Forall₂ (fun t x => corrected dir (.text t) = .ok x) references entries := by
  rw [Except.mapM_eq_ok, List.forall₂_map_left_iff]

/-- Of references that are taken one after another, the first path that is no name of any file stops
the correction. -/
theorem exists_mapM_eq_error (hdir : ∀ part ∈ dir, IsEntry part)
    (hreferences : ∀ t ∈ references, .char '\x00' ∉ t)
    (h : ∃ t ∈ references, ¬ IsBare t ∧ ¬ t.IsNameable) :
    ∃ u, (references.map .text).mapM (corrected dir) = .error (.notEncodable .name u) := by
  induction references with
  | nil =>
    obtain ⟨t, ht, -⟩ := h
    cases ht
  | cons first rest ih =>
    obtain ⟨hfirst, hrest⟩ := List.forall_mem_cons.1 hreferences
    rw [List.map_cons, List.mapM_cons]
    by_cases hfit : IsBare first ∨ first.IsNameable
    · obtain ⟨x, hx⟩ := exists_isCorrected hdir first
      have hok := (corrected_eq_ok_iff hdir hfirst hfit.resolve_left).2 hx
      have hlater : ∃ t ∈ rest, ¬ IsBare t ∧ ¬ t.IsNameable := by
        obtain ⟨t, ht, hbad⟩ := h
        rcases List.mem_cons.1 ht with rfl | ht
        · exact absurd hfit (not_or.2 hbad)
        · exact ⟨t, ht, hbad⟩
      obtain ⟨u, hu⟩ := ih hrest hlater
      exact ⟨u, by rw [hok, hu]; rfl⟩
    · rw [not_or] at hfit
      obtain ⟨u, hu⟩ := RawLocation.find_of_not_isNameable hfirst hfit.2 dir
      exact ⟨u, by rw [corrected_of_not_isBare hfit.1, hu]; rfl⟩

theorem correctedAll_of_not_isNameable {project : RawText} (hproject : .char '\x00' ∉ project)
    (hreferences : ∀ t ∈ references, .char '\x00' ∉ t)
    (h : project.IsNameable → ∃ t ∈ references, ¬ IsBare t ∧ ¬ t.IsNameable) :
    ∃ u, correctedAll project (references.map .text) = .error (.notEncodable .name u) := by
  by_cases hp : project.IsNameable
  · rw [correctedAll_of_isNameable hproject hp]
    exact exists_mapM_eq_error (fun part => RawLocation.isEntry_of_mem_directoryOf) hreferences
      (h hp)
  · obtain ⟨u, hu⟩ := RawLocation.follow_split_of_not_isNameable hproject hp
      (Path.ofText project.shown) []
    exact ⟨u, by rw [correctedAll, hu]; rfl⟩

/-- References of a project come to a normal form. Let the path of the project be absolute, and let
there be no character in it or in a reference that no path can have. If the path of the project and
the references that are paths can be encoded, then each reference comes to something, in the order
in which they are written: a name to itself, and anything else to the absolute path of the location
that it means in the directory of the project. Whatever they come to stays as it is when it is
corrected again, for any project, and two of them that are no names come to one path exactly if they
mean one location. If one of these paths cannot be encoded, there is an error that says so. -/
theorem references_have_normal_form {project : RawText} (hproject : .char '\x00' ∉ project)
    (hreferences : ∀ t ∈ references, .char '\x00' ∉ t) :
    (RawText.IsNameable project ∧ (∀ t ∈ references, ¬ IsBare t → t.IsNameable) →
      ∃ entries,
        correctedAll (.char '/' :: project) (references.map .text) = .ok entries ∧
        List.Forall₂ (IsCorrected (directoryOf (.char '/' :: project))) references entries ∧
        (∀ other : RawText, .char '\x00' ∉ other → other.IsNameable →
          correctedAll other (entries.map .text) = .ok entries) ∧
        ∀ a x b y, (a, x) ∈ references.zip entries → (b, y) ∈ references.zip entries →
          ¬ IsBare a → ¬ IsBare b →
            (x = y ↔ locationIn (directoryOf (.char '/' :: project)) a =
              locationIn (directoryOf (.char '/' :: project)) b)) ∧
    (¬ (RawText.IsNameable project ∧ ∀ t ∈ references, ¬ IsBare t → t.IsNameable) →
      ∃ u, correctedAll (.char '/' :: project) (references.map .text) =
        .error (.notEncodable .name u)) := by
  have hrooted : RawText.IsNameable (.char '/' :: project) ↔ RawText.IsNameable project := by
    simp [RawText.IsNameable]
  have hnul : .char '\x00' ∉ CodePoint.char '/' :: project := by simpa using hproject
  constructor
  · rintro ⟨hp, hfit⟩
    have hp' := hrooted.2 hp
    obtain ⟨entries, hentries⟩ := exists_forall₂_isCorrected
      (fun part => RawLocation.isEntry_of_mem_directoryOf (t := .char '/' :: project)) references
    obtain ⟨hlength, hpairs⟩ := List.forall₂_iff_zip.1 hentries
    refine ⟨entries, ?_, hentries, fun other hother hname => ?_,
      fun a x b y ha hb => (hpairs ha).eq_iff (hpairs hb)⟩
    · rw [correctedAll_of_isNameable hnul hp', mapM_text, List.forall₂_iff_zip]
      refine ⟨hlength, fun {t x} hmem => ?_⟩
      have ht := (List.of_mem_zip hmem).1
      exact (corrected_eq_ok_iff (fun part => RawLocation.isEntry_of_mem_directoryOf)
        (hreferences t ht) (hfit t ht)).2 (hpairs hmem)
    · rw [correctedAll_of_isNameable hother hname, mapM_text, List.forall₂_same]
      intro x hx
      rw [← List.map_snd_zip hlength.ge] at hx
      obtain ⟨⟨t, x⟩, hmem, rfl⟩ := List.mem_map.1 hx
      have ht := (List.of_mem_zip hmem).1
      exact (hpairs hmem).again (fun part => RawLocation.isAskable_of_mem_directoryOf hnul hp')
        (hreferences t ht) (hfit t ht) _
  · intro hno
    refine correctedAll_of_not_isNameable hnul hreferences fun hp => ?_
    rw [hrooted] at hp
    rw [not_and] at hno
    have hbad := hno hp
    push Not at hbad
    exact hbad

/-- References that are written in several ways, up to the root and above it, one with a name that
is no text, and the name of a module that is none either. -/
theorem references_have_normal_form_of_spellings :
    let project : RawText := RawText.ofText "srv/x/../p.side"
    let references : List RawText := [RawText.ofText "./q.py", [.surrogate 0],
      RawText.ofText "x/../" ++ [.surrogate 0x480], RawText.ofText "../../..",
      RawText.ofText "//srv/q.py"]
    let entries : List RawText := [RawText.ofText "/srv/q.py", [.surrogate 0],
      RawText.ofText "/srv/" ++ [.surrogate 0x480], RawText.ofText "/", RawText.ofText "/srv/q.py"]
    .char '\x00' ∉ project ∧ (∀ t ∈ references, .char '\x00' ∉ t) ∧
      (project.IsNameable ∧ ∀ t ∈ references, ¬ IsBare t → t.IsNameable) ∧
      correctedAll (.char '/' :: project) (references.map .text) = .ok entries ∧
      List.Forall₂ (IsCorrected (directoryOf (.char '/' :: project))) references entries ∧
      (∀ other : RawText, .char '\x00' ∉ other → other.IsNameable →
        correctedAll other (entries.map .text) = .ok entries) ∧
      ∀ a x b y, (a, x) ∈ references.zip entries → (b, y) ∈ references.zip entries →
        ¬ IsBare a → ¬ IsBare b →
          (x = y ↔ locationIn (directoryOf (.char '/' :: project)) a =
            locationIn (directoryOf (.char '/' :: project)) b) := by
  intro project references entries
  have hproject : .char '\x00' ∉ project := by decide +kernel
  have hreferences : ∀ t ∈ references, .char '\x00' ∉ t := by decide +kernel
  have hfit : project.IsNameable ∧ ∀ t ∈ references, ¬ IsBare t → t.IsNameable := by
    decide +kernel
  obtain ⟨found, hfound, hrest⟩ := (references_have_normal_form hproject hreferences).1 hfit
  have hvalue : correctedAll (.char '/' :: project) (references.map .text) = .ok entries := by rfl
  rw [hvalue] at hfound
  cases hfound
  exact ⟨hproject, hreferences, hfit, hvalue, hrest⟩

/-- The path of a file with half a pair in its name: there is no list of what references come to. -/
theorem no_path_of_half_pair :
    let project : RawText := RawText.ofText "/srv/p.side"
    let reference : RawText := RawText.ofText "./" ++ [.surrogate 0]
    .char '\x00' ∉ reference ∧
      (∀ entries, correctedAll project [.text reference] ≠ .ok entries) ∧
      correctedAll project [.text reference] =
        .error (.notEncodable .name (RawText.ofText "/srv/" ++ [.surrogate 0])) := by
  intro project reference
  have hvalue : correctedAll project [.text reference] =
      .error (.notEncodable .name (RawText.ofText "/srv/" ++ [.surrogate 0])) := by rfl
  refine ⟨by decide +kernel, fun entries h => ?_, hvalue⟩
  rw [hvalue] at h
  cases h

end Reference

end TestScribe
