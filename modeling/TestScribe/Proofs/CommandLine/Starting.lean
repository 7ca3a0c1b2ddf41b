import TestScribe.CommandLine.Session
import TestScribe.Proofs.Export.Whole
import TestScribe.Proofs.Plugins.Escapes

/-!
What goes before an export on a command line. The mode on an accepted command line is one of the
two that there are (`mem_modes_of_read`), and a filter that is just malformed, a format that nothing
has and a missing argument end the program with the code 1. What escapes are defaults that cannot be
read, a level that the log does not know, a filter that is refused as more than malformed, and a
format that cannot be asked for (`start_escapes_iff`).
-/

namespace TestScribe

namespace CommandLine

/-! The arguments. -/

namespace Reading

variable {r s : Reading} {items rest : List Item} {o : Opt} {k : Cluster} {value : Text}

def HasMode (r : Reading) : Prop := ∀ m, r.arguments.mode = some m → m ∈ modes

theorem HasMode.place (h : r.HasMode) (items : List Item) : (r.place items).HasMode := by
  unfold Reading.place
  split
  · exact h
  · split
    · exact h
    · exact h

theorem HasMode.raise (h : r.HasMode) (hs : r.raise o = .ok s) : s.HasMode := by
  cases o <;> cases hs <;> exact h

theorem HasMode.assign (h : r.HasMode) (hs : r.assign o value = .ok s) : s.HasMode := by
  cases o with
  | mode =>
    simp only [Reading.assign] at hs
    split at hs
    · rename_i hvalue
      cases hs
      intro m hm
      cases hm
      exact hvalue
    · cases hs
  | _ =>
    cases hs
    exact h

theorem HasMode.takeOption (h : r.HasMode) (hs : r.takeOption k items = .ok (s, rest)) :
    s.HasMode := by
  have hflags : ∀ t, k.flags.foldlM Reading.raise r = .ok t → t.HasMode := fun t =>
    Except.foldlM_invariant h fun b o b' hb => hb.raise
  unfold Reading.takeOption at hs
  split at hs
  · obtain ⟨t, ht, hs⟩ := Except.bind_eq_ok.1 hs
    cases hs
    exact hflags t ht
  · obtain ⟨t, ht, hs⟩ := Except.bind_eq_ok.1 hs
    obtain ⟨u, hu, hs⟩ := Except.bind_eq_ok.1 hs
    cases hs
    exact (hflags t ht).assign hu
  · obtain ⟨⟨v, items'⟩, -, hs⟩ := Except.bind_eq_ok.1 hs
    obtain ⟨t, ht, hs⟩ := Except.bind_eq_ok.1 hs
    obtain ⟨u, hu, hs⟩ := Except.bind_eq_ok.1 hs
    cases hs
    exact (hflags t ht).assign hu

theorem HasMode.takeSegment (h : r.HasMode) {segment : Word × List Item}
    (hs : r.takeSegment segment = .ok s) : s.HasMode := by
  unfold Reading.takeSegment at hs
  split at hs
  · obtain ⟨k, -, hs⟩ := Except.bind_eq_ok.1 hs
    obtain ⟨⟨t, items⟩, ht, hs⟩ := Except.bind_eq_ok.1 hs
    cases hs
    exact (h.takeOption ht).place items
  · cases hs
    have hsurplus : ({ r with surplus := true } : Reading).HasMode := h
    exact hsurplus.place _

end Reading

theorem mem_modes_of_read {argv : List Text} {a : Arguments} {m : Text}
    (h : Arguments.read argv = .ok a) (hm : a.mode = some m) : m ∈ Reading.modes := by
  obtain ⟨words, -, h⟩ := Except.bind_eq_ok.1 h
  obtain ⟨r, hr, h⟩ := Except.bind_eq_ok.1 h
  have hstart : (({} : Reading).place (Reading.segments words).1).HasMode :=
    Reading.HasMode.place (fun m hm => by cases hm) _
  have hend : r.HasMode := Except.foldlM_invariant hstart (fun b x b' hb => hb.takeSegment) hr
  split at h
  · cases h
  · cases h
    exact hend m hm

end CommandLine

/-! The defaults. -/

theorem Mode.ofName?_eq_none {t : Text} :
    Mode.ofName? t = none ↔ t ∉ CommandLine.Reading.modes := by
  have hmodes : CommandLine.Reading.modes = [test, suite].map name := rfl
  rw [ofName?, List.find?_eq_none, hmodes, List.mem_map, not_exists]
  simp only [decide_eq_true_eq, not_and]

namespace Settings

variable {env : List (Text × Text)} {s : Settings}

theorem exists_setting_eq_error {α : Type} (env : List (Text × Text)) (name : Text) (default : α)
    (read : Text → Option α) : (∃ e, setting env name default read = .error e) ↔
      ∃ t, look env name = some t ∧ read t = none := by
  unfold setting
  cases look env name with
  | none => simp
  | some t => cases h : read t <;> simp [h]

theorem setting_some (env : List (Text × Text)) (name default : Text) :
    setting env name default some = .ok ((look env name).getD default) := by
  unfold setting
  cases look env name <;> rfl

/-- The defaults cannot be read: the variable for the form of the log holds no truth value, or the
one for the mode none of the two. -/
def IsUnreadable (env : List (Text × Text)) : Prop :=
  (∃ t, look env "SIDE_EXPORT_JSON_LOGS" = some t ∧
    t.map plainLower ∉ trueWords ∧ t.map plainLower ∉ falseWords) ∨
  ∃ t, look env "SIDE_EXPORT_DEFAULT_MODE" = some t ∧ t ∉ CommandLine.Reading.modes

theorem toBool?_eq_none {t : Text} : toBool? t = none ↔
    t.map plainLower ∉ trueWords ∧ t.map plainLower ∉ falseWords := by
  simp only [toBool?, List.contains_iff_mem]
  split
  · simp_all
  · split <;> simp_all

theorem exists_ofEnvironment_eq_error :
    (∃ e, ofEnvironment env = .error e) ↔ IsUnreadable env := by
  have hjson := exists_setting_eq_error env "SIDE_EXPORT_JSON_LOGS" false toBool?
  have hmode := exists_setting_eq_error env "SIDE_EXPORT_DEFAULT_MODE" Mode.suite Mode.ofName?
  simp only [toBool?_eq_none] at hjson
  simp only [Mode.ofName?_eq_none] at hmode
  rw [IsUnreadable, ← hjson, ← hmode]
  simp only [ofEnvironment, setting_some]
  cases setting env "SIDE_EXPORT_JSON_LOGS" false toBool? with
  | error e => simp [bind, Except.bind]
  | ok b =>
    cases setting env "SIDE_EXPORT_DEFAULT_MODE" Mode.suite Mode.ofName? with
    | error e => simp [bind, Except.bind]
    | ok m => simp [bind, Except.bind, pure, Except.pure]

theorem of_ofEnvironment (h : ofEnvironment env = .ok s) :
    s.logLevel = (look env "SIDE_EXPORT_LOG_LEVEL").getD "INFO" ∧
      s.defaultFilter = (look env "SIDE_EXPORT_DEFAULT_FILTER").getD Filter.matchAll := by
  simp only [ofEnvironment, setting_some] at h
  obtain ⟨level, hlevel, h⟩ := Except.bind_eq_ok.1 h
  obtain ⟨b, -, h⟩ := Except.bind_eq_ok.1 h
  obtain ⟨m, -, h⟩ := Except.bind_eq_ok.1 h
  obtain ⟨filter, hfilter, h⟩ := Except.bind_eq_ok.1 h
  cases hlevel
  cases hfilter
  cases h
  exact ⟨rfl, rfl⟩

end Settings

theorem LogLevel.exists_ofText_eq_error {t : Text} :
    (∃ f, ofText t = .error f) ↔ t.flatMap capitals ∉ names.map Prod.fst := by
  have hnone : names.lookup (t.flatMap capitals) = none ↔
      t.flatMap capitals ∉ names.map Prod.fst := by
    rw [List.lookup_eq_none_iff, List.mem_map, not_exists]
    simp only [not_and, bne_iff_ne, ne_eq, @eq_comm _ (t.flatMap capitals)]
  rw [← hnone, ofText]
  cases names.lookup (t.flatMap capitals) with
  | some l => simp
  | none =>
    simp only [iff_true]
    split
    · exact ⟨_, rfl⟩
    · split <;> exact ⟨_, rfl⟩

/-! The configuration. -/

theorem Pattern.PatternError.fault?_eq_none {e : PatternError} :
    e.fault? = none ↔ e = .malformed := by
  cases e <;> simp [fault?]

namespace Library

variable {lib : Library} {name : Text} {f : Fault}

/-- Of the packages that a name goes through, the first that is broken is broken by this fault. A
relative name goes through none. -/
def IsBarred (lib : Library) (name : Text) (f : Fault) : Prop :=
  name.head? ≠ some '.' ∧ ∃ before p after, packages name = before ++ p :: after ∧
    (lib.named.lookup p).bind Module.fault = some f ∧
    ∀ q ∈ before, (lib.named.lookup q).bind Module.fault = none

theorem find_eq_error : lib.find name = .error f ↔ lib.IsBarred name f := by
  rw [IsBarred, ← List.findSome?_eq_some_iff, find]
  split
  · rename_i hdot
    exact iff_of_false (by simp) fun h => h.1 hdot
  · rename_i hdot
    rw [and_iff_right hdot]
    cases (packages name).findSome? fun p => (lib.named.lookup p).bind Module.fault <;> simp

end Library

namespace Surroundings

variable {s : Surroundings} {p : Path} {identifier : Text}

theorem exists_holds_eq_error : (∃ f, s.holds p = .error f) ↔
    FileTree.hasNul p.parts = false ∧ s.files.find p.parts = .error .nameTooLong := by
  unfold holds
  cases FileTree.hasNul p.parts with
  | true => simp
  | false =>
    rcases s.files.find p.parts with d | e
    · cases d <;> simp
    · simp

theorem holds_eq_false : s.holds p = .ok false ↔
    FileTree.hasNul p.parts = true ∨ ∃ c, s.files.find p.parts = .error c ∧ c ≠ .nameTooLong := by
  unfold holds
  cases FileTree.hasNul p.parts with
  | true => simp
  | false =>
    rcases s.files.find p.parts with d | e
    · cases d <;> simp
    · simp

/-- It cannot be told whether there is such a format. It is no absolute path, and either its path
from the directory has a name in it that is too long for the place, or there is nothing at that
path, it is not the short name of a built-in format, and a package that its name goes through is
broken by something else than a wrong value. -/
def IsUntold (cwd : Text) (files : FileTree) (lib : Library) (identifier : Text) : Prop :=
  let p := (Path.ofText cwd).join (Path.ofText identifier)
  (Path.ofText identifier).isAbsolute = false ∧
    ((FileTree.hasNul p.parts = false ∧ files.find p.parts = .error .nameTooLong) ∨
      (FileTree.hasNul p.parts = true ∨ ∃ c, files.find p.parts = .error c ∧ c ≠ .nameTooLong) ∧
        Builtin.ofShortName? identifier = none ∧
        ∃ f, lib.IsBarred identifier f ∧ f.cls ≠ .value)

theorem exists_resolveFormat_eq_escaped (hne : identifier ≠ []) :
    (∃ f, s.resolveFormat identifier = .error (.escaped f)) ↔
      IsUntold s.cwd s.files s.library identifier := by
  have hempty : identifier.isEmpty = false := by simpa using hne
  simp only [IsUntold, resolveFormat, hempty, Bool.false_eq_true, if_false]
  cases (Path.ofText identifier).isAbsolute with
  | true => simp
  | false =>
    rw [← exists_holds_eq_error, ← holds_eq_false]
    simp only [Bool.false_eq_true, if_false, true_and, ← Library.find_eq_error]
    rcases s.holds ((Path.ofText s.cwd).join (Path.ofText identifier)) with f | _ | _
    · simp [Except.mapError, bind, Except.bind]
    · cases Builtin.ofShortName? identifier with
      | some b => simp [Except.mapError, bind, Except.bind]
      | none =>
        rcases s.library.find identifier with f | _ | _
        · by_cases hf : f.cls = .value <;> simp [hf, Except.mapError, bind, Except.bind]
        · simp [Except.mapError, bind, Except.bind]
        · simp [Except.mapError, bind, Except.bind]
    · simp [Except.mapError, bind, Except.bind]

end Surroundings

namespace Configuration

variable {s : Surroundings} {q : Request} {t : Text} {f : Fault}

theorem exists_compile_eq_escaped : (∃ f, compile t = .error (.escaped f)) ↔
    ∃ e, Filter.compile (some t) = .error e ∧ e ≠ .malformed := by
  unfold compile
  cases Filter.compile (some t) with
  | ok p => simp [Except.mapError]
  | error e =>
    simp only [Except.error.injEq, exists_eq_left', ne_eq, ← Pattern.PatternError.fault?_eq_none]
    cases hf : e.fault? <;> simp [Except.mapError, hf]

theorem exists_compile_eq_ok :
    (∃ p, compile t = .ok p) ↔ ∃ p, Filter.compile (some t) = .ok p := by
  simp only [compile, Except.mapError_eq_ok]

/-- With a mode that there is, what escapes from building a configuration is what escapes from its
filter, or else from its format. -/
theorem exists_build_eq_escaped
    (hmode : ∃ m, chooseMode s.settings.defaultMode (given q.mode) = .ok m) :
    (∃ f, build s q = .error (.escaped f)) ↔
      (∃ f, compile ((given q.filter).getD s.settings.defaultFilter) = .error (.escaped f)) ∨
      (∃ p, compile ((given q.filter).getD s.settings.defaultFilter) = .ok p) ∧
        ∃ f, s.resolveFormat q.format = .error (.escaped f) := by
  obtain ⟨m, hm⟩ := hmode
  cases hfilter : compile ((given q.filter).getD s.settings.defaultFilter) with
  | error e => simp [build, hfilter, bind, Except.bind]
  | ok p =>
    cases hformat : s.resolveFormat q.format with
    | error e => simp [build, hfilter, hm, hformat, bind, Except.bind]
    | ok t => simp [build, hfilter, hm, hformat, bind, Except.bind, pure, Except.pure]

end Configuration

namespace CommandLine

variable {w : World} {cwd : Text} {env : List (Text × Text)} {argv : List Text} {a : Arguments}
  {s : Settings} {format project directory : Text}

/-! The beginning of the program. -/

theorem needed_eq_some : a.needed = some (format, project, directory) ↔
    (a.format = some format ∧ format ≠ []) ∧ (a.project = some project ∧ project ≠ []) ∧
      a.directory = some directory ∧ directory ≠ [] := by
  simp [Arguments.needed, Configuration.given, Option.bind_eq_some_iff]

theorem needed_eq_none :
    a.needed = none ↔ ∃ t ∈ [a.format, a.project, a.directory], t = none ∨ t = some [] := by
  have hgiven : ∀ t, Configuration.given t = none ↔ t = none ∨ t = some [] := by
    intro t
    cases t <;> simp [Configuration.given]
  have key : a.needed = none ↔ Configuration.given a.format = none ∨
      Configuration.given a.project = none ∨ Configuration.given a.directory = none := by
    unfold Arguments.needed
    cases Configuration.given a.format with
    | none => simp
    | some format =>
      cases Configuration.given a.project with
      | none => simp
      | some project => cases Configuration.given a.directory <;> simp
  simp only [key, hgiven, List.mem_cons, List.not_mem_nil, or_false, exists_eq_or_imp,
    exists_eq_left]

/-- The program gets as far as its configuration, and building that comes to this. -/
def Builds (w : World) (cwd : Text) (env : List (Text × Text)) (a : Arguments)
    (r : Except (Failure ConfigurationError) Configuration) : Prop :=
  ∃ needed s, a.needed = some needed ∧ Settings.ofEnvironment env = .ok s ∧
    (∃ l, level a s = .ok l) ∧
    Configuration.build ⟨cwd, w.files, w.library, s⟩ (a.request needed) = r

/-- How the program begins: it ends for want of an argument, with an exception before it gets to its
configuration, or as building the configuration has it. -/
theorem start_cases (w : World) (cwd : Text) (env : List (Text × Text))
    (h : Arguments.read argv = .ok a) :
    (a.needed = none ∧ start w cwd env argv = .ok (.inl ⟨.returned 1, .help⟩)) ∨
    (∃ needed crash, a.needed = some needed ∧ start w cwd env argv = .error crash ∧
      ((∃ e, Settings.ofEnvironment env = .error e) ∨
        ∃ s f, Settings.ofEnvironment env = .ok s ∧ level a s = .error f)) ∨
    ∃ r, Builds w cwd env a r ∧ start w cwd env argv =
      match r with
      | .ok c => .ok (.inr c)
      | .error (.reported _) => .ok (.inl fatal)
      | .error (.escaped f) => .error (.fault f) := by
  cases hn : a.needed with
  | none => exact .inl ⟨rfl, by simp only [start, h, hn]⟩
  | some needed =>
    cases hs : Settings.ofEnvironment env with
    | error e =>
      refine .inr (.inl ⟨needed, .settings e, rfl, ?_, .inl ⟨e, rfl⟩⟩)
      simp only [start, h, hn, hs, Except.mapError, bind, Except.bind]
    | ok s =>
      cases hl : level a s with
      | error f =>
        refine .inr (.inl ⟨needed, .fault f, rfl, ?_, .inr ⟨s, f, rfl, hl⟩⟩)
        simp only [start, h, hn, hs, hl, Except.mapError, bind, Except.bind]
      | ok l =>
        refine .inr (.inr ⟨_, ⟨needed, s, hn, hs, ⟨l, hl⟩, rfl⟩, ?_⟩)
        simp only [start, h, hn, hs, hl, Except.mapError, bind, Except.bind]
        rfl

def IsUnknownLevel (env : List (Text × Text)) (a : Arguments) : Prop :=
  a.debug = false ∧ ((Settings.look env "SIDE_EXPORT_LOG_LEVEL").getD "INFO").flatMap
    LogLevel.capitals ∉ LogLevel.names.map Prod.fst

theorem exists_level_eq_error (hs : Settings.ofEnvironment env = .ok s) :
    (∃ f, level a s = .error f) ↔ IsUnknownLevel env a := by
  unfold level IsUnknownLevel
  cases a.debug with
  | false => simp [LogLevel.exists_ofText_eq_error, (Settings.of_ofEnvironment hs).1]
  | true =>
    have hdebug : LogLevel.ofText "DEBUG" = .ok .debug := rfl
    rw [if_pos rfl, hdebug]
    simp

/-- The text of the filter: that of the command line, or else the default. -/
def filterText (env : List (Text × Text)) (a : Arguments) : Text :=
  (Configuration.given a.filter).getD
    ((Settings.look env "SIDE_EXPORT_DEFAULT_FILTER").getD Filter.matchAll)

theorem exists_chooseMode (h : Arguments.read argv = .ok a) (default : Mode) :
    ∃ m, Configuration.chooseMode default (Configuration.given a.mode) = .ok m := by
  cases hm : Configuration.given a.mode with
  | none => exact ⟨default, rfl⟩
  | some t =>
    have ht : t ∈ Reading.modes := mem_modes_of_read h (Option.filter_eq_some_iff.1 hm).1
    cases hname : Mode.ofName? t with
    | none => exact absurd ht (Mode.ofName?_eq_none.1 hname)
    | some m => exact ⟨m, by simp only [Configuration.chooseMode, hname]⟩

/-- What goes wrong at the beginning of the program with an exception: the defaults cannot be read,
the level of the log is not known, the filter is refused for something else than its form, or the
filter will do and it cannot be told whether there is such a format. -/
inductive StartsBadly (w : World) (cwd : Text) (env : List (Text × Text)) (a : Arguments)
    (format : Text) : Prop where
  | defaults (h : Settings.IsUnreadable env)
  | level (h : IsUnknownLevel env a)
  | filter (e : Pattern.PatternError) (h : Filter.compile (some (filterText env a)) = .error e)
      (hform : e ≠ .malformed)
  | format (p : Filter) (h : Filter.compile (some (filterText env a)) = .ok p)
      (hformat : Surroundings.IsUntold cwd w.files w.library format)

theorem exists_build_eq_escaped (hread : Arguments.read argv = .ok a)
    (hneeded : a.needed = some (format, project, directory))
    (hs : Settings.ofEnvironment env = .ok s) :
    (∃ f, Configuration.build ⟨cwd, w.files, w.library, s⟩
      (a.request (format, project, directory)) = .error (.escaped f)) ↔
    (∃ e, Filter.compile (some (filterText env a)) = .error e ∧ e ≠ .malformed) ∨
      (∃ p, Filter.compile (some (filterText env a)) = .ok p) ∧
        Surroundings.IsUntold cwd w.files w.library format := by
  have hformat : format ≠ [] := (needed_eq_some.1 hneeded).1.2
  have htext : (Configuration.given a.filter).getD s.defaultFilter = filterText env a := by
    rw [(Settings.of_ofEnvironment hs).2, filterText]
  rw [Configuration.exists_build_eq_escaped (exists_chooseMode hread _)]
  show (∃ f, Configuration.compile ((Configuration.given a.filter).getD s.defaultFilter) =
      .error (.escaped f)) ∨
    (∃ p, Configuration.compile ((Configuration.given a.filter).getD s.defaultFilter) = .ok p) ∧
      (∃ f, Surroundings.resolveFormat ⟨cwd, w.files, w.library, s⟩ format =
        .error (.escaped f)) ↔ _
  rw [htext, Configuration.exists_compile_eq_escaped, Configuration.exists_compile_eq_ok,
    Surroundings.exists_resolveFormat_eq_escaped hformat]

theorem startsBadly_iff (hread : Arguments.read argv = .ok a)
    (hneeded : a.needed = some (format, project, directory))
    (hs : Settings.ofEnvironment env = .ok s) (hl : ∃ l, level a s = .ok l) :
    StartsBadly w cwd env a format ↔
      ∃ f, Configuration.build ⟨cwd, w.files, w.library, s⟩
        (a.request (format, project, directory)) = .error (.escaped f) := by
  rw [exists_build_eq_escaped hread hneeded hs]
  constructor
  · rintro (h | h | ⟨e, he, hform⟩ | ⟨p, hp, hformat⟩)
    · obtain ⟨e, he⟩ := Settings.exists_ofEnvironment_eq_error.2 h
      rw [hs] at he
      cases he
    · obtain ⟨f, hf⟩ := (exists_level_eq_error hs).2 h
      obtain ⟨l, hl⟩ := hl
      rw [hl] at hf
      cases hf
    · exact .inl ⟨e, he, hform⟩
    · exact .inr ⟨⟨p, hp⟩, hformat⟩
  · rintro (⟨e, he, hform⟩ | ⟨⟨p, hp⟩, hformat⟩)
    · exact .filter e he hform
    · exact .format p hp hformat

/-- With all the arguments that it needs, the program starts badly with an exception, and otherwise
it gets to its configuration or gives up. -/
theorem start_outcomes (w : World) (cwd : Text) (env : List (Text × Text))
    (hread : Arguments.read argv = .ok a)
    (hneeded : a.needed = some (format, project, directory)) :
    (StartsBadly w cwd env a format ∧ ∃ crash, start w cwd env argv = .error crash) ∨
    (¬ StartsBadly w cwd env a format ∧ ((∃ c, start w cwd env argv = .ok (.inr c)) ∨
      start w cwd env argv = .ok (.inl fatal))) := by
  rcases start_cases w cwd env hread with
    ⟨hnone, -⟩ | ⟨needed, crash, -, hstart, hwhy⟩ | ⟨r, ⟨needed, s, hn, hs, hl, hbuild⟩, hstart⟩
  · rw [hneeded] at hnone
    cases hnone
  · refine .inl ⟨?_, crash, hstart⟩
    rcases hwhy with he | ⟨s, f, hs, hf⟩
    · exact .defaults (Settings.exists_ofEnvironment_eq_error.1 he)
    · exact .level ((exists_level_eq_error hs).1 ⟨f, hf⟩)
  · rw [hneeded] at hn
    cases hn
    rw [startsBadly_iff hread hneeded hs hl, hbuild, hstart]
    rcases r with (e | f) | c
    · exact .inr ⟨by simp, .inr rfl⟩
    · exact .inl ⟨⟨f, rfl⟩, .fault f, rfl⟩
    · exact .inr ⟨by simp, .inl ⟨c, rfl⟩⟩

end CommandLine

end TestScribe
