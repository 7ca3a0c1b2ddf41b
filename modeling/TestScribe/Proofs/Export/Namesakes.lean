import Mathlib.Data.List.Basic
import Mathlib.Data.Prod.Basic
import TestScribe.Proofs.Export.Translation
import TestScribe.Proofs.Export.Turns
import TestScribe.Proofs.Format.Filenames

/-!
Units of one name. A built-in format looks a unit up by its name and finds the first one, while
filters tell units apart by their positions. That does no harm: a later unit of a name wants the
file of the first, which is in front of it and has it already. So no file holds the code of another
unit than its own (`namesakes_kept_apart`).
-/

namespace TestScribe

namespace Project

variable {p : Project} {m : Mode} {i j : Nat} {name : Text}

theorem find?_named {α : Type} {f : α → Text} {xs : List α}
    (hi : (i, name) ∈ (xs.map f).zipIdx.map Prod.swap)
    (hfirst : ∀ j < i, (j, name) ∉ (xs.map f).zipIdx.map Prod.swap) :
    ∃ x, xs[i]? = some x ∧ xs.find? (fun x => f x = name) = some x := by
  have hmem : ∀ j, (j, name) ∈ (xs.map f).zipIdx.map Prod.swap ↔
      ∃ x, xs[j]? = some x ∧ f x = name := by
    intro j
    have hswap : (j, name) = Prod.swap (name, j) := rfl
    rw [hswap, List.mem_map_of_injective Prod.swap_injective, List.mem_zipIdx_iff_getElem?,
      List.getElem?_map, Option.map_eq_some_iff]
  obtain ⟨x, hx, hname⟩ := (hmem i).1 hi
  obtain ⟨hlt, hget⟩ := List.getElem?_eq_some_iff.1 hx
  refine ⟨x, hx, List.find?_eq_some_iff_getElem.2 ⟨by simpa using hname, i, hlt, hget, ?_⟩⟩
  intro j hj
  have hother : f xs[j] ≠ name := fun h =>
    hfirst j hj ((hmem j).2 ⟨xs[j], List.getElem?_eq_getElem _, h⟩)
  simpa using hother

end Project

namespace Dialect

variable {d : Dialect} {r : Registry} {p : Project} {m : Mode} {i : Nat} {name : Text}
  {e : EmittedFile}

/-- The code for the unit at a position itself, whatever else has its name. -/
def codeAt (d : Dialect) (r : Registry) (p : Project) : Mode → Nat → Option (Except Fault Text)
  | .test, i => p.tests[i]?.map fun t => d.generate r .null t.name [t] p false
  | .suite, i => p.suites[i]?.map fun s => do
    d.generate r .null s.name (← p.testsOf s) p s.parallel

theorem codeAt_of_emitUnit (h : d.emitUnit r m p name = .ok e) (hi : (i, name) ∈ p.units m)
    (hfirst : ∀ j < i, (j, name) ∉ p.units m) : d.codeAt r p m i = some (.ok e.body) := by
  cases m with
  | test =>
    obtain ⟨t, ht, hfind⟩ := Project.find?_named hi hfirst
    have htest : p.test name = .ok t := by rw [Project.test, Project.test?, hfind]
    simp only [emitUnit, emitTest, htest, Except.bind_eq_ok] at h
    obtain ⟨t', ht', body, hbody, he⟩ := h
    cases ht'
    cases he
    rw [codeAt, ht, Option.map_some, hbody]
  | suite =>
    obtain ⟨s, hs, hfind⟩ := Project.find?_named hi hfirst
    have hsuite : p.suite name = .ok s := by rw [Project.suite, Project.suite?, hfind]
    simp only [emitUnit, emitSuite, hsuite, Except.bind_eq_ok] at h
    obtain ⟨s', hs', tests, htests, body, hbody, he⟩ := h
    cases hs'
    cases he
    rw [codeAt, hs, Option.map_some]
    simp only [htests, bind, Except.bind, hbody]

theorem filename_of_emitUnit (h : d.emitUnit r m p name = .ok e) :
    e.filename = d.filename name := by
  have hnamed : d.emitNamed r .null m p name = .ok e := h
  obtain ⟨-, -, -, -, hfile⟩ := generate_of_emitNamed hnamed
  exact hfile

end Dialect

theorem Run.target_of_isName (p : Plan) (name body : Text) {filename : Text}
    (h : Path.IsName filename) : Run.target p name (.ok (.file (.text body) (.text filename))) =
      .ok (Path.inside p.directory filename, body) := by
  simp only [target, bind, Except.bind, Answer.accept, Answer.check_text, h.visible,
    Bool.false_eq_true, ↓reduceIte, Except.mapError, h.outputPath]
  rfl

namespace Export

variable {w v : World} {c : Configuration} {p : Project} {l : Loaded} {b : Builtin}
  {units : List (Nat × Text)} {given : Option Format} {i : Nat} {path : Path} {body : RawText}

/-- The registry that formats see while units are exported. -/
def seen (w : World) : Registry := (w.registries.update .freeze).shared

theorem wish_eq (hb : b ∈ Builtin.all) (w : World) (c : Configuration) (p : Project) (i : Nat) :
    wish (byName b.dialect.format) w c p i =
      ((b.dialect.emitUnit (seen w) c.mode p (p.unitName c.mode i)).mapError UnitError.fault).map
        fun e => (Path.inside c.directory (b.dialect.filename (p.unitName c.mode i)),
          (e.body : RawText)) := by
  have hdrive : wish (byName b.dialect.format) w c p i =
      Run.target (plan c p) (p.unitName c.mode i)
        (((b.dialect.emitUnit (seen w) c.mode p (p.unitName c.mode i)).map fun e =>
          .file (.text e.body) (.text e.filename)).mapError .fault) :=
    congrArg (Run.target _ _) (b.dialect.drive_format _ _ _ _)
  rw [hdrive]
  cases h : b.dialect.emitUnit (seen w) c.mode p (p.unitName c.mode i) with
  | error f => rfl
  | ok e =>
    have hfile := Dialect.filename_of_emitUnit h
    have hname := Builtin.isName_filename hb (p.unitName c.mode i)
    rw [← hfile] at hname ⊢
    exact Run.target_of_isName _ _ _ hname

theorem wish_eq_ok_iff (hb : b ∈ Builtin.all) :
    wish (byName b.dialect.format) w c p i = .ok (path, body) ↔
      ∃ e, b.dialect.emitUnit (seen w) c.mode p (p.unitName c.mode i) = .ok e ∧
        Path.inside c.directory (b.dialect.filename (p.unitName c.mode i)) = path ∧
        e.body = body := by
  rw [wish_eq hb]
  cases b.dialect.emitUnit (seen w) c.mode p (p.unitName c.mode i) with
  | error f =>
    constructor
    · rintro ⟨⟩
    · rintro ⟨_, ⟨⟩, _⟩
  | ok e =>
    constructor
    · rintro ⟨⟩
      exact ⟨e, rfl, rfl, rfl⟩
    · rintro ⟨_, ⟨⟩, rfl, rfl⟩
      rfl

def Makes (d : Dialect) (r : Registry) (m : Mode) (p : Project) (filename : Text)
    (u : Nat × Text) : Prop :=
  d.filename u.2 = filename ∧ ∃ e, d.emitUnit r m p u.2 = .ok e

theorem asks_iff_makes (hb : b ∈ Builtin.all) {u : Nat × Text} (hu : u ∈ p.units c.mode)
    {filename : Text} :
    (wish (byName b.dialect.format) w c p).asks (Path.inside c.directory filename) u.1 = true ↔
      Makes b.dialect (seen w) c.mode p filename u := by
  rw [Wish.asks_iff, Makes]
  simp only [wish_eq_ok_iff hb, Project.unitName_of_mem hu, Path.inside_inj]
  constructor
  · rintro ⟨body, e, he, hfile, -⟩
    exact ⟨hfile, e, he⟩
  · rintro ⟨hfile, e, he⟩
    exact ⟨e.body, e, he, hfile, rfl⟩

/-- Where emissions end in order, a path belongs to the first unit that asks for it. -/
theorem owner_iff_first {wishes : Wish} {marks : List Mark}
    (hends : endings marks = units.map Prod.fst) (hn : (units.map Prod.fst).Nodup)
    {before after : List (Nat × Text)} {u : Nat × Text} (hunits : units = before ++ u :: after) :
    wishes.owner marks path = some u.1 ↔
      wishes.asks path u.1 = true ∧ ∀ v ∈ before, wishes.asks path v.1 = false := by
  subst hunits
  rw [Wish.owner_eq_find?, hends, List.find?_eq_some_iff_append]
  rw [List.map_append, List.map_cons] at hn ⊢
  refine and_congr_right fun _ => ⟨?_, fun hbefore => ?_⟩
  · rintro ⟨front, back, hsplit, hfront⟩ v hv
    rw [List.nodup_middle, List.nodup_cons, List.mem_append, not_or] at hn
    obtain ⟨hbefore, -⟩ := (List.append_cons_inj_of_notMem hn.1.1 hn.1.2).1 hsplit
    have hfalse := hfront v.1 (hbefore ▸ List.mem_map_of_mem hv)
    simpa using hfalse
  · refine ⟨before.map Prod.fst, after.map Prod.fst, rfl, fun i hi => ?_⟩
    obtain ⟨v, hv, rfl⟩ := List.mem_map.1 hi
    simpa using hbefore v hv

theorem mem_of_lt (hp : (units.map Prod.fst).Pairwise (· < ·)) {before after : List (Nat × Text)}
    {u v : Nat × Text} (hunits : units = before ++ u :: after) (hv : v ∈ units)
    (hlt : v.1 < u.1) : v ∈ before := by
  subst hunits
  rcases List.mem_append.1 hv with hv | hv
  · exact hv
  · rw [List.map_append, List.map_cons, List.pairwise_append, List.pairwise_cons] at hp
    rcases List.mem_cons.1 hv with rfl | hv
    · omega
    · have := hp.2.1.1 v.1 (List.mem_map_of_mem hv)
      omega

theorem not_mem_of_owner (hb : b ∈ Builtin.all) (hsel : selected c p = .ok units)
    {marks : List Mark} (hends : endings marks = units.map Prod.fst) {u : Nat × Text}
    (hu : u ∈ units)
    (ho : (wish (byName b.dialect.format) w c p).owner marks path = some u.1) :
    ∀ j < u.1, (j, u.2) ∉ p.units c.mode := by
  intro j hj hmem
  obtain ⟨-, hfilter⟩ := selected_eq_ok.1 hsel
  have hs : units.Sublist (p.units c.mode) := hfilter ▸ List.filter_sublist
  have hpairwise : (units.map Prod.fst).Pairwise (· < ·) :=
    (p.pairwise_units c.mode).sublist (hs.map _)
  have hother : (j, u.2) ∈ units := by
    rw [hfilter, List.mem_filter] at hu ⊢
    exact ⟨hmem, hu.2⟩
  obtain ⟨before, after, hunits⟩ := List.append_of_mem hu
  have hfirst := (owner_iff_first hends (hpairwise.imp Nat.ne_of_lt) hunits).1 ho
  obtain ⟨body, hw⟩ := Wish.asks_iff.1 hfirst.1
  obtain ⟨e, -, rfl, -⟩ := (wish_eq_ok_iff hb).1 hw
  rw [Project.unitName_of_mem (hs.subset hu)] at hfirst
  -- the other unit makes what this one makes, and stands in front of it
  have hmakes := (asks_iff_makes hb (hs.subset hu)).1 hfirst.1
  have hasks := (asks_iff_makes (u := (j, u.2)) hb hmem).2 hmakes
  rw [hfirst.2 _ (mem_of_lt hpairwise hunits hother hj)] at hasks
  cases hasks

/-- What has become of the units of a built-in format. -/
structure KeptApart (d : Dialect) (r : Registry) (c : Configuration) (p : Project)
    (units : List (Nat × Text)) (s : Summary) (files : FileTree) : Prop where
  /-- A written file holds the code for its own unit, with the override put in. -/
  own : ∀ u o path, (u, o) ∈ units.zip s.outcomes → o.result = .written path →
    path = Path.inside c.directory (d.filename u.2) ∧
      ∃ body, ∃ text : Text, d.codeAt r p c.mode u.1 = some (.ok body) ∧
        Address.override p.url c.baseUrl body = .ok text ∧ files.read path = .ok (.text text)
  /-- The first unit in order that makes a file of a name has its path. -/
  first : ∀ filename before u after o, units = before ++ u :: after →
    (u, o) ∈ units.zip s.outcomes → Makes d r c.mode p filename u →
    (∀ v ∈ before, ¬ Makes d r c.mode p filename v) →
      o.result = .written (Path.inside c.directory filename) ∨ ∃ f, o.result = .failed (.fault f)
  /-- Those after it are told that another one has it. -/
  later : ∀ filename before u after o, units = before ++ u :: after →
    (u, o) ∈ units.zip s.outcomes → Makes d r c.mode p filename u →
    (∃ v ∈ before, Makes d r c.mode p filename v) →
      o.result = .failed (.emission (.claimed (Path.inside c.directory filename)))
  /-- A unit whose emission fails says why. -/
  failing : ∀ u o f, (u, o) ∈ units.zip s.outcomes → d.emitUnit r c.mode p u.2 = .error f →
    o.result = .failed (.fault f)

/-- In a run of a built-in format in which units are taken up in order, no file holds the code of
another unit than its own, even where units share a name; and a file belongs to the first selected
unit that makes it. -/
theorem namesakes_kept_apart (hb : b ∈ Builtin.all) (hformat : l.format = b.dialect.format)
    (h : Selects w c given v l units) (schedule : List Nat → List Event)
    (hturn : InTurn (units.map Prod.fst) (schedule (units.map Prod.fst))) :
    ∃ s, (run w c given schedule).result = .ok s ∧
      KeptApart b.dialect (seen v) c l.project units s (run w c given schedule).world.files := by
  have hs := h.sublist
  have hn : (units.map Prod.fst).Nodup := (l.project.nodup_units c.mode).sublist (hs.map _)
  have hends := endings_chronicle (w := v) hs b.dialect hturn
  have hmem : ∀ {before after : List (Nat × Text)} {u : Nat × Text},
      units = before ++ u :: after → ∀ v ∈ before, v ∈ l.project.units c.mode := by
    rintro before after u rfl v hv
    exact hs.subset (List.mem_append_left _ hv)
  rw [run, h.runBy, hformat, result_emitAll hs]
  refine ⟨_, rfl, ?_⟩
  constructor
  case own =>
    intro u o path huo hwritten
    obtain ⟨hu, rfl⟩ := of_mem_zip_map huo
    obtain ⟨body, text, hw, htext, hread⟩ := read_of_written hs hu hwritten
    obtain ⟨e, he, hpath, rfl⟩ := (wish_eq_ok_iff hb).1 hw
    rw [Project.unitName_of_mem (hs.subset hu)] at he hpath
    have hfirst := not_mem_of_owner hb h.selected hends hu (owner_of_verdict hwritten)
    exact ⟨hpath.symm, e.body, text, Dialect.codeAt_of_emitUnit he (hs.subset hu) hfirst, htext,
      hread⟩
  case first =>
    intro filename before u after o hunits huo hmakes hbefore
    obtain ⟨hu, rfl⟩ := of_mem_zip_map huo
    have hasks := (asks_iff_makes hb (hs.subset hu)).2 hmakes
    have ho := (owner_iff_first hends hn hunits).2 ⟨hasks, fun v hv => by
      rw [← Bool.not_eq_true, asks_iff_makes hb (hmem hunits v hv)]
      exact hbefore v hv⟩
    obtain ⟨body, hw⟩ := Wish.asks_iff.1 hasks
    rw [Plan.verdict_of_owner hw ho]
    exact Plan.save_result _ _ _ _
  case later =>
    rintro filename before u after o hunits huo hmakes ⟨v, hv, hother⟩
    obtain ⟨hu, rfl⟩ := of_mem_zip_map huo
    obtain ⟨body, hw⟩ := Wish.asks_iff.1 ((asks_iff_makes hb (hs.subset hu)).2 hmakes)
    refine Plan.verdict_of_ne hw fun ho => ?_
    have hfalse := ((owner_iff_first hends hn hunits).1 ho).2 v hv
    rw [(asks_iff_makes hb (hmem hunits v hv)).2 hother] at hfalse
    cases hfalse
  case failing =>
    intro u o f huo hfault
    obtain ⟨hu, rfl⟩ := of_mem_zip_map huo
    refine Plan.verdict_of_error ?_
    rw [wish_eq hb, Project.unitName_of_mem (hs.subset hu), hfault]
    rfl

/-- Three tests for one file: two of them have one name, and the third differs from it by a capital
only. -/
theorem namesakes_kept_apart_of_three :
    let b : Builtin := ⟨"typescript-playwright",
      "side_export.export.templates.typescript_playwright", Playwright.dialect⟩
    let test (name command : Text) : Text := "\x7b\x22name\x22:\x22".toList ++ name ++
      "\x22,\x22commands\x22:[\x7b\x22command\x22:\x22".toList ++ command ++
      "\x22\x7d]\x7d".toList
    let w := Sample.pluggedWorld ("\x7b\x22tests\x22:[".toList ++
      Text.join "," [test "a" "x", test "A" "y", test "a" "z"] ++ "]\x7d".toList) []
    let c := { Sample.configuration "/out" Sample.everything with format := b.moduleName }
    let schedule (ids : List Nat) : List Event := turns ids 2
    b ∈ Builtin.all ∧ ∃ v l units, l.format = b.dialect.format ∧ Selects w c none v l units ∧
      InTurn (units.map Prod.fst) (schedule (units.map Prod.fst)) ∧
      (units.map Prod.snd = ["a".toList, "A".toList, "a".toList] ∧
        "    // Unsupported command: x".toList ∈
          linesAt (run w c none schedule).world.files "/out/a.spec.ts") ∧
      ∃ s, (run w c none schedule).result = .ok s ∧
        KeptApart b.dialect (seen v) c l.project units s (run w c none schedule).world.files := by
  intro b test w c schedule
  have hb : b ∈ Builtin.all := by simp [b, Builtin.all]
  have hlibrary : w.library.named.lookup b.moduleName = some b.code := rfl
  have hline : "    // Unsupported command: x".toList ∈
      linesAt (run w c none schedule).world.files "/out/a.spec.ts" := by decide +kernel
  have hsel : selectsAs w c none (fun _ _ units =>
      decide (units.map Prod.snd = ["a".toList, "A".toList, "a".toList])) = true := by
    decide +kernel
  obtain ⟨v, l, units, h, hnames⟩ := exists_selects hsel
  have hformat : l.format = b.dialect.format := format_of_load hb rfl hlibrary h.load
  have hturn : InTurn (units.map Prod.fst) (schedule (units.map Prod.fst)) :=
    inTurn_turns ((l.project.nodup_units c.mode).sublist (h.sublist.map _)) 2
  exact ⟨hb, v, l, units, hformat, h, hturn, ⟨of_decide_eq_true hnames, hline⟩,
    namesakes_kept_apart hb hformat h schedule hturn⟩

end Export

end TestScribe
