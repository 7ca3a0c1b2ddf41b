import TestScribe.Proofs.Export.Whole
import TestScribe.Proofs.Files.Growth

/-!
Paths belong to units. Among the units that ask for a path, the one whose emission ends first writes
to it and every other one fails; so no two units are written to one path, and what a unit has
written stays what it is until the run ends, whatever other units write later
(`read_replay_of_written`).
-/

namespace TestScribe

def Result.path? : Result → Option Path
  | written path => some path
  | failed _ => none

namespace Wish

/-- Whether everything that is asked for lies below a directory. -/
def Below (w : Wish) (base : Path) : Prop :=
  ∀ i path body, w i = .ok (path, body) →
    ∃ rest, "..".toList ∉ rest ∧ path = ⟨base.slashes, base.parts ++ rest⟩

/-- Whether a unit is the first whose emission ends among those that ask for a path. -/
def First (w : Wish) (h : List Mark) (path : Path) (i : Nat) : Prop :=
  ∃ before after, h = before ++ .ended i :: after ∧ w.asks path i = true ∧
    ∀ j, .ended j ∈ before → w.asks path j = false

theorem first_iff {w : Wish} {h : List Mark} {path : Path} {i : Nat} :
    w.First h path i ↔ w.owner h path = some i := owner_eq_some_iff.symm

end Wish

namespace Plan

variable {p : Plan} {w : Wish} {t : FileTree} {h : List Mark} {path q base : Path} {body : RawText}
  {c : FileContent} {i : Nat}

theorem read_save_of_ne {rest rest' : List Text}
    (hread : t.read ⟨base.slashes, base.parts ++ rest⟩ = .ok c)
    (hrest : "..".toList ∉ rest) (hrest' : "..".toList ∉ rest') (hne : rest' ≠ rest) :
    (p.save t ⟨base.slashes, base.parts ++ rest'⟩ body).1.read ⟨base.slashes, base.parts ++ rest⟩
      = .ok c := by
  rw [fst_save]
  split
  · exact hread
  · exact FileTree.read_write_of_ne hread fun l hl hl' =>
      hne (FileTree.locate_append_inj hrest' hrest hl hl')

theorem read_replay_of_ne (hb : w.Below base) {rest : List Text} (hrest : "..".toList ∉ rest)
    (hread : t.read ⟨base.slashes, base.parts ++ rest⟩ = .ok c)
    (hne : ∀ j, .wrote j ∈ h → w.asks ⟨base.slashes, base.parts ++ rest⟩ j = false) :
    (p.replay w t h).read ⟨base.slashes, base.parts ++ rest⟩ = .ok c := by
  induction h generalizing t with
  | nil => exact hread
  | cons m h ih =>
    refine ih ?_ fun j hj => hne j (List.mem_cons_of_mem _ hj)
    cases m with
    | ended j => exact hread
    | wrote j =>
      cases hw : w j with
      | error e =>
        simp only [record, hw]
        exact hread
      | ok f =>
        obtain ⟨path, body⟩ := f
        obtain ⟨rest', hrest', rfl⟩ := hb j path body hw
        rw [record_wrote hw]
        refine read_save_of_ne hread hrest hrest' ?_
        rintro rfl
        have hasks := Wish.asks_of_ok hw
        rw [hne j List.mem_cons_self] at hasks
        cases hasks

theorem found_of_nodup {before after : List Mark} (hn : (before ++ .wrote i :: after).Nodup) :
    p.found w t (before ++ .wrote i :: after) i = p.replay w t before := by
  have hnot : .wrote i ∉ before := fun hm =>
    List.disjoint_of_nodup_append hn hm List.mem_cons_self
  rw [List.append_cons, found_append (by simp), found_of_not_mem hnot]

/-- The file that a unit has got to holds in the end what it has put there, if all that is written
besides goes to other paths. -/
theorem read_replay_of_inscribed (hb : w.Below base) (hnodup : h.Nodup) (hi : .wrote i ∈ h)
    (howner : ∀ j, .wrote j ∈ h → ∃ path body, w j = .ok (path, body) ∧ w.owner h path = some j)
    (hw : w i = .ok (path, body)) {text : Text} (htext : p.inscribed body = .ok text)
    (hnone : ((p.found w t h i).write path text).2 = none) :
    (p.replay w t h).read path = .ok (.text text) := by
  obtain ⟨rest, hrest, rfl⟩ := hb i path body hw
  obtain ⟨path', body', hw', ho⟩ := howner i hi
  obtain ⟨rfl, rfl⟩ : _ = path' ∧ body = body' := by simpa [hw] using hw'
  obtain ⟨before, after, rfl⟩ := List.append_of_mem hi
  rw [found_of_nodup hnodup] at hnone
  rw [replay_append]
  show (p.replay w (p.record w (p.replay w t before) (.wrote i)) after).read _ = _
  rw [record_wrote hw, fst_save, htext]
  refine read_replay_of_ne hb hrest (FileTree.read_write hnone) fun j hj => ?_
  -- whoever else asks for the path does not own it, and so does not write
  by_contra hasks
  rw [Bool.not_eq_false] at hasks
  obtain ⟨path', body', hw', ho'⟩ := howner j (by simp [hj])
  obtain ⟨body'', hw''⟩ := Wish.asks_iff.1 hasks
  obtain ⟨rfl, rfl⟩ : path' = _ ∧ body' = body'' := by simpa [hw'] using hw''
  obtain rfl : i = j := by simpa [ho] using ho'
  have hafter := (List.nodup_append.1 hnodup).2.1
  exact (List.nodup_cons.1 hafter).1 hj

theorem read_replay_of_written (hb : w.Below base) (hnodup : h.Nodup) (hi : .wrote i ∈ h)
    (howner : ∀ j, .wrote j ∈ h → ∃ path body, w j = .ok (path, body) ∧ w.owner h path = some j)
    (hv : p.verdict w t h i = .written q) :
    ∃ body, ∃ text : Text, w i = .ok (q, body) ∧
      Address.override p.recorded p.override body = .ok text ∧
      (p.replay w t h).read q = .ok (.text text) := by
  obtain ⟨path, body, hw, ho⟩ := howner i hi
  rw [verdict_of_owner hw ho] at hv
  obtain ⟨rfl, text, htext, hnone, -⟩ := save_eq_written hv
  have hput : p.inscribed body = .ok text := by
    rw [inscribed_of_ok htext, RawText.text?_ofText]
    rfl
  exact ⟨body, text, hw, htext, read_replay_of_inscribed hb hnodup hi howner hw hput hnone⟩

end Plan

namespace Export

variable {w v : World} {c : Configuration} {l : Loaded}
  {units : List (Nat × Text)} {given : Option Format}

theorem below_wish (a : Conduct) (w : World) (c : Configuration) (p : Project) :
    (wish a w c p).Below (Path.ofText c.directory) := by
  intro i path body hw
  obtain ⟨f, -, hpath, -⟩ := wish_eq_ok.1 hw
  exact ⟨_, of_outputPath hpath⟩

/-- Each path belongs to one unit, and holds what that unit has written to it. -/
structure Owned (p : Plan) (w : Wish) (h : List Mark) (units : List (Nat × Text)) (s : Summary)
    (files : FileTree) : Prop where
  /-- Outcomes are those of the units, in order. -/
  names : s.outcomes.map (·.name) = units.map Prod.snd
  /-- The unit whose emission ends first among those that ask for a path gets past the claim. -/
  first : ∀ u o path body, (u, o) ∈ units.zip s.outcomes → w u.1 = .ok (path, body) →
    w.First h path u.1 →
      .wrote u.1 ∈ h ∧ (o.result = .written path ∨ ∃ f, o.result = .failed (.fault f))
  /-- Every other one fails, and is told so. -/
  other : ∀ u o path body, (u, o) ∈ units.zip s.outcomes → w u.1 = .ok (path, body) →
    ¬ w.First h path u.1 →
      .wrote u.1 ∉ h ∧ ∃ e, o.result = .failed e ∧
        e.message = "Another unit already writes to ".toList ++ path.toText
  /-- There is a first one for each path that is asked for, and only one. -/
  one : ∀ u ∈ units, ∀ path, w.asks path u.1 = true →
    ∃ i ∈ units.map Prod.fst, w.First h path i ∧ ∀ j, w.First h path j → j = i
  /-- No path is written twice. -/
  apart : (s.outcomes.filterMap (·.result.path?)).Nodup
  /-- In the end a written file holds the body of its unit, with the override put in. -/
  contents : ∀ u o path, (u, o) ∈ units.zip s.outcomes → o.result = .written path →
    ∃ body, ∃ text : Text, w u.1 = .ok (path, body) ∧
      Address.override p.recorded p.override body = .ok text ∧ files.read path = .ok (.text text)

theorem owner_of_verdict {q : Plan} {wishes : Wish} {t : FileTree} {marks : List Mark} {path : Path}
    {i : Nat} (h : q.verdict wishes t marks i = .written path) :
    wishes.owner marks path = some i := by
  cases hw : wishes i with
  | error e =>
    rw [Plan.verdict_of_error hw] at h
    cases h
  | ok f =>
    obtain ⟨asked, body⟩ := f
    by_cases ho : wishes.owner marks asked = some i
    · rw [Plan.verdict_of_owner hw ho] at h
      rw [← (Plan.save_eq_written h).1]
      exact ho
    · rw [Plan.verdict_of_ne hw ho] at h
      cases h

theorem nodup_paths {q : Plan} {wishes : Wish} {t : FileTree} {marks : List Mark}
    (hn : (units.map Prod.fst).Nodup) :
    (units.filterMap fun u => (q.verdict wishes t marks u.1).path?).Nodup := by
  have hpath : ∀ i path, (q.verdict wishes t marks i).path? = some path →
      wishes.owner marks path = some i := by
    intro i path h
    cases hv : q.verdict wishes t marks i with
    | failed e => simp [hv, Result.path?] at h
    | written r =>
      obtain rfl : r = path := by simpa [hv, Result.path?] using h
      exact owner_of_verdict hv
  have hrw : (units.filterMap fun u => (q.verdict wishes t marks u.1).path?) =
      (units.map Prod.fst).filterMap fun i => (q.verdict wishes t marks i).path? := by
    rw [List.filterMap_map]
    rfl
  rw [hrw]
  refine hn.filterMap fun i j path hi hj => ?_
  have hij := (hpath i path hi).symm.trans (hpath j path hj)
  exact Option.some.inj hij

/-- Over every run, each path belongs to the unit whose emission ends first among those that ask for
it. -/
theorem paths_owned (conduct : Format → Conduct) (schedule : List Nat → List Event)
    (h : Selects w c given v l units) :
    ∃ s, (runBy conduct w c given schedule).result = .ok s ∧
      Owned (plan c l.project) (wish (conduct l.format) v c l.project)
        (chronicle (conduct l.format) v c l.project schedule units) units s
        (runBy conduct w c given schedule).world.files := by
  have hs := h.sublist
  rw [h.runBy, result_emitAll hs, files_emitAll hs]
  refine ⟨_, rfl, ?_⟩
  set wishes := wish (conduct l.format) v c l.project
  set marks := chronicle (conduct l.format) v c l.project schedule units
  have hwrote : ∀ i, .wrote i ∈ marks ↔ i ∈ units.map Prod.fst ∧
      ∃ path body, wishes i = .ok (path, body) ∧ wishes.owner marks path = some i :=
    wrote_iff hs schedule
  have hended : ∀ i, .ended i ∈ marks ↔ i ∈ units.map Prod.fst := ended_iff hs schedule
  constructor
  case names => simp
  case first =>
    intro u o path body huo hw hfirst
    obtain ⟨hu, rfl⟩ := of_mem_zip_map huo
    have ho := Wish.first_iff.1 hfirst
    refine ⟨(hwrote u.1).2 ⟨List.mem_map_of_mem hu, path, body, hw, ho⟩, ?_⟩
    rw [Plan.verdict_of_owner hw ho]
    exact Plan.save_result _ _ _ _
  case other =>
    intro u o path body huo hw hother
    obtain ⟨hu, rfl⟩ := of_mem_zip_map huo
    have ho := mt Wish.first_iff.2 hother
    refine ⟨fun hm => ?_, _, Plan.verdict_of_ne hw ho, rfl⟩
    obtain ⟨-, path', body', hw', ho'⟩ := (hwrote u.1).1 hm
    rw [hw] at hw'
    cases hw'
    exact ho ho'
  case one =>
    intro u hu path hasks
    have hu' : Mark.ended u.1 ∈ marks := (hended u.1).2 (List.mem_map_of_mem hu)
    obtain ⟨i, hi⟩ := Option.isSome_iff_exists.1 (Wish.isSome_owner hu' hasks)
    refine ⟨i, (hended i).1 (Wish.of_owner hi).1, Wish.first_iff.2 hi, fun j hj => ?_⟩
    have hji := (Wish.first_iff.1 hj).symm.trans hi
    exact Option.some.inj hji
  case apart =>
    simp only [List.filterMap_map]
    exact nodup_paths ((l.project.nodup_units c.mode).sublist (hs.map _))
  case contents =>
    intro u o path huo hres
    obtain ⟨hu, rfl⟩ := of_mem_zip_map huo
    have ho := owner_of_verdict hres
    obtain ⟨body, hw⟩ := Wish.asks_iff.1 (Wish.of_owner ho).2
    have hm := (hwrote u.1).2 ⟨List.mem_map_of_mem hu, path, body, hw, ho⟩
    exact Plan.read_replay_of_written (below_wish _ _ _ _) (nodup_chronicle hs schedule) hm
      (fun j hj => ((hwrote j).1 hj).2) hres

/-- Two units that ask for one path. -/
theorem paths_owned_of_two :
    let w := Sample.world ["a", "b"]
    let c := Sample.configuration "/out" Sample.everything
    let format := Sample.format fun name => Sample.file name "f"
    let path := Path.ofText "/out/f"
    ∃ v l units, Selects w c (some format) v l units ∧
      ((wish (byName l.format) v c l.project).asks path 0 = true ∧
        (wish (byName l.format) v c l.project).asks path 1 = true) ∧
      ∃ s, (runBy byName w c (some format) fun _ => []).result = .ok s ∧
        Owned (plan c l.project) (wish (byName l.format) v c l.project)
          (chronicle (byName l.format) v c l.project (fun _ => []) units) units s
          (runBy byName w c (some format) fun _ => []).world.files := by
  intro w c format path
  have hsel : selectsAs w c (some format) (fun v l _ =>
      decide ((wish (byName l.format) v c l.project).asks path 0 = true ∧
        (wish (byName l.format) v c l.project).asks path 1 = true)) = true := by
    decide +kernel
  obtain ⟨v, l, units, h, hasks⟩ := exists_selects hsel
  exact ⟨v, l, units, h, of_decide_eq_true hasks, paths_owned byName (fun _ => []) h⟩

end Export

end TestScribe
