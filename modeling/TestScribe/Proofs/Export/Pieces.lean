import Mathlib.Data.List.Basic
import TestScribe.Output
import TestScribe.Proofs.Export.Ownership
import TestScribe.Proofs.Files.Resolving

/-!
Output paths go by the pieces of filenames, which are what stands between slashes. A filename that
starts with a slash or has a piece of two dots is refused; of any other the pieces that are neither
empty nor a single dot come after the components of the directory (`outputPath_eq`). So in a run a
unit comes too late for its path exactly if the filename of one before it has the same such pieces
(`paths_go_by_pieces`).
-/

namespace TestScribe

namespace Filename

/-- The pieces of a filename that count. -/
def pieces (t : Text) : List Text :=
  (Text.split '/' t).filter fun piece => decide (piece ≠ [] ∧ piece ≠ ".".toList)

/-- Whether a filename is refused: it starts with a slash, or one of its pieces is two dots. -/
def LeadsOut (t : Text) : Prop := t.head? = some '/' ∨ "..".toList ∈ Text.split '/' t

instance (t : Text) : Decidable (LeadsOut t) := inferInstanceAs (Decidable (_ ∨ _))

variable {directory filename f g : Text} {p : Path}

theorem partsOf_eq_pieces (t : Text) : Path.partsOf t = pieces t := by
  refine List.filter_congr fun piece _ => ?_
  cases piece <;> simp

theorem mem_pieces_iff : "..".toList ∈ pieces filename ↔ "..".toList ∈ Text.split '/' filename := by
  rw [pieces, List.mem_filter]
  exact and_iff_left (by decide)

theorem leadsOut_iff : LeadsOut filename ↔ ((Path.ofText filename).isAbsolute ||
    (Path.ofText filename).parts.contains "..".toList) = true := by
  rw [Bool.or_eq_true, Path.isAbsolute_ofText_iff, List.contains_iff_mem, Path.ofText,
    partsOf_eq_pieces, mem_pieces_iff]
  rfl

theorem outputPath_eq (directory filename : Text) : outputPath directory filename =
    if LeadsOut filename then .error (.outside filename)
    else .ok ⟨(Path.ofText directory).slashes,
      (Path.ofText directory).parts ++ pieces filename⟩ := by
  unfold outputPath
  by_cases hout : LeadsOut filename
  · rw [if_pos hout, if_pos (leadsOut_iff.1 hout)]
  · have hkept := mt leadsOut_iff.2 hout
    rw [if_neg hout, if_neg hkept]
    rw [Bool.or_eq_true, not_or] at hkept
    rw [Path.join, if_neg hkept.1, ← partsOf_eq_pieces]
    rfl

theorem outputPath_eq_error_iff :
    outputPath directory filename = .error (.outside filename) ↔ LeadsOut filename := by
  rw [outputPath_eq]
  split
  · simp_all
  · simp_all

theorem outputPath_of_not_leadsOut (h : ¬ LeadsOut filename) (directory : Text) :
    outputPath directory filename =
      .ok ⟨(Path.ofText directory).slashes, (Path.ofText directory).parts ++ pieces filename⟩ := by
  rw [outputPath_eq, if_neg h]

theorem outputPath_eq_ok_iff : outputPath directory filename = .ok p ↔ ¬ LeadsOut filename ∧
    p = ⟨(Path.ofText directory).slashes, (Path.ofText directory).parts ++ pieces filename⟩ := by
  rw [outputPath_eq]
  split
  · simp_all
  · simp_all [eq_comm]

theorem outputPath_eq_iff (h : outputPath directory f = .ok p) :
    outputPath directory g = .ok p ↔ ¬ LeadsOut g ∧ pieces g = pieces f := by
  obtain ⟨-, rfl⟩ := outputPath_eq_ok_iff.1 h
  rw [outputPath_eq_ok_iff, Path.mk.injEq, List.append_right_inj, eq_comm (a := pieces f)]
  exact and_congr_right fun _ => and_iff_right rfl

theorem rootOf_le_two (t : Text) : Path.rootOf t ≤ 2 := by
  unfold Path.rootOf
  split <;> decide

theorem ofText_toText (h : outputPath directory filename = .ok p) : Path.ofText p.toText = p := by
  obtain ⟨-, rfl⟩ := outputPath_eq_ok_iff.1 h
  refine Path.ofText_toText_of_isPart (rootOf_le_two directory) fun part hpart => ?_
  rcases List.mem_append.1 hpart with hpart | hpart
  · exact Path.isPart_of_mem_partsOf hpart
  · rw [← partsOf_eq_pieces] at hpart
    exact Path.isPart_of_mem_partsOf hpart

/-- Where the first of two filenames has been claimed, and the path of the second has not been
before, the second one is refused exactly if it has the same pieces. -/
theorem claim_refused_iff {q : Path} {claimed : List Path} (hf : outputPath directory f = .ok p)
    (hg : outputPath directory g = .ok q) (hfree : q ∉ claimed) :
    Run.claim (p :: claimed) q = .error (.emission (.claimed q)) ↔ pieces f = pieces g := by
  have hsame := outputPath_eq_iff (g := f) hg
  rw [hf, Except.ok.injEq, and_iff_right (outputPath_eq_ok_iff.1 hf).1] at hsame
  rw [← hsame, Run.claim]
  simp only [List.mem_cons, hfree, or_false, eq_comm (a := q)]
  split <;> simp_all

end Filename

/-- Whether the emission of a unit ends before that of another one. -/
def EndsBefore (h : List Mark) (i j : Nat) : Prop :=
  ∃ before after, h = before ++ .ended j :: after ∧ .ended i ∈ before

theorem Wish.owner_ne_iff {w : Wish} {h : List Mark} {path : Path} {j : Nat} (hn : h.Nodup)
    (hj : .ended j ∈ h) (hasks : w.asks path j = true) :
    w.owner h path ≠ some j ↔ ∃ i, EndsBefore h i j ∧ w.asks path i = true := by
  constructor
  · intro hother
    obtain ⟨before, after, rfl⟩ := List.append_of_mem hj
    by_contra hnone
    refine hother (Wish.owner_eq_some_iff.2 ⟨before, after, rfl, hasks, fun i hi => ?_⟩)
    by_contra hi'
    exact hnone ⟨i, ⟨before, after, rfl, hi⟩, by simpa using hi'⟩
  · rintro ⟨i, ⟨before, after, rfl, hi⟩, hi'⟩ ho
    obtain ⟨before', after', hsplit, -, hfront⟩ := Wish.owner_eq_some_iff.1 ho
    -- a mark that is there once stands in one place
    rw [List.nodup_append_comm, List.cons_append, List.nodup_cons, List.mem_append, not_or] at hn
    obtain ⟨rfl, -⟩ := (List.append_cons_inj_of_notMem hn.1.2 hn.1.1).1 hsplit
    rw [hfront i hi] at hi'
    cases hi'

namespace Export

open Filename (pieces LeadsOut)

variable {w v : World} {c : Configuration} {l : Loaded} {units : List (Nat × Text)}
  {given : Option Format} {a : Conduct} {p : Project} {i : Nat} {path : Path} {f : UnitFile}

/-- A unit asks for the path of another one's file exactly if the filenames have the same pieces. -/
theorem asks_iff_pieces (hpath : outputPath c.directory f.filename = .ok path) :
    (wish a w c p).asks path i = true ↔ ∃ g, handed a w c p i = .ok g ∧
      ¬ LeadsOut g.filename ∧ pieces g.filename = pieces f.filename := by
  rw [Wish.asks_iff]
  constructor
  · rintro ⟨body, hwish⟩
    obtain ⟨g, hg, hgpath, -⟩ := wish_eq_ok.1 hwish
    exact ⟨g, hg, (Filename.outputPath_eq_iff hpath).1 hgpath⟩
  · rintro ⟨g, hg, hsame⟩
    exact ⟨g.body, wish_eq_ok.2 ⟨g, hg, (Filename.outputPath_eq_iff hpath).2 hsame, rfl⟩⟩

/-- Output paths go by the pieces of filenames. A filename is refused if it starts with a slash or a
piece of it is two dots, and otherwise its path has the root and the components of the directory and
then the pieces, and is told by its text. Of two filenames in one directory the one that comes
second is refused for the first if they have the same pieces; so in a run a unit is told that
another one writes to its path exactly if a unit has the same pieces whose emission ends before. -/
theorem paths_go_by_pieces (conduct : Format → Conduct) (schedule : List Nat → List Event)
    (h : Selects w c given v l units) :
    (∀ directory filename,
      (outputPath directory filename = .error (.outside filename) ↔ LeadsOut filename) ∧
      (¬ LeadsOut filename → ∃ path, outputPath directory filename = .ok path ∧
        path.slashes = (Path.ofText directory).slashes ∧
        path.parts = (Path.ofText directory).parts ++ pieces filename ∧
        Path.ofText path.toText = path)) ∧
    (∀ directory filename other path q claimed, outputPath directory filename = .ok path →
      outputPath directory other = .ok q → q ∉ claimed →
        (Run.claim (path :: claimed) q = .error (.emission (.claimed q)) ↔
          pieces filename = pieces other)) ∧
    ∃ s, (runBy conduct w c given schedule).result = .ok s ∧
      ∀ u o f path, (u, o) ∈ units.zip s.outcomes →
        handed (conduct l.format) v c l.project u.1 = .ok f →
        outputPath c.directory f.filename = .ok path →
          (o.result = .failed (.emission (.claimed path)) ↔
            ∃ i g, EndsBefore (chronicle (conduct l.format) v c l.project schedule units) i u.1 ∧
              handed (conduct l.format) v c l.project i = .ok g ∧ ¬ LeadsOut g.filename ∧
              pieces g.filename = pieces f.filename) := by
  refine ⟨fun directory filename => ⟨Filename.outputPath_eq_error_iff, fun hin => ?_⟩,
    fun _ _ _ _ _ _ => Filename.claim_refused_iff, ?_⟩
  · have hpath := Filename.outputPath_of_not_leadsOut hin directory
    exact ⟨_, hpath, rfl, rfl, Filename.ofText_toText hpath⟩
  · have hs := h.sublist
    rw [h.runBy, result_emitAll hs]
    refine ⟨_, rfl, fun u o f path huo hhanded hpath => ?_⟩
    obtain ⟨hu, rfl⟩ := of_mem_zip_map huo
    have hwish := wish_eq_ok.2 ⟨f, hhanded, hpath, rfl⟩
    have hended := (ended_iff (a := conduct l.format) (w := v) hs schedule u.1).2
      (List.mem_map_of_mem hu)
    have hother := Wish.owner_ne_iff (nodup_chronicle hs schedule) hended (Wish.asks_of_ok hwish)
    have hverdict : (plan c l.project).verdict (wish (conduct l.format) v c l.project) v.files
        (chronicle (conduct l.format) v c l.project schedule units) u.1 =
          .failed (.emission (.claimed path)) ↔
        (wish (conduct l.format) v c l.project).owner
          (chronicle (conduct l.format) v c l.project schedule units) path ≠ some u.1 := by
      refine ⟨fun hfailed howner => ?_, Plan.verdict_of_ne hwish⟩
      rw [Plan.verdict_of_owner hwish howner] at hfailed
      rcases Plan.save_result _ _ _ _ with hsaved | ⟨_, hsaved⟩ <;> rw [hfailed] at hsaved <;>
        cases hsaved
    rw [hverdict, hother]
    simp only [asks_iff_pieces hpath]
    constructor
    · rintro ⟨i, hbefore, g, hg⟩
      exact ⟨i, g, hbefore, hg⟩
    · rintro ⟨i, g, hbefore, hg⟩
      exact ⟨i, hbefore, g, hg⟩

/-- Two units whose filenames differ and have the same pieces. -/
theorem paths_go_by_pieces_of_two :
    let w := Sample.world ["a", "b"]
    let c := Sample.configuration "/out" Sample.everything
    let filename (name : Text) : Text := if name = "a".toList then "x//f" else "./x/f"
    let format := Sample.format fun name => Sample.file name (filename name)
    let path := Path.ofText "/out/x/f"
    (outputPath "/out" "x//f" = .ok path ∧ outputPath "/out" "./x/f" = .ok path) ∧
      ¬ LeadsOut "x//f" ∧ path ∉ ([] : List Path) ∧
      ∃ v l units, Selects w c (some format) v l units ∧
        (Run.claim [path] path = .error (.emission (.claimed path)) ↔
          pieces "x//f" = pieces "./x/f") ∧
        ∃ s, (runBy byName w c (some format) fun _ => []).result = .ok s ∧
          s.outcomes.map (fun o => o.result.path?) = [some path, none] ∧
          ∀ u o f path, (u, o) ∈ units.zip s.outcomes →
            handed (byName l.format) v c l.project u.1 = .ok f →
            outputPath c.directory f.filename = .ok path →
              (o.result = .failed (.emission (.claimed path)) ↔
                ∃ i g, EndsBefore (chronicle (byName l.format) v c l.project (fun _ => []) units)
                    i u.1 ∧
                  handed (byName l.format) v c l.project i = .ok g ∧ ¬ LeadsOut g.filename ∧
                  pieces g.filename = pieces f.filename) := by
  intro w c filename format path
  have hfirst : outputPath "/out" "x//f" = .ok path := by decide +kernel
  have hsecond : outputPath "/out" "./x/f" = .ok path := by decide +kernel
  have hsel : selectsAs w c (some format) (fun _ _ _ => true) = true := by decide +kernel
  have hpaths : ((runBy byName w c (some format) fun _ => []).result.toOption.map fun s =>
      s.outcomes.map fun o => o.result.path?) = some [some path, none] := by
    decide +kernel
  obtain ⟨v, l, units, h, -⟩ := exists_selects hsel
  obtain ⟨-, hclaim, s, hs, hrun⟩ := paths_go_by_pieces byName (fun _ => []) h
  rw [hs] at hpaths
  exact ⟨⟨hfirst, hsecond⟩, by decide, List.not_mem_nil, v, l, units, h,
    hclaim "/out" "x//f" "./x/f" path path [] hfirst hsecond List.not_mem_nil, s, hs,
    Option.some.inj hpaths, hrun⟩

end Export

end TestScribe
