import Mathlib.Data.List.Pairwise
import Mathlib.Data.List.TakeWhile
import TestScribe.Proofs.Export.Ownership
import TestScribe.Proofs.Export.Words
import TestScribe.Proofs.Files.Imprint

/-!
Schedules do not matter while no accepted path is another one or reaches into it: every order of the
events leaves the same entries (`replay_of_perm`), and each unit comes to the same, except that the
error of a unit whose directory cannot be made may name what bars the way or the whole directory
(`verdict_alike`).
-/

namespace TestScribe

namespace Path

def IsAbove (p q : Path) : Prop := p.slashes = q.slashes ∧ p.parts <+: q.parts ∧ p ≠ q

instance (p q : Path) : Decidable (p.IsAbove q) := inferInstanceAs (Decidable (_ ∧ _ ∧ _))

/-- Two paths that differ, neither of them above the other. -/
def Apart (p q : Path) : Prop := p ≠ q ∧ ¬ p.IsAbove q ∧ ¬ q.IsAbove p

instance (p q : Path) : Decidable (p.Apart q) := inferInstanceAs (Decidable (_ ∧ _ ∧ _))

theorem Apart.symm {p q : Path} (h : p.Apart q) : q.Apart p := ⟨h.1.symm, h.2.2, h.2.1⟩

theorem Apart.beside {slashes : Nat} {base a b : List Text} (ha : "..".toList ∉ a)
    (hb : "..".toList ∉ b)
    (h : Apart ⟨slashes, base ++ a⟩ ⟨slashes, base ++ b⟩) :
    Beside ⟨slashes, base ++ a⟩ ⟨slashes, base ++ b⟩ := by
  obtain ⟨hne, hab, hba⟩ := h
  exact ⟨slashes, base, a, b, rfl, rfl, ha, hb,
    fun hp => hab ⟨rfl, (List.prefix_append_right_inj base).2 hp, hne⟩,
    fun hp => hba ⟨rfl, (List.prefix_append_right_inj base).2 hp, hne.symm⟩⟩

end Path

namespace Wish

def path? (w : Wish) (i : Nat) : Option Path := (w i).toOption.map Prod.fst

def accepted (w : Wish) (units : List (Nat × Text)) : List Path :=
  units.filterMap fun u => w.path? u.1

/-- Units that ask for paths of which none is another one or reaches into it. -/
def Separate (w : Wish) (ids : List Nat) : Prop :=
  ∀ i ∈ ids, ∀ j ∈ ids, i ≠ j → ∀ path body path' body',
    w i = .ok (path, body) → w j = .ok (path', body') → path.Beside path'

variable {w : Wish} {h : List Mark} {path base : Path} {body : RawText} {i : Nat} {ids : List Nat}
  {units : List (Nat × Text)}

theorem path?_of_ok (hw : w i = .ok (path, body)) : w.path? i = some path := by
  rw [path?, hw]
  rfl

theorem separate (hb : w.Below base) (ha : (w.accepted units).Pairwise Path.Apart) :
    w.Separate (units.map Prod.fst) := by
  rw [accepted, List.pairwise_filterMap] at ha
  intro i hi j hj hij path body path' body' hw hw'
  obtain ⟨u, hu, rfl⟩ := List.mem_map.1 hi
  obtain ⟨u', hu', rfl⟩ := List.mem_map.1 hj
  have hsymm : Std.Symm fun u u' : Nat × Text =>
      ∀ p, w.path? u.1 = some p → ∀ q, w.path? u'.1 = some q → p.Apart q :=
    ⟨fun _ _ h p hp q hq => (h q hq p hp).symm⟩
  have hapart := ha.forall hu hu' (fun he => hij (congrArg Prod.fst he)) path (path?_of_ok hw) path'
    (path?_of_ok hw')
  obtain ⟨a, hna, rfl⟩ := hb _ _ _ hw
  obtain ⟨b, hnb, rfl⟩ := hb _ _ _ hw'
  exact Path.Apart.beside hna hnb hapart

theorem not_beside_self (path : Path) : ¬ path.Beside path := by
  rintro ⟨slashes, base, a, b, rfl, hq, -, -, hab, -⟩
  obtain ⟨-, he⟩ := Path.mk.inj hq
  obtain rfl : a = b := List.append_cancel_left he
  exact hab (List.prefix_refl _)

theorem owner_of_separate (hs : w.Separate ids) (hended : ∀ i, .ended i ∈ h ↔ i ∈ ids)
    (hi : i ∈ ids) (hw : w i = .ok (path, body)) : w.owner h path = some i := by
  obtain ⟨j, hj⟩ := Option.isSome_iff_exists.1 (isSome_owner ((hended i).2 hi) (asks_of_ok hw))
  obtain ⟨hmem, hasks⟩ := of_owner hj
  obtain ⟨body', hw'⟩ := asks_iff.1 hasks
  by_cases hij : i = j
  · rw [hij, hj]
  · exact absurd (hs i hi j ((hended j).1 hmem) hij _ _ _ _ hw hw') (not_beside_self path)

end Wish

namespace Plan

variable {p : Plan} {w : Wish} {t : FileTree} {h h' : List Mark} {path : Path} {body : RawText}
  {i : Nat} {ids : List Nat}

def file? (p : Plan) (w : Wish) : Mark → Option (Path × Text)
  | .ended _ => none
  | .wrote i =>
    match w i with
    | .error _ => none
    | .ok (path, body) => (p.inscribed body).toOption.map fun text => (path, text)

def trace (p : Plan) (w : Wish) (v : View) (m : Mark) : View :=
  match p.file? w m with
  | none => v
  | some (path, text) => v.stamp path text

theorem file?_wrote (hw : w i = .ok (path, body)) :
    p.file? w (.wrote i) = (p.inscribed body).toOption.map fun text => (path, text) := by
  simp only [file?, hw]

theorem file?_eq_some {m : Mark} {q : Path × Text} (h : p.file? w m = some q) :
    ∃ i body, m = .wrote i ∧ w i = .ok (q.1, body) := by
  cases m with
  | ended i => cases h
  | wrote i =>
    cases hw : w i with
    | error e =>
      simp only [file?, hw] at h
      cases h
    | ok f =>
      obtain ⟨path, body⟩ := f
      rw [file?_wrote hw, Option.map_eq_some_iff] at h
      obtain ⟨text, -, rfl⟩ := h
      exact ⟨i, body, rfl, hw⟩

theorem at?_save (p : Plan) (t : FileTree) (path : Path) (body : RawText) :
    (p.save t path body).1.at? =
      match p.inscribed body with
      | .error _ => t.at?
      | .ok text => View.stamp t.at? path text := by
  rw [fst_save]
  cases p.inscribed body with
  | error f => rfl
  | ok text => exact (t.write_eq path text).1

theorem at?_record (p : Plan) (w : Wish) (t : FileTree) (m : Mark) :
    (p.record w t m).at? = p.trace w t.at? m := by
  cases m with
  | ended i => rfl
  | wrote i =>
    cases hw : w i with
    | error e => simp only [record, trace, file?, hw]
    | ok f =>
      obtain ⟨path, body⟩ := f
      rw [record_wrote hw, at?_save, trace, file?_wrote hw]
      cases p.inscribed body <;> rfl

theorem at?_replay (p : Plan) (w : Wish) (t : FileTree) (h : List Mark) :
    (p.replay w t h).at? = h.foldl (p.trace w) t.at? := by
  induction h generalizing t with
  | nil => rfl
  | cons m h ih =>
    show (p.replay w (p.record w t m) h).at? = _
    rw [ih, at?_record, List.foldl_cons]

/-- Marks of units that ask for separate paths can be exchanged. -/
theorem trace_comm (hs : w.Separate ids) {m m' : Mark} (hm : m.unit ∈ ids) (hm' : m'.unit ∈ ids)
    (v : View) : p.trace w (p.trace w v m) m' = p.trace w (p.trace w v m') m := by
  unfold trace
  cases hf : p.file? w m with
  | none => rfl
  | some q =>
    cases hf' : p.file? w m' with
    | none => rfl
    | some q' =>
      obtain ⟨i, body, rfl, hi⟩ := file?_eq_some hf
      obtain ⟨j, body', rfl, hj⟩ := file?_eq_some hf'
      by_cases hij : i = j
      · subst hij
        rw [hf, Option.some.injEq] at hf'
        rw [hf']
      · exact View.stamp_comm (hs i hm j hm' hij _ _ _ _ hi hj) v q.2 q'.2

/-- In which order marks stand does not matter for the entries. -/
theorem replay_of_perm (hs : w.Separate ids) (hk : ∀ m ∈ h, m.unit ∈ ids) (hperm : h.Perm h')
    (t : FileTree) : (p.replay w t h).at? = (p.replay w t h').at? := by
  rw [at?_replay, at?_replay]
  exact hperm.foldl_eq' (fun m hm m' hm' v => trace_comm hs (hk m hm) (hk m' hm') v) _

theorem agrees_foldl (hs : w.Separate ids) (hi : i ∈ ids) (hw : w i = .ok (path, body))
    (hk : ∀ m ∈ h, m.unit ∈ ids ∧ m ≠ .wrote i) (v : View) :
    View.Agrees v (h.foldl (p.trace w) v) path := by
  induction h generalizing v with
  | nil => exact View.Agrees.refl v path
  | cons m h ih =>
    refine View.Agrees.trans ?_ (ih (fun m hm => hk m (List.mem_cons_of_mem _ hm)) _)
    obtain ⟨hmem, hne⟩ := hk m List.mem_cons_self
    unfold trace
    cases hf : p.file? w m with
    | none => exact View.Agrees.refl v path
    | some q =>
      obtain ⟨j, body', rfl, hj⟩ := file?_eq_some hf
      have hji : j ≠ i := by
        rintro rfl
        exact hne rfl
      exact View.agrees_stamp (hs j hmem i hi hji _ _ _ _ hj hw) v q.2

theorem agrees_found (hs : w.Separate ids) (hi : i ∈ ids) (hw : w i = .ok (path, body))
    (hk : ∀ m ∈ h, m.unit ∈ ids) (t : FileTree) :
    View.Agrees t.at? (p.found w t h i).at? path := by
  unfold found
  rw [at?_replay]
  refine agrees_foldl hs hi hw (fun m hm => ⟨?_, ?_⟩) _
  · exact hk m ((List.takeWhile_prefix _).subset hm)
  · have hne := List.mem_takeWhile_imp hm
    simpa using hne

/-- Two results that are the same, or that are the failures of a unit whose directory cannot be
made: something bars the way to it, something before that is missing at first, and each of the
errors names what bars the way or the whole directory. -/
def Alike (t : FileTree) (w : Wish) (i : Nat) (r r' : Result) : Prop :=
  r = r' ∨ ∃ path body c e e', w i = .ok (path, body) ∧ View.Hindered t.at? path c ∧
    r = .failed (.fault (.file e)) ∧ r' = .failed (.fault (.file e')) ∧
    View.Names t.at? path c e ∧ View.Names t.at? path c e'

theorem result_save (p : Plan) (t : FileTree) (path : Path) (body : RawText) :
    (p.save t path body).2 =
      match Address.override p.recorded p.override body with
      | .error f => .failed (.fault f)
      | .ok content =>
        match View.refusal t.at? path with
        | some e => .failed (.fault (.file e))
        | none => if content.text?.isSome then .written path
            else .failed (.fault (.notEncodable .content content)) := by
  cases ho : Address.override p.recorded p.override body with
  | error f => rw [save_of_error ho]
  | ok content =>
    have hsnd := snd_save ho t path
    rw [(t.write_eq path _).2] at hsnd
    exact hsnd

theorem save_alike {t' t'' : FileTree} (hw : w i = .ok (path, body))
    (h : View.Agrees t.at? t'.at? path) (h' : View.Agrees t.at? t''.at? path) :
    Alike t w i (p.save t' path body).2 (p.save t'' path body).2 := by
  rw [result_save, result_save]
  cases Address.override p.recorded p.override body with
  | error f => exact .inl rfl
  | ok content =>
    simp only
    rcases View.refusal_alike h h' with he | ⟨c, e, e', hc, he, he', hn, hn'⟩
    · rw [he]
      exact .inl rfl
    · rw [he, he']
      exact .inr ⟨path, body, c, e, e', hw, hc, rfl, rfl, hn, hn'⟩

theorem verdict_alike (hs : w.Separate ids) (hi : i ∈ ids)
    (hended : ∀ i, .ended i ∈ h ↔ i ∈ ids) (hended' : ∀ i, .ended i ∈ h' ↔ i ∈ ids)
    (hk : ∀ m ∈ h, m.unit ∈ ids) (hk' : ∀ m ∈ h', m.unit ∈ ids) (t : FileTree) :
    Alike t w i (p.verdict w t h i) (p.verdict w t h' i) := by
  cases hw : w i with
  | error e =>
    left
    rw [verdict_of_error hw, verdict_of_error hw]
  | ok f =>
    obtain ⟨path, body⟩ := f
    rw [verdict_of_owner hw (Wish.owner_of_separate hs hended hi hw),
      verdict_of_owner hw (Wish.owner_of_separate hs hended' hi hw)]
    exact save_alike hw (agrees_found hs hi hw hk t) (agrees_found hs hi hw hk' t)

end Plan

namespace Export

variable {w v : World} {c : Configuration} {p : Project} {l : Loaded}
  {units : List (Nat × Text)} {given : Option Format}

/-- The chronicles of two schedules hold the same marks. -/
theorem chronicle_perm {a : Conduct} (hu : units.Sublist (p.units c.mode))
    (hs : (wish a w c p).Separate (units.map Prod.fst))
    (schedule schedule' : List Nat → List Event) :
    (chronicle a w c p schedule units).Perm (chronicle a w c p schedule' units) := by
  rw [List.perm_ext_iff_of_nodup (nodup_chronicle hu _) (nodup_chronicle hu _)]
  intro m
  cases m with
  | ended i => rw [ended_iff hu, ended_iff hu]
  | wrote i =>
    rw [wrote_iff hu, wrote_iff hu]
    refine and_congr_right fun hi => exists_congr fun path => exists_congr fun body =>
      and_congr_right fun hw => iff_of_true ?_ ?_
    · exact Wish.owner_of_separate hs (ended_iff hu schedule) hi hw
    · exact Wish.owner_of_separate hs (ended_iff hu schedule') hi hw

theorem unit_of_mem_chronicle {a : Conduct} (hu : units.Sublist (p.units c.mode))
    {schedule : List Nat → List Event} {m : Mark} (hm : m ∈ chronicle a w c p schedule units) :
    m.unit ∈ units.map Prod.fst := by
  cases m with
  | ended i => exact (ended_iff hu schedule i).1 hm
  | wrote i => exact ((wrote_iff hu schedule i).1 hm).1

/-- The error of the file system with which a unit fails. -/
def fileErrors (e : Ended) : List (Option FileError) :=
  match e.result with
  | .error _ => []
  | .ok s => s.outcomes.map fun o =>
    match o.result with
    | .failed (.fault (.file e)) => some e
    | _ => none

end Export

end TestScribe
