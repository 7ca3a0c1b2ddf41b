import TestScribe.Proofs.Export.Steps

/-!
The chronicle of a run: the marks of its schedule and of what the schedule has left undone. At every
moment the marks so far tell where each task stands, which paths are taken and what the files hold
(`Tells`); every event keeps this up, and in the end every task is done.
-/

namespace TestScribe

namespace Run

variable {p : Plan} {w : Wish} {r : Run} {t u : Task} {h : List Mark} {f : FileTree} {i : Nat}
  {s : Stage} {m : Mark}

def Stands (p : Plan) (w : Wish) (f : FileTree) (g : Registries) (h : List Mark) (t : Task) :
    Prop :=
  match t.stage with
  | .emitting e =>
    .ended t.id ∉ h ∧ .wrote t.id ∉ h ∧ target p t.name (e.drive g).2 = w t.id
  | .writing path body =>
    .ended t.id ∈ h ∧ .wrote t.id ∉ h ∧ w t.id = .ok (path, body) ∧ w.owner h path = some t.id
  | .done result =>
    .ended t.id ∈ h ∧ result = p.verdict w f h t.id ∧
      (.wrote t.id ∈ h ↔ ∃ path body, w t.id = .ok (path, body) ∧ w.owner h path = some t.id)

/-- What the history of a run tells about it, where `f` are the files of its start. -/
structure Tells (p : Plan) (w : Wish) (f : FileTree) (h : List Mark) (r : Run) : Prop where
  nodup : h.Nodup
  frozen : r.registries.current.frozen = true
  files : r.files = p.replay w f h
  claimed : ∀ path, path ∈ r.claimed ↔ (w.owner h path).isSome = true
  distinct : (r.tasks.map (·.id)).Nodup
  known : ∀ m ∈ h, m.unit ∈ r.tasks.map (·.id)
  stands : ∀ t ∈ r.tasks, Stands p w f r.registries h t

/-- A run that begins: nothing is taken, nothing can be registered, and every task emits what its
unit wishes for. -/
structure Begins (p : Plan) (w : Wish) (r : Run) : Prop where
  frozen : r.registries.current.frozen = true
  claimed : r.claimed = []
  distinct : (r.tasks.map (·.id)).Nodup
  emitting : ∀ t ∈ r.tasks, ∃ e, t.stage = .emitting e ∧
    target p t.name (e.drive r.registries).2 = w t.id

theorem Begins.tells (hb : Begins p w r) : Tells p w r.files [] r where
  nodup := List.nodup_nil
  frozen := hb.frozen
  files := rfl
  claimed := by simp [hb.claimed, Wish.owner]
  distinct := hb.distinct
  known := by simp
  stands := by
    intro t ht
    obtain ⟨e, he, hw⟩ := hb.emitting t ht
    simp [Stands, he, hw]

theorem Stands.append {g : Registries} (hs : Stands p w f g h t) (hm : m.unit ≠ t.id) :
    Stands p w f g (h ++ [m]) t := by
  have he : ∀ i, Mark.ended i = m → i ≠ t.id := by rintro i rfl; exact hm
  have hw : ∀ i, Mark.wrote i = m → i ≠ t.id := by rintro i rfl; exact hm
  have hended : Mark.ended t.id ∈ h ++ [m] ↔ Mark.ended t.id ∈ h := by
    simpa using fun heq => absurd rfl (he _ heq)
  have hwrote : Mark.wrote t.id ∈ h ++ [m] ↔ Mark.wrote t.id ∈ h := by
    simpa using fun heq => absurd rfl (hw _ heq)
  unfold Stands at hs ⊢
  cases ht : t.stage with
  | emitting e =>
    simp only [ht] at hs ⊢
    rwa [hended, hwrote]
  | writing path body =>
    simp only [ht] at hs ⊢
    obtain ⟨h1, h2, h3, h4⟩ := hs
    exact ⟨hended.2 h1, mt hwrote.1 h2, h3, Wish.owner_append_of_some h4 _⟩
  | done result =>
    simp only [ht] at hs ⊢
    obtain ⟨h1, h2, h3⟩ := hs
    refine ⟨hended.2 h1, ?_, ?_⟩
    · rw [h2, Plan.verdict_append h1 fun path body hp ho => h3.2 ⟨path, body, hp, ho⟩]
    · rw [hwrote, h3]
      refine exists_congr fun path => exists_congr fun body => and_congr_right fun hp => ?_
      -- the owner is settled, since the emission of this task has ended
      obtain ⟨k, hk⟩ := Option.isSome_iff_exists.1 (Wish.isSome_owner h1 (Wish.asks_of_ok hp))
      rw [hk, Wish.owner_append_of_some hk]

theorem Tells.setStage (ht : Tells p w f h r) (hi : r.task? i = some t) {files : FileTree}
    {claimed : List Path} (hm : m.unit = i) (hnew : m ∉ h)
    (hfiles : files = p.replay w f (h ++ [m]))
    (hclaimed : ∀ path, path ∈ claimed ↔ (w.owner (h ++ [m]) path).isSome = true)
    (hs : Stands p w f r.registries (h ++ [m]) { t with stage := s }) :
    Tells p w f (h ++ [m]) ({ r with files, claimed }.setStage i s) where
  nodup := List.nodup_append.2 ⟨ht.nodup, List.nodup_singleton m, by
    intro a ha b hb
    rw [List.mem_singleton] at hb
    rintro rfl
    exact hnew (hb ▸ ha)⟩
  frozen := ht.frozen
  files := hfiles
  claimed := hclaimed
  distinct := by simpa using ht.distinct
  known := by
    intro k hk
    rw [ids_setStage]
    rcases List.mem_append.1 hk with hk | hk
    · exact ht.known k hk
    · obtain ⟨hmem, hid⟩ := of_task? hi
      rw [List.mem_singleton.1 hk, hm, ← hid]
      exact List.mem_map_of_mem hmem
  stands := by
    intro u hu
    obtain ⟨hmem, hid⟩ := of_task? hi
    rcases mem_setStage hu with ⟨-, v, hv, hvi, rfl⟩ | ⟨hne, hu⟩
    · have hvt : v = t := List.inj_on_of_nodup_map ht.distinct hv hmem (hvi.trans hid.symm)
      rw [hvt]
      exact hs
    · exact (ht.stands u hu).append (by rw [hm]; exact Ne.symm hne)

/-- A task moves on with the end of its emission; the paths that are taken may become more by the
one that its unit asks for. -/
theorem Tells.ended (ht : Tells p w f h r) (hi : r.task? i = some t) (hnot : .ended i ∉ h)
    {claimed : List Path}
    (hclaimed : ∀ path, path ∈ claimed ↔ path ∈ r.claimed ∨ w.asks path i = true)
    (hs : Stands p w f r.registries (h ++ [.ended i]) { t with stage := s }) :
    Tells p w f (h ++ [.ended i]) ({ r with claimed }.setStage i s) := by
  refine ht.setStage hi rfl hnot ?_ ?_ hs
  · rw [Plan.replay_append, ht.files]
    rfl
  · intro path
    rw [hclaimed, Wish.owner_append, Option.isSome_or, Bool.or_eq_true, ht.claimed,
      Wish.owner_ended]
    by_cases ha : w.asks path i = true <;> simp [ha]

/-- An ended emission fails, finds its path taken, or takes it. -/
theorem Tells.settle (ht : Tells p w f h r) (hi : r.task? i = some t) {e : Emission}
    (he : t.stage = .emitting e) :
    Tells p w f (h ++ [.ended i]) (settle p r t (e.drive r.registries).2) := by
  obtain ⟨hmem, rfl⟩ := of_task? hi
  have hst := ht.stands t hmem
  simp only [Stands, he] at hst
  obtain ⟨hnot, hwrote, hwish⟩ := hst
  have hin : Mark.ended t.id ∈ h ++ [.ended t.id] := by simp
  have hout : Mark.wrote t.id ∉ h ++ [.ended t.id] := by simpa using hwrote
  cases hw : w t.id with
  | error err =>
    rw [settle_of_error (hwish.trans hw)]
    refine ht.ended hi hnot ?_ ?_
    · intro path
      simp [Wish.asks, hw]
    · exact ⟨hin, (Plan.verdict_of_error hw).symm, by simp [hwrote, hw]⟩
  | ok q =>
    obtain ⟨path, body⟩ := q
    have hasks : ∀ q, w.asks q t.id = true ↔ q = path := by
      intro q
      simp [Wish.asks, hw, eq_comm]
    by_cases hc : path ∈ r.claimed
    · rw [settle_of_taken (hwish.trans hw) hc]
      -- the path has an owner, whose emission has ended before
      obtain ⟨k, hk⟩ := Option.isSome_iff_exists.1 ((ht.claimed path).1 hc)
      have hne : k ≠ t.id := by
        rintro rfl
        exact hnot (Wish.of_owner hk).1
      have hlost : w.owner (h ++ [.ended t.id]) path ≠ some t.id := by
        rw [Wish.owner_append_of_some hk]
        simpa using hne
      refine ht.ended hi hnot ?_ ?_
      · intro q
        rw [hasks]
        exact ⟨.inl, fun hq => hq.elim id fun hq => hq ▸ hc⟩
      · refine ⟨hin, (Plan.verdict_of_ne hw hlost).symm, iff_of_false hout ?_⟩
        rintro ⟨q, b, hq, ho⟩
        obtain ⟨rfl, rfl⟩ : path = q ∧ body = b := by simpa [hw] using hq
        exact hlost ho
    · rw [settle_of_free (hwish.trans hw) hc]
      have hnone : w.owner h path = none := by
        simpa using mt (ht.claimed path).2 hc
      refine ht.ended hi hnot ?_ ?_
      · intro q
        rw [hasks, List.mem_cons, or_comm]
      · refine ⟨hin, hout, hw, ?_⟩
        rw [Wish.owner_append, hnone, Option.none_or, Wish.owner_ended, if_pos ((hasks path).2 rfl)]

theorem Tells.save (ht : Tells p w f h r) (hi : r.task? i = some t) {path : Path} {body : RawText}
    (he : t.stage = .writing path body) :
    Tells p w f (h ++ [.wrote i])
      ({ r with files := (p.save r.files path body).1 }.setStage i
        (.done (p.save r.files path body).2)) := by
  obtain ⟨hmem, rfl⟩ := of_task? hi
  have hst := ht.stands t hmem
  simp only [Stands, he] at hst
  obtain ⟨hended, hnot, hw, howner⟩ := hst
  have ho := Wish.owner_append_of_some howner [.wrote t.id]
  refine ht.setStage hi rfl hnot ?_ ?_ ?_
  · rw [Plan.replay_append, ← ht.files]
    exact (Plan.record_wrote hw).symm
  · intro q
    rw [ht.claimed, Wish.owner_append, Wish.owner_wrote, Option.or_none]
  · refine ⟨List.mem_append_left _ hended, ?_, iff_of_true (by simp) ⟨path, body, hw, ho⟩⟩
    rw [Plan.verdict_of_owner hw ho, Plan.found_of_not_mem hnot, ht.files]

theorem Tells.wait (ht : Tells p w f h r) (hi : r.task? i = some t) {e rest : Emission}
    (he : t.stage = .emitting e) (hd : e.drive r.registries = rest.drive r.registries) :
    Tells p w f h (r.setStage i (.emitting rest)) where
  nodup := ht.nodup
  frozen := ht.frozen
  files := ht.files
  claimed := ht.claimed
  distinct := by simpa using ht.distinct
  known := by simpa using ht.known
  stands := by
    intro u hu
    obtain ⟨hmem, hid⟩ := of_task? hi
    rcases mem_setStage hu with ⟨-, v, hv, hvi, rfl⟩ | ⟨-, hu⟩
    · obtain rfl : v = t := List.inj_on_of_nodup_map ht.distinct hv hmem (hvi.trans hid.symm)
      have hst := ht.stands v hv
      simp only [Stands, he, hd] at hst
      exact hst
    · exact ht.stands u hu

theorem Tells.resume (ht : Tells p w f h r) (i : Nat) :
    Tells p w f (h ++ r.resumeMarks i) (r.resume p i) := by
  rcases r.emission_cases i with hs | ⟨t, e, g, hi, he, hstep⟩
  · rw [resume_of_silent hs, resumeMarks_of_silent hs, List.append_nil]
    exact ht
  · have hg := e.advance_of_frozen ht.frozen
    rcases hstep with ⟨rest, ha⟩ | ⟨a, ha⟩
    · obtain rfl : g = r.registries := by simpa [ha] using hg
      rw [resume_of_waiting hi he ha, resumeMarks_of_waiting hi he ha, List.append_nil]
      exact ht.wait hi he (Emission.drive_of_waiting ha)
    · obtain rfl : g = r.registries := by simpa [ha] using hg
      have hs := ht.settle hi he
      rw [Emission.drive_of_ended ha] at hs
      rw [resume_of_ended hi he ha, resumeMarks_of_ended hi he ha]
      exact hs

theorem Tells.write (ht : Tells p w f h r) (i : Nat) :
    Tells p w f (h ++ r.writeMarks i) (r.write p i) := by
  rcases r.writing_or_idle i with ⟨t, path, body, hi, hs⟩ | hs
  · rw [write_of_writing hi hs, writeMarks_of_writing hi hs]
    exact ht.save hi hs
  · rw [write_of_idle hs, writeMarks_of_idle hs, List.append_nil]
    exact ht

theorem Tells.drive (ht : Tells p w f h r) (i : Nat) :
    Tells p w f (h ++ r.driveMarks i) (r.drive p i) := by
  rcases r.emitting_or_silent i with ⟨t, e, hi, he⟩ | hs
  · rw [drive_of_emitting hi he, driveMarks_of_emitting hi he, e.drive_of_frozen ht.frozen]
    exact ht.settle hi he
  · rw [drive_of_silent hs, driveMarks_of_silent hs, List.append_nil]
    exact ht

theorem Tells.step (ht : Tells p w f h r) (e : Event) :
    Tells p w f (h ++ r.marks e) (r.step p e) := by
  cases e with
  | resume i => exact ht.resume i
  | write i => exact ht.write i

theorem Tells.finish (ht : Tells p w f h r) (i : Nat) :
    Tells p w f (h ++ r.finishMarks p i) (r.finish p i) := by
  rw [finishMarks, ← List.append_assoc]
  exact (ht.drive i).write i

theorem Tells.history (ht : Tells p w f h r) (es : List Event) :
    Tells p w f (h ++ history p es r) (es.foldl (Run.step p) r) := by
  induction es generalizing h r with
  | nil => simpa [Run.history] using ht
  | cons e es ih =>
    rw [Run.history, ← List.append_assoc]
    exact ih (ht.step e)

theorem Tells.closing (ht : Tells p w f h r) (is : List Nat) :
    Tells p w f (h ++ closing p is r) (is.foldl (Run.finish p) r) := by
  induction is generalizing h r with
  | nil => simpa [Run.closing] using ht
  | cons i is ih =>
    rw [Run.closing, ← List.append_assoc]
    exact ih (ht.finish i)

/-! In the end every task is done. -/

def Done (r : Run) (i : Nat) : Prop := ∀ t ∈ r.tasks, t.id = i → ∃ result, t.stage = .done result

theorem Done.silent (hd : r.Done i) : r.Silent i := by
  intro t ht e he
  obtain ⟨result, hs⟩ := hd t (of_task? ht).1 (of_task? ht).2
  exact nomatch he.symm.trans hs

theorem Done.idle (hd : r.Done i) : r.Idle i := by
  intro t ht path body hw
  obtain ⟨result, hs⟩ := hd t (of_task? ht).1 (of_task? ht).2
  exact nomatch hw.symm.trans hs

theorem Done.finish (hd : r.Done i) (j : Nat) : (r.finish p j).Done i := by
  by_cases hij : i = j
  · subst hij
    rwa [Run.finish, drive_of_silent hd.silent, write_of_idle hd.idle]
  · intro t ht hid
    have hne : t.id ≠ j := by rw [hid]; exact hij
    have hmem := (write_moves p _ j).mem_of_ne ht hne
    exact hd t ((drive_moves p r j).mem_of_ne hmem hne) hid

theorem Done.closing (hd : r.Done i) (is : List Nat) : (is.foldl (Run.finish p) r).Done i := by
  induction is generalizing r with
  | nil => exact hd
  | cons j is ih => exact ih (hd.finish j)

theorem not_emitting_drive (hd : (r.tasks.map (·.id)).Nodup) (hu : u ∈ (r.drive p i).tasks)
    (hid : u.id = i) (e : Emission) : u.stage ≠ .emitting e := by
  rcases r.emitting_or_silent i with ⟨t, e', hi, he⟩ | hs
  · obtain ⟨-, rfl⟩ := of_task? hi
    rw [drive_of_emitting hi he] at hu
    obtain ⟨claimed, s, hne, hsettle⟩ :=
      settle_eq p { r with registries := (e'.drive r.registries).1 } t (e'.drive r.registries).2
    rw [hsettle] at hu
    rcases mem_setStage hu with ⟨-, v, -, -, rfl⟩ | ⟨hi, -⟩
    · exact hne e
    · exact absurd hid hi
  · rw [drive_of_silent hs] at hu
    exact hs u (hid ▸ task?_of_mem hd hu) e

theorem done_write (hd : (r.tasks.map (·.id)).Nodup)
    (hs : ∀ t ∈ r.tasks, t.id = i → ∀ e, t.stage ≠ .emitting e) : (r.write p i).Done i := by
  intro u hu hid
  rcases r.writing_or_idle i with ⟨t, path, body, hi, hst⟩ | hw
  · rw [write_of_writing hi hst] at hu
    rcases mem_setStage hu with ⟨-, v, -, -, rfl⟩ | ⟨hi, -⟩
    · exact ⟨_, rfl⟩
    · exact absurd hid hi
  · rw [write_of_idle hw] at hu
    have hidle := hw u (hid ▸ task?_of_mem hd hu)
    cases hst : u.stage with
    | emitting e => exact absurd hst (hs u hu hid e)
    | writing path body => exact absurd hst (hidle path body)
    | done result => exact ⟨result, rfl⟩

theorem done_finish (hd : (r.tasks.map (·.id)).Nodup) (i : Nat) : (r.finish p i).Done i := by
  have hd' : ((r.drive p i).tasks.map (·.id)).Nodup := by
    rw [← fst_units, (drive_moves p r i).units, fst_units]
    exact hd
  exact done_write hd' fun t ht hid e => not_emitting_drive hd ht hid e

theorem done_closing (hd : (r.tasks.map (·.id)).Nodup) {is : List Nat} (hi : i ∈ is) :
    (is.foldl (Run.finish p) r).Done i := by
  induction is generalizing r with
  | nil => cases hi
  | cons j is ih =>
    rcases List.mem_cons.1 hi with rfl | hi
    · exact (done_finish hd i).closing is
    · refine ih ?_ hi
      rw [← fst_units, units_finish, fst_units]
      exact hd

/-! Whole runs. -/

theorem units_complete (p : Plan) (schedule : List Event) (r : Run) :
    (r.complete p schedule).units = r.units := by
  rw [complete, units_closing, units_schedule]

theorem tells_complete (hb : Begins p w r) (schedule : List Event) :
    Tells p w r.files (r.chronicle p schedule) (r.complete p schedule) := by
  have ht := hb.tells.history schedule
  rw [List.nil_append] at ht
  exact ht.closing _

theorem done_complete (hb : Begins p w r) (schedule : List Event)
    (ht : t ∈ (r.complete p schedule).tasks) : ∃ result, t.stage = .done result := by
  have hids : t.id ∈ r.tasks.map (·.id) := by
    rw [← fst_units, ← units_complete p schedule, fst_units]
    exact List.mem_map_of_mem ht
  refine done_closing ?_ hids t ht rfl
  rw [← fst_units, units_schedule, fst_units]
  exact hb.distinct

/-- The files in the end are those of the writes in their order. -/
theorem files_complete (hb : Begins p w r) (schedule : List Event) :
    (r.complete p schedule).files = p.replay w r.files (r.chronicle p schedule) :=
  (tells_complete hb schedule).files

theorem outcome?_complete (hb : Begins p w r) (schedule : List Event)
    (ht : t ∈ (r.complete p schedule).tasks) :
    t.outcome? = some ⟨t.name, p.verdict w r.files (r.chronicle p schedule) t.id⟩ := by
  obtain ⟨result, hr⟩ := done_complete hb schedule ht
  have hs := (tells_complete hb schedule).stands t ht
  simp only [Stands, hr] at hs
  simp only [Task.outcome?, hr, hs.2.1]

/-- The outcomes in the end are the verdicts of the chronicle, one for each unit, in order. -/
theorem outcomes_complete (hb : Begins p w r) (schedule : List Event) :
    (r.complete p schedule).outcomes =
      r.units.map fun u => ⟨u.2, p.verdict w r.files (r.chronicle p schedule) u.1⟩ := by
  rw [← units_complete p schedule, units, List.map_map, outcomes,
    List.filterMap_congr fun t ht => outcome?_complete hb schedule ht, ← List.filterMap_eq_map]
  rfl

theorem ended_mem_chronicle (hb : Begins p w r) (schedule : List Event) :
    .ended i ∈ r.chronicle p schedule ↔ i ∈ r.tasks.map (·.id) := by
  have ht := tells_complete hb schedule
  rw [← fst_units, ← units_complete p schedule, fst_units]
  constructor
  · exact fun hm => ht.known _ hm
  · intro hi
    obtain ⟨t, hmem, rfl⟩ := List.mem_map.1 hi
    obtain ⟨result, hr⟩ := done_complete hb schedule hmem
    have hs := ht.stands t hmem
    simp only [Stands, hr] at hs
    exact hs.1

/-- The units that write are those to which the path they ask for belongs. -/
theorem wrote_mem_chronicle (hb : Begins p w r) (schedule : List Event) :
    .wrote i ∈ r.chronicle p schedule ↔ i ∈ r.tasks.map (·.id) ∧
      ∃ path body, w i = .ok (path, body) ∧ w.owner (r.chronicle p schedule) path = some i := by
  have ht := tells_complete hb schedule
  have hids : i ∈ r.tasks.map (·.id) ↔ ∃ t ∈ (r.complete p schedule).tasks, t.id = i := by
    rw [← fst_units, ← units_complete p schedule, fst_units, List.mem_map]
  have key : ∀ t ∈ (r.complete p schedule).tasks, .wrote t.id ∈ r.chronicle p schedule ↔
      ∃ path body, w t.id = .ok (path, body) ∧
        w.owner (r.chronicle p schedule) path = some t.id := by
    intro t hmem
    obtain ⟨result, hr⟩ := done_complete hb schedule hmem
    have hs := ht.stands t hmem
    simp only [Stands, hr] at hs
    exact hs.2.2
  constructor
  · intro hm
    obtain ⟨t, hmem, rfl⟩ := List.mem_map.1 (ht.known _ hm)
    exact ⟨hids.2 ⟨t, hmem, rfl⟩, (key t hmem).1 hm⟩
  · rintro ⟨hi, hw⟩
    obtain ⟨t, hmem, rfl⟩ := hids.1 hi
    exact (key t hmem).2 hw

end Run

end TestScribe
