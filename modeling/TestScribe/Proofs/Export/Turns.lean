import TestScribe.Format.Builtin
import TestScribe.Proofs.Export.Order

/-!
Units that are taken up in their order. An event loop begins tasks in the order in which they were
made, so no unit is taken up before those that stand in front of it (`InTurn`). Units whose
emissions never wait then end these in their order as well (`endings_chronicle`), whatever else a
schedule does.
-/

namespace TestScribe

/-- Whether units are taken up in order: none before those that stand in front of it. -/
def InTurn (order : List Nat) (es : List Event) : Prop :=
  ∀ past i rest, es = past ++ .resume i :: rest →
    ∀ front back, order = front ++ i :: back → ∀ j ∈ front, .resume j ∈ past

theorem inTurn_nil (order : List Nat) : InTurn order [] := by
  intro past i rest h
  simp at h

theorem mem_of_round {front back : List Nat} {i j : Nat} {past rest : List Event}
    (hn : (front ++ i :: back).Nodup)
    (h : turns (front ++ i :: back) 1 = past ++ .resume i :: rest) (hj : j ∈ front) :
    .resume j ∈ past := by
  induction front generalizing past with
  | nil => cases hj
  | cons k front ih =>
    rw [List.cons_append, List.nodup_cons] at hn
    have hki : k ≠ i := by
      rintro rfl
      exact hn.1 (by simp)
    have hround : turns (k :: front ++ i :: back) 1 =
        .resume k :: .write k :: turns (front ++ i :: back) 1 := by simp [turns]
    rw [hround] at h
    -- the turn of `k` is not that of `i`, so both of its events are past
    rcases past with _ | ⟨e, _ | ⟨e', past⟩⟩
    · simp [hki] at h
    · simp at h
    · simp only [List.cons_append, List.cons.injEq] at h
      obtain ⟨rfl, rfl, h⟩ := h
      rcases List.mem_cons.1 hj with rfl | hj
      · exact List.mem_cons_self
      · exact List.mem_cons_of_mem _ (List.mem_cons_of_mem _ (ih hn.2 h hj))

theorem InTurn.append {order : List Nat} {es more : List Event} (h : InTurn order es)
    (hmore : ∀ past i rest, more = past ++ .resume i :: rest →
      ∀ front back, order = front ++ i :: back → ∀ j ∈ front, .resume j ∈ es ++ past) :
    InTurn order (es ++ more) := by
  intro past i rest hsplit front back horder j hj
  rcases List.append_eq_append_iff.1 hsplit with ⟨begun, rfl, hrest⟩ | ⟨begun, rfl, hrest⟩
  · exact hmore begun i rest hrest front back horder j hj
  · cases begun with
    | nil => simpa using hmore [] i rest hrest.symm front back horder j hj
    | cons e begun =>
      rw [List.cons_append, List.cons.injEq] at hrest
      obtain ⟨rfl, -⟩ := hrest
      exact h past i begun rfl front back horder j hj

theorem InTurn.append_round {order : List Nat} {es : List Event} (h : InTurn order es)
    (hn : order.Nodup) : InTurn order (es ++ turns order 1) := by
  refine h.append fun past i rest hround front back horder j hj => ?_
  subst horder
  exact List.mem_append_right _ (mem_of_round hn hround hj)

theorem InTurn.append_of_all {order : List Nat} {es : List Event} (h : InTurn order es)
    (hall : ∀ j ∈ order, .resume j ∈ es) (more : List Event) : InTurn order (es ++ more) := by
  refine h.append fun past i rest _ front back horder j hj => ?_
  exact List.mem_append_left _ (hall j (horder ▸ List.mem_append_left _ hj))

theorem inTurn_turns {order : List Nat} (hn : order.Nodup) (n : Nat) :
    InTurn order (turns order n) := by
  cases n with
  | zero => exact inTurn_nil order
  | succ n =>
    have hround : InTurn order (turns order 1) := (inTurn_nil order).append_round hn
    have hturns : turns order (n + 1) = turns order 1 ++ turns order n := by simp [turns]
    rw [hturns]
    refine hround.append_of_all (fun j hj => ?_) _
    simp only [turns, List.append_nil, List.mem_flatMap]
    exact ⟨j, hj, List.mem_cons_self⟩

namespace Emission

def Prompt : Emission → Prop
  | answers _ => True
  | fails _ => True
  | waits _ => False
  | consults next => ∀ r, (next r).Prompt
  | registers _ _ next => ∀ refusal, (next refusal).Prompt

theorem Prompt.advance {e : Emission} (h : e.Prompt) (g : Registries) :
    e.advance g = ((e.drive g).1, .ended (e.drive g).2) := by
  induction e generalizing g with
  | answers _ | fails _ => rfl
  | waits _ _ => exact h.elim
  | consults next ih => exact ih g.shared (h g.shared) g
  | registers name hook next ih => exact ih _ (h _) _

end Emission

namespace Run

variable {p : Plan} {w : Wish} {r : Run} {f : FileTree} {t : Task} {h : List Mark} {i : Nat}
  {order : List Nat} {past : List Event}

def Prompt (r : Run) : Prop := ∀ t ∈ r.tasks, ∀ e, t.stage = .emitting e → e.Prompt

theorem Prompt.setStage (hr : r.Prompt) {s : Stage} (hs : ∀ e, s ≠ .emitting e)
    {g : Registries} {files : FileTree} {claimed : List Path} (i : Nat) :
    ({ r with registries := g, files, claimed }.setStage i s).Prompt := by
  intro u hu e he
  rcases mem_setStage hu with ⟨-, t, -, -, rfl⟩ | ⟨-, hu⟩
  · exact absurd he (hs e)
  · exact hr u hu e he

theorem Prompt.resume_eq (hr : r.Prompt) (i : Nat) :
    r.resume p i = r.drive p i ∧ r.resumeMarks i = r.driveMarks i := by
  rcases r.emitting_or_silent i with ⟨t, e, hi, he⟩ | hs
  · have ha := (hr t (of_task? hi).1 e he).advance r.registries
    rw [resume_of_ended hi he ha, drive_of_emitting hi he, resumeMarks_of_ended hi he ha,
      driveMarks_of_emitting hi he]
    exact ⟨rfl, rfl⟩
  · rw [resume_of_silent hs, drive_of_silent hs, resumeMarks_of_silent hs, driveMarks_of_silent hs]
    exact ⟨rfl, rfl⟩

theorem Prompt.drive (hr : r.Prompt) (i : Nat) : (r.drive p i).Prompt := by
  rcases r.emitting_or_silent i with ⟨t, e, hi, he⟩ | hs
  · obtain ⟨claimed, s, hs, hsettle⟩ :=
      settle_eq p { r with registries := (e.drive r.registries).1 } t (e.drive r.registries).2
    rw [drive_of_emitting hi he, hsettle]
    exact hr.setStage hs t.id
  · rwa [drive_of_silent hs]

theorem Prompt.write (hr : r.Prompt) (i : Nat) : (r.write p i).Prompt := by
  rcases r.writing_or_idle i with ⟨t, path, body, hi, hs⟩ | hs
  · rw [write_of_writing hi hs]
    exact hr.setStage (by simp) i
  · rwa [write_of_idle hs]

theorem Prompt.finish (hr : r.Prompt) (p : Plan) (i : Nat) : (r.finish p i).Prompt :=
  (hr.drive (p := p) i).write i

theorem Prompt.step (hr : r.Prompt) (e : Event) : (r.step p e).Prompt := by
  cases e with
  | resume i =>
    rw [Run.step, (hr.resume_eq i).1]
    exact hr.drive i
  | write i => exact hr.write i

theorem Prompt.schedule (hr : r.Prompt) (es : List Event) : (es.foldl (Run.step p) r).Prompt := by
  induction es generalizing r with
  | nil => exact hr
  | cons e es ih => exact ih (hr.step e)

theorem history_append (p : Plan) (es es' : List Event) (r : Run) :
    history p (es ++ es') r = history p es r ++ history p es' (es.foldl (Run.step p) r) := by
  induction es generalizing r with
  | nil => rfl
  | cons e es ih => rw [List.cons_append, history, ih, history, List.append_assoc, List.foldl_cons]

/-- Where nothing waits, letting tasks finish is one more round. -/
theorem Prompt.closing_eq (hr : r.Prompt) (is : List Nat) :
    closing p is r = history p (turns is 1) r := by
  induction is generalizing r with
  | nil => rfl
  | cons i is ih =>
    obtain ⟨hresume, hmarks⟩ := hr.resume_eq (p := p) i
    have hrest := ih (hr.finish p i)
    have hround : turns (i :: is) 1 = .resume i :: .write i :: turns is 1 := by simp [turns]
    calc closing p (i :: is) r
        = r.driveMarks i ++ (r.drive p i).writeMarks i ++ closing p is (r.finish p i) := rfl
      _ = r.resumeMarks i ++ ((r.resume p i).writeMarks i ++
            history p (turns is 1) ((r.resume p i).write p i)) := by
          rw [hrest, hresume, hmarks, List.append_assoc, Run.finish]
      _ = history p (turns (i :: is) 1) r := by
          rw [hround]
          rfl

theorem Prompt.chronicle_eq (hr : r.Prompt) (schedule : List Event) :
    r.chronicle p schedule = history p (schedule ++ turns (r.tasks.map (·.id)) 1) r := by
  rw [chronicle, history_append, (hr.schedule schedule).closing_eq]

end Run

theorem append_singleton_prefix {xs front back : List Nat} {x : Nat}
    (hxs : xs <+: front ++ x :: back) (hn : (front ++ x :: back).Nodup) (hx : x ∉ xs)
    (hfront : ∀ y ∈ front, y ∈ xs) : xs ++ [x] <+: front ++ x :: back := by
  have heq : xs = front := by
    rcases List.prefix_or_prefix_of_prefix hxs (List.prefix_append front _) with h | h
    · obtain ⟨more, rfl⟩ := h
      cases more with
      | nil => rw [List.append_nil]
      | cons y more =>
        have hdisjoint := List.disjoint_of_nodup_append (List.nodup_append.1 hn).1
        exact absurd List.mem_cons_self (hdisjoint (hfront y (by simp)))
    · obtain ⟨more, rfl⟩ := h
      cases more with
      | nil => rw [List.append_nil]
      | cons y more =>
        rw [List.prefix_append_right_inj, List.cons_prefix_cons] at hxs
        exact absurd (by simp [hxs.1]) hx
  rw [heq]
  exact ⟨back, by simp⟩

/-- Where a run has come to whose units are taken up in order: the emissions that have ended are
the first ones, and those of all units that have been taken up. -/
structure Paced (order : List Nat) (past : List Event) (h : List Mark) : Prop where
  ordered : endings h <+: order
  begun : ∀ i ∈ order, .resume i ∈ past → i ∈ endings h

namespace Run

theorem Tells.ended_of_silent (ht : Tells p w f h r) (hi : i ∈ r.tasks.map (·.id))
    (hs : r.Silent i) : .ended i ∈ h := by
  obtain ⟨t, hmem, rfl⟩ := List.mem_map.1 hi
  have hstands := ht.stands t hmem
  unfold Stands at hstands
  split at hstands
  · rename_i e he
    exact absurd he (hs t (task?_of_mem ht.distinct hmem) e)
  · exact hstands.1
  · exact hstands.1

theorem Tells.not_ended_of_emitting (ht : Tells p w f h r) (hi : r.task? i = some t)
    {e : Emission} (he : t.stage = .emitting e) : .ended i ∉ h := by
  obtain ⟨hmem, rfl⟩ := of_task? hi
  have hstands := ht.stands t hmem
  simp only [Stands, he] at hstands
  exact hstands.1

theorem Prompt.paced_resume (hr : r.Prompt) (ht : Tells p w f h r)
    (hids : r.tasks.map (·.id) = order) (hp : Paced order past h)
    (hturn : ∀ front back, order = front ++ i :: back → ∀ j ∈ front, .resume j ∈ past) :
    Paced order (past ++ [.resume i]) (h ++ r.resumeMarks i) := by
  have hcases : ∀ j, .resume j ∈ past ++ [.resume i] → .resume j ∈ past ∨ j = i := by
    intro j hj
    simpa using hj
  rcases r.emitting_or_silent i with ⟨t, e, hi, he⟩ | hs
  · obtain ⟨hmem, hid⟩ := of_task? hi
    have horder : i ∈ order := by
      rw [← hids, ← hid]
      exact List.mem_map_of_mem hmem
    have hnot : i ∉ endings h := mt mem_endings.1 (ht.not_ended_of_emitting hi he)
    have hends : endings (h ++ [.ended i]) = endings h ++ [i] := endings_append h _
    rw [(hr.resume_eq (p := p) i).2, driveMarks_of_emitting hi he]
    obtain ⟨front, back, rfl⟩ := List.append_of_mem horder
    have hfront : ∀ j ∈ front, j ∈ endings h := fun j hj =>
      hp.begun j (List.mem_append_left _ hj) (hturn front back rfl j hj)
    constructor
    · rw [hends]
      exact append_singleton_prefix hp.ordered (hids ▸ ht.distinct) hnot hfront
    · intro j hj hpast
      rw [hends, List.mem_append, List.mem_singleton]
      exact (hcases j hpast).imp_left (hp.begun j hj)
  · rw [resumeMarks_of_silent hs, List.append_nil]
    refine ⟨hp.ordered, fun j hj hpast => (hcases j hpast).elim (hp.begun j hj) ?_⟩
    rintro rfl
    exact mem_endings.2 (ht.ended_of_silent (hids ▸ hj) hs)

theorem paced_write (hp : Paced order past h) (r : Run) (i : Nat) :
    Paced order (past ++ [.write i]) (h ++ r.writeMarks i) := by
  have hends : endings (h ++ r.writeMarks i) = endings h := by
    rcases r.writing_or_idle i with ⟨t, path, body, hi, hs⟩ | hs
    · rw [writeMarks_of_writing hi hs, endings_append]
      exact List.append_nil _
    · rw [writeMarks_of_idle hs, List.append_nil]
  constructor
  · rw [hends]
    exact hp.ordered
  · intro j hj hpast
    rw [hends]
    exact hp.begun j hj (by simpa using hpast)

/-- A schedule by which units are taken up in order keeps a run paced. -/
theorem Prompt.paced_history (hr : r.Prompt) (ht : Tells p w f h r)
    (hids : r.tasks.map (·.id) = order) (hp : Paced order past h) (es : List Event)
    (hturn : InTurn order (past ++ es)) : Paced order (past ++ es) (h ++ history p es r) := by
  induction es generalizing past h r with
  | nil => simpa [history] using hp
  | cons e es ih =>
    have hids' : (r.step p e).tasks.map (·.id) = order := by
      rw [← fst_units, ← hids, ← fst_units]
      exact congrArg _ (units_schedule p [e] r)
    have hstep : Paced order (past ++ [e]) (h ++ r.marks e) := by
      cases e with
      | resume i => exact hr.paced_resume ht hids hp (hturn past i es rfl)
      | write i => exact paced_write hp r i
    have hrest := ih (hr.step e) (ht.step e) hids' hstep (by simpa using hturn)
    simpa [history, List.append_assoc] using hrest

/-- Where nothing waits and units are taken up in order, emissions end in order. -/
theorem Prompt.endings_chronicle (hr : r.Prompt) (hb : Begins p w r) (schedule : List Event)
    (hturn : InTurn (r.tasks.map (·.id)) schedule) :
    endings (r.chronicle p schedule) = r.tasks.map (·.id) := by
  have hstart : Paced (r.tasks.map (·.id)) [] [] := ⟨List.nil_prefix, by simp⟩
  have hp := hr.paced_history hb.tells rfl hstart (schedule ++ turns (r.tasks.map (·.id)) 1)
    (hturn.append_round hb.distinct)
  rw [List.nil_append, List.nil_append, ← hr.chronicle_eq] at hp
  obtain ⟨more, hmore⟩ := hp.ordered
  cases more with
  | nil => rw [← hmore, List.append_nil]
  | cons i more =>
    -- every emission ends, so nothing is left over
    have hi : i ∈ endings (r.chronicle p schedule) := by
      rw [mem_endings, ended_mem_chronicle hb schedule, ← hmore]
      simp
    have hnodup := hb.distinct
    rw [← hmore] at hnodup
    exact absurd List.mem_cons_self (List.disjoint_of_nodup_append hnodup hi)

end Run

theorem Dialect.prompt_format (d : Dialect) (m : Mode) (p : Project) (name : Text) :
    (d.format.emit m p name).Prompt := by
  cases m with
  | test =>
    intro r
    simp only
    cases d.emitTest r .null p name <;> exact trivial
  | suite =>
    intro r
    simp only
    cases d.emitSuite r .null p name <;> exact trivial

theorem Export.endings_chronicle {w : World} {c : Configuration} {p : Project}
    {units : List (Nat × Text)} (hs : units.Sublist (p.units c.mode)) (d : Dialect)
    {schedule : List Nat → List Event}
    (hturn : InTurn (units.map Prod.fst) (schedule (units.map Prod.fst))) :
    endings (chronicle (byName d.format) w c p schedule units) = units.map Prod.fst := by
  have hprompt : (start w (issue (byName d.format) c.mode p units).2).Prompt := by
    intro t ht e he
    rw [issue_eq] at ht
    obtain ⟨u, -, rfl⟩ := List.mem_map.1 ht
    cases he
    exact d.prompt_format c.mode p u.2
  have hends := hprompt.endings_chronicle (begins (byName d.format) w c p hs)
    (schedule (units.map Prod.fst)) (by rwa [ids_start])
  rwa [ids_start] at hends

end TestScribe
