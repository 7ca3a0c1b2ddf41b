import TestScribe.Export.Run

/-!
What a run shows of its tasks, mark by mark, and that this tells everything: the files that it
leaves are those of writing in the order of the marks (`files_complete`), and the outcome of each
unit can be read off the marks (`outcomes_complete`). A path belongs to the unit whose emission ends
first among those that ask for it.
-/

namespace TestScribe

/-- What a run shows: the emission of a unit ends, or its file is written. -/
inductive Mark where
  | ended (i : Nat)
  | wrote (i : Nat)
  deriving DecidableEq

def Mark.unit : Mark → Nat
  | ended i => i
  | wrote i => i

/-- What the emission of each unit comes to: a file and its path, or an error. -/
abbrev Wish := Nat → Except UnitError (Path × RawText)

namespace Wish

def asks (w : Wish) (path : Path) (i : Nat) : Bool :=
  match w i with
  | .ok (q, _) => q = path
  | .error _ => false

/-- The unit that an ended emission makes the owner of a path, if no other one is. -/
def ownerBy (w : Wish) (path : Path) : Mark → Option Nat
  | .ended i => if w.asks path i then some i else none
  | .wrote _ => none

def owner (w : Wish) (h : List Mark) (path : Path) : Option Nat := h.findSome? (w.ownerBy path)

variable {w : Wish} {h : List Mark} {path : Path} {body : RawText} {i : Nat}

theorem asks_iff : w.asks path i = true ↔ ∃ body, w i = .ok (path, body) := by
  unfold asks
  split
  · rename_i q b hq
    simp [hq, eq_comm]
  · rename_i e he
    simp [he]

theorem asks_of_ok (hw : w i = .ok (path, body)) : w.asks path i = true := asks_iff.2 ⟨body, hw⟩

theorem owner_append (w : Wish) (h k : List Mark) (path : Path) :
    w.owner (h ++ k) path = (w.owner h path).or (w.owner k path) := by
  simp [owner, List.findSome?_append]

theorem owner_append_of_some (ho : w.owner h path = some i) (k : List Mark) :
    w.owner (h ++ k) path = some i := by
  rw [owner_append, ho, Option.some_or]

theorem of_owner (ho : w.owner h path = some i) : .ended i ∈ h ∧ w.asks path i = true := by
  obtain ⟨m, hm, hi⟩ := List.exists_of_findSome?_eq_some ho
  cases m with
  | wrote j => simp [ownerBy] at hi
  | ended j =>
    by_cases hj : w.asks path j = true
    · obtain rfl : j = i := by simpa [ownerBy, hj] using hi
      exact ⟨hm, hj⟩
    · simp [ownerBy, hj] at hi

theorem isSome_owner (hm : .ended i ∈ h) (ha : w.asks path i = true) :
    (w.owner h path).isSome = true := by
  rw [owner, List.findSome?_isSome_iff]
  exact ⟨.ended i, hm, by simp [ownerBy, ha]⟩

/-- The owner of a path is the unit whose emission ends first among those that ask for it. -/
theorem owner_eq_some_iff : w.owner h path = some i ↔
    ∃ before after, h = before ++ .ended i :: after ∧ w.asks path i = true ∧
      ∀ j, .ended j ∈ before → w.asks path j = false := by
  rw [owner, List.findSome?_eq_some_iff]
  constructor
  · rintro ⟨before, m, after, rfl, hm, hbefore⟩
    cases m with
    | wrote j => simp [ownerBy] at hm
    | ended j =>
      by_cases hj : w.asks path j = true
      · obtain rfl : j = i := by simpa [ownerBy, hj] using hm
        exact ⟨before, after, rfl, hj, fun k hk => by simpa [ownerBy] using hbefore _ hk⟩
      · simp [ownerBy, hj] at hm
  · rintro ⟨before, after, rfl, hi, hbefore⟩
    refine ⟨before, .ended i, after, rfl, by simp [ownerBy, hi], fun m hm => ?_⟩
    cases m with
    | wrote j => rfl
    | ended j => simp [ownerBy, hbefore j hm]

theorem owner_ended (w : Wish) (path : Path) (i : Nat) :
    w.owner [.ended i] path = if w.asks path i then some i else none := by
  by_cases ha : w.asks path i = true
  · simp [owner, ownerBy, ha]
  · simp [owner, ownerBy, ha]

@[simp] theorem owner_wrote (w : Wish) (path : Path) (i : Nat) :
    w.owner [.wrote i] path = none := rfl

end Wish

namespace Plan

def record (p : Plan) (w : Wish) (t : FileTree) : Mark → FileTree
  | .ended _ => t
  | .wrote i =>
    match w i with
    | .ok (path, body) => (p.save t path body).1
    | .error _ => t

/-- The files after a history. -/
def replay (p : Plan) (w : Wish) (t : FileTree) (h : List Mark) : FileTree := h.foldl (p.record w) t

/-- The files as a unit finds them when it writes. -/
def found (p : Plan) (w : Wish) (t : FileTree) (h : List Mark) (i : Nat) : FileTree :=
  p.replay w t (h.takeWhile (· ≠ .wrote i))

/-- What comes of a unit: the error of its emission, the claim of another unit to its path, or what
its write comes to. -/
def verdict (p : Plan) (w : Wish) (t : FileTree) (h : List Mark) (i : Nat) : Result :=
  match w i with
  | .error e => .failed e
  | .ok (path, body) =>
    if w.owner h path = some i then (p.save (p.found w t h i) path body).2
    else .failed (.emission (.claimed path))

variable {p : Plan} {w : Wish} {t : FileTree} {h : List Mark} {path q : Path}
  {body content : RawText} {i : Nat}

/-- What a save puts into its file, if it gets there: the body with the override in it, or nothing
if there are no bytes for that. -/
def inscribed (p : Plan) (body : RawText) : Except Fault Text :=
  (Address.override p.recorded p.override body).map fun content => content.text?.getD []

theorem inscribed_of_ok (h : Address.override p.recorded p.override body = .ok content) :
    p.inscribed body = .ok (content.text?.getD []) := by rw [inscribed, h]; rfl

theorem fst_save (p : Plan) (t : FileTree) (path : Path) (body : RawText) :
    (p.save t path body).1 = match p.inscribed body with
      | .error _ => t
      | .ok text => (t.write path text).1 := by
  unfold save inscribed
  cases Address.override p.recorded p.override body with
  | error f => rfl
  | ok content =>
    have hfst := t.fst_writeRaw path content
    simp only [Except.map]
    split <;> rename_i hs <;> rw [← hfst, hs]

theorem snd_save (h : Address.override p.recorded p.override body = .ok content) (t : FileTree)
    (path : Path) : (p.save t path body).2 = match (t.write path (content.text?.getD [])).2 with
      | some e => .failed (.fault (.file e))
      | none => if content.text?.isSome then .written path
          else .failed (.fault (.notEncodable .content content)) := by
  have hsnd := t.snd_writeRaw path content
  unfold save
  simp only [h]
  cases hw : (t.write path (content.text?.getD [])).2 with
  | some e =>
    rw [hw] at hsnd
    split <;> rename_i hs <;> rw [hs] at hsnd <;> cases hsnd
    rfl
  | none =>
    rw [hw] at hsnd
    cases he : content.text?.isSome <;> simp only [he] at hsnd <;>
      split <;> rename_i hs <;> rw [hs] at hsnd <;> cases hsnd <;> rfl

theorem save_of_error {f : Fault} (h : Address.override p.recorded p.override body = .error f)
    (t : FileTree) (path : Path) : p.save t path body = (t, .failed (.fault f)) := by
  simp only [save, h]

theorem save_result (p : Plan) (t : FileTree) (path : Path) (body : RawText) :
    (p.save t path body).2 = .written path ∨ ∃ f, (p.save t path body).2 = .failed (.fault f) := by
  unfold save
  split
  · exact .inr ⟨_, rfl⟩
  · split
    · exact .inl rfl
    · exact .inr ⟨_, rfl⟩

theorem save_eq_written (h : (p.save t path body).2 = .written q) :
    path = q ∧ ∃ text : Text, Address.override p.recorded p.override body = .ok text ∧
      (t.write path text).2 = none ∧ (p.save t path body).1 = (t.write path text).1 := by
  cases ho : Address.override p.recorded p.override body with
  | error f =>
    rw [save_of_error ho] at h
    cases h
  | ok content =>
    rw [snd_save ho] at h
    split at h
    · cases h
    · rename_i hnone
      split at h
      · rename_i hsome
        cases h
        obtain ⟨text, htext⟩ := Option.isSome_iff_exists.1 hsome
        obtain rfl := RawText.text?_eq_some.1 htext
        rw [htext] at hnone
        exact ⟨rfl, text, rfl, hnone, by rw [fst_save, inscribed_of_ok ho, htext]; rfl⟩
      · cases h

theorem replay_append (p : Plan) (w : Wish) (t : FileTree) (h k : List Mark) :
    p.replay w t (h ++ k) = p.replay w (p.replay w t h) k := List.foldl_append

theorem record_wrote (hw : w i = .ok (path, body)) :
    p.record w t (.wrote i) = (p.save t path body).1 := by simp only [record, hw]

theorem verdict_of_error {e : UnitError} (hw : w i = .error e) :
    p.verdict w t h i = .failed e := by simp only [verdict, hw]

theorem verdict_of_owner (hw : w i = .ok (path, body)) (ho : w.owner h path = some i) :
    p.verdict w t h i = (p.save (p.found w t h i) path body).2 := by
  simp only [verdict, hw, if_pos ho]

theorem verdict_of_ne (hw : w i = .ok (path, body)) (ho : w.owner h path ≠ some i) :
    p.verdict w t h i = .failed (.emission (.claimed path)) := by
  simp only [verdict, hw, if_neg ho]

theorem found_of_not_mem (hm : .wrote i ∉ h) :
    p.found w t (h ++ [.wrote i]) i = p.replay w t h := by
  have hall : ∀ m ∈ h, decide (m ≠ Mark.wrote i) = true := by
    intro m hmem
    rw [decide_eq_true_eq]
    rintro rfl
    exact hm hmem
  rw [found, List.takeWhile_append_of_pos hall]
  simp

theorem found_append (hm : .wrote i ∈ h) (k : List Mark) :
    p.found w t (h ++ k) i = p.found w t h i := by
  obtain ⟨a, b, rfl⟩ := List.append_of_mem hm
  have key : ∀ c, (a ++ Mark.wrote i :: c).takeWhile (· ≠ Mark.wrote i) =
      a.takeWhile (· ≠ Mark.wrote i) := by
    intro c
    rw [List.takeWhile_append]
    split
    · rename_i hl
      rw [List.takeWhile_cons_of_neg (by simp), List.append_nil]
      exact (List.IsPrefix.eq_of_length (List.takeWhile_prefix _) hl).symm
    · rfl
  rw [found, found, List.append_assoc, List.cons_append, key, key]

/-- A verdict stands once the emission has ended and the file, if it may be written, is written. -/
theorem verdict_append (he : .ended i ∈ h)
    (hw : ∀ path body, w i = .ok (path, body) → w.owner h path = some i → .wrote i ∈ h)
    (k : List Mark) : p.verdict w t (h ++ k) i = p.verdict w t h i := by
  cases hi : w i with
  | error e => rw [verdict_of_error hi, verdict_of_error hi]
  | ok q =>
    obtain ⟨path, body⟩ := q
    obtain ⟨j, hj⟩ := Option.isSome_iff_exists.1 (Wish.isSome_owner he (Wish.asks_of_ok hi))
    have hjk := Wish.owner_append_of_some hj k
    by_cases hij : j = i
    · subst hij
      rw [verdict_of_owner hi hj, verdict_of_owner hi hjk, found_append (hw _ _ hi hj)]
    · have hne : ∀ o, o = some j → o ≠ some i := fun o ho => by simpa [ho] using hij
      rw [verdict_of_ne hi (hne _ hj), verdict_of_ne hi (hne _ hjk)]

end Plan

end TestScribe
