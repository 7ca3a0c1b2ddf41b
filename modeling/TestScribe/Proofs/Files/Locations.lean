import Mathlib.Data.List.Infix
import TestScribe.Proofs.Text.Lines
import TestScribe.Reference

/-!
Locations that written paths mean. A path is followed from a directory piece by piece, by its text
alone. The operating system is asked for each name on the way, so this goes wrong exactly if one of
them cannot be asked for (`follow_of_isAskable`, `follow_of_not_isNameable`). A location can be
written down and read again (`locationIn_toText`).
-/

namespace TestScribe

/-- Whether there are bytes for a text as the name of a file. -/
def RawText.IsNameable (t : RawText) : Prop := ∀ n, .surrogate n ∈ t → Encoding.name.fits n = true

theorem RawText.misfit?_name_eq_none_iff {t : RawText} : t.misfit? .name = none ↔ t.IsNameable :=
  misfit?_eq_none_iff

instance (t : RawText) : Decidable t.IsNameable :=
  decidable_of_iff (t.misfit? .name = none) RawText.misfit?_name_eq_none_iff

namespace RawLocation

/-- Where the pieces of a written path lead, one after another and by their text alone: nothing and
a dot mean the place that one is at, and two dots the one above it, if there is one. -/
def walk : RawLocation → List RawText → RawLocation
  | l, [] => l
  | l, part :: rest =>
    if part = [] ∨ part = [.char '.'] then walk l rest
    else if part = [.char '.', .char '.'] then walk l.dropLast rest
    else walk (l ++ [part]) rest

def locationIn (dir : RawLocation) (t : RawText) : RawLocation :=
  walk (if t.head? = some (.char '/') then [] else dir) (Text.split (.char '/') t)

def directoryOf (t : RawText) : RawLocation := (locationIn [] t).dropLast

structure IsEntry (part : RawText) : Prop where
  ne_nil : part ≠ []
  ne_dot : part ≠ [.char '.']
  ne_dots : part ≠ [.char '.', .char '.']
  whole : .char '/' ∉ part

structure IsAskable (name : RawText) : Prop where
  nameable : name.IsNameable
  no_nul : .char '\x00' ∉ name

variable {t part name : RawText} {parts : List RawText} {dir l m : RawLocation} {asked : Path}

theorem mem_walk (h : part ∈ walk l parts) : part ∈ l ∨ part ∈ parts := by
  induction parts generalizing l with
  | nil => exact .inl h
  | cons first rest ih =>
    unfold walk at h
    split at h
    · exact (ih h).imp_right (List.mem_cons_of_mem first)
    · split at h
      · exact (ih h).imp List.mem_of_mem_dropLast (List.mem_cons_of_mem first)
      · rcases ih h with hl | hrest
        · rcases List.mem_append.1 hl with hl | hfirst
          · exact .inl hl
          · exact .inr (List.mem_singleton.1 hfirst ▸ List.mem_cons_self)
        · exact .inr (List.mem_cons_of_mem first hrest)

theorem isEntry_of_mem_walk (hl : ∀ part ∈ l, IsEntry part)
    (hparts : ∀ part ∈ parts, .char '/' ∉ part)
    (h : part ∈ walk l parts) : IsEntry part := by
  induction parts generalizing l with
  | nil => exact hl part h
  | cons first rest ih =>
    obtain ⟨hfirst, hrest⟩ := List.forall_mem_cons.1 hparts
    unfold walk at h
    split at h
    · exact ih hl hrest h
    · rename_i hkept
      rw [not_or] at hkept
      split at h
      · exact ih (fun part hpart => hl part (List.mem_of_mem_dropLast hpart)) hrest h
      · rename_i hdots
        refine ih (fun part hpart => ?_) hrest h
        rcases List.mem_append.1 hpart with hpart | hpart
        · exact hl part hpart
        · rw [List.mem_singleton.1 hpart]
          exact ⟨hkept.1, hkept.2, hdots, hfirst⟩

theorem walk_of_isEntry (h : ∀ part ∈ parts, IsEntry part) (l : RawLocation) :
    walk l parts = l ++ parts := by
  induction parts generalizing l with
  | nil => rw [walk, List.append_nil]
  | cons first rest ih =>
    obtain ⟨hfirst, hrest⟩ := List.forall_mem_cons.1 h
    rw [walk, if_neg (not_or.2 ⟨hfirst.ne_nil, hfirst.ne_dot⟩), if_neg hfirst.ne_dots, ih hrest,
      List.append_assoc, List.singleton_append]

theorem isEntry_of_mem_locationIn (hdir : ∀ part ∈ dir, IsEntry part)
    (h : part ∈ locationIn dir t) : IsEntry part := by
  refine isEntry_of_mem_walk (fun part hpart => ?_) (fun part => Text.not_mem_of_mem_split) h
  split at hpart
  · cases hpart
  · exact hdir part hpart

theorem isEntry_of_mem_directoryOf (h : part ∈ directoryOf t) : IsEntry part :=
  isEntry_of_mem_locationIn (by simp) (List.mem_of_mem_dropLast h)

/-! A location that is written down. -/

theorem split_toText (h : ∀ part ∈ l, IsEntry part) :
    Text.split (.char '/') (toText l) = [] :: if l = [] then [[]] else l := by
  rw [toText, Text.split, if_pos rfl]
  split
  · rename_i hl
    rw [hl]
    rfl
  · rename_i hl
    rw [Text.split_join_of_not_mem hl fun part hpart => (h part hpart).whole]

theorem locationIn_toText (h : ∀ part ∈ l, IsEntry part) (dir : RawLocation) :
    locationIn dir (toText l) = l := by
  have hroot : (toText l).head? = some (.char '/') := rfl
  rw [locationIn, if_pos hroot, split_toText h, walk, if_pos (.inl rfl)]
  split
  · rename_i hl
    rw [hl]
    rfl
  · rw [walk_of_isEntry h, List.nil_append]

theorem toText_inj (hl : ∀ part ∈ l, IsEntry part) (hm : ∀ part ∈ m, IsEntry part) :
    toText l = toText m ↔ l = m := by
  refine ⟨fun h => ?_, fun h => by rw [h]⟩
  rw [← locationIn_toText hl [], h, locationIn_toText hm]

/-! Names that the system is asked for. -/

theorem refusal?_eq_none_iff : refusal? asked l name = none ↔ IsAskable name := by
  have hmisfit := RawText.misfit?_name_eq_none_iff (t := name)
  unfold refusal?
  cases hm : name.misfit? .name with
  | some m =>
    rw [hm] at hmisfit
    simp only [Option.isSome_some, if_true, reduceCtorEq, false_iff]
    exact fun h => nomatch hmisfit.2 h.nameable
  | none =>
    have hname := hmisfit.1 hm
    by_cases hnul : .char '\x00' ∈ name
    · simp only [Option.isSome_none, Bool.false_eq_true, if_false, List.contains_iff_mem.2 hnul,
        if_true, reduceCtorEq, false_iff]
      exact fun h => h.no_nul hnul
    · simp only [Option.isSome_none, Bool.false_eq_true, if_false, List.contains_iff_mem, hnul,
        true_iff]
      exact ⟨hname, hnul⟩

theorem refusal?_of_not_isNameable (h : ¬ name.IsNameable) :
    refusal? asked l name = some (.notEncodable .name (toText (l ++ [name]))) := by
  rw [refusal?, if_pos]
  rw [Option.isSome_iff_ne_none]
  exact fun hnone => h (RawText.misfit?_name_eq_none_iff.1 hnone)

theorem walk_cons (l : RawLocation) (part : RawText) (rest : List RawText) :
    walk l (part :: rest) = walk (walk l [part]) rest := by
  simp only [walk]
  split
  · rfl
  · split <;> rfl

theorem follow_cons_of_isAskable (h : IsAskable part) (asked : Path) (l : RawLocation)
    (rest : List RawText) : follow asked l (part :: rest) = follow asked (walk l [part]) rest := by
  rw [follow, refusal?_eq_none_iff.2 h]
  simp only [walk]
  split
  · rfl
  · split <;> rfl

/-- What the system cannot be asked for is the name of something. -/
theorem follow_cons_of_refusal? {f : Fault} (h : refusal? asked l part = some f)
    (rest : List RawText) : follow asked l (part :: rest) = .error f := by
  have hno : ¬ IsAskable part := fun hpart => by simp [refusal?_eq_none_iff.2 hpart] at h
  rw [follow, if_neg, if_neg, h]
  · rintro rfl
    exact hno ⟨by simp [RawText.IsNameable], by simp⟩
  · rintro (rfl | rfl) <;> exact hno ⟨by simp [RawText.IsNameable], by simp⟩

theorem follow_of_isAskable (h : ∀ part ∈ parts, IsAskable part) (asked : Path) (l : RawLocation) :
    follow asked l parts = .ok (walk l parts) := by
  induction parts generalizing l with
  | nil => rfl
  | cons first rest ih =>
    obtain ⟨hfirst, hrest⟩ := List.forall_mem_cons.1 h
    rw [follow_cons_of_isAskable hfirst, ih hrest, ← walk_cons]

/-- Following ends with an error at the first name that the system cannot be asked for. -/
theorem follow_eq_error_iff {f : Fault} : follow asked l parts = .error f ↔
    ∃ before part after, parts = before ++ part :: after ∧ (∀ p ∈ before, IsAskable p) ∧
      refusal? asked (walk l before) part = some f := by
  induction parts generalizing l with
  | nil => simp [follow]
  | cons first rest ih =>
    cases hfirst : refusal? asked l first with
    | some g =>
      rw [follow_cons_of_refusal? hfirst]
      constructor
      · rintro ⟨⟩
        exact ⟨[], first, rest, rfl, by simp, hfirst⟩
      · rintro ⟨before, part, after, hsplit, hbefore, hpart⟩
        cases before with
        | nil =>
          cases hsplit
          rw [walk, hfirst] at hpart
          rw [Option.some.inj hpart]
        | cons p before =>
          cases hsplit
          rw [refusal?_eq_none_iff.2 (hbefore first List.mem_cons_self)] at hfirst
          cases hfirst
    | none =>
      have haskable := refusal?_eq_none_iff.1 hfirst
      rw [follow_cons_of_isAskable haskable, ih]
      constructor
      · rintro ⟨before, part, after, rfl, hbefore, hpart⟩
        refine ⟨first :: before, part, after, rfl, List.forall_mem_cons.2 ⟨haskable, hbefore⟩, ?_⟩
        rwa [walk_cons]
      · rintro ⟨before, part, after, hsplit, hbefore, hpart⟩
        cases before with
        | nil =>
          cases hsplit
          rw [walk, hfirst] at hpart
          cases hpart
        | cons p before =>
          cases hsplit
          rw [walk_cons] at hpart
          exact ⟨before, part, after, rfl, (List.forall_mem_cons.1 hbefore).2, hpart⟩

theorem follow_of_not_isNameable (hnul : ∀ part ∈ parts, .char '\x00' ∉ part)
    (h : ∃ part ∈ parts, ¬ part.IsNameable) (asked : Path) (l : RawLocation) :
    ∃ u, follow asked l parts = .error (.notEncodable .name u) := by
  induction parts generalizing l with
  | nil =>
    obtain ⟨part, hpart, -⟩ := h
    cases hpart
  | cons first rest ih =>
    obtain ⟨hfirst, hrest⟩ := List.forall_mem_cons.1 hnul
    by_cases hname : first.IsNameable
    · have hlater : ∃ part ∈ rest, ¬ part.IsNameable := by
        obtain ⟨part, hpart, hno⟩ := h
        rcases List.mem_cons.1 hpart with rfl | hpart
        · exact absurd hname hno
        · exact ⟨part, hpart, hno⟩
      rw [follow_cons_of_isAskable ⟨hname, hfirst⟩]
      exact ih hrest hlater _
    · exact ⟨_, follow_cons_of_refusal? (refusal?_of_not_isNameable hname) rest⟩

theorem forall_isNameable_split :
    (∀ part ∈ Text.split (.char '/') t, RawText.IsNameable part) ↔ t.IsNameable := by
  refine ⟨fun h n hn => ?_, fun h part hpart n hn => h n (Text.mem_of_mem_split hpart hn)⟩
  rw [← Text.join_split (.char '/') t] at hn
  rcases Text.mem_of_mem_join hn with hslash | ⟨part, hpart, hn⟩
  · cases List.mem_singleton.1 hslash
  · exact h part hpart n hn

theorem isAskable_of_mem_split (hnul : .char '\x00' ∉ t) (ht : t.IsNameable)
    (h : part ∈ Text.split (.char '/') t) : IsAskable part :=
  ⟨forall_isNameable_split.2 ht part h, fun hmem => hnul (Text.mem_of_mem_split h hmem)⟩

theorem follow_split_of_isNameable (hnul : .char '\x00' ∉ t) (ht : t.IsNameable) (asked : Path)
    (l : RawLocation) :
    follow asked l (Text.split (.char '/') t) = .ok (walk l (Text.split (.char '/') t)) :=
  follow_of_isAskable (fun _ => isAskable_of_mem_split hnul ht) asked l

theorem follow_split_of_not_isNameable (hnul : .char '\x00' ∉ t) (ht : ¬ t.IsNameable)
    (asked : Path) (l : RawLocation) :
    ∃ u, follow asked l (Text.split (.char '/') t) = .error (.notEncodable .name u) := by
  have hparts : ∀ part ∈ Text.split (.char '/') t, .char '\x00' ∉ part :=
    fun part hpart hmem => hnul (Text.mem_of_mem_split hpart hmem)
  rw [← forall_isNameable_split] at ht
  push Not at ht
  exact follow_of_not_isNameable hparts ht asked l

/-- A path leads where it means to, if the system can be asked for it. -/
theorem find_of_isNameable (hnul : .char '\x00' ∉ t) (ht : t.IsNameable) (dir : RawLocation) :
    find dir t = .ok (locationIn dir t) := follow_split_of_isNameable hnul ht _ _

theorem find_of_not_isNameable (hnul : .char '\x00' ∉ t) (ht : ¬ t.IsNameable)
    (dir : RawLocation) : ∃ u, find dir t = .error (.notEncodable .name u) :=
  follow_split_of_not_isNameable hnul ht _ _

theorem isAskable_of_mem_locationIn (hdir : ∀ part ∈ dir, IsAskable part)
    (hnul : .char '\x00' ∉ t) (ht : t.IsNameable) (h : part ∈ locationIn dir t) :
    IsAskable part := by
  rcases mem_walk h with hstart | hmem
  · split at hstart
    · cases hstart
    · exact hdir part hstart
  · exact isAskable_of_mem_split hnul ht hmem

theorem isAskable_of_mem_directoryOf (hnul : .char '\x00' ∉ t) (ht : t.IsNameable)
    (h : part ∈ directoryOf t) : IsAskable part :=
  isAskable_of_mem_locationIn (by simp) hnul ht (List.mem_of_mem_dropLast h)

end RawLocation

end TestScribe
