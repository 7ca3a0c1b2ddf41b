import TestScribe.Text.Blank

/-!
What trimming leaves of a text: nothing new, and all but a blank end (`exists_dropEndWhile_append`).
Blanks put at the end of a text are trimmed off again.
-/

namespace TestScribe.Text

variable {α : Type} {p : α → Bool} {s t : List α} {c : α}

theorem mem_of_mem_dropEndWhile (h : c ∈ dropEndWhile p t) : c ∈ t := by
  induction t with
  | nil => exact h
  | cons d r ih =>
    unfold dropEndWhile at h
    split at h
    · split at h
      · cases h
      · exact List.mem_cons.2 (.inl (List.mem_singleton.1 h))
    · rename_i e s hrest
      rcases List.mem_cons.1 h with rfl | h
      · exact List.mem_cons_self
      · exact List.mem_cons_of_mem _ (ih (hrest ▸ h))

theorem mem_of_mem_dropAroundWhile {p : Char → Bool} {t : Text} {c : Char}
    (h : c ∈ dropAroundWhile p t) : c ∈ t :=
  (List.dropWhile_sublist p).subset (mem_of_mem_dropEndWhile h)

theorem dropEndWhile_cons_of_neg (h : p c = false) (t : List α) :
    dropEndWhile p (c :: t) = c :: dropEndWhile p t := by
  rw [dropEndWhile]
  split
  · rename_i hnil
    rw [hnil, h]
    rfl
  · rename_i hcons
    rw [hcons]

theorem dropEndWhile_of_forall (h : ∀ c ∈ t, p c = false) : dropEndWhile p t = t := by
  induction t with
  | nil => rfl
  | cons c r ih =>
    obtain ⟨hc, hr⟩ := List.forall_mem_cons.1 h
    rw [dropEndWhile_cons_of_neg hc, ih hr]

theorem dropEndWhile_append_singleton (h : p c = true) (t : List α) :
    dropEndWhile p (t ++ [c]) = dropEndWhile p t := by
  induction t with
  | nil => simp [dropEndWhile, h]
  | cons d r ih => rw [List.cons_append, dropEndWhile, ih, dropEndWhile]

theorem exists_dropEndWhile_append (p : α → Bool) (t : List α) :
    ∃ s, t = dropEndWhile p t ++ s ∧ ∀ c ∈ s, p c = true := by
  induction t with
  | nil => exact ⟨[], rfl, by simp⟩
  | cons d r ih =>
    obtain ⟨s, hs, hblank⟩ := ih
    cases hd : p d with
    | false => exact ⟨s, by rw [dropEndWhile_cons_of_neg hd, List.cons_append, ← hs], hblank⟩
    | true =>
      cases hr : dropEndWhile p r with
      | nil =>
        refine ⟨d :: r, by simp [dropEndWhile, hr, hd], fun c hc => ?_⟩
        rcases List.mem_cons.1 hc with rfl | hc
        · exact hd
        · exact dropEndWhile_eq_nil_iff.1 hr c hc
      | cons e q =>
        rw [hr] at hs
        refine ⟨s, ?_, hblank⟩
        rw [dropEndWhile, hr]
        exact congrArg (d :: ·) hs

theorem dropEndWhile_append_of_eq_nil (h : dropEndWhile p t = []) :
    dropEndWhile p (s ++ t) = dropEndWhile p s := by
  induction s with
  | nil => rw [List.nil_append, h, dropEndWhile]
  | cons d r ih => rw [List.cons_append, dropEndWhile, ih, dropEndWhile]

@[simp] theorem dropEndWhile_dropEndWhile (p : α → Bool) (t : List α) :
    dropEndWhile p (dropEndWhile p t) = dropEndWhile p t := by
  obtain ⟨s, ht, hs⟩ := exists_dropEndWhile_append p t
  have hdrop := congrArg (dropEndWhile p) ht
  rw [dropEndWhile_append_of_eq_nil (dropEndWhile_eq_nil_iff.2 hs)] at hdrop
  exact hdrop.symm

theorem dropEndWhile_append_of_ne_nil (h : dropEndWhile p t ≠ []) :
    dropEndWhile p (s ++ t) = s ++ dropEndWhile p t := by
  induction s with
  | nil => rfl
  | cons d r ih =>
    obtain ⟨e, q, hq⟩ := List.exists_cons_of_ne_nil (List.append_ne_nil_of_right_ne_nil r h)
    rw [List.cons_append, dropEndWhile, ih, hq, List.cons_append, hq]

theorem dropEndWhile_map {f : α → α} {q : α → Bool} (h : ∀ c, q (f c) = p c) (t : List α) :
    dropEndWhile q (t.map f) = (dropEndWhile p t).map f := by
  induction t with
  | nil => rfl
  | cons c r ih =>
    rw [List.map_cons, dropEndWhile, ih, h, dropEndWhile]
    cases dropEndWhile p r with
    | nil => cases p c <;> rfl
    | cons d s => rfl

theorem dropEndWhile_dropWhile (p : α → Bool) (t : List α) :
    dropEndWhile p (t.dropWhile p) = (dropEndWhile p t).dropWhile p := by
  induction t with
  | nil => rfl
  | cons c r ih =>
    cases hc : p c with
    | false => simp [hc, dropEndWhile_cons_of_neg hc]
    | true =>
      rw [List.dropWhile_cons_of_pos hc, ih, dropEndWhile]
      cases dropEndWhile p r with
      | nil => simp [hc]
      | cons d s => simp [hc]

theorem dropAroundWhile_map {f : Char → Char} {p q : Char → Bool} (h : ∀ c, q (f c) = p c)
    (t : Text) : dropAroundWhile q (t.map f) = (dropAroundWhile p t).map f := by
  have hcomp : q ∘ f = p := funext h
  rw [dropAroundWhile, List.dropWhile_map, hcomp, dropEndWhile_map h, dropAroundWhile]

theorem trim_trimEnd (t : Text) : trim (trimEnd t) = trim t := by
  rw [trim, trimEnd, dropAroundWhile, ← dropEndWhile_dropWhile, dropEndWhile_dropEndWhile, trim,
    dropAroundWhile]

theorem trim_append_singleton {c : Char} (h : isBlank c = true) (t : Text) :
    trim (t ++ [c]) = trim t := by
  rw [trim, dropAroundWhile, List.dropWhile_append]
  split
  · rename_i hnil
    rw [List.isEmpty_iff] at hnil
    simp [trim, dropAroundWhile, hnil, h, dropEndWhile]
  · rw [dropEndWhile_append_singleton h, trim, dropAroundWhile]

end TestScribe.Text
