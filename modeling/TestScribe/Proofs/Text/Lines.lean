import TestScribe.Proofs.Text.Trimming

/-!
Cutting texts that have been put together. What is cut where a mark was put in falls into the parts
of what was put together (`split_join`), and so into just that if there is no mark in it
(`split_join_of_not_mem`). Lines are the case in which the mark is the line feed.
-/

namespace TestScribe.Text

section

variable {α β : Type} {t l : List α} {ts : List (List α)}

theorem map_join (f : α → β) (mark : List α) (ts : List (List α)) :
    (join mark ts).map f = join (mark.map f) (ts.map (List.map f)) := by
  induction ts with
  | nil => rfl
  | cons t ts ih =>
    cases ts with
    | nil => rfl
    | cons u us =>
      rw [join_cons_of_ne_nil _ _ (List.cons_ne_nil u us), List.map_append, List.map_append, ih]
      rfl

theorem mem_of_mem_join {mark : List α} {c : α} (h : c ∈ join mark ts) :
    c ∈ mark ∨ ∃ t ∈ ts, c ∈ t := by
  induction ts with
  | nil => cases h
  | cons t ts ih =>
    by_cases hts : ts = []
    · rw [hts, join_singleton] at h
      exact .inr ⟨t, List.mem_cons_self, h⟩
    · rw [join_cons_of_ne_nil _ _ hts, List.mem_append, List.mem_append] at h
      rcases h with (h | h) | h
      · exact .inr ⟨t, List.mem_cons_self, h⟩
      · exact .inl h
      · exact (ih h).imp_right fun ⟨u, hu, hc⟩ => ⟨u, List.mem_cons_of_mem _ hu, hc⟩

theorem join_eq_nil_iff {mark : List α} (h : ∀ t ∈ ts, t ≠ []) : join mark ts = [] ↔ ts = [] := by
  refine ⟨fun hjoin => ?_, fun hts => by rw [hts, join_nil]⟩
  cases ts with
  | nil => rfl
  | cons t ts =>
    have ht := h t List.mem_cons_self
    cases ts with
    | nil => exact absurd hjoin ht
    | cons u us => simp [join, ht] at hjoin

variable [DecidableEq α] {mark : α}

theorem split_of_not_mem (h : mark ∉ t) : split mark t = [t] := by
  induction t with
  | nil => rfl
  | cons c r ih =>
    rw [List.mem_cons, not_or] at h
    rw [split, if_neg (Ne.symm h.1), ih h.2, List.modifyHead_cons]

theorem not_mem_of_mem_split (h : l ∈ split mark t) : mark ∉ l := by
  induction t generalizing l with
  | nil =>
    rw [List.mem_singleton.1 h]
    exact List.not_mem_nil
  | cons c r ih =>
    rw [split] at h
    split at h
    · rcases List.mem_cons.1 h with rfl | h
      · exact List.not_mem_nil
      · exact ih h
    · rename_i hc
      obtain ⟨q, qs, hq⟩ := List.exists_cons_of_ne_nil (split_ne_nil mark r)
      rw [hq, List.modifyHead_cons] at h
      rcases List.mem_cons.1 h with rfl | h
      · rw [List.mem_cons, not_or]
        exact ⟨Ne.symm hc, ih (hq ▸ List.mem_cons_self)⟩
      · exact ih (hq ▸ List.mem_cons_of_mem _ h)

theorem mem_of_mem_split {c : α} (h : l ∈ split mark t) (hc : c ∈ l) : c ∈ t := by
  induction t generalizing l with
  | nil =>
    rw [List.mem_singleton.1 h] at hc
    exact hc
  | cons d r ih =>
    rw [split] at h
    split at h
    · rcases List.mem_cons.1 h with rfl | h
      · cases hc
      · exact List.mem_cons_of_mem d (ih h hc)
    · obtain ⟨q, qs, hq⟩ := List.exists_cons_of_ne_nil (split_ne_nil mark r)
      rw [hq] at h ih
      rcases List.mem_cons.1 h with rfl | h
      · rcases List.mem_cons.1 hc with rfl | hc
        · exact List.mem_cons_self
        · exact List.mem_cons_of_mem d (ih List.mem_cons_self hc)
      · exact List.mem_cons_of_mem d (ih (List.mem_cons_of_mem q h) hc)

theorem split_map [DecidableEq β] {f : α → β} (hf : Function.Injective f) (mark : α) (t : List α) :
    split (f mark) (t.map f) = (split mark t).map (List.map f) := by
  induction t with
  | nil => rfl
  | cons c r ih =>
    rw [List.map_cons, split, split, ih]
    by_cases hc : c = mark
    · rw [if_pos hc, if_pos (congrArg f hc)]
      rfl
    · rw [if_neg hc, if_neg fun h => hc (hf h)]
      obtain ⟨q, qs, hq⟩ := List.exists_cons_of_ne_nil (split_ne_nil mark r)
      rw [hq]
      rfl

theorem split_append (mark : α) (s t : List α) :
    split mark (s ++ mark :: t) = split mark s ++ split mark t := by
  induction s with
  | nil => simp [split]
  | cons c s ih =>
    rw [List.cons_append, split, split, ih]
    split
    · rfl
    · obtain ⟨q, qs, hq⟩ := List.exists_cons_of_ne_nil (split_ne_nil mark s)
      rw [hq, List.cons_append, List.modifyHead_cons, List.modifyHead_cons, List.cons_append]

theorem split_join (mark : α) (h : ts ≠ []) :
    split mark (join [mark] ts) = ts.flatMap (split mark) := by
  induction ts with
  | nil => exact absurd rfl h
  | cons t ts ih =>
    cases ts with
    | nil => simp
    | cons u us =>
      rw [join_cons_of_ne_nil _ _ (List.cons_ne_nil u us), List.append_assoc,
        List.singleton_append, split_append, ih (List.cons_ne_nil u us)]
      rfl

theorem split_join_of_not_mem (h : ts ≠ []) (hts : ∀ t ∈ ts, mark ∉ t) :
    split mark (join [mark] ts) = ts := by
  rw [split_join mark h]
  clear h
  induction ts with
  | nil => rfl
  | cons t ts ih =>
    obtain ⟨ht, hts⟩ := List.forall_mem_cons.1 hts
    rw [List.flatMap_cons, split_of_not_mem ht, ih hts, List.singleton_append]

end

variable {l : Text} {ts : List Text}

theorem lines_unlines (h : ts ≠ []) : lines (unlines ts) = ts.flatMap lines := split_join '\n' h

theorem mem_lines_unlines (h : l ∈ ts) (hl : '\n' ∉ l) : l ∈ lines (unlines ts) := by
  rw [lines_unlines (List.ne_nil_of_mem h)]
  refine List.mem_flatMap.2 ⟨l, h, ?_⟩
  rw [lines, split_of_not_mem hl]
  exact List.mem_singleton_self l

theorem lines_unlines_of_not_mem (h : ts ≠ []) (hts : ∀ t ∈ ts, '\n' ∉ t) :
    lines (unlines ts) = ts := split_join_of_not_mem h hts

end TestScribe.Text
