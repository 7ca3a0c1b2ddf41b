import TestScribe.Layout
import TestScribe.Proofs.Text.Lines

/-!
Laying out a file part by part. The layout only drops blanks and blank lines, so a file that is laid
out as a whole shows what its parts show (`nonBlank_arrange`); and blank lines are counted from the
last other line on, so each part stands in the file as if it were laid out alone, with blank lines
between the parts (`layered_arrange`).
-/

namespace TestScribe

namespace Text

def nonBlank (ls : List Text) : List Text := ls.filter fun l => !allBlank l

@[simp] theorem nonBlank_nil : nonBlank [] = [] := rfl

@[simp] theorem nonBlank_append (ls ms : List Text) :
    nonBlank (ls ++ ms) = nonBlank ls ++ nonBlank ms := List.filter_append ls ms

theorem nonBlank_eq_nil {ls : List Text} (h : ∀ l ∈ ls, l = []) : nonBlank ls = [] := by
  refine List.filter_eq_nil_iff.2 fun l hl => ?_
  rw [h l hl]
  decide

/-- What a text shows: the lines that are not blank, without the blanks at their ends. -/
def shown (t : Text) : List Text := nonBlank ((lines t).map trimEnd)

theorem shown_unlines {ts : List Text} (h : ts ≠ []) : shown (unlines ts) = ts.flatMap shown := by
  unfold shown
  rw [lines_unlines h]
  clear h
  induction ts with
  | nil => rfl
  | cons t ts ih =>
    rw [List.flatMap_cons, List.map_append, nonBlank_append, ih, List.flatMap_cons]

end Text

open Text (nonBlank)

/-- Whether lines are parts one after another, with blank lines at most before, between and after
them. -/
inductive Layered : List (List Text) → List Text → Prop
  | done {gap : List Text} (hgap : ∀ l ∈ gap, l = []) : Layered [] gap
  | part {gap part ls : List Text} {parts : List (List Text)} (hgap : ∀ l ∈ gap, l = [])
    (hrest : Layered parts ls) : Layered (part :: parts) (gap ++ part ++ ls)

namespace Layered

variable {ls gap : List Text} {parts : List (List Text)}

theorem append_left (hgap : ∀ l ∈ gap, l = []) (h : Layered parts ls) :
    Layered parts (gap ++ ls) := by
  cases h with
  | done hnone =>
    refine .done fun l hl => ?_
    rcases List.mem_append.1 hl with hl | hl
    · exact hgap l hl
    · exact hnone l hl
  | part hbefore hrest =>
    rw [← List.append_assoc, ← List.append_assoc]
    refine .part (fun l hl => ?_) hrest
    rcases List.mem_append.1 hl with hl | hl
    · exact hgap l hl
    · exact hbefore l hl

theorem append_right (hgap : ∀ l ∈ gap, l = []) (h : Layered parts ls) :
    Layered parts (ls ++ gap) := by
  induction h with
  | done hnone =>
    refine .done fun l hl => ?_
    rcases List.mem_append.1 hl with hl | hl
    · exact hnone l hl
    · exact hgap l hl
  | part hbefore _ ih =>
    rw [List.append_assoc]
    exact .part hbefore ih

theorem nonBlank_eq (h : Layered parts ls) : nonBlank ls = parts.flatMap nonBlank := by
  induction h with
  | done hgap => rw [Text.nonBlank_eq_nil hgap, List.flatMap_nil]
  | part hgap _ ih =>
    rw [Text.nonBlank_append, Text.nonBlank_append, Text.nonBlank_eq_nil hgap, List.nil_append, ih,
      List.flatMap_cons]

theorem dropEndWhile (h : Layered parts ls)
    (hparts : ∀ p ∈ parts, Text.dropEndWhile List.isEmpty p = p) :
    Layered parts (Text.dropEndWhile List.isEmpty ls) := by
  have hblank : ∀ {gap : List Text}, (∀ l ∈ gap, l = []) →
      Text.dropEndWhile List.isEmpty gap = [] := fun hgap =>
    Text.dropEndWhile_eq_nil_iff.2 fun l hl => List.isEmpty_iff.2 (hgap l hl)
  induction h with
  | done hgap =>
    rw [hblank hgap]
    exact .done (by simp)
  | @part gap part ls parts hgap hrest ih =>
    obtain ⟨hpart, hparts⟩ := List.forall_mem_cons.1 hparts
    have hrest := ih hparts
    by_cases hls : Text.dropEndWhile List.isEmpty ls = []
    · rw [Text.dropEndWhile_append_of_eq_nil hls]
      rw [hls] at hrest
      by_cases hp : part = []
      · rw [hp, List.append_nil, hblank hgap]
        exact @Layered.part [] _ _ _ (by simp) hrest
      · rw [Text.dropEndWhile_append_of_ne_nil (by rwa [hpart]), hpart,
          ← List.append_nil (gap ++ part)]
        exact .part hgap hrest
    · rw [Text.dropEndWhile_append_of_ne_nil hls]
      exact .part hgap hrest

end Layered

namespace Layout

variable {most blanks : Nat} {started : Bool} {ls ms : List Text}

theorem limit_cons_nil (most : Nat) (started : Bool) (blanks : Nat) (ls : List Text) :
    ∃ gap, (∀ l ∈ gap, l = []) ∧
      limit most started blanks ([] :: ls) = gap ++ limit most started (blanks + 1) ls := by
  rw [limit, if_pos rfl]
  split
  · exact ⟨[[]], by simp, rfl⟩
  · exact ⟨[], by simp, rfl⟩

theorem limit_cons {l : Text} (h : l ≠ []) (most : Nat) (started : Bool) (blanks : Nat)
    (ls : List Text) : limit most started blanks (l :: ls) = l :: limit most true 0 ls := by
  rw [limit, if_neg h]

theorem mem_of_mem_limit {l : Text} (h : l ∈ limit most started blanks ls) : l ∈ ls := by
  induction ls generalizing started blanks with
  | nil => exact h
  | cons m ls ih =>
    by_cases hm : m = []
    · subst hm
      rw [limit, if_pos rfl] at h
      split at h
      · exact (List.mem_cons.1 h).elim (fun h => h ▸ List.mem_cons_self)
          fun h => List.mem_cons_of_mem _ (ih h)
      · exact List.mem_cons_of_mem _ (ih h)
    · rw [limit_cons hm] at h
      exact (List.mem_cons.1 h).elim (fun h => h ▸ List.mem_cons_self)
        fun h => List.mem_cons_of_mem _ (ih h)

theorem limit_false (most blanks : Nat) (ls : List Text) :
    limit most false blanks ls = limit most false 0 ls := by
  induction ls generalizing blanks with
  | nil => rfl
  | cons l ls ih =>
    by_cases h : l = []
    · subst h
      simp only [limit, ↓reduceIte, Bool.false_and, Bool.false_eq_true]
      rw [ih, ih 1]
    · rw [limit_cons h, limit_cons h]

/-- Lines after others are laid out as they are alone, but for blank lines before them. -/
theorem exists_gap (most : Nat) (started : Bool) (blanks : Nat) (ls : List Text) :
    ∃ gap, (∀ l ∈ gap, l = []) ∧ limit most started blanks ls = gap ++ limit most false 0 ls := by
  induction ls generalizing blanks with
  | nil => exact ⟨[], by simp, rfl⟩
  | cons l ls ih =>
    by_cases h : l = []
    · subst h
      obtain ⟨first, hfirst, heq⟩ := limit_cons_nil most started blanks ls
      obtain ⟨gap, hgap, hrest⟩ := ih (blanks + 1)
      have halone : limit most false 0 ([] :: ls) = limit most false 0 ls := by
        rw [limit, if_pos rfl, Bool.false_and, if_neg Bool.false_ne_true, limit_false]
      refine ⟨first ++ gap, fun l hl => ?_, by rw [heq, hrest, halone, List.append_assoc]⟩
      rcases List.mem_append.1 hl with hl | hl
      · exact hfirst l hl
      · exact hgap l hl
    · exact ⟨[], by simp, by rw [limit_cons h, limit_cons h, List.nil_append]⟩

theorem exists_limit_append (most : Nat) (started : Bool) (blanks : Nat) (ls ms : List Text) :
    ∃ started' blanks', limit most started blanks (ls ++ ms) =
      limit most started blanks ls ++ limit most started' blanks' ms := by
  induction ls generalizing started blanks with
  | nil => exact ⟨started, blanks, rfl⟩
  | cons l ls ih =>
    by_cases h : l = []
    · subst h
      obtain ⟨started', blanks', heq⟩ := ih started (blanks + 1)
      refine ⟨started', blanks', ?_⟩
      simp only [List.cons_append, limit, ↓reduceIte, heq]
      split <;> rfl
    · obtain ⟨started', blanks', heq⟩ := ih true 0
      refine ⟨started', blanks', ?_⟩
      rw [List.cons_append, limit_cons h, limit_cons h, heq, List.cons_append]

theorem nonBlank_limit (most : Nat) (started : Bool) (blanks : Nat) (ls : List Text) :
    nonBlank (limit most started blanks ls) = nonBlank ls := by
  induction ls generalizing started blanks with
  | nil => rfl
  | cons l ls ih =>
    by_cases h : l = []
    · subst h
      obtain ⟨gap, hgap, heq⟩ := limit_cons_nil most started blanks ls
      rw [heq, Text.nonBlank_append, Text.nonBlank_eq_nil hgap, ih]
      rfl
    · rw [limit_cons h, ← List.singleton_append, Text.nonBlank_append, ih, ← Text.nonBlank_append,
        List.singleton_append]

theorem exists_dropped (ls : List Text) : ∃ gap, (∀ l ∈ gap, l = []) ∧
    ls = Text.dropEndWhile List.isEmpty ls ++ gap := by
  obtain ⟨gap, hls, hgap⟩ := Text.exists_dropEndWhile_append List.isEmpty ls
  exact ⟨gap, fun l hl => List.isEmpty_iff.1 (hgap l hl), hls⟩

theorem nonBlank_arrange (most : Nat) (ls : List Text) :
    nonBlank (arrange most ls) = nonBlank (ls.map Text.trimEnd) := by
  obtain ⟨gap, hgap, heq⟩ := exists_dropped (limit most false 0 (ls.map Text.trimEnd))
  have hlimit := nonBlank_limit most false 0 (ls.map Text.trimEnd)
  rw [heq, Text.nonBlank_append, Text.nonBlank_eq_nil hgap, List.append_nil] at hlimit
  exact hlimit

theorem exists_of_mem_arrange {l : Text} (h : l ∈ arrange most ls) :
    ∃ m ∈ ls, Text.trimEnd m = l :=
  List.mem_map.1 (mem_of_mem_limit (Text.mem_of_mem_dropEndWhile h))

theorem layered_limit (most : Nat) (started : Bool) (blanks : Nat) (parts : List (List Text)) :
    Layered (parts.map fun p => Text.dropEndWhile List.isEmpty (limit most false 0 p))
      (limit most started blanks parts.flatten) := by
  induction parts generalizing started blanks with
  | nil => exact .done (by simp [limit])
  | cons p parts ih =>
    obtain ⟨started', blanks', heq⟩ := exists_limit_append most started blanks p parts.flatten
    obtain ⟨before, hbefore, hp⟩ := exists_gap most started blanks p
    obtain ⟨after, hafter, halone⟩ := exists_dropped (limit most false 0 p)
    rw [List.flatten_cons, heq, hp, halone, List.map_cons, ← List.append_assoc, List.append_assoc]
    exact .part hbefore ((ih started' blanks').append_left hafter)

/-- Parts that are laid out together stand as they do alone, with blank lines between them. -/
theorem layered_arrange (most : Nat) (parts : List (List Text)) :
    Layered (parts.map (arrange most)) (arrange most parts.flatten) := by
  have h := (layered_limit most false 0 (parts.map fun p => p.map Text.trimEnd)).dropEndWhile (by
    intro p hp
    obtain ⟨q, -, rfl⟩ := List.mem_map.1 hp
    exact Text.dropEndWhile_dropEndWhile _ _)
  rw [List.map_map, ← List.map_flatten] at h
  exact h

theorem not_mem_of_mem_arrange {most : Nat} {t l : Text} (h : l ∈ arrange most (Text.lines t)) :
    '\n' ∉ l := by
  obtain ⟨m, hm, rfl⟩ := exists_of_mem_arrange h
  exact fun hfeed => Text.not_mem_of_mem_split hm (Text.mem_of_mem_dropEndWhile hfeed)

theorem lines_format (language code : Text) : ∃ gap, (∀ l ∈ gap, l = []) ∧
    Text.lines (format language code) =
      arrange (blankLimit language) (Text.lines code) ++ gap := by
  rw [format, Text.lines, Text.split_append]
  by_cases hnil : arrange (blankLimit language) (Text.lines code) = []
  · exact ⟨[[], []], by simp, by rw [hnil]; rfl⟩
  · refine ⟨[[]], by simp, ?_⟩
    exact congrArg (· ++ [[]])
      (Text.lines_unlines_of_not_mem hnil fun _ => not_mem_of_mem_arrange)

theorem trimEnd_of_mem_lines_format {language code l : Text}
    (h : l ∈ Text.lines (format language code)) : Text.trimEnd l = l := by
  obtain ⟨gap, hgap, hlines⟩ := lines_format language code
  rw [hlines] at h
  rcases List.mem_append.1 h with h | h
  · obtain ⟨m, -, rfl⟩ := exists_of_mem_arrange h
    exact Text.dropEndWhile_dropEndWhile _ _
  · rw [hgap l h]
    rfl

end Layout

end TestScribe
