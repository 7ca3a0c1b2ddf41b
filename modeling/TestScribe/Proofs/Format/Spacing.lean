import TestScribe.Proofs.Format.Layers

/-!
The blank lines of a file that is laid out. Lines that are not blank stay as they are, and so many
blank lines as there are between two of them stay there, up to the limit (`isSpaced_arrange`). A
file that is laid out has no more to lose, so to lay it out again changes nothing
(`format_normal_form`).
-/

namespace TestScribe

open Text (nonBlank)

namespace Text

theorem nonBlank_eq_nil_iff {ls : List Text} : nonBlank ls = [] ↔ ∀ l ∈ ls, allBlank l = true := by
  simp [nonBlank, List.filter_eq_nil_iff]

theorem exists_unlines_append_singleton (ls : List Text) (l : Text) :
    ∃ s, unlines (ls ++ [l]) = s ++ l := by
  induction ls with
  | nil => exact ⟨[], rfl⟩
  | cons m ls ih =>
    obtain ⟨s, hs⟩ := ih
    refine ⟨m ++ ['\n'] ++ s, ?_⟩
    have hrest : unlines (m :: (ls ++ [l])) = m ++ ['\n'] ++ unlines (ls ++ [l]) :=
      join_cons_of_ne_nil _ _ (List.append_ne_nil_of_right_ne_nil ls (List.cons_ne_nil l []))
    rw [List.cons_append, hrest, hs, List.append_assoc _ s l]

end Text

namespace Layout

variable {most blanks : Nat} {started : Bool} {ls ms out gap : List Text} {l m : Text}

/-- Whether lines are others without some of their blank lines: at most so many of them stay between
two lines that are not blank, and none before the first or behind the last. -/
structure IsSpaced (most : Nat) (ls out : List Text) : Prop where
  /-- The lines that are not blank are those that were there. -/
  shows : nonBlank out = nonBlank ls
  /-- The blank lines are empty. -/
  empty : ∀ l ∈ out, Text.allBlank l = true → l = []
  first : out.head? ≠ some []
  last : out.getLast? ≠ some []
  /-- Where blank lines were between two lines, there are as many as the limit lets through. -/
  gaps : ∀ before l gap m after, Text.allBlank l = false → Text.allBlank m = false →
    ls = before ++ l :: (List.replicate gap [] ++ m :: after) →
      ∃ before' after', out = before' ++ l :: (List.replicate (min gap most) [] ++ m :: after') ∧
        nonBlank before' = nonBlank before ∧ nonBlank after' = nonBlank after

theorem limit_replicate (most blanks gap : Nat) (ls : List Text) :
    limit most true blanks (List.replicate gap [] ++ ls) =
      List.replicate (min gap (most - blanks)) [] ++ limit most true (blanks + gap) ls := by
  induction gap generalizing blanks with
  | zero => simp
  | succ gap ih =>
    rw [List.replicate_succ, List.cons_append, limit, if_pos rfl, Bool.true_and, ih]
    have hsum : blanks + 1 + gap = blanks + (gap + 1) := by omega
    rw [hsum]
    by_cases hless : blanks < most
    · have hmin : min (gap + 1) (most - blanks) = min gap (most - (blanks + 1)) + 1 := by omega
      rw [decide_eq_true hless, if_pos rfl, hmin, List.replicate_succ, List.cons_append]
    · have hnone : min gap (most - (blanks + 1)) = 0 ∧ min (gap + 1) (most - blanks) = 0 := by omega
      rw [decide_eq_false hless, if_neg Bool.false_ne_true, hnone.1, hnone.2]

theorem ne_nil_of_allBlank (h : Text.allBlank l = false) : l ≠ [] := by
  rintro rfl
  cases h

theorem exists_limit_gap (hl : Text.allBlank l = false) (hm : Text.allBlank m = false)
    (most : Nat) (before after : List Text) (gap : Nat) :
    ∃ after', limit most false 0 (before ++ l :: (List.replicate gap [] ++ m :: after)) =
      limit most false 0 before ++ l :: (List.replicate (min gap most) [] ++ m :: after') ∧
      nonBlank after' = nonBlank after := by
  obtain ⟨started, blanks, heq⟩ := exists_limit_append most false 0 before
    (l :: (List.replicate gap [] ++ m :: after))
  refine ⟨limit most true 0 after, ?_, nonBlank_limit most true 0 after⟩
  rw [heq, limit_cons (ne_nil_of_allBlank hl), limit_replicate, limit_cons (ne_nil_of_allBlank hm),
    Nat.sub_zero]

theorem head?_limit_false (most : Nat) (ls : List Text) :
    (limit most false 0 ls).head? ≠ some [] := by
  induction ls with
  | nil => nofun
  | cons l ls ih =>
    by_cases h : l = []
    · rw [h, limit, if_pos rfl, Bool.false_and, if_neg Bool.false_ne_true, limit_false]
      exact ih
    · rw [limit_cons h, List.head?_cons]
      exact fun heq => h (Option.some.inj heq)

theorem dropEndWhile_append_cons (hm : m ≠ []) (before after : List Text) :
    Text.dropEndWhile List.isEmpty (before ++ m :: after) =
      before ++ m :: Text.dropEndWhile List.isEmpty after := by
  have hcons : Text.dropEndWhile List.isEmpty (m :: after) =
      m :: Text.dropEndWhile List.isEmpty after :=
    Text.dropEndWhile_cons_of_neg (List.isEmpty_eq_false_iff.2 hm) after
  rw [Text.dropEndWhile_append_of_ne_nil (by rw [hcons]; exact List.cons_ne_nil _ _), hcons]

theorem nonBlank_dropEndWhile (ls : List Text) :
    nonBlank (Text.dropEndWhile List.isEmpty ls) = nonBlank ls := by
  obtain ⟨gap, hgap, heq⟩ := exists_dropped ls
  have happend := congrArg nonBlank heq
  rw [Text.nonBlank_append, Text.nonBlank_eq_nil hgap, List.append_nil] at happend
  exact happend.symm

theorem isSpaced_arrange (most : Nat) (ls : List Text) :
    IsSpaced most (ls.map Text.trimEnd) (arrange most ls) where
  shows := nonBlank_arrange most ls
  empty := by
    intro l hl hblank
    obtain ⟨m, -, rfl⟩ := exists_of_mem_arrange hl
    have htrim : Text.trimEnd (Text.trimEnd m) = [] := Text.trimEnd_eq_nil_iff.2 hblank
    rwa [Text.trimEnd, Text.trimEnd, Text.dropEndWhile_dropEndWhile] at htrim
  first := by
    have hfirst := head?_limit_false most (ls.map Text.trimEnd)
    obtain ⟨gap, -, heq⟩ := exists_dropped (limit most false 0 (ls.map Text.trimEnd))
    rw [heq] at hfirst
    intro hnil
    rw [arrange] at hnil
    rw [List.head?_append, hnil] at hfirst
    exact hfirst rfl
  last := by
    intro hnil
    cases Text.getLast?_dropEndWhile hnil
  gaps := by
    intro before l gap m after hl hm hls
    obtain ⟨after', heq, hafter⟩ := exists_limit_gap hl hm most before after gap
    refine ⟨limit most false 0 before, Text.dropEndWhile List.isEmpty after', ?_,
      nonBlank_limit most false 0 before, (nonBlank_dropEndWhile after').trans hafter⟩
    rw [arrange, hls, heq, ← List.cons_append, ← List.append_assoc,
      dropEndWhile_append_cons (ne_nil_of_allBlank hm), List.append_assoc, List.cons_append]

theorem IsSpaced.eq_nil (h : IsSpaced most ls out) (hls : nonBlank ls = []) : out = [] := by
  have hblank : ∀ l ∈ out, Text.allBlank l = true :=
    Text.nonBlank_eq_nil_iff.1 (h.shows.trans hls)
  cases out with
  | nil => rfl
  | cons l out =>
    have hl : l = [] := h.empty l List.mem_cons_self (hblank l List.mem_cons_self)
    exact absurd (congrArg some hl) h.first

theorem IsSpaced.getLast?_unlines (h : IsSpaced most ls out) (hout : ∀ l ∈ out, '\n' ∉ l) :
    (Text.unlines out).getLast? ≠ some '\n' := by
  rcases List.eq_nil_or_concat out with rfl | ⟨before, l, rfl⟩
  · nofun
  · rw [List.concat_eq_append] at h hout
    obtain ⟨s, hs⟩ := Text.exists_unlines_append_singleton before l
    have hl : l ≠ [] := by
      rintro rfl
      exact h.last List.getLast?_concat
    rw [List.concat_eq_append, hs, List.getLast?_append, List.getLast?_eq_some_getLast hl,
      Option.some_or]
    intro hfeed
    have hmem : '\n' ∈ l := Option.some.inj hfeed ▸ List.getLast_mem hl
    exact hout l (List.mem_append_right before List.mem_cons_self) hmem

/-! ### Laying out again -/

theorem limit_of_le {blanks' : Nat} (h : most ≤ blanks) (h' : most ≤ blanks') (ls : List Text) :
    limit most true blanks ls = limit most true blanks' ls := by
  induction ls generalizing blanks blanks' with
  | nil => rfl
  | cons l ls ih =>
    by_cases hl : l = []
    · have hfull : decide (blanks < most) = false ∧ decide (blanks' < most) = false :=
        ⟨decide_eq_false (Nat.not_lt.2 h), decide_eq_false (Nat.not_lt.2 h')⟩
      simp only [limit, hl, if_true, hfull, Bool.and_false, Bool.false_eq_true, if_false]
      exact ih (Nat.le_succ_of_le h) (Nat.le_succ_of_le h')
    · rw [limit_cons hl, limit_cons hl]

theorem limit_limit (most : Nat) (started : Bool) (blanks : Nat) (ls : List Text) :
    limit most started blanks (limit most started blanks ls) = limit most started blanks ls := by
  induction ls generalizing started blanks with
  | nil => rfl
  | cons l ls ih =>
    by_cases hl : l = []
    · subst hl
      by_cases hkeep : (started && decide (blanks < most)) = true
      · have hcons : ∀ ms, limit most started blanks ([] :: ms) =
            [] :: limit most started (blanks + 1) ms := fun ms => by
          rw [limit, if_pos rfl, if_pos hkeep]
        rw [hcons, hcons, ih]
      · have hcons : ∀ ms, limit most started blanks ([] :: ms) =
            limit most started (blanks + 1) ms := fun ms => by
          rw [limit, if_pos rfl, if_neg hkeep]
        have hsame : ∀ ms, limit most started blanks ms = limit most started (blanks + 1) ms := by
          intro ms
          cases started with
          | false => rw [limit_false, limit_false most (blanks + 1)]
          | true =>
            have hfull : most ≤ blanks := by simpa using hkeep
            exact limit_of_le hfull (Nat.le_succ_of_le hfull) ms
        rw [hcons, hsame, ih]
    · rw [limit_cons hl, limit_cons hl, ih]

theorem arrange_append_of_blank (hgap : ∀ l ∈ gap, l = []) (ls : List Text) :
    arrange most (ls ++ gap) = arrange most ls := by
  obtain ⟨started, blanks, heq⟩ :=
    exists_limit_append most false 0 (ls.map Text.trimEnd) (gap.map Text.trimEnd)
  have hnone : Text.dropEndWhile List.isEmpty
      (limit most started blanks (gap.map Text.trimEnd)) = [] := by
    refine Text.dropEndWhile_eq_nil_iff.2 fun l hl => ?_
    obtain ⟨m, hm, rfl⟩ := List.mem_map.1 (mem_of_mem_limit hl)
    rw [hgap m hm]
    rfl
  rw [arrange, List.map_append, heq, Text.dropEndWhile_append_of_eq_nil hnone, arrange]

theorem arrange_arrange (most : Nat) (ls : List Text) :
    arrange most (arrange most ls) = arrange most ls := by
  obtain ⟨gap, hgap, heq⟩ := exists_dropped (limit most false 0 (ls.map Text.trimEnd))
  have htrim : (limit most false 0 (ls.map Text.trimEnd)).map Text.trimEnd =
      limit most false 0 (ls.map Text.trimEnd) := by
    refine (List.map_congr_left fun l hl => ?_).trans (List.map_id _)
    obtain ⟨m, -, rfl⟩ := List.mem_map.1 (mem_of_mem_limit hl)
    exact Text.dropEndWhile_dropEndWhile _ m
  calc arrange most (arrange most ls) = arrange most (arrange most ls ++ gap) :=
        (arrange_append_of_blank hgap _).symm
    _ = arrange most (limit most false 0 (ls.map Text.trimEnd)) :=
        congrArg (arrange most) heq.symm
    _ = arrange most ls := by rw [arrange, htrim, limit_limit, arrange]

/-- A file that has been laid out stays as it is. -/
theorem format_format (language code : Text) :
    format language (format language code) = format language code := by
  obtain ⟨gap, hgap, hlines⟩ := lines_format language code
  rw [format, hlines, arrange_append_of_blank hgap, arrange_arrange, format]

/-- The normal form of a file. It ends in one line feed; its lines are those of the code that are
not blank, without the blanks at their ends and spaced as the language has it; if there are none, it
is only that line feed; and laid out again it stays as it is. -/
theorem format_normal_form (language code : Text) :
    ∃ out, format language code = Text.unlines out ++ ['\n'] ∧
      (∀ l ∈ out, '\n' ∉ l) ∧ (Text.unlines out).getLast? ≠ some '\n' ∧
      IsSpaced (if language = "python".toList ∨ language = "ruby".toList then 2 else 1)
        ((Text.lines code).map Text.trimEnd) out ∧
      (nonBlank ((Text.lines code).map Text.trimEnd) = [] → format language code = ['\n']) ∧
      format language (format language code) = format language code := by
  have hlimit : (if language = "python".toList ∨ language = "ruby".toList then 2 else 1) =
      blankLimit language := by
    simp [blankLimit, isIndented]
  have hspaced := isSpaced_arrange (blankLimit language) (Text.lines code)
  have hout : ∀ l ∈ arrange (blankLimit language) (Text.lines code), '\n' ∉ l :=
    fun _ => not_mem_of_mem_arrange
  refine ⟨_, rfl, hout, hspaced.getLast?_unlines hout, hlimit ▸ hspaced, fun hnone => ?_,
    format_format language code⟩
  rw [format, hspaced.eq_nil hnone]
  rfl

example : format "python" "\n\na \n\n\n\nb\n \nc\n\n" = "a\n\n\nb\n\nc\n" := by decide +kernel

end Layout

end TestScribe
