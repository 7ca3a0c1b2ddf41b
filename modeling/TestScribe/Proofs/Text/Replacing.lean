import Mathlib.Data.List.Infix
import TestScribe.Address

/-!
Replacing one text by another. What is replaced is found from the left (`pieces_of_isLeftmost`), so
replacing goes through a text piece by piece (`replace_append_left`, `replace_cons`), and a
character that is not in the replaced text cuts the search in two (`replace_append_cons`). A text
stays as it is only if there is nothing to replace in it, or if it is replaced by itself
(`replace_eq_self_iff`).
-/

namespace TestScribe.Text

variable {α β : Type} {old new s t : List α} {c : α}

theorem length_join (mark : List α) {ts : List (List α)} (h : ts ≠ []) :
    (join mark ts).length + mark.length = ts.flatten.length + ts.length * mark.length := by
  induction ts with
  | nil => exact absurd rfl h
  | cons t ts ih =>
    by_cases hts : ts = []
    · simp [hts]
    · have hrest := ih hts
      rw [join_cons_of_ne_nil _ _ hts, List.flatten_cons, List.length_append, List.length_append,
        List.length_append, List.length_cons, Nat.add_one_mul]
      omega

theorem join_map (f : α → β) (mark : List α) (ts : List (List α)) :
    join (mark.map f) (ts.map (List.map f)) = (join mark ts).map f := by
  induction ts with
  | nil => rfl
  | cons t ts ih =>
    by_cases hts : ts = []
    · subst hts
      rfl
    · rw [List.map_cons, join_cons_of_ne_nil _ _ (by simpa using hts), ih,
        join_cons_of_ne_nil _ _ hts, List.map_append, List.map_append]

theorem prefix_append_cons_iff (h : c ∉ old) : old <+: s ++ c :: t ↔ old <+: s := by
  refine ⟨fun hstart => ?_, fun hstart => hstart.trans (List.prefix_append s _)⟩
  rcases List.prefix_or_prefix_of_prefix hstart (List.prefix_append s (c :: t)) with hs | hs
  · exact hs
  · obtain ⟨u, rfl⟩ := hs
    rw [List.prefix_append_right_inj] at hstart
    cases u with
    | nil => simp
    | cons d u =>
      obtain ⟨rfl, -⟩ := List.cons_prefix_cons.1 hstart
      simp at h

/-- Whether what stands between two texts is found first just there. -/
def IsLeftmost (mark s t : List α) : Prop :=
  ∀ u v, s ++ mark ++ t = u ++ mark ++ v → s.length ≤ u.length

theorem exists_isLeftmost (h : old <:+: t) : ∃ u v, t = u ++ old ++ v ∧ IsLeftmost old u v := by
  induction t with
  | nil => exact ⟨[], [], by rw [List.infix_nil.1 h]; rfl, fun u _ _ => Nat.zero_le u.length⟩
  | cons c r ih =>
    by_cases hstart : old <+: c :: r
    · obtain ⟨v, hv⟩ := hstart
      exact ⟨[], v, hv.symm, fun u _ _ => Nat.zero_le u.length⟩
    · obtain ⟨u, v, rfl, hleft⟩ := ih ((List.infix_cons_iff.1 h).resolve_left hstart)
      refine ⟨c :: u, v, rfl, fun x y hxy => ?_⟩
      cases x with
      | nil =>
        rw [List.nil_append] at hxy
        exact absurd ⟨y, hxy.symm⟩ hstart
      | cons d x =>
        obtain ⟨-, hrest⟩ := List.cons.inj hxy
        exact Nat.succ_le_succ (hleft x y hrest)

variable [DecidableEq α]

theorem pieces_ne_nil (mark t : List α) : pieces mark t ≠ [] := piecesFrom_ne_nil mark 0 t

theorem piecesFrom_eq_pieces_drop (mark : List α) (k : Nat) (t : List α) :
    piecesFrom mark k t = pieces mark (t.drop k) := by
  induction t generalizing k with
  | nil => simp [pieces, piecesFrom]
  | cons c r ih =>
    cases k with
    | zero => rfl
    | succ k => exact ih k

theorem pieces_append_left (hold : old ≠ []) (t : List α) :
    pieces old (old ++ t) = [] :: pieces old t := by
  obtain ⟨c, r, rfl⟩ := List.exists_cons_of_ne_nil hold
  have hstart : (c :: r).isPrefixOf (c :: (r ++ t)) = true :=
    List.isPrefixOf_iff_prefix.2 (List.prefix_append (c :: r) t)
  rw [pieces, List.cons_append, piecesFrom, if_pos hstart, piecesFrom_eq_pieces_drop]
  simp

theorem pieces_cons (h : ¬ old <+: c :: t) :
    pieces old (c :: t) = (pieces old t).modifyHead (c :: ·) := by
  rw [pieces, piecesFrom, if_neg (by rwa [List.isPrefixOf_iff_prefix]), pieces]

theorem pieces_eq_singleton (h : ¬ old <:+: t) : pieces old t = [t] := by
  induction t with
  | nil => rfl
  | cons c r ih =>
    rw [List.infix_cons_iff, not_or] at h
    rw [pieces_cons h.1, ih h.2, List.modifyHead_cons]

theorem pieces_of_isLeftmost (hold : old ≠ []) (h : IsLeftmost old s t) :
    pieces old (s ++ old ++ t) = s :: pieces old t := by
  induction s with
  | nil => exact pieces_append_left hold t
  | cons c s ih =>
    have hstart : ¬ old <+: c :: (s ++ old ++ t) := by
      rintro ⟨v, hv⟩
      exact absurd (h [] v hv.symm) (by simp)
    have hrest : IsLeftmost old s t := fun u v huv =>
      Nat.le_of_succ_le_succ (h (c :: u) v (congrArg (c :: ·) huv))
    rw [List.cons_append, List.cons_append, pieces_cons hstart, ih hrest, List.modifyHead_cons]

@[simp] theorem replace_nil (old new : List α) : replace old new [] = [] := rfl

theorem replace_append_left (hold : old ≠ []) (new t : List α) :
    replace old new (old ++ t) = new ++ replace old new t := by
  rw [replace, pieces_append_left hold,
    join_cons_of_ne_nil _ _ (pieces_ne_nil old t), List.nil_append, replace]

theorem replace_cons (h : ¬ old <+: c :: t) (new : List α) :
    replace old new (c :: t) = c :: replace old new t := by
  rw [replace, pieces_cons h, join_modifyHead _ _ (pieces_ne_nil old t), replace]

theorem replace_of_not_infix (h : ¬ old <:+: t) (new : List α) : replace old new t = t := by
  rw [replace, pieces_eq_singleton h, join_singleton]

/-- Replacing leaves a text as it is only if nothing is found, or if what is put in is what was
there: a replacement of another length would change the length of the text. -/
theorem replace_eq_self_iff (hold : old ≠ []) :
    replace old new t = t ↔ old = new ∨ ¬ old <:+: t := by
  constructor
  · intro h
    by_contra hne
    rw [not_or, not_not] at hne
    obtain ⟨u, v, rfl, hleft⟩ := exists_isLeftmost hne.2
    have hpieces := pieces_of_isLeftmost hold hleft
    have hrest := pieces_ne_nil old v
    have hcut : new ++ join new (pieces old v) = old ++ join old (pieces old v) := by
      rw [replace, hpieces, join_cons_of_ne_nil _ _ hrest, List.append_assoc, List.append_assoc,
        List.append_right_inj] at h
      rw [h, join_pieces hold]
    have hlength : new.length = old.length := by
      have hnew := length_join new hrest
      have hsame := length_join old hrest
      have hcount := List.length_pos_iff.2 hrest
      have htotal := congrArg List.length hcut
      rw [List.length_append, List.length_append] at htotal
      have hproduct : (pieces old v).length * new.length = (pieces old v).length * old.length := by
        omega
      exact Nat.eq_of_mul_eq_mul_left hcount hproduct
    exact hne.1 (List.append_inj_left hcut hlength).symm
  · rintro (rfl | h)
    · exact replace_self hold t
    · exact replace_of_not_infix h new

theorem replace_append_cons (hold : old ≠ []) (h : c ∉ old) (new s t : List α) :
    replace old new (s ++ c :: t) = replace old new s ++ c :: replace old new t := by
  by_cases hstart : old <+: s
  · obtain ⟨u, rfl⟩ := hstart
    have hlength : u.length < (old ++ u).length := by
      simp [List.length_pos_iff.2 hold]
    rw [List.append_assoc, replace_append_left hold, replace_append_left hold,
      replace_append_cons hold h new u t, List.append_assoc]
  · have hwhole : ¬ old <+: s ++ c :: t := mt (prefix_append_cons_iff h).1 hstart
    cases s with
    | nil => rw [List.nil_append, replace_cons hwhole, replace_nil, List.nil_append]
    | cons d s =>
      rw [List.cons_append] at hwhole ⊢
      rw [replace_cons hwhole, replace_cons hstart,
        replace_append_cons hold h new s t, List.cons_append]
termination_by s.length

/-! Texts that are told in other words. -/

variable [DecidableEq β] {f : α → β}

theorem isPrefixOf_map (hf : Function.Injective f) (s t : List α) :
    (s.map f).isPrefixOf (t.map f) = s.isPrefixOf t := by
  induction s generalizing t with
  | nil => rfl
  | cons a s ih =>
    cases t with
    | nil => rfl
    | cons b t =>
      have hhead : (f a == f b) = (a == b) := by
        rw [Bool.eq_iff_iff, beq_iff_eq, beq_iff_eq, hf.eq_iff]
      rw [List.map_cons, List.map_cons, List.isPrefixOf, List.isPrefixOf, ih, hhead]

theorem piecesFrom_map (hf : Function.Injective f) (mark : List α) (k : Nat) (t : List α) :
    piecesFrom (mark.map f) k (t.map f) = (piecesFrom mark k t).map (List.map f) := by
  induction t generalizing k with
  | nil => cases k <;> rfl
  | cons c r ih =>
    cases k with
    | succ k => exact ih k
    | zero =>
      have hprefix := isPrefixOf_map hf mark (c :: r)
      rw [List.map_cons] at hprefix ⊢
      rw [piecesFrom, hprefix, piecesFrom, List.length_map, ih, ih]
      split
      · rfl
      · cases piecesFrom mark 0 r <;> rfl

theorem replace_map (hf : Function.Injective f) (old new t : List α) :
    replace (old.map f) (new.map f) (t.map f) = (replace old new t).map f := by
  rw [replace, pieces, piecesFrom_map hf, join_map, replace, pieces]

end TestScribe.Text

namespace TestScribe.Address

theorem rebase_ofText (recorded other body : Text) :
    rebase (recorded : RawText) other body = RawText.ofText (rebase recorded other body) := by
  simp only [rebase, RawText.ofText, List.isEmpty_map]
  split
  · rfl
  · exact Text.replace_map (fun _ _ => RawText.injective_char _ _) recorded other body

@[simp] theorem override_text (url other body : Text) :
    override (.text url) other body = .ok (RawText.ofText (rebase url other body)) := by
  cases url with
  | nil => rfl
  | cons c r =>
    cases other with
    | nil => rfl
    | cons d s => exact congrArg Except.ok (rebase_ofText _ _ body)

end TestScribe.Address
