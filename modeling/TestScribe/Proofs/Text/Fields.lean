import TestScribe.Text.Basic

/-!
The fields of a text, which are its runs of characters outside a class.
-/

namespace TestScribe.Text

variable {p q : Char → Bool} {t w : Text} {c : Char}

theorem fieldsBy_cons_of_pos (h : p c = true) (t : Text) : fieldsBy p (c :: t) = fieldsBy p t := by
  cases t <;> simp [fieldsBy, h]

theorem fieldsBy_singleton (h : p c = false) : fieldsBy p [c] = [[c]] := by
  simp [fieldsBy, h]

theorem fieldsBy_cons_cons_of_pos {d : Char} (hc : p c = false) (hd : p d = true) (t : Text) :
    fieldsBy p (c :: d :: t) = [c] :: fieldsBy p (d :: t) := by
  rw [fieldsBy.eq_def]
  simp [hc, hd]

theorem fieldsBy_cons_cons {d : Char} (hc : p c = false) (hd : p d = false) (t : Text) :
    fieldsBy p (c :: d :: t) = (fieldsBy p (d :: t)).modifyHead (c :: ·) := by
  rw [fieldsBy.eq_def]
  simp [hc, hd]

theorem fieldsBy_cons_ne_nil (h : p c = false) (t : Text) : fieldsBy p (c :: t) ≠ [] := by
  induction t generalizing c with
  | nil => simp [fieldsBy_singleton h]
  | cons d t ih =>
    cases hd : p d with
    | false => simpa [fieldsBy_cons_cons h hd, List.modifyHead_eq_nil_iff] using ih hd
    | true => simp [fieldsBy_cons_cons_of_pos h hd]

theorem fieldsBy_append_cons (hw : ∀ d ∈ w, p d = false) (hne : w ≠ []) (hc : p c = true)
    (t : Text) : fieldsBy p (w ++ c :: t) = w :: fieldsBy p t := by
  induction w with
  | nil => exact absurd rfl hne
  | cons d w ih =>
    obtain ⟨hd, hw⟩ := List.forall_mem_cons.1 hw
    cases w with
    | nil =>
      rw [List.singleton_append, fieldsBy_cons_cons_of_pos hd hc, fieldsBy_cons_of_pos hc]
    | cons e w =>
      rw [List.cons_append, List.cons_append, fieldsBy_cons_cons hd (hw e List.mem_cons_self),
        ← List.cons_append, ih hw (List.cons_ne_nil e w), List.modifyHead_cons]

theorem fieldsBy_of_forall (hw : ∀ d ∈ w, p d = false) (hne : w ≠ []) : fieldsBy p w = [w] := by
  induction w with
  | nil => exact absurd rfl hne
  | cons d w ih =>
    obtain ⟨hd, hw⟩ := List.forall_mem_cons.1 hw
    cases w with
    | nil => exact fieldsBy_singleton hd
    | cons e w =>
      rw [fieldsBy_cons_cons hd (hw e List.mem_cons_self), ih hw (List.cons_ne_nil e w),
        List.modifyHead_cons]

theorem not_mem_of_mem_fieldsBy (hc : p c = true) (h : w ∈ fieldsBy p t) : c ∉ w := by
  fun_induction fieldsBy p t generalizing w with
  | case1 => cases h
  | case2 d r hd ih => exact ih h
  | case3 d hd =>
    rw [List.mem_singleton.1 h, List.mem_singleton]
    rintro rfl
    exact hd hc
  | case4 d hd e r he ih =>
    rcases List.mem_cons.1 h with rfl | h
    · rw [List.mem_singleton]
      rintro rfl
      exact hd hc
    · exact ih h
  | case5 d hd e r he ih =>
    cases hf : fieldsBy p (e :: r) with
    | nil =>
      rw [hf] at h
      cases h
    | cons q qs =>
      rw [hf, List.modifyHead_cons] at h
      rcases List.mem_cons.1 h with rfl | h
      · rw [List.mem_cons, not_or]
        exact ⟨by rintro rfl; exact hd hc, ih (hf ▸ List.mem_cons_self)⟩
      · exact ih (hf ▸ List.mem_cons_of_mem _ h)

theorem fieldsBy_map {f : Char → Char} (h : ∀ c, q (f c) = p c) (t : Text) :
    fieldsBy q (t.map f) = (fieldsBy p t).map (List.map f) := by
  fun_induction fieldsBy p t with
  | case1 => rfl
  | case2 c r hc ih => rw [List.map_cons, fieldsBy_cons_of_pos ((h c).trans hc), ih]
  | case3 c hc =>
    rw [Bool.not_eq_true] at hc
    exact fieldsBy_singleton ((h c).trans hc)
  | case4 c hc d r hd ih =>
    rw [Bool.not_eq_true] at hc
    rw [List.map_cons, List.map_cons,
      fieldsBy_cons_cons_of_pos ((h c).trans hc) ((h d).trans hd), ← List.map_cons, ih]
    rfl
  | case5 c hc d r hd ih =>
    rw [Bool.not_eq_true] at hc hd
    rw [List.map_cons, List.map_cons, fieldsBy_cons_cons ((h c).trans hc) ((h d).trans hd),
      ← List.map_cons, ih]
    cases fieldsBy p (d :: r) <;> rfl

end TestScribe.Text
