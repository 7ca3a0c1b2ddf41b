import TestScribe.Naming

/-!
The ASCII letters and digits, which are all that goes into names besides separators. What holds of
each of them is checked one by one (`forall_of_isPlain`).
-/

namespace TestScribe.Naming

variable {c d : Char}

theorem toNat_lt_of_isPlain (h : isPlain c = true) : c.toNat < 128 := by
  have hz : 'z'.val.toNat = 122 := rfl
  have hZ : 'Z'.val.toNat = 90 := rfl
  have h9 : '9'.val.toNat = 57 := rfl
  have hc : c.toNat = c.val.toNat := rfl
  simp only [isPlain, isLower, isUpper, isDigit, Bool.or_eq_true, Bool.and_eq_true,
    decide_eq_true_eq, Char.le_def, UInt32.le_iff_toNat_le] at h
  omega

theorem forall_of_isPlain {P : Char → Prop}
    (h : ∀ n < 128, isPlain (Char.ofNat n) = true → P (Char.ofNat n)) (hc : isPlain c = true) :
    P c := by
  have hP := h c.toNat (toNat_lt_of_isPlain hc)
  rw [Char.ofNat_toNat] at hP
  exact hP hc

theorem isPlain_of_isUpper (h : isUpper c = true) : isPlain c = true := by
  rw [isPlain, h, Bool.or_true, Bool.true_or]

theorem isLower_eq_false_of_isUpper (h : isUpper c = true) : isLower c = false :=
  forall_of_isPlain (P := fun c => isUpper c = true → isLower c = false) (by decide)
    (isPlain_of_isUpper h) h

theorem isPlain_of_isLower (h : isLower c = true) : isPlain c = true := by
  rw [isPlain, h, Bool.true_or, Bool.true_or]

theorem isUpper_eq_false_of_isLower (h : isLower c = true) : isUpper c = false :=
  Bool.eq_false_iff.2 fun hupper => by
    rw [isLower_eq_false_of_isUpper hupper] at h
    cases h

theorem toLower_of_not_isUpper (h : isUpper c = false) : c.toLower = c := by
  unfold Char.toLower
  split
  · rename_i hupper
    simp only [isUpper, Bool.and_eq_false_iff, decide_eq_false_iff_not, Char.le_def] at h
    rcases h with h | h
    · exact absurd hupper.1 h
    · exact absurd hupper.2 h
  · rfl

theorem eq_of_toLower_eq (hd : isLower d = false) (h : c.toLower = d) : c = d := by
  cases hc : isUpper c with
  | false => rwa [toLower_of_not_isUpper hc] at h
  | true =>
    have hlower : isLower c.toLower = true :=
      forall_of_isPlain (P := fun c => isUpper c = true → isLower c.toLower = true)
        (by decide) (isPlain_of_isUpper hc) hc
    rw [h, hd] at hlower
    cases hlower

end TestScribe.Naming
