import TestScribe.Proofs.Text.Trimming
import TestScribe.Text.Case

/-!
What lower case leaves alone. Blank characters and digits stay as they are and nothing else becomes
one, so a text and its lower case have their blanks and digits in the same places (`lowered_lower`),
and are trimmed and cut alike. Of the other ASCII characters only the letter `x` is looked at here:
it is what becomes of itself and of the large one.
-/

namespace TestScribe.Text

def keptRanges : List (Nat × Nat) := (48, 57) :: blankRanges

def isKept (c : Char) : Bool := rangesContain keptRanges c.toNat

def isCross (c : Char) : Bool := c = 'x' || c = 'X'

/-- Whether neither a run of characters with a lower case nor the run of their lower cases meets the
kept ones, and the latter meets the small `x` only as the letters of ASCII do. -/
def CaseRun.IsApart (r : CaseRun) : Prop :=
  0 ≤ (r.first : Int) + r.shift ∧
    (∀ k ∈ keptRanges, (r.last < k.1 ∨ k.2 < r.first) ∧
      ((r.last : Int) + r.shift < k.1 ∨ k.2 < (r.first : Int) + r.shift)) ∧
    ((r.last : Int) + r.shift < 120 ∨ 120 < (r.first : Int) + r.shift ∨ r.shift = 32)

instance : DecidablePred CaseRun.IsApart := fun r => by
  unfold CaseRun.IsApart
  infer_instance

theorem isApart_of_mem_caseRuns : ∀ r ∈ caseRuns, r.IsApart := by decide +kernel

theorem lowerCode_cases (n : Nat) : lowerCode n = n ∨
    ∃ r ∈ caseRuns, r.first ≤ n ∧ n ≤ r.last ∧ lowerCode n = ((n : Int) + r.shift).toNat := by
  unfold lowerCode
  cases hfind : caseRuns.find? (·.contains n) with
  | none => exact .inl rfl
  | some r =>
    have hcontains := List.find?_some hfind
    simp only [CaseRun.contains, Bool.and_eq_true, decide_eq_true_eq] at hcontains
    exact .inr ⟨r, List.mem_of_find?_eq_some hfind, hcontains.1.1, hcontains.1.2, rfl⟩

theorem rangesContain_lowerCode (n : Nat) :
    rangesContain keptRanges n = true ∧ lowerCode n = n ∨
      rangesContain keptRanges n = false ∧ rangesContain keptRanges (lowerCode n) = false := by
  have hnone : ∀ m, (∀ k ∈ keptRanges, m < k.1 ∨ k.2 < m) → rangesContain keptRanges m = false := by
    intro m hm
    rw [Bool.eq_false_iff, ne_eq, rangesContain_iff]
    rintro ⟨k, hk, hlow, hhigh⟩
    have hapart := hm k hk
    omega
  rcases lowerCode_cases n with hsame | ⟨r, hr, hfirst, hlast, hcode⟩
  · cases hkept : rangesContain keptRanges n with
    | true => exact .inl ⟨rfl, hsame⟩
    | false => exact .inr ⟨rfl, by rw [hsame, hkept]⟩
  · obtain ⟨hpositive, hapart, -⟩ := isApart_of_mem_caseRuns r hr
    refine .inr ⟨hnone n fun k hk => ?_, hnone _ fun k hk => ?_⟩
    · have hbefore := (hapart k hk).1
      omega
    · have hafter := (hapart k hk).2
      rw [hcode]
      omega

theorem lowerCode_eq_cross {n : Nat} (h : lowerCode n = 120) : n = 120 ∨ n = 88 := by
  rcases lowerCode_cases n with hsame | ⟨r, hr, hfirst, hlast, hcode⟩
  · exact .inl (hsame ▸ h)
  · obtain ⟨-, -, hcross⟩ := isApart_of_mem_caseRuns r hr
    omega

structure Becomes (c : Char) (s : Text) : Prop where
  ne_nil : s ≠ []
  kept : isKept c = true → s = [c]
  other : isKept c = false → ∀ d ∈ s, isKept d = false
  cross : isCross c = true → s = ['x']
  uncrossed : isCross c = false → 'x' ∉ s

variable {c : Char} {s t u : Text}

theorem toNat_ofNat (n : Nat) : (Char.ofNat n).toNat = n ∨ (Char.ofNat n).toNat = 0 := by
  by_cases hvalid : n.isValidChar
  · left
    rw [Char.ofNat, dif_pos hvalid]
    rfl
  · right
    rw [Char.ofNat, dif_neg hvalid]
    rfl

theorem isKept_lowerChar (c : Char) : isKept c = true ∧ lowerChar c = c ∨
    isKept c = false ∧ isKept (lowerChar c) = false := by
  rcases rangesContain_lowerCode c.toNat with ⟨hkept, hsame⟩ | ⟨hother, hlower⟩
  · exact .inl ⟨hkept, by rw [lowerChar, hsame, Char.ofNat_toNat]⟩
  · refine .inr ⟨hother, ?_⟩
    rw [isKept, lowerChar]
    rcases toNat_ofNat (lowerCode c.toNat) with h | h
    · rw [h, hlower]
    · rw [h]
      decide

theorem lowerChar_eq_cross_iff : lowerChar c = 'x' ↔ isCross c = true := by
  constructor
  · intro h
    have hcode : lowerCode c.toNat = 120 := by
      have hx : (lowerChar c).toNat = 120 := congrArg Char.toNat h
      rw [lowerChar] at hx
      rcases toNat_ofNat (lowerCode c.toNat) with hsame | hzero <;> omega
    rw [isCross, Bool.or_eq_true, decide_eq_true_eq, decide_eq_true_eq]
    rcases lowerCode_eq_cross hcode with hsmall | hlarge
    · exact .inl (Char.toNat_inj.1 hsmall)
    · exact .inr (Char.toNat_inj.1 hlarge)
  · intro h
    rw [isCross, Bool.or_eq_true, decide_eq_true_eq, decide_eq_true_eq] at h
    rcases h with rfl | rfl <;> decide

theorem isKept_of_isBlank (h : isBlank c = true) : isKept c = true := by
  rw [isKept, keptRanges, rangesContain, List.any_cons, Bool.or_eq_true]
  exact .inr h

theorem isBlank_eq_false (h : isKept c = false) : isBlank c = false :=
  Bool.eq_false_iff.2 fun hblank => by
    rw [isKept_of_isBlank hblank] at h
    cases h

theorem Becomes.isBlank_eq (h : Becomes c s) : ∀ d ∈ s, isBlank d = isBlank c := by
  intro d hd
  cases hkept : isKept c with
  | true =>
    rw [h.kept hkept, List.mem_singleton] at hd
    rw [hd]
  | false => rw [isBlank_eq_false (h.other hkept d hd), isBlank_eq_false hkept]

theorem becomes_of_all (hkept : isKept c = false) (hcross : isCross c = false) (hne : s ≠ [])
    (hs : s.all (fun d => !isKept d && d != 'x') = true) : Becomes c s where
  ne_nil := hne
  kept h := by
    rw [hkept] at h
    cases h
  other _ d hd := by
    have hd := List.all_eq_true.1 hs d hd
    simp only [Bool.and_eq_true, Bool.not_eq_true'] at hd
    exact hd.1
  cross h := by
    rw [hcross] at h
    cases h
  uncrossed _ hx := absurd (List.all_eq_true.1 hs 'x' hx) (by decide)

theorem becomes_lowerChar (c : Char) : Becomes c [lowerChar c] where
  ne_nil := List.cons_ne_nil _ _
  kept h := by
    rcases isKept_lowerChar c with ⟨-, hsame⟩ | ⟨hother, -⟩
    · rw [hsame]
    · rw [h] at hother
      cases hother
  other h := by
    rcases isKept_lowerChar c with ⟨hkept, -⟩ | ⟨-, hlower⟩
    · rw [h] at hkept
      cases hkept
    · simpa using hlower
  cross h := by rw [lowerChar_eq_cross_iff.2 h]
  uncrossed h := by
    rw [List.mem_singleton]
    intro hx
    rw [lowerChar_eq_cross_iff.1 hx.symm] at h
    cases h

/-- Two texts of which the second one is the first one in lower case, character by character. -/
inductive Lowered : Text → Text → Prop
  | nil : Lowered [] []
  | cons {c : Char} {s t u : Text} (hc : Becomes c s) (ht : Lowered t u) : Lowered (c :: t) (s ++ u)

theorem lowered_lowerAfter (before t : Text) : Lowered t (lowerAfter before t) := by
  induction t generalizing before with
  | nil => exact .nil
  | cons c r ih =>
    refine .cons ?_ (ih (c :: before))
    split
    · -- a sigma, whatever stands around it
      rename_i hsigma
      subst hsigma
      split
      · exact becomes_of_all (by decide) (by decide) (by decide) (by decide)
      · exact becomes_of_all (by decide) (by decide) (by decide) (by decide)
    · split
      · rename_i hdotted
        subst hdotted
        exact becomes_of_all (by decide) (by decide) (by decide) (by decide)
      · exact becomes_lowerChar c

theorem lowered_lower (t : Text) : Lowered t (lower t) := lowered_lowerAfter [] t

namespace Lowered

theorem eq_nil_iff (h : Lowered t u) : u = [] ↔ t = [] := by
  cases h with
  | nil => simp
  | cons hc ht => simp [hc.ne_nil]

/-- What does not tell the characters apart that lower case may change holds of both texts or of
neither. -/
theorem forall_iff {p : Char → Bool} {b : Bool} (hp : ∀ c, isKept c = false → p c = b)
    (h : Lowered t u) : (∀ c ∈ u, p c = true) ↔ ∀ c ∈ t, p c = true := by
  induction h with
  | nil => simp
  | @cons c s t u hc ht ih =>
    have hhere : (∀ d ∈ s, p d = true) ↔ p c = true := by
      cases hkept : isKept c with
      | true =>
        rw [hc.kept hkept]
        simp
      | false =>
        obtain ⟨d, r, hs⟩ := List.exists_cons_of_ne_nil hc.ne_nil
        have hother := hc.other hkept
        rw [hp c hkept]
        refine ⟨fun hall => ?_, fun hb d hd => (hp d (hother d hd)).trans hb⟩
        have hd : d ∈ s := hs ▸ List.mem_cons_self
        rw [← hp d (hother d hd), hall d hd]
    rw [List.forall_mem_append, List.forall_mem_cons, hhere, ih]

theorem dropWhile (h : Lowered t u) : Lowered (t.dropWhile isBlank) (u.dropWhile isBlank) := by
  induction h with
  | nil => exact .nil
  | @cons c s t u hc ht ih =>
    cases hblank : isBlank c with
    | true =>
      rw [hc.kept (isKept_of_isBlank hblank), List.dropWhile_cons_of_pos hblank,
        List.singleton_append, List.dropWhile_cons_of_pos hblank]
      exact ih
    | false =>
      obtain ⟨d, r, rfl⟩ := List.exists_cons_of_ne_nil hc.ne_nil
      have hd : isBlank d = false := (hc.isBlank_eq d List.mem_cons_self).trans hblank
      rw [List.dropWhile_cons_of_neg (by simp [hblank]), List.cons_append,
        List.dropWhile_cons_of_neg (by simp [hd])]
      exact .cons hc ht

theorem dropEndWhile (h : Lowered t u) :
    Lowered (Text.dropEndWhile isBlank t) (Text.dropEndWhile isBlank u) := by
  induction h with
  | nil => exact .nil
  | @cons c s t u hc ht ih =>
    by_cases hrest : Text.dropEndWhile isBlank t = []
    · rw [dropEndWhile_append_of_eq_nil (ih.eq_nil_iff.2 hrest), Text.dropEndWhile, hrest]
      cases hblank : isBlank c with
      | true =>
        rw [hc.kept (isKept_of_isBlank hblank)]
        simpa [Text.dropEndWhile, hblank] using Lowered.nil
      | false =>
        have hs : ∀ d ∈ s, isBlank d = false := fun d hd => (hc.isBlank_eq d hd).trans hblank
        rw [dropEndWhile_of_forall hs]
        simpa using Lowered.cons hc .nil
    · obtain ⟨d, r, hdr⟩ := List.exists_cons_of_ne_nil hrest
      rw [dropEndWhile_append_of_ne_nil (mt ih.eq_nil_iff.1 hrest), Text.dropEndWhile]
      rw [hdr] at ih ⊢
      exact .cons hc ih

theorem trim (h : Lowered t u) : Lowered (Text.trim t) (Text.trim u) := h.dropWhile.dropEndWhile

end Lowered

/-- What stands before and after the first `x`, large or small. Without one, there is nothing after
it. -/
def halves : Text → Text × Text
  | [] => ([], [])
  | c :: r => if isCross c then ([], r) else (c :: (halves r).1, (halves r).2)

theorem cut?_append {mark : Char} (h : mark ∉ s) (t : Text) :
    cut? mark (s ++ t) = (cut? mark t).map fun (p, q) => (s ++ p, q) := by
  induction s with
  | nil => cases hcut : cut? mark t <;> simp [hcut]
  | cons c r ih =>
    rw [List.mem_cons, not_or] at h
    rw [List.cons_append, cut?, if_neg (Ne.symm h.1), ih h.2, Option.map_map]
    rfl

theorem Lowered.halves (h : Lowered t u) :
    Lowered (halves t).1 ((cut? 'x' u).getD (u, [])).1 ∧
      Lowered (halves t).2 ((cut? 'x' u).getD (u, [])).2 := by
  induction h with
  | nil => exact ⟨.nil, .nil⟩
  | @cons c s t u hc ht ih =>
    cases hcross : isCross c with
    | true =>
      rw [hc.cross hcross, Text.halves, if_pos hcross]
      exact ⟨.nil, ht⟩
    | false =>
      rw [Text.halves, if_neg (by simp [hcross]), cut?_append (hc.uncrossed hcross)]
      cases hcut : cut? 'x' u with
      | none =>
        rw [hcut] at ih
        exact ⟨.cons hc ih.1, ih.2⟩
      | some p =>
        rw [hcut] at ih
        exact ⟨.cons hc ih.1, ih.2⟩

end TestScribe.Text
