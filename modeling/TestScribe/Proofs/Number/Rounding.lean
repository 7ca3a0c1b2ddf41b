import Mathlib.Algebra.Order.Floor.Ring
import Mathlib.Data.Nat.Digits.Defs
import Mathlib.Data.Rat.Floor
import Mathlib.Tactic.FieldSimp
import Mathlib.Tactic.GCongr
import Mathlib.Tactic.Linarith
import Mathlib.Tactic.NormNum
import Mathlib.Tactic.Positivity
import Mathlib.Tactic.Ring
import TestScribe.Number.Binary64

/-!
Binary64 numbers as rational numbers. Whatever decimal is rounded, the result is one of the finite
numbers that are nearest to it, or an infinity if the decimal is as far out as half a step beyond
the greatest finite number (`rounds_ofDecimal`). Cutting a finite number off behind its point is
exact (`truncate_eq`).
-/

namespace TestScribe.Binary64

def magnitude (m : Nat) (q : Int) : ℚ := m * 2 ^ q

def signed (negative : Bool) (y : ℚ) : ℚ := if negative then -y else y

/-- The integer that is left of a rational number when it is cut off behind its point. -/
def wholePart (x : ℚ) : ℤ := if 0 ≤ x then ⌊x⌋ else ⌈x⌉

/-- Halfway between the greatest finite number and the next power of two. -/
def limit : ℚ := 2 ^ 1024 - 2 ^ 970

/-- Whether the number is finite, and no finite one is nearer to a magnitude. -/
structure IsNearest (y : ℚ) (m : Nat) (q : Int) : Prop where
  mantissa_lt : m < 2 ^ 53
  exponent_ge : -1074 ≤ q
  exponent_le : q ≤ 971
  nearest : ∀ (k : Nat) (p : Int), k < 2 ^ 53 → -1074 ≤ p →
    |magnitude m q - y| ≤ |magnitude k p - y|

/-- What a magnitude is rounded to: an infinity from the limit on, and the nearest finite number
below it. -/
inductive Rounds (negative : Bool) (y : ℚ) : Binary64 → Prop
  | infinite (hy : limit ≤ y) : Rounds negative y (.infinite negative)
  | finite {m : Nat} {q : Int} (hy : y < limit) (hm : IsNearest y m q) :
    Rounds negative y (.finite negative m q)

variable {negative : Bool} {n d m : Nat} {q e : Int} {y : ℚ}

/-! The integer nearest to a ratio. -/

theorem le_two_mul_roundDiv (hd : 0 < d) : 2 * n ≤ 2 * (roundDiv n d * d) + d := by
  have h := Nat.div_add_mod n d
  have hm : d * (n / d) = n / d * d := Nat.mul_comm _ _
  have hlt := Nat.mod_lt n hd
  unfold roundDiv
  dsimp only
  split
  · omega
  · split
    · rw [Nat.add_mul]; omega
    · rw [Nat.add_mul]; omega

theorem abs_roundDiv_sub_le (hd : 0 < d) : |(roundDiv n d : ℚ) - n / d| ≤ 1 / 2 := by
  have hpos : (0 : ℚ) < d := by exact_mod_cast hd
  have hle : (2 * (roundDiv n d * d) : ℚ) ≤ 2 * n + d := by exact_mod_cast two_mul_roundDiv_le
  have hge : (2 * n : ℚ) ≤ 2 * (roundDiv n d * d) + d := by exact_mod_cast le_two_mul_roundDiv hd
  have hn : (n : ℚ) = n / d * d := by field_simp
  rw [abs_le]
  constructor
  · by_contra hlt
    nlinarith
  · by_contra hlt
    nlinarith

theorem abs_roundDiv_sub_le_abs (hd : 0 < d) (k : Nat) :
    |(roundDiv n d : ℚ) - n / d| ≤ |(k : ℚ) - n / d| := by
  have hhalf := abs_roundDiv_sub_le (n := n) hd
  rcases eq_or_ne k (roundDiv n d) with rfl | hne
  · exact le_rfl
  · have hfar : (1 : ℚ) ≤ |(k : ℚ) - roundDiv n d| := by
      have hint : (1 : ℤ) ≤ |(k : ℤ) - roundDiv n d| := Int.one_le_abs (by omega)
      exact_mod_cast hint
    have htri := abs_sub_le (k : ℚ) (n / d) (roundDiv n d)
    rw [abs_sub_comm ((n : ℚ) / d) (roundDiv n d)] at htri
    linarith

theorem roundDiv_of_tie {k : Nat} (hk : k % 2 = 1) (hd : 0 < d) (h : 2 * n = (2 * k + 1) * d) :
    roundDiv n d = k + 1 := by
  rw [Nat.add_mul, Nat.one_mul, Nat.mul_assoc] at h
  have hdiv : n / d = k := by
    rw [Nat.div_eq_iff hd]
    omega
  have hmod : 2 * (n % d) = d := by
    have hn := Nat.div_add_mod n d
    rw [hdiv, Nat.mul_comm] at hn
    omega
  simp [roundDiv, hdiv, hmod, hk]

/-! The exponent of a ratio. -/

theorem zpow_eq_div {b : ℚ} (hb : b ≠ 0) (e : Int) : b ^ e = b ^ e.toNat / b ^ (-e).toNat := by
  rw [← zpow_natCast, ← zpow_natCast, ← zpow_sub₀ hb]
  congr 1
  omega

theorem scaled_ratio (n d : Nat) (q : Int) :
    ((scaled n d q).1 : ℚ) / (scaled n d q).2 = n / d / 2 ^ q := by
  rw [zpow_eq_div (by norm_num), scaled]
  push_cast [Nat.pow_eq]
  field_simp

theorem scaled_pos (hd : 0 < d) (q : Int) : 0 < (scaled n d q).2 :=
  Nat.mul_pos hd (Nat.pow_pos (by decide))

theorem lt_scaled_iff (hd : 0 < d) (q : Int) (k : Nat) :
    (scaled n d q).1 < k * (scaled n d q).2 ↔ (n / d : ℚ) < k * 2 ^ q := by
  have hpos : (0 : ℚ) < (scaled n d q).2 := by exact_mod_cast scaled_pos hd q
  have htwo : (0 : ℚ) < 2 ^ q := zpow_pos (by norm_num) q
  rw [← Nat.cast_lt (α := ℚ), Nat.cast_mul, ← div_lt_iff₀ hpos, scaled_ratio, div_lt_iff₀ htwo]

theorem log2_bounds (hn : 0 < n) : (2 : ℚ) ^ n.log2 ≤ n ∧ (n : ℚ) < 2 * 2 ^ n.log2 := by
  have hlow := Nat.log2_self_le (Nat.pos_iff_ne_zero.1 hn)
  have hhigh := Nat.lt_log2_self (n := n)
  rw [Nat.pow_succ, Nat.mul_comm] at hhigh
  exact ⟨by exact_mod_cast hlow, by exact_mod_cast hhigh⟩

theorem zpow_le {p q : Int} (h : p ≤ q) : (2 : ℚ) ^ p ≤ 2 ^ q :=
  zpow_le_zpow_right₀ (by norm_num) h

theorem two_mul_zpow (q : Int) : (2 : ℚ) * 2 ^ q = 2 ^ (q + 1) := by
  rw [zpow_add_one₀ (by norm_num), mul_comm]

/-- The exponent that is guessed from the digits of the two numbers is at most one too low. -/
theorem ratio_bounds (hn : 0 < n) (hd : 0 < d) {q : Int} (hq : q = n.log2 - d.log2 - 53) :
    2 ^ 52 * (2 : ℚ) ^ q ≤ n / d ∧ (n / d : ℚ) < 2 ^ 53 * 2 ^ (q + 1) := by
  obtain ⟨hnlow, hnhigh⟩ := log2_bounds hn
  obtain ⟨hdlow, hdhigh⟩ := log2_bounds hd
  have hpos : (0 : ℚ) < d := by exact_mod_cast hd
  have hunit : (2 : ℚ) ^ q = 2 ^ n.log2 / 2 ^ d.log2 / 2 ^ 53 := by
    rw [hq, zpow_sub₀ (by norm_num), zpow_sub₀ (by norm_num)]
    norm_cast
  have hdpos : (0 : ℚ) < 2 ^ d.log2 := by positivity
  constructor
  · calc 2 ^ 52 * (2 : ℚ) ^ q
      _ = 2 ^ n.log2 / (2 * 2 ^ d.log2) := by
        rw [hunit]
        field_simp
      _ ≤ n / d := div_le_div₀ (by positivity) hnlow hpos hdhigh.le
  · calc (n / d : ℚ)
      _ < 2 * 2 ^ n.log2 / 2 ^ d.log2 := div_lt_div₀ hnhigh hdlow (by positivity) hdpos
      _ = 2 ^ 53 * 2 ^ (q + 1) := by
        rw [← two_mul_zpow, hunit]
        field_simp

/-- At its exponent a ratio has 53 binary digits before the point, or fewer at the least one. -/
theorem exponentOf_spec (hn : 0 < n) (hd : 0 < d) :
    -1074 ≤ exponentOf n d ∧ (n / d : ℚ) < 2 ^ 53 * 2 ^ exponentOf n d ∧
      (exponentOf n d = -1074 ∨ 2 ^ 52 * 2 ^ exponentOf n d ≤ (n / d : ℚ)) := by
  obtain ⟨hlow, hhigh⟩ := ratio_bounds hn hd rfl
  have hdigits := lt_scaled_iff (n := n) hd (n.log2 - d.log2 - 53) (2 ^ 53)
  unfold exponentOf
  dsimp only
  generalize (n.log2 : Int) - d.log2 - 53 = q at hlow hhigh hdigits ⊢
  obtain ⟨p, hp, hplow, hphigh⟩ : ∃ p, p = (if (scaled n d q).1 < Nat.pow 2 53 * (scaled n d q).2
      then q else q + 1) ∧ 2 ^ 52 * (2 : ℚ) ^ p ≤ n / d ∧ (n / d : ℚ) < 2 ^ 53 * 2 ^ p := by
    refine ⟨_, rfl, ?_⟩
    split
    · rename_i hlt
      exact ⟨hlow, by exact_mod_cast hdigits.1 hlt⟩
    · rename_i hge
      refine ⟨?_, hhigh⟩
      have hfull : (2 ^ 53 : ℚ) * 2 ^ q ≤ n / d := by
        refine not_lt.1 fun hlt => hge (hdigits.2 ?_)
        exact_mod_cast hlt
      rw [← two_mul_zpow]
      linarith
  rw [← hp]
  refine ⟨le_max_right _ _, hphigh.trans_le ?_, ?_⟩
  · have := zpow_le (le_max_left p (-1074))
    linarith
  · rcases max_choice p (-1074) with h | h <;> rw [h]
    · exact .inr hplow
    · exact .inl rfl

/-! Rounding a ratio. -/

theorem roundDiv_le {k : Nat} (hd : 0 < d) (h : (n / d : ℚ) < k) : roundDiv n d ≤ k := by
  have hhalf := (abs_le.1 (abs_roundDiv_sub_le (n := n) hd)).2
  have hlt : (roundDiv n d : ℚ) < k + 1 := by linarith
  exact Nat.lt_succ_iff.1 (by exact_mod_cast hlt)

theorem roundDiv_eq_iff {k : Nat} (hk : k % 2 = 1) (hd : 0 < d) (h : (n / d : ℚ) < k + 1) :
    roundDiv n d = k + 1 ↔ (k : ℚ) + 1 / 2 ≤ n / d := by
  have hle : roundDiv n d ≤ k + 1 := roundDiv_le hd (by exact_mod_cast h)
  obtain ⟨hlow, hhigh⟩ := abs_le.1 (abs_roundDiv_sub_le (n := n) hd)
  constructor
  · intro heq
    rw [heq] at hhigh
    push_cast at hhigh
    linarith
  · intro hge
    by_contra hne
    have hlt : (roundDiv n d : ℚ) ≤ k := by
      exact_mod_cast Nat.lt_succ_iff.1 (lt_of_le_of_ne hle hne)
    have htie : (n / d : ℚ) = k + 1 / 2 := by linarith
    have hpos : (d : ℚ) ≠ 0 := by exact_mod_cast hd.ne'
    rw [div_eq_iff hpos] at htie
    refine hne (roundDiv_of_tie hk hd ?_)
    have htwice : (2 * n : ℚ) = (2 * k + 1) * d := by linarith
    exact_mod_cast htwice

/-- The nearest multiple of a power of two is the nearest finite number, if the ratio has as many
digits before the point as a mantissa can have, or the power is the least one. -/
theorem nearest_of_grid (hm : ∀ k : Nat, |(m : ℚ) - y / 2 ^ q| ≤ |(k : ℚ) - y / 2 ^ q|)
    (hq : q = -1074 ∨ 2 ^ 52 * 2 ^ q ≤ y) {k : Nat} {p : Int} (hk : k < 2 ^ 53)
    (hp : -1074 ≤ p) : |magnitude m q - y| ≤ |magnitude k p - y| := by
  have hunit : (0 : ℚ) < 2 ^ q := zpow_pos (by norm_num) q
  have hgrid : ∀ k : Nat, |magnitude m q - y| ≤ |magnitude k q - y| := by
    intro k
    have hscale : ∀ j : Nat, |magnitude j q - y| = |(j : ℚ) - y / 2 ^ q| * 2 ^ q := by
      intro j
      rw [← abs_of_pos hunit, ← abs_mul, abs_of_pos hunit, sub_mul, div_mul_cancel₀ _ hunit.ne']
      rfl
    rw [hscale, hscale]
    exact mul_le_mul_of_nonneg_right (hm k) hunit.le
  rcases le_or_gt q p with hqp | hpq
  · -- the other number is a multiple of the power as well
    have hmultiple : magnitude k p = magnitude (k * 2 ^ (p - q).toNat) q := by
      unfold magnitude
      push_cast
      rw [← zpow_natCast, mul_assoc, ← zpow_add₀ (by norm_num)]
      congr 2
      omega
    rw [hmultiple]
    exact hgrid _
  · -- the other number is too small to be nearer than the least mantissa at this power
    have hbase : 2 ^ 52 * 2 ^ q ≤ y := hq.resolve_left (by omega)
    have hsmall : magnitude k p ≤ magnitude (2 ^ 52) q := by
      have hpow : (2 : ℚ) * 2 ^ p ≤ 2 ^ q := (two_mul_zpow p).trans_le (zpow_le hpq)
      have hkq : (k : ℚ) ≤ 2 ^ 53 := by exact_mod_cast hk.le
      have hpp : (0 : ℚ) < 2 ^ p := zpow_pos (by norm_num) p
      unfold magnitude
      push_cast
      nlinarith
    have hbelow : magnitude (2 ^ 52) q ≤ y := by
      unfold magnitude
      exact_mod_cast hbase
    calc |magnitude m q - y|
      _ ≤ |magnitude (2 ^ 52) q - y| := hgrid _
      _ = y - magnitude (2 ^ 52) q := by rw [abs_sub_comm, abs_of_nonneg (by linarith)]
      _ ≤ y - magnitude k p := by linarith
      _ ≤ |magnitude k p - y| := by
        rw [abs_sub_comm]
        exact le_abs_self _

theorem limit_eq : limit = (2 ^ 53 - 1 / 2) * 2 ^ (971 : ℤ) := by
  have hhigh : (2 : ℚ) ^ 1024 = 2 ^ 53 * 2 ^ 971 := (pow_add (2 : ℚ) 53 971 :)
  have hlow : (2 : ℚ) ^ 971 = 2 ^ 970 * 2 := (pow_succ (2 : ℚ) 970 :)
  have hcast : (2 : ℚ) ^ (971 : ℤ) = 2 ^ 971 := zpow_natCast (2 : ℚ) 971
  rw [limit, hhigh, hcast, hlow]
  generalize (2 : ℚ) ^ 970 = half
  ring

theorem one_lt_limit : 1 < limit := by
  have hunit : (1 : ℚ) ≤ 2 ^ (971 : ℤ) := one_le_zpow₀ (by norm_num) (by norm_num)
  rw [limit_eq]
  generalize (2 : ℚ) ^ (971 : ℤ) = top at hunit ⊢
  linarith

theorem magnitude_nonneg (m : Nat) (q : Int) : 0 ≤ magnitude m q :=
  mul_nonneg (Nat.cast_nonneg m) (zpow_nonneg (by norm_num) q)

theorem rounds_zero (negative : Bool) : Rounds negative 0 (zero negative) := by
  refine .finite (one_pos.trans one_lt_limit) ⟨by norm_num, le_rfl, by norm_num, fun k p _ _ => ?_⟩
  rw [magnitude, Nat.cast_zero, zero_mul, sub_zero, abs_zero]
  exact abs_nonneg _

theorem magnitude_carry (q : Int) : magnitude (2 ^ 52) (q + 1) = magnitude (2 ^ 53) q := by
  unfold magnitude
  rw [← two_mul_zpow]
  push_cast
  ring

theorem ofRatio_eq (hn : 0 < n) (hm : m = roundDiv (scaled n d (exponentOf n d)).1
    (scaled n d (exponentOf n d)).2) (hq : q = exponentOf n d) : ofRatio negative n d =
    if m = 2 ^ 53 then
      if 971 < q + 1 then .infinite negative else .finite negative (2 ^ 52) (q + 1)
    else if 971 < q then .infinite negative else .finite negative m q := by
  subst hm hq
  rw [ofRatio, if_neg hn.ne']
  dsimp only [Nat.pow_eq]
  split <;> rfl

/-- A ratio is rounded to the nearest finite number, or to infinity from the limit on. -/
theorem rounds_ofRatio (negative : Bool) (n : Nat) (hd : 0 < d) :
    Rounds negative (n / d) (ofRatio negative n d) := by
  rcases Nat.eq_zero_or_pos n with rfl | hn
  · rw [ofRatio, if_pos rfl, Nat.cast_zero, zero_div]
    exact rounds_zero negative
  obtain ⟨hleast, hlt, hfull⟩ := exponentOf_spec hn hd
  have hspos := scaled_pos (n := n) hd (exponentOf n d)
  have hratio := scaled_ratio n d (exponentOf n d)
  have hnear := abs_roundDiv_sub_le_abs (n := (scaled n d (exponentOf n d)).1) hspos
  have htop := roundDiv_eq_iff (k := 2 ^ 53 - 1) (n := (scaled n d (exponentOf n d)).1)
    (by norm_num) hspos
  have hle := roundDiv_le (k := 2 ^ 53) (n := (scaled n d (exponentOf n d)).1) hspos
  rw [ofRatio_eq hn rfl rfl]
  rw [hratio] at hnear htop hle
  generalize roundDiv (scaled n d (exponentOf n d)).1 (scaled n d (exponentOf n d)).2 = m
    at hnear htop hle ⊢
  generalize exponentOf n d = q at hleast hlt hfull hnear htop hle ⊢
  generalize (n / d : ℚ) = y at hlt hfull hnear htop hle ⊢
  have hunit : (0 : ℚ) < 2 ^ q := zpow_pos (by norm_num) q
  rw [div_lt_iff₀ hunit] at hle
  rw [div_lt_iff₀ hunit, le_div_iff₀ hunit] at htop
  push_cast at hle htop
  have hmle := hle hlt
  have hmtop := htop (by linarith)
  obtain ⟨top, htopEq, htopPos, hlimit⟩ : ∃ top : ℚ, 2 ^ (971 : ℤ) = top ∧ 0 < top ∧
      limit = (2 ^ 53 - 1 / 2) * top := ⟨_, rfl, zpow_pos (by norm_num) _, limit_eq⟩
  split
  · -- the mantissa is carried over to the next exponent
    rename_i hm
    subst hm
    have hbig := hmtop.1 rfl
    split
    · rename_i hq
      have hpow := htopEq ▸ zpow_le (Int.lt_add_one_iff.1 hq)
      refine .infinite ?_
      rw [hlimit]
      linarith
    · rename_i hq
      have hpow := htopEq ▸ zpow_le (not_lt.1 hq)
      rw [← two_mul_zpow] at hpow
      refine .finite ?_ ⟨by norm_num, by omega, not_lt.1 hq, fun k p hk hp => ?_⟩
      · rw [hlimit]
        linarith
      · rw [magnitude_carry]
        exact nearest_of_grid hnear hfull hk hp
  · rename_i hm
    split
    · rename_i hq
      have hpow := zpow_le (Int.add_one_le_iff.2 hq)
      rw [← two_mul_zpow, htopEq] at hpow
      have hbase := hfull.resolve_left (by omega)
      refine .infinite ?_
      rw [hlimit]
      linarith
    · rename_i hq
      have hpow := htopEq ▸ zpow_le (not_lt.1 hq)
      have hsmall := not_le.1 (mt hmtop.2 hm)
      refine .finite ?_ ⟨by omega, hleast, not_lt.1 hq, fun k p hk hp => ?_⟩
      · rw [hlimit]
        linarith
      · exact nearest_of_grid hnear hfull hk hp

/-! Rounding a decimal. -/

theorem digits_bounds {c : Nat} (hc : 0 < c) (e : Int) :
    (10 : ℚ) ^ (((Nat.toDigits 10 c).length : Int) + e - 1) ≤ c * 10 ^ e ∧
      (c * 10 ^ e : ℚ) < 10 ^ (((Nat.toDigits 10 c).length : Int) + e) := by
  have hten : (0 : ℚ) < 10 ^ e := zpow_pos (by norm_num) e
  have hhigh : c < 10 ^ (Nat.toDigits 10 c).length :=
    (Nat.length_toDigits_le_iff (by norm_num) Nat.length_toDigits_pos).1 le_rfl
  have hlow : 10 ^ ((Nat.toDigits 10 c).length - 1) ≤ c := by
    rcases Nat.eq_zero_or_pos ((Nat.toDigits 10 c).length - 1) with h | h
    · rw [h]
      exact hc
    · refine not_lt.1 fun hlt => ?_
      have := (Nat.length_toDigits_le_iff (by norm_num) h).2 hlt
      omega
  have hpos : 0 < (Nat.toDigits 10 c).length := Nat.length_toDigits_pos
  constructor
  · have hsplit : ((Nat.toDigits 10 c).length : Int) + e - 1 =
        (((Nat.toDigits 10 c).length - 1 : Nat) : Int) + e := by omega
    rw [hsplit, zpow_add₀ (by norm_num), zpow_natCast]
    exact mul_le_mul_of_nonneg_right (by exact_mod_cast hlow) hten.le
  · rw [zpow_add₀ (by norm_num), zpow_natCast]
    exact mul_lt_mul_of_pos_right (by exact_mod_cast hhigh) hten

theorem limit_lt_ten_pow : limit < 10 ^ (310 : ℤ) := by
  have hpow : (2 : ℚ) ^ 1024 = 2 * (2 ^ 93) ^ 11 := by rw [← pow_mul, ← pow_succ']
  have hten : (10 : ℚ) ^ (310 : ℤ) = 10 ^ 2 * (10 ^ 28) ^ 11 := by
    rw [← pow_mul, ← pow_add]
    exact zpow_natCast (10 : ℚ) 310
  calc limit
    _ < 2 ^ 1024 := sub_lt_self _ (by positivity)
    _ = 2 * (2 ^ 93) ^ 11 := hpow
    _ ≤ 10 ^ 2 * (10 ^ 28) ^ 11 := by gcongr <;> norm_num
    _ = 10 ^ (310 : ℤ) := hten.symm

/-- What is rounded to zero unseen is less than half of the least positive number. -/
theorem ten_pow_le : (2 : ℚ) * 10 ^ (-331 : ℤ) ≤ 2 ^ (-1074 : ℤ) := by
  have hpow : (2 : ℚ) ^ 1074 * 2 = (2 ^ 43) ^ 25 := by rw [← pow_mul, ← pow_succ]
  have hten : (10 : ℚ) ^ 331 = (10 ^ 13) ^ 25 * 10 ^ 6 := by rw [← pow_mul, ← pow_add]
  have htwo : (2 : ℚ) ^ 1074 * 2 ≤ 10 ^ 331 := by
    rw [hpow, hten]
    calc (2 ^ 43 : ℚ) ^ 25
      _ ≤ (10 ^ 13) ^ 25 := by gcongr; norm_num
      _ ≤ (10 ^ 13) ^ 25 * 10 ^ 6 := le_mul_of_one_le_right (by positivity) (by norm_num)
  rw [zpow_neg, zpow_neg, ← div_eq_mul_inv, div_le_iff₀ (zpow_pos (by norm_num) _),
    inv_mul_eq_div, le_div_iff₀ (zpow_pos (by norm_num) _), mul_comm]
  exact htwo

theorem rounds_zero_of_lt (negative : Bool) (hy : 0 ≤ y) (h : 2 * y < 2 ^ (-1074 : ℤ)) :
    Rounds negative y (zero negative) := by
  have hlimit : y < limit := by
    have hunit : (2 : ℚ) ^ (-1074 : ℤ) ≤ 1 := zpow_le_one_of_nonpos₀ (by norm_num) (by norm_num)
    have hlimit := one_lt_limit
    linarith
  refine .finite hlimit ⟨by norm_num, le_rfl, by norm_num, fun k p _ hp => ?_⟩
  rw [magnitude, Nat.cast_zero, zero_mul, zero_sub, abs_neg, abs_of_nonneg hy, magnitude]
  rcases Nat.eq_zero_or_pos k with rfl | hk
  · rw [Nat.cast_zero, zero_mul, zero_sub, abs_neg, abs_of_nonneg hy]
  · have hone : (1 : ℚ) ≤ k := by exact_mod_cast hk
    have hpow := zpow_le hp
    have hunit : (0 : ℚ) < 2 ^ p := zpow_pos (by norm_num) p
    refine le_trans ?_ (le_abs_self _)
    nlinarith

/-- A decimal is rounded to the nearest finite number, or to infinity from the limit on. -/
theorem rounds_ofDecimal (negative : Bool) (c : Nat) (e : Int) :
    Rounds negative (c * 10 ^ e) (ofDecimal negative c e) := by
  unfold ofDecimal
  dsimp only
  split
  · rename_i hc
    rw [hc, Nat.cast_zero, zero_mul]
    exact rounds_zero negative
  rename_i hc
  obtain ⟨hlow, hhigh⟩ := digits_bounds (Nat.pos_of_ne_zero hc) e
  split
  · rename_i hplaces
    refine .infinite (limit_lt_ten_pow.le.trans (le_trans ?_ hlow))
    exact zpow_le_zpow_right₀ (by norm_num) (by omega)
  split
  · rename_i hplaces
    have hvalue : (0 : ℚ) ≤ c * 10 ^ e :=
      mul_nonneg (Nat.cast_nonneg c) (zpow_nonneg (by norm_num) e)
    refine rounds_zero_of_lt negative hvalue ?_
    have hpow : (10 : ℚ) ^ (((Nat.toDigits 10 c).length : Int) + e) ≤ 10 ^ (-331 : ℤ) :=
      zpow_le_zpow_right₀ (by norm_num) (by omega)
    have := ten_pow_le
    linarith
  · have hratio : (c * 10 ^ e : ℚ) =
        ((c * Nat.pow 10 e.toNat : Nat) : ℚ) / (Nat.pow 10 (-e).toNat : Nat) := by
      rw [zpow_eq_div (by norm_num), ← mul_div_assoc]
      push_cast [Nat.pow_eq]
      rfl
    rw [hratio]
    exact rounds_ofRatio negative _ (Nat.pow_pos (by decide))

/-! Cutting off. -/

theorem wholePart_neg (x : ℚ) : wholePart (-x) = -wholePart x := by
  unfold wholePart
  rcases lt_trichotomy x 0 with h | rfl | h
  · rw [if_pos (by linarith), if_neg (by linarith), Int.floor_neg]
  · simp
  · rw [if_neg (by linarith), if_pos h.le, Int.ceil_neg]

theorem magnitude_eq (m : Nat) (q : Int) : magnitude m q =
    ((m * Nat.pow 2 q.toNat : Nat) : ℚ) / (Nat.pow 2 (-q).toNat : Nat) := by
  rw [magnitude, zpow_eq_div (by norm_num), ← mul_div_assoc]
  push_cast [Nat.pow_eq]
  rfl

theorem truncate_eq (negative : Bool) (m : Nat) (q : Int) :
    truncate negative m q = wholePart (signed negative (magnitude m q)) := by
  have hpos : wholePart (magnitude m q) =
      (m * Nat.pow 2 q.toNat / Nat.pow 2 (-q).toNat : Nat) := by
    rw [wholePart, if_pos (magnitude_nonneg m q), magnitude_eq]
    exact Rat.floor_natCast_div_natCast _ _
  unfold truncate signed
  dsimp only
  cases negative with
  | true => rw [if_pos rfl, if_pos rfl, wholePart_neg, hpos]
  | false => exact hpos.symm

end TestScribe.Binary64
