/-!
Binary64 numbers held exactly: a finite one is an integer times a power of two. Every operation
rounds once, to the nearest number and to the even one in a tie, starting from a ratio of integers.
-/

namespace TestScribe

/-- A finite number is `mantissa * 2 ^ exponent`, with a minus sign if it is marked negative. -/
inductive Binary64 where
  | notANumber
  | infinite (negative : Bool)
  | finite (negative : Bool) (mantissa : Nat) (exponent : Int)
  deriving DecidableEq

namespace Binary64

/-- The nearest integer to `n / d`; of two nearest ones the even. -/
def roundDiv (n d : Nat) : Nat :=
  let q := n / d
  let r := n % d
  if 2 * r < d then q else if d < 2 * r then q + 1 else q + q % 2

theorem two_mul_roundDiv_le {n d : Nat} : 2 * (roundDiv n d * d) ≤ 2 * n + d := by
  have h := Nat.div_add_mod n d
  have hm : d * (n / d) = n / d * d := Nat.mul_comm _ _
  unfold roundDiv
  dsimp only
  split
  · omega
  · split
    · rw [Nat.add_mul]; omega
    · rcases Nat.mod_two_eq_zero_or_one (n / d) with h2 | h2 <;> rw [h2]
      · simp only [Nat.add_zero]; omega
      · rw [Nat.add_mul]; omega

def scaled (n d : Nat) (q : Int) : Nat × Nat := (n * Nat.pow 2 (-q).toNat, d * Nat.pow 2 q.toNat)

/-- The exponent at which the ratio has 53 binary digits before the point, or the least one. -/
def exponentOf (n d : Nat) : Int :=
  let q := (n.log2 : Int) - d.log2 - 53
  let s := scaled n d q
  max (if s.1 < Nat.pow 2 53 * s.2 then q else q + 1) (-1074)

def zero (negative : Bool) : Binary64 := .finite negative 0 (-1074)

def ofRatio (negative : Bool) (n d : Nat) : Binary64 :=
  if n = 0 then zero negative
  else
    let q := exponentOf n d
    let s := scaled n d q
    let m := roundDiv s.1 s.2
    let (m, q) := if m = Nat.pow 2 53 then (Nat.pow 2 52, q + 1) else (m, q)
    if 971 < q then .infinite negative else .finite negative m q

def ofInt (n : Int) : Binary64 := ofRatio (n < 0) n.natAbs 1

/-- The number nearest to `c * 10 ^ e`. Outside the exponents that can give a positive finite number
the power is not computed. -/
def ofDecimal (negative : Bool) (c : Nat) (e : Int) : Binary64 :=
  let places := ((Nat.toDigits 10 c).length : Int) + e
  if c = 0 then zero negative
  else if 310 < places then .infinite negative
  else if places < -330 then zero negative
  else ofRatio negative (c * Nat.pow 10 e.toNat) (Nat.pow 10 (-e).toNat)

def isZero : Binary64 → Bool
  | .finite _ m _ => m == 0
  | _ => false

def truncate (negative : Bool) (m : Nat) (q : Int) : Int :=
  let n := m * Nat.pow 2 q.toNat / Nat.pow 2 (-q).toNat
  if negative then -n else n

example : ofRatio false 1 10 = .finite false 7205759403792794 (-56) := by decide +kernel
example : ofDecimal false 5 (-324) = .finite false 1 (-1074) := by decide +kernel
example : ofDecimal false 2 308 = .infinite false := by decide +kernel
example : ofInt 9007199254740993 = .finite false 4503599627370496 1 := by decide +kernel

end Binary64

end TestScribe
