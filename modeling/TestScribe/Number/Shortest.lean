import TestScribe.Number.Binary64
import TestScribe.Text.Digit

/-!
The shortest decimal text of a binary64 number: the fewest digits that read back as the same
number, and of those the nearest. Tens exponents from -4 to 15 are written out, others with an `e`.
-/

namespace TestScribe.Binary64

/-- A magnitude `m * 2 ^ q` and the ends of the interval of magnitudes that round to it, all in
quarters of `2 ^ q`. The interval is half as wide below a power of two. -/
structure Neighbourhood where
  low : Nat
  centre : Nat
  high : Nat
  power : Int
  closed : Bool

def Neighbourhood.of (m : Nat) (q : Int) : Neighbourhood :=
  { low := if m = Nat.pow 2 52 ∧ -1074 < q then 4 * m - 1 else 4 * m - 2
    centre := 4 * m
    high := 4 * m + 2
    power := q - 2
    closed := m % 2 == 0 }

/-- The two sides of a comparison of `a * 10 ^ e` with `b * 2 ^ p`, as integers. -/
def sides (a : Nat) (e : Int) (b : Nat) (p : Int) : Nat × Nat :=
  (a * Nat.pow 10 e.toNat * Nat.pow 2 (-p).toNat, b * Nat.pow 10 (-e).toNat * Nat.pow 2 p.toNat)

/-- Whether `a * 10 ^ e` rounds to the number in the middle. -/
def Neighbourhood.contains (h : Neighbourhood) (a : Nat) (e : Int) : Bool :=
  let l := sides a e h.low h.power
  let r := sides a e h.high h.power
  if h.closed then l.2 ≤ l.1 && r.1 ≤ r.2 else l.2 < l.1 && r.1 < r.2

/-- Of the two multiples of `10 ^ e` beside the number, the one that reads back; of two that do, the
nearer, and in a tie the even one. -/
def Neighbourhood.pick? (h : Neighbourhood) (e : Int) : Option Nat :=
  let s := sides 1 e h.centre h.power
  let a := s.2 / s.1
  let r := s.2 % s.1
  match h.contains a e, h.contains (a + 1) e with
  | false, false => none
  | true, false => some a
  | false, true => some (a + 1)
  | true, true => some (if 2 * r < s.1 then a else if s.1 < 2 * r then a + 1 else a + a % 2)

/-- The number of places before the decimal point of `m * 2 ^ q`; a negative count is of the zeros
after the point. -/
def placesOf (m : Nat) (q : Int) : Int :=
  let n := m * Nat.pow 2 q.toNat
  let d := Nat.pow 2 (-q).toNat
  if d ≤ n then (Nat.toDigits 10 (n / d)).length
  else 1 - ((Nat.toDigits 10 ((d + n - 1) / n - 1)).length : Int)

/-- The digits of the shortest decimal, without trailing zeros, and the place of its point. -/
def shortest (m : Nat) (q : Int) : Text × Int :=
  let h := Neighbourhood.of m q
  let places := placesOf m q
  let found := (List.range 17).findSome? fun (i : Nat) =>
    let e := places - ((i : Int) + 1)
    (h.pick? e).map fun a => (a, e)
  match found with
  | some (a, e) =>
    let digits := Nat.toDigits 10 a
    (Text.dropEndWhile (· = '0') digits, digits.length + e)
  | none => (Nat.toDigits 10 m, places)

def zeros (n : Int) : Text := List.replicate n.toNat '0'

def written (digits : Text) (places : Int) : Text :=
  if -4 < places ∧ places ≤ 16 then
    if places ≤ 0 then "0." ++ zeros (-places) ++ digits
    else if digits.length ≤ places then digits ++ zeros (places - digits.length) ++ ".0"
    else digits.take places.toNat ++ "." ++ digits.drop places.toNat
  else
    let e := places - 1
    let size := Nat.toDigits 10 e.natAbs
    digits.take 1 ++ (if digits.length ≤ 1 then [] else '.' :: digits.drop 1)
      ++ (if e < 0 then "e-" else "e+") ++ zeros (2 - size.length) ++ size

def signText (negative : Bool) : Text := if negative then ['-'] else []

def toText : Binary64 → Text
  | .notANumber => "nan"
  | .infinite negative => signText negative ++ "inf"
  | .finite negative 0 _ => signText negative ++ "0.0"
  | .finite negative (m + 1) q =>
    signText negative ++ (let (digits, places) := shortest (m + 1) q; written digits places)

example : (ofRatio false 1 10).toText = "0.1" := by decide +kernel
example : (ofDecimal false 5 (-324)).toText = "5e-324" := by decide +kernel
example : (ofDecimal false 1 16).toText = "1e+16" := by decide +kernel
example : (ofDecimal true 1234567 (-1)).toText = "-123456.7" := by decide +kernel
example : (ofDecimal false 1 (-4)).toText = "0.0001" := by decide +kernel
example : (ofDecimal false 1 (-7)).toText = "1e-07" := by decide +kernel
example : (ofDecimal false 9007199254740993 0).toText = "9007199254740992.0" := by decide +kernel

end TestScribe.Binary64
