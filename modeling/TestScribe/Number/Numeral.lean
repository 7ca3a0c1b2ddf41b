import TestScribe.Number.Binary64
import TestScribe.Text.Blank
import TestScribe.Text.Digit

/-!
Numerals as people write them: blanks around, a sign, decimal digits of any script with single
underscores between them, and for fractional numbers a point, an exponent, or a named infinity.
-/

namespace TestScribe.Numeral

/-- Blanks that may surround a numeral: all but the information separators. -/
def isMargin (c : Char) : Bool := Text.isBlank c && !(28 ≤ c.toNat && c.toNat ≤ 31)

/-- Digits at the start of a text, where an underscore may stand between two of them, and the rest.
`started` tells that a digit stands just before. -/
def digits (started : Bool) : Text → List Nat × Text
  | [] => ([], [])
  | '_' :: c :: r =>
    match started, Text.digit? c with
    | true, some d => let (ds, rest) := digits true r; (d :: ds, rest)
    | _, _ => ([], '_' :: c :: r)
  | c :: r =>
    match Text.digit? c with
    | some d => let (ds, rest) := digits true r; (d :: ds, rest)
    | none => ([], c :: r)

def valueOf (ds : List Nat) : Nat := ds.foldl (fun n d => 10 * n + d) 0

def sign : Text → Bool × Text
  | '-' :: r => (true, r)
  | '+' :: r => (false, r)
  | t => (false, t)

inductive IntegerError where
  | malformed
  | tooLong (digits : Nat)
  deriving DecidableEq

def maxDigits : Nat := 4300

/-- The integer that a text denotes. An overlong run of digits is refused before what follows it is
looked at, unless that is an underscore. -/
def integer (t : Text) : Except IntegerError Int :=
  let (negative, body) := sign (Text.dropAroundWhile isMargin t)
  let (ds, rest) := digits false body
  if ds.isEmpty || rest.head? == some '_' then .error .malformed
  else if maxDigits < ds.length then .error (.tooLong ds.length)
  else if rest ≠ [] then .error .malformed
  else .ok (if negative then -(valueOf ds : Int) else valueOf ds)

/-- The exponent after a mark `e`; a text without a well-formed one is left as it is. -/
def exponent : Text → Int × Text
  | c :: r =>
    if c = 'e' ∨ c = 'E' then
      let (negative, body) := sign r
      match digits false body with
      | ([], _) => (0, c :: r)
      | (ds, rest) => (if negative then -(valueOf ds : Int) else valueOf ds, rest)
    else (0, c :: r)
  | [] => (0, [])

/-- The number that a text denotes, if it denotes one: what is denoted exactly is rounded once. -/
def number? (t : Text) : Option Binary64 :=
  let (negative, body) := sign (Text.dropAroundWhile isMargin t)
  let named := body.map Char.toLower
  if named = "nan" then some .notANumber
  else if named = "inf" ∨ named = "infinity" then some (.infinite negative)
  else
    let (whole, rest) := digits false body
    let (part, rest) :=
      match rest with
      | '.' :: r => digits false r
      | r => ([], r)
    let (e, rest) := exponent rest
    if whole.isEmpty && part.isEmpty || !rest.isEmpty then none
    else some (.ofDecimal negative (valueOf (whole ++ part)) (e - part.length))

example : integer " -1_000 " = .ok (-1000) := by rfl
example : integer "1__0" = .error .malformed := by rfl
example : number? "1e22" = some (.ofInt (10 ^ 22)) := by decide +kernel
example : number? "." = none ∧ number? "1e" = none ∧ number? "1_" = none := by decide +kernel
example : number? "-Infinity" = some (.infinite true) := by decide +kernel

end TestScribe.Numeral
