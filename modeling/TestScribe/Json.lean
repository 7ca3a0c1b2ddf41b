import TestScribe.Fault

/-!
Reading JSON. Beyond the standard, `NaN`, `Infinity` and `-Infinity` are numbers, and of fields with
the same key the last one counts. A number without point and exponent is an integer, of any size up
to the digit limit.
-/

namespace TestScribe.Json

inductive ReadError where
  | malformed
  | tooManyDigits (digits : Nat)
  deriving DecidableEq

def isSpace (c : Char) : Bool := c = ' ' || c = '\t' || c = '\n' || c = '\r'

def skip (t : Text) : Text := t.dropWhile isSpace

def hexValue? (c : Char) : Option Nat :=
  if '0' ≤ c ∧ c ≤ '9' then some (c.toNat - 48)
  else if 'a' ≤ c ∧ c ≤ 'f' then some (c.toNat - 87)
  else if 'A' ≤ c ∧ c ≤ 'F' then some (c.toNat - 55)
  else none

def unit? : Text → Option (Nat × Text)
  | a :: b :: c :: d :: r => do
    let a ← hexValue? a
    let b ← hexValue? b
    let c ← hexValue? c
    let d ← hexValue? d
    some (((a * 16 + b) * 16 + c) * 16 + d, r)
  | _ => none

/-- The character of an escape that begins with `\u`: two surrogates in a row are one character. One
without the other is no character and is read as the replacement character; texts in which it counts
are written as `RawText`. -/
def unicode? (t : Text) : Option (Char × Text) := do
  let (n, r) ← unit? t
  if 0xD800 ≤ n ∧ n < 0xDC00 then
    match r with
    | '\\' :: 'u' :: s =>
      match unit? s with
      | some (k, rest) =>
        if 0xDC00 ≤ k ∧ k < 0xE000 then
          some (Char.ofNat (0x10000 + (n - 0xD800) * 1024 + (k - 0xDC00)), rest)
        else some ('\ufffd', r)
      | none => some ('\ufffd', r)
    | _ => some ('\ufffd', r)
  else if 0xDC00 ≤ n ∧ n < 0xE000 then some ('\ufffd', r)
  else some (Char.ofNat n, r)

/-- One character of a string, and the rest; nothing at the closing quote or at an error. -/
def stringChar? : Text → Option (Char × Text)
  | '\\' :: c :: r =>
    match c with
    | '\"' => some ('\"', r)
    | '\\' => some ('\\', r)
    | '/' => some ('/', r)
    | 'b' => some ('\x08', r)
    | 'f' => some ('\x0c', r)
    | 'n' => some ('\n', r)
    | 'r' => some ('\r', r)
    | 't' => some ('\t', r)
    | 'u' => unicode? r
    | _ => none
  | c :: r => if c = '\"' ∨ c = '\\' ∨ c.toNat < 32 then none else some (c, r)
  | [] => none

def readString : Nat → Text → Except ReadError (Text × Text)
  | 0, _ => .error .malformed
  | fuel + 1, t =>
    match stringChar? t with
    | some (c, r) => do
      let (s, rest) ← readString fuel r
      .ok (c :: s, rest)
    | none =>
      match t with
      | '\"' :: r => .ok ([], r)
      | _ => .error .malformed

def isAsciiDigit (c : Char) : Bool := '0' ≤ c && c ≤ '9'

def spanDigits (t : Text) : Text × Text := (t.takeWhile isAsciiDigit, t.dropWhile isAsciiDigit)

def natOf (digits : Text) : Nat := digits.foldl (fun n c => 10 * n + (c.toNat - 48)) 0

def fraction (t : Text) : Text × Text :=
  match t with
  | '.' :: r => match spanDigits r with
    | ([], _) => ([], t)
    | found => found
  | _ => ([], t)

/-- An exponent, if a whole one is there. -/
def exponent (t : Text) : Option Int × Text :=
  match t with
  | c :: r =>
    if c = 'e' ∨ c = 'E' then
      let (negative, body) := Numeral.sign r
      match spanDigits body with
      | ([], _) => (none, t)
      | (ds, rest) => (some (if negative then -(natOf ds : Int) else natOf ds), rest)
    else (none, t)
  | [] => (none, t)

def readNumber (negative : Bool) (t : Text) : Except ReadError (Value × Text) :=
  let whole : Text × Text := match t with
    | '0' :: r => (['0'], r)
    | _ => spanDigits t
  if whole.1.isEmpty then .error .malformed
  else
    let (part, r) := fraction whole.2
    let (e, r) := exponent r
    if part.isEmpty && e.isNone then
      if Numeral.maxDigits < whole.1.length then .error (.tooManyDigits whole.1.length)
      else
        let n : Int := natOf whole.1
        .ok (.int (if negative then -n else n), r)
    else
      let e : Int := e.getD 0 - part.length
      .ok (.float (.ofDecimal negative (natOf (whole.1 ++ part)) e), r)

def word? (w t : Text) : Option Text := if w.isPrefixOf t then some (t.drop w.length) else none

def readScalar (t : Text) : Except ReadError (Value × Text) :=
  match word? "null" t with
  | some r => .ok (.null, r)
  | none =>
    match word? "true" t with
    | some r => .ok (.bool true, r)
    | none =>
      match word? "false" t with
      | some r => .ok (.bool false, r)
      | none =>
        match word? "NaN" t with
        | some r => .ok (.float .notANumber, r)
        | none =>
          match word? "Infinity" t with
          | some r => .ok (.float (.infinite false), r)
          | none =>
            match word? "-Infinity" t with
            | some r => .ok (.float (.infinite true), r)
            | none =>
              match t with
              | '-' :: r => readNumber true r
              | _ => readNumber false t

mutual

/-- A value at the start of a text. The fuel bounds the number of steps. -/
def readValue : Nat → Text → Except ReadError (Value × Text)
  | 0, _ => .error .malformed
  | fuel + 1, t =>
    match t with
    | '\"' :: r => do
      let (s, rest) ← readString fuel r
      .ok (.text s, rest)
    | '[' :: r =>
      match skip r with
      | ']' :: rest => .ok (.list [], rest)
      | r => do
        let (vs, rest) ← readItems fuel r
        .ok (.list vs, rest)
    | '\x7b' :: r =>
      match skip r with
      | '\x7d' :: rest => .ok (.object [], rest)
      | r => do
        let (fs, rest) ← readFields fuel [] r
        .ok (.object fs, rest)
    | _ => readScalar t

def readItems : Nat → Text → Except ReadError (List Value × Text)
  | 0, _ => .error .malformed
  | fuel + 1, t => do
    let (v, r) ← readValue fuel t
    match skip r with
    | ']' :: rest => .ok ([v], rest)
    | ',' :: r =>
      let (vs, rest) ← readItems fuel (skip r)
      .ok (v :: vs, rest)
    | _ => .error .malformed

/-- The fields of an object up to its closing brace, added to those already read. -/
def readFields : Nat → List (Text × Value) → Text → Except ReadError (List (Text × Value) × Text)
  | 0, _, _ => .error .malformed
  | fuel + 1, done, t =>
    match t with
    | '\"' :: r => do
      let (k, r) ← readString fuel r
      match skip r with
      | ':' :: r =>
        let (v, r) ← readValue fuel (skip r)
        let done := Value.put k v done
        match skip r with
        | '\x7d' :: rest => .ok (done, rest)
        | ',' :: r => readFields fuel done (skip r)
        | _ => .error .malformed
      | _ => .error .malformed
    | _ => .error .malformed

end

/-- The value that a text denotes; nothing but blanks may stand around it. -/
def read (t : Text) : Except ReadError Value := do
  let (v, r) ← readValue (2 * t.length + 2) (skip t)
  if (skip r).isEmpty then .ok v else .error .malformed

end TestScribe.Json
