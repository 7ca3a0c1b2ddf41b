import TestScribe.Text.Basic

/-!
UTF-8. `ofBytes?` refuses everything that is not the encoding of a text: stray and missing
continuation bytes, overlong forms, surrogates, and code points beyond the last plane.
-/

namespace TestScribe.Utf8

/-- The number of continuation bytes that a first byte asks for, the bits it gives itself, and the
least code point that may be written so. -/
def lead? (b : UInt8) : Option (Nat × Nat × Nat) :=
  let n := b.toNat
  if n < 0x80 then some (0, n, 0)
  else if 0xC2 ≤ n ∧ n < 0xE0 then some (1, n - 0xC0, 0x80)
  else if 0xE0 ≤ n ∧ n < 0xF0 then some (2, n - 0xE0, 0x800)
  else if 0xF0 ≤ n ∧ n < 0xF5 then some (3, n - 0xF0, 0x10000)
  else none

/-- The character of a code point, unless it is a surrogate or out of range. -/
def scalar? (least n : Nat) : Option Char :=
  if least ≤ n ∧ (n < 0xD800 ∨ 0xDFFF < n) ∧ n ≤ 0x10FFFF then some (Char.ofNat n) else none

/-- Decoding inside a character: `pending` continuation bytes are to come. -/
structure State where
  pending : Nat
  bits : Nat
  least : Nat

def decodeFrom : State → List UInt8 → Option Text
  | s, [] => if s.pending = 0 then some [] else none
  | s, b :: r =>
    match s.pending with
    | 0 =>
      match lead? b with
      | none => none
      | some (0, n, _) => (decodeFrom ⟨0, 0, 0⟩ r).map (Char.ofNat n :: ·)
      | some (k + 1, n, least) => decodeFrom ⟨k + 1, n, least⟩ r
    | k + 1 =>
      if b.toNat / 64 = 2 then
        let n := s.bits * 64 + b.toNat % 64
        if k = 0 then
          match scalar? s.least n with
          | none => none
          | some c => (decodeFrom ⟨0, 0, 0⟩ r).map (c :: ·)
        else decodeFrom ⟨k, n, s.least⟩ r
      else none

def ofBytes? (bytes : List UInt8) : Option Text := decodeFrom ⟨0, 0, 0⟩ bytes

def size (c : Char) : Nat :=
  if c.toNat < 0x80 then 1 else if c.toNat < 0x800 then 2 else if c.toNat < 0x10000 then 3 else 4

def byteLength (t : Text) : Nat := t.foldl (fun n c => n + size c) 0

example : ofBytes? [0x61, 0xC3, 0xA9] = some "aé" := by decide +kernel
example : ofBytes? [0xC0, 0x80] = none ∧ ofBytes? [0xED, 0xA0, 0x80] = none := by decide +kernel
example : ofBytes? [0xE2, 0x82] = none ∧ ofBytes? [0x80] = none := by decide +kernel

end TestScribe.Utf8
