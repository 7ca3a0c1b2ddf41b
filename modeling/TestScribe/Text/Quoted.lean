import TestScribe.Text.Printable
import TestScribe.Text.Basic

/-!
Quoted texts as they appear inside messages and inside the display of lists and objects. Single
quotes are used unless the text holds one of them and no double quote.
-/

namespace TestScribe.Text

def quoteOf (t : Text) : Char :=
  if t.contains '\x27' && !t.contains '\"' then '\"' else '\x27'

def hex : Nat → Nat → Text
  | 0, _ => []
  | width + 1, n => hex width (n / 16) ++ [(Nat.digitChar (n % 16))]

@[simp] theorem length_hex (width n : Nat) : (hex width n).length = width := by
  induction width generalizing n with
  | zero => rfl
  | succ w ih => simp [hex, ih]

def escapeIn (quote c : Char) : Text :=
  if c = quote ∨ c = '\\' then ['\\', c]
  else if c = '\n' then ['\\', 'n']
  else if c = '\r' then ['\\', 'r']
  else if c = '\t' then ['\\', 't']
  else if isPrintable c then [c]
  else if c.toNat < 256 then '\\' :: 'x' :: hex 2 c.toNat
  else if c.toNat < 65536 then '\\' :: 'u' :: hex 4 c.toNat
  else '\\' :: 'U' :: hex 8 c.toNat

def quoted (t : Text) : Text :=
  let q := quoteOf t
  q :: t.flatMap (escapeIn q) ++ [q]

example : quoted "a\nb" = "'a\\nb'" := by decide +kernel
example : quoted "it's" = "\"it's\"" := by decide +kernel
example : quoted "'\"" = "'\\'\"'" := by decide +kernel
example : quoted "\u00a0" = "'\\xa0'" := by decide +kernel

end TestScribe.Text
