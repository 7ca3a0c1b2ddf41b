import TestScribe.Pattern.Basic
import TestScribe.Text.Blank
import TestScribe.Text.CaseFold
import TestScribe.Text.Digit
import TestScribe.Text.Word

/-!
Sets of characters as they are tested. Where case is ignored, a character is made lower case first,
and the set holds lower case forms; beyond the basic plane it holds single characters as they were
written, and a range takes in what has its upper case there.
-/

namespace TestScribe.Pattern

inductive Fold where
  | exact | ascii | unicode
  deriving DecidableEq

def basicEnd : Nat := 0xFFFF

def isAsciiUpper (n : Nat) : Bool := 65 ≤ n && n ≤ 90
def isAsciiLower (n : Nat) : Bool := 97 ≤ n && n ≤ 122

namespace Fold

def ofFlags (flags : Flags) : Fold :=
  if !flags.contains .ignoreCase then .exact
  else if flags.contains .ascii then .ascii else .unicode

def apply : Fold → Nat → Nat
  | exact, n => n
  | ascii, n => if isAsciiUpper n then n + 32 else n
  | unicode, n => Text.lowerCode n

def casedWithin : Fold → Nat → Nat → Bool
  | exact, _, _ => false
  | ascii, lo, hi => max lo 65 ≤ min hi 90 || max lo 97 ≤ min hi 122
  | unicode, lo, hi => Text.casedWithin lo hi

def cased (f : Fold) (n : Nat) : Bool := f.casedWithin n n

/-- Folded code points that are told from a folded one by nothing but case. -/
def kin : Fold → Nat → List Nat
  | unicode, n => Text.caseKinOf n
  | _, _ => []

/-- The code points that are folded to a folded one. -/
def sources : Fold → Nat → List Nat
  | exact, n => [n]
  | ascii, n => if isAsciiLower n then [n, n - 32] else [n]
  | unicode, n => n :: Text.raisedForms n

end Fold

inductive CharsetItem where
  | one (n : Nat)
  | range (lo hi : Nat)
  | category (k : Category) (ascii negated : Bool)
  /-- What the code points of a range are folded to, and its kin. -/
  | folded (f : Fold) (lo hi : Nat)
  /-- A range that also takes in what has its upper case there. -/
  | raised (lo hi : Nat)
  deriving DecidableEq

structure Charset where
  negated : Bool
  items : List CharsetItem
  deriving DecidableEq

def isAsciiWord (c : Char) : Bool := c.isAlphanum || c = '_'

def asciiBlanks : List Char := [' ', '\t', '\n', '\r', '\x0b', '\x0c']

def Category.contains (ascii : Bool) (c : Char) : Category → Bool
  | digit => if ascii then c.isDigit else Text.isDigit c
  | space => if ascii then asciiBlanks.contains c else Text.isBlank c
  | word => if ascii then isAsciiWord c else Text.isWord c

def within (lo hi n : Nat) : Bool := lo ≤ n && n ≤ hi

namespace Charset

def holds (n : Nat) : CharsetItem → Bool
  | .one m => m == n
  | .range lo hi => within lo hi n
  | .category k ascii negated => k.contains ascii (Char.ofNat n) != negated
  | .folded f lo hi => (n :: f.kin n).any fun k => (f.sources k).any (within lo hi)
  | .raised lo hi => within lo hi n || within lo hi (Text.upperCode n)

def contains (s : Charset) (n : Nat) : Bool := s.items.any (holds n) != s.negated

def plainItem (ascii : Bool) : ClassItem → CharsetItem
  | .one n => .one n
  | .range lo hi => .range lo hi
  | .category k negated => .category k ascii negated

def plain (ascii negated : Bool) (items : List ClassItem) : Charset :=
  ⟨negated, items.map (plainItem ascii)⟩

def foldedItem (f : Fold) (ascii : Bool) : ClassItem → List CharsetItem
  | .one n =>
    if basicEnd < n then [.one n]
    else (f.apply n :: f.kin (f.apply n)).map .one
  | .range lo hi =>
    if basicEnd < hi then [.folded f lo (min hi basicEnd), .raised lo hi] else [.folded f lo hi]
  | .category k negated => [.category k ascii negated]

/-- Whether the case of letters can matter for a part of a class. Beyond the basic plane it is taken
to matter always. -/
def needsFold (f : Fold) : ClassItem → Bool
  | .one n => basicEnd < n || f.cased n
  | .range lo hi => basicEnd < hi || f.casedWithin lo hi
  | .category _ _ => false

/-- A class, and the fold that its characters are tested with. -/
def ofClass (f : Fold) (ascii negated : Bool) (items : List ClassItem) : Fold × Charset :=
  if f = .exact || !items.any (needsFold f) then (.exact, plain ascii negated items)
  else (f, ⟨negated, items.flatMap (foldedItem f ascii)⟩)

end Charset

example : (Charset.ofClass .unicode false false [.one 0x53, .range 0x78 0x7A]).2.contains 0x17F :=
  by decide +kernel
example : (Charset.ofClass .unicode false false [.one 0x78, .one 0x10400]).2.contains 0x10428 = false :=
  by decide +kernel

end TestScribe.Pattern
