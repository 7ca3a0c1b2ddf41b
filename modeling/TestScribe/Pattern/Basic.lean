import TestScribe.Text.Basic

/-!
Search patterns as they are written: sequences of items, with alternatives, groups, repetitions and
looks around. Which flags hold where is left to whoever walks through the items. The width of a part
is the least and greatest number of characters that it can match.
-/

namespace TestScribe.Pattern

inductive Flag where
  | ignoreCase | multiline | dotAll | verbose | ascii | unicode | locale | template
  deriving DecidableEq

/-- Flags that say which characters count as letters; they exclude each other. -/
def Flag.isAlphabet : Flag → Bool
  | ascii | unicode | locale => true
  | _ => false

abbrev Flags := List Flag

def Flags.changed (flags on off : Flags) : Flags :=
  let kept := if on.any Flag.isAlphabet then flags.filter fun f => !f.isAlphabet else flags
  (kept ++ on).filter fun f => !off.contains f

inductive PatternError where
  | malformed
  | repetitionTooLarge
  | tooManyDigits (digits : Nat)
  | contradictoryFlags
  /-- A look reaches too far behind. -/
  | tooFarBehind
  deriving DecidableEq

inductive Category where
  | digit | space | word
  deriving DecidableEq

/-- A part of a character class. Code points need not be those of characters. -/
inductive ClassItem where
  | one (n : Nat)
  | range (lo hi : Nat)
  | category (k : Category) (negated : Bool)
  deriving DecidableEq

/-- Places: the start and the end of the text, or with a flag of a line; the start and the end of
the text in any case; and the edges of words. -/
inductive Anchor where
  | start | stop | textStart | textEnd
  | wordEdge (negated : Bool)
  deriving DecidableEq

/-- How a repetition goes on: as long as it can, as short as it can, or as long as it can without
ever giving back. -/
inductive Greed where
  | greedy | lazy | possessive
  deriving DecidableEq

inductive Item where
  | letter (n : Nat)
  | otherThan (n : Nat)
  | any
  | oneOf (negated : Bool) (items : List ClassItem)
  | anchor (a : Anchor)
  | alt (branches : List (List Item))
  /-- A group, numbered if it captures, inside which flags are set and cleared. -/
  | group (number : Option Nat) (on off : Flags) (body : List Item)
  | atomic (body : List Item)
  | repeated (least : Nat) (most : Option Nat) (greed : Greed) (body : List Item)
  | look (behind negated : Bool) (body : List Item)
  /-- The text that a group has matched. -/
  | again (i : Nat)
  /-- One of two ways, by whether a group has matched. -/
  | conditional (i : Nat) (yes no : List Item)

def maxRepeat : Nat := Nat.pow 2 32 - 1

structure Width where
  least : Nat
  most : Nat
  deriving DecidableEq

namespace Width

def zero : Width := ⟨0, 0⟩
def one : Width := ⟨1, 1⟩

/-- Widths are not told apart beyond the greatest count of a repetition. -/
def capped (w : Width) : Width := ⟨min w.least (maxRepeat - 1), min w.most maxRepeat⟩

def plus (v w : Width) : Width := ⟨v.least + w.least, v.most + w.most⟩

def or (v w : Width) : Width := ⟨min v.least w.least, max v.most w.most⟩

def times (w : Width) (least : Nat) (most : Option Nat) : Width :=
  ⟨w.least * least, w.most * most.getD maxRepeat⟩

end Width

mutual

/-- The width of an item, given those of the groups before it. -/
def Item.width (groups : List Width) : Item → Width
  | .letter _ | .otherThan _ | .any | .oneOf _ _ => .one
  | .anchor _ | .look _ _ _ => .zero
  | .alt branches => widthOfAny groups branches
  | .group _ _ _ body | .atomic body => (sumOfWidths groups body).capped
  | .repeated least most _ body => (sumOfWidths groups body).capped.times least most
  | .again i => (groups[i - 1]?).getD .zero
  | .conditional _ yes no => (sumOfWidths groups yes).capped.or (sumOfWidths groups no).capped

def sumOfWidths (groups : List Width) : List Item → Width
  | [] => .zero
  | i :: r => (i.width groups).plus (sumOfWidths groups r)

def widthOfAny (groups : List Width) : List (List Item) → Width
  | [] => ⟨maxRepeat - 1, 0⟩
  | b :: r => (sumOfWidths groups b).capped.or (widthOfAny groups r)

end

def widthOf (groups : List Width) (items : List Item) : Width := (sumOfWidths groups items).capped

end TestScribe.Pattern
