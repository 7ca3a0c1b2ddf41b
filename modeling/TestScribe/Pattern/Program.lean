import TestScribe.Pattern.Charset
import TestScribe.Pattern.Parser

/-!
Patterns as they are run: sequences of steps, with the flags that hold at each place put into the
steps, and with what is known beforehand about where a match can start.
-/

namespace TestScribe.Pattern

inductive Spot where
  | textStart | textEnd | lineStart | lineEnd | lastLineEnd
  | wordEdge (ascii negated : Bool)
  deriving DecidableEq

inductive CharTest where
  /-- One letter after folding, or with `negated` all others. -/
  | letter (f : Fold) (negated : Bool) (n : Nat)
  | any (lineEnds : Bool)
  | oneOf (f : Fold) (set : Charset)
  deriving DecidableEq

/-- A step of a run. Steps that try several ways know whether they are `inside` a repetition: there,
what groups have matched is put back between the ways. -/
inductive Step where
  | one (t : CharTest)
  | spot (s : Spot)
  /-- Sets a mark: a group has one where it starts, with an even number, and one where it ends. -/
  | mark (i : Nat)
  | choice (inside : Bool) (branches : List (List Step))
  /-- A repeated test. `next` is the letter that is sure to follow, if there is one. -/
  | many (inside : Bool) (least : Nat) (most : Option Nat) (greed : Greed) (t : CharTest)
    (next : Option Nat)
  | loop (inside : Bool) (least : Nat) (most : Option Nat) (greed : Greed) (body : List Step)
  | atomic (body : List Step)
  | look (inside : Bool) (behind : Nat) (negated : Bool) (body : List Step)
  | again (f : Fold) (i : Nat)
  | conditional (i : Nat) (yes no : List Step)

def isAscii (flags : Flags) : Bool := flags.contains .ascii

def letterTest (flags : Flags) (negated : Bool) (n : Nat) : CharTest :=
  let f := Fold.ofFlags flags
  if !f.cased n then .letter .exact negated n
  else
    match f.kin (f.apply n) with
    | [] => .letter f negated (f.apply n)
    | kin => .oneOf f ⟨negated, (f.apply n :: kin).map .one⟩

def classTest (flags : Flags) (negated : Bool) (items : List ClassItem) : CharTest :=
  let (f, set) := Charset.ofClass (.ofFlags flags) (isAscii flags) negated items
  .oneOf f set

/-- The test that an item amounts to, if it always takes one character. -/
def Item.test? (flags : Flags) : Item → Option CharTest
  | .letter n => some (letterTest flags false n)
  | .otherThan n => some (letterTest flags true n)
  | .any => some (.any (flags.contains .dotAll))
  | .oneOf negated items => some (classTest flags negated items)
  | .group none on off [i] => i.test? (flags.changed on off)
  | _ => none

def Anchor.spot (flags : Flags) : Anchor → Spot
  | start => if flags.contains .multiline then .lineStart else .textStart
  | stop => if flags.contains .multiline then .lineEnd else .lastLineEnd
  | textStart => .textStart
  | textEnd => .textEnd
  | wordEdge negated => .wordEdge (isAscii flags) negated

/-- The letter that a sequence begins with, where `next` begins what follows it. -/
def firstLetter (next : Option Nat) : List Step → Option Nat
  | [] => next
  | .one (.letter .exact false n) :: _ => some n
  | _ => none

mutual

/-- The steps of an item, given the widths of groups and the letter that follows. -/
def Item.steps (groups : List Width) (flags : Flags) (inside : Bool) (next : Option Nat) :
    Item → List Step
  | .letter n => [.one (letterTest flags false n)]
  | .otherThan n => [.one (letterTest flags true n)]
  | .any => [.one (.any (flags.contains .dotAll))]
  | .oneOf negated items => [.one (classTest flags negated items)]
  | .anchor a => [.spot (a.spot flags)]
  | .alt branches => [.choice inside (stepsOfEach groups flags inside branches)]
  | .group none on off body => stepsOf groups (flags.changed on off) inside next body
  | .group (some i) on off body =>
    .mark (2 * (i - 1)) :: stepsOf groups (flags.changed on off) inside none body
      ++ [.mark (2 * (i - 1) + 1)]
  | .atomic body => [.atomic (stepsOf groups flags inside none body)]
  | .repeated least most greed body =>
    match body with
    | [i] =>
      match i.test? flags with
      | some t => [.many inside least most greed t next]
      | none =>
        [.loop inside least most greed
          (i.steps groups flags (inside || greed ≠ .possessive) none)]
    | body =>
      [.loop inside least most greed
        (stepsOf groups flags (inside || greed ≠ .possessive) none body)]
  | .look behind negated body =>
    let width := if behind then (widthOf groups body).least else 0
    [.look inside width negated (stepsOf groups flags inside none body)]
  | .again i => [.again (.ofFlags flags) i]
  | .conditional i yes no =>
    [.conditional i (stepsOf groups flags inside (if no.isEmpty then next else none) yes)
      (stepsOf groups flags inside next no)]

def stepsOf (groups : List Width) (flags : Flags) (inside : Bool) (next : Option Nat) :
    List Item → List Step
  | [] => []
  | i :: r =>
    let following := stepsOf groups flags inside next r
    i.steps groups flags inside (firstLetter next following) ++ following

def stepsOfEach (groups : List Width) (flags : Flags) (inside : Bool) :
    List (List Item) → List (List Step)
  | [] => []
  | b :: r => stepsOf groups flags inside none b :: stepsOfEach groups flags inside r

end

/-! What is refused in the whole. -/

/-- Looks that reach as far behind as this are refused. -/
def farBehind : Nat := Nat.pow 2 31

mutual

def Item.has (p : Item → Bool) : Item → Bool
  | .alt branches => p (.alt branches) || anyHas p branches
  | .group n on off body => p (.group n on off body) || seqHas p body
  | .atomic body => p (.atomic body) || seqHas p body
  | .repeated least most greed body => p (.repeated least most greed body) || seqHas p body
  | .look behind negated body => p (.look behind negated body) || seqHas p body
  | .conditional i yes no => p (.conditional i yes no) || seqHas p yes || seqHas p no
  | i => p i

def seqHas (p : Item → Bool) : List Item → Bool
  | [] => false
  | i :: r => i.has p || seqHas p r

def anyHas (p : Item → Bool) : List (List Item) → Bool
  | [] => false
  | b :: r => seqHas p b || anyHas p r

end

/-- Whether an item looks behind a text whose length is not fixed. -/
def looksFreely (groups : List Width) : Item → Bool
  | .look true _ body => (widthOf groups body).least ≠ (widthOf groups body).most
  | _ => false

def looksFar (groups : List Width) : Item → Bool
  | .look true _ body => farBehind ≤ (widthOf groups body).least
  | _ => false

def isRepeated : Item → Bool
  | .repeated _ _ _ _ => true
  | _ => false

/-! Where a match can start. -/

mutual

/-- Whether an item begins with letters that have no case to ignore, and whether it is nothing but
such letters. -/
def Item.leadingLetters (flags : Flags) : Item → Bool × Bool
  | .letter n => if (Fold.ofFlags flags).cased n then (false, false) else (true, true)
  | .group _ on off body => leadingLettersOf (flags.changed on off) body
  | _ => (false, false)

def leadingLettersOf (flags : Flags) : List Item → Bool × Bool
  | [] => (false, true)
  | i :: r =>
    let (found, all) := i.leadingLetters flags
    if all then
      let (more, all) := leadingLettersOf flags r
      (found || more, all)
    else (found, false)

end

/-- The letter that an alternative begins with, if it has no case to ignore. -/
def leadingLetter (f : Fold) : List Item → Option CharsetItem
  | .letter n :: _ => if f.cased n then none else some (.one n)
  | _ => none

/-- Whether a part of a class can be looked for at the start of a match. -/
def isSteady (f : Fold) : ClassItem → Bool
  | .one n => !f.cased n
  | .range lo hi => f = .exact || hi ≤ basicEnd && !f.casedWithin lo hi
  | .category _ _ => true

mutual

/-- The set that the first character of a match is looked for in, if there is one. Its categories
are those of the flags that hold everywhere, `overall`, whatever flags hold where it stands. -/
def Item.startSet (overall flags : Flags) : Item → Option Charset
  | .group _ on off body => startSetOf overall (flags.changed on off) body
  | .alt branches => (branches.mapM (leadingLetter (.ofFlags flags))).map (⟨false, ·⟩)
  | .oneOf negated items =>
    if items.all (isSteady (.ofFlags flags)) then
      some (.plain (isAscii overall) negated items)
    else none
  | _ => none

def startSetOf (overall flags : Flags) : List Item → Option Charset
  | [] => none
  | i :: _ => i.startSet overall flags

end

/-- What is known about matches before they are tried. -/
structure Start where
  /-- At least so many characters are needed. -/
  least : Nat
  set : Option Charset
  /-- Whether matches begin with a letter. -/
  lettered : Bool

def Start.ofItems (groups : List Width) (flags : Flags) (items : List Item) : Start :=
  let least := (widthOf groups items).least
  let lettered := (leadingLettersOf flags items).1
  { least, lettered
    set := if least = 0 || lettered then none else startSetOf flags flags items }

def Start.places (b : Start) (s : Array Char) : List Nat :=
  if s.size < b.least then []
  else
    match b.set with
    | some set => (List.range s.size).filter fun i => (s[i]?).any fun c => set.contains c.toNat
    | none =>
      if b.lettered then List.range s.size
      else List.range (s.size - (b.least - 1) + 1)

structure Program where
  start : Start
  steps : List Step

def Parsed.program (p : Parsed) : Except PatternError Program :=
  if p.flags.contains .template && seqHas isRepeated p.items then .error .malformed
  else if seqHas (looksFreely p.groups) p.items then .error .malformed
  else if seqHas (looksFar p.groups) p.items then .error .tooFarBehind
  else .ok ⟨.ofItems p.groups p.flags p.items, stepsOf p.groups p.flags false none p.items⟩

def compile (t : Text) : Except PatternError Program := do (← parse t).program

end TestScribe.Pattern
