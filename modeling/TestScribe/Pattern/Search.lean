import TestScribe.Pattern.Program

/-!
Searching a text for a pattern, by backtracking. A step is run at a place, with what is to follow
it; it tries its ways in order, and says whether one of them leads to a match.

The marks of groups are kept in registers. A way that leads nowhere can leave its marks behind:
outside repetitions only those that are beyond the last one before it are taken back. So are the
rounds of a possessive repetition run apart from what follows, which goes on from the place that was
reached last, even by a round that led nowhere.
-/

namespace TestScribe.Pattern

/-- The marks that are set, up to the last one; those passed over are empty. -/
abbrev Marks := Array (Option Nat)

structure Registers where
  /-- The place that was reached last. -/
  place : Nat := 0
  marks : Marks := #[]

abbrev Trial := StateM Registers Bool

/-- What follows a step, at the place where the step ends. -/
abbrev Onward := Nat → Trial

def Marks.put (m : Marks) (i place : Nat) : Marks :=
  if i < m.size then m.setIfInBounds i (some place)
  else (m ++ Array.replicate (i - m.size) none).push (some place)

def Marks.span? (m : Marks) (i : Nat) : Option (Nat × Nat) :=
  match (m[2 * (i - 1)]?).join, (m[2 * (i - 1) + 1]?).join with
  | some a, some b => if a ≤ b then some (a, b) else none
  | _, _ => none

/-- Whether a group ends before it starts. -/
def Marks.areCrossed (m : Marks) : Bool :=
  (List.range (m.size / 2)).any fun i =>
    match (m[2 * i]?).join, (m[2 * i + 1]?).join with
    | some a, some b => b < a
    | _, _ => false

def reach (place : Nat) : StateM Registers Unit := modify fun r => { r with place }

/-- The end of a sequence that is run apart. -/
def arrive : Onward := fun p => do
  reach p
  return true

/-- Takes marks back after a way that led nowhere: all that changed, or those beyond the last one
that there was. -/
def takeBack (all : Bool) (saved : Marks) : StateM Registers Unit :=
  modify fun r => { r with marks := if all then saved else r.marks.extract 0 saved.size }

namespace Spot

/-- Whether the characters on the two sides of a place differ in being word characters. An empty
text has no places to speak of. -/
def atWordEdge (s : Array Char) (ascii negated : Bool) (place : Nat) : Bool :=
  let isWord (c : Option Char) : Bool := c.any fun c => Category.word.contains ascii c
  let before := if place = 0 then none else s[place - 1]?
  !s.isEmpty && (isWord before != isWord s[place]?) != negated

def holds (s : Array Char) (place : Nat) : Spot → Bool
  | textStart => place = 0
  | textEnd => place = s.size
  | lineStart => place = 0 || s[place - 1]? == some '\n'
  | lineEnd => place = s.size || s[place]? == some '\n'
  | lastLineEnd => place = s.size || place + 1 = s.size && s[place]? == some '\n'
  | wordEdge ascii negated => atWordEdge s ascii negated place

end Spot

namespace CharTest

def accepts (c : Char) : CharTest → Bool
  | letter f negated n => (f.apply c.toNat == n) != negated
  | any lineEnds => lineEnds || c ≠ '\n'
  | oneOf f set => set.contains (f.apply c.toNat)

def acceptsAt (t : CharTest) (s : Array Char) (place : Nat) : Bool :=
  (s[place]?).any fun c => t.accepts c

/-- How many characters from a place on are accepted one after the other, `most` at most. -/
def count (t : CharTest) (s : Array Char) (most : Nat) (place : Nat) : Nat :=
  match most with
  | 0 => 0
  | most + 1 => if t.acceptsAt s place then t.count s most (place + 1) + 1 else 0

/-- Whether the characters that are counted are reached one by one. -/
def reaches : CharTest → Bool
  | oneOf f _ => f ≠ .exact
  | _ => false

end CharTest

/-- Counts characters at a place, which is then reached, and with some tests also those counted. -/
def countAt (t : CharTest) (s : Array Char) (most : Option Nat) (place : Nat) :
    StateM Registers Nat := do
  let left := s.size - place
  let n := t.count s (match most with
    | some m => min m left
    | none => left) place
  reach (if t.reaches then place + n else place)
  return n

/-- Whether a branch can be left out at a place, since its first character is not there. -/
def isHopeless (s : Array Char) (place : Nat) : List Step → Bool
  | .one (.letter .exact false n) :: _ => !(CharTest.letter .exact false n).acceptsAt s place
  | .one (.oneOf .exact set) :: _ => !(CharTest.oneOf .exact set).acceptsAt s place
  | _ => false

def tryOnward (inside : Bool) (saved : Marks) (k : Onward) : Onward := fun p => do
  reach p
  if ← k p then return true
  takeBack inside saved
  return false

/-- Tries what follows a row of `extra` characters from a place, and then of ever fewer. Where a
letter must follow, it is tried only before that letter. -/
def shrinking (s : Array Char) (inside : Bool) (saved : Marks) (next : Option Nat) (k : Onward)
    (start : Nat) (extra : Nat) : Trial := do
  let p := start + extra
  let possible := next.all fun n => (s[p]?).any fun c => c.toNat == n
  let found ← if possible then tryOnward inside saved k p else pure false
  if found then return true
  else
    match extra with
    | 0 => return false
    | extra + 1 => shrinking s inside saved next k start extra

/-- Tries what follows a row at a place, and then with ever more characters, as long as they are
accepted and there are not too many. -/
def growing (t : CharTest) (s : Array Char) (inside : Bool) (saved : Marks) (k : Onward) :
    Nat → Option Nat → Onward
  | 0, _, _ => return false
  | fuel + 1, more, p => do
    if ← tryOnward inside saved k p then return true
    let n ← countAt t s (some 1) p
    if n = 0 || more = some 0 then return false
    else growing t s inside saved k fuel (more.map (· - 1)) (p + 1)

def rowOf (s : Array Char) (inside : Bool) (least : Nat) (most : Option Nat) (greed : Greed)
    (t : CharTest) (next : Option Nat) (k : Onward) : Onward := fun p => do
  if s.size < p + least then return false
  match greed with
  | .lazy =>
    let n ← if least = 0 then do
        reach p
        pure 0
      else countAt t s (some least) p
    if n < least then return false
    let saved := (← get).marks
    growing t s inside saved k (s.size - p + 1) (most.map (· - least)) (p + least)
  | .greedy =>
    let n ← countAt t s most p
    if n < least then return false
    let saved := (← get).marks
    shrinking s inside saved next k (p + least) (n - least)
  | .possessive =>
    let n ← countAt t s most p
    if n < least then return false
    k (p + n)

/-- A repetition that goes on as long as it can, after `count` rounds. Beyond the least count, a
round must not begin where the one before began. -/
def greedyRounds (body : Onward → Onward) (least : Nat) (most : Option Nat) (k : Onward) :
    Nat → Nat → Option Nat → Onward
  | 0, _, _, _ => return false
  | fuel + 1, count, last, p => do
    reach p
    if count < least then
      if ← body (greedyRounds body least most k fuel (count + 1) last) p then return true
      reach p
      return false
    else
      if most.all (count < ·) && last ≠ some p then
        let saved := (← get).marks
        if ← body (greedyRounds body least most k fuel (count + 1) (some p)) p then return true
        takeBack true saved
        reach p
      if ← k p then return true
      reach p
      return false

/-- A repetition that goes on only if what follows fails. -/
def lazyRounds (body : Onward → Onward) (inside : Bool) (least : Nat) (most : Option Nat)
    (k : Onward) : Nat → Nat → Option Nat → Onward
  | 0, _, _, _ => return false
  | fuel + 1, count, last, p => do
    reach p
    if count < least then
      if ← body (lazyRounds body inside least most k fuel (count + 1) last) p then return true
      reach p
      return false
    else
      let saved := (← get).marks
      if ← k p then return true
      takeBack inside saved
      reach p
      if most.all (count < ·) && last ≠ some p then
        if ← body (lazyRounds body inside least most k fuel (count + 1) (some p)) p then return true
        reach p
      return false

/-- The rounds of a possessive repetition, each from the place that was reached last. -/
def ownRounds (body : Onward → Onward) (least : Nat) (most : Option Nat) (start : Nat) :
    Nat → Nat → Option Nat → Trial
  | 0, _, _ => return true
  | fuel + 1, count, last => do
    let p := (← get).place
    if count < least then
      if ← body arrive p then ownRounds body least most start fuel (count + 1) last
      else
        reach start
        return false
    else if most.all (count < ·) && last ≠ some p then
      let saved := (← get).marks
      if ← body arrive p then ownRounds body least most start fuel (count + 1) (some p)
      else
        takeBack true saved
        return true
    else return true

def retake (s : Array Char) (f : Fold) (a b : Nat) (k : Onward) : Onward := fun p => do
  let same := (List.range (b - a)).all fun i =>
    match s[a + i]?, s[p + i]? with
    | some c, some d => f.apply c.toNat == f.apply d.toNat
    | _, _ => false
  if same then k (p + (b - a)) else return false

mutual

def Step.run (s : Array Char) : Step → Onward → Onward
  | .one t, k => fun p => if t.acceptsAt s p then k (p + 1) else return false
  | .spot a, k => fun p => if a.holds s p then k p else return false
  | .mark i, k => fun p => do
    modify fun r => { r with marks := r.marks.put i p }
    k p
  | .choice inside branches, k => fun p => do
    let saved := (← get).marks
    anyOf s inside saved branches k p
  | .many inside least most greed t next, k => rowOf s inside least most greed t next k
  | .loop inside least most greed body, k => fun p =>
    let fuel := least + s.size + 2
    match greed with
    | .greedy => greedyRounds (runAll s body) least most k fuel 0 none p
    | .lazy => lazyRounds (runAll s body) inside least most k fuel 0 none p
    | .possessive => do
      reach p
      if ← ownRounds (runAll s body) least most p fuel 0 none then k (← get).place
      else return false
  | .atomic body, k => fun p => do
    reach p
    if ← runAll s body arrive p then k (← get).place
    else
      reach p
      return false
  | .look inside behind negated body, k => fun p => do
    if p < behind then (if negated then k p else return false)
    else
      let saved := (← get).marks
      reach (p - behind)
      let found ← runAll s body arrive (p - behind)
      if negated then
        if found then return false
        takeBack inside saved
        k p
      else if found then k p
      else return false
  | .again f i, k => fun p => do
    match (← get).marks.span? i with
    | some (a, b) => retake s f a b k p
    | none => return false
  | .conditional i yes no, k => fun p => do
    if ((← get).marks.span? i).isSome then runAll s yes k p else runAll s no k p

def runAll (s : Array Char) : List Step → Onward → Onward
  | [], k => k
  | a :: r, k => a.run s (runAll s r k)

def anyOf (s : Array Char) (inside : Bool) (saved : Marks) : List (List Step) → Onward → Onward
  | [], _ => fun _ => return false
  | b :: r, k => fun p => do
    if isHopeless s p b then anyOf s inside saved r k p
    else
      if ← tryOnward inside saved (runAll s b k) p then return true
      anyOf s inside saved r k p

end

/-- How a search ends: a match may turn out to have groups that end before they start. -/
inductive Finding where
  | nothing | aMatch | crossedGroups
  deriving DecidableEq

def Program.searchFrom (g : Program) (s : Array Char) : List Nat → Finding
  | [] => .nothing
  | i :: r =>
    match (runAll s g.steps arrive i).run { place := i } with
    | (true, regs) => if regs.marks.areCrossed then .crossedGroups else .aMatch
    | (false, _) => g.searchFrom s r

def Program.search (g : Program) (t : Text) : Finding :=
  let s := t.toArray
  g.searchFrom s (g.start.places s)

end TestScribe.Pattern
