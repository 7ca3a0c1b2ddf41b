import TestScribe.Pattern.Basic
import TestScribe.Number.Numeral
import TestScribe.Text.Identifier

/-!
Reading patterns. A pattern is first cut into tokens, single characters and escapes; the reader then
goes through them with what is known so far: global flags, the groups with their names and widths,
and the groups that conditions have asked for. Alternatives with a common beginning share it, and
alternatives that are all single characters or classes are one class.
-/

namespace TestScribe.Pattern

def Flag.ofChar? (c : Char) : Option Flag :=
  [('i', ignoreCase), ('m', multiline), ('s', dotAll), ('x', verbose), ('a', ascii), ('u', unicode),
    ('L', locale), ('t', template)].lookup c

inductive Token where
  | char (c : Char)
  | escape (c : Char)
  /-- A backslash at the end. -/
  | broken
  deriving DecidableEq

def tokens : Text → List Token
  | [] => []
  | ['\\'] => [.broken]
  | '\\' :: c :: r => .escape c :: tokens r
  | c :: r => .char c :: tokens r

def Token.text : Token → Text
  | char c => [c]
  | escape c => ['\\', c]
  | broken => ['\\']

structure Known where
  rest : List Token
  flags : Flags := []
  /-- The widths of the groups from the first one on; a group without one is still open. -/
  widths : List (Option Width) := []
  names : List (Text × Nat) := []
  /-- The first group that the part behind may not refer to, while such a part is read. -/
  behindFrom : Option Nat := none
  conditions : List Nat := []

abbrev Parse := StateT Known (Except PatternError)

structure Scope where
  verbose : Bool
  top : Bool
  /-- Whether global flags may still be set here. -/
  first : Bool

def malformed {α : Type} : Parse α := throw .malformed

/-- Goes on with these tokens. A backslash at the end is found as soon as it comes next. -/
def moveTo (r : List Token) : Parse Unit := do
  if r.head? = some .broken then malformed else modify fun s => { s with rest := r }

def reading {α : Type} (f : List Token → Option (α × List Token)) : Parse α := do
  match f (← get).rest with
  | some (a, r) =>
    moveTo r
    return a
  | none => malformed

def accept (c : Char) : Parse Bool := do
  match (← get).rest with
  | .char d :: r =>
    if c = d then
      moveTo r
      return true
    else return false
  | _ => return false

def expect (c : Char) : Parse Unit := do
  if !(← accept c) then malformed

/-- The text up to a character, which is skipped; it may not be empty. -/
def textUntil (stop : Char) : List Token → Option (Text × List Token)
  | [] => none
  | .broken :: _ => none
  | t :: r =>
    if t = .char stop then some ([], r)
    else (textUntil stop r).map fun (s, rest) => (t.text ++ s, rest)

def nameUntil (stop : Char) (ts : List Token) : Option (Text × List Token) :=
  match textUntil stop ts with
  | some ([], _) => none
  | r => r

def skipUntil (stop : Char) : List Token → List Token
  | [] => []
  | .broken :: r => .broken :: r
  | t :: r => if t = .char stop then r else skipUntil stop r

def hexDigit? (c : Char) : Option Nat :=
  if '0' ≤ c ∧ c ≤ '9' then some (c.toNat - 48)
  else if 'a' ≤ c ∧ c ≤ 'f' then some (c.toNat - 87)
  else if 'A' ≤ c ∧ c ≤ 'F' then some (c.toNat - 55)
  else none

/-- A number of exactly so many hexadecimal digits, after the value of those before. -/
def hexNumber : Nat → Nat → List Token → Option (Nat × List Token)
  | 0, n, ts => some (n, ts)
  | k + 1, n, .char c :: r => (hexDigit? c).bind fun d => hexNumber k (16 * n + d) r
  | _ + 1, _, _ => none

def octalDigit? (c : Char) : Option Nat :=
  if '0' ≤ c ∧ c ≤ '7' then some (c.toNat - 48) else none

/-- A number of at most so many more octal digits, after the value of those before. -/
def octalNumber : Nat → Nat → List Token → Nat × List Token
  | k + 1, n, .char c :: r =>
    match octalDigit? c with
    | some d => octalNumber k (8 * n + d) r
    | none => (n, .char c :: r)
  | _, n, ts => (n, ts)

def controlEscape? (c : Char) : Option Nat :=
  [('a', 7), ('f', 12), ('n', 10), ('r', 13), ('t', 9), ('v', 11), ('\\', 92)].lookup c

def categoryEscape? (c : Char) : Option (Category × Bool) :=
  [('d', (.digit, false)), ('D', (.digit, true)), ('s', (.space, false)), ('S', (.space, true)),
    ('w', (.word, false)), ('W', (.word, true))].lookup c

/-- Escapes that give a code point in hexadecimal, after their letter. -/
def codeEscape? (c : Char) (ts : List Token) : Option (Option (Nat × List Token)) :=
  if c = 'x' then some (hexNumber 2 0 ts)
  else if c = 'u' then some (hexNumber 4 0 ts)
  else if c = 'U' then
    some ((hexNumber 8 0 ts).bind fun (n, r) => if n ≤ 0x10FFFF then some (n, r) else none)
  else none

def isAsciiLetter (c : Char) : Bool := ('a' ≤ c && c ≤ 'z') || ('A' ≤ c && c ≤ 'Z')
def isAsciiDigit (c : Char) : Bool := '0' ≤ c && c ≤ '9'

/-! Character classes. -/

inductive ClassAtom where
  | code (n : Nat)
  | category (k : Category) (negated : Bool)

def ClassAtom.item : ClassAtom → ClassItem
  | code n => .one n
  | category k negated => .category k negated

def classEscape (c : Char) (r : List Token) : Option (ClassAtom × List Token) :=
  match controlEscape? c, categoryEscape? c, codeEscape? c r with
  | some n, _, _ => some (.code n, r)
  | none, some (k, negated), _ => some (.category k negated, r)
  | none, none, some found => found.map fun (n, r) => (.code n, r)
  | none, none, none =>
    if c = 'b' then some (.code 8, r)
    else
      match octalDigit? c with
      | some d =>
        let (n, r) := octalNumber 2 d r
        if n ≤ 0o377 then some (.code n, r) else none
      | none => if isAsciiDigit c || isAsciiLetter c then none else some (.code c.toNat, r)

def classAtom : List Token → Option (ClassAtom × List Token)
  | .char c :: r => some (.code c.toNat, r)
  | .escape c :: r => classEscape c r
  | _ => none

/-- The items of a class up to its closing bracket, which stands for itself at the beginning. -/
def classItems : Nat → Bool → List Token → Option (List ClassItem × List Token)
  | 0, _, _ => none
  | fuel + 1, started, ts =>
    if started && ts.head? == some (.char ']') then some ([], ts.tail)
    else do
      let (a, r) ← classAtom ts
      match r with
      | .char '-' :: .char ']' :: rest => some ([a.item, .one 45], rest)
      | .char '-' :: r =>
        let (b, r) ← classAtom r
        match a, b with
        | .code lo, .code hi =>
          if hi < lo then none
          else
            let (items, rest) ← classItems fuel true r
            some (.range lo hi :: items, rest)
        | _, _ => none
      | r =>
        let (items, rest) ← classItems fuel true r
        some (a.item :: items, rest)

/-! Flags. -/

def flagsOn (acc : Flags) : List Token → Option (Flags × Char × List Token)
  | .char c :: r =>
    match Flag.ofChar? c with
    | some .locale => none
    | some f =>
      if f.isAlphabet && acc.any fun g => g.isAlphabet && g ≠ f then none
      else flagsOn (acc ++ [f]) r
    | none => if c = ')' || c = '-' || c = ':' then some (acc, c, r) else none
  | _ => none

def flagsOff (acc : Flags) : List Token → Option (Flags × List Token)
  | .char c :: r =>
    match Flag.ofChar? c with
    | some f => if f.isAlphabet then none else flagsOff (acc ++ [f]) r
    | none => if c = ':' && !acc.isEmpty then some (acc, r) else none
  | _ => none

/-- A change of flags: for the whole pattern, or those set and cleared for a group. -/
inductive FlagChange where
  | overall (on : Flags)
  | here (on off : Flags)

def flagChange (ts : List Token) : Option (FlagChange × List Token) := do
  let (on, stop, r) ← flagsOn [] ts
  if on.isEmpty && stop ≠ '-' then none
  else if stop = ')' then some (.overall on, r)
  else if on.contains .template then none
  else
    let (off, r) ← if stop = '-' then flagsOff [] r else some ([], r)
    if off.contains .template || on.any off.contains then none else some (.here on off, r)

/-! Escapes and repetition counts outside classes. -/

/-- Whether a group may be referred to: it is closed, and it is not part of what is behind. -/
def Known.refersTo (k : Known) (i : Nat) : Bool :=
  i ≠ 0 && ((k.widths[i - 1]?).join).isSome && k.behindFrom.all (i < ·)

def reference (i : Nat) : Parse Item := do
  if (← get).refersTo i then return .again i else malformed

/-- An escape that begins with a digit other than zero: three octal digits, or a reference. -/
def digitEscape (c : Char) : Parse Item := do
  let first := c.toNat - 48
  match (← get).rest with
  | .char d :: r =>
    if !isAsciiDigit d then reference first
    else
      moveTo r
      match r, octalDigit? c, octalDigit? d with
      | .char e :: rest, some a, some b =>
        match octalDigit? e with
        | some x =>
          let n := (a * 8 + b) * 8 + x
          moveTo rest
          if n ≤ 0o377 then return .letter n else malformed
        | none => reference (10 * first + (d.toNat - 48))
      | _, _, _ => reference (10 * first + (d.toNat - 48))
  | _ => reference first

def escapeItem (c : Char) : Parse Item := do
  match categoryEscape? c, controlEscape? c with
  | some (k, negated), _ => return .oneOf false [.category k negated]
  | none, some n => return .letter n
  | none, none =>
    if c = 'A' then return .anchor .textStart
    else if c = 'Z' then return .anchor .textEnd
    else if c = 'b' then return .anchor (.wordEdge false)
    else if c = 'B' then return .anchor (.wordEdge true)
    else
      match codeEscape? c (← get).rest with
      | some _ => return .letter (← reading fun ts => (codeEscape? c ts).join)
      | none =>
        if c = '0' then return .letter (← reading fun ts => some (octalNumber 2 0 ts))
        else if isAsciiDigit c then digitEscape c
        else if isAsciiLetter c then malformed
        else return .letter c.toNat

def spanDigits : List Token → Text × List Token
  | .char c :: r =>
    if isAsciiDigit c then (let (ds, rest) := spanDigits r; (c :: ds, rest)) else ([], .char c :: r)
  | ts => ([], ts)

def counts? (ts : List Token) : Option (Text × Text × List Token) :=
  match ts with
  | .char '\x7d' :: _ => none
  | _ =>
    let (lo, r) := spanDigits ts
    match r with
    | .char ',' :: r =>
      match spanDigits r with
      | (hi, .char '\x7d' :: rest) => some (lo, hi, rest)
      | _ => none
    | .char '\x7d' :: rest => some (lo, lo, rest)
    | _ => none

def naturalOf (digits : Text) : Nat := digits.foldl (fun n c => 10 * n + (c.toNat - 48)) 0

def countOf (digits : Text) : Parse (Option Nat) := do
  if digits.isEmpty then return none
  else if Numeral.maxDigits < digits.length then throw (.tooManyDigits digits.length)
  else if maxRepeat ≤ naturalOf digits then throw .repetitionTooLarge
  else return some (naturalOf digits)

def greedOf : List Token → Greed × List Token
  | .char '?' :: r => (.lazy, r)
  | .char '+' :: r => (.possessive, r)
  | ts => (.greedy, ts)

/-- The last item, repeated. A group that does nothing but group is opened. -/
def repeatLast (least : Nat) (most : Option Nat) : List Item → Parse (List Item)
  | [] | .anchor _ :: _ | .repeated _ _ _ _ :: _ => malformed
  | i :: acc => do
    let greed ← reading fun ts => some (greedOf ts)
    let body := match i with
      | .group none [] [] body => body
      | i => [i]
    return .repeated least most greed body :: acc

/-- A sequence from its items, the last one first. Groups that do nothing but group are opened. -/
def sequenceOf (acc : List Item) : List Item :=
  acc.reverse.flatMap fun
    | .group none [] [] body => body
    | i => [i]

def sameItem : Item → Item → Bool
  | .letter m, .letter n | .otherThan m, .otherThan n | .again m, .again n => m == n
  | .any, .any => true
  | .oneOf b is, .oneOf c js => b == c && is == js
  | .anchor a, .anchor b => a == b
  | _, _ => false

/-- The common beginning of alternatives, and what is left of each. -/
def splitShared : List Item → List (List Item) → List Item × List (List Item)
  | [], others => ([], [] :: others)
  | i :: r, others =>
    if others.all fun b => b.head?.any (sameItem i) then
      let (shared, left) := splitShared r (others.map List.tail)
      (i :: shared, left)
    else ([], (i :: r) :: others)

/-- The items of the class that alternatives amount to. -/
def classOfBranches : List (List Item) → Option (List ClassItem)
  | [] => some []
  | [.letter n] :: r => (classOfBranches r).map (.one n :: ·)
  | [.oneOf false items] :: r => (classOfBranches r).map (items ++ ·)
  | _ => none

def joinBranches : List (List Item) → List Item
  | [] => []
  | [b] => b
  | b :: r =>
    let (shared, left) := splitShared b r
    shared ++ match classOfBranches left with
      | some items => [.oneOf false items.eraseDups]
      | none => [.alt left]

def isSkipped (c : Char) : Bool := [' ', '\t', '\n', '\r', '\x0b', '\x0c'].contains c

def maxGroups : Nat := 1073741823

def conditionOf (name : Text) : Parse Nat := do
  if Text.isIdentifier name then
    match (← get).names.lookup name with
    | some i => return i
    | none => malformed
  else
    match Numeral.integer name with
    | .ok (.ofNat (i + 1)) =>
      if maxGroups ≤ i + 1 then malformed
      else
        modify fun k => { k with conditions := (i + 1) :: k.conditions }
        return i + 1
    | _ => malformed

def openGroup (name : Option Text) : Parse Nat := do
  let k ← get
  let i := k.widths.length + 1
  match name with
  | some n => if (k.names.lookup n).isSome then malformed
  | none => pure ()
  set { k with widths := k.widths ++ [none], names := (name.map (·, i)).toList ++ k.names }
  return i

/-- The widths of the groups up to now; an open one has none to speak of. -/
def Known.groupWidths (k : Known) : List Width := k.widths.map (·.getD .zero)

def closeGroup (i : Nat) (body : List Item) : Parse Unit :=
  modify fun k => { k with widths := k.widths.set (i - 1) (some (widthOf k.groupWidths body)) }

def groupName : Parse Text := do
  let name ← reading (nameUntil '>')
  if Text.isIdentifier name then return name else malformed

def classItem : Parse Item := do
  let negated ← accept '^'
  let items ← reading fun ts => classItems (ts.length + 1) false ts
  match items.eraseDups with
  | [.one n] => return if negated then .otherThan n else .letter n
  | items => return .oneOf negated items

mutual

/-- Alternatives up to a closing parenthesis or the end. -/
def alternatives : Nat → Scope → Parse (List Item)
  | 0, _ => malformed
  | fuel + 1, scope => do
    let first ← sequence fuel { scope with first := scope.top } []
    let others ← furtherAlternatives fuel scope
    return joinBranches (first :: others)

def furtherAlternatives : Nat → Scope → Parse (List (List Item))
  | 0, _ => malformed
  | fuel + 1, scope => do
    if ← accept '|' then
      let overall := (← get).flags
      let verbose := if scope.top then overall.contains .verbose else scope.verbose
      let scope := { scope with verbose }
      let next ← sequence fuel { scope with first := false } []
      let others ← furtherAlternatives fuel scope
      return next :: others
    else return []

/-- A sequence up to a bar, a closing parenthesis or the end, after the items already read. -/
def sequence : Nat → Scope → List Item → Parse (List Item)
  | 0, _, _ => malformed
  | fuel + 1, scope, acc => do
    match (← get).rest with
    | [] | .char '|' :: _ | .char ')' :: _ => return sequenceOf acc
    | .broken :: _ => malformed
    | .escape c :: r =>
      moveTo r
      sequence fuel scope ((← escapeItem c) :: acc)
    | .char c :: r =>
      moveTo r
      if scope.verbose && isSkipped c then sequence fuel scope acc
      else if scope.verbose && c = '#' then
        moveTo (skipUntil '\n' r)
        sequence fuel scope acc
      else
        match c with
        | '.' => sequence fuel scope (.any :: acc)
        | '^' => sequence fuel scope (.anchor .start :: acc)
        | '$' => sequence fuel scope (.anchor .stop :: acc)
        | '[' => sequence fuel scope ((← classItem) :: acc)
        | '*' => sequence fuel scope (← repeatLast 0 none acc)
        | '+' => sequence fuel scope (← repeatLast 1 none acc)
        | '?' => sequence fuel scope (← repeatLast 0 (some 1) acc)
        | '\x7b' =>
          match counts? r with
          | none => sequence fuel scope (.letter c.toNat :: acc)
          | some (lo, hi, rest) =>
            moveTo rest
            let least := (← countOf lo).getD 0
            let most ← countOf hi
            if most.any (· < least) then malformed
            else sequence fuel scope (← repeatLast least most acc)
        | '(' =>
          match ← parenthesis fuel scope acc.isEmpty with
          | (scope, some i) => sequence fuel scope (i :: acc)
          | (scope, none) => sequence fuel scope acc
        | c => sequence fuel scope (.letter c.toNat :: acc)

/-- What stands after an opening parenthesis: an item, or nothing but a change of the scope. `alone`
tells that no item came before in the sequence. -/
def parenthesis : Nat → Scope → Bool → Parse (Scope × Option Item)
  | 0, _, _ => malformed
  | fuel + 1, scope, alone => do
    let inner := { scope with top := false }
    if !(← accept '?') then captured fuel scope none
    else
      match (← get).rest with
      | .char 'P' :: .char '<' :: r =>
        moveTo r
        captured fuel scope (some (← groupName))
      | .char 'P' :: .char '=' :: r =>
        moveTo r
        let name ← reading (nameUntil ')')
        match (← get).names.lookup name with
        | some i => return (scope, some (← reference i))
        | none => malformed
      | .char ':' :: r =>
        moveTo r
        let body ← alternatives fuel inner
        expect ')'
        return (scope, some (.group none [] [] body))
      | .char '#' :: r =>
        let _ ← reading fun _ => textUntil ')' r
        return (scope, none)
      | .char '=' :: r =>
        moveTo r
        let body ← alternatives fuel inner
        expect ')'
        return (scope, some (.look false false body))
      | .char '!' :: r =>
        moveTo r
        let body ← alternatives fuel inner
        expect ')'
        return (scope, some (.look false true body))
      | .char '<' :: .char c :: r =>
        if c ≠ '=' ∧ c ≠ '!' then malformed
        else
          moveTo r
          let before := (← get).behindFrom
          modify fun k => { k with behindFrom := some (before.getD (k.widths.length + 1)) }
          let body ← alternatives fuel inner
          modify fun k => { k with behindFrom := before }
          expect ')'
          return (scope, some (.look true (c = '!') body))
      | .char '(' :: r =>
        moveTo r
        let i ← conditionOf (← reading (nameUntil ')'))
        let k ← get
        if k.behindFrom.isSome && !k.refersTo i then malformed
        else
          let yes ← sequence fuel { inner with first := false } []
          let no ← if ← accept '|' then sequence fuel { inner with first := false } [] else pure []
          expect ')'
          return (scope, some (.conditional i yes no))
      | .char '>' :: r =>
        moveTo r
        let body ← alternatives fuel inner
        expect ')'
        return (scope, some (.atomic body))
      | _ =>
        match ← reading flagChange with
        | .overall on =>
          if scope.first && alone then
            modify fun k => { k with flags := k.flags ++ on }
            let overall := (← get).flags
            return ({ scope with verbose := overall.contains .verbose }, none)
          else malformed
        | .here on off =>
          let verbose := (scope.verbose || on.contains .verbose) && !off.contains .verbose
          let body ← alternatives fuel { inner with verbose }
          expect ')'
          return (scope, some (.group none on off body))

def captured : Nat → Scope → Option Text → Parse (Scope × Option Item)
  | 0, _, _ => malformed
  | fuel + 1, scope, name => do
    let i ← openGroup name
    let body ← alternatives fuel { scope with top := false }
    expect ')'
    closeGroup i body
    return (scope, some (.group (some i) [] [] body))

end

/-- A whole pattern: its items, the widths of its groups, and the flags that hold everywhere. -/
structure Parsed where
  items : List Item
  groups : List Width
  flags : Flags

def parse (t : Text) : Except PatternError Parsed := do
  let ts := tokens t
  let read : Parse (List Item) := do
    moveTo ts
    alternatives (4 * ts.length + 4) ⟨false, true, true⟩
  let (items, k) ← read.run { rest := [] }
  if k.flags.contains .ascii && k.flags.contains .unicode then .error .contradictoryFlags
  else if !k.rest.isEmpty || k.conditions.any (k.widths.length < ·) then .error .malformed
  else .ok ⟨items, k.groupWidths, k.flags⟩

end TestScribe.Pattern
