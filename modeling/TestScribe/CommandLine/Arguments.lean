import TestScribe.Text.Digit

/-!
The arguments of a command line. Options may stand anywhere, be shortened, share a dash, and carry
their value; after two dashes everything is plain. The three plain arguments that are expected are
taken from the first run of plain words, and what else there is of them is too much.
-/

namespace TestScribe.CommandLine

inductive Opt where
  | help | baseUrl | filter | mode | debug
  deriving DecidableEq

namespace Opt

def names : List (Text × Opt) :=
  [("-h", help), ("--help", help), ("--base-url", baseUrl), ("--filter", filter), ("-f", filter),
   ("--mode", mode), ("-m", mode), ("--debug", debug), ("-d", debug)]

def takesValue : Opt → Bool
  | baseUrl | filter | mode => true
  | help | debug => false

def ofName? (t : Text) : Option Opt := names.lookup t

end Opt

inductive Stop where
  | help | misuse
  deriving DecidableEq

/-- What stands in one word behind the name of an option. -/
structure Rest where
  /-- Whether an equals sign stands between. -/
  bySign : Bool
  text : Text

inductive Word where
  | plain (t : Text)
  | separator
  | option (o : Opt) (isLong : Bool) (rest : Option Rest)
  | unknown

namespace Word

/-- The parts of a text before and after its first equals sign. -/
def cutSign (t : Text) : Text × Option Text :=
  match Text.cut? '=' t with
  | some (a, b) => (a, some b)
  | none => (t, none)

def isLong (t : Text) : Bool := "--".toList.isPrefixOf t

/-- Digits, or digits with a point and digits after it; a last line break does not count. -/
def isNegativeNumber : Text → Bool
  | '-' :: t =>
    let t := if t.getLast? = some '\n' then t.dropLast else t
    match (t.dropWhile Text.isDigit) with
    | [] => !t.isEmpty
    | '.' :: r => !r.isEmpty && r.all Text.isDigit
    | _ => false
  | _ => false

/-- A word that no spelling of an option explains. -/
def other (t : Text) : Word := if isNegativeNumber t || t.contains ' ' then plain t else unknown

/-- The long options that a word may be short for. -/
def shortened (t : Text) : List Opt :=
  (Opt.names.filter fun n => (cutSign t).1.isPrefixOf n.1).map Prod.snd

/-- A word that starts with a dash and is not just the spelling of an option. -/
def read (t : Text) : Except Stop Word :=
  match cutSign t with
  | (name, some value) =>
    match Opt.ofName? name with
    | some o => .ok (option o (isLong name) (some ⟨true, value⟩))
    | none => guess t (some ⟨true, value⟩)
  | (_, none) => guess t none
where
  /-- The option that is written short, or with its value at once. -/
  guess (t : Text) (rest : Option Rest) : Except Stop Word :=
    if isLong t then
      match shortened t with
      | [] => .ok (other t)
      | [o] => .ok (option o true rest)
      | _ => .error .misuse
    else
      match Opt.ofName? (t.take 2) with
      | some o => .ok (option o false (some ⟨false, t.drop 2⟩))
      | none => .ok (other t)

def ofText (t : Text) : Except Stop Word :=
  match t with
  | '-' :: _ :: _ =>
    match Opt.ofName? t with
    | some o => .ok (option o (isLong t) none)
    | none => read t
  | _ => .ok (plain t)

def all : List Text → Except Stop (List Word)
  | [] => .ok []
  | t :: r =>
    if t = "--".toList then .ok (separator :: r.map plain)
    else do
      let w ← ofText t
      return w :: (← all r)

end Word

structure Arguments where
  format : Option Text := none
  project : Option Text := none
  directory : Option Text := none
  baseUrl : Text := []
  filter : Option Text := none
  mode : Option Text := none
  debug : Bool := false
  deriving DecidableEq

structure Reading where
  arguments : Arguments := {}
  /-- Whether the expected plain arguments have been taken. -/
  placed : Bool := false
  /-- Whether there is anything that was not expected. -/
  surplus : Bool := false

/-- A word that is no option. -/
inductive Item where
  | plain (t : Text)
  | separator
  deriving DecidableEq

def Item.text : Item → Text
  | plain t => t
  | separator => "--"

namespace Reading

def modes : List Text := ["test", "suite"]

/-- Does what an option without a value asks for. -/
def raise (r : Reading) : Opt → Except Stop Reading
  | .help => .error .help
  | .debug => .ok { r with arguments := { r.arguments with debug := true } }
  | _ => .ok r

def assign (r : Reading) (o : Opt) (value : Text) : Except Stop Reading :=
  match o with
  | .baseUrl => .ok { r with arguments := { r.arguments with baseUrl := value } }
  | .filter => .ok { r with arguments := { r.arguments with filter := some value } }
  | .mode =>
    if value ∈ modes then .ok { r with arguments := { r.arguments with mode := some value } }
    else .error .misuse
  | _ => .ok r

/-- What the letters of a word with one dash ask for: options without a value, and at most one
with a value at the end. -/
structure Cluster where
  flags : List Opt := []
  last : Option (Opt × Option Text) := none
  surplus : Bool := false

def cluster (bySign : Bool) : Text → Except Stop Cluster
  | [] => .ok {}
  | c :: rest =>
    if bySign || c = '-' then .error .misuse
    else
      match Opt.ofName? ['-', c] with
      | none => .ok { surplus := true }
      | some o =>
        if o.takesValue then
          .ok { last := some (o, match rest with
            | [] => none
            | '=' :: value => some value
            | value => some value) }
        else
          match rest with
          | '=' :: [] => .error .misuse
          | '=' :: _ => .error .misuse
          | rest => do
            let k ← cluster false rest
            return { k with flags := o :: k.flags }

/-- What one word with an option asks for. -/
def asks (o : Opt) (isLong : Bool) : Option Rest → Except Stop Cluster
  | none => if o.takesValue then .ok { last := some (o, none) } else .ok { flags := [o] }
  | some ⟨bySign, value⟩ =>
    if o.takesValue then .ok { last := some (o, some value) }
    else if isLong || value.isEmpty then .error .misuse
    else do
      let k ← cluster bySign value
      return { k with flags := o :: k.flags }

/-- The value of an option that has none of its own: the plain word that comes next. -/
def nextValue : List Item → Except Stop (Text × List Item)
  | .plain t :: items => .ok (t, items)
  | _ => .error .misuse

/-- Reads a word with an option; the items up to the next option are left over. -/
def takeOption (r : Reading) (k : Cluster) (items : List Item) :
    Except Stop (Reading × List Item) := do
  match k.last with
  | none =>
    let r ← k.flags.foldlM raise r
    return ({ r with surplus := r.surplus || k.surplus }, items)
  | some (o, some value) =>
    let r ← k.flags.foldlM raise r
    return (← r.assign o value, items)
  | some (o, none) =>
    let (value, items) ← nextValue items
    let r ← k.flags.foldlM raise r
    return (← r.assign o value, items)

/-- The items of one expected argument: a plain one and the separators around it, as far as they
are there. -/
def group (items : List Item) : List Item × List Item :=
  let (before, r) := items.span (· = .separator)
  let (one, r) :=
    match r with
    | .plain t :: r => ([Item.plain t], r)
    | r => ([], r)
  let (behind, r) := r.span (· = .separator)
  (before ++ one ++ behind, r)

/-- The argument in a group: the first two dashes in it do not count. -/
def argument (items : List Item) : Option Text := ((items.map Item.text).erase "--".toList).head?

/-- Takes the expected arguments from the items between two options. -/
def place (r : Reading) (items : List Item) : Reading :=
  if items.isEmpty then r
  else if r.placed then { r with surplus := true }
  else
    let (a, items) := group items
    let (b, items) := group items
    let (c, items) := group items
    { r with
      arguments := {
        r.arguments with format := argument a, project := argument b, directory := argument c }
      placed := true
      surplus := r.surplus || !items.isEmpty }

/-- Reads the words from an option on; unknown options are too much. -/
def takeSegment (r : Reading) : Word × List Item → Except Stop Reading
  | (.option o isLong rest, items) => do
    let k ← asks o isLong rest
    let (r, items) ← r.takeOption k items
    return r.place items
  | (_, items) => .ok ({ r with surplus := true }.place items)

/-- The items before the first option, and each option with the items behind it. -/
def segments : List Word → List Item × List (Word × List Item)
  | [] => ([], [])
  | .plain t :: ws => let (items, rest) := segments ws; (.plain t :: items, rest)
  | .separator :: ws => let (items, rest) := segments ws; (.separator :: items, rest)
  | w :: ws => let (items, rest) := segments ws; ([], (w, items) :: rest)

end Reading

def Arguments.read (argv : List Text) : Except Stop Arguments := do
  let (items, segments) := Reading.segments (← Word.all argv)
  let r ← segments.foldlM Reading.takeSegment (({} : Reading).place items)
  if r.surplus then .error .misuse else .ok r.arguments

end TestScribe.CommandLine
