import TestScribe.Fault
import TestScribe.Text.Case

/-!
Arguments of recorded steps that have a form of their own: window sizes, typed text with named keys
in it, choices in a list, and durations.
-/

namespace TestScribe

structure WindowSize where
  width : Text
  height : Text
  deriving DecidableEq

namespace WindowSize

def orDefault (t other : Text) : Text := if t.isEmpty then other else t

/-- The sides of a size such as `1280x800`; missing sides are those. -/
def ofText (t : Text) : WindowSize :=
  match Text.cut? 'x' (Text.lower t) with
  | some (w, h) => ⟨orDefault (Text.trim w) "1280", orDefault (Text.trim h) "800"⟩
  | none => ⟨orDefault (Text.trim (Text.lower t)) "1280", "800"⟩

def ofValue (v : Value) : Except Fault WindowSize := (v.textFor "lower").map ofText

@[simp] theorem ofValue_text (t : Text) : ofValue (.text t) = .ok (ofText t) := rfl

example : ofText " 1024 X 768 " = ⟨"1024", "768"⟩ := by decide +kernel
example : ofText "x" = ⟨"1280", "800"⟩ := by decide +kernel

end WindowSize

/-- A part of typed text: a named key, or characters. -/
inductive KeyPart where
  | key (name : Text)
  | text (t : Text)
  deriving DecidableEq

namespace KeyPart

def isKeyChar (c : Char) : Bool := ('A' ≤ c && c ≤ 'Z') || c = '_'

def opening : Text := "$\x7bKEY_"

/-- The name of the key that is written at the start of a text. -/
def nameAt? (t : Text) : Option Text :=
  if opening.isPrefixOf t then
    let r := t.drop opening.length
    let name := r.takeWhile isKeyChar
    if !name.isEmpty && (r.drop name.length).head? == some '\x7d' then some name else none
  else none

def written : KeyPart → Text
  | key name => opening ++ name ++ ['\x7d']
  | text t => t

/-- Puts a character before the parts, into the first of them if that is text. -/
def cons (c : Char) : List KeyPart → List KeyPart
  | text t :: r => text (c :: t) :: r
  | ps => text [c] :: ps

/-- The parts of typed text, where the first `skipped` characters belong to a key already found. -/
def splitFrom : Nat → Text → List KeyPart
  | _, [] => []
  | skipped + 1, _ :: r => splitFrom skipped r
  | 0, c :: r =>
    match nameAt? (c :: r) with
    | some name => key name :: splitFrom (opening.length + name.length) r
    | none => cons c (splitFrom 0 r)

def split (t : Text) : List KeyPart := splitFrom 0 t

def ofValue (v : Value) : Except Fault (List KeyPart) := v.searched.map split

@[simp] theorem ofValue_text (t : Text) : ofValue (.text t) = .ok (split t) := rfl

example : split "abc$\x7bKEY_ENTER\x7d" = [.text "abc", .key "ENTER"] := by decide +kernel
example : split "$\x7bKEY_$\x7bKEY_A\x7d\x7d" =
    [.text "$\x7bKEY_", .key "A", .text "\x7d"] := by decide +kernel

end KeyPart

inductive ChoiceKind where
  | label | value | index | id
  deriving DecidableEq

namespace ChoiceKind

def marks : List (Text × ChoiceKind) :=
  [("label", label), ("value", value), ("index", index), ("id", id)]

def ofMark? (mark : Text) : Option ChoiceKind := marks.lookup mark

def name : ChoiceKind → Text
  | label => "label"
  | value => "value"
  | index => "index"
  | id => "id"

end ChoiceKind

structure Choice where
  kind : ChoiceKind
  option : Text
  deriving DecidableEq

namespace Choice

/-- A choice such as `value=7`; without a known kind it is a label. -/
def ofText (t : Text) : Choice :=
  match Text.cut? '=' t with
  | some (mark, rest) =>
    match ChoiceKind.ofMark? mark with
    | some k => ⟨k, rest⟩
    | none => ⟨.label, t⟩
  | none => ⟨.label, t⟩

def ofValue (v : Value) : Except Fault Choice := (v.textFor "partition").map ofText

@[simp] theorem ofValue_text (t : Text) : ofValue (.text t) = .ok (ofText t) := rfl

example : ofText "index=2" = ⟨.index, "2"⟩ := by decide +kernel
example : ofText "a=b" = ⟨.label, "a=b"⟩ := by decide +kernel

end Choice

namespace Duration

/-- The whole part of a number; what is not a number counts as nothing, but an infinite one cannot
be counted. -/
def wholePart : Binary64 → Except Fault Int
  | .notANumber => .ok 0
  | .infinite _ => .error .infinityToInteger
  | .finite s m q => .ok (Binary64.truncate s m q)

/-- The integer nearest to a recorded one that a binary64 number can hold. -/
def ofInteger (n : Int) : Except Fault Int :=
  match Binary64.ofInt n with
  | .finite s m q => .ok (Binary64.truncate s m q)
  | _ => .error .integerTooLarge

/-- A recorded number of milliseconds; what denotes no number is none of them. -/
def ofValue : Value → Except Fault Int
  | .text t =>
    match Numeral.number? t with
    | some x => wholePart x
    | none => .ok 0
  | .bool b => .ok (if b then 1 else 0)
  | .int n => ofInteger n
  | .float x => wholePart x
  | .null | .list _ | .object _ => .ok 0

def seconds (ms : Int) : Text := (Binary64.ofRatio (ms < 0) ms.natAbs 1000).toText

example : seconds 1500 = "1.5" ∧ seconds 0 = "0.0" ∧ seconds (-20) = "-0.02" := by decide +kernel

end Duration

end TestScribe
