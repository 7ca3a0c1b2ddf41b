import TestScribe.Value.Display
import TestScribe.Number.Numeral
import TestScribe.Files.Write
import TestScribe.Text.Surrogate

/-!
Faults: what goes wrong when a recorded value is used for something that its kind does not support,
when the files are not as they should be, or when someone else's code fails. Each fault has a class,
by which handlers tell faults apart, and a message.
-/

namespace TestScribe

inductive FaultClass where
  | attribute | type | value | overflow | key | runtime
  /-- Something is in a state that it should never be in. -/
  | internal
  /-- The operating system refuses. -/
  | system (cause : FileCause)
  deriving DecidableEq

inductive Fault where
  /-- A value of this kind has no such operation. -/
  | lacks (kind : Kind) (operation : Text)
  | notIterable (kind : Kind)
  | notSearchable (kind : Kind)
  | unhashable (kind : Kind)
  | notIntegral (kind : Kind)
  | notReplaceable (kind : Kind)
  | badName (what : Text) (found : Value)
  | badInteger (t : Text)
  | tooManyDigits (digits : Nat)
  | nanToInteger
  | infinityToInteger
  | integerTooLarge
  | file (error : FileError)
  /-- There are no bytes for a text. -/
  | notEncodable (e : Encoding) (t : RawText)
  /-- Somebody else's code failed with a text. -/
  | raised (cls : FaultClass) (t : Text)

def Misfit.message (m : Misfit) : Text :=
  let code := Text.hex 4 (0xD800 + m.first)
  let place (n : Nat) : Text := Text.ofNat (m.position + n)
  (if m.length = 1 then "'utf-8' codec can't encode character '\\u" ++ code ++ "' in position " ++ place 0
    else "'utf-8' codec can't encode characters in position " ++ place 0 ++ "-" ++ place (m.length - 1))
    ++ ": surrogates not allowed"

namespace Fault

/-- A path that no operating system takes is a wrong value; everything else it says itself. -/
def classOf : FileCause → FaultClass
  | .embeddedNul => .value
  | c => .system c

def cls : Fault → FaultClass
  | lacks _ _ => .attribute
  | notIterable _ | notSearchable _ | unhashable _ | notIntegral _ | notReplaceable _ => .type
  | badName _ _ | badInteger _ | tooManyDigits _ | nanToInteger | notEncodable _ _ => .value
  | infinityToInteger | integerTooLarge => .overflow
  | file e => classOf e.cause
  | raised c _ => c

def absent (t : Text) : Fault := raised .key t

/-- At most so many characters of a bad numeral are shown. -/
def shownNumeral : Nat := 200

def message : Fault → Text
  | lacks k op => "'" ++ k.name ++ "' object has no attribute '" ++ op ++ "'"
  | notIterable k => "'" ++ k.name ++ "' object is not iterable"
  | notSearchable k => "expected string or bytes-like object, got '" ++ k.name ++ "'"
  | unhashable k => "unhashable type: '" ++ k.name ++ "'"
  | notIntegral k =>
    "int() argument must be a string, a bytes-like object or a real number, not '" ++ k.name ++ "'"
  | notReplaceable k => "replace() argument 1 must be str, not " ++ k.name
  | badName what v => what ++ " name must be a non-empty string, got " ++ v.quoted
  | badInteger t =>
    "invalid literal for int() with base 10: " ++ (Text.quoted t).take shownNumeral
  | tooManyDigits n =>
    "Exceeds the limit (4300 digits) for integer string conversion: value has " ++ Text.ofNat n
      ++ " digits; use sys.set_int_max_str_digits() to increase the limit"
  | nanToInteger => "cannot convert float NaN to integer"
  | infinityToInteger => "cannot convert float infinity to integer"
  | integerTooLarge => "int too large to convert to float"
  | file e => e.message
  | notEncodable e t => (t.misfit? e).elim [] Misfit.message
  | raised .key t => Text.quoted t
  | raised _ t => t

end Fault

/-- Exceptions of somebody else's code that cannot be put into words: asking for their text raises
another exception. They are told apart by their class and what would be their text. -/
abbrev Mute := FaultClass → Text → Option Fault

def Mute.never : Mute := fun _ _ => none

def Fault.mutedBy (mute : Mute) : Fault → Option Fault
  | raised c t => mute c t
  | _ => none

@[simp] theorem Fault.mutedBy_never (f : Fault) : f.mutedBy .never = none := by cases f <;> rfl

/-- How a phase fails: with an error of its own, or with a fault that no handler of it covers. -/
inductive Failure (ε : Type) where
  | reported (error : ε)
  | escaped (fault : Fault)

/-- The same failure, where the error is seen as part of something larger. -/
def Failure.within {ε δ : Type} (f : ε → δ) : Failure ε → Failure δ
  | reported e => .reported (f e)
  | escaped e => .escaped e

namespace Value

/-- What a walk through a value meets: the items of a list, the characters of a text, the keys of an
object. -/
def items : Value → Except Fault (List Value)
  | list vs => .ok vs
  | text t => .ok (t.map fun c => text [c])
  | object fields => .ok (fields.map fun f => text f.1)
  | v => .error (.notIterable v.kind)

def fields : Value → Except Fault (List (Text × Value))
  | object fs => .ok fs
  | v => .error (.lacks v.kind "get")

def textFor (operation : Text) : Value → Except Fault Text
  | text t => .ok t
  | v => .error (.lacks v.kind operation)

@[simp] theorem textFor_text (operation t : Text) : textFor operation (text t) = .ok t := rfl

def searched : Value → Except Fault Text
  | text t => .ok t
  | v => .error (.notSearchable v.kind)

@[simp] theorem searched_text (t : Text) : searched (text t) = .ok t := rfl

/-- The integer that a value stands for: fractions are cut off, texts are read. -/
def integer : Value → Except Fault Int
  | bool b => .ok (if b then 1 else 0)
  | int n => .ok n
  | float .notANumber => .error .nanToInteger
  | float (.infinite _) => .error .infinityToInteger
  | float (.finite s m q) => .ok (Binary64.truncate s m q)
  | text t =>
    match Numeral.integer t with
    | .ok n => .ok n
    | .error .malformed => .error (.badInteger t)
    | .error (.tooLong n) => .error (.tooManyDigits n)
  | v => .error (.notIntegral v.kind)

end Value

end TestScribe
