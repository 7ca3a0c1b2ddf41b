import TestScribe.Fault

/-!
Web addresses: completing a recorded target with the address of the recording, and replacing that
address by another one in generated code.
-/

namespace TestScribe.Address

def isAsciiLetter (c : Char) : Bool := ('a' ≤ c && c ≤ 'z') || ('A' ≤ c && c ≤ 'Z')

/-- Characters of a scheme after its first one. -/
def isSchemeChar (c : Char) : Bool :=
  isAsciiLetter c || ('0' ≤ c && c ≤ '9') || c = '+' || c = '.' || c = '-'

def isAbsolute : Text → Bool
  | c :: r => isAsciiLetter c && "://".toList.isPrefixOf (r.dropWhile isSchemeChar)
  | [] => false

/-- Joins a base and a target with exactly one slash. -/
def attach (base target : Text) : Text :=
  Text.dropEndWhile (· = '/') base ++ "/" ++ target.dropWhile (· = '/')

/-- The address that a recorded target stands for, where `base` is the address of the recording. -/
def resolve (target base : Value) : Except Fault Value := do
  let t ← target.searched
  if isAbsolute t || !base.holds then .ok target
  else if t.isEmpty then .ok base
  else
    let b ← base.textFor "rstrip"
    .ok (.text (attach b t))

theorem resolve_text (t b : Text) :
    resolve (.text t) (.text b) =
      .ok (.text (if isAbsolute t = true ∨ b = [] then t
        else if t = [] then b else attach b t)) := by
  by_cases h : isAbsolute t = true <;> cases b <;> cases t <;>
    simp_all [resolve, bind, Except.bind]

/-- A body with the override put in for the recorded address; nothing changes if either is empty. -/
def rebase {α : Type} [DecidableEq α] (recorded override body : List α) : List α :=
  if recorded.isEmpty || override.isEmpty then body else Text.replace recorded override body

def override (recorded : Value) (other : Text) (body : RawText) : Except Fault RawText :=
  if !recorded.holds || other.isEmpty then .ok body
  else
    match recorded with
    | .text url => .ok (rebase (url : RawText) other body)
    | v => .error (.notReplaceable v.kind)

section

variable {α : Type} [DecidableEq α]

@[simp] theorem rebase_nil_left (override body : List α) : rebase [] override body = body := rfl
@[simp] theorem rebase_nil_right (recorded body : List α) : rebase recorded [] body = body := by
  simp [rebase]

theorem rebase_self (url body : List α) : rebase url url body = body := by
  cases url with
  | nil => rfl
  | cons c r => simp [rebase, Text.replace_self]

end

end TestScribe.Address
