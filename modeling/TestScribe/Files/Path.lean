import TestScribe.Text.Basic

/-!
Paths as they are written: a root and the components after it. Empty components and single dots mean
nothing and are dropped; two dots are kept, since what they lead to depends on the files there are,
except in `resolved`, which follows them through the text alone. Two leading slashes, but not three,
are a root of their own.
-/

namespace TestScribe

structure Path where
  /-- The number of slashes in front: none, one or two. -/
  slashes : Nat
  parts : List Text
  deriving DecidableEq

namespace Path

/-- The number of slashes that count as the root of a written path. -/
def rootOf : Text → Nat
  | '/' :: '/' :: '/' :: _ => 1
  | '/' :: '/' :: _ => 2
  | '/' :: _ => 1
  | _ => 0

def partsOf (t : Text) : List Text :=
  (Text.split '/' t).filter fun p => !p.isEmpty && p ≠ ['.']

def ofText (t : Text) : Path := ⟨rootOf t, partsOf t⟩

def toText (p : Path) : Text :=
  match List.replicate p.slashes '/' ++ Text.join ['/'] p.parts with
  | [] => ['.']
  | t => t

def isAbsolute (p : Path) : Bool := p.slashes ≠ 0

/-- A path taken from another one; an absolute path stays what it is. -/
def join (base p : Path) : Path :=
  if p.isAbsolute then p else ⟨base.slashes, base.parts ++ p.parts⟩

def parent (p : Path) : Path := ⟨p.slashes, p.parts.dropLast⟩

/-- One step of following components, where the way so far is given from its end. -/
def follow (back : List Text) (part : Text) : List Text :=
  if part = "..".toList then back.tail else part :: back

/-- The absolute path with a single root to which the components lead; two dots at the root stay
there. -/
def resolved (p : Path) : Path := ⟨1, (p.parts.foldl follow []).reverse⟩

theorem mem_partsOf {t p : Text} (h : p ∈ partsOf t) : p ≠ [] ∧ p ≠ ['.'] := by
  simp only [partsOf, List.mem_filter, Bool.and_eq_true, Bool.not_eq_true',
    List.isEmpty_eq_false_iff, decide_eq_true_eq] at h
  exact h.2

example : (ofText "/out//x/./y/").toText = "/out/x/y" := by decide +kernel
example : (ofText "//a").toText = "//a" ∧ (ofText "///a").toText = "/a" := by decide +kernel
example : (ofText "").toText = "." := by decide +kernel
example : (ofText "/a/../../b").resolved.toText = "/b" := by decide +kernel

end Path

end TestScribe
