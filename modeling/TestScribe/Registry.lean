import TestScribe.Project.Basic
import TestScribe.Fault

/-!
The registry of command translators that plugins contribute. Translators of one name are kept in the
order in which they came, and the first that accepts a command answers for it. While the registry is
frozen nothing can be added. One registry is shared by all, and `after` says what a sequence of
operations makes of it.
-/

namespace TestScribe

/-- A translator: given a command and the wanted language, it answers with code or declines. -/
abbrev Hook := Command → Text → Except Fault (Option Text)

/-- A translator that knows one language, or all, and fills a template from the fields of the
command. -/
def Hook.ofTemplate (language code : Option Text) : Hook := fun c wanted =>
  if language.any (· ≠ wanted) then .ok none
  else
    .ok (code.map fun t =>
      [("\x7bcommand\x7d".toList, c.name.display), ("\x7btarget\x7d".toList, c.target.display),
        ("\x7bvalue\x7d".toList, c.value.display), ("\x7bcomment\x7d".toList, c.comment.display),
        ("\x7blanguage\x7d".toList, wanted)].foldl (fun t (hole, v) => Text.replace hole v t) t)

inductive RegistryError where
  | frozen (name : Text)
  | notCallable (name : Text)
  deriving DecidableEq

def RegistryError.message : RegistryError → Text
  | frozen name => "Cannot register command '" ++ name ++ "' after plugins are loaded"
  | notCallable name => "Hook for command '" ++ name ++ "' is not callable"

structure Registry where
  hooks : List (Text × List Hook) := []
  loaded : List Text := []
  frozen : Bool := false

namespace Registry

def empty : Registry := {}

def hooksOf (r : Registry) (name : Text) : List Hook := (r.hooks.lookup name).getD []

def has (r : Registry) (name : Text) : Bool := (r.hooks.lookup name).isSome

/-- Puts a translator behind those that its name already has. -/
def addHook (name : Text) (h : Hook) : List (Text × List Hook) → List (Text × List Hook)
  | [] => [(name, [h])]
  | (n, hs) :: r => if n = name then (n, hs ++ [h]) :: r else (n, hs) :: addHook name h r

theorem lookup_addHook (name n : Text) (h : Hook) (es : List (Text × List Hook)) :
    (addHook name h es).lookup n =
      if n = name then some ((es.lookup n).getD [] ++ [h]) else es.lookup n := by
  induction es with
  | nil => by_cases hn : n = name <;> simp [addHook, hn]
  | cons e es ih =>
    obtain ⟨m, hs⟩ := e
    by_cases hm : m = name
    · subst hm
      by_cases hn : n = m
      · simp [addHook, hn]
      · simp [addHook, hn, List.lookup_cons, beq_eq_false_iff_ne.2 hn]
    · by_cases hn : n = m
      · subst hn
        simp [addHook, hm]
      · simpa [addHook, hm, List.lookup_cons, beq_eq_false_iff_ne.2 hn] using ih

/-- Adds a translator; `none` stands for something that cannot be called. -/
def register (r : Registry) (name : Text) (hook : Option Hook) : Except RegistryError Registry :=
  if r.frozen then .error (.frozen name)
  else
    match hook with
    | none => .error (.notCallable name)
    | some h => .ok { r with hooks := addHook name h r.hooks }

def markLoaded (r : Registry) (reference : Text) : Registry :=
  { r with loaded := r.loaded ++ [reference] }

def isLoaded (r : Registry) (reference : Text) : Bool := r.loaded.contains reference

def freeze (r : Registry) : Registry := { r with frozen := true }
def thaw (r : Registry) : Registry := { r with frozen := false }

def names (r : Registry) : List Text := (r.hooks.map Prod.fst).mergeSort Text.le

def firstAnswer (c : Command) (language : Text) : List Hook → Except Fault (Option Text)
  | [] => .ok none
  | h :: hs =>
    match h c language with
    | .error f => .error f
    | .ok (some code) => .ok (some code)
    | .ok none => firstAnswer c language hs

/-- Code for a command from the translators of its recorded name. -/
def translate (r : Registry) (c : Command) (language : Text) : Except Fault (Option Text) :=
  match c.name with
  | .text name => firstAnswer c language (r.hooksOf name)
  | .list _ => .error (.unhashable .list)
  | .object _ => .error (.unhashable .object)
  | _ => .ok none

inductive Operation where
  | register (name : Text) (hook : Option Hook)
  | markLoaded (reference : Text)
  | freeze
  | thaw
  /-- Puts a new registry in its place. -/
  | reset
  | translate (c : Command) (language : Text)
  | has (name : Text)
  | isLoaded (reference : Text)
  | names
  | loaded
  | frozen

inductive Reply where
  | done
  | refused (error : RegistryError)
  | translation (result : Except Fault (Option Text))
  | truth (b : Bool)
  | texts (ts : List Text)

def Operation.perform (r : Registry) : Operation → Registry × Reply
  | register name hook =>
    match r.register name hook with
    | .ok s => (s, .done)
    | .error e => (r, .refused e)
  | markLoaded reference => (r.markLoaded reference, .done)
  | freeze => (r.freeze, .done)
  | thaw => (r.thaw, .done)
  | reset => (.empty, .done)
  | translate c language => (r, .translation (r.translate c language))
  | has name => (r, .truth (r.has name))
  | isLoaded reference => (r, .truth (r.isLoaded reference))
  | names => (r, .texts r.names)
  | loaded => (r, .texts r.loaded)
  | frozen => (r, .truth r.frozen)

/-- The registry after operations, at the beginning of which there is nothing in it. -/
def after (ops : List Operation) : Registry := ops.foldl (fun r o => (o.perform r).1) .empty

@[simp] theorem hooksOf_empty (name : Text) : empty.hooksOf name = [] := rfl

@[simp] theorem frozen_freeze (r : Registry) : r.freeze.frozen = true := rfl
@[simp] theorem frozen_thaw (r : Registry) : r.thaw.frozen = false := rfl

theorem register_of_frozen {r : Registry} (h : r.frozen = true) (name : Text)
    (hook : Option Hook) : r.register name hook = .error (.frozen name) := by
  simp [register, h]

end Registry

end TestScribe
