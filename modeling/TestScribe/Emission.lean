import TestScribe.Output
import TestScribe.Registry

/-!
Formats and what they do when they are asked for a unit. An emission is a program of its own: it may
wait, look at the shared registry, try to add to a registry, and in the end it answers or fails.
Between two waits nothing else happens.
-/

namespace TestScribe

inductive UnitError where
  | emission (error : EmissionError)
  | refused (error : RegistryError)
  | fault (fault : Fault)

def UnitError.message : UnitError → Text
  | emission e => e.message
  | refused e => e.message
  | fault f => f.message

/-- What asking for the message of an error raises. -/
def UnitError.mutedBy (mute : Mute) : UnitError → Option Fault
  | fault f => f.mutedBy mute
  | _ => none

@[simp] theorem UnitError.mutedBy_never (e : UnitError) : e.mutedBy .never = none := by
  cases e <;> simp [mutedBy]

/-- The registry that all share, and another one where a run has its own. -/
structure Registries where
  shared : Registry := .empty
  own : Option Registry := none

namespace Registries

def current (g : Registries) : Registry := g.own.getD g.shared

def update (g : Registries) (f : Registry → Registry) : Registries :=
  match g.own with
  | some r => { g with own := some (f r) }
  | none => { g with shared := f g.shared }

@[simp] theorem current_update (g : Registries) (f : Registry → Registry) :
    (g.update f).current = f g.current := by
  obtain ⟨s, o⟩ := g
  cases o <;> rfl

theorem update_update (g : Registries) (f h : Registry → Registry) :
    (g.update f).update h = g.update (h ∘ f) := by
  obtain ⟨s, o⟩ := g
  cases o <;> rfl

end Registries

inductive Emission where
  | answers (a : Answer)
  | fails (e : UnitError)
  | waits (rest : Emission)
  /-- Looks at the shared registry. -/
  | consults (next : Registry → Emission)
  /-- Tries to register a translator with the registry of the run, and sees whether it was
  refused. -/
  | registers (name : Text) (hook : Option Hook) (next : Option RegistryError → Emission)

namespace Emission

inductive Progress where
  | waiting (rest : Emission)
  | ended (result : Except UnitError Answer)

def attempt (g : Registries) (name : Text) (hook : Option Hook) :
    Registries × Option RegistryError :=
  match g.current.register name hook with
  | .ok r => (g.update fun _ => r, none)
  | .error e => (g, some e)

/-- Goes on until the emission waits or ends. -/
def advance : Emission → Registries → Registries × Progress
  | answers a, g => (g, .ended (.ok a))
  | fails e, g => (g, .ended (.error e))
  | waits rest, g => (g, .waiting rest)
  | consults next, g => (next g.shared).advance g
  | registers name hook next, g =>
    let (g, refusal) := attempt g name hook
    (next refusal).advance g

/-- Goes on to the end, as if every wait were over at once. -/
def drive : Emission → Registries → Registries × Except UnitError Answer
  | answers a, g => (g, .ok a)
  | fails e, g => (g, .error e)
  | waits rest, g => rest.drive g
  | consults next, g => (next g.shared).drive g
  | registers name hook next, g =>
    let (g, refusal) := attempt g name hook
    (next refusal).drive g

def after : Nat → Emission → Emission
  | 0, e => e
  | n + 1, e => waits (after n e)

theorem attempt_of_frozen {g : Registries} (h : g.current.frozen = true) (name : Text)
    (hook : Option Hook) : attempt g name hook = (g, some (.frozen name)) := by
  simp [attempt, Registry.register_of_frozen h]

theorem advance_of_frozen (e : Emission) {g : Registries} (h : g.current.frozen = true) :
    (e.advance g).1 = g := by
  induction e with
  | answers _ | fails _ | waits _ _ => rfl
  | consults next ih => exact ih g.shared
  | registers name hook next ih =>
    simp only [advance, attempt_of_frozen h]
    exact ih _

theorem drive_of_frozen (e : Emission) {g : Registries} (h : g.current.frozen = true) :
    (e.drive g).1 = g := by
  induction e with
  | answers _ | fails _ => rfl
  | waits _ ih => exact ih
  | consults next ih => exact ih g.shared
  | registers name hook next ih =>
    simp only [drive, attempt_of_frozen h]
    exact ih _

end Emission

/-- The two collections of a project that can be exported. -/
inductive Mode where
  | test | suite
  deriving DecidableEq

namespace Mode

def name : Mode → Text
  | test => "test"
  | suite => "suite"

def ofName? (t : Text) : Option Mode := [test, suite].find? (·.name = t)

@[simp] theorem ofName?_name (m : Mode) : ofName? m.name = some m := by
  cases m <;> decide +kernel

end Mode

abbrev Emitter := Project → Text → Emission

structure Format where
  emitTest : Emitter
  emitSuite : Emitter

def Format.emit (f : Format) : Mode → Emitter
  | .test => f.emitTest
  | .suite => f.emitSuite

end TestScribe
