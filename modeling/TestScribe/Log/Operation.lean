import TestScribe.Fault

/-!
What is logged about an operation: that it started, and how it ended, with the fields that are bound
to the log and those that the operation leaves behind. A scope binds fields for the time between its
beginning and its end.
-/

namespace TestScribe.Log

abbrev Fields := List (Text × Value)

/-- Fields with others put in; an existing one keeps its place. -/
def merge (fields new : Fields) : Fields := new.foldl (fun fs f => Value.put f.1 f.2 fs) fields

inductive Severity where
  | debug | error
  deriving DecidableEq

def Severity.name : Severity → Text
  | debug => "debug"
  | error => "error"

structure Entry where
  severity : Severity
  event : Text
  fields : Fields

/-- How an operation went: its entries in the log, the fields that it leaves behind, and the fault
with which it ended. -/
structure Trace where
  entries : List Entry
  final : Fields
  fault : Option Fault

def initial : Fields := [("success", .bool false), ("error", .null)]

/-- The log of an operation that sets fields and then ends, with or without a fault. -/
def operation (name : Text) (context set : Fields) (fault : Option Fault) : Trace :=
  let bound := merge [("operation", .text name)] context
  let left := merge initial set
  let (severity, word, final) :=
    match fault with
    | none => (Severity.debug, " completed".toList, Value.put "success" (.bool true) left)
    | some f => (Severity.error, " failed".toList, Value.put "error" (.text f.message) left)
  { entries := [⟨.debug, name ++ " started", bound⟩, ⟨severity, name ++ word, merge bound final⟩]
    final, fault }

def enter (bound context : Fields) : Fields := merge bound context

/-- The fields that are bound after the end of the scope: its own are gone. -/
def leave (bound context : Fields) : Fields :=
  bound.filter fun f => !(context.map Prod.fst).contains f.1

theorem field?_leave {bound context : Fields} {key : Text} (h : key ∉ context.map Prod.fst) :
    Value.field? (leave bound context) key = Value.field? bound key := by
  unfold leave Value.field?
  induction bound with
  | nil => rfl
  | cons f r ih =>
    obtain ⟨k, v⟩ := f
    rw [List.filter_cons]
    by_cases hk : key = k
    · subst hk
      have : (context.map Prod.fst).contains key = false := by simpa using h
      rw [if_pos (by simp only [this, Bool.not_false])]
      simp
    · have hb := beq_eq_false_iff_ne.2 hk
      split
      · simpa [List.lookup_cons, hb] using ih
      · simpa [List.lookup_cons, hb] using ih

end TestScribe.Log
