import TestScribe.Number.Shortest
import TestScribe.Text.Quoted

/-!
Recorded values. A project document may hold any value in any field, so the fields of the model
hold values of this type. An object keeps its fields in order of first appearance.
-/

namespace TestScribe

inductive Value where
  | null
  | bool (b : Bool)
  | int (n : Int)
  | float (x : Binary64)
  | text (t : Text)
  | list (items : List Value)
  | object (fields : List (Text × Value))

instance : Inhabited Value := ⟨.null⟩

/-- The kinds of values, as they are told apart in messages. -/
inductive Kind where
  | null | bool | int | float | text | list | object
  deriving DecidableEq

def Kind.name : Kind → Text
  | null => "NoneType"
  | bool => "bool"
  | int => "int"
  | float => "float"
  | text => "str"
  | list => "list"
  | object => "dict"

namespace Value

def kind : Value → Kind
  | null => .null
  | bool _ => .bool
  | int _ => .int
  | float _ => .float
  | text _ => .text
  | list _ => .list
  | object _ => .object

/-- Nothing, zero and what is empty do not hold. -/
def holds : Value → Bool
  | null => false
  | bool b => b
  | int n => n ≠ 0
  | float x => !x.isZero
  | text t => !t.isEmpty
  | list items => !items.isEmpty
  | object fields => !fields.isEmpty

/-- A value that holds, or else the other one. -/
def orElse (v w : Value) : Value := if v.holds then v else w

theorem orElse_of_holds {v : Value} (h : v.holds = true) (w : Value) : v.orElse w = v := by
  simp [orElse, h]

theorem orElse_of_not_holds {v : Value} (h : v.holds = false) (w : Value) : v.orElse w = w := by
  simp [orElse, h]

def empty : Value := text []

@[simp] theorem holds_text (t : Text) : (text t).holds = !t.isEmpty := rfl

@[simp] theorem orElse_empty_text (t : Text) : (text t).orElse empty = text t := by
  cases t <;> rfl

def field? (fields : List (Text × Value)) (key : Text) : Option Value :=
  fields.lookup key

/-- Sets a field: an existing one keeps its place, a new one goes to the end. -/
def put (key : Text) (v : Value) : List (Text × Value) → List (Text × Value)
  | [] => [(key, v)]
  | (k, w) :: r => if k = key then (k, v) :: r else (k, w) :: put key v r

theorem field?_put_self (key : Text) (v : Value) (fields : List (Text × Value)) :
    field? (put key v fields) key = some v := by
  induction fields with
  | nil => simp [put, field?]
  | cons f r ih =>
    obtain ⟨k, w⟩ := f
    by_cases h : k = key
    · simp [put, h, field?]
    · have h' : (key == k) = false := by simpa using fun e => h e.symm
      simpa [put, h, field?, List.lookup_cons, h'] using ih

theorem field?_put_of_ne {key other : Text} (hne : other ≠ key) (v : Value)
    (fields : List (Text × Value)) : field? (put key v fields) other = field? fields other := by
  induction fields with
  | nil => simp [put, field?, List.lookup_cons, beq_eq_false_iff_ne.2 hne]
  | cons f r ih =>
    obtain ⟨k, w⟩ := f
    by_cases h : k = key
    · subst h
      simp [put, field?, List.lookup_cons, beq_eq_false_iff_ne.2 hne]
    · by_cases h' : other = k
      · subst h'
        simp [put, h, field?]
      · simpa [put, h, field?, List.lookup_cons, beq_eq_false_iff_ne.2 h'] using ih

end Value

end TestScribe
