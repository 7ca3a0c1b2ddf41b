import Mathlib.Data.List.Basic
import TestScribe.Log.Operation

/-!
Scopes within scopes. The end of a scope takes away the fields with the keys of the scope, whatever
was bound to them before: so what is bound after a scope is what was bound before it, less all keys
of the scope and of the scopes in it (`crossAll_of_nested`). That is what was bound before exactly
as long as no scope binds a key that is bound already (`scopes_restore_iff`).
-/

namespace TestScribe.Log

/-- The beginning of a scope that binds some fields, or the end of this scope, in order or by a
fault. -/
inductive Boundary where
  | entry (context : Fields)
  | exit (context : Fields) (fault : Option Fault)

def cross (bound : Fields) : Boundary → Fields
  | .entry context => enter bound context
  | .exit context _ => leave bound context

def crossAll (bound : Fields) (bs : List Boundary) : Fields := bs.foldl cross bound

def scope (context : Fields) (inner : List Boundary) (fault : Option Fault) : List Boundary :=
  .entry context :: (inner ++ [.exit context fault])

/-- Whether boundaries are those of whole scopes, one after another, with whole scopes in them. -/
inductive Nested : List Boundary → Prop
  | nil : Nested []
  | append {context : Fields} {inner rest : List Boundary} {fault : Option Fault}
    (hinner : Nested inner) (hrest : Nested rest) : Nested (scope context inner fault ++ rest)

def Boundary.keys : Boundary → List Text
  | entry context => context.map Prod.fst
  | exit _ _ => []

def without (keys : List Text) (fields : Fields) : Fields :=
  fields.filter fun f => !keys.contains f.1

/-- Whether right after the end of each whole scope among boundaries just that is bound which was
bound right before its beginning. -/
def Restores (bound : Fields) (bs : List Boundary) : Prop :=
  ∀ earlier context inner fault, Nested inner → earlier ++ scope context inner fault <+: bs →
    crossAll bound (earlier ++ scope context inner fault) = crossAll bound earlier

/-- Whether nothing is bound to the keys of a whole scope right before its beginning. -/
def BindsNewKeys (bound : Fields) (bs : List Boundary) : Prop :=
  ∀ earlier context inner fault, Nested inner → earlier ++ scope context inner fault <+: bs →
    ∀ f ∈ context, Value.field? (crossAll bound earlier) f.1 = none

variable {bound fields context new : Fields} {bs as inner : List Boundary} {fault : Option Fault}
  {key : Text} {v : Value} {keys others : List Text}

theorem crossAll_append (bound : Fields) (as bs : List Boundary) :
    crossAll bound (as ++ bs) = crossAll (crossAll bound as) bs := List.foldl_append

theorem crossAll_scope (bound context : Fields) (inner : List Boundary) (fault : Option Fault) :
    crossAll bound (scope context inner fault) =
      leave (crossAll (enter bound context) inner) context := by
  simp [crossAll, scope, cross]

theorem nested_scope (h : Nested inner) : Nested (scope context inner fault) := by
  have happend : Nested (scope context inner fault ++ []) := h.append .nil
  rwa [List.append_nil] at happend

/-! Fields without some keys. -/

theorem leave_eq_without (bound context : Fields) :
    leave bound context = without (context.map Prod.fst) bound := by
  simp [leave, without]

theorem without_without (keys others : List Text) (fields : Fields) :
    without keys (without others fields) = without (keys ++ others) fields := by
  simp [without, List.filter_filter]

theorem without_cons (keys : List Text) (f : Text × Value) (r : Fields) :
    without keys (f :: r) = if f.1 ∈ keys then without keys r else f :: without keys r := by
  by_cases h : f.1 ∈ keys <;> simp [without, h]

theorem without_congr (h : ∀ key, key ∈ keys ↔ key ∈ others) (fields : Fields) :
    without keys fields = without others fields := by
  have hcontains : keys.contains = others.contains := by
    funext key
    rw [Bool.eq_iff_iff, List.contains_iff_mem, List.contains_iff_mem, h]
  rw [without, without, hcontains]

theorem field?_eq_none_iff : Value.field? fields key = none ↔ ∀ f ∈ fields, f.1 ≠ key := by
  simp only [Value.field?, List.lookup_eq_none_iff, bne_iff_ne, ne_comm]

theorem without_eq_self_iff :
    without keys fields = fields ↔ ∀ key ∈ keys, Value.field? fields key = none := by
  simp only [without, List.filter_eq_self, Bool.not_eq_true', ← Bool.not_eq_true,
    List.contains_iff_mem, field?_eq_none_iff]
  exact ⟨fun h key hkey f hf heq => h f hf (heq ▸ hkey), fun h f hf hkey => h f.1 hkey f hf rfl⟩

theorem without_put (h : key ∈ keys) (v : Value) (fields : Fields) :
    without keys (Value.put key v fields) = without keys fields := by
  induction fields with
  | nil => rw [Value.put, without_cons, if_pos h]
  | cons f r ih =>
    obtain ⟨k, w⟩ := f
    by_cases hk : k = key
    · subst hk
      rw [Value.put, if_pos rfl, without_cons, if_pos h, without_cons, if_pos h]
    · rw [Value.put, if_neg hk, without_cons, without_cons, ih]

theorem without_merge (h : ∀ f ∈ new, f.1 ∈ keys) (fields : Fields) :
    without keys (merge fields new) = without keys fields := by
  induction new generalizing fields with
  | nil => rfl
  | cons f r ih =>
    obtain ⟨hf, hr⟩ := List.forall_mem_cons.1 h
    exact (ih hr _).trans (without_put hf f.2 fields)

/-! What whole scopes leave. -/

theorem keys_scope (context : Fields) (inner : List Boundary) (fault : Option Fault) :
    (scope context inner fault).flatMap Boundary.keys =
      context.map Prod.fst ++ inner.flatMap Boundary.keys := by
  simp [scope, Boundary.keys]

/-- Whole scopes leave what was bound before them, less the keys that they have bound. -/
theorem crossAll_of_nested (h : Nested bs) (bound : Fields) :
    crossAll bound bs = without (bs.flatMap Boundary.keys) bound := by
  induction h generalizing bound with
  | nil => exact (without_eq_self_iff.2 (by simp)).symm
  | @append context inner rest fault _ _ ihinner ihrest =>
    have hcontext : ∀ f ∈ context, f.1 ∈ rest.flatMap Boundary.keys ++ context.map Prod.fst ++
        inner.flatMap Boundary.keys := fun f hf => by
      simp [List.mem_map_of_mem (f := Prod.fst) hf]
    -- the keys of the context go in the end, so that it need not have been bound at all
    rw [crossAll_append, crossAll_scope, ihinner, ihrest, leave_eq_without, without_without,
      without_without, enter, without_merge hcontext, List.flatMap_append, keys_scope,
      List.append_assoc]
    exact without_congr (fun key => by rw [List.mem_append, or_comm, ← List.mem_append]) bound

theorem crossAll_scope_of_nested (h : Nested inner) (bound context : Fields)
    (fault : Option Fault) : crossAll bound (scope context inner fault) =
      without (context.map Prod.fst ++ inner.flatMap Boundary.keys) bound := by
  rw [crossAll_of_nested (nested_scope h), keys_scope]

theorem BindsNewKeys.left (h : BindsNewKeys bound (as ++ bs)) : BindsNewKeys bound as :=
  fun earlier context inner fault hinner hpre =>
    h earlier context inner fault hinner (hpre.trans (List.prefix_append as bs))

theorem BindsNewKeys.right (h : BindsNewKeys bound (as ++ bs)) :
    BindsNewKeys (crossAll bound as) bs := by
  intro earlier context inner fault hinner hpre
  rw [← crossAll_append]
  refine h (as ++ earlier) context inner fault hinner ?_
  rw [List.append_assoc]
  exact (List.prefix_append_right_inj as).2 hpre

theorem BindsNewKeys.crossAll_eq (hbs : Nested bs) (h : BindsNewKeys bound bs) :
    crossAll bound bs = bound := by
  induction hbs generalizing bound with
  | nil => rfl
  | @append context inner rest fault hinner _ ihinner ihrest =>
    have hfirst := h.left
    have hrest := h.right
    have hnew : ∀ f ∈ context, Value.field? bound f.1 = none :=
      hfirst [] context inner fault hinner (List.prefix_refl _)
    have hafter : BindsNewKeys (crossAll bound [.entry context])
        (inner ++ [.exit context fault]) := hfirst.right
    have hwithin : BindsNewKeys (enter bound context) inner := hafter.left
    -- what is in the scope gives back the context that was bound for it, and only this goes
    have hscope : crossAll bound (scope context inner fault) = bound := by
      rw [crossAll_scope, ihinner hwithin, leave_eq_without, enter,
        without_merge fun f hf => List.mem_map_of_mem hf, without_eq_self_iff]
      simpa using hnew
    rw [hscope] at hrest
    rw [crossAll_append, hscope, ihrest hrest]

/-- A scope takes away all keys that it has bound or that a scope in it has bound, and nothing else,
however it ends. So every scope gives back what was bound before it if and only if every scope
binds keys to which nothing is bound. -/
theorem scopes_restore_iff (bound : Fields) :
    (∀ context inner fault, Nested inner → crossAll bound (scope context inner fault) =
      without (context.map Prod.fst ++ inner.flatMap Boundary.keys) bound) ∧
    ∀ bs, Restores bound bs ↔ BindsNewKeys bound bs := by
  refine ⟨fun context inner fault hinner => crossAll_scope_of_nested hinner bound context fault,
    fun bs => ⟨fun h => ?_, fun h => ?_⟩⟩
  · intro earlier context inner fault hinner hpre f hf
    have hsame := h earlier context inner fault hinner hpre
    rw [crossAll_append, crossAll_scope_of_nested hinner, without_eq_self_iff] at hsame
    exact hsame f.1 (List.mem_append_left _ (List.mem_map_of_mem hf))
  · intro earlier context inner fault hinner ⟨later, hlater⟩
    subst hlater
    rw [crossAll_append]
    exact h.left.right.crossAll_eq (nested_scope hinner)

/-- A scope in another one that binds a key of it: from its end on nothing is bound to the key,
though the other scope has not ended. -/
theorem outer_field_lost :
    let outer : Fields := [("unit", .text "a")]
    let inner : Fields := [("unit", .text "b")]
    Nested (scope outer (scope inner [] none) none) ∧
      ¬ Restores [] (scope outer (scope inner [] none) none) := by
  refine ⟨nested_scope (nested_scope .nil), fun h => ?_⟩
  have hsame := h [.entry [("unit", .text "a")]] _ [] none .nil
    (List.prefix_append _ [Boundary.exit [("unit", .text "a")] none])
  cases hsame

end TestScribe.Log
