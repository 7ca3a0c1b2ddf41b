import Mathlib.Data.List.Induction
import TestScribe.Proofs.Plugins.Registry

/-!
The registry that all share and its history. Whatever operations have been carried out, in whatever
order, the registry is what they say: its translators are those that were registered since the last
reset while it was not frozen (`hooksOf_after`), and nothing else has any effect on them.
-/

namespace TestScribe.Registry

variable {r : Registry} {name : Text} {ops : List Operation} {o : Operation} {i : Nat}

namespace Operation

/-- Whether the registry is frozen by an operation that has to do with it. -/
def freezes? : Operation → Option Bool
  | freeze => some true
  | thaw => some false
  | reset => some false
  | _ => none

def isReset : Operation → Bool
  | reset => true
  | _ => false

def registers? (name : Text) : Operation → Option Hook
  | register n (some h) => if n = name then some h else none
  | _ => none

end Operation

/-- Whether a history leaves the registry frozen: the last operation that has to do with it says so.
-/
def isFrozenAfter (ops : List Operation) : Bool :=
  (ops.reverse.findSome? Operation.freezes?).getD false

/-- The translator that is registered under a name at one place of a history, where the registry is
not frozen, and which no reset drops later on. -/
def registeredAt (name : Text) (ops : List Operation) (i : Nat) : Option Hook :=
  if isFrozenAfter (ops.take i) || (ops.drop i).any Operation.isReset then none
  else ops[i]?.bind (Operation.registers? name)

/-- The translators that were registered under a name since the last reset while the registry was
not frozen, in the order of their registration. -/
def registered (name : Text) (ops : List Operation) : List Hook :=
  (List.range ops.length).filterMap (registeredAt name ops)

example (h k l : Hook) :
    registered "a" [.register "a" (some h), .freeze, .register "a" (some k), .thaw,
      .register "a" (some l)] = [h, l] := rfl

/-! One more operation. -/

theorem after_append_singleton (ops : List Operation) (o : Operation) :
    after (ops ++ [o]) = (o.perform (after ops)).1 := by
  simp only [after, List.foldl_append, List.foldl_cons, List.foldl_nil]

theorem isFrozenAfter_append_singleton (ops : List Operation) (o : Operation) :
    isFrozenAfter (ops ++ [o]) = o.freezes?.getD (isFrozenAfter ops) := by
  simp only [isFrozenAfter, List.reverse_append, List.reverse_singleton, List.singleton_append,
    List.findSome?_cons]
  cases o.freezes? <;> rfl

theorem registeredAt_of_lt (h : i < ops.length) : registeredAt name (ops ++ [o]) i =
    if o.isReset then none else registeredAt name ops i := by
  unfold registeredAt
  have hle := Nat.le_of_lt h
  rw [List.take_append_of_le_length hle, List.drop_append_of_le_length hle,
    List.getElem?_append_left h, List.any_append, List.any_cons, List.any_nil, Bool.or_false]
  cases o.isReset <;> simp

theorem registeredAt_length (name : Text) (ops : List Operation) (o : Operation) :
    registeredAt name (ops ++ [o]) ops.length =
      if isFrozenAfter ops then none else o.registers? name := by
  cases o <;> simp [registeredAt, Operation.isReset, Operation.registers?]

theorem registered_append_singleton (name : Text) (ops : List Operation) (o : Operation) :
    registered name (ops ++ [o]) =
      (if o.isReset then [] else registered name ops) ++
        (if isFrozenAfter ops then none else o.registers? name).toList := by
  have hold : (List.range ops.length).filterMap (registeredAt name (ops ++ [o])) =
      if o.isReset then [] else registered name ops := by
    rw [List.filterMap_congr fun i hi => registeredAt_of_lt (List.mem_range.1 hi)]
    cases o.isReset
    · rfl
    · simp
  rw [registered, List.length_append, List.length_singleton, List.range_succ, List.filterMap_append,
    hold, List.filterMap_cons, registeredAt_length]
  cases (if isFrozenAfter ops then none else o.registers? name) <;> rfl

theorem frozen_perform (r : Registry) (o : Operation) :
    (o.perform r).1.frozen = o.freezes?.getD r.frozen := by
  cases o with
  | register name hook =>
    simp only [Operation.perform, Operation.freezes?, Option.getD_none]
    cases hr : r.register name hook with
    | error e => rfl
    | ok s =>
      obtain ⟨-, h, -, rfl⟩ := register_eq_ok.1 hr
      rfl
  | _ => rfl

theorem hooksOf_perform (r : Registry) (o : Operation) (name : Text) :
    (o.perform r).1.hooksOf name =
      (if o.isReset then [] else r.hooksOf name) ++
        (if r.frozen then none else o.registers? name).toList := by
  cases o with
  | register n hook =>
    simp only [Operation.perform, Operation.isReset]
    cases hr : r.register n hook with
    | error e =>
      rcases register_eq_error.1 hr with ⟨hf, -⟩ | ⟨-, rfl, -⟩ <;>
        simp [Operation.registers?, *]
    | ok s =>
      obtain ⟨hf, h, rfl, rfl⟩ := register_eq_ok.1 hr
      by_cases hn : n = name <;> simp [Operation.registers?, under, hf, hn]
  | reset => cases r.frozen <;> rfl
  | _ => cases hf : r.frozen <;> simp [Operation.perform, Operation.isReset,
      Operation.registers?, hooksOf, Registry.freeze, Registry.thaw, Registry.markLoaded]

theorem Tidy.perform (hr : r.Tidy) (o : Operation) : (o.perform r).1.Tidy := by
  cases o with
  | register n hook =>
    simp only [Operation.perform]
    cases hreg : r.register n hook with
    | error e => exact hr
    | ok s =>
      obtain ⟨-, h, -, rfl⟩ := register_eq_ok.1 hreg
      exact hr.extend_singleton n h
  | reset => exact tidy_empty
  | _ => exact ⟨hr.distinct, hr.inhabited⟩

/-! Whole histories. -/

theorem frozen_after (ops : List Operation) : (after ops).frozen = isFrozenAfter ops := by
  induction ops using List.reverseRecOn with
  | nil => rfl
  | append_singleton ops o ih =>
    rw [after_append_singleton, frozen_perform, ih, isFrozenAfter_append_singleton]

theorem hooksOf_after (name : Text) (ops : List Operation) :
    (after ops).hooksOf name = registered name ops := by
  induction ops using List.reverseRecOn with
  | nil => rfl
  | append_singleton ops o ih =>
    rw [after_append_singleton, hooksOf_perform, ih, frozen_after, registered_append_singleton]

theorem tidy_after (ops : List Operation) : (after ops).Tidy := by
  induction ops using List.reverseRecOn with
  | nil => exact tidy_empty
  | append_singleton ops o ih =>
    rw [after_append_singleton]
    exact ih.perform o

theorem has_after : (after ops).has name = true ↔ registered name ops ≠ [] := by
  rw [(tidy_after ops).has_iff_hooksOf, hooksOf_after]

/-- An operation that is refused is a registration, and leaves everything as it was. -/
theorem perform_eq_refused {e : RegistryError} (h : (o.perform r).2 = .refused e) :
    (o.perform r).1 = r ∧ ∃ name hook, o = .register name hook ∧ r.register name hook = .error e := by
  cases o with
  | register name hook =>
    simp only [Operation.perform] at h ⊢
    cases hr : r.register name hook with
    | error d =>
      rw [hr] at h
      cases h
      exact ⟨rfl, name, hook, rfl, hr⟩
    | ok s =>
      rw [hr] at h
      cases h
  | _ => cases h

/-- The registry is what its history says. The translators that are asked for a command are those
that were registered under its name since the last reset while the registry was not frozen, in
order; what comes of the command is settled by the first of them that does not decline; the registry
has the names that there are such translators for, and lists each of them once, in order; and a
registration is refused exactly if the registry is frozen or what is to be registered cannot be
called, and then nothing changes. -/
theorem registry_tells_history (ops : List Operation) :
    (∀ name, (after ops).hooksOf name = registered name ops) ∧
    (∀ name (c : Command) language x, (after ops).translate { c with name := .text name } language = x ↔
      Settles { c with name := .text name } language (registered name ops) x) ∧
    (∀ name, (after ops).has name = true ↔ registered name ops ≠ []) ∧
    (after ops).names.Pairwise (· < ·) ∧
    (∀ name, name ∈ (after ops).names ↔ registered name ops ≠ []) ∧
    (∀ name hook e, (after ops).register name hook = .error e ↔
      isFrozenAfter ops = true ∧ e = .frozen name ∨
        isFrozenAfter ops = false ∧ hook = none ∧ e = .notCallable name) ∧
    ∀ o e, (o.perform (after ops)).2 = .refused e → after (ops ++ [o]) = after ops := by
  refine ⟨fun name => hooksOf_after name ops, fun name c language x => ?_, fun name => has_after,
    (tidy_after ops).names, fun name => mem_names.trans has_after, fun name hook e => ?_,
    fun o e h => ?_⟩
  · rw [translate_of_text rfl, hooksOf_after, firstAnswer_eq_iff]
  · rw [register_eq_error, frozen_after]
  · rw [after_append_singleton]
    exact (perform_eq_refused h).1

end TestScribe.Registry
