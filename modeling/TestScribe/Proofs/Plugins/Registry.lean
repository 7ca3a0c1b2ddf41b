import Mathlib.Data.List.Nodup
import TestScribe.Registry

/-!
What a registry holds. A translator that is added stands behind those that its name already has
(`hooksOf_extend`); a table in which each name stands once and has translators lists its names in
order (`Tidy.names`); and a command is settled by the first translator that does not decline it
(`firstAnswer_eq_iff`).
-/

namespace TestScribe

namespace Text

variable {s t u : Text}

theorem le_iff : le s t = true ↔ s = t ∨ s < t := by
  induction s generalizing t with
  | nil => cases t <;> simp [le]
  | cons c r ih =>
    cases t with
    | nil => simp [le]
    | cons d v =>
      by_cases hcd : c = d
      · subst hcd
        simp [le, ih]
      · have hlt : c.toNat < d.toNat ↔ c < d := Char.lt_def.symm
        simp [le, hcd, hlt, List.cons_lt_cons_iff]

theorem le_trans (h : le s t = true) (h' : le t u = true) : le s u = true := by
  rw [le_iff] at h h' ⊢
  rcases h with rfl | h
  · exact h'
  · rcases h' with rfl | h'
    · exact .inr h
    · exact .inr (List.lt_trans h h')

theorem le_total (s t : Text) : (le s t || le t s) = true := by
  induction s generalizing t with
  | nil => simp [le]
  | cons c r ih =>
    cases t with
    | nil => simp [le]
    | cons d v =>
      by_cases hcd : c = d
      · subst hcd
        simpa [le] using ih v
      · have hne : c.toNat ≠ d.toNat := fun h => hcd (Char.toNat_inj.1 h)
        simp only [le, hcd, Ne.symm hcd, ↓reduceIte, Bool.or_eq_true, decide_eq_true_eq]
        omega

theorem pairwise_lt_mergeSort {ts : List Text} (h : ts.Nodup) :
    (ts.mergeSort le).Pairwise (· < ·) := by
  have hle := @List.pairwise_mergeSort Text le (fun _ _ _ => le_trans) le_total ts
  have hne : (ts.mergeSort le).Pairwise (· ≠ ·) := (List.mergeSort_perm ts le).nodup_iff.2 h
  exact (hle.and hne).imp fun ⟨hst, hne⟩ => (le_iff.1 hst).resolve_left hne

end Text

namespace Registry

variable {r s : Registry} {name n : Text} {h : Hook} {added more : List (Text × Hook)}
  {es : List (Text × List Hook)}

/-! Translators that are added. -/

def extend (r : Registry) (added : List (Text × Hook)) : Registry :=
  { r with hooks := added.foldl (fun es a => addHook a.1 a.2 es) r.hooks }

def under (name : Text) (added : List (Text × Hook)) : List Hook :=
  added.filterMap fun a => if a.1 = name then some a.2 else none

@[simp] theorem extend_nil (r : Registry) : r.extend [] = r := rfl
@[simp] theorem loaded_extend (r : Registry) (added : List (Text × Hook)) :
    (r.extend added).loaded = r.loaded := rfl
@[simp] theorem frozen_extend (r : Registry) (added : List (Text × Hook)) :
    (r.extend added).frozen = r.frozen := rfl
@[simp] theorem under_nil (name : Text) : under name [] = [] := rfl
@[simp] theorem under_append (name : Text) (added more : List (Text × Hook)) :
    under name (added ++ more) = under name added ++ under name more := List.filterMap_append

theorem extend_extend (r : Registry) (added more : List (Text × Hook)) :
    (r.extend added).extend more = r.extend (added ++ more) := by
  simp only [extend, List.foldl_append]

theorem hooksOf_extend_singleton (r : Registry) (name n : Text) (h : Hook) :
    (r.extend [(n, h)]).hooksOf name = r.hooksOf name ++ under name [(n, h)] := by
  by_cases hn : n = name
  · subst hn
    simp [extend, under, hooksOf, lookup_addHook]
  · simp [extend, under, hooksOf, lookup_addHook, hn, Ne.symm hn]

@[simp] theorem hooksOf_extend (r : Registry) (name : Text) (added : List (Text × Hook)) :
    (r.extend added).hooksOf name = r.hooksOf name ++ under name added := by
  induction added generalizing r with
  | nil => simp
  | cons a rest ih =>
    rw [← List.singleton_append, ← extend_extend, ih, hooksOf_extend_singleton, under_append,
      List.append_assoc]

theorem register_eq_ok {hook : Option Hook} : r.register name hook = .ok s ↔
    r.frozen = false ∧ ∃ h, hook = some h ∧ s = r.extend [(name, h)] := by
  unfold register
  cases hf : r.frozen with
  | true => simp
  | false => cases hook <;> simp [extend, hf, eq_comm]

theorem register_eq_error {hook : Option Hook} {e : RegistryError} :
    r.register name hook = .error e ↔
      r.frozen = true ∧ e = .frozen name ∨
        r.frozen = false ∧ hook = none ∧ e = .notCallable name := by
  unfold register
  cases hf : r.frozen with
  | true => simp [eq_comm]
  | false => cases hook <;> simp [eq_comm]

/-! Names. -/

/-- Each name stands once, and there are translators for it. -/
structure Tidy (r : Registry) : Prop where
  distinct : (r.hooks.map Prod.fst).Nodup
  inhabited : ∀ e ∈ r.hooks, e.2 ≠ []

theorem mem_addHook {e : Text × List Hook} (he : e ∈ addHook name h es) :
    e ∈ es ∨ e.2 ≠ [] := by
  induction es with
  | nil =>
    obtain rfl := List.mem_singleton.1 he
    simp
  | cons f es ih =>
    obtain ⟨m, hs⟩ := f
    unfold addHook at he
    split at he
    · rcases List.mem_cons.1 he with rfl | he
      · simp
      · exact .inl (List.mem_cons_of_mem _ he)
    · rcases List.mem_cons.1 he with rfl | he
      · exact .inl List.mem_cons_self
      · exact (ih he).imp_left (List.mem_cons_of_mem _)

theorem keys_addHook (name : Text) (h : Hook) (es : List (Text × List Hook)) :
    (addHook name h es).map Prod.fst =
      es.map Prod.fst ++ if name ∈ es.map Prod.fst then [] else [name] := by
  induction es with
  | nil => simp [addHook]
  | cons e es ih =>
    obtain ⟨m, hs⟩ := e
    by_cases hm : m = name
    · simp [addHook, hm]
    · simp only [addHook, hm, ↓reduceIte, List.map_cons, ih, List.cons_append, List.mem_cons,
        Ne.symm hm, false_or]

theorem tidy_empty : empty.Tidy := ⟨by simp [empty], by simp [empty]⟩

theorem Tidy.extend_singleton (hr : r.Tidy) (name : Text) (h : Hook) :
    (r.extend [(name, h)]).Tidy := by
  constructor
  · show ((addHook name h r.hooks).map Prod.fst).Nodup
    rw [keys_addHook]
    split
    · simpa using hr.distinct
    · rename_i hn
      exact hr.distinct.append (List.nodup_singleton name) (by simpa using hn)
  · intro e he
    exact (mem_addHook he).elim (hr.inhabited e) id

theorem isLoaded_iff : r.isLoaded name = true ↔ name ∈ r.loaded := List.contains_iff_mem

theorem has_iff : r.has name = true ↔ name ∈ r.hooks.map Prod.fst := by
  simp only [has, List.lookup_isSome_iff, beq_iff_eq, List.mem_map]
  exact exists_congr fun e => and_congr_right fun _ => eq_comm

theorem mem_names : name ∈ r.names ↔ r.has name = true := by
  rw [names, List.mem_mergeSort, has_iff]

theorem Tidy.has_iff_hooksOf (hr : r.Tidy) : r.has name = true ↔ r.hooksOf name ≠ [] := by
  unfold has hooksOf
  cases hl : r.hooks.lookup name with
  | none => simp
  | some hs =>
    have hmem : (name, hs) ∈ r.hooks := by
      obtain ⟨before, after, hsplit, -⟩ := List.lookup_eq_some_iff.1 hl
      rw [hsplit]
      simp
    simpa using hr.inhabited _ hmem

theorem Tidy.names (hr : r.Tidy) : r.names.Pairwise (· < ·) :=
  Text.pairwise_lt_mergeSort hr.distinct

/-! Answers. -/

variable {c : Command} {language code : Text} {hooks : List Hook}
  {x : Except Fault (Option Text)}

/-- Whether this is what a command comes to: what the first translator makes of it that does not
decline, be it code or a fault, or nothing if all decline. -/
def Settles (c : Command) (language : Text) (hooks : List Hook) (x : Except Fault (Option Text)) :
    Prop :=
  x = .ok none ∧ (∀ k ∈ hooks, k c language = .ok none) ∨
    x ≠ .ok none ∧ ∃ before h after, hooks = before ++ h :: after ∧
      (∀ k ∈ before, k c language = .ok none) ∧ h c language = x

theorem firstAnswer_cons_of_ne (hx : h c language = x) (hne : x ≠ .ok none) (hooks : List Hook) :
    firstAnswer c language (h :: hooks) = x := by
  unfold firstAnswer
  split <;> rename_i hh
  · exact hh.symm.trans hx
  · exact hh.symm.trans hx
  · exact absurd (hx.symm.trans hh) hne

theorem firstAnswer_append {before : List Hook} (h : ∀ k ∈ before, k c language = .ok none)
    (hooks : List Hook) :
    firstAnswer c language (before ++ hooks) = firstAnswer c language hooks := by
  induction before with
  | nil => rfl
  | cons k rest ih =>
    obtain ⟨hk, hrest⟩ := List.forall_mem_cons.1 h
    rw [List.cons_append, firstAnswer, hk]
    exact ih hrest

theorem settles_firstAnswer (c : Command) (language : Text) (hooks : List Hook) :
    Settles c language hooks (firstAnswer c language hooks) := by
  induction hooks with
  | nil => exact .inl ⟨rfl, by simp⟩
  | cons h rest ih =>
    by_cases hh : h c language = .ok none
    · have hmem {before : List Hook} (hbefore : ∀ k ∈ before, k c language = .ok none) :
          ∀ k ∈ h :: before, k c language = .ok none := List.forall_mem_cons.2 ⟨hh, hbefore⟩
      have hskip : firstAnswer c language (h :: rest) = firstAnswer c language rest := by
        rw [firstAnswer, hh]
      rw [hskip]
      rcases ih with ⟨hx, hall⟩ | ⟨hne, before, k, after, rfl, hbefore, hk⟩
      · exact .inl ⟨hx, hmem hall⟩
      · exact .inr ⟨hne, h :: before, k, after, rfl, hmem hbefore, hk⟩
    · rw [firstAnswer_cons_of_ne rfl hh]
      exact .inr ⟨hh, [], h, rest, rfl, by simp, rfl⟩

theorem firstAnswer_eq_iff : firstAnswer c language hooks = x ↔ Settles c language hooks x := by
  constructor
  · rintro rfl
    exact settles_firstAnswer c language hooks
  · rintro (⟨rfl, hall⟩ | ⟨hne, before, h, after, rfl, hbefore, hh⟩)
    · simpa [firstAnswer] using firstAnswer_append hall []
    · rw [firstAnswer_append hbefore, firstAnswer_cons_of_ne hh hne]

theorem translate_of_text (hname : c.name = .text name) :
    r.translate c language = firstAnswer c language (r.hooksOf name) := by
  rw [translate, hname]

end Registry

end TestScribe
