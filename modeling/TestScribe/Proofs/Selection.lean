import Mathlib.Data.List.Forall2
import Mathlib.Data.List.Induction
import TestScribe.Selection

/-!
What a filter selects. Selecting goes through the units with what was seen before, so a unit at the
end of a sequence is selected apart from those before it, unless it is one of them
(`selectFrom_append_singleton`); that is what the positions of the selected units come from
(`isSelection_select`). A selection without repetitions is a filtering (`selectFrom_eq_filter`), and
this one cannot be selected from any further.
-/

namespace TestScribe

section

variable {ι : Type} [DecidableEq ι] {accepts : Text → Bool} {name : ι → Text} {objects : List ι}
  {seen : List ι} {units : List (ι × Text)}

def named (name : ι → Text) (objects : List ι) : List (ι × Text) :=
  objects.map fun o => (o, name o)

/-- Whether an object whose name is accepted stands at a position, and at none before it. -/
def IsFirst (accepts : Text → Bool) (name : ι → Text) (objects : List ι) (n : Nat) : Prop :=
  ∃ o, objects[n]? = some o ∧ o ∉ objects.take n ∧ accepts (name o) = true

/-- Whether the units are those at the first places of the objects whose names are accepted, in the
order of these places. -/
def IsSelection (accepts : Text → Bool) (name : ι → Text) (objects : List ι)
    (selected : List (ι × Text)) : Prop :=
  ∃ places : List Nat, places.Pairwise (· < ·) ∧
    (∀ n, n ∈ places ↔ IsFirst accepts name objects n) ∧
    List.Forall₂ (fun n u => objects[n]? = some u.1 ∧ name u.1 = u.2) places selected

theorem selectFrom_eq_filter (accepts : Text → Bool) {units : List (ι × Text)} (seen : List ι)
    (hn : (units.map Prod.fst).Nodup) (hs : ∀ u ∈ units, u.1 ∉ seen) :
    selectFrom accepts seen units = units.filter fun u => accepts u.2 := by
  induction units generalizing seen with
  | nil => rfl
  | cons u us ih =>
    rw [List.map_cons, List.nodup_cons] at hn
    have hrest : ∀ v ∈ us, v.1 ∉ u.1 :: seen := by
      intro v hv hmem
      rcases List.mem_cons.1 hmem with he | hmem
      · exact hn.1 (he ▸ List.mem_map_of_mem hv)
      · exact hs v (List.mem_cons_of_mem _ hv) hmem
    rw [selectFrom, if_neg (hs u List.mem_cons_self), ih _ hn.2 hrest, List.filter_cons]

theorem selectFrom_append_singleton (u : ι × Text) :
    selectFrom accepts seen (units ++ [u]) = selectFrom accepts seen units ++
      if u.1 ∉ seen ∧ u.1 ∉ units.map Prod.fst ∧ accepts u.2 = true then [u] else [] := by
  induction units generalizing seen with
  | nil => by_cases hs : u.1 ∈ seen <;> simp [selectFrom, hs]
  | cons v vs ih =>
    rw [List.cons_append, selectFrom, selectFrom, ih, ih]
    by_cases hv : v.1 ∈ seen
    · -- what was seen before is not seen anew
      have hagain : u.1 ∉ seen → u.1 ≠ v.1 := fun hu he => hu (he ▸ hv)
      simp only [hv, if_true, List.map_cons, List.mem_cons, not_or]
      congr 1
      refine if_congr ?_ rfl rfl
      exact ⟨fun h => ⟨h.1, ⟨hagain h.1, h.2.1⟩, h.2.2⟩, fun h => ⟨h.1, h.2.1.2, h.2.2⟩⟩
    · simp only [hv, if_false, List.map_cons, List.mem_cons, not_or]
      split
      all_goals
        congr 2
        simp only [and_assoc, and_left_comm]

omit [DecidableEq ι] in
theorem isFirst_append_singleton {o : ι} {n : Nat} :
    IsFirst accepts name (objects ++ [o]) n ↔ IsFirst accepts name objects n ∨
      n = objects.length ∧ o ∉ objects ∧ accepts (name o) = true := by
  unfold IsFirst
  rcases Nat.lt_trichotomy n objects.length with hn | rfl | hn
  · rw [List.getElem?_append_left hn, List.take_append_of_le_length (Nat.le_of_lt hn)]
    simp [Nat.ne_of_lt hn]
  · simp [and_comm]
  · have hlength : (objects ++ [o]).length ≤ n := by
      rw [List.length_append]
      exact hn
    rw [List.getElem?_eq_none hlength, List.getElem?_eq_none (Nat.le_of_lt hn)]
    simp [Nat.ne_of_gt hn]

omit [DecidableEq ι] in
theorem IsFirst.lt_length {n : Nat} (h : IsFirst accepts name objects n) : n < objects.length := by
  obtain ⟨o, ho, -⟩ := h
  exact (List.getElem?_eq_some_iff.1 ho).1

/-- What is selected are the first places of the objects whose names are accepted. -/
theorem isSelection_select (accepts : Text → Bool) (name : ι → Text) (objects : List ι) :
    IsSelection accepts name objects (select accepts (named name objects)) := by
  induction objects using List.reverseRecOn with
  | nil => exact ⟨[], .nil, by simp [IsFirst], .nil⟩
  | append_singleton objects o ih =>
    obtain ⟨places, hordered, hplaces, hunits⟩ := ih
    have hunits' : List.Forall₂ (fun n u => (objects ++ [o])[n]? = some u.1 ∧ name u.1 = u.2) places
        (select accepts (named name objects)) := by
      refine hunits.imp fun n u h => ⟨?_, h.2⟩
      rw [List.getElem?_append_left (List.getElem?_eq_some_iff.1 h.1).1, h.1]
    have hmem : o ∉ (named name objects).map Prod.fst ↔ o ∉ objects := by
      simp [named]
    rw [named, List.map_append, select, List.map_singleton, selectFrom_append_singleton]
    change IsSelection _ _ _ (select accepts (named name objects) ++ _)
    by_cases hnew : o ∉ objects ∧ accepts (name o) = true
    · rw [if_pos ⟨List.not_mem_nil, hmem.2 hnew.1, hnew.2⟩]
      refine ⟨places ++ [objects.length], ?_, fun n => ?_, ?_⟩
      · rw [List.pairwise_append]
        refine ⟨hordered, List.pairwise_singleton .., fun n hn k hk => ?_⟩
        rw [List.mem_singleton.1 hk]
        exact ((hplaces n).1 hn).lt_length
      · rw [isFirst_append_singleton, List.mem_append, List.mem_singleton, hplaces]
        simp only [hnew.1, hnew.2, not_false_eq_true, and_self, and_true]
      · exact List.rel_append hunits' (.cons ⟨by simp, rfl⟩ .nil)
    · rw [if_neg fun h => hnew ⟨hmem.1 h.2.1, h.2.2⟩, List.append_nil]
      refine ⟨places, hordered, fun n => ?_, hunits'⟩
      rw [isFirst_append_singleton, hplaces, or_iff_left fun h => hnew h.2]

theorem nodup_selectFrom : ((selectFrom accepts seen units).map Prod.fst).Nodup := by
  induction units generalizing seen with
  | nil => exact .nil
  | cons u us ih =>
    unfold selectFrom
    split
    · exact ih
    split
    · rw [List.map_cons, List.nodup_cons, List.mem_map]
      refine ⟨?_, ih⟩
      rintro ⟨v, hv, he⟩
      exact (mem_of_mem_selectFrom hv).2.2 (he ▸ List.mem_cons_self)
    · exact ih

theorem select_select (accepts : Text → Bool) (units : List (ι × Text)) :
    select accepts (select accepts units) = select accepts units := by
  unfold select
  rw [selectFrom_eq_filter accepts [] nodup_selectFrom fun _ _ => List.not_mem_nil]
  exact List.filter_eq_self.2 fun u hu => (mem_of_mem_selectFrom hu).2.1

end

namespace Pattern

def everything : Program :=
  ⟨⟨0, none, false⟩, [.many false 0 none .greedy (.any false) none]⟩

theorem shrinking_arrive (s : Array Char) (inside : Bool) (saved : Marks) (start extra : Nat)
    (r : Registers) : (shrinking s inside saved none arrive start extra).run r =
      (true, { r with place := start + extra }) := by
  cases extra <;> rfl

theorem search_everything (t : Text) : everything.search t = .aMatch := by
  have hplaces : everything.start.places t.toArray =
      0 :: (List.range t.toArray.size).map Nat.succ := List.range_succ_eq_map
  have hrun : (runAll t.toArray everything.steps arrive 0).run { place := 0 } =
      (shrinking t.toArray false #[] none arrive 0
        ((CharTest.any false).count t.toArray t.toArray.size 0)).run { place := 0 } := rfl
  unfold Program.search
  simp only [hplaces, Program.searchFrom, hrun, shrinking_arrive]
  exact if_neg (by decide)

end Pattern

namespace Filter

theorem compile_everything {pattern : Option Text} (h : pattern ∈ [none, some [], some matchAll]) :
    compile pattern = .ok ⟨matchAll, Pattern.everything⟩ := by
  have hsource : sourceOf pattern = matchAll := by
    simp only [List.mem_cons, List.not_mem_nil, or_false] at h
    obtain rfl | rfl | rfl := h <;> rfl
  have hcompile : Pattern.compile matchAll = .ok Pattern.everything := rfl
  rw [compile, hsource, hcompile]
  rfl

variable {ι : Type} [DecidableEq ι] {f : Filter} {units : List (ι × Text)}

theorem select_of_not_crossesIn (h : ∀ u ∈ units, f.crossesIn u.2 = false) :
    f.select units = .ok (TestScribe.select f.accepts units) := by
  rw [select, if_neg]
  intro hany
  obtain ⟨u, hu, hcrosses⟩ := List.any_eq_true.1 hany
  rw [h u hu] at hcrosses
  cases hcrosses

end Filter

/-- Whichever names are accepted, the units that are selected are those at the first places of the
objects with such names, and all of them are selected again. A filter that can search the names
selects so by what it finds in them; and without a pattern, with an empty one and with the one for
everything all objects are selected, whatever their names. -/
theorem selection_exact {ι : Type} [DecidableEq ι] (name : ι → Text) (objects : List ι) :
    (∀ accepts : Text → Bool,
      IsSelection accepts name objects (select accepts (named name objects)) ∧
        select accepts (select accepts (named name objects)) =
          select accepts (named name objects)) ∧
      (∀ f : Filter, (∀ o ∈ objects, f.crossesIn (name o) = false) →
        ∃ selected, f.select (named name objects) = .ok selected ∧
          IsSelection f.accepts name objects selected ∧ f.select selected = .ok selected) ∧
      ∀ pattern ∈ [none, some [], some Filter.matchAll], ∃ f, Filter.compile pattern = .ok f ∧
        ∃ selected, f.select (named name objects) = .ok selected ∧
          IsSelection (fun _ => true) name objects selected := by
  have hnamed : ∀ f : Filter, (∀ o ∈ objects, f.crossesIn (name o) = false) →
      ∀ u ∈ named name objects, f.crossesIn u.2 = false := by
    intro f hf u hu
    obtain ⟨o, ho, rfl⟩ := List.mem_map.1 hu
    exact hf o ho
  refine ⟨fun accepts => ⟨isSelection_select .., select_select ..⟩, fun f hf => ?_,
    fun pattern hpattern => ?_⟩
  · refine ⟨_, Filter.select_of_not_crossesIn (hnamed f hf), isSelection_select .., ?_⟩
    rw [Filter.select_of_not_crossesIn, select_select]
    exact fun u hu => hnamed f hf u (mem_of_mem_selectFrom hu).1
  · refine ⟨_, Filter.compile_everything hpattern, _, Filter.select_of_not_crossesIn ?_, ?_⟩
    · intro u _
      rw [Filter.crossesIn, Pattern.search_everything]
      rfl
    · have haccepts : (⟨Filter.matchAll, Pattern.everything⟩ : Filter).accepts = fun _ => true := by
        funext t
        rw [Filter.accepts, Pattern.search_everything]
        rfl
      rw [haccepts]
      exact isSelection_select ..

/-- Two objects of one name beside another one, one of them twice. -/
theorem selection_exact_of_namesakes :
    let name : Nat → Text := fun o => if o = 2 then "smoke" else "login"
    (∃ (f : Filter) (selected : List (Nat × Text)), Filter.compile (some "log") = .ok f ∧
      f.select (named name [0, 2, 1, 0]) = .ok selected ∧
      selected = named name [0, 1] ∧
      IsSelection f.accepts name [0, 2, 1, 0] selected ∧ f.select selected = .ok selected) ∧
    ∃ (f : Filter) (selected : List (Nat × Text)), Filter.compile none = .ok f ∧
      f.select (named name [0, 2, 1, 0]) = .ok selected ∧
      IsSelection (fun _ => true) name [0, 2, 1, 0] selected := by
  intro name
  obtain ⟨f, hf, hcrosses⟩ : ∃ f, Filter.compile (some "log") = .ok f ∧
      ∀ o ∈ [0, 2, 1, 0], f.crossesIn (name o) = false := ⟨_, rfl, by decide⟩
  obtain ⟨-, hfilter, heverything⟩ := selection_exact name [0, 2, 1, 0]
  constructor
  · obtain ⟨selected, hselected, hexact, hagain⟩ := hfilter f hcrosses
    refine ⟨f, selected, hf, hselected, ?_, hexact, hagain⟩
    cases hf
    cases hselected
    rfl
  · obtain ⟨g, hg, all, hall, hexact⟩ := heverything none (by simp)
    exact ⟨g, all, hg, hall, hexact⟩

end TestScribe
