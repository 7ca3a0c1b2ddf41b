import TestScribe.Files.Tree
import TestScribe.Proofs.Text.Lines

/-!
Resolved paths. Following a path through its text leaves the names of entries only
(`isEntry_of_mem_resolved`), and such a path is read again as it was written
(`ofText_toText`), so that a location has one text.
-/

namespace TestScribe.Path

variable {t part : Text} {parts back : List Text} {p base : Path}

/-- Whether a component stands in a path as it was written: it is not dropped in reading it. -/
structure IsPart (part : Text) : Prop where
  ne_nil : part ≠ []
  ne_dot : part ≠ ['.']
  whole : '/' ∉ part

structure IsEntry (part : Text) : Prop extends IsPart part where
  ne_dots : part ≠ "..".toList

theorem isPart_of_mem_partsOf (h : part ∈ partsOf t) : IsPart part where
  ne_nil := (mem_partsOf h).1
  ne_dot := (mem_partsOf h).2
  whole := Text.not_mem_of_mem_split (List.mem_filter.1 h).1

theorem isAbsolute_ofText_iff : (ofText t).isAbsolute = true ↔ t.head? = some '/' := by
  unfold ofText isAbsolute rootOf
  split
  · simp
  · simp
  · simp
  · rename_i hother
    simpa [List.head?_eq_some_iff] using hother

/-- Following components only drops some of them, and all double dots. -/
theorem mem_foldl_follow (h : part ∈ parts.foldl follow back) :
    part ∈ back ∨ part ∈ parts ∧ part ≠ "..".toList := by
  induction parts generalizing back with
  | nil => exact .inl h
  | cons first rest ih =>
    rcases ih h with hback | ⟨hrest, hne⟩
    · unfold follow at hback
      split at hback
      · exact .inl (List.mem_of_mem_tail hback)
      · rename_i hfirst
        rcases List.mem_cons.1 hback with rfl | hback
        · exact .inr ⟨List.mem_cons_self, hfirst⟩
        · exact .inl hback
    · exact .inr ⟨List.mem_cons_of_mem _ hrest, hne⟩

theorem isEntry_of_mem_resolved (hp : ∀ part ∈ p.parts, IsPart part)
    (h : part ∈ p.resolved.parts) : IsEntry part := by
  rw [resolved, List.mem_reverse] at h
  obtain hnil | ⟨hpart, hne⟩ := mem_foldl_follow h
  · cases hnil
  · exact ⟨hp part hpart, hne⟩

theorem isPart_of_mem_join (hbase : ∀ part ∈ base.parts, IsPart part)
    (hp : ∀ part ∈ p.parts, IsPart part) (h : part ∈ (base.join p).parts) : IsPart part := by
  unfold join at h
  split at h
  · exact hp part h
  · exact (List.mem_append.1 h).elim (hbase part) (hp part)

def ofLocation (l : Location) : Path := ⟨1, l⟩

theorem toText_ofLocation (l : Location) : (ofLocation l).toText = '/' :: Text.join ['/'] l := rfl

theorem rootOf_replicate_append {slashes : Nat} {r : Text} (hslashes : slashes ≤ 2)
    (hr : r.head? ≠ some '/') : rootOf (List.replicate slashes '/' ++ r) = slashes := by
  cases r with
  | nil =>
    match slashes, hslashes with
    | 0, _ | 1, _ | 2, _ => rfl
  | cons c r =>
    have hc : c ≠ '/' := fun hc => hr (congrArg some hc)
    match slashes, hslashes with
    | 0, _ | 1, _ | 2, _ => simp [rootOf, List.replicate, hc]

theorem partsOf_replicate_append (slashes : Nat) (t : Text) :
    partsOf (List.replicate slashes '/' ++ t) = partsOf t := by
  induction slashes with
  | zero => rfl
  | succ slashes ih =>
    rw [List.replicate_succ, List.cons_append, ← ih, partsOf, Text.split, if_pos rfl]
    rfl

theorem partsOf_join (h : ∀ part ∈ parts, IsPart part) :
    partsOf (Text.join ['/'] parts) = parts := by
  have hkeep : parts.filter (fun part => !part.isEmpty && part ≠ ['.']) = parts := by
    refine List.filter_eq_self.2 fun part hpart => ?_
    simp [(h part hpart).ne_nil, (h part hpart).ne_dot]
  cases parts with
  | nil => rfl
  | cons first rest =>
    rw [partsOf, Text.split_join_of_not_mem (by simp) fun part hpart => (h part hpart).whole]
    exact hkeep

theorem head?_join_ne (h : ∀ part ∈ parts, IsPart part) :
    (Text.join ['/'] parts).head? ≠ some '/' := by
  cases parts with
  | nil => simp
  | cons first rest =>
    have hfirst := h first List.mem_cons_self
    obtain ⟨c, name, rfl⟩ := List.exists_cons_of_ne_nil hfirst.ne_nil
    have hjoin : (Text.join ['/'] ((c :: name) :: rest)).head? = some c := by
      cases rest <;> rfl
    rw [hjoin]
    rintro ⟨⟩
    exact hfirst.whole List.mem_cons_self

theorem ofText_toText_of_isPart (hslashes : p.slashes ≤ 2) (h : ∀ part ∈ p.parts, IsPart part) :
    ofText p.toText = p := by
  have hread : ofText (List.replicate p.slashes '/' ++ Text.join ['/'] p.parts) = p := by
    rw [ofText, rootOf_replicate_append hslashes (head?_join_ne h), partsOf_replicate_append,
      partsOf_join h]
  unfold toText
  split
  · -- a path without a root and components is written as a dot
    rename_i hnil
    rw [hnil] at hread
    exact hread
  · exact hread

theorem ofText_toText (h : ∀ part ∈ parts, IsPart part) :
    ofText (ofLocation parts).toText = ofLocation parts :=
  ofText_toText_of_isPart (p := ofLocation parts) (Nat.le_succ 1) h

theorem toText_ofLocation_inj {a b : Location} (ha : ∀ part ∈ a, IsPart part)
    (hb : ∀ part ∈ b, IsPart part) : (ofLocation a).toText = (ofLocation b).toText ↔ a = b := by
  refine ⟨fun h => ?_, fun h => by rw [h]⟩
  have hpaths := congrArg ofText h
  rw [ofText_toText ha, ofText_toText hb] at hpaths
  exact congrArg Path.parts hpaths

end TestScribe.Path
