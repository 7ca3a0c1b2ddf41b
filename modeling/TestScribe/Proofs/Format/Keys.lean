import Mathlib.Data.List.Chain
import Mathlib.Data.List.Infix
import Mathlib.Data.List.TakeWhile
import TestScribe.Argument

/-!
Typed text with keys in it. A key is told from characters by how it is written, and the way it is
written has its first character in no other place: so what begins as a key before another one does
not reach into that (`not_written_prefix`), and there is just one way to take a text apart that
leaves no key in the rest (`typed_text_split_uniquely`).
-/

namespace TestScribe.KeyPart

variable {c : Char} {name s t u : Text} {p : KeyPart} {parts : List KeyPart}

/-- Whether a text is the name of a key: capital letters and underscores, and not nothing. -/
structure IsName (name : Text) : Prop where
  ne_nil : name ≠ []
  spelled : ∀ c ∈ name, 'A' ≤ c ∧ c ≤ 'Z' ∨ c = '_'

/-- Whether a key is written somewhere in a text. -/
def HasKey (t : Text) : Prop := ∃ name, IsName name ∧ (key name).written <:+: t

def IsText : KeyPart → Prop
  | key _ => False
  | text _ => True

/-- Whether a part says what it stands for: a key has a name, and characters are not nothing and
have no key in them. -/
def IsPart : KeyPart → Prop
  | key name => IsName name
  | text s => s ≠ [] ∧ ¬ HasKey s

/-- Whether a text is made of parts: written one after another they give it, and the characters
between two keys are one part. -/
structure IsSplit (t : Text) (parts : List KeyPart) : Prop where
  written_eq : parts.flatMap written = t
  isPart : ∀ p ∈ parts, p.IsPart
  apart : parts.IsChain fun p q => ¬ (p.IsText ∧ q.IsText)

/-! Keys as they are written. -/

theorem isKeyChar_iff : isKeyChar c = true ↔ 'A' ≤ c ∧ c ≤ 'Z' ∨ c = '_' := by
  simp [isKeyChar]

theorem IsName.isKeyChar (h : IsName name) (hc : c ∈ name) : isKeyChar c = true :=
  isKeyChar_iff.2 (h.spelled c hc)

theorem nameAt?_written (h : IsName name) (t : Text) :
    nameAt? ((key name).written ++ t) = some name := by
  have hstart : opening.isPrefixOf ((key name).written ++ t) = true := by
    rw [List.isPrefixOf_iff_prefix, written, List.append_assoc, List.append_assoc]
    exact List.prefix_append _ _
  have hrest : ((key name).written ++ t).drop opening.length = name ++ '\x7d' :: t := by
    simp [written]
  have htake : (name ++ '\x7d' :: t).takeWhile KeyPart.isKeyChar = name := by
    rw [List.takeWhile_append_of_pos fun c hc => h.isKeyChar hc,
      List.takeWhile_cons_of_neg (by decide), List.append_nil]
  have hempty : name.isEmpty = false := by simpa using h.ne_nil
  simp only [nameAt?, hstart, hrest, htake, hempty, ↓reduceIte]
  simp

theorem of_nameAt? (h : nameAt? t = some name) :
    IsName name ∧ ∃ u, t = (key name).written ++ u := by
  unfold nameAt? at h
  split at h
  · rename_i hstart
    obtain ⟨r, rfl⟩ := List.isPrefixOf_iff_prefix.1 hstart
    rw [List.drop_left] at h
    dsimp only at h
    split at h
    · rename_i hname
      cases h
      simp only [Bool.and_eq_true, Bool.not_eq_true', List.isEmpty_eq_false_iff, beq_iff_eq,
        List.head?_eq_some_iff] at hname
      obtain ⟨hne, u, hu⟩ := hname
      refine ⟨⟨hne, fun c hc => isKeyChar_iff.1 (List.mem_takeWhile_imp hc)⟩, u, ?_⟩
      have hcut := List.take_append_drop (r.takeWhile KeyPart.isKeyChar).length r
      rw [hu, ← List.prefix_iff_eq_take.1 (List.takeWhile_prefix KeyPart.isKeyChar)] at hcut
      rw [written, List.append_assoc, List.append_assoc, List.singleton_append, hcut]
    · cases h
  · cases h

def closing (name : Text) : Text := ['\x7b', 'K', 'E', 'Y', '_'] ++ name ++ ['\x7d']

theorem written_key (name : Text) : (key name).written = '$' :: closing name := rfl

theorem length_closing (name : Text) : (closing name).length = opening.length + name.length := by
  have hopening : opening.length = 6 := rfl
  simp [closing, hopening]
  omega

theorem not_mem_closing (h : IsName name) : '$' ∉ closing name := by
  intro hmem
  have hname : '$' ∈ name := by simpa [closing] using hmem
  exact absurd (h.spelled _ hname) (by decide)

/-- A key that begins in characters without a key does not end behind them, if what stands there
begins as a key does. -/
theorem not_written_prefix (h : IsName name) (hs : s ≠ []) (hkey : ¬ HasKey s)
    (hu : ∀ c ∈ u.head?, c = '$') : ¬ (key name).written <+: s ++ u := by
  intro hstart
  rcases List.prefix_or_prefix_of_prefix hstart (List.prefix_append s u) with hin | ⟨v, hv⟩
  · exact hkey ⟨name, h, hin.isInfix⟩
  · cases v with
    | nil => exact hkey ⟨name, h, by rw [← hv, List.append_nil]⟩
    | cons c v =>
      -- the key would go on with the first character of `u`, which can only begin it
      rw [← hv, List.prefix_append_right_inj] at hstart
      obtain ⟨r, rfl⟩ := hstart
      obtain rfl : c = '$' := hu c rfl
      obtain ⟨d, s, rfl⟩ := List.exists_cons_of_ne_nil hs
      rw [written_key, List.cons_append, List.cons.injEq] at hv
      exact not_mem_closing h (by rw [← hv.2]; simp)

theorem not_hasKey_nil : ¬ HasKey [] := by
  rintro ⟨name, -, hin⟩
  cases List.infix_nil.1 hin

theorem not_hasKey_cons (hnone : nameAt? (c :: t) = none) (hst : s <+: t) (hs : ¬ HasKey s) :
    ¬ HasKey (c :: s) := by
  rintro ⟨name, hname, hin⟩
  rcases List.infix_cons_iff.1 hin with hstart | hin
  · obtain ⟨u, hu⟩ := hstart.trans (List.cons_prefix_cons.2 ⟨rfl, hst⟩)
    rw [← hu, nameAt?_written hname] at hnone
    cases hnone
  · exact hs ⟨name, hname, hin⟩

/-! How a text is split, by what it begins with. -/

theorem splitFrom_eq (k : Nat) (t : Text) : splitFrom k t = split (t.drop k) := by
  induction t generalizing k with
  | nil => simp [split, splitFrom]
  | cons c r ih =>
    cases k with
    | zero => rfl
    | succ k => exact ih k

theorem split_written (h : IsName name) (t : Text) :
    split ((key name).written ++ t) = key name :: split t := by
  have hat := nameAt?_written h t
  rw [written_key, List.cons_append] at hat ⊢
  rw [split, splitFrom, hat]
  dsimp only
  rw [splitFrom_eq, ← length_closing, List.drop_left]

theorem split_cons (h : nameAt? (c :: t) = none) : split (c :: t) = cons c (split t) := by
  rw [split, splitFrom, h, split]

theorem cons_of_not_isText (h : ∀ p ∈ parts.head?, ¬ p.IsText) (c : Char) :
    cons c parts = text [c] :: parts := by
  match parts with
  | [] | key _ :: _ => rfl
  | text _ :: _ => exact absurd trivial (h _ rfl)

theorem split_text (hs : s ≠ []) (hkey : ¬ HasKey s) (hu : ∀ c ∈ u.head?, c = '$')
    (hparts : ∀ p ∈ (split u).head?, ¬ p.IsText) : split (s ++ u) = text s :: split u := by
  induction s with
  | nil => exact absurd rfl hs
  | cons c s ih =>
    have hnone : nameAt? (c :: (s ++ u)) = none := by
      refine Option.eq_none_iff_forall_ne_some.2 fun name hat => ?_
      obtain ⟨hname, v, hv⟩ := of_nameAt? hat
      exact not_written_prefix hname hs hkey hu ⟨v, hv.symm⟩
    rw [List.cons_append, split_cons hnone]
    by_cases hne : s = []
    · subst hne
      exact cons_of_not_isText hparts c
    · have hrest : ¬ HasKey s := fun ⟨name, hname, hin⟩ => hkey ⟨name, hname, List.infix_cons hin⟩
      rw [ih hne hrest]
      rfl

/-! What a text is made of. -/

namespace IsSplit

theorem nil_iff : IsSplit t [] ↔ t = [] :=
  ⟨fun h => h.written_eq.symm, fun h => ⟨h.symm, by simp, .nil⟩⟩

theorem cons_iff : IsSplit t (p :: parts) ↔ p.IsPart ∧
    (p.IsText → ∀ q ∈ parts.head?, ¬ q.IsText) ∧ ∃ u, t = p.written ++ u ∧ IsSplit u parts := by
  constructor
  · rintro ⟨rfl, hparts, hapart⟩
    obtain ⟨hfirst, hrest⟩ := List.forall_mem_cons.1 hparts
    obtain ⟨hnext, hchain⟩ := List.isChain_cons.1 hapart
    exact ⟨hfirst, fun hp q hq hqtext => hnext q hq ⟨hp, hqtext⟩, _, List.flatMap_cons,
      rfl, hrest, hchain⟩
  · rintro ⟨hfirst, hnext, u, rfl, hu⟩
    refine ⟨by rw [List.flatMap_cons, hu.written_eq], List.forall_mem_cons.2 ⟨hfirst, hu.isPart⟩,
      List.isChain_cons.2 ⟨fun q hq hboth => hnext hboth.1 q hq hboth.2, hu.apart⟩⟩

theorem cons (hnone : nameAt? (c :: t) = none) (h : IsSplit t parts) :
    IsSplit (c :: t) (KeyPart.cons c parts) := by
  by_cases hparts : ∀ p ∈ parts.head?, ¬ p.IsText
  · rw [cons_of_not_isText hparts, cons_iff]
    have hkey : ¬ HasKey [c] := not_hasKey_cons hnone (List.nil_prefix) not_hasKey_nil
    exact ⟨⟨List.cons_ne_nil c [], hkey⟩, fun _ => hparts, t, rfl, h⟩
  · -- the character goes into the characters in front
    match parts with
    | [] | key _ :: _ => exact absurd (by rintro _ ⟨⟩ ⟨⟩) hparts
    | text s :: rest =>
      obtain ⟨⟨-, hs⟩, hnext, u, rfl, hu⟩ := cons_iff.1 h
      have hkey : ¬ HasKey (c :: s) := not_hasKey_cons hnone (List.prefix_append s u) hs
      exact cons_iff.2 ⟨⟨List.cons_ne_nil c s, hkey⟩, hnext, u, rfl, hu⟩

theorem head?_eq (h : IsSplit t parts) (hparts : ∀ p ∈ parts.head?, ¬ p.IsText) :
    ∀ c ∈ t.head?, c = '$' := by
  cases parts with
  | nil =>
    rw [nil_iff.1 h]
    simp
  | cons p rest =>
    obtain ⟨-, -, u, rfl, -⟩ := cons_iff.1 h
    cases p with
    | key name =>
      rw [written_key]
      simp
    | text s => exact absurd trivial (hparts _ rfl)

theorem eq_split (h : IsSplit t parts) : parts = split t := by
  induction parts generalizing t with
  | nil =>
    rw [nil_iff.1 h]
    rfl
  | cons p rest ih =>
    obtain ⟨hp, hnext, u, rfl, hu⟩ := cons_iff.1 h
    have hrest : rest = split u := ih hu
    cases p with
    | key name => rw [split_written hp, ← hrest]
    | text s =>
      have hnot : ∀ q ∈ rest.head?, ¬ q.IsText := hnext trivial
      rw [written, split_text hp.1 hp.2 (hu.head?_eq hnot) (hrest ▸ hnot), ← hrest]

end IsSplit

theorem isSplit_split (t : Text) : IsSplit t (split t) := by
  cases hat : nameAt? t with
  | some name =>
    obtain ⟨hname, u, rfl⟩ := of_nameAt? hat
    have hshorter : u.length < ((key name).written ++ u).length := by
      rw [written_key, List.length_append, List.length_cons]
      omega
    rw [split_written hname, IsSplit.cons_iff]
    exact ⟨hname, False.elim, u, rfl, isSplit_split u⟩
  | none =>
    match t with
    | [] => exact IsSplit.nil_iff.2 rfl
    | c :: r =>
      rw [split_cons hat]
      exact (isSplit_split r).cons hat
termination_by t.length

/-- Typed text is taken apart without loss, and in the only way that leaves no key in what is
between the keys. Each part that is found, as it is written, is found again if it is looked at by
itself. -/
theorem typed_text_split_uniquely (t : Text) :
    ofValue (.text t) = .ok (split t) ∧ (∀ parts, IsSplit t parts ↔ parts = split t) ∧
      ∀ p ∈ split t, split p.written = [p] := by
  refine ⟨rfl, fun parts => ⟨IsSplit.eq_split, fun h => h ▸ isSplit_split t⟩, fun p hp => ?_⟩
  have halone : IsSplit p.written [p] := by
    rw [IsSplit.cons_iff]
    exact ⟨(isSplit_split t).isPart p hp, by simp, [], by simp, IsSplit.nil_iff.2 rfl⟩
  exact halone.eq_split.symm

end TestScribe.KeyPart
