import TestScribe.Proofs.Naming.Humps

/-!
How names begin, and what they are made of. The first word of a title begins with the first letter
or digit of the title, and so do its `camelCase` and `PascalCase` names, in small and in large form;
all that comes after it are letters and digits as well.
-/

namespace TestScribe

namespace Text

variable {p : Char → Bool} {t w : Text} {c : Char}

theorem head?_fieldsBy (p : Char → Bool) (t : Text) :
    (fieldsBy p t).head?.bind List.head? = t.find? fun c => !p c := by
  fun_induction fieldsBy p t with
  | case1 => rfl
  | case2 c r hc ih => rw [ih, List.find?_cons_of_neg (by simp [hc])]
  | case3 c hc => rw [List.find?_cons_of_pos (by simp [hc])]; rfl
  | case4 c hc d r hd ih => rw [List.find?_cons_of_pos (by simp [hc])]; rfl
  | case5 c hc d r hd ih =>
    rw [List.find?_cons_of_pos (by simp [hc])]
    cases hf : fieldsBy p (d :: r) with
    | nil => exact absurd hf (fieldsBy_cons_ne_nil (Bool.eq_false_iff.2 hd) r)
    | cons w ws => rfl

theorem mem_titleAfter {inWord : Bool} (h : c ∈ titleAfter inWord w) :
    ∃ d ∈ w, c = d ∨ c = d.toLower ∨ c = d.toUpper := by
  induction w generalizing inWord with
  | nil => cases h
  | cons d r ih =>
    have hlater : ∀ {b : Bool}, c ∈ titleAfter b r →
        ∃ e ∈ d :: r, c = e ∨ c = e.toLower ∨ c = e.toUpper := fun h =>
      let ⟨e, he, hc⟩ := ih h
      ⟨e, List.mem_cons_of_mem _ he, hc⟩
    rw [titleAfter] at h
    split at h
    · rcases List.mem_cons.1 h with rfl | h
      · refine ⟨d, List.mem_cons_self, ?_⟩
        split
        · exact .inr (.inl rfl)
        · exact .inr (.inr rfl)
      · exact hlater h
    · rcases List.mem_cons.1 h with rfl | h
      · exact ⟨c, List.mem_cons_self, .inl rfl⟩
      · exact hlater h

end Text

namespace Naming

variable {c : Char}

/-- The first letter or digit of a title. A title without any is named like `test`. -/
def initial (title : Text) : Char := (title.find? isPlain).getD 't'

theorem isPlain_initial (title : Text) : isPlain (initial title) = true := by
  unfold initial
  cases h : title.find? isPlain with
  | none => rfl
  | some c => exact List.find?_some h

theorem isDigit_initial_iff {title : Text} : isDigit (initial title) = true ↔
    ∃ c, title.find? isPlain = some c ∧ isDigit c = true := by
  unfold initial
  cases title.find? isPlain with
  | none => simp [show isDigit 't' = false from rfl]
  | some c => simp

theorem plainWords_cases (title : Text) :
    plainWords title = [] ∧ title.find? isPlain = none ∨
      ∃ r ws, plainWords title = (initial title :: r) :: ws := by
  have hhead := Text.head?_fieldsBy (fun c => !isPlain c) title
  simp only [Bool.not_not] at hhead
  cases hwords : plainWords title with
  | nil =>
    rw [plainWords] at hwords
    rw [hwords] at hhead
    exact .inl ⟨rfl, hhead.symm⟩
  | cons w ws =>
    have hw : w ∈ plainWords title := hwords ▸ List.mem_cons_self
    obtain ⟨c, r, rfl⟩ := List.exists_cons_of_ne_nil (fieldsBy_ne_nil hw)
    rw [plainWords] at hwords
    rw [hwords] at hhead
    exact .inr ⟨r, ws, by rw [initial, ← hhead]; rfl⟩

theorem exists_camel_eq (title : Text) : ∃ r, camel title = (initial title).toLower :: r := by
  unfold camel
  rcases plainWords_cases title with ⟨hwords, hnone⟩ | ⟨r, ws, hwords⟩
  · rw [hwords, initial, hnone]
    exact ⟨"est".toList, rfl⟩
  · rw [hwords]
    exact ⟨_, rfl⟩

theorem exists_pascal_eq (title : Text) : ∃ r, pascal title = (initial title).toUpper :: r := by
  unfold pascal
  rcases plainWords_cases title with ⟨hwords, hnone⟩ | ⟨r, ws, hwords⟩
  · rw [hwords, initial, hnone]
    exact ⟨"est".toList, rfl⟩
  · rw [hwords]
    exact ⟨_, rfl⟩

theorem isPlain_toLower (h : isPlain c = true) : isPlain c.toLower = true :=
  forall_of_isPlain (P := fun c => isPlain c.toLower = true) (by decide) h

theorem isPlain_toUpper (h : isPlain c = true) : isPlain c.toUpper = true :=
  forall_of_isPlain (P := fun c => isPlain c.toUpper = true) (by decide) h

theorem isDigit_toLower (h : isPlain c = true) : isDigit c.toLower = isDigit c :=
  forall_of_isPlain (P := fun c => isDigit c.toLower = isDigit c) (by decide) h

theorem isDigit_toUpper (h : isPlain c = true) : isDigit c.toUpper = isDigit c :=
  forall_of_isPlain (P := fun c => isDigit c.toUpper = isDigit c) (by decide) h

theorem isUpper_toUpper (h : isPlain c = true) (hc : isDigit c = false) :
    isUpper c.toUpper = true :=
  forall_of_isPlain (P := fun c => isDigit c = false → isUpper c.toUpper = true)
    (by decide) h hc

theorem isPlain_of_mem_camel {title : Text} (h : c ∈ camel title) : isPlain c = true := by
  have hword : ∀ w ∈ plainWords title, ∀ d ∈ w, isPlain d = true :=
    fun w => isPlain_of_mem_plainWords
  unfold camel at h
  split at h
  · have hall : ("test" : Text).all isPlain = true := rfl
    exact List.all_eq_true.1 hall c h
  · rename_i w ws hwords
    rw [hwords] at hword
    obtain ⟨hw, hws⟩ := List.forall_mem_cons.1 hword
    rcases List.mem_append.1 h with h | h
    · obtain ⟨d, hd, rfl⟩ := List.mem_map.1 h
      exact isPlain_toLower (hw d hd)
    · obtain ⟨t, ht, hc⟩ := List.mem_flatten.1 h
      obtain ⟨v, hv, rfl⟩ := List.mem_map.1 ht
      obtain ⟨d, hd, rfl | rfl | rfl⟩ := Text.mem_titleAfter hc
      · exact hws v hv _ hd
      · exact isPlain_toLower (hws v hv d hd)
      · exact isPlain_toUpper (hws v hv d hd)

theorem isPlain_of_mem_pascal {title : Text} (h : c ∈ pascal title) : isPlain c = true := by
  unfold pascal at h
  split at h
  · have hall : ("Test" : Text).all isPlain = true := rfl
    exact List.all_eq_true.1 hall c h
  · obtain ⟨t, ht, hc⟩ := List.mem_flatten.1 h
    obtain ⟨w, hw, rfl⟩ := List.mem_map.1 ht
    have hplain := isPlain_of_mem_plainWords hw
    cases w with
    | nil => cases hc
    | cons d r =>
      obtain ⟨hd, hr⟩ := List.forall_mem_cons.1 hplain
      rcases List.mem_cons.1 hc with rfl | hc
      · exact isPlain_toUpper hd
      · exact hr c hc

end Naming

end TestScribe
