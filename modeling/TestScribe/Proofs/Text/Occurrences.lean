import TestScribe.Proofs.Text.Replacing
import TestScribe.Writing

/-!
Where the address of a recording is replaced. A text is cut at an address from the left: at its
first occurrence, then at the first one in what is left behind that, and so on until there is none.
There is just one way to do so (`IsCut.eq_pieces`), and the override goes between the parts as it
is, so that neither the override itself nor what it makes together with its neighbours is looked at
again (`override_rebases`).
-/

namespace TestScribe

namespace Text

variable {α : Type} {mark t : List α} {parts : List (List α)}

/-- The parts of a text that is cut at each occurrence of a mark: the first occurrence ends the
first part, what follows it is cut in the same way, and there is none in the last part. -/
inductive IsCut (mark : List α) : List α → List (List α) → Prop
  | last {s : List α} (hnone : ¬ mark <:+: s) : IsCut mark s [s]
  | next {s t : List α} {parts : List (List α)} (hleft : IsLeftmost mark s t)
    (hrest : IsCut mark t parts) : IsCut mark (s ++ mark ++ t) (s :: parts)

namespace IsCut

theorem ne_nil (h : IsCut mark t parts) : parts ≠ [] := by
  cases h <;> exact List.cons_ne_nil _ _

theorem join_eq (h : IsCut mark t parts) : join mark parts = t := by
  induction h with
  | last hnone => rfl
  | next hleft hrest ih => rw [join_cons_of_ne_nil _ _ hrest.ne_nil, ih]

variable [DecidableEq α]

theorem eq_pieces (hmark : mark ≠ []) (h : IsCut mark t parts) : parts = pieces mark t := by
  induction h with
  | last hnone => rw [pieces_eq_singleton hnone]
  | next hleft hrest ih => rw [pieces_of_isLeftmost hmark hleft, ← ih]

end IsCut

theorem isCut_pieces [DecidableEq α] (hmark : mark ≠ []) (t : List α) :
    IsCut mark t (pieces mark t) := by
  by_cases hfound : mark <:+: t
  · obtain ⟨s, r, rfl, hleft⟩ := exists_isLeftmost hfound
    have hshorter : r.length < (s ++ mark ++ r).length := by
      have hpos := List.length_pos_iff.2 hmark
      simp only [List.length_append]
      omega
    rw [pieces_of_isLeftmost hmark hleft]
    exact .next hleft (isCut_pieces hmark r)
  · rw [pieces_eq_singleton hfound]
    exact .last hfound
termination_by t.length

end Text

namespace Address

/-- Whether a body comes to a text when another address is put in for the recorded one. If neither
of them is empty, there is just one way to cut the body at the recorded address, and the text is the
parts with the other address between them. -/
def Rebases {α : Type} (recorded other body result : List α) : Prop :=
  if recorded = [] ∨ other = [] then result = body
  else (∃! parts, Text.IsCut recorded body parts) ∧ ∀ parts, Text.IsCut recorded body parts →
    body = Text.join recorded parts ∧ result = Text.join other parts

theorem rebases_rebase {α : Type} [DecidableEq α] (recorded other body : List α) :
    Rebases recorded other body (rebase recorded other body) := by
  unfold Rebases
  split
  · rename_i hempty
    rcases hempty with rfl | rfl
    · exact rebase_nil_left other body
    · exact rebase_nil_right recorded body
  · rename_i hne
    have hrecorded : recorded ≠ [] := fun h => hne (.inl h)
    refine ⟨⟨_, Text.isCut_pieces hrecorded body, fun parts h => h.eq_pieces hrecorded⟩,
      fun parts h => ⟨h.join_eq.symm, ?_⟩⟩
    rw [rebase, if_neg (by simpa using hne), Text.replace, h.eq_pieces hrecorded]

/-- What becomes of a recorded address in the body of a file. Without an address or without an
override the body stays as it is. Otherwise the override goes between the parts of the body that is
cut at the address; so it does in whatever is written, half surrogate pairs or not. An address is
overridden by itself without a change. -/
theorem override_rebases :
    (∀ (recorded : Value) (other : Option Text) (body : Text),
      recorded = .null ∨ recorded = .text [] ∨ other = none ∨ other = some [] →
        override recorded (other.getD []) body = .ok body) ∧
    (∀ url other body : Text, ∃ result : Text,
      override (.text url) other body = .ok result ∧ Rebases url other body result) ∧
    (∀ w : Writing, Rebases w.recorded w.override w.body w.content) ∧
    ∀ url body : Text, override (.text url) url body = .ok body := by
  refine ⟨fun recorded other body h => ?_, fun url other body => ?_, fun w => ?_,
    fun url body => ?_⟩
  · have hempty : (!recorded.holds || (other.getD []).isEmpty) = true := by
      rcases h with rfl | rfl | rfl | rfl <;> simp [Value.holds]
    rw [override.eq_def, if_pos hempty]
  · exact ⟨_, override_text url other body, rebases_rebase url other body⟩
  · exact rebases_rebase w.recorded w.override w.body
  · rw [override_text, rebase_self]

/-- No override, and an address that overlaps itself in the body, with an override that has the
address in it. -/
theorem override_rebases_of_overlaps :
    override (.text "aa") (Option.getD none []) "aaaaa" = .ok "aaaaa".toList ∧
      override (.text "aa") "xaax" "aaaaa" = .ok "xaaxxaaxa".toList ∧
      Rebases "aa".toList "xaax".toList "aaaaa".toList "xaaxxaaxa".toList := by
  obtain ⟨result, hresult, hrebases⟩ := override_rebases.2.1 "aa" "xaax" "aaaaa"
  have hvalue : override (.text "aa") "xaax" "aaaaa" = .ok "xaaxxaaxa".toList := by rfl
  rw [hvalue, Except.ok.injEq, RawText.ofText_inj] at hresult
  subst hresult
  exact ⟨override_rebases.1 _ none _ (.inr (.inr (.inl rfl))), hvalue, hrebases⟩

end Address

end TestScribe
