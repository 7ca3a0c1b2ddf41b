import TestScribe.Json

/-!
What a JSON text has to hold for its reader to give up on a number. Each part of the reader leaves
an end of the text it was given, so what it looks at is in the text as it stands (`KeepsTo`); hence
a number with too many digits is refused only where so many digits stand in a row
(`longRun_of_read`).
-/

namespace TestScribe.Json

variable {α β : Type} {t r s : Text} {c : Char} {n fuel : Nat}

/-- Whether a text has so many digits in a row, and more than a number may have. -/
def HasLongRun (n : Nat) (t : Text) : Prop :=
  Numeral.maxDigits < n ∧ ∃ digits, digits.length = n ∧ digits.all isAsciiDigit = true ∧
    digits <:+: t

theorem HasLongRun.of_infix (h : HasLongRun n r) (hr : r <:+: t) : HasLongRun n t := by
  obtain ⟨hn, digits, hlength, hdigits, hinfix⟩ := h
  exact ⟨hn, digits, hlength, hdigits, hinfix.trans hr⟩

/-- Whether a reader keeps to its text: what it leaves is an end of it, and the digits that it finds
to be too many are in it. -/
def KeepsTo (t : Text) : Except ReadError (α × Text) → Prop
  | .ok (_, r) => r <:+ t
  | .error .malformed => True
  | .error (.tooManyDigits n) => HasLongRun n t

namespace KeepsTo

variable {x : Except ReadError (α × Text)} {f : α × Text → Except ReadError (β × Text)}

theorem of_suffix (h : KeepsTo r x) (hr : r <:+ t) : KeepsTo t x := by
  match x, h with
  | .ok (_, _), h => exact List.IsSuffix.trans h hr
  | .error .malformed, _ => trivial
  | .error (.tooManyDigits n), h => exact HasLongRun.of_infix h hr.isInfix

theorem bind (h : KeepsTo t x) (hf : ∀ a r, r <:+ t → KeepsTo r (f (a, r))) :
    KeepsTo t (x >>= f) := by
  match x, h with
  | .ok (a, r), h => exact (hf a r h).of_suffix h
  | .error .malformed, _ => trivial
  | .error (.tooManyDigits n), h => exact h

end KeepsTo

theorem skip_suffix (t : Text) : skip t <:+ t := List.dropWhile_suffix isSpace

/-! Strings. -/

theorem unit?_suffix (h : unit? t = some (n, r)) : r <:+ t := by
  unfold unit? at h
  split at h
  · rename_i a b c d rest
    simp only [Option.bind_eq_bind, Option.bind_eq_some_iff, Option.some.injEq, Prod.mk.injEq] at h
    obtain ⟨_, -, _, -, _, -, _, -, -, rfl⟩ := h
    exact ⟨[a, b, c, d], rfl⟩
  · cases h

theorem unicode?_suffix (h : unicode? t = some (c, r)) : r <:+ t := by
  unfold unicode? at h
  simp only [Option.bind_eq_bind, Option.bind_eq_some_iff] at h
  obtain ⟨⟨n, rest⟩, hunit, h⟩ := h
  dsimp only at h
  refine List.IsSuffix.trans ?_ (unit?_suffix hunit)
  have hend : ∀ {d : Char} {q : Text}, some (d, q) = some (c, r) → r <:+ q := by
    intro d q hq
    obtain rfl : r = q := by simpa using (congrArg (Option.map Prod.snd) hq).symm
    exact List.suffix_rfl
  -- Only the second half of a pair is taken from the rest.
  split at h
  · split at h
    · split at h
      · rename_i hsecond
        split at h
        · exact ((hend h).trans (unit?_suffix hsecond)).trans ⟨['\\', 'u'], rfl⟩
        · exact hend h
      · exact hend h
    · exact hend h
  · split at h <;> exact hend h

theorem stringChar?_suffix (h : stringChar? t = some (c, r)) : r <:+ t := by
  unfold stringChar? at h
  split at h
  · rename_i d rest
    have hrest : rest <:+ '\\' :: d :: rest := ⟨['\\', d], rfl⟩
    split at h
    case h_9 => exact (unicode?_suffix h).trans hrest
    case h_10 => cases h
    all_goals cases h; exact hrest
  · rename_i d rest _
    split at h
    · cases h
    · cases h
      exact List.suffix_cons c r
  · cases h

theorem keepsTo_readString (fuel : Nat) (t : Text) : KeepsTo t (readString fuel t) := by
  induction fuel generalizing t with
  | zero => trivial
  | succ fuel ih =>
    unfold readString
    split
    · rename_i c rest hc
      refine KeepsTo.of_suffix ?_ (stringChar?_suffix hc)
      exact (ih rest).bind fun _ _ _ => List.suffix_rfl
    · split
      · exact List.suffix_cons _ _
      · trivial

/-! Numbers. -/

theorem fraction_suffix (t : Text) : (fraction t).2 <:+ t := by
  unfold fraction
  split
  · rename_i rest
    split
    · exact List.suffix_rfl
    · exact (List.dropWhile_suffix isAsciiDigit).trans (List.suffix_cons '.' rest)
  · exact List.suffix_rfl

theorem sign_suffix (t : Text) : (Numeral.sign t).2 <:+ t := by
  unfold Numeral.sign
  split
  · exact List.suffix_cons _ _
  · exact List.suffix_cons _ _
  · exact List.suffix_rfl

theorem exponent_suffix (t : Text) : (exponent t).2 <:+ t := by
  unfold exponent
  split
  · rename_i c rest
    split
    · dsimp only
      split
      · exact List.suffix_rfl
      · rename_i ds tail _ hspan
        have htail : tail = (Numeral.sign rest).2.dropWhile isAsciiDigit := by
          simpa [spanDigits] using (congrArg Prod.snd hspan).symm
        rw [htail]
        exact ((List.dropWhile_suffix isAsciiDigit).trans (sign_suffix rest)).trans
          (List.suffix_cons c rest)
    · exact List.suffix_rfl
  · exact List.suffix_rfl

/-- The digits before the point, and the rest: a leading zero stands alone. -/
def wholePart (t : Text) : Text × Text :=
  match t with
  | '0' :: r => (['0'], r)
  | _ => spanDigits t

theorem wholePart_append (t : Text) : (wholePart t).1 ++ (wholePart t).2 = t := by
  unfold wholePart
  split
  · rfl
  · exact List.takeWhile_append_dropWhile

theorem all_wholePart (t : Text) : (wholePart t).1.all isAsciiDigit = true := by
  unfold wholePart
  split
  · rfl
  · exact List.all_takeWhile

theorem readNumber_eq (negative : Bool) (t : Text) : readNumber negative t =
    if (wholePart t).1.isEmpty then .error .malformed
    else
      let (part, r) := fraction (wholePart t).2
      let (e, r) := exponent r
      if part.isEmpty && e.isNone then
        if Numeral.maxDigits < (wholePart t).1.length then
          .error (.tooManyDigits (wholePart t).1.length)
        else
          let n : Int := natOf (wholePart t).1
          .ok (.int (if negative then -n else n), r)
      else
        let e : Int := e.getD 0 - part.length
        .ok (.float (.ofDecimal negative (natOf ((wholePart t).1 ++ part)) e), r) := rfl

theorem keepsTo_readNumber (negative : Bool) (t : Text) : KeepsTo t (readNumber negative t) := by
  have hwhole := wholePart_append t
  have hrest : (exponent (fraction (wholePart t).2).2).2 <:+ t :=
    ((exponent_suffix _).trans (fraction_suffix _)).trans ⟨_, hwhole⟩
  rw [readNumber_eq]
  split
  · trivial
  · dsimp only
    split
    · split
      · rename_i hlong
        exact ⟨hlong, _, rfl, all_wholePart t, [], _, hwhole⟩
      · exact hrest
    · exact hrest

/-! Values. -/

theorem word?_suffix {w : Text} (h : word? w t = some r) : r <:+ t := by
  unfold word? at h
  split at h
  · cases h
    exact List.drop_suffix _ _
  · cases h

theorem keepsTo_readScalar (t : Text) : KeepsTo t (readScalar t) := by
  unfold readScalar
  split
  · exact word?_suffix ‹_›
  · split
    · exact word?_suffix ‹_›
    · split
      · exact word?_suffix ‹_›
      · split
        · exact word?_suffix ‹_›
        · split
          · exact word?_suffix ‹_›
          · split
            · exact word?_suffix ‹_›
            · split
              · exact (keepsTo_readNumber true _).of_suffix (List.suffix_cons _ _)
              · exact keepsTo_readNumber false _

/-- Values, the items of lists and the fields of objects are read with one another, so that they
keep to their texts together; the induction is on the fuel. -/
theorem keepsTo_read (fuel : Nat) : (∀ t, KeepsTo t (readValue fuel t)) ∧
    (∀ t, KeepsTo t (readItems fuel t)) ∧ ∀ done t, KeepsTo t (readFields fuel done t) := by
  induction fuel with
  | zero => exact ⟨fun _ => trivial, fun _ => trivial, fun _ _ => trivial⟩
  | succ fuel ih =>
    obtain ⟨hvalue, hitems, hfields⟩ := ih
    refine ⟨fun t => ?_, fun t => ?_, fun done t => ?_⟩
    · unfold readValue
      split
      · refine KeepsTo.of_suffix ?_ (List.suffix_cons _ _)
        exact (keepsTo_readString fuel _).bind fun _ _ _ => List.suffix_rfl
      · rename_i r
        refine KeepsTo.of_suffix ?_ ((skip_suffix r).trans (List.suffix_cons _ _))
        split
        · rename_i hskip
          rw [hskip]
          exact List.suffix_cons _ _
        · exact (hitems _).bind fun _ _ _ => List.suffix_rfl
      · rename_i r
        refine KeepsTo.of_suffix ?_ ((skip_suffix r).trans (List.suffix_cons _ _))
        split
        · rename_i hskip
          rw [hskip]
          exact List.suffix_cons _ _
        · exact (hfields _ _).bind fun _ _ _ => List.suffix_rfl
      · exact keepsTo_readScalar t
    · unfold readItems
      refine (hvalue t).bind fun v r _ => ?_
      dsimp only
      refine KeepsTo.of_suffix ?_ (skip_suffix r)
      split
      · rename_i hskip
        rw [hskip]
        exact List.suffix_cons _ _
      · rename_i rest hskip
        rw [hskip]
        refine KeepsTo.of_suffix ?_ ((skip_suffix rest).trans (List.suffix_cons _ _))
        exact (hitems _).bind fun _ _ _ => List.suffix_rfl
      · trivial
    · unfold readFields
      split
      · refine KeepsTo.of_suffix ?_ (List.suffix_cons _ _)
        refine (keepsTo_readString fuel _).bind fun k r _ => ?_
        dsimp only
        refine KeepsTo.of_suffix ?_ (skip_suffix r)
        split
        · rename_i rest hskip
          rw [hskip]
          refine KeepsTo.of_suffix ?_ ((skip_suffix rest).trans (List.suffix_cons _ _))
          refine (hvalue _).bind fun v q _ => ?_
          dsimp only
          refine KeepsTo.of_suffix ?_ (skip_suffix q)
          split
          · rename_i hskip
            rw [hskip]
            exact List.suffix_cons _ _
          · rename_i hskip
            rw [hskip]
            exact (hfields _ _).of_suffix ((skip_suffix _).trans (List.suffix_cons _ _))
          · trivial
        · trivial
      · trivial

theorem longRun_of_read (h : read t = .error (.tooManyDigits n)) : HasLongRun n t := by
  have hkeeps := (keepsTo_read (2 * t.length + 2)).1 (skip t)
  unfold read at h
  cases hv : readValue (2 * t.length + 2) (skip t) with
  | ok a =>
    rw [hv] at h
    obtain ⟨v, r⟩ := a
    simp only [bind, Except.bind] at h
    split at h <;> cases h
  | error e =>
    rw [hv] at h hkeeps
    cases h
    exact hkeeps.of_infix (skip_suffix t).isInfix

end TestScribe.Json
