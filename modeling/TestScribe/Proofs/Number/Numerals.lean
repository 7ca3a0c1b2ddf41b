import Mathlib.Logic.Basic
import TestScribe.Number.Numeral
import TestScribe.Proofs.Naming.Letters

/-!
The grammar of numerals, apart from how they are read. Digits of any script stand next to each other
or with one underscore between them; a decimal has digits before or after a point and perhaps an
exponent; a number has a sign or none, and is a decimal, an infinity or not a number. Blanks around
it do not count. Reading a text finds the number that it denotes, and fails only if there is none
(`number?_eq_some_iff`).
-/

namespace TestScribe.Numeral

open Text (digit?)

/-- Whether a text spells digits: at least one, and a single underscore may stand between two. -/
inductive Spells : List Nat → Text → Prop
  | last {c : Char} {d : Nat} (hc : digit? c = some d) : Spells [d] [c]
  | next {c : Char} {d : Nat} {ds : List Nat} {t : Text} (hc : digit? c = some d)
    (ht : Spells ds t) : Spells (d :: ds) (c :: t)
  | spaced {c : Char} {d : Nat} {ds : List Nat} {t : Text} (hc : digit? c = some d)
    (ht : Spells ds t) : Spells (d :: ds) (c :: '_' :: t)

def SpellsAny (ds : List Nat) (t : Text) : Prop := Spells ds t ∨ ds = [] ∧ t = []

/-- Whether a text does not go on with digits. -/
def Stops (t : Text) : Prop :=
  (∀ c r, t = c :: r → digit? c = none) ∧ ∀ c r, t = '_' :: c :: r → digit? c = none

/-- A sign, which may be missing if it is positive. -/
inductive IsSign : Bool → Text → Prop
  | none : IsSign false []
  | plus : IsSign false ['+']
  | minus : IsSign true ['-']

def signed (negative : Bool) (n : Nat) : Int := if negative then -n else n

/-- The digits after the point of a decimal, if it has one. -/
inductive IsFraction : List Nat → Text → Prop
  | none : IsFraction [] []
  | point {ds : List Nat} {t : Text} (ht : SpellsAny ds t) : IsFraction ds ('.' :: t)

inductive IsExponent : Int → Text → Prop
  | none : IsExponent 0 []
  | mark {c : Char} {negative : Bool} {ds : List Nat} {s t : Text} (hc : c = 'e' ∨ c = 'E')
    (hs : IsSign negative s) (ht : Spells ds t) :
    IsExponent (signed negative (valueOf ds)) (c :: (s ++ t))

/-- Whether a text is a decimal with these digits before and after its point, and this exponent. -/
structure IsDecimal (whole part : List Nat) (e : Int) (t : Text) : Prop where
  digits : whole ≠ [] ∨ part ≠ []
  spelled : ∃ w f x, SpellsAny whole w ∧ IsFraction part f ∧ IsExponent e x ∧ t = w ++ f ++ x

/-- The number that a text without a sign denotes, if that has the sign. -/
inductive DenotesUnsigned (negative : Bool) (t : Text) : Binary64 → Prop
  | notANumber (ht : t.map Char.toLower = "nan".toList) : DenotesUnsigned negative t .notANumber
  | infinite (ht : t.map Char.toLower = "inf".toList ∨ t.map Char.toLower = "infinity".toList) :
    DenotesUnsigned negative t (.infinite negative)
  | decimal {whole part : List Nat} {e : Int} (ht : IsDecimal whole part e t) :
    DenotesUnsigned negative t (.ofDecimal negative (valueOf (whole ++ part)) (e - part.length))

def Denotes (t : Text) (x : Binary64) : Prop :=
  ∃ negative s body, Text.dropAroundWhile isMargin t = s ++ body ∧ IsSign negative s ∧
    DenotesUnsigned negative body x

variable {negative started : Bool} {c : Char} {d : Nat} {ds whole part : List Nat} {e : Int}
  {s t rest body : Text} {x : Binary64}

/-! Digits. -/

theorem ne_of_digit? (hc : digit? c = some d) {e : Char} (he : digit? e = none) : c ≠ e := by
  rintro rfl
  rw [he] at hc
  cases hc

theorem digits_cons (hc : digit? c = some d) (started : Bool) (t : Text) :
    digits started (c :: t) = (d :: (digits true t).1, (digits true t).2) := by
  have hne : c ≠ '_' := ne_of_digit? hc (by decide)
  rw [digits.eq_4 started c t (by simp [hne]), hc]

theorem digits_spaced (hc : digit? c = some d) (t : Text) :
    digits true ('_' :: c :: t) = (d :: (digits true t).1, (digits true t).2) := by
  rw [digits.eq_2 c t d hc]

theorem digits_of_stops (h : Stops t) (started : Bool) : digits started t = ([], t) := by
  fun_cases digits started t with
  | case1 => rfl
  | case2 c r d hc =>
    rw [h.2 c r rfl] at hc
    cases hc
  | case3 => rfl
  | case4 _ c r _ d hc =>
    rw [h.1 c r rfl] at hc
    cases hc
  | case5 => rfl

theorem digits_append (h : Spells ds s) (hrest : Stops rest) (started : Bool) :
    digits started (s ++ rest) = (ds, rest) := by
  induction h generalizing started with
  | last hc => rw [List.singleton_append, digits_cons hc, digits_of_stops hrest]
  | next hc _ ih => rw [List.cons_append, digits_cons hc, ih]
  | @spaced c d ds t hc ht ih =>
    have hlater : digits true ('_' :: (t ++ rest)) = digits true (t ++ rest) := by
      cases ht with
      | last he => rw [List.singleton_append, digits_spaced he, digits_cons he]
      | next he _ => rw [List.cons_append, digits_spaced he, digits_cons he]
      | spaced he _ => rw [List.cons_append, digits_spaced he, digits_cons he]
    rw [List.cons_append, List.cons_append, digits_cons hc, hlater, ih]

theorem digits_append_any (h : SpellsAny ds s) (hrest : Stops rest) (started : Bool) :
    digits started (s ++ rest) = (ds, rest) := by
  rcases h with h | ⟨rfl, rfl⟩
  · exact digits_append h hrest started
  · exact digits_of_stops hrest started

/-- What is read is what was to be read, cut in two. -/
inductive Cut (started : Bool) (t : Text) : List Nat × Text → Prop
  /-- There are no digits at the start. -/
  | none : Cut started t ([], t)
  | spelled {ds : List Nat} {s rest : Text} (hs : Spells ds s) (ht : t = s ++ rest) :
    Cut started t (ds, rest)
  /-- After a digit there may be an underscore before others. -/
  | spaced {ds : List Nat} {s rest : Text} (hstarted : started = true) (hs : Spells ds s)
    (ht : t = '_' :: (s ++ rest)) : Cut started t (ds, rest)

theorem Cut.cons (hc : digit? c = some d) (h : Cut true t (ds, rest)) (started : Bool) :
    Cut started (c :: t) (d :: ds, rest) := by
  cases h with
  | none => exact .spelled (.last hc) rfl
  | spelled hs ht => exact .spelled (.next hc hs) (congrArg (c :: ·) ht)
  | spaced _ hs ht => exact .spelled (.spaced hc hs) (congrArg (c :: ·) ht)

theorem cut_digits (started : Bool) (t : Text) : Cut started t (digits started t) := by
  fun_induction digits started t with
  | case1 started => exact .none
  | case2 c r d hc ds rest hdigits ih =>
    rw [hdigits] at ih
    cases ih.cons hc false with
    | spelled hs ht => exact .spaced rfl hs (congrArg ('_' :: ·) ht)
    | spaced hstarted => cases hstarted
  | case3 => exact .none
  | case4 started c r _ d hc ds rest hdigits ih =>
    rw [hdigits] at ih
    exact ih.cons hc started
  | case5 => exact .none

theorem exists_spellsAny (t : Text) :
    ∃ s, SpellsAny (digits false t).1 s ∧ t = s ++ (digits false t).2 := by
  have hcut := cut_digits false t
  generalize digits false t = r at hcut ⊢
  cases hcut with
  | none => exact ⟨[], .inr ⟨rfl, rfl⟩, rfl⟩
  | spelled hs ht => exact ⟨_, .inl hs, ht⟩
  | spaced hstarted => cases hstarted

/-! Signs. -/

theorem isSign_sign (t : Text) : ∃ s, IsSign (sign t).1 s ∧ t = s ++ (sign t).2 := by
  unfold sign
  split
  · exact ⟨_, .minus, rfl⟩
  · exact ⟨_, .plus, rfl⟩
  · exact ⟨_, .none, rfl⟩

theorem sign_append (h : IsSign negative s) (hbody : ∀ c r, body = c :: r → c ≠ '-' ∧ c ≠ '+') :
    sign (s ++ body) = (negative, body) := by
  cases h with
  | minus => rfl
  | plus => rfl
  | none =>
    cases body with
    | nil => rfl
    | cons c r =>
      obtain ⟨hminus, hplus⟩ := hbody c r rfl
      exact sign.eq_3 (c :: r) (by simp [hminus]) (by simp [hplus])

theorem Spells.exists_cons (h : Spells ds t) : ∃ c r d, t = c :: r ∧ digit? c = some d := by
  cases h with
  | last hc => exact ⟨_, _, _, rfl, hc⟩
  | next hc _ => exact ⟨_, _, _, rfl, hc⟩
  | spaced hc _ => exact ⟨_, _, _, rfl, hc⟩

theorem Spells.ne_nil (h : Spells ds t) : ds ≠ [] := by
  cases h <;> exact List.cons_ne_nil _ _

theorem Spells.unsigned (h : Spells ds t) : ∀ c r, t = c :: r → c ≠ '-' ∧ c ≠ '+' := by
  obtain ⟨c, r, d, rfl, hc⟩ := h.exists_cons
  rintro _ _ ⟨⟩
  exact ⟨ne_of_digit? hc (by decide), ne_of_digit? hc (by decide)⟩

/-! Exponents. -/

theorem stops_nil : Stops [] := ⟨nofun, nofun⟩

theorem stops_cons (hc : digit? c = none) (hne : c ≠ '_') (t : Text) : Stops (c :: t) := by
  refine ⟨?_, ?_⟩
  · rintro _ _ ⟨⟩
    exact hc
  · rintro _ _ ⟨⟩
    exact absurd rfl hne

theorem IsExponent.stops (h : IsExponent e t) : Stops t := by
  cases h with
  | none => exact stops_nil
  | mark hc hs ht => rcases hc with rfl | rfl <;> exact stops_cons (by decide) (by decide) _

theorem exponent_eq (h : IsExponent e t) : exponent t = (e, []) := by
  cases h with
  | none => rfl
  | @mark c negative ds s t hc hs ht =>
    have hdigits := digits_append ht stops_nil false
    rw [List.append_nil] at hdigits
    simp only [exponent, if_pos hc, sign_append hs ht.unsigned, hdigits]
    cases ds with
    | nil => exact absurd rfl ht.ne_nil
    | cons d ds => rfl

theorem isExponent_of_exponent (h : (exponent t).2 = []) : IsExponent (exponent t).1 t := by
  cases t with
  | nil => exact .none
  | cons c r =>
    obtain ⟨s, hs, hr⟩ := isSign_sign r
    obtain ⟨u, hu, ht⟩ := exists_spellsAny (sign r).2
    simp only [exponent] at h ⊢
    split at h
    · rename_i hc
      rw [if_pos hc]
      split at h
      · cases h
      · rename_i ds rest hne hdigits
        rw [hdigits] at hu ht
        obtain rfl : rest = [] := h
        rw [List.append_nil] at ht
        rcases hu with hu | ⟨hnone, -⟩
        · rw [← ht] at hu
          have hx := IsExponent.mark hc hs hu
          rw [← hr] at hx
          exact hx
        · exact absurd hnone hne
    · cases h

/-! Decimals. -/

theorem IsFraction.stops (hf : IsFraction part t) (hrest : Stops rest) : Stops (t ++ rest) := by
  cases hf with
  | none => exact hrest
  | point => exact stops_cons (by decide) (by decide) _

def fraction : Text → List Nat × Text
  | '.' :: r => digits false r
  | r => ([], r)

theorem fraction_append (h : IsFraction part t) (hx : IsExponent e rest) :
    fraction (t ++ rest) = (part, rest) := by
  cases h with
  | point ht => exact digits_append_any ht hx.stops false
  | none =>
    cases hx with
    | none => rfl
    | mark hc hs ht => rcases hc with rfl | rfl <;> rfl

theorem exists_isFraction (t : Text) :
    ∃ f, IsFraction (fraction t).1 f ∧ t = f ++ (fraction t).2 := by
  unfold fraction
  split
  · rename_i r
    obtain ⟨s, hs, hr⟩ := exists_spellsAny r
    exact ⟨_, .point hs, congrArg ('.' :: ·) hr⟩
  · exact ⟨[], .none, rfl⟩

def unsigned? (negative : Bool) (t : Text) : Option Binary64 :=
  if t.map Char.toLower = "nan".toList then some .notANumber
  else if t.map Char.toLower = "inf".toList ∨ t.map Char.toLower = "infinity".toList then
    some (.infinite negative)
  else
    let w := digits false t
    let f := fraction w.2
    let x := exponent f.2
    if w.1.isEmpty && f.1.isEmpty || !x.2.isEmpty then none
    else some (.ofDecimal negative (valueOf (w.1 ++ f.1)) (x.1 - f.1.length))

theorem number?_eq (t : Text) : number? t =
    unsigned? (sign (Text.dropAroundWhile isMargin t)).1
      (sign (Text.dropAroundWhile isMargin t)).2 := rfl

theorem IsDecimal.exists_cons (h : IsDecimal whole part e t) :
    ∃ c r, t = c :: r ∧ (c = '.' ∨ ∃ d, digit? c = some d) := by
  obtain ⟨hdigits, w, f, x, hw | ⟨rfl, rfl⟩, hf, -, rfl⟩ := h
  · obtain ⟨c, r, d, rfl, hc⟩ := hw.exists_cons
    exact ⟨c, r ++ f ++ x, rfl, .inr ⟨d, hc⟩⟩
  · cases hf with
    | point _ => exact ⟨'.', _, rfl, .inl rfl⟩
    | none => simp at hdigits

theorem toLower_of_digit? (hc : digit? c = some d) : c.toLower = c := by
  refine Naming.toLower_of_not_isUpper (Bool.eq_false_iff.2 fun hupper => ?_)
  have hnone : digit? c = none :=
    Naming.forall_of_isPlain (P := fun c => Naming.isUpper c = true → digit? c = none)
      (by decide) (Naming.isPlain_of_isUpper hupper) hupper
  rw [hnone] at hc
  cases hc

theorem IsDecimal.map_toLower_ne (h : IsDecimal whole part e t) (hc : digit? c = none)
    (hpoint : c ≠ '.') (w : Text) : t.map Char.toLower ≠ c :: w := by
  obtain ⟨b, r, rfl, hb⟩ := h.exists_cons
  rw [List.map_cons, ne_eq, List.cons.injEq, not_and_or]
  left
  rcases hb with rfl | ⟨d, hb⟩
  · exact hpoint.symm
  · rw [toLower_of_digit? hb]
    exact ne_of_digit? hb hc

theorem unsigned?_eq_some_iff :
    unsigned? negative t = some x ↔ DenotesUnsigned negative t x := by
  constructor
  · intro h
    unfold unsigned? at h
    split at h
    · cases h
      exact .notANumber ‹_›
    · split at h
      · cases h
        exact .infinite ‹_›
      · dsimp only at h
        obtain ⟨w, hw, hrest⟩ := exists_spellsAny t
        obtain ⟨f, hf, hlast⟩ := exists_isFraction (digits false t).2
        split at h
        · cases h
        · rename_i hread
          simp only [Bool.or_eq_true, Bool.and_eq_true, List.isEmpty_iff, Bool.not_eq_true',
            Bool.not_eq_false, not_or] at hread
          cases h
          have hx := isExponent_of_exponent hread.2
          refine .decimal ⟨not_and_or.1 hread.1, w, f, _, hw, hf, hx, ?_⟩
          rw [List.append_assoc, ← hlast, ← hrest]
  · rintro (h | h | h)
    · exact if_pos h
    · have hne : t.map Char.toLower ≠ "nan".toList := by
        rcases h with h | h <;> rw [h] <;> decide
      rw [unsigned?, if_neg hne, if_pos h]
    · rename_i whole part e
      obtain ⟨hdigits, w, f, x, hw, hf, hx, ht⟩ := id h
      have hwhole : digits false t = (whole, f ++ x) := by
        rw [ht, List.append_assoc]
        exact digits_append_any hw (hf.stops hx.stops) false
      have hnan : t.map Char.toLower ≠ "nan".toList :=
        h.map_toLower_ne (by decide) (by decide) _
      have hinf : ¬ (t.map Char.toLower = "inf".toList ∨
          t.map Char.toLower = "infinity".toList) :=
        not_or.2 ⟨h.map_toLower_ne (by decide) (by decide) _,
          h.map_toLower_ne (by decide) (by decide) _⟩
      rw [unsigned?, if_neg hnan, if_neg hinf, hwhole]
      simp only [fraction_append hf hx, exponent_eq hx]
      rw [if_neg]
      simpa [List.isEmpty_iff, ← not_and_or] using hdigits

theorem DenotesUnsigned.unsigned (h : DenotesUnsigned negative t x) :
    ∀ c r, t = c :: r → c ≠ '-' ∧ c ≠ '+' := by
  rintro c r rfl
  have hword : ∀ {b : Char} {w : Text}, (c :: r).map Char.toLower = b :: w →
      b ≠ '-' → b ≠ '+' → c ≠ '-' ∧ c ≠ '+' := by
    intro b w hw hminus hplus
    obtain ⟨hb, -⟩ := List.cons.inj hw
    exact ⟨fun hc => hminus (by rw [← hb, hc]; rfl), fun hc => hplus (by rw [← hb, hc]; rfl)⟩
  cases h with
  | notANumber ht => exact hword ht (by decide) (by decide)
  | infinite ht => exact ht.elim (hword · (by decide) (by decide)) (hword · (by decide) (by decide))
  | decimal ht =>
    obtain ⟨_, _, ⟨⟩, rfl | ⟨d, hc⟩⟩ := ht.exists_cons
    · decide
    · exact ⟨ne_of_digit? hc (by decide), ne_of_digit? hc (by decide)⟩

/-- Reading a text finds the number that it denotes, and nothing if it denotes none. -/
theorem number?_eq_some_iff : number? t = some x ↔ Denotes t x := by
  rw [number?_eq, unsigned?_eq_some_iff]
  constructor
  · intro h
    obtain ⟨s, hs, ht⟩ := isSign_sign (Text.dropAroundWhile isMargin t)
    exact ⟨_, s, _, ht, hs, h⟩
  · rintro ⟨negative, s, body, ht, hs, hbody⟩
    rw [ht, sign_append hs hbody.unsigned]
    exact hbody

end TestScribe.Numeral
