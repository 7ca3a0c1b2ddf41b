import TestScribe.Proofs.Naming.Initials
import TestScribe.Proofs.Naming.Words

/-!
The same words in different styles. A `snake_case` name is a title too, and so is a `kebab-case`
one; both have the words of the title that they were made from. Words of two small letters or more
are found again however they are put together: with spaces, hyphens or underscores between them, or
with capitals at their beginnings (`styles_agree`). Words of one letter are not, since `aBC` does
not tell where its second word ends.
-/

namespace TestScribe

theorem Text.fieldsBy_join {p : Char → Bool} {mark : Char} (hmark : p mark = true)
    {ws : List Text} (hws : ∀ w ∈ ws, w ≠ [] ∧ ∀ c ∈ w, p c = false) :
    fieldsBy p (join [mark] ws) = ws := by
  induction ws with
  | nil => rfl
  | cons w ws ih =>
    obtain ⟨⟨hne, hw⟩, hws⟩ := List.forall_mem_cons.1 hws
    cases ws with
    | nil => exact fieldsBy_of_forall hw hne
    | cons v vs =>
      rw [join_cons_of_ne_nil _ _ (List.cons_ne_nil v vs), List.append_assoc,
        List.singleton_append, fieldsBy_append_cons hw hne hmark, ih hws]

namespace Naming

variable {mark c : Char} {r t w : Text} {ws : List Text}

theorem breakWords_cons_of_not_startsUpper (h : startsUpper r = false) (c : Char) :
    breakWords (c :: r) = c :: breakWords r := by
  have hrun : startsRun r = false := Bool.eq_false_iff.2 fun hrun => by
    rw [startsUpper_of_startsRun hrun] at h
    cases h
  simp [breakWords, h, hrun]

theorem breakWords_of_not_isUpper (h : ∀ c ∈ t, isUpper c = false) : breakWords t = t := by
  induction t with
  | nil => rfl
  | cons c r ih =>
    obtain ⟨-, hr⟩ := List.forall_mem_cons.1 h
    have hstart : startsUpper r = false := by
      cases r with
      | nil => rfl
      | cons u r => exact hr u List.mem_cons_self
    rw [breakWords_cons_of_not_startsUpper hstart, ih hr]

theorem breakWords_append (hne : w ≠ []) (hw : ∀ c ∈ w, isLower c = true)
    (hr : startsUpper r = true) : breakWords (w ++ r) = w ++ '_' :: breakWords r := by
  induction w with
  | nil => exact absurd rfl hne
  | cons c w ih =>
    obtain ⟨hc, hw⟩ := List.forall_mem_cons.1 hw
    cases w with
    | nil => simp [breakWords, hc, hr]
    | cons d w =>
      have hstart : startsUpper (d :: w ++ r) = false :=
        isUpper_eq_false_of_isLower (hw d List.mem_cons_self)
      rw [List.cons_append, breakWords_cons_of_not_startsUpper hstart,
        ih (List.cons_ne_nil d w) hw]
      rfl

/-- A title whose words come out when capitals are broken off has just these words. -/
theorem snake_of_breakWords (hmark : isPlain mark = false) (hne : ws ≠ [])
    (hws : ∀ w ∈ ws, w ≠ [] ∧ ∀ c ∈ w, isPlain c = true)
    (ht : breakWords t = Text.join [mark] ws) :
    snake t = Text.join ['_'] (ws.map (List.map Char.toLower)) := by
  have hfields : Text.fieldsBy (fun c => !isPlain c) (Text.join [mark] ws) = ws :=
    Text.fieldsBy_join (by simp [hmark]) (by simpa using hws)
  have hwords : snakeWords t = ws.map (List.map Char.toLower) := by
    unfold snakeWords caseWords
    rw [ht, hfields]
    split
    · rename_i hnil
      exact absurd (List.map_eq_nil_iff.1 hnil) hne
    · rfl
  rw [snake_eq_join, hwords]

/-- A word of a name, which capitals do not come into. -/
def IsSmall (w : Text) : Prop := w ≠ [] ∧ ∀ c ∈ w, (isLower c || isDigit c) = true

theorem isPlain_of_small (h : (isLower c || isDigit c) = true) : isPlain c = true := by
  rcases Bool.or_eq_true_iff.1 h with h | h <;> simp [isPlain, h]

theorem isUpper_eq_false_of_small (h : (isLower c || isDigit c) = true) : isUpper c = false :=
  forall_of_isPlain (P := fun c => (isLower c || isDigit c) = true → isUpper c = false)
    (by decide) (isPlain_of_small h) h

theorem map_toLower_of_small (hw : ∀ c ∈ w, (isLower c || isDigit c) = true) :
    w.map Char.toLower = w :=
  (List.map_congr_left fun c hc =>
    toLower_of_not_isUpper (isUpper_eq_false_of_small (hw c hc))).trans (List.map_id w)

theorem snake_join (hmark : isPlain mark = false) (hne : ws ≠ []) (hws : ∀ w ∈ ws, IsSmall w) :
    snake (Text.join [mark] ws) = Text.join ['_'] ws := by
  have hbreak : breakWords (Text.join [mark] ws) = Text.join [mark] ws := by
    refine breakWords_of_not_isUpper fun c hc => ?_
    rcases Text.mem_of_mem_join hc with hc | ⟨w, hw, hc⟩
    · rw [List.mem_singleton.1 hc]
      exact Bool.eq_false_iff.2 fun hupper => by
        rw [isPlain_of_isUpper hupper] at hmark
        cases hmark
    · exact isUpper_eq_false_of_small ((hws w hw).2 c hc)
  have hplain : ∀ w ∈ ws, w ≠ [] ∧ ∀ c ∈ w, isPlain c = true :=
    fun w hw => ⟨(hws w hw).1, fun c hc => isPlain_of_small ((hws w hw).2 c hc)⟩
  have hlower : ∀ w ∈ ws, w.map Char.toLower = w := fun w hw => map_toLower_of_small (hws w hw).2
  rw [snake_of_breakWords hmark hne hplain hbreak, List.map_congr_left hlower, List.map_id']

theorem snake_snake (title : Text) : snake (snake title) = snake title := by
  rw [snake_eq_join title]
  exact snake_join (by decide) (snakeWords_ne_nil title) fun w hw => mem_snakeWords hw

theorem snake_kebab (title : Text) : snake (kebab title) = snake title := by
  rw [kebab_eq_join, snake_eq_join title]
  exact snake_join (by decide) (snakeWords_ne_nil title) fun w hw => mem_snakeWords hw

/-! Words that have nothing between them but the capitals at their beginnings. -/

/-- Whether a word is a letter or digit, and small letters after it. -/
def IsHump (w : Text) : Prop :=
  ∃ c r, w = c :: r ∧ isPlain c = true ∧ r ≠ [] ∧ ∀ d ∈ r, isLower d = true

theorem IsHump.breakWords (h : IsHump w) : breakWords w = w := by
  obtain ⟨c, r, rfl, -, hne, hr⟩ := h
  obtain ⟨d, s, rfl⟩ := List.exists_cons_of_ne_nil hne
  have hstart : startsUpper (d :: s) = false := isUpper_eq_false_of_isLower (hr d List.mem_cons_self)
  rw [breakWords_cons_of_not_startsUpper hstart,
    breakWords_of_not_isUpper fun e he => isUpper_eq_false_of_isLower (hr e he)]

theorem IsHump.breakWords_append (h : IsHump w) (ht : startsUpper t = true) :
    Naming.breakWords (w ++ t) = w ++ '_' :: Naming.breakWords t := by
  obtain ⟨c, r, rfl, -, hne, hr⟩ := h
  obtain ⟨d, s, rfl⟩ := List.exists_cons_of_ne_nil hne
  have hstart : startsUpper (d :: s ++ t) = false :=
    isUpper_eq_false_of_isLower (hr d List.mem_cons_self)
  rw [List.cons_append, breakWords_cons_of_not_startsUpper hstart,
    Naming.breakWords_append hne hr ht]
  rfl

theorem IsHump.plain (h : IsHump w) : w ≠ [] ∧ ∀ c ∈ w, isPlain c = true := by
  obtain ⟨c, r, rfl, hc, -, hr⟩ := h
  refine ⟨List.cons_ne_nil c r, ?_⟩
  rw [List.forall_mem_cons]
  exact ⟨hc, fun d hd => isPlain_of_isLower (hr d hd)⟩

/-- Each capital after the first word breaks off a word. -/
theorem breakWords_flatten (hws : ∀ v ∈ w :: ws, IsHump v)
    (hupper : ∀ v ∈ ws, startsUpper v = true) :
    breakWords (w :: ws).flatten = Text.join ['_'] (w :: ws) := by
  induction ws generalizing w with
  | nil => simpa using (hws w List.mem_cons_self).breakWords
  | cons v vs ih =>
    obtain ⟨hw, hvs⟩ := List.forall_mem_cons.1 hws
    obtain ⟨hv, hupper⟩ := List.forall_mem_cons.1 hupper
    have hstart : startsUpper (v :: vs).flatten = true := by
      obtain ⟨c, r, rfl, -⟩ := hvs v List.mem_cons_self
      exact hv
    rw [List.flatten_cons, hw.breakWords_append hstart, ih hvs hupper,
      Text.join_cons_of_ne_nil _ _ (List.cons_ne_nil v vs), List.append_assoc]
    rfl

theorem snake_flatten (hws : ∀ v ∈ w :: ws, IsHump v) (hupper : ∀ v ∈ ws, startsUpper v = true) :
    snake (w :: ws).flatten = Text.join ['_'] ((w :: ws).map (List.map Char.toLower)) :=
  snake_of_breakWords (by decide) (List.cons_ne_nil w ws) (fun v hv => (hws v hv).plain)
    (breakWords_flatten hws hupper)

def IsLong (w : Text) : Prop := 2 ≤ w.length ∧ ∀ c ∈ w, isLower c = true

instance (w : Text) : Decidable (IsLong w) :=
  decidable_of_iff (2 ≤ w.length ∧ w.all isLower = true) (and_congr_right' List.all_eq_true)

namespace IsLong

theorem exists_cons (h : IsLong w) :
    ∃ c r, w = c :: r ∧ isLower c = true ∧ r ≠ [] ∧ ∀ d ∈ r, isLower d = true := by
  obtain ⟨hlength, hlower⟩ := h
  cases w with
  | nil => simp at hlength
  | cons c r =>
    obtain ⟨hc, hr⟩ := List.forall_mem_cons.1 hlower
    refine ⟨c, r, rfl, hc, ?_, hr⟩
    rintro rfl
    simp at hlength

theorem isSmall (h : IsLong w) : IsSmall w := by
  obtain ⟨c, r, rfl, -⟩ := h.exists_cons
  exact ⟨List.cons_ne_nil c r, fun d hd => by rw [h.2 d hd, Bool.true_or]⟩

theorem isHump (h : IsLong w) : IsHump w := by
  obtain ⟨c, r, hw, hc, hr⟩ := h.exists_cons
  exact ⟨c, r, hw, isPlain_of_isLower hc, hr⟩

theorem isHump_raised (h : IsLong w) : IsHump (raised w) := by
  obtain ⟨c, r, rfl, hc, hr⟩ := h.exists_cons
  exact ⟨c.toUpper, r, rfl, isPlain_toUpper (isPlain_of_isLower hc), hr⟩

theorem startsUpper_raised (h : IsLong w) : startsUpper (raised w) = true := by
  obtain ⟨c, r, rfl, hc, -⟩ := h.exists_cons
  exact forall_of_isPlain (P := fun c => isLower c = true → isUpper c.toUpper = true) (by decide)
    (isPlain_of_isLower hc) hc

theorem map_toLower_raised (h : IsLong w) : (raised w).map Char.toLower = w := by
  have hsmall := map_toLower_of_small h.isSmall.2
  obtain ⟨c, r, rfl, hc, -⟩ := h.exists_cons
  have hback : c.toUpper.toLower = c :=
    forall_of_isPlain (P := fun c => isLower c = true → c.toUpper.toLower = c) (by decide)
      (isPlain_of_isLower hc) hc
  rw [List.map_cons, List.cons.injEq] at hsmall
  rw [raised, List.map_cons, hback, hsmall.2]

end IsLong

theorem isAlpha_of_isLower (h : isLower c = true) : c.isAlpha = true :=
  forall_of_isPlain (P := fun c => isLower c = true → c.isAlpha = true) (by decide)
    (isPlain_of_isLower h) h

theorem titleAfter_of_isLower (hw : ∀ c ∈ w, isLower c = true) : Text.titleAfter true w = w := by
  induction w with
  | nil => rfl
  | cons c r ih =>
    obtain ⟨hc, hr⟩ := List.forall_mem_cons.1 hw
    rw [Text.titleAfter, if_pos (isAlpha_of_isLower hc), if_pos rfl, ih hr,
      toLower_of_not_isUpper (isUpper_eq_false_of_isLower hc)]

theorem title_eq_raised (hw : ∀ c ∈ w, isLower c = true) : Text.title w = raised w := by
  cases w with
  | nil => rfl
  | cons c r =>
    obtain ⟨hc, hr⟩ := List.forall_mem_cons.1 hw
    rw [Text.title, Text.titleAfter, if_pos (isAlpha_of_isLower hc), if_neg Bool.false_ne_true,
      titleAfter_of_isLower hr, raised]

theorem plainWords_join (hmark : isPlain mark = false) (hws : ∀ w ∈ ws, IsSmall w) :
    plainWords (Text.join [mark] ws) = ws := by
  refine Text.fieldsBy_join (by simp [hmark]) fun w hw => ⟨(hws w hw).1, fun c hc => ?_⟩
  rw [isPlain_of_small ((hws w hw).2 c hc)]
  rfl

theorem snake_pascal_join (hws : ∀ v ∈ w :: ws, IsLong v) :
    snake (pascal (Text.join [' '] (w :: ws))) = Text.join ['_'] (w :: ws) := by
  have hpascal : pascal (Text.join [' '] (w :: ws)) = ((w :: ws).map raised).flatten := by
    rw [pascal, plainWords_join (by decide) fun v hv => (hws v hv).isSmall]
  have hback : (w :: ws).map (List.map Char.toLower ∘ raised) = w :: ws :=
    (List.map_congr_left fun v hv => (hws v hv).map_toLower_raised).trans (List.map_id _)
  rw [hpascal, List.map_cons, snake_flatten, ← List.map_cons, List.map_map, hback]
  · rw [← List.map_cons, List.forall_mem_map]
    exact fun v hv => (hws v hv).isHump_raised
  · rw [List.forall_mem_map]
    exact fun v hv => (hws v (List.mem_cons_of_mem w hv)).startsUpper_raised

theorem snake_camel_join (hws : ∀ v ∈ w :: ws, IsLong v) :
    snake (camel (Text.join [' '] (w :: ws))) = Text.join ['_'] (w :: ws) := by
  obtain ⟨hw, htail⟩ := List.forall_mem_cons.1 hws
  have htitle : ws.map Text.title = ws.map raised :=
    List.map_congr_left fun v hv => title_eq_raised (htail v hv).2
  have hcamel : camel (Text.join [' '] (w :: ws)) = (w :: ws.map raised).flatten := by
    rw [camel, plainWords_join (by decide) fun v hv => (hws v hv).isSmall]
    show w.map Char.toLower ++ (ws.map Text.title).flatten = _
    rw [htitle, map_toLower_of_small hw.isSmall.2, List.flatten_cons]
  have hback : ws.map (List.map Char.toLower ∘ raised) = ws :=
    (List.map_congr_left fun v hv => (htail v hv).map_toLower_raised).trans (List.map_id _)
  rw [hcamel, snake_flatten, List.map_cons, List.map_map, hback,
    map_toLower_of_small hw.isSmall.2]
  · rw [List.forall_mem_cons, List.forall_mem_map]
    exact ⟨hw.isHump, fun v hv => (htail v hv).isHump_raised⟩
  · rw [List.forall_mem_map]
    exact fun v hv => (htail v hv).startsUpper_raised

/-- The ways in which a list of words is written. -/
def renderings (ws : List Text) : List Text :=
  [Text.join [' '] ws, Text.join ['-'] ws, Text.join ['_'] ws, pascal (Text.join [' '] ws),
    camel (Text.join [' '] ws)]

/-- The styles of names agree on words. A `snake_case` name is its own, and it is that of the
`kebab-case` name too. And whatever style words of two small letters or more are written in, the
`snake_case` name is these words. -/
theorem styles_agree :
    (∀ title, snake (snake title) = snake title ∧ snake (kebab title) = snake title) ∧
      ∀ ws, ws ≠ [] → (∀ w ∈ ws, IsLong w) →
        ∀ t ∈ renderings ws, snake t = Text.join ['_'] ws := by
  refine ⟨fun title => ⟨snake_snake title, snake_kebab title⟩, fun ws hne hws t ht => ?_⟩
  have hsmall : ∀ w ∈ ws, IsSmall w := fun w hw => (hws w hw).isSmall
  obtain ⟨w, ws, rfl⟩ := List.exists_cons_of_ne_nil hne
  simp only [renderings, List.mem_cons, List.not_mem_nil, or_false] at ht
  rcases ht with rfl | rfl | rfl | rfl | rfl
  · exact snake_join (by decide) hne hsmall
  · exact snake_join (by decide) hne hsmall
  · exact snake_join (by decide) hne hsmall
  · exact snake_pascal_join hws
  · exact snake_camel_join hws

/-- Three words in five styles. -/
theorem styles_agree_of_three :
    let ws : List Text := ["add", "to", "cart"]
    ws ≠ [] ∧ (∀ w ∈ ws, IsLong w) ∧
      renderings ws = (["add to cart", "add-to-cart", "add_to_cart", "AddToCart", "addToCart"] :
        List Text) ∧
      ∀ t ∈ renderings ws, snake t = "add_to_cart".toList := by
  intro ws
  have hne : ws ≠ [] := by decide
  have hws : ∀ w ∈ ws, IsLong w := by decide
  exact ⟨hne, hws, by decide +kernel, styles_agree.2 ws hne hws⟩

end Naming

end TestScribe
