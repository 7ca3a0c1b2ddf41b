import TestScribe.Format.Playwright

/-!
Strings within selectors. A locator by a name or by the text of a link becomes a selector with a
string in double quotes, and the selector becomes a literal in single quotes. The value of the
locator is escaped for the literal only. So the literal is read back as the selector, but the string
in it is read back as the value only if there is nothing in this that would have to be escaped
(`selectors_read_back_iff`).
-/

namespace TestScribe.Playwright

/-- The marks of locators that become selectors with a string in them, and what stands in the
selector before and after the string. -/
def quotings : List (Text × Text × Text) :=
  [("name", "[name=", "]"), ("link", "text=", ""), ("linkText", "text=", "")]

/-- Reads a string behind its opening quote, up to the first quote that no backslash stands before:
its text, and what follows it. What stands behind a backslash is told by `means`, if anything. -/
def readString (means : Char → Option Char) : Text → Option (Text × Text)
  | [] => none
  | '\\' :: c :: r => do
    let d ← means c
    let (s, rest) ← readString means r
    some (d :: s, rest)
  | c :: r =>
    if c = '\"' then some ([], r)
    else if c = '\\' then none
    else (readString means r).map fun (s, rest) => (c :: s, rest)

variable {means : Char → Option Char} {c : Char} {r s t v rest : Text}

theorem readString_quote (r : Text) : readString means ('\"' :: r) = some ([], r) := by
  cases r <;> rfl

theorem readString_backslash (c : Char) (r : Text) : readString means ('\\' :: c :: r) =
    (means c).bind fun d => (readString means r).bind fun (s, rest) => some (d :: s, rest) := rfl

theorem readString_cons (hquote : c ≠ '\"') (hslash : c ≠ '\\') :
    readString means (c :: r) = (readString means r).map fun (s, rest) => (c :: s, rest) := by
  cases r <;> simp [readString, hquote, hslash]

theorem readString_backslash_eq_some (h : readString means ('\\' :: c :: r) = some (s, rest)) :
    ∃ d u, means c = some d ∧ readString means r = some (u, rest) ∧ s = d :: u := by
  simp only [readString_backslash, Option.bind_eq_some_iff] at h
  obtain ⟨d, hd, ⟨u, w⟩, hu, h⟩ := h
  cases h
  exact ⟨d, u, hd, hu, rfl⟩

theorem length_of_readString (h : readString means t = some (s, rest)) :
    s.length + rest.length < t.length := by
  induction t using readString.induct generalizing s rest with
  | case1 => cases h
  | case2 c r ih =>
    obtain ⟨d, u, -, hu, rfl⟩ := readString_backslash_eq_some h
    have hshorter := ih hu
    simp only [List.length_cons]
    omega
  | case3 r =>
    rw [readString_quote] at h
    cases h
    simp
  | case4 r hr =>
    cases r with
    | nil => cases h
    | cons c r => exact absurd rfl (hr c r rfl)
  | case5 c r _ hquote hslash ih =>
    rw [readString_cons hquote hslash] at h
    obtain ⟨⟨u, w⟩, hu, h⟩ := Option.map_eq_some_iff.1 h
    cases h
    have hshorter := ih hu
    simp only [List.length_cons]
    omega

theorem readString_append (hquote : '\"' ∉ v) (hslash : '\\' ∉ v) (rest : Text) :
    readString means (v ++ '\"' :: rest) = some (v, rest) := by
  induction v with
  | nil => exact readString_quote rest
  | cons c r ih =>
    rw [List.mem_cons, not_or] at hquote hslash
    rw [List.cons_append, readString_cons (Ne.symm hquote.1) (Ne.symm hslash.1),
      ih hquote.2 hslash.2]
    rfl

/-- What would need an escape is not read as it stands: a quote ends the string too early, and a
backslash takes the place of a character of the text. -/
theorem readString_append_iff : readString means (v ++ '\"' :: rest) = some (v, rest) ↔
    '\"' ∉ v ∧ '\\' ∉ v := by
  refine ⟨fun h => ?_, fun h => readString_append h.1 h.2 rest⟩
  induction v with
  | nil => exact ⟨List.not_mem_nil, List.not_mem_nil⟩
  | cons c r ih =>
    have hquote : c ≠ '\"' := by
      rintro rfl
      rw [List.cons_append, readString_quote] at h
      cases h
    have hslash : c ≠ '\\' := by
      rintro rfl
      obtain ⟨d, r', hr⟩ := List.exists_cons_of_ne_nil (List.append_ne_nil_of_right_ne_nil r
        (List.cons_ne_nil '\"' rest))
      have hlength := congrArg List.length hr
      rw [List.cons_append, hr] at h
      obtain ⟨e, u, -, hu, heq⟩ := readString_backslash_eq_some h
      obtain ⟨-, rfl⟩ := List.cons.inj heq
      have hshorter := length_of_readString hu
      simp only [List.length_append, List.length_cons] at hlength
      omega
    rw [List.cons_append, readString_cons hquote hslash] at h
    obtain ⟨⟨u, w⟩, hu, heq⟩ := Option.map_eq_some_iff.1 h
    cases heq
    obtain ⟨hquotes, hslashes⟩ := ih hu
    simp [Ne.symm hquote, Ne.symm hslash, hquotes, hslashes]

theorem selectorText_ofText {mark opening closing : Text}
    (h : (mark, opening, closing) ∈ quotings) (value : Text) :
    selectorText (.ofText (mark ++ '=' :: value)) =
      opening ++ '\"' :: (value ++ '\"' :: closing) := by
  simp only [quotings, List.mem_cons, List.not_mem_nil, or_false, Prod.mk.injEq] at h
  rcases h with ⟨rfl, rfl, rfl⟩ | ⟨rfl, rfl, rfl⟩ | ⟨rfl, rfl, rfl⟩
  · show selectorText ⟨.name, value⟩ = _
    simp [selectorText]
  · show selectorText ⟨.link, value⟩ = _
    simp [selectorText]
  · show selectorText ⟨.link, value⟩ = _
    simp [selectorText]

/-- What becomes of a locator by a name or by the text of a link, whatever its value is. It becomes
a literal that is read back as a selector, in which the value stands in double quotes. The string
between these is read back as the value, and ends at the closing quote, exactly if there is neither
a double quote nor a backslash in the value, whatever characters stand for behind backslashes. -/
theorem selectors_read_back_iff {mark opening closing : Text}
    (h : (mark, opening, closing) ∈ quotings) (means : Char → Option Char) (value rest : Text) :
    ∃ literal, selector (.text (mark ++ '=' :: value)) = .ok literal ∧
      Literal.read quote (literal ++ rest) =
        some (opening ++ '\"' :: (value ++ '\"' :: closing), rest) ∧
      (readString means (value ++ '\"' :: closing) = some (value, closing) ↔
        '\"' ∉ value ∧ '\\' ∉ value) := by
  refine ⟨Literal.written quote (selectorText (.ofText (mark ++ '=' :: value))), rfl, ?_,
    readString_append_iff⟩
  rw [Literal.read_written (by decide), selectorText_ofText h]

/-- A link with an apostrophe in its text, and text behind its literal that would go on with it. -/
theorem selectors_read_back_iff_of_link :
    ("linkText".toList, "text=".toList, "".toList) ∈ quotings ∧
      ∃ literal, selector (.text "linkText=What's new") = .ok literal ∧
        Literal.read quote (literal ++ "'\"".toList) =
          some ("text=\"What's new\"".toList, "'\"".toList) ∧
        (readString some ("What's new" ++ "\"") = some ("What's new".toList, []) ↔
          '\"' ∉ "What's new".toList ∧ '\\' ∉ "What's new".toList) := by
  have h : ("linkText".toList, "text=".toList, "".toList) ∈ quotings := by decide
  exact ⟨h, selectors_read_back_iff h some "What's new" "'\""⟩

/-- Three names of elements: the string in the first one's selector ends at the quote in the name,
that in the second one's is read without the backslash, and that in the third one's does not end. -/
theorem names_misread :
    selector (.text "name=a\"b") = .ok "'[name=\"a\"b\"]'".toList ∧
      Literal.read quote "'[name=\"a\"b\"]'" = some ("[name=\"a\"b\"]".toList, []) ∧
      readString some "a\"b\"]" = some ("a".toList, "b\"]".toList) ∧
    selector (.text "name=a\\b") = .ok "'[name=\"a\\\\b\"]'".toList ∧
      Literal.read quote "'[name=\"a\\\\b\"]'" = some ("[name=\"a\\b\"]".toList, []) ∧
      readString some "a\\b\"]" = some ("ab".toList, "]".toList) ∧
    selector (.text "name=a\\") = .ok "'[name=\"a\\\\\"]'".toList ∧
      Literal.read quote "'[name=\"a\\\\\"]'" = some ("[name=\"a\\\"]".toList, []) ∧
      readString some "a\\\"]" = none := by
  exact ⟨rfl, rfl, rfl, rfl, rfl, rfl, rfl, rfl, rfl⟩

end TestScribe.Playwright
