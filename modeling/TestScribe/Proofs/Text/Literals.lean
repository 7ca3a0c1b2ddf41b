import TestScribe.Literal
import TestScribe.Proofs.Text.Replacing

/-!
String literals and the texts in them. Escaping a text character by character is the same as
replacing backslashes, quotes, line feeds and carriage returns in it one after another
(`escape_eq_escapeInTurn`): the backslashes have to come first, since the other replacements put new
ones in. What stands between the quotes has no line ends of its own, and whatever follows the
literal, reading from its opening quote gives back the text and stops at its closing quote.
-/

namespace TestScribe

theorem Text.replace_singleton (c : Char) (new t : Text) :
    Text.replace [c] new t = t.flatMap fun d => if d = c then new else [d] := by
  induction t with
  | nil => rfl
  | cons d r ih =>
    rw [List.flatMap_cons, ← ih]
    by_cases hd : d = c
    · rw [hd, if_pos rfl, ← replace_append_left (List.cons_ne_nil c []), List.singleton_append]
    · have hstart : ¬ [c] <+: d :: r := fun h => hd (List.cons_prefix_cons.1 h).1.symm
      rw [replace_cons hstart, if_neg hd, List.singleton_append]

namespace Literal

/-- A text with backslashes replaced in it, then quotes, then line feeds, then carriage returns. -/
def escapeInTurn (quote : Char) (t : Text) : Text :=
  Text.replace ['\r'] ['\\', 'r'] <| Text.replace ['\n'] ['\\', 'n'] <|
    Text.replace [quote] ['\\', quote] <| Text.replace ['\\'] ['\\', '\\'] t

variable {quote : Char}

/-- The replacements do to each character what escaping does to it, as long as no later one touches
what an earlier one has put in. -/
theorem escape_eq_escapeInTurn (hb : quote ≠ '\\') (hn : quote ≠ '\n') (hr : quote ≠ '\r')
    (t : Text) : escape quote t = escapeInTurn quote t := by
  simp only [escape, escapeInTurn, Text.replace_singleton, List.flatMap_assoc]
  congr 1
  funext c
  unfold escapeChar
  by_cases h1 : c = '\\'
  · simp [h1, Ne.symm hb]
  · by_cases h2 : c = quote
    · simp [h2, hb, hn, hr]
    · by_cases h3 : c = '\n'
      · simp [h3, Ne.symm hn]
      · by_cases h4 : c = '\r'
        · simp [h4, Ne.symm hr]
        · simp [h1, h2, h3, h4]

theorem not_mem_escapeChar {e : Char} (he : e = '\n' ∨ e = '\r') (hq : quote ≠ e) (c : Char) :
    e ∉ escapeChar quote c := by
  have hb : e ≠ '\\' := by rcases he with rfl | rfl <;> decide
  have hn : e ≠ 'n' := by rcases he with rfl | rfl <;> decide
  have hr : e ≠ 'r' := by rcases he with rfl | rfl <;> decide
  unfold escapeChar
  split
  · simp [hb]
  · split
    · simp [hb, Ne.symm hq]
    · split
      · simp [hb, hn]
      · split
        · simp [hb, hr]
        · rename_i h3 h4
          rw [List.mem_singleton]
          rintro rfl
          exact he.elim h3 h4

theorem not_mem_escape {e : Char} (he : e = '\n' ∨ e = '\r') (hq : quote ≠ e) (t : Text) :
    e ∉ escape quote t := by
  intro h
  obtain ⟨c, -, hc⟩ := List.mem_flatMap.1 h
  exact not_mem_escapeChar he hq c hc

/-- The literals of the built-in formats, in double or in single quotes: escaping is the four
replacements in turn, the inside of a literal has no line ends, and whatever follows it, reading the
literal gives back its text and leaves what follows. -/
theorem literals_read_back (h : quote = '\"' ∨ quote = '\'') (t rest : Text) :
    escape quote t = escapeInTurn quote t ∧
      read quote (quote :: escape quote t ++ quote :: rest) = some (t, rest) ∧
      '\n' ∉ escape quote t ∧ '\r' ∉ escape quote t := by
  have hb : quote ≠ '\\' := by rcases h with rfl | rfl <;> decide
  have hn : quote ≠ '\n' := by rcases h with rfl | rfl <;> decide
  have hr : quote ≠ '\r' := by rcases h with rfl | rfl <;> decide
  have hletters : quote ≠ 'n' ∧ quote ≠ 'r' := by rcases h with rfl | rfl <;> decide
  have hread : read quote (quote :: escape quote t ++ quote :: rest) = some (t, rest) := by
    have := read_written ⟨hb, hletters⟩ t rest
    simpa [written] using this
  exact ⟨escape_eq_escapeInTurn hb hn hr t, hread, not_mem_escape (.inl rfl) hn t,
    not_mem_escape (.inr rfl) hr t⟩

/-- A text that ends in a backslash and a quote, before another literal. -/
theorem literals_read_back_of_quoted :
    let t : Text := "C:\\n\r\n\\\""
    let rest : Text := ", \"\\\")"
    escape '\"' t = "C:\\\\n\\r\\n\\\\\\\"".toList ∧
      escape '\"' t = escapeInTurn '\"' t ∧
      read '\"' ('\"' :: escape '\"' t ++ '\"' :: rest) = some (t, rest) ∧
      '\n' ∉ escape '\"' t ∧ '\r' ∉ escape '\"' t := by
  intro t rest
  exact ⟨by decide, literals_read_back (.inl rfl) t rest⟩

end Literal

end TestScribe
