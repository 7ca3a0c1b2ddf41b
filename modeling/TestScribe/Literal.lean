import TestScribe.Fault

/-!
String literals of the generated languages. Backslashes, the surrounding quote and line ends are
escaped; nothing else is. `read` is the left-to-right reader of such literals, and `read_written`
says that it gives back the text and stops at the closing quote.
-/

namespace TestScribe.Literal

def escapeChar (quote c : Char) : Text :=
  if c = '\\' then ['\\', '\\']
  else if c = quote then ['\\', quote]
  else if c = '\n' then ['\\', 'n']
  else if c = '\r' then ['\\', 'r']
  else [c]

def escape (quote : Char) (t : Text) : Text := t.flatMap (escapeChar quote)

@[simp] theorem escape_nil (quote : Char) : escape quote [] = [] := rfl
@[simp] theorem escape_cons (quote c : Char) (t : Text) :
    escape quote (c :: t) = escapeChar quote c ++ escape quote t := by simp [escape]
@[simp] theorem escape_append (quote : Char) (s t : Text) :
    escape quote (s ++ t) = escape quote s ++ escape quote t := by simp [escape]

/-- The text of an escape, after its backslash. -/
def unescape? (quote c : Char) : Option Char :=
  if c = '\\' then some '\\'
  else if c = quote then some quote
  else if c = 'n' then some '\n'
  else if c = 'r' then some '\r'
  else none

/-- Reads up to the closing quote: the text of the literal, and what follows it. -/
def readBody (quote : Char) : Text → Option (Text × Text)
  | [] => none
  | '\\' :: c :: r => do
    let d ← unescape? quote c
    let (s, rest) ← readBody quote r
    some (d :: s, rest)
  | c :: r =>
    if c = quote then some ([], r)
    else if c = '\\' then none
    else (readBody quote r).map fun (s, rest) => (c :: s, rest)

def read (quote : Char) : Text → Option (Text × Text)
  | c :: r => if c = quote then readBody quote r else none
  | [] => none

def written (quote : Char) (t : Text) : Text := quote :: escape quote t ++ [quote]

theorem readBody_escape {quote : Char} (h : quote ≠ '\\' ∧ quote ≠ 'n' ∧ quote ≠ 'r')
    (t rest : Text) :
    readBody quote (escape quote t ++ quote :: rest) = some (t, rest) := by
  obtain ⟨hb, hn, hr⟩ := h
  induction t with
  | nil => cases rest <;> simp [readBody, hb]
  | cons c r ih =>
    by_cases h1 : c = '\\'
    · simp [escapeChar, h1, readBody, unescape?, ih]
    · by_cases h2 : c = quote
      · simp [escapeChar, h2, hb, readBody, unescape?, ih]
      · by_cases h3 : c = '\n'
        · simp [escapeChar, h3, readBody, unescape?, ih, Ne.symm hn, h3 ▸ h2]
        · by_cases h4 : c = '\r'
          · simp [escapeChar, h4, readBody, unescape?, ih, Ne.symm hr, h4 ▸ h2]
          · simp [escapeChar, h1, h2, h3, h4, readBody, ih]

/-- A written literal is read back, whatever follows it. -/
theorem read_written {quote : Char} (h : quote ≠ '\\' ∧ quote ≠ 'n' ∧ quote ≠ 'r') (t rest : Text) :
    read quote (written quote t ++ rest) = some (t, rest) := by
  simp [read, written, readBody_escape h]

/-- The inside of the literal for a recorded value: nothing gives the empty literal. -/
def inside (quote : Char) : Value → Except Fault Text
  | .null => .ok []
  | v => (v.textFor "replace").map (escape quote)

@[simp] theorem inside_text (quote : Char) (t : Text) :
    inside quote (.text t) = .ok (escape quote t) := rfl

def ofValue (quote : Char) (v : Value) : Except Fault Text :=
  (inside quote v).map fun t => quote :: t ++ [quote]

@[simp] theorem ofValue_text (quote : Char) (t : Text) :
    ofValue quote (.text t) = .ok (written quote t) := rfl

end TestScribe.Literal
