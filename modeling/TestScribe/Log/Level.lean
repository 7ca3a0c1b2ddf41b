import TestScribe.Fault

/-!
Log levels. A level is known by a name in capitals, and may be written in any case.
-/

namespace TestScribe

inductive LogLevel where
  | unset | debug | info | warning | error | critical
  deriving DecidableEq

namespace LogLevel

def names : List (Text × LogLevel) :=
  [("CRITICAL", critical), ("DEBUG", debug), ("ERROR", error), ("FATAL", critical),
   ("INFO", info), ("NOTSET", unset), ("WARN", warning), ("WARNING", warning)]

/-- Characters other than plain letters that have plain letters for their capitals. -/
def odd : List (Char × Text) :=
  [('ß', "SS"), ('ı', "I"), ('ſ', "S"), ('ﬀ', "FF"), ('ﬁ', "FI"), ('ﬂ', "FL"), ('ﬃ', "FFI"),
   ('ﬄ', "FFL"), ('ﬅ', "ST"), ('ﬆ', "ST")]

def capitals (c : Char) : Text :=
  if 'a' ≤ c ∧ c ≤ 'z' then [Char.ofNat (c.toNat - 32)] else (odd.lookup c).getD [c]

/-- The level of a text. Two other names are taken for a level at first and found not to be one. -/
def ofText (t : Text) : Except Fault LogLevel :=
  let name := t.flatMap capitals
  match names.lookup name with
  | some l => .ok l
  | none =>
    if name = "BASIC_FORMAT".toList then
      .error (.raised .value "Unknown level: '%(levelname)s:%(name)s:%(message)s'")
    else if name = "_STYLES".toList then
      .error (.raised .type "Level not an integer or a valid string")
    else .error (.raised .attribute ("there is no log level " ++ Text.quoted name))

end LogLevel

end TestScribe
