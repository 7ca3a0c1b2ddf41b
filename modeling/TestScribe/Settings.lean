import TestScribe.Emission
import TestScribe.Selection
import TestScribe.Text.Case

/-!
Defaults that come from the environment. The names of the variables may be written in any case; of
several that are the same but for case, the last one counts. The entries of a file `.env` in the
working directory are variables too. They stand before those of the environment, so that these count
where both have the name.
-/

namespace TestScribe

structure Settings where
  logLevel : Text := "INFO"
  jsonLogs : Bool := false
  defaultMode : Mode := .suite
  defaultFilter : Text := Filter.matchAll

/-- A variable holds a text that does not stand for what is wanted. -/
structure SettingsError where
  name : Text
  value : Text

namespace Settings

/-- The value of a variable. -/
def look (env : List (Text × Text)) (name : Text) : Option Text :=
  (env.reverse.find? fun v => Text.lower v.1 = Text.lower name).map Prod.snd

def trueWords : List Text := ["1", "true", "t", "yes", "y", "on"]
def falseWords : List Text := ["0", "false", "f", "no", "n", "off"]

/-- A letter of the Latin alphabet without accents, in lower case; other characters stay. -/
def plainLower (c : Char) : Char :=
  if 'A' ≤ c ∧ c ≤ 'Z' then Char.ofNat (c.toNat + 32) else c

def toBool? (t : Text) : Option Bool :=
  let t := t.map plainLower
  if trueWords.contains t then some true else if falseWords.contains t then some false else none

def setting {α : Type} (env : List (Text × Text)) (name : Text) (default : α)
    (read : Text → Option α) : Except SettingsError α :=
  match look env name with
  | none => .ok default
  | some t =>
    match read t with
    | some a => .ok a
    | none => .error ⟨name, t⟩

def ofEnvironment (env : List (Text × Text)) : Except SettingsError Settings := do
  let logLevel ← setting env "SIDE_EXPORT_LOG_LEVEL" "INFO".toList some
  let jsonLogs ← setting env "SIDE_EXPORT_JSON_LOGS" false toBool?
  let defaultMode ← setting env "SIDE_EXPORT_DEFAULT_MODE" .suite Mode.ofName?
  let defaultFilter ← setting env "SIDE_EXPORT_DEFAULT_FILTER" Filter.matchAll some
  return { logLevel, jsonLogs, defaultMode, defaultFilter }

end Settings

end TestScribe
