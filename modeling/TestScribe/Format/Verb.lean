import TestScribe.Value.Basic

/-!
The recorded commands that every built-in format can translate.
-/

namespace TestScribe

inductive Verb where
  | visit | click | doubleClick | fill | sendKeys | select | check | uncheck | hover | pause
  | resize | runScript | executeScript | assertText | assertTitle | assertValue
  | assertPresent | assertAbsent | waitVisible | print | close | submit | store
  deriving DecidableEq

namespace Verb

def names : List (Text × Verb) :=
  [("open", visit), ("click", click), ("clickAt", click), ("doubleClick", doubleClick),
   ("doubleClickAt", doubleClick), ("type", fill), ("sendKeys", sendKeys), ("select", select),
   ("check", check), ("uncheck", uncheck), ("mouseOver", hover), ("pause", pause),
   ("setWindowSize", resize), ("runScript", runScript), ("executeScript", executeScript),
   ("assertText", assertText), ("verifyText", assertText), ("assertTitle", assertTitle),
   ("assertValue", assertValue), ("assertElementPresent", assertPresent),
   ("assertElementNotPresent", assertAbsent), ("waitForElementVisible", waitVisible),
   ("echo", print), ("close", close), ("submit", submit), ("store", store)]

def ofName? (name : Text) : Option Verb := names.lookup name

/-- The verb of a recorded name; only texts name verbs. -/
def ofValue? : Value → Option Verb
  | .text name => ofName? name
  | _ => none

example : ofName? "clickAt" = some click ∧ ofName? "clickat" = none := by decide +kernel

end Verb

end TestScribe
