import TestScribe.Argument
import TestScribe.Locator

/-!
What the formats that drive a browser through WebDriver have in common: the names of keys.
-/

namespace TestScribe.WebDriver

/-- Recorded key names that differ from the names of the key constants. -/
def renamedKeys : List (Text × Text) :=
  [("ESC", "ESCAPE"), ("ARROW_UP", "UP"), ("ARROW_DOWN", "DOWN")]

def keyConstant (name : Text) : Text := "Keys." ++ (renamedKeys.lookup name).getD name

end TestScribe.WebDriver
