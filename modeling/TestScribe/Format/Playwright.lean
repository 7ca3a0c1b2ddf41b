import TestScribe.Address
import TestScribe.Argument
import TestScribe.Format.Dialect
import TestScribe.Literal
import TestScribe.Locator
import TestScribe.Naming

/-!
The TypeScript format: Playwright test files.
-/

namespace TestScribe.Playwright

def pad : Text := "    "

def quote : Char := '\x27'

def imports (_ : Bool) : Text := "import \x7b test, expect \x7d from '@playwright/test';"

def header (_ : Value) (name : Text) (p : Project) (parallel : Bool) : Except Fault Text := do
  let url ← Literal.ofValue quote p.url
  .ok (Text.unlines (
    (["",
     "const BASE_URL = " ++ url ++ ";",
     "",
     "test.describe(" ++ Literal.written quote name ++ ", () => \x7b"] : List Text)
    ++ (if parallel then ["  test.describe.configure(\x7b mode: 'parallel' \x7d);".toList]
        else [])
    ++ (["  const vars: Record<string, unknown> = \x7b\x7d;",
     ""] : List Text)))

def testHeader (t : TestCase) : Text :=
  "  test(" ++ Literal.written quote t.name ++ ", async (\x7b page \x7d) => \x7b"

def filename (name : Text) : Text := Naming.kebab name ++ ".spec.ts"

/-- Recorded key names that differ from the names of the keys. -/
def keyNames : List (Text × Text) :=
  [("ENTER", "Enter"), ("TAB", "Tab"), ("ESC", "Escape"), ("ESCAPE", "Escape"),
   ("BACKSPACE", "Backspace"), ("BACK_SPACE", "Backspace"), ("DELETE", "Delete"),
   ("SPACE", "Space"), ("UP", "ArrowUp"), ("ARROW_UP", "ArrowUp"), ("DOWN", "ArrowDown"),
   ("ARROW_DOWN", "ArrowDown"), ("LEFT", "ArrowLeft"), ("ARROW_LEFT", "ArrowLeft"),
   ("RIGHT", "ArrowRight"), ("ARROW_RIGHT", "ArrowRight"), ("HOME", "Home"), ("END", "End"),
   ("PAGE_UP", "PageUp"), ("PAGE_DOWN", "PageDown")]

def keyName (name : Text) : Text := (keyNames.lookup name).getD (Text.title name)

/-- A locator in the selector language of the framework. -/
def selectorText (l : Locator) : Text :=
  match l.strategy with
  | .id => '#' :: l.value
  | .name => "[name=\"" ++ l.value ++ "\"]"
  | .css => l.value
  | .xpath => "xpath=" ++ l.value
  | .link => "text=\"" ++ l.value ++ "\""
  | .partialLink => "text=" ++ l.value

def selector (v : Value) : Except Fault Text := do
  .ok (Literal.written quote (selectorText (← Locator.ofValue v)))

def element (v : Value) : Except Fault Text := do
  .ok ("page.locator(" ++ (← selector v) ++ ")")

def typePart (target : Value) (k : KeyPart) : Except Fault Text := do
  let e ← element target
  match k with
  | .key name => .ok (pad ++ "await " ++ e ++ ".press('" ++ keyName name ++ "');")
  | .text t =>
    .ok (pad ++ "await " ++ e ++ ".pressSequentially(" ++ Literal.written quote t ++ ");")

def choice (v : Value) : Except Fault Text := do
  let c ← Choice.ofValue v
  match c.kind with
  | .label => .ok ("\x7b label: " ++ Literal.written quote c.option ++ " \x7d")
  | .value | .id => .ok (Literal.written quote c.option)
  | .index => .ok ("\x7b index: " ++ Text.ofInt (← Duration.ofValue (.text c.option)) ++ " \x7d")

def script (v : Value) : Text := "await page.evaluate(() => \x7b " ++ v.display ++ " \x7d)"

def variableNamed (v : Value) : Except Fault Text := do
  .ok ("vars[" ++ (← Literal.ofValue quote v) ++ "]")

def expectText (assertion : Text) (c : Command) : Except Fault Text := do
  let e ← element c.target
  let t ← Literal.ofValue quote c.value
  .ok (pad ++ "await expect(" ++ e ++ ")." ++ assertion ++ "(" ++ t ++ ");")

def step (v : Verb) (c : Command) (p : Project) : Except Fault Text := do
  match v with
  | .visit =>
    let url ← Literal.ofValue quote (← Address.resolve c.target p.url)
    .ok (pad ++ "await page.goto(" ++ url ++ ");")
  | .click => .ok (pad ++ "await " ++ (← element c.target) ++ ".click();")
  | .doubleClick => .ok (pad ++ "await " ++ (← element c.target) ++ ".dblclick();")
  | .fill =>
    let e ← element c.target
    let t ← Literal.ofValue quote c.value
    .ok (pad ++ "await " ++ e ++ ".fill(" ++ t ++ ");")
  | .sendKeys =>
    match ← KeyPart.ofValue c.value with
    | [] => .ok (pad ++ "await " ++ (← element c.target) ++ ".focus();")
    | parts => .ok (Text.unlines (← parts.mapM (typePart c.target)))
  | .select =>
    let choice ← choice c.value
    let e ← element c.target
    .ok (pad ++ "await " ++ e ++ ".selectOption(" ++ choice ++ ");")
  | .check => .ok (pad ++ "await " ++ (← element c.target) ++ ".check();")
  | .uncheck => .ok (pad ++ "await " ++ (← element c.target) ++ ".uncheck();")
  | .hover => .ok (pad ++ "await " ++ (← element c.target) ++ ".hover();")
  | .pause =>
    let ms ← Duration.ofValue (c.target.orElse c.value)
    .ok (pad ++ "await page.waitForTimeout(" ++ Text.ofInt ms ++ ");")
  | .resize =>
    let size ← WindowSize.ofValue c.target
    .ok (pad ++ "await page.setViewportSize(\x7b width: " ++ size.width ++ ", height: "
      ++ size.height ++ " \x7d);")
  | .runScript => .ok (pad ++ script c.target ++ ";")
  | .executeScript =>
    if c.value.holds then
      .ok (pad ++ (← variableNamed c.value) ++ " = " ++ script c.target ++ ";")
    else .ok (pad ++ script c.target ++ ";")
  | .assertText => expectText "toHaveText" c
  | .assertTitle =>
    .ok (pad ++ "await expect(page).toHaveTitle(" ++ (← Literal.ofValue quote c.target) ++ ");")
  | .assertValue => expectText "toHaveValue" c
  | .assertPresent =>
    .ok (pad ++ "await expect(" ++ (← element c.target) ++ ").not.toHaveCount(0);")
  | .assertAbsent => .ok (pad ++ "await expect(" ++ (← element c.target) ++ ").toHaveCount(0);")
  | .waitVisible =>
    let ms ← Duration.ofValue (c.value.orElse (.text "30000"))
    let e ← element c.target
    .ok (pad ++ "await " ++ e ++ ".waitFor(\x7b state: 'visible', timeout: " ++ Text.ofInt ms
      ++ " \x7d);")
  | .print => .ok (pad ++ "console.log(" ++ (← Literal.ofValue quote c.target) ++ ");")
  | .close => .ok (pad ++ "await page.close();")
  | .submit =>
    .ok (pad ++ "await " ++ (← element c.target)
      ++ ".evaluate((form: HTMLFormElement) => form.submit());")
  | .store =>
    let name ← variableNamed c.value
    let t ← Literal.ofValue quote c.target
    .ok (pad ++ name ++ " = " ++ t ++ ";")

def dialect : Dialect where
  language := "typescript"
  framework := "playwright"
  extension := ".ts"
  indent := "  "
  imports := imports
  header := header
  testHeader := testHeader
  step := step
  emptyBody := none
  testFooter := "  \x7d);\n"
  footer := "\x7d);"
  filename := filename

end TestScribe.Playwright
