import TestScribe.Address
import TestScribe.Format.Dialect
import TestScribe.Format.WebDriver
import TestScribe.Literal
import TestScribe.Naming

/-!
The Python format: pytest classes that drive a browser through WebDriver.
-/

namespace TestScribe.Pytest

def pad : Text := "        "

def imports (_ : Bool) : Text := Text.unlines
  ["import time",
   "",
   "import pytest",
   "from selenium import webdriver",
   "from selenium.webdriver.common.action_chains import ActionChains",
   "from selenium.webdriver.common.by import By",
   "from selenium.webdriver.common.keys import Keys",
   "from selenium.webdriver.support import expected_conditions",
   "from selenium.webdriver.support.ui import Select, WebDriverWait"]

/-- The class name of a unit, unless another one is asked for. -/
def className (asked : Value) (name : Text) : Text :=
  if asked.holds then asked.display else "Test" ++ Naming.pascal name

def parallelNote : Text :=
  "    # Tests in this class are independent; run them with pytest-xdist (pytest -n auto)"

def header (asked : Value) (name : Text) (p : Project) (parallel : Bool) : Except Fault Text := do
  let url ← Literal.ofValue '\"' p.url
  .ok (Text.unlines (
    (["",
     "BASE_URL = " ++ url,
     "",
     "",
     "class " ++ className asked name ++ ":",
     "    \"\"\"Generated from: " ++ Literal.escape '\"' name ++ "\"\"\""] : List Text)
    ++ (if parallel then [parallelNote] else []) ++
    (["",
     "    @pytest.fixture(autouse=True)",
     "    def setup(self):",
     "        self.driver = webdriver.Chrome()",
     "        self.wait = WebDriverWait(self.driver, 10)",
     "        self.vars = \x7b\x7d",
     "        yield",
     "        self.driver.quit()",
     ""] : List Text)))

def testHeader (t : TestCase) : Text := "    def test_" ++ Naming.snake t.name ++ "(self):"

def filename (name : Text) : Text := "test_" ++ Naming.snake name ++ ".py"

def strategy : Strategy → Text
  | .id => "By.ID"
  | .name => "By.NAME"
  | .css => "By.CSS_SELECTOR"
  | .xpath => "By.XPATH"
  | .link => "By.LINK_TEXT"
  | .partialLink => "By.PARTIAL_LINK_TEXT"

def locator (v : Value) : Except Fault Text := do
  let l ← Locator.ofValue v
  .ok (strategy l.strategy ++ ", " ++ Literal.written '\"' l.value)

def element (v : Value) : Except Fault Text := do
  .ok ("self.driver.find_element(" ++ (← locator v) ++ ")")

def elements (v : Value) : Except Fault Text := do
  .ok ("len(self.driver.find_elements(" ++ (← locator v) ++ "))")

def key : KeyPart → Text
  | .key name => WebDriver.keyConstant name
  | .text t => Literal.written '\"' t

def keys (v : Value) : Except Fault Text := do
  match ← KeyPart.ofValue v with
  | [] => .ok "\"\""
  | parts => .ok (Text.join ", " (parts.map key))

/-- The call that makes a choice. The option is counted whatever it is chosen by. -/
def choice (v : Value) : Except Fault Text := do
  let c ← Choice.ofValue v
  let index ← Duration.ofValue (.text c.option)
  match c.kind with
  | .label => .ok ("select_by_visible_text(" ++ Literal.written '\"' c.option ++ ")")
  | .value | .id => .ok ("select_by_value(" ++ Literal.written '\"' c.option ++ ")")
  | .index => .ok ("select_by_index(" ++ Text.ofInt index ++ ")")

def script (v : Value) : Except Fault Text := do
  .ok ("self.driver.execute_script(" ++ (← Literal.ofValue '\"' v) ++ ")")

def variableNamed (v : Value) : Except Fault Text := do
  .ok ("self.vars[" ++ (← Literal.ofValue '\"' v) ++ "]")

def toggle (condition : Text) (v : Value) : Except Fault Text := do
  let e ← element v
  .ok (Text.unlines
    [pad ++ "element = " ++ e, pad ++ "if " ++ condition ++ "element.is_selected():",
     pad ++ "    element.click()"])

def step (v : Verb) (c : Command) (p : Project) : Except Fault Text := do
  match v with
  | .visit =>
    let url ← Literal.ofValue '\"' (← Address.resolve c.target p.url)
    .ok (pad ++ "self.driver.get(" ++ url ++ ")")
  | .click => .ok (pad ++ (← element c.target) ++ ".click()")
  | .doubleClick =>
    let e ← element c.target
    .ok (pad ++ "ActionChains(self.driver).double_click(" ++ e ++ ").perform()")
  | .fill =>
    let e ← element c.target
    let t ← Literal.ofValue '\"' c.value
    .ok (pad ++ e ++ ".send_keys(" ++ t ++ ")")
  | .sendKeys =>
    let e ← element c.target
    let ks ← keys c.value
    .ok (pad ++ e ++ ".send_keys(" ++ ks ++ ")")
  | .select =>
    let choice ← choice c.value
    let e ← element c.target
    .ok (pad ++ "Select(" ++ e ++ ")." ++ choice)
  | .check => toggle "not " c.target
  | .uncheck => toggle "" c.target
  | .hover =>
    let e ← element c.target
    .ok (pad ++ "ActionChains(self.driver).move_to_element(" ++ e ++ ").perform()")
  | .pause =>
    let ms ← Duration.ofValue (c.target.orElse c.value)
    .ok (pad ++ "time.sleep(" ++ Duration.seconds ms ++ ")")
  | .resize =>
    let size ← WindowSize.ofValue c.target
    .ok (pad ++ "self.driver.set_window_size(" ++ size.width ++ ", " ++ size.height ++ ")")
  | .runScript => .ok (pad ++ (← script c.target))
  | .executeScript =>
    let call ← script c.target
    if c.value.holds then .ok (pad ++ (← variableNamed c.value) ++ " = " ++ call)
    else .ok (pad ++ call)
  | .assertText =>
    let e ← element c.target
    let t ← Literal.ofValue '\"' c.value
    .ok (pad ++ "assert " ++ e ++ ".text == " ++ t)
  | .assertTitle => .ok (pad ++ "assert self.driver.title == " ++ (← Literal.ofValue '\"' c.target))
  | .assertValue =>
    let e ← element c.target
    let t ← Literal.ofValue '\"' c.value
    .ok (pad ++ "assert " ++ e ++ ".get_attribute(\"value\") == " ++ t)
  | .assertPresent => .ok (pad ++ "assert " ++ (← elements c.target) ++ " > 0")
  | .assertAbsent => .ok (pad ++ "assert " ++ (← elements c.target) ++ " == 0")
  | .waitVisible =>
    let ms ← Duration.ofValue (c.value.orElse (.text "30000"))
    let l ← locator c.target
    .ok (Text.unlines
      [pad ++ "WebDriverWait(self.driver, " ++ Duration.seconds ms ++ ").until(",
       pad ++ "    expected_conditions.visibility_of_element_located((" ++ l ++ "))",
       pad ++ ")"])
  | .print => .ok (pad ++ "print(" ++ (← Literal.ofValue '\"' c.target) ++ ")")
  | .close => .ok (pad ++ "self.driver.close()")
  | .submit => .ok (pad ++ (← element c.target) ++ ".submit()")
  | .store =>
    let name ← variableNamed c.value
    let t ← Literal.ofValue '\"' c.target
    .ok (pad ++ name ++ " = " ++ t)

def dialect : Dialect where
  language := "python"
  framework := "selenium"
  extension := ".py"
  indent := "    "
  imports := imports
  header := header
  testHeader := testHeader
  step := step
  emptyBody := some (pad ++ "pass")
  testFooter := []
  footer := []
  filename := filename

end TestScribe.Pytest
