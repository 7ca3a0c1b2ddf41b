import TestScribe.Address
import TestScribe.Format.Dialect
import TestScribe.Format.WebDriver
import TestScribe.Literal
import TestScribe.Naming

/-!
The Java format: JUnit classes that drive a browser through WebDriver.
-/

namespace TestScribe.JUnit

def pad : Text := "        "

def importedTypes : List Text :=
  ["org.openqa.selenium.By",
   "org.openqa.selenium.Dimension",
   "org.openqa.selenium.JavascriptExecutor",
   "org.openqa.selenium.Keys",
   "org.openqa.selenium.WebDriver",
   "org.openqa.selenium.WebElement",
   "org.openqa.selenium.chrome.ChromeDriver",
   "org.openqa.selenium.interactions.Actions",
   "org.openqa.selenium.support.ui.ExpectedConditions",
   "org.openqa.selenium.support.ui.Select",
   "org.openqa.selenium.support.ui.WebDriverWait",
   "java.time.Duration",
   "java.util.HashMap",
   "java.util.Map"]

def testingTypes : List Text :=
  ["org.junit.jupiter.api.AfterEach",
   "org.junit.jupiter.api.BeforeEach",
   "org.junit.jupiter.api.Test"]

def concurrencyTypes : List Text :=
  ["org.junit.jupiter.api.parallel.Execution",
   "org.junit.jupiter.api.parallel.ExecutionMode"]

/-- The types that a file imports, by their full names. -/
def imported (parallel : Bool) : List Text :=
  testingTypes ++ (if parallel then concurrencyTypes else []) ++ importedTypes

def importLine (type : Text) : Text := "import " ++ type ++ ";"

def imports (parallel : Bool) : Text := Text.unlines (
  (imported parallel).map importLine ++ [importLine "static org.junit.jupiter.api.Assertions.*"])

/-- The class name of a unit: it starts with no digit and ends in `Test`. -/
def className (name : Text) : Text :=
  let t := match Naming.pascal name with
    | c :: r => if Naming.isDigit c then '_' :: c :: r else c :: r
    | [] => []
  if "Test".toList.isSuffixOf t then t else t ++ "Test"

def header (asked : Value) (name : Text) (p : Project) (parallel : Bool) : Except Fault Text := do
  let cls := if asked.holds then asked.display else className name
  let url ← Literal.ofValue '\"' p.url
  .ok (Text.unlines (
    (["",
     "/**",
     " * Generated from: " ++ name,
     " */"] : List Text)
    ++ (if parallel then ["@Execution(ExecutionMode.CONCURRENT)".toList] else []) ++
    (["public class " ++ cls ++ " \x7b",
     "    private static final String BASE_URL = " ++ url ++ ";",
     "",
     "    private WebDriver driver;",
     "    private Map<String, Object> vars;",
     "",
     "    @BeforeEach",
     "    public void setUp() \x7b",
     "        driver = new ChromeDriver();",
     "        vars = new HashMap<String, Object>();",
     "    \x7d",
     "",
     "    @AfterEach",
     "    public void tearDown() \x7b",
     "        if (driver != null) \x7b",
     "            driver.quit();",
     "        \x7d",
     "    \x7d",
     ""] : List Text)))

def testHeader (t : TestCase) : Text := Text.unlines
  ["    @Test", "    public void " ++ Naming.camel t.name ++ "() \x7b"]

def filename (name : Text) : Text := className name ++ ".java"

def strategy : Strategy → Text
  | .id => "By.id"
  | .name => "By.name"
  | .css => "By.cssSelector"
  | .xpath => "By.xpath"
  | .link => "By.linkText"
  | .partialLink => "By.partialLinkText"

def locator (v : Value) : Except Fault Text := do
  let l ← Locator.ofValue v
  .ok (strategy l.strategy ++ "(" ++ Literal.written '\"' l.value ++ ")")

def element (v : Value) : Except Fault Text := do
  .ok ("driver.findElement(" ++ (← locator v) ++ ")")

def elements (v : Value) : Except Fault Text := do
  .ok ("driver.findElements(" ++ (← locator v) ++ ").isEmpty()")

def key : KeyPart → Text
  | .key name => WebDriver.keyConstant name
  | .text t => Literal.written '\"' t

def keys (v : Value) : Except Fault Text := do
  match ← KeyPart.ofValue v with
  | [] => .ok "\"\""
  | parts => .ok (Text.join ", " (parts.map key))

def choice (v : Value) : Except Fault Text := do
  let c ← Choice.ofValue v
  match c.kind with
  | .label => .ok ("selectByVisibleText(" ++ Literal.written '\"' c.option ++ ")")
  | .value | .id => .ok ("selectByValue(" ++ Literal.written '\"' c.option ++ ")")
  | .index => .ok ("selectByIndex(" ++ Text.ofInt (← Duration.ofValue (.text c.option)) ++ ")")

def script (v : Value) : Except Fault Text := do
  .ok ("((JavascriptExecutor) driver).executeScript(" ++ (← Literal.ofValue '\"' v) ++ ")")

def toggle (condition : Text) (v : Value) : Except Fault Text := do
  let e ← element v
  .ok (Text.unlines
    [pad ++ "\x7b",
     pad ++ "    WebElement element = " ++ e ++ ";",
     pad ++ "    if (" ++ condition ++ "element.isSelected()) \x7b",
     pad ++ "        element.click();",
     pad ++ "    \x7d",
     pad ++ "\x7d"])

def assertEqual (expected actual : Text) : Text :=
  pad ++ "assertEquals(" ++ expected ++ ", " ++ actual ++ ");"

def step (v : Verb) (c : Command) (p : Project) : Except Fault Text := do
  match v with
  | .visit =>
    let url ← Literal.ofValue '\"' (← Address.resolve c.target p.url)
    .ok (pad ++ "driver.get(" ++ url ++ ");")
  | .click => .ok (pad ++ (← element c.target) ++ ".click();")
  | .doubleClick =>
    let e ← element c.target
    .ok (pad ++ "new Actions(driver).doubleClick(" ++ e ++ ").perform();")
  | .fill =>
    let e ← element c.target
    let t ← Literal.ofValue '\"' c.value
    .ok (pad ++ e ++ ".sendKeys(" ++ t ++ ");")
  | .sendKeys =>
    let ks ← keys c.value
    let e ← element c.target
    .ok (pad ++ e ++ ".sendKeys(" ++ ks ++ ");")
  | .select =>
    let choice ← choice c.value
    let e ← element c.target
    .ok (pad ++ "new Select(" ++ e ++ ")." ++ choice ++ ";")
  | .check => toggle "!" c.target
  | .uncheck => toggle "" c.target
  | .hover =>
    let e ← element c.target
    .ok (pad ++ "new Actions(driver).moveToElement(" ++ e ++ ").perform();")
  | .pause =>
    let ms ← Duration.ofValue (c.target.orElse c.value)
    .ok (Text.unlines
      [pad ++ "try \x7b",
       pad ++ "    Thread.sleep(" ++ Text.ofInt ms ++ ");",
       pad ++ "\x7d catch (InterruptedException e) \x7b",
       pad ++ "    Thread.currentThread().interrupt();",
       pad ++ "\x7d"])
  | .resize =>
    let size ← WindowSize.ofValue c.target
    .ok (pad ++ "driver.manage().window().setSize(new Dimension(" ++ size.width ++ ", "
      ++ size.height ++ "));")
  | .runScript => .ok (pad ++ (← script c.target) ++ ";")
  | .executeScript =>
    let call ← script c.target
    if c.value.holds then
      .ok (pad ++ "vars.put(" ++ (← Literal.ofValue '\"' c.value) ++ ", " ++ call ++ ");")
    else .ok (pad ++ call ++ ";")
  | .assertText =>
    let t ← Literal.ofValue '\"' c.value
    let e ← element c.target
    .ok (assertEqual t (e ++ ".getText()"))
  | .assertTitle => .ok (assertEqual (← Literal.ofValue '\"' c.target) "driver.getTitle()")
  | .assertValue =>
    let t ← Literal.ofValue '\"' c.value
    let e ← element c.target
    .ok (assertEqual t (e ++ ".getAttribute(\"value\")"))
  | .assertPresent => .ok (pad ++ "assertFalse(" ++ (← elements c.target) ++ ");")
  | .assertAbsent => .ok (pad ++ "assertTrue(" ++ (← elements c.target) ++ ");")
  | .waitVisible =>
    let ms ← Duration.ofValue (c.value.orElse (.text "30000"))
    let l ← locator c.target
    .ok (Text.unlines
      [pad ++ "new WebDriverWait(driver, Duration.ofMillis(" ++ Text.ofInt ms ++ "))",
       pad ++ "    .until(ExpectedConditions.visibilityOfElementLocated(" ++ l ++ "));"])
  | .print => .ok (pad ++ "System.out.println(" ++ (← Literal.ofValue '\"' c.target) ++ ");")
  | .close => .ok (pad ++ "driver.close();")
  | .submit => .ok (pad ++ (← element c.target) ++ ".submit();")
  | .store =>
    let name ← Literal.ofValue '\"' c.value
    let t ← Literal.ofValue '\"' c.target
    .ok (pad ++ "vars.put(" ++ name ++ ", " ++ t ++ ");")

def dialect : Dialect where
  language := "java"
  framework := "selenium"
  extension := ".java"
  indent := "    "
  imports := imports
  header := header
  testHeader := testHeader
  step := step
  emptyBody := none
  testFooter := "    \x7d\n"
  footer := "\x7d"
  filename := filename

end TestScribe.JUnit
