import TestScribe.Text.Blank
import TestScribe.Text.Case

/-!
Names made from recorded titles. A title may hold any characters; the names that go into generated
code and file names hold ASCII letters, digits and separators only.
-/

namespace TestScribe.Naming

def isLower (c : Char) : Bool := 'a' ≤ c && c ≤ 'z'
def isUpper (c : Char) : Bool := 'A' ≤ c && c ≤ 'Z'
def isDigit (c : Char) : Bool := '0' ≤ c && c ≤ '9'

/-- ASCII letters and digits. -/
def isPlain (c : Char) : Bool := isLower c || isUpper c || isDigit c

/-- The parts of a title between characters that are neither letters nor digits. -/
def plainWords (title : Text) : List Text := Text.fieldsBy (fun c => !isPlain c) title

theorem fieldsBy_ne_nil {p : Char → Bool} {t w : Text} (h : w ∈ Text.fieldsBy p t) : w ≠ [] := by
  induction t generalizing w with
  | nil => simp [Text.fieldsBy] at h
  | cons c r ih =>
    unfold Text.fieldsBy at h
    split at h
    · exact ih h
    · split at h
      · simp_all
      · split at h
        · simp only [List.mem_cons] at h
          rcases h with rfl | h
          · simp
          · exact ih h
        · cases hf : Text.fieldsBy p (‹Char› :: ‹List Char›) with
          | nil => simp_all
          | cons q qs =>
            simp only [hf, List.modifyHead_cons, List.mem_cons] at h
            rcases h with rfl | h
            · simp
            · exact ih (by simp [hf, h])

/-- An identifier: other characters become underscores, a leading digit gets one in front. -/
def identifier (title : Text) : Text :=
  let t := title.map fun c => if isPlain c || c = '_' then c else '_'
  (match t with
    | c :: r => if isDigit c then '_' :: c :: r else c :: r
    | [] => []).map Char.toLower

/-- `camelCase`; a title without words gives `test`. -/
def camel (title : Text) : Text :=
  match plainWords title with
  | [] => "test"
  | w :: ws => w.map Char.toLower ++ (ws.map Text.title).flatten

def raised : Text → Text
  | [] => []
  | c :: r => c.toUpper :: r

/-- `PascalCase`; a title without words gives `Test`. -/
def pascal (title : Text) : Text :=
  match plainWords title with
  | [] => "Test"
  | ws => (ws.map raised).flatten

/-- Where in a title the search for capitals that start a run of small letters stands: between
runs, at such a capital, or inside the run behind one. -/
inductive RunPlace where
  | outside | capital | inside
  deriving DecidableEq

def startsRun : Text → Bool
  | u :: l :: _ => isUpper u && isLower l
  | _ => false

/-- Puts an underscore before each capital that starts a run of small letters, if a character that
belongs to no earlier run stands before it on the line. -/
def breakRuns (place : RunPlace) : Text → Text
  | [] => []
  | c :: r =>
    if place = .capital then c :: breakRuns .inside r
    else if place = .inside && isLower c then c :: breakRuns .inside r
    else if c ≠ '\n' && startsRun r then c :: '_' :: breakRuns .capital r
    else c :: breakRuns .outside r

/-- Puts an underscore between a small letter or digit and a capital. -/
def breakHumps : Text → Text
  | c :: u :: r =>
    if (isLower c || isDigit c) && isUpper u then c :: '_' :: breakHumps (u :: r)
    else c :: breakHumps (u :: r)
  | t => t

def squeeze : Text → Text
  | '_' :: '_' :: r => squeeze ('_' :: r)
  | c :: r => c :: squeeze r
  | [] => []

/-- `snake_case`; a title without letters and digits gives `test`. -/
def snake (title : Text) : Text :=
  let broken := breakHumps (breakRuns .outside title)
  let plain := broken.map fun c => if isPlain c then c else '_'
  match Text.dropAroundWhile (· = '_') ((squeeze plain).map Char.toLower) with
  | [] => "test"
  | t => t

def kebab (title : Text) : Text := (snake title).map fun c => if c = '_' then '-' else c

example : snake "Check HTTPServer 2Fast" = "check_http_server_2_fast" := by
  decide +kernel
example : camel "log in-page 1a" = "logInPage1A" := by decide +kernel
example : pascal "log in-page 1a" = "LogInPage1a" := by decide +kernel

end TestScribe.Naming
