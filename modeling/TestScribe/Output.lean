import TestScribe.Format.Dialect
import TestScribe.Files.Path
import TestScribe.Text.Surrogate

/-!
What a format may hand back for a unit, and where the file that comes of it goes. Only a text with a
name that is not blank and stays inside the output directory becomes a file.
-/

namespace TestScribe

/-- What a format hands back: a file whose fields nobody has looked at, a value, or anything else,
of which only the name of its kind counts. -/
inductive Answer where
  | file (body filename : Value)
  /-- A file with a text that may have halves of surrogate pairs in it. -/
  | raw (body : RawText) (filename : Value)
  | value (v : Value)
  | other (kind : Text)

/-- The file of a unit, whose text it may not be possible to write. -/
structure UnitFile where
  body : RawText
  filename : Text

inductive EmissionError where
  | notAFile (found : Text) (unit : Text)
  | bodyNotText (unit : Text)
  | noFilename (unit : Text)
  | outside (filename : Text)
  | claimed (path : Path)
  deriving DecidableEq

def EmissionError.message : EmissionError → Text
  | notAFile found unit =>
    "Format returned " ++ found ++ " for '" ++ unit ++ "', expected body and filename"
  | bodyNotText unit => "Format returned a non-string body for '" ++ unit ++ "'"
  | noFilename unit => "Format returned no filename for '" ++ unit ++ "'"
  | outside filename => "Filename '" ++ filename ++ "' must stay inside the output directory"
  | claimed path => "Another unit already writes to " ++ path.toText

namespace Answer

def named (unit : Text) (body : RawText) : Value → Except EmissionError UnitFile
  | .text filename =>
    if Text.allBlank filename then .error (.noFilename unit) else .ok ⟨body, filename⟩
  | _ => .error (.noFilename unit)

def check (unit : Text) : Value → Value → Except EmissionError UnitFile
  | .text body, filename => named unit body filename
  | _, _ => .error (.bodyNotText unit)

/-- The file in an answer for a unit; an object with the two fields will do. -/
def accept (unit : Text) : Answer → Except EmissionError UnitFile
  | file body filename => check unit body filename
  | raw body filename => named unit body filename
  | value (.object fields) =>
    match Value.field? fields "body", Value.field? fields "filename" with
    | some body, some filename => check unit body filename
    | _, _ => .error (.notAFile Kind.object.name unit)
  | value v => .error (.notAFile v.kind.name unit)
  | other kind => .error (.notAFile kind unit)

theorem check_text (unit body filename : Text) :
    check unit (.text body) (.text filename) =
      if Text.allBlank filename then .error (.noFilename unit) else .ok ⟨body, filename⟩ := rfl

end Answer

def outputPath (directory filename : Text) : Except EmissionError Path :=
  let p := Path.ofText filename
  if p.isAbsolute || p.parts.contains ".." then .error (.outside filename)
  else .ok ((Path.ofText directory).join p)

theorem of_outputPath {directory filename : Text} {p : Path}
    (h : outputPath directory filename = .ok p) :
    "..".toList ∉ Path.partsOf filename ∧
      p = ⟨(Path.ofText directory).slashes, Path.partsOf directory ++ Path.partsOf filename⟩ := by
  unfold outputPath at h
  simp only at h
  split at h
  · simp at h
  · rename_i hn
    simp only [Bool.or_eq_true, not_or, Bool.not_eq_true, Path.ofText] at hn
    simp only [Except.ok.injEq] at h
    subst h
    refine ⟨fun hm => ?_, by simp [Path.join, Path.ofText, hn.1]⟩
    have : (Path.partsOf filename).contains "..".toList = true := by simpa using hm
    exact absurd (this.symm.trans hn.2) (by simp)

end TestScribe
