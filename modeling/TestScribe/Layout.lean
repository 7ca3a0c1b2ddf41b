import TestScribe.Text.Blank

/-!
The whitespace of generated files: lines end in no blanks, the text neither begins nor ends with a
blank line, runs of blank lines are limited, and the last line is ended.
-/

namespace TestScribe.Layout

/-- Languages whose blocks are set off by indentation. -/
def isIndented (language : Text) : Bool := language = "python".toList || language = "ruby".toList

def blankLimit (language : Text) : Nat := if isIndented language then 2 else 1

/-- Drops blank lines before the first other line, and from each later run those beyond the limit.
`started` tells that another line came before, `blanks` counts the blank lines since. -/
def limit (most : Nat) (started : Bool) (blanks : Nat) : List Text → List Text
  | [] => []
  | l :: r =>
    if l = [] then
      if started && blanks < most then [] :: limit most started (blanks + 1) r
      else limit most started (blanks + 1) r
    else l :: limit most true 0 r

def arrange (most : Nat) (ls : List Text) : List Text :=
  Text.dropEndWhile List.isEmpty (limit most false 0 (ls.map Text.trimEnd))

def format (language code : Text) : Text :=
  Text.unlines (arrange (blankLimit language) (Text.lines code)) ++ ['\n']

example : format "java" "\n\na  \n\n\n\nb\n\n" = "a\n\nb\n" := by decide +kernel
example : format "python" "a\n\n\n\nb" = "a\n\n\nb\n" := by decide +kernel
example : format "java" " \n " = "\n" := by decide +kernel

end TestScribe.Layout
