import TestScribe.Value.Basic

/-!
The text of a value. At the outside a text stands for itself; inside lists and objects it is quoted.
-/

namespace TestScribe.Value

mutual

/-- A value as it stands inside another one. -/
def quoted : Value → Text
  | null => "None"
  | bool true => "True"
  | bool false => "False"
  | int n => Text.ofInt n
  | float x => x.toText
  | text t => Text.quoted t
  | list items => "[" ++ Text.join ", " (quotedItems items) ++ "]"
  | object fields => "\x7b" ++ Text.join ", " (quotedFields fields) ++ "\x7d"

def quotedItems : List Value → List Text
  | [] => []
  | v :: r => quoted v :: quotedItems r

def quotedFields : List (Text × Value) → List Text
  | [] => []
  | (k, v) :: r => (Text.quoted k ++ ": " ++ quoted v) :: quotedFields r

end

def display : Value → Text
  | text t => t
  | v => quoted v

@[simp] theorem display_text (t : Text) : (text t).display = t := rfl

example : (list [int 1, text "a"]).display = "[1, 'a']" := by decide +kernel
example : (object [("k".toList, null)]).display = "\x7b'k': None\x7d" := by decide +kernel

end TestScribe.Value
