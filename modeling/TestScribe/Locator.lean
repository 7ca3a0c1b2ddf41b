import TestScribe.Fault

/-!
Locators: how a recorded step points at an element of the page. A locator names its strategy before
an equals sign; without a known one it is a path expression if it starts like one, and else a style
selector.
-/

namespace TestScribe

inductive Strategy where
  | id | name | css | xpath | link | partialLink
  deriving DecidableEq

namespace Strategy

def marks : List (Text × Strategy) :=
  [("id", id), ("name", name), ("css", css), ("xpath", xpath), ("linkText", link), ("link", link),
   ("partialLinkText", partialLink)]

def ofMark? (mark : Text) : Option Strategy := marks.lookup mark

def label : Strategy → Text
  | id => "id"
  | name => "name"
  | css => "css"
  | xpath => "xpath"
  | link => "link"
  | partialLink => "partial_link"

end Strategy

structure Locator where
  strategy : Strategy
  value : Text
  deriving DecidableEq

namespace Locator

def ofText (t : Text) : Locator :=
  if "//".toList.isPrefixOf t || "(//".toList.isPrefixOf t then ⟨.xpath, t⟩
  else
    match Text.cut? '=' t with
    | some (mark, rest) =>
      match Strategy.ofMark? mark with
      | some s => ⟨s, rest⟩
      | none => ⟨.css, t⟩
    | none => ⟨.css, t⟩

def ofValue (v : Value) : Except Fault Locator := (v.textFor "startswith").map ofText

@[simp] theorem ofValue_text (t : Text) : ofValue (.text t) = .ok (ofText t) := rfl

example : ofText "id=login" = ⟨.id, "login"⟩ := by decide +kernel
example : ofText "//div[@id='a']" = ⟨.xpath, "//div[@id='a']"⟩ := by decide +kernel
example : ofText "a=b" = ⟨.css, "a=b"⟩ := by decide +kernel

end Locator

end TestScribe
