import TestScribe.Value.Basic

/-!
Recorded projects: tests made of commands, suites that refer to tests, and the address at which
everything was recorded. Fields that are only passed on keep whatever value was recorded.
-/

namespace TestScribe

structure Command where
  name : Value := .empty
  target : Value := .empty
  value : Value := .empty
  id : Value := .empty
  comment : Value := .empty
  /-- Alternative locators, each with the strategy that found it. -/
  targets : List (Text × Text) := []

structure TestCase where
  name : Text
  commands : List Command := []
  id : Value := .empty

structure Suite where
  name : Text
  /-- References to tests, by identifier or by name. -/
  tests : List Text := []
  parallel : Bool := false
  persistSession : Bool := false
  timeout : Int := 300
  id : Value := .empty

structure Project where
  name : Value := .empty
  url : Value := .empty
  tests : List TestCase := []
  suites : List Suite := []
  plugins : List Value := []
  urls : List Value := []
  id : Value := .empty
  version : Text := []

end TestScribe
