import TestScribe.Text.Case
import TestScribe.Text.Blank
import TestScribe.Text.Digit
import TestScribe.Text.Word
import TestScribe.Text.Printable
import TestScribe.Number.Binary64
import TestScribe.Number.Shortest
import TestScribe.Number.Numeral
import TestScribe.Text.Quoted
import TestScribe.Text.Utf8
import TestScribe.Value.Basic
import TestScribe.Value.Display
import TestScribe.Fault
import TestScribe.Json
import TestScribe.Project.Basic
import TestScribe.Project.Document
import TestScribe.Project.Lookup
import TestScribe.Naming
import TestScribe.Address
import TestScribe.Argument
import TestScribe.Layout
import TestScribe.Literal
import TestScribe.Locator
import TestScribe.Format.Dialect
import TestScribe.Format.JUnit
import TestScribe.Format.Playwright
import TestScribe.Format.Pytest
import TestScribe.Files.Path
import TestScribe.Files.Tree
import TestScribe.Files.Write
import TestScribe.Text.Surrogate
import TestScribe.Writing
import TestScribe.Project.File
import TestScribe.Pattern.Basic
import TestScribe.Pattern.Parser
import TestScribe.Pattern.Search
import TestScribe.Selection
import TestScribe.Output
import TestScribe.Emission
import TestScribe.Modules
import TestScribe.Plugins
import TestScribe.Format.Builtin
import TestScribe.Export.Summary
import TestScribe.Export.Run
import TestScribe.Settings
import TestScribe.Configuration
import TestScribe.Export.Engine
import TestScribe.Reference
import TestScribe.CommandLine.Arguments
import TestScribe.Log.Level
import TestScribe.Log.Operation
import TestScribe.CommandLine.Session
import TestScribe.Main
import TestScribe.Text.CaseFold
import TestScribe.Pattern.Charset
import TestScribe.Pattern.Program
import TestScribe.Proofs.Phases
import TestScribe.Proofs.Files.Growth
import TestScribe.Proofs.Files.Walk
import TestScribe.Proofs.Files.Imprint
import TestScribe.Proofs.Export.History
import TestScribe.Proofs.Export.Steps
import TestScribe.Proofs.Export.Chronicle
import TestScribe.Proofs.Export.Whole
import TestScribe.Proofs.Export.Ownership
import TestScribe.Proofs.Export.Accounting
import TestScribe.Proofs.Export.Isolation
import TestScribe.Proofs.Export.Schedules
import TestScribe.Proofs.Export.Exits
import TestScribe.Proofs.Export.Words
import TestScribe.Proofs.Export.Freeze
import TestScribe.Proofs.Export.Order
import TestScribe.Proofs.Export.Reloading
import TestScribe.Proofs.Files.Rewriting
import TestScribe.Proofs.Export.Repetition
import TestScribe.Proofs.Export.Translation
import TestScribe.Proofs.Text.Fields
import TestScribe.Proofs.Text.Lines
import TestScribe.Proofs.Text.Literals
import TestScribe.Proofs.Naming.Letters
import TestScribe.Proofs.Naming.Words
import TestScribe.Proofs.Naming.Humps
import TestScribe.Proofs.Naming.Initials
import TestScribe.Proofs.Format.Shapes
import TestScribe.Proofs.Export.Containment
import TestScribe.Proofs.Format.Filenames
import TestScribe.Proofs.Export.Turns
import TestScribe.Proofs.Export.Namesakes
import TestScribe.Proofs.Format.Comments
import TestScribe.Proofs.Project.Documents
import TestScribe.Proofs.Json.Reading
import TestScribe.Proofs.Project.Escapes
import TestScribe.Proofs.Format.Layers
import TestScribe.Proofs.Format.Suites
import TestScribe.Proofs.Project.References
import TestScribe.Proofs.Format.Functions
import TestScribe.Proofs.Plugins.Registry
import TestScribe.Proofs.Plugins.History
import TestScribe.Proofs.Plugins.Contributions
import TestScribe.Proofs.Files.Resolving
import TestScribe.Proofs.Plugins.Places
import TestScribe.Proofs.Files.Locations
import TestScribe.Proofs.Plugins.Correction
import TestScribe.Proofs.Plugins.Recorded
import TestScribe.Proofs.Plugins.Escapes
import TestScribe.Proofs.Format.Independence
import TestScribe.Proofs.Format.Coverage
import TestScribe.Proofs.Text.Replacing
import TestScribe.Proofs.Format.Addresses
import TestScribe.Proofs.Format.Spacing
import TestScribe.Proofs.Project.Resolution
import TestScribe.Proofs.CommandLine.Starting
import TestScribe.Proofs.CommandLine.Codes
import TestScribe.Proofs.Project.Citations
import TestScribe.Proofs.Selection
import TestScribe.Proofs.Format.Spellings
import TestScribe.Proofs.Files.Writing
import TestScribe.Proofs.Export.Failures
import TestScribe.Proofs.Export.Pieces
import TestScribe.Proofs.Format.Classes
import TestScribe.Proofs.Format.Imports
import TestScribe.Proofs.Number.Numerals
import TestScribe.Proofs.Number.Rounding
import TestScribe.Proofs.Number.Counting
import TestScribe.Proofs.Format.Choices
import TestScribe.Proofs.Format.Durations
import TestScribe.Proofs.Format.Bodies
import TestScribe.Proofs.Naming.Styles
import TestScribe.Proofs.Text.Occurrences
import TestScribe.Proofs.Format.Selectors
import TestScribe.Proofs.Text.Lowering
import TestScribe.Proofs.Format.Windows
import TestScribe.Proofs.Format.Keys
import TestScribe.Proofs.Log.Scopes
