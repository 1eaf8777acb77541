import ClientGen.CommandLine.Command
import ClientGen.CommandLine.Run
import ClientGen.CommandLine.Switch
import ClientGen.Console.Markup
import ClientGen.Console.Table
import ClientGen.Declaration.Basic
import ClientGen.Declaration.Client
import ClientGen.Declaration.Enum
import ClientGen.Declaration.Middleware
import ClientGen.Declaration.Structure
import ClientGen.Dependency.Basic
import ClientGen.Dependency.Imports
import ClientGen.Dependency.Known
import ClientGen.Entries
import ClientGen.Failure
import ClientGen.File.Fault
import ClientGen.File.Path
import ClientGen.File.Tree
import ClientGen.Generation.Delivery
import ClientGen.Generation.Generator
import ClientGen.Generation.Manifest
import ClientGen.Generation.Report
import ClientGen.Generation.Run
import ClientGen.Generation.Units
import ClientGen.Integration.Basic
import ClientGen.Integration.Fault
import ClientGen.Integration.Import
import ClientGen.Integration.Registry
import ClientGen.Json.Basic
import ClientGen.Json.Decimal
import ClientGen.Json.Dictionary
import ClientGen.Json.Parser
import ClientGen.Json.Printer
import ClientGen.Log
import ClientGen.Main
import ClientGen.Malformed
import ClientGen.Model.Basic
import ClientGen.Model.Closure
import ClientGen.Model.Document
import ClientGen.Model.Fault
import ClientGen.Name.Case
import ClientGen.Name.Keyword
import ClientGen.Name.PackageName
import ClientGen.Name.Sanitizer
import ClientGen.Settings.Basic
import ClientGen.Settings.Fault
import ClientGen.Settings.File
import ClientGen.Settings.Validation
import ClientGen.Shape.Basic
import ClientGen.Shape.EnumValue
import ClientGen.Shape.Id
import ClientGen.Shape.Protocol
import ClientGen.Source.Address
import ClientGen.Source.Basic
import ClientGen.Source.Fault
import ClientGen.Source.Url
import ClientGen.Symbol.Basic
import ClientGen.Symbol.Known
import ClientGen.Symbol.OfShape
import ClientGen.Symbol.Table
import ClientGen.Template.Basic
import ClientGen.Template.Fault
import ClientGen.Template.Value
import ClientGen.Text.Casing
import ClientGen.Text.Casing.Table
import ClientGen.Text.CharacterSet
import ClientGen.Text.Class.Blank
import ClientGen.Text.Class.Capital
import ClientGen.Text.Class.Digit
import ClientGen.Text.Class.Identifier
import ClientGen.Text.Class.Printable
import ClientGen.Text.Class.Width
import ClientGen.Text.Class.Word
import ClientGen.Text.Notation
import ClientGen.Text.Quoted
import ClientGen.Text.Split
import ClientGen.Text.Wrap
import ClientGen.Writer.Basic
import ClientGen.Writer.Layout
import ClientGen.Writer.Phrase
import ClientGen.Writer.Step
import ClientGen.Proofs.Agreement
import ClientGen.Proofs.Declaration.Comparison
import ClientGen.Proofs.Declaration.Parts
import ClientGen.Proofs.Dependency.Imports
import ClientGen.Proofs.Generation.Comparison
import ClientGen.Proofs.Generation.Completion
import ClientGen.Proofs.Generation.Declared
import ClientGen.Proofs.Generation.Documentation
import ClientGen.Proofs.Generation.Files
import ClientGen.Proofs.Generation.Generator
import ClientGen.Proofs.Generation.Imports
import ClientGen.Proofs.Generation.Inventory
import ClientGen.Proofs.Generation.Locality
import ClientGen.Proofs.Generation.Matching
import ClientGen.Proofs.Generation.Names
import ClientGen.Proofs.Generation.Order
import ClientGen.Proofs.Generation.Outline
import ClientGen.Proofs.Generation.References
import ClientGen.Proofs.Generation.Requirements
import ClientGen.Proofs.Generation.Reserve
import ClientGen.Proofs.Model.Closure
import ClientGen.Proofs.Model.Comparison
import ClientGen.Proofs.Name.Sanitizer
import ClientGen.Proofs.Shape.Comparison
import ClientGen.Proofs.Shape.Documentation
import ClientGen.Proofs.Shape.EnumValue
import ClientGen.Proofs.Shape.Id
import ClientGen.Proofs.Success
import ClientGen.Proofs.Symbol.Bound
import ClientGen.Proofs.Symbol.Comparison
import ClientGen.Proofs.Symbol.OfShape
import ClientGen.Proofs.Symbol.Table
import ClientGen.Proofs.Template.Rendering
import ClientGen.Proofs.Text.Code
import ClientGen.Proofs.Text.Notation
import ClientGen.Proofs.Writer.Printing
import ClientGen.Proofs.Writer.Rendering
import ClientGen.Proofs.Writer.Step
import ClientGen.Proofs.Writer.View
import ClientGen.Proofs.Generation.Aliases
import ClientGen.Proofs.Writer.Ending
import ClientGen.Proofs.Generation.Failing
import ClientGen.Proofs.Generation.Collisions
import ClientGen.Proofs.Model.Document
import ClientGen.Proofs.Model.References
import ClientGen.Proofs.Symbol.Failing
import ClientGen.Proofs.Generation.Reports
import ClientGen.Proofs.Text.Literal
import ClientGen.Proofs.Declaration.Method
import ClientGen.Proofs.Declaration.Client
import ClientGen.Proofs.Generation.Middleware
import ClientGen.Proofs.Generation.Contributions
import ClientGen.Proofs.Generation.Lookups
import ClientGen.Proofs.Model.Search
import ClientGen.Proofs.Symbol.History
import ClientGen.Proofs.File.Tree
import ClientGen.Proofs.Generation.Delivery
import ClientGen.Proofs.Generation.Paths
import ClientGen.Proofs.CommandLine.Generate
import ClientGen.Proofs.Text.Filling
import ClientGen.Proofs.Writer.Comments
import ClientGen.Proofs.Text.Ascii
import ClientGen.Proofs.Dependency.Listing
import ClientGen.Proofs.Writer.Arguments
import ClientGen.Proofs.Symbol.Elements
import ClientGen.Proofs.Symbol.Type
import ClientGen.Proofs.Name.Style
import ClientGen.Proofs.Text.Letter
import ClientGen.Proofs.Text.Casing
import ClientGen.Proofs.Shape.Label
import ClientGen.Proofs.Writer.Lines
import ClientGen.Proofs.Declaration.Enum
import ClientGen.Proofs.Name.Clash
import ClientGen.Proofs.Shape.Fields
import ClientGen.Proofs.Declaration.Structure
import ClientGen.Proofs.Declaration.Error
import ClientGen.Proofs.Shape.Reading
import ClientGen.Proofs.Json.Decimal
import ClientGen.Proofs.Json.Number
import ClientGen.Proofs.Json.Proper
import ClientGen.Proofs.Json.Reading
import ClientGen.Proofs.Json.Dictionary
import ClientGen.Proofs.File.Text
import ClientGen.Proofs.Json.Storing
import ClientGen.Proofs.Settings.Loading
import ClientGen.Proofs.Settings.Saving
import ClientGen.Proofs.Shape.Protocol
import ClientGen.Proofs.Name.Stability
import ClientGen.Proofs.Settings.Precedence
import ClientGen.Proofs.Source.Loading
import ClientGen.Proofs.Model.Form
import ClientGen.Proofs.Text.Trim
import ClientGen.Proofs.Text.Ink
import ClientGen.Proofs.Generation.PackageDocs
import ClientGen.Proofs.Update
import ClientGen.Proofs.Integration.Registering
import ClientGen.Proofs.Generation.Dispatch
import ClientGen.Proofs.Text.Lowering
import ClientGen.Proofs.Text.Pattern
import ClientGen.Proofs.Name.Boundary
