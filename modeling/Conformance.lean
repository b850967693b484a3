import Conformance.Text.Basic
import Conformance.Text.Letter
import Conformance.Text.Numeral
import Conformance.Text.Printable
import Conformance.Text.Quoted
import Conformance.Number.Binary64
import Conformance.Number.Decimal
import Conformance.Number.Reading
import Conformance.Table
import Conformance.Severity
import Conformance.Value
import Conformance.SourcePath
import Conformance.Seconds
import Conformance.Error
import Conformance.Model.Kind
import Conformance.Model.Statement
import Conformance.Model.Member
import Conformance.Model.Unit
import Conformance.Model.Element
import Conformance.Model.Part
import Conformance.Model.Draft
import Conformance.Location
import Conformance.Finding
import Conformance.Rule.Config
import Conformance.Rule.Context
import Conformance.Rule.Definition
import Conformance.Rule.Script
import Conformance.Rule.Builtin.Ceiling
import Conformance.Rule.Builtin.Shape
import Conformance.Rule.Builtin.DomainLayer
import Conformance.Rule.Builtin
import Conformance.Registry.Option
import Conformance.Registry.Basic
import Conformance.Registry.Kept
import Conformance.Evaluation.Site
import Conformance.Evaluation.Basic
import Conformance.Evaluation.Budget
import Conformance.Evaluation.Pass
import Conformance.Run.Report
import Conformance.Run.Basic
import Conformance.Output.Json
import Conformance.Output.Record
import Conformance.Text.Cased
import Conformance.Text.Lower
import Conformance.Literal.Token
import Conformance.Literal.Basic
import Conformance.Output.Markup
import Conformance.Output.Printer
import Conformance.Output.Console
import Conformance.Output.Style
import Conformance.Terminal.Width
import Conformance.Terminal.Colour
import Conformance.Terminal.StyleName
import Conformance.Terminal.Reader
import Conformance.Terminal.Cell
import Conformance.Terminal.Printer
import Conformance.Toml.Token
import Conformance.Toml.Document
import Conformance.Configuration
import Conformance.Checker
import Conformance.Proofs.Context
import Conformance.Proofs.StableSort
import Conformance.Proofs.Walk
import Conformance.Proofs.Options
import Conformance.Proofs.RegistryInvariant
import Conformance.Proofs.Summary
import Conformance.Proofs.Workers
import Conformance.Proofs.Runs
import Conformance.Proofs.BuiltinSafety
import Conformance.Proofs.AllOrNothing
import Conformance.Proofs.Independence
import Conformance.Proofs.Exemption
import Conformance.Proofs.TimeBudget
import Conformance.Proofs.Outcomes
import Conformance.Proofs.Cancellation
import Conformance.Proofs.ExitStatus
import Conformance.Proofs.Loosening
import Conformance.Proofs.Relaxation
import Conformance.Proofs.Locations
import Conformance.Proofs.Locality
import Conformance.Proofs.RuleReports
import Conformance.Proofs.FirstMentions
import Conformance.Proofs.Layering
import Conformance.Proofs.Measurements
import Conformance.Proofs.Nesting
import Conformance.Proofs.Recognition
import Conformance.Proofs.Precedence
import Conformance.Proofs.Grouping
import Conformance.Proofs.Strictness
import Conformance.Proofs.Refusals
import Conformance.Proofs.Configurable
import Conformance.Proofs.FileLayout
import Conformance.Proofs.FlatKeys
import Conformance.Proofs.JsonReader
import Conformance.Proofs.JsonRoundTrip
import Conformance.Proofs.Records
import Conformance.Proofs.Tallies
import Conformance.Proofs.Comparisons
import Conformance.Proofs.TextLines
import Conformance.Proofs.PlainMarkup
import Conformance.Proofs.TableLayout
import Conformance.Proofs.Terminal
import Conformance.Proofs.ConsoleGroups
import Conformance.Proofs.ConsoleText
import Conformance.Proofs.RuleIdentifiers
import Conformance.Proofs.Objections
import Conformance.Proofs.ElseBranches
import Conformance.Proofs.Readings
import Conformance.Proofs.DomainRules
import Conformance.Proofs.SourceLines
