import Rehearsal.Action.Basic
import Rehearsal.Action.Execute
import Rehearsal.Assoc
import Rehearsal.Call
import Rehearsal.CharClass.Age
import Rehearsal.CharClass.Basic
import Rehearsal.CharClass.Break
import Rehearsal.CharClass.Category
import Rehearsal.CharClass.Fold
import Rehearsal.CharClass.Named
import Rehearsal.CharClass.Property
import Rehearsal.CharClass.WritingSystem
import Rehearsal.Charset
import Rehearsal.CommandLine.Arguments
import Rehearsal.CommandLine.Report
import Rehearsal.Condition
import Rehearsal.Config
import Rehearsal.Context
import Rehearsal.Definition.Basic
import Rehearsal.Definition.Json
import Rehearsal.Definition.Load
import Rehearsal.Definition.Reader
import Rehearsal.Dictionary.Basic
import Rehearsal.Double.Arithmetic
import Rehearsal.Double.Basic
import Rehearsal.Double.Decimal
import Rehearsal.Double.Shortest
import Rehearsal.Endpoint
import Rehearsal.Error
import Rehearsal.Expression
import Rehearsal.Fresh
import Rehearsal.Function.Arguments
import Rehearsal.Function.Date
import Rehearsal.Function.Number
import Rehearsal.Function.Random
import Rehearsal.Function.Standard
import Rehearsal.Function.Text
import Rehearsal.Json.Basic
import Rehearsal.Json.Parser
import Rehearsal.Json.Printer
import Rehearsal.Json.Source
import Rehearsal.Library
import Rehearsal.Main
import Rehearsal.Markup
import Rehearsal.Matcher.Basic
import Rehearsal.Matcher.Standard
import Rehearsal.Message.Basic
import Rehearsal.Message.Builder
import Rehearsal.Message.Serialized
import Rehearsal.Path
import Rehearsal.Pattern.Basic
import Rehearsal.Pattern.Bracket
import Rehearsal.Pattern.Bytes
import Rehearsal.Pattern.Escape
import Rehearsal.Pattern.Match
import Rehearsal.Pattern.Normal
import Rehearsal.Pattern.Parser
import Rehearsal.Pattern.Program
import Rehearsal.Pattern.Reader
import Rehearsal.Pattern.Size
import Rehearsal.Processor
import Rehearsal.Proofs.Action.Agenda
import Rehearsal.Proofs.Action.Background
import Rehearsal.Proofs.Action.Conservation
import Rehearsal.Proofs.Action.Deletion
import Rehearsal.Proofs.Action.Disabled
import Rehearsal.Proofs.Action.Setup
import Rehearsal.Proofs.Action.Transparency
import Rehearsal.Proofs.Action.Visit
import Rehearsal.Proofs.Assoc
import Rehearsal.Proofs.Call.Arguments
import Rehearsal.Proofs.Call.Closing
import Rehearsal.Proofs.Call.Composition
import Rehearsal.Proofs.Call.Read
import Rehearsal.Proofs.Call.Split
import Rehearsal.Proofs.Call.Tree
import Rehearsal.Proofs.Charset.Fault
import Rehearsal.Proofs.Charset.Forms
import Rehearsal.Proofs.Charset.Utf16
import Rehearsal.Proofs.Charset.Utf8
import Rehearsal.Proofs.Check
import Rehearsal.Proofs.Condition.ByteOrder
import Rehearsal.Proofs.Condition.Comparison
import Rehearsal.Proofs.Date
import Rehearsal.Proofs.Definition.Acceptance
import Rehearsal.Proofs.Definition.Exchanges
import Rehearsal.Proofs.Definition.Load
import Rehearsal.Proofs.Definition.References
import Rehearsal.Proofs.Dictionary.Translation
import Rehearsal.Proofs.Dictionary.Unapplied
import Rehearsal.Proofs.Double.Digits
import Rehearsal.Proofs.Draw
import Rehearsal.Proofs.Exchange.Movement
import Rehearsal.Proofs.Exchange.Record
import Rehearsal.Proofs.Exchange.RoundTrip
import Rehearsal.Proofs.Exchange.Stages
import Rehearsal.Proofs.Exchange.Way
import Rehearsal.Proofs.Json.Depth
import Rehearsal.Proofs.Json.Equality
import Rehearsal.Proofs.Json.Normal
import Rehearsal.Proofs.Json.Number
import Rehearsal.Proofs.Json.Reading
import Rehearsal.Proofs.Library.Precedence
import Rehearsal.Proofs.Library.Standard
import Rehearsal.Proofs.Markup.Printer
import Rehearsal.Proofs.Matcher.Arguments
import Rehearsal.Proofs.Matcher.Written
import Rehearsal.Proofs.Message.Building
import Rehearsal.Proofs.Message.Ordinary
import Rehearsal.Proofs.Message.Rebuild
import Rehearsal.Proofs.Message.Serialized
import Rehearsal.Proofs.Message.Steps
import Rehearsal.Proofs.Ordinary
import Rehearsal.Proofs.Outcome
import Rehearsal.Proofs.Path.Leaves
import Rehearsal.Proofs.Path.Legible
import Rehearsal.Proofs.Path.Lens
import Rehearsal.Proofs.Path.Loss
import Rehearsal.Proofs.Path.Positions
import Rehearsal.Proofs.Path.Return
import Rehearsal.Proofs.Path.Spelling
import Rehearsal.Proofs.Path.Substitution
import Rehearsal.Proofs.Path.Written
import Rehearsal.Proofs.Processor.Effects
import Rehearsal.Proofs.Processor.Omission
import Rehearsal.Proofs.Processor.Stations
import Rehearsal.Proofs.Resource.Declaration
import Rehearsal.Proofs.Scope.Append
import Rehearsal.Proofs.Scope.Concatenation
import Rehearsal.Proofs.Scope.Evaluation
import Rehearsal.Proofs.Scope.Lookups
import Rehearsal.Proofs.Scope.Nesting
import Rehearsal.Proofs.Scope.Ordinary
import Rehearsal.Proofs.Scope.Purity
import Rehearsal.Proofs.Template.Append
import Rehearsal.Proofs.Template.Balance
import Rehearsal.Proofs.Template.Canonical
import Rehearsal.Proofs.TestCase
import Rehearsal.Proofs.TestCase.Agreement
import Rehearsal.Proofs.TestCase.Drivers
import Rehearsal.Proofs.TestCase.Lifecycle
import Rehearsal.Proofs.TestCase.States
import Rehearsal.Proofs.Text.Blank
import Rehearsal.Proofs.Text.Escape
import Rehearsal.Proofs.Timestamp
import Rehearsal.Proofs.Uuid
import Rehearsal.Proofs.Validation.Conformance
import Rehearsal.Proofs.Validation.Reflexive
import Rehearsal.Proofs.Validation.Template
import Rehearsal.Resource.Basic
import Rehearsal.Resource.Files
import Rehearsal.Scope
import Rehearsal.Script
import Rehearsal.Template
import Rehearsal.TestCase
import Rehearsal.Text.Blank
import Rehearsal.Text.Case
import Rehearsal.Text.CaseRun
import Rehearsal.Text.CaseTable
import Rehearsal.Text.Duration
import Rehearsal.Text.Escape
import Rehearsal.Text.Hexadecimal
import Rehearsal.Text.Search
import Rehearsal.Text.Utf8
import Rehearsal.Text.Whole
import Rehearsal.Text.Word
import Rehearsal.Timestamp
import Rehearsal.Transit
import Rehearsal.Uuid
import Rehearsal.Validation
import Rehearsal.World
import Rehearsal.Yaml.Cursor
import Rehearsal.Yaml.Node
import Rehearsal.Yaml.Reader
import Rehearsal.Yaml.Scalar
import Rehearsal.Yaml.Shape
import Rehearsal.Yaml.Tag
import Rehearsal.Yaml.Token
import Rehearsal.Yaml.Value
