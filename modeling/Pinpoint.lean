import Pinpoint.CommandLine
import Pinpoint.CommandLine.Action
import Pinpoint.CommandLine.Init
import Pinpoint.CommandLine.Open
import Pinpoint.CommandLine.Options
import Pinpoint.CommandLine.Questions
import Pinpoint.CommandLine.Resolve
import Pinpoint.Console
import Pinpoint.Console.Table
import Pinpoint.Console.Wrap
import Pinpoint.Decimal
import Pinpoint.Decimal.Binary64
import Pinpoint.Decimal.Shortest
import Pinpoint.Editor
import Pinpoint.Failure
import Pinpoint.FileSystem
import Pinpoint.FileSystem.Answers
import Pinpoint.FileSystem.Errno
import Pinpoint.FileSystem.Table
import Pinpoint.FileSystem.Tree
import Pinpoint.FileSystem.Tree.Canonical
import Pinpoint.FileSystem.Tree.Entries
import Pinpoint.FileSystem.Tree.Walk
import Pinpoint.Json
import Pinpoint.Logging
import Pinpoint.Main
import Pinpoint.Markup
import Pinpoint.Markup.Color
import Pinpoint.Markup.Emoji
import Pinpoint.Markup.Handler
import Pinpoint.Markup.Handler.Escape
import Pinpoint.Markup.Handler.Expr
import Pinpoint.Markup.Handler.Fault
import Pinpoint.Markup.Handler.Grammar
import Pinpoint.Markup.Handler.Literal
import Pinpoint.Markup.Handler.Reader
import Pinpoint.Markup.Handler.Token
import Pinpoint.Markup.Style
import Pinpoint.Parameter
import Pinpoint.Path
import Pinpoint.Proofs.FileSystem.Findings
import Pinpoint.Proofs.Resolver.Straight
import Pinpoint.Proofs.Suffix.Grammar
import Pinpoint.Proofs.Suffix.Number
import Pinpoint.Record
import Pinpoint.Resolver
import Pinpoint.Settings
import Pinpoint.Shell
import Pinpoint.Specifier
import Pinpoint.Suffix
import Pinpoint.Template
import Pinpoint.Template.Field
import Pinpoint.Template.Kind
import Pinpoint.Template.Layout
import Pinpoint.Template.Member
import Pinpoint.Template.Members
import Pinpoint.Template.Spec
import Pinpoint.Template.Value
import Pinpoint.Text
import Pinpoint.Text.Blank
import Pinpoint.Text.Case
import Pinpoint.Text.CellWidth
import Pinpoint.Text.CodePoint
import Pinpoint.Text.Digit
import Pinpoint.Text.Hex
import Pinpoint.Text.Integer
import Pinpoint.Text.Name
import Pinpoint.Text.Pattern
import Pinpoint.Text.Printable
import Pinpoint.Text.Quoted
import Pinpoint.Text.Ranges
import Pinpoint.Text.Utf8
import Pinpoint.Toml.Document
import Pinpoint.Toml.Fault
import Pinpoint.Toml.Moment
import Pinpoint.Toml.Number
import Pinpoint.Toml.Reader
import Pinpoint.Toml.Str
import Pinpoint.Toml.Value
import Pinpoint.Yaml
import Pinpoint.Yaml.Reserved
import Pinpoint.Yaml.Scalar
import Pinpoint.Proofs.Resolver.Readings
import Pinpoint.Proofs.Resolver.Denotation
import Pinpoint.Proofs.Resolver.Diagnosis
import Pinpoint.Proofs.Path.Characters
import Pinpoint.Proofs.Resolver.Batch
import Pinpoint.Proofs.Path.Reading
import Pinpoint.Proofs.Resolver.RoundTrip
import Pinpoint.Proofs.Resolver.Spelling
import Pinpoint.Proofs.FileSystem.Tree.Places
import Pinpoint.Proofs.FileSystem.Tree.Canonical
import Pinpoint.Proofs.FileSystem.Tree.Agreement
import Pinpoint.Proofs.FileSystem.Tree.Traversal
import Pinpoint.Proofs.FileSystem.Tree.Outline
import Pinpoint.Proofs.Text.Hex
import Pinpoint.Proofs.Text.Replace
import Pinpoint.Proofs.Text.Utf8
import Pinpoint.Proofs.Json.Escape
import Pinpoint.Proofs.Toml.Quoted
import Pinpoint.Proofs.Toml.Lines
import Pinpoint.Proofs.Toml.Leaves
import Pinpoint.Proofs.Toml.Overlong
import Pinpoint.Proofs.Settings.Default
import Pinpoint.Proofs.FileSystem.Tree.Changes
import Pinpoint.Proofs.Settings.Create
import Pinpoint.Proofs.Markup.Pieces
import Pinpoint.Proofs.Markup.Printing
import Pinpoint.Proofs.Markup.Verbatim
import Pinpoint.Proofs.Markup.Literal
import Pinpoint.Proofs.Console.Lines
import Pinpoint.Proofs.CommandLine.Action
import Pinpoint.Proofs.CommandLine.Init
import Pinpoint.Proofs.CommandLine.Resolve
import Pinpoint.Proofs.CommandLine.Text
import Pinpoint.Proofs.Json.Reader
import Pinpoint.Proofs.CommandLine.Records
import Pinpoint.Proofs.FileSystem.Probing
import Pinpoint.Proofs.Resolver.Candidates
import Pinpoint.Proofs.Resolver.Absence
import Pinpoint.Proofs.Resolver.Locality
import Pinpoint.Proofs.Resolver.MoreFiles
import Pinpoint.Resolver.Workers
import Pinpoint.Proofs.Resolver.Workers
import Pinpoint.Proofs.Failing
import Pinpoint.Proofs.Text.CodePoint
import Pinpoint.Proofs.Shell
import Pinpoint.Proofs.Template.Faults
import Pinpoint.Proofs.Template.Accessors
import Pinpoint.Proofs.Template.Layout
import Pinpoint.Proofs.Template.Overreach
import Pinpoint.Proofs.Editor
import Pinpoint.Proofs.Editor.Substitution
import Pinpoint.Proofs.Editor.Members
import Pinpoint.Proofs.CommandLine.Talking
import Pinpoint.Proofs.CommandLine.Frame
import Pinpoint.Proofs.CommandLine.Open
import Pinpoint.Proofs.CommandLine.Reporting
import Pinpoint.Proofs.CommandLine.DryRun
import Pinpoint.Proofs.FileSystem.Tree.LastEntry
import Pinpoint.Proofs.Settings.Entry
import Pinpoint.Proofs.Settings.Unreadable
import Pinpoint.Proofs.CommandLine.Replace
import Pinpoint.Proofs.CommandLine.Started
import Pinpoint.Proofs.CommandLine.Startup
import Pinpoint.Proofs.CommandLine.Explicit
import Pinpoint.Proofs.Suffix.Captures
import Pinpoint.Proofs.Suffix.Numeral
