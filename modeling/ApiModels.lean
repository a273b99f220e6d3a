import ApiModels.Change.Diff
import ApiModels.Change.Severity
import ApiModels.Change.TextStats
import ApiModels.Checksum
import ApiModels.Command.Basic
import ApiModels.Command.Classify
import ApiModels.Command.Generate
import ApiModels.Command.Options
import ApiModels.Command.Prune
import ApiModels.Command.Run
import ApiModels.Compilation.Basic
import ApiModels.Compilation.Context
import ApiModels.Compilation.Description
import ApiModels.Compilation.Equatable
import ApiModels.Compilation.Identifiers
import ApiModels.Compilation.Walk
import ApiModels.Declaration.Basic
import ApiModels.Declaration.Written
import ApiModels.Document
import ApiModels.Failure
import ApiModels.FieldType
import ApiModels.Files.Basic
import ApiModels.Files.Path
import ApiModels.Json.Basic
import ApiModels.Json.Decode
import ApiModels.Json.Fault
import ApiModels.Json.Mismatch
import ApiModels.Json.Printer
import ApiModels.Json.Reader
import ApiModels.Json.Skip
import ApiModels.Json.Sorted
import ApiModels.Json.Typed
import ApiModels.Keyed.Entries
import ApiModels.Keyed.Names
import ApiModels.Malformation
import ApiModels.Naming
import ApiModels.Number.Binary64
import ApiModels.Number.Percent
import ApiModels.Number.Rounding
import ApiModels.Number.Shortest
import ApiModels.Proofs.Change.Addition
import ApiModels.Proofs.Change.Exact
import ApiModels.Proofs.Change.Members
import ApiModels.Proofs.Change.Part
import ApiModels.Proofs.Change.Raw
import ApiModels.Proofs.Change.Releases
import ApiModels.Proofs.Change.Reverse
import ApiModels.Proofs.Change.Script
import ApiModels.Proofs.Change.Wire
import ApiModels.Proofs.Command.Failure
import ApiModels.Proofs.Command.Generate
import ApiModels.Proofs.Command.Steps
import ApiModels.Proofs.Compilation.Account
import ApiModels.Proofs.Compilation.Addition
import ApiModels.Proofs.Compilation.Aliases
import ApiModels.Proofs.Compilation.Comparability
import ApiModels.Proofs.Compilation.Correspondence
import ApiModels.Proofs.Compilation.Description
import ApiModels.Proofs.Compilation.Distinct
import ApiModels.Proofs.Compilation.Equatable
import ApiModels.Proofs.Compilation.Faithful
import ApiModels.Proofs.Compilation.Identifiers
import ApiModels.Proofs.Compilation.Inline
import ApiModels.Proofs.Compilation.Leading
import ApiModels.Proofs.Compilation.Lookups
import ApiModels.Proofs.Compilation.Lowering
import ApiModels.Proofs.Compilation.Markers
import ApiModels.Proofs.Compilation.Members
import ApiModels.Proofs.Compilation.Names
import ApiModels.Proofs.Compilation.Owners
import ApiModels.Proofs.Compilation.Provenance
import ApiModels.Proofs.Compilation.Pruning
import ApiModels.Proofs.Compilation.Recoverable
import ApiModels.Proofs.Compilation.References
import ApiModels.Proofs.Compilation.Restriction
import ApiModels.Proofs.Compilation.Unresolved
import ApiModels.Proofs.Compilation.Wire
import ApiModels.Proofs.Declaration.Written
import ApiModels.Proofs.Except
import ApiModels.Proofs.Files.Frame
import ApiModels.Proofs.Json.Reading
import ApiModels.Proofs.Json.Scalars
import ApiModels.Proofs.Json.Spelling
import ApiModels.Proofs.Json.Typed
import ApiModels.Proofs.Keyed.Lookup
import ApiModels.Proofs.Number.Digits
import ApiModels.Proofs.Pruning.Exact
import ApiModels.Proofs.Pruning.Narrowing
import ApiModels.Proofs.Pruning.References
import ApiModels.Proofs.Pruning.Repeated
import ApiModels.Proofs.Pruning.Sections
import ApiModels.Proofs.Pruning.Security
import ApiModels.Proofs.Pruning.Union
import ApiModels.Proofs.Reference.Closure
import ApiModels.Proofs.Reference.Edges
import ApiModels.Proofs.Reference.Least
import ApiModels.Proofs.Reference.Mention
import ApiModels.Proofs.Reference.Pointer
import ApiModels.Proofs.Reference.Restriction
import ApiModels.Proofs.Report
import ApiModels.Proofs.Shape.Addition
import ApiModels.Proofs.Shape.Denoted
import ApiModels.Proofs.Shape.Literals
import ApiModels.Proofs.Shape.Properties
import ApiModels.Proofs.Shape.Targets
import ApiModels.Proofs.Snapshot
import ApiModels.Proofs.Stored
import ApiModels.Proofs.Swift.CodeLine
import ApiModels.Proofs.Swift.Identifier
import ApiModels.Proofs.Swift.LineReading
import ApiModels.Proofs.Swift.Nesting
import ApiModels.Proofs.Swift.Opaque
import ApiModels.Proofs.Swift.Recovered
import ApiModels.Proofs.Swift.RoundTrip
import ApiModels.Proofs.Swift.Scanning
import ApiModels.Proofs.Swift.Separation
import ApiModels.Proofs.Swift.Writable
import ApiModels.Proofs.Text.Blank
import ApiModels.Proofs.Text.Lines
import ApiModels.Proofs.Text.OneLine
import ApiModels.Proofs.Version.Ascent
import ApiModels.Proofs.Version.Reading
import ApiModels.Pruning.Basic
import ApiModels.Pruning.OperationSet
import ApiModels.Pruning.Security
import ApiModels.Pruning.Summary
import ApiModels.Reference.Basic
import ApiModels.Reference.Graph
import ApiModels.Report.Basic
import ApiModels.Report.Reading
import ApiModels.Settings.Basic
import ApiModels.Settings.Environment
import ApiModels.Settings.KeyPath
import ApiModels.Settings.Loading
import ApiModels.Settings.Saved
import ApiModels.Settings.Tree
import ApiModels.Settings.Typed
import ApiModels.Settings.Written
import ApiModels.Shape.Basic
import ApiModels.Shape.Equality
import ApiModels.Shape.Written
import ApiModels.Snapshot
import ApiModels.Stored
import ApiModels.Swift.LineForm
import ApiModels.Swift.Literal
import ApiModels.Swift.Loading
import ApiModels.Swift.Recovery
import ApiModels.Swift.Scanner
import ApiModels.Swift.Source
import ApiModels.Text.Alphabetic
import ApiModels.Text.Blank
import ApiModels.Text.Case
import ApiModels.Text.Lines
import ApiModels.Text.Lowercase
import ApiModels.Text.Printable
import ApiModels.Text.Quoted
import ApiModels.Text.Ranges
import ApiModels.Text.Utf8
import ApiModels.Toml.Basic
import ApiModels.Toml.Moment
import ApiModels.Toml.Number
import ApiModels.Toml.Printer
import ApiModels.Toml.Reader
import ApiModels.Toml.Text
import ApiModels.Version.Basic
import ApiModels.Version.Order
import ApiModels.Main
