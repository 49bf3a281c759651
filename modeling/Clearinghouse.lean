import Clearinghouse.Artifact.Basic
import Clearinghouse.Artifact.Flags
import Clearinghouse.Artifact.Record
import Clearinghouse.Artifact.Store
import Clearinghouse.Artifact.Typed
import Clearinghouse.Command.Ending
import Clearinghouse.Command.Failure
import Clearinghouse.Command.Invocation
import Clearinghouse.Command.Product
import Clearinghouse.Command.Survey
import Clearinghouse.Config.Basic
import Clearinghouse.Config.Discovery
import Clearinghouse.Config.Preset
import Clearinghouse.Config.Readable
import Clearinghouse.Config.Record
import Clearinghouse.Config.Sample
import Clearinghouse.Config.Schema
import Clearinghouse.Config.Validation
import Clearinghouse.Coordinate.Basic
import Clearinghouse.Coordinate.PackageType
import Clearinghouse.Curation.Patch
import Clearinghouse.Curation.Step
import Clearinghouse.Error
import Clearinghouse.Fact.Basic
import Clearinghouse.Fact.Copyright
import Clearinghouse.Fact.FileName
import Clearinghouse.Fact.Identifier
import Clearinghouse.Fact.Kind
import Clearinghouse.Fact.Status
import Clearinghouse.Files.Snapshot
import Clearinghouse.Files.Surroundings
import Clearinghouse.Files.Tree
import Clearinghouse.Json.Basic
import Clearinghouse.Json.Fault
import Clearinghouse.Json.Pretty
import Clearinghouse.License.Basic
import Clearinghouse.License.Expression
import Clearinghouse.License.Record
import Clearinghouse.License.Spdx
import Clearinghouse.Logged
import Clearinghouse.Main
import Clearinghouse.PackageUrl
import Clearinghouse.PackageUrl.Percent
import Clearinghouse.Path
import Clearinghouse.Policy.Report
import Clearinghouse.Policy.Rule
import Clearinghouse.Proofs.Artifact.Absorption
import Clearinghouse.Proofs.Artifact.Additions
import Clearinghouse.Proofs.Artifact.Equality
import Clearinghouse.Proofs.Artifact.Forward
import Clearinghouse.Proofs.Artifact.Keeping
import Clearinghouse.Proofs.Artifact.Made
import Clearinghouse.Proofs.Artifact.Merging
import Clearinghouse.Proofs.Artifact.Mirrored
import Clearinghouse.Proofs.Artifact.Reachable
import Clearinghouse.Proofs.Artifact.Refusal
import Clearinghouse.Proofs.Artifact.Representation
import Clearinghouse.Proofs.Artifact.Slots
import Clearinghouse.Proofs.Artifact.Store
import Clearinghouse.Proofs.Artifact.View
import Clearinghouse.Proofs.Command.Product
import Clearinghouse.Proofs.Command.Verdict
import Clearinghouse.Proofs.Config.Validation
import Clearinghouse.Proofs.Coordinate.Purl
import Clearinghouse.Proofs.Curation.Application
import Clearinghouse.Proofs.Curation.Compiling
import Clearinghouse.Proofs.Curation.Overriding
import Clearinghouse.Proofs.Distinct
import Clearinghouse.Proofs.Fact.Copyright
import Clearinghouse.Proofs.Fact.Equality
import Clearinghouse.Proofs.Fact.Identifier
import Clearinghouse.Proofs.Fact.Meeting
import Clearinghouse.Proofs.Fact.Uniting
import Clearinghouse.Proofs.License.Derivation
import Clearinghouse.Proofs.License.Grammar
import Clearinghouse.Proofs.License.Ids
import Clearinghouse.Proofs.License.Leaves
import Clearinghouse.Proofs.License.Nesting
import Clearinghouse.Proofs.License.Normal
import Clearinghouse.Proofs.License.Record
import Clearinghouse.Proofs.License.Rendering
import Clearinghouse.Proofs.License.Reparse
import Clearinghouse.Proofs.License.Scanning
import Clearinghouse.Proofs.License.Tree
import Clearinghouse.Proofs.PackageUrl.Fields
import Clearinghouse.Proofs.PackageUrl.Passing
import Clearinghouse.Proofs.PackageUrl.Plain
import Clearinghouse.Proofs.PackageUrl.Reading
import Clearinghouse.Proofs.PackageUrl.Weight
import Clearinghouse.Proofs.Policy.Compliance
import Clearinghouse.Proofs.Policy.Effective
import Clearinghouse.Proofs.Policy.Exact
import Clearinghouse.Proofs.Policy.Rewritten
import Clearinghouse.Proofs.Policy.Summary
import Clearinghouse.Proofs.Policy.Verdict
import Clearinghouse.Proofs.Reconcile.Apart
import Clearinghouse.Proofs.Reconcile.Conservation
import Clearinghouse.Proofs.Reconcile.Grouping
import Clearinghouse.Proofs.Reconcile.Interleaving
import Clearinghouse.Proofs.Reconcile.Replay
import Clearinghouse.Proofs.Reconcile.Staged
import Clearinghouse.Proofs.Result
import Clearinghouse.Proofs.Selector.Display
import Clearinghouse.Proofs.Selector.Exact
import Clearinghouse.Proofs.Selector.Parsing
import Clearinghouse.Proofs.Selector.Spelling
import Clearinghouse.Proofs.Selector.Unversioned
import Clearinghouse.Proofs.Table.Aliases
import Clearinghouse.Proofs.Table.Block
import Clearinghouse.Proofs.Table.Cells
import Clearinghouse.Proofs.Table.Coordinates
import Clearinghouse.Proofs.Table.Delimiters
import Clearinghouse.Proofs.Table.Licenses
import Clearinghouse.Proofs.Table.Loaded
import Clearinghouse.Proofs.Table.Printing
import Clearinghouse.Proofs.Table.Reread
import Clearinghouse.Proofs.Table.Rewriting
import Clearinghouse.Proofs.Table.RoundTrip
import Clearinghouse.Proofs.Table.Rows
import Clearinghouse.Proofs.Table.Scanning
import Clearinghouse.Proofs.Table.Skipping
import Clearinghouse.Proofs.Text.Case
import Clearinghouse.Proofs.Text.Cutting
import Clearinghouse.Proofs.Text.Lines
import Clearinghouse.Proofs.Text.Trimmed
import Clearinghouse.Reconcile
import Clearinghouse.Selector.Artifact
import Clearinghouse.Selector.Coordinate
import Clearinghouse.Selector.Pattern
import Clearinghouse.Table.Column
import Clearinghouse.Table.Export
import Clearinghouse.Table.Format
import Clearinghouse.Table.Import
import Clearinghouse.Table.Printer
import Clearinghouse.Table.Scanner
import Clearinghouse.Text.Blank
import Clearinghouse.Text.Case
import Clearinghouse.Text.CaseTable
import Clearinghouse.Text.CodePointSet
import Clearinghouse.Text.Hexadecimal
import Clearinghouse.Text.Quoted
import Clearinghouse.Text.Unprintable
import Clearinghouse.Text.Utf8
import Clearinghouse.Warning
import Clearinghouse.Yaml.Document
import Clearinghouse.Yaml.Node
import Clearinghouse.Yaml.Property
import Clearinghouse.Yaml.Scalar
import Clearinghouse.Yaml.Spot
import Clearinghouse.Yaml.Token
