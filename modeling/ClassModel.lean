import ClassModel.Calendar
import ClassModel.Command
import ClassModel.CommandLine.Request
import ClassModel.CommandLine.Scan
import ClassModel.Entries
import ClassModel.Failure
import ClassModel.Files.Basic
import ClassModel.Files.Tree
import ClassModel.Floating.Format
import ClassModel.Floating.Layout
import ClassModel.Floating.Numeral
import ClassModel.Floating.Power
import ClassModel.Floating.Rounding
import ClassModel.Floating.Shortest
import ClassModel.Instance.Basic
import ClassModel.Instance.Construction
import ClassModel.Instance.Data
import ClassModel.Instance.Scalar
import ClassModel.Instance.Value
import ClassModel.Json.Basic
import ClassModel.Json.Reader
import ClassModel.Json.Token
import ClassModel.Json.Tree
import ClassModel.Json.Writer
import ClassModel.Model.Ancestry
import ClassModel.Model.Basic
import ClassModel.Model.Build
import ClassModel.Model.Names
import ClassModel.Program
import ClassModel.Report.Description
import ClassModel.Report.Format
import ClassModel.Report.Lineage
import ClassModel.Report.Listing
import ClassModel.Report.Outcome
import ClassModel.Report.ReverseLink
import ClassModel.Schema.Declaration
import ClassModel.Schema.Document
import ClassModel.Schema.Draft
import ClassModel.Schema.Field
import ClassModel.Settings
import ClassModel.Text.Blank
import ClassModel.Text.Digits
import ClassModel.Text.Quoted
import ClassModel.Text.Ranges
import ClassModel.Text.Word
import ClassModel.Toon
import ClassModel.Main
import ClassModel.Proofs.Except
import ClassModel.Proofs.Firsts
import ClassModel.Proofs.Model.Ancestry
import ClassModel.Proofs.Model.Circle
import ClassModel.Proofs.Schema.Run
import ClassModel.Proofs.Schema.Growth
import ClassModel.Proofs.Schema.Passes
import ClassModel.Proofs.Schema.History
import ClassModel.Proofs.Schema.Accepted
import ClassModel.Proofs.Schema.Refusals
import ClassModel.Proofs.Schema.Openings
import ClassModel.Proofs.Schema.Boundaries
import ClassModel.Proofs.Model.Built
import ClassModel.Proofs.Model.Acceptance
import ClassModel.Proofs.Model.Repeat
import ClassModel.Proofs.Model.Single
import ClassModel.Proofs.Model.Renumber
import ClassModel.Proofs.Model.Moved
import ClassModel.Proofs.Model.Subclass
import ClassModel.Proofs.Model.Visible
import ClassModel.Proofs.Model.DepthFirst
import ClassModel.Proofs.Model.Layers
import ClassModel.Proofs.Guarded.Basic
import ClassModel.Proofs.Guarded.Walk
import ClassModel.Proofs.Guarded.Build
import ClassModel.Proofs.Guarded.Queries
import ClassModel.Proofs.Instance.Construction
import ClassModel.Proofs.Instance.Moved
import ClassModel.Proofs.Model.Reorder
import ClassModel.Proofs.Instance.Typing
import ClassModel.Proofs.Instance.Failures
import ClassModel.Proofs.Guarded.Construction
import ClassModel.Proofs.Text.Digits
import ClassModel.Proofs.Instance.Plain
import ClassModel.Proofs.Instance.RoundTrip
import ClassModel.Proofs.Instance.Entrywise
import ClassModel.Proofs.Instance.Override
import ClassModel.Proofs.Instance.Prebuilt
import ClassModel.Proofs.Instance.Dates
import ClassModel.Proofs.Model.Naming
import ClassModel.Proofs.Model.FieldViews
import ClassModel.Proofs.Model.Lineage
import ClassModel.Proofs.Instance.Integers
import ClassModel.Proofs.Model.Faults
import ClassModel.Proofs.Json.Written
import ClassModel.Proofs.Schema.DocumentText
import ClassModel.Proofs.CommandLine.Grammar
import ClassModel.Proofs.CommandLine.SchemaFiles
import ClassModel.Proofs.Report.ReverseLink
import ClassModel.Proofs.Report.Columns
import ClassModel.Proofs.Schema.Registry
import ClassModel.Proofs.Text.Lines
import ClassModel.Proofs.Report.Outline
import ClassModel.Proofs.Report.InstanceTable
