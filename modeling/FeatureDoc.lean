import FeatureDoc.Text.Quoted
import FeatureDoc.Text.Word
import FeatureDoc.Text.Margin
import FeatureDoc.Line.Comment
import FeatureDoc.Line.Tags
import FeatureDoc.Line.Cells
import FeatureDoc.Line.Kind
import FeatureDoc.Decimal.Style
import FeatureDoc.Decimal.Reader
import FeatureDoc.Json.Writer
import FeatureDoc.Json.Reader
import FeatureDoc.Code.Basic
import FeatureDoc.Param.Scan
import FeatureDoc.Pattern.Basic
import FeatureDoc.Feature.Report
import FeatureDoc.Feature.Draft
import FeatureDoc.Registry.Shared
import FeatureDoc.Settings
import FeatureDoc.Run.Basic
import FeatureDoc.Disk.Cache
import FeatureDoc.Command.Program
import FeatureDoc.Main
import FeatureDoc.Proofs.Reading.Taken
import FeatureDoc.Proofs.Reading.Validity
import FeatureDoc.Proofs.Reading.Declaration
import FeatureDoc.Proofs.Reading.Layout
import FeatureDoc.Proofs.Reading.Attribution
import FeatureDoc.Proofs.Line.Tags
import FeatureDoc.Proofs.Outline.Basic
import FeatureDoc.Proofs.Outline.RoundTrip
import FeatureDoc.Proofs.Line.Delimiters
import FeatureDoc.Proofs.Line.Cells
import FeatureDoc.Proofs.Outline.Table
import FeatureDoc.Proofs.Text.Blank
import FeatureDoc.Proofs.Text.Lines
import FeatureDoc.Proofs.Text.Margin
import FeatureDoc.Proofs.Text.Dedent
import FeatureDoc.Proofs.Feature.Content
import FeatureDoc.Proofs.Line.Comment
import FeatureDoc.Proofs.Reading.View
import FeatureDoc.Proofs.Reading.Indentation
import FeatureDoc.Proofs.Reading.Steps
import FeatureDoc.Proofs.Reading.Commented
import FeatureDoc.Proofs.Reading.Following
import FeatureDoc.Proofs.Reading.Locality
import FeatureDoc.Proofs.Feature.Rectangle
import FeatureDoc.Proofs.Reading.Tables
import FeatureDoc.Proofs.Example.Groups
import FeatureDoc.Proofs.Param.Grammar
import FeatureDoc.Proofs.Param.Canonical
import FeatureDoc.Proofs.Param.Bindings
import FeatureDoc.Proofs.Example.Coverage
import FeatureDoc.Proofs.Run.Protocol
import FeatureDoc.Proofs.Success
import FeatureDoc.Proofs.Lists
import FeatureDoc.Proofs.Argument.Resolution
import FeatureDoc.Proofs.Argument.Dependence
import FeatureDoc.Proofs.Run.DataFlow
import FeatureDoc.Proofs.Pattern.Specificity
import FeatureDoc.Proofs.Registry.Lookup
import FeatureDoc.Proofs.Registry.Refusal
import FeatureDoc.Proofs.Text.Character
import FeatureDoc.Proofs.Pattern.Form
import FeatureDoc.Proofs.Pattern.Language
import FeatureDoc.Proofs.Pattern.Matching
import FeatureDoc.Proofs.Pattern.Writing
import FeatureDoc.Proofs.Decimal.Integer
import FeatureDoc.Proofs.Decimal.Number
import FeatureDoc.Proofs.Pattern.Value
import FeatureDoc.Proofs.Disk.Document
import FeatureDoc.Proofs.Disk.Finding
import FeatureDoc.Proofs.Disk.History
import FeatureDoc.Proofs.Disk.Transparency
import FeatureDoc.Proofs.Reading.Blocks
import FeatureDoc.Proofs.Reading.Faults
import FeatureDoc.Proofs.Reading.Capture
import FeatureDoc.Proofs.Reading.Quotation
import FeatureDoc.Proofs.Reading.Types
import FeatureDoc.Proofs.Reading.Tags
import FeatureDoc.Proofs.Reading.Stored
import FeatureDoc.Proofs.Decimal.Denotation
import FeatureDoc.Proofs.Code.Integer
import FeatureDoc.Proofs.Code.Elementwise
import FeatureDoc.Proofs.Code.Truth
import FeatureDoc.Proofs.Disk.Splitting
import FeatureDoc.Proofs.Disk.Tree
import FeatureDoc.Proofs.Disk.Discovery
import FeatureDoc.Proofs.Json.Layout
import FeatureDoc.Proofs.Json.Record
import FeatureDoc.Proofs.Feature.Report
import FeatureDoc.Proofs.Command.Check
import FeatureDoc.Proofs.Command.Steps
import FeatureDoc.Proofs.Command.Output
