import Linewatch.Catalog
import Linewatch.Command.Arguments
import Linewatch.Command.Documents
import Linewatch.Command.Run
import Linewatch.Data.Codec
import Linewatch.Data.Datum
import Linewatch.Data.Decode
import Linewatch.Data.Json.Reader
import Linewatch.Data.Json.Token
import Linewatch.Data.Json.Writer
import Linewatch.Data.Toml.Number
import Linewatch.Data.Toml.Reader
import Linewatch.Data.Toml.Text
import Linewatch.Data.Toml.Tree
import Linewatch.Data.Toml.Value
import Linewatch.Fault
import Linewatch.Files.Glob
import Linewatch.Files.Glob.Reader
import Linewatch.Files.Ignore
import Linewatch.Files.Path
import Linewatch.Files.Tree
import Linewatch.Files.Walk
import Linewatch.Finding
import Linewatch.Main
import Linewatch.OutputFormat
import Linewatch.Pattern.Basic
import Linewatch.Pattern.CharClass
import Linewatch.Pattern.CodeRanges
import Linewatch.Pattern.Footprint
import Linewatch.Pattern.Meaning
import Linewatch.Pattern.OfText
import Linewatch.Pattern.Program
import Linewatch.Pattern.Property
import Linewatch.Pattern.Reader
import Linewatch.Pattern.Reader.Class
import Linewatch.Pattern.Reader.Escape
import Linewatch.Pattern.Search
import Linewatch.Pattern.Written
import Linewatch.Policy
import Linewatch.Proofs.Command.Documents
import Linewatch.Proofs.Command.Init
import Linewatch.Proofs.Command.Scan
import Linewatch.Proofs.Data.Codec
import Linewatch.Proofs.Data.Json.RoundTrip
import Linewatch.Proofs.Data.Json.Token
import Linewatch.Proofs.Data.Toml.Lines
import Linewatch.Proofs.Data.Without
import Linewatch.Proofs.Files.Path
import Linewatch.Proofs.Files.Tree
import Linewatch.Proofs.Files.Walk
import Linewatch.Proofs.Pattern.Case
import Linewatch.Proofs.Pattern.Fits
import Linewatch.Proofs.Pattern.Ink
import Linewatch.Proofs.Pattern.Layout
import Linewatch.Proofs.Pattern.Runs
import Linewatch.Proofs.Pattern.Search
import Linewatch.Proofs.Pattern.Window
import Linewatch.Proofs.Policy
import Linewatch.Proofs.Policy.Order
import Linewatch.Proofs.Reference
import Linewatch.Proofs.Registry
import Linewatch.Proofs.Registry.Runs
import Linewatch.Proofs.Report.Batch
import Linewatch.Proofs.Report.Coherence
import Linewatch.Proofs.Report.Composition
import Linewatch.Proofs.Report.Console
import Linewatch.Proofs.Report.Examples
import Linewatch.Proofs.Report.Json
import Linewatch.Proofs.Report.Removal
import Linewatch.Proofs.Report.RuleOrder
import Linewatch.Proofs.Report.Runs
import Linewatch.Proofs.Report.Sarif.Log
import Linewatch.Proofs.Report.Sarif.References
import Linewatch.Proofs.Report.Sarif.Rules
import Linewatch.Proofs.Report.Secrets
import Linewatch.Proofs.Report.Threshold
import Linewatch.Proofs.Report.Uniform
import Linewatch.Proofs.Rule
import Linewatch.Proofs.Scan.Bounded
import Linewatch.Proofs.Scan.Hits
import Linewatch.Proofs.Scan.Indent
import Linewatch.Proofs.Scan.LineEnds
import Linewatch.Proofs.Scan.Listing
import Linewatch.Proofs.Scan.Locality
import Linewatch.Proofs.Scan.Rules
import Linewatch.Proofs.Scan.Snippet
import Linewatch.Proofs.Settings.Examples
import Linewatch.Proofs.Settings.Json
import Linewatch.Proofs.Settings.Names
import Linewatch.Proofs.Settings.Order
import Linewatch.Proofs.Settings.References
import Linewatch.Proofs.Settings.Rules
import Linewatch.Proofs.Settings.Starter
import Linewatch.Proofs.Severity
import Linewatch.Proofs.Signature
import Linewatch.Proofs.Signature.AccessKey
import Linewatch.Proofs.Signature.ApiKey
import Linewatch.Proofs.Signature.Assignment
import Linewatch.Proofs.Signature.Found
import Linewatch.Proofs.Signature.Markup
import Linewatch.Proofs.Signature.Password
import Linewatch.Proofs.Signature.Spawning
import Linewatch.Proofs.Statistics
import Linewatch.Proofs.Text.Lines
import Linewatch.Proofs.Text.Lower
import Linewatch.Proofs.Text.Newline
import Linewatch.Proofs.Text.Span
import Linewatch.Proofs.Text.Trim
import Linewatch.Proofs.Text.Utf8
import Linewatch.Proofs.Unicode.Folding
import Linewatch.Proofs.Unicode.Table
import Linewatch.Proofs.Unicode.Word
import Linewatch.Registry
import Linewatch.Report
import Linewatch.Report.Console
import Linewatch.Report.Json
import Linewatch.Report.Render
import Linewatch.Report.Sarif
import Linewatch.Rule
import Linewatch.Scan
import Linewatch.Settings
import Linewatch.Settings.Load
import Linewatch.Settings.Starter
import Linewatch.Severity
import Linewatch.Signature
import Linewatch.Statistics
import Linewatch.Text.Blank
import Linewatch.Text.Lines
import Linewatch.Text.Lower
import Linewatch.Text.Padded
import Linewatch.Text.Upper
import Linewatch.Text.Utf8
import Linewatch.Unicode.Age
import Linewatch.Unicode.Binary
import Linewatch.Unicode.Breaks
import Linewatch.Unicode.Category
import Linewatch.Unicode.CharMap
import Linewatch.Unicode.CharTable
import Linewatch.Unicode.Folding
import Linewatch.Unicode.Script
import Linewatch.Unicode.Word
