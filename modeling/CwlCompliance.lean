import CwlCompliance.Main
import CwlCompliance.Proofs.Text.Blank
import CwlCompliance.Proofs.Text.Utf8
import CwlCompliance.Proofs.Process.Numbering
import CwlCompliance.Proofs.Process.CallGraph
import CwlCompliance.Proofs.Process.Search
import CwlCompliance.Proofs.Package.Scoping
import CwlCompliance.Proofs.Checks.Finding
import CwlCompliance.Proofs.Process.Transform
import CwlCompliance.Proofs.Report.Verdict
import CwlCompliance.Proofs.Package.Transform
import CwlCompliance.Proofs.Report.Compliance
import CwlCompliance.Proofs.Document.Decided
import CwlCompliance.Proofs.Document.Grammar
import CwlCompliance.Proofs.Document.Decoding
import CwlCompliance.Proofs.Document.Attributes
import CwlCompliance.Proofs.Document.Acceptance
import CwlCompliance.Proofs.Document.Agreement
import CwlCompliance.Proofs.Document.Forms
import CwlCompliance.Proofs.Document.Rewriting
import CwlCompliance.Proofs.Report.Grouping
import CwlCompliance.Proofs.Report.History
import CwlCompliance.Proofs.Report.RuleSection
import CwlCompliance.Proofs.Source.Retrieval
import CwlCompliance.Proofs.CommandLine.Agreement
import CwlCompliance.Proofs.Package.Narrowing
import CwlCompliance.Proofs.Package.Isolation
import CwlCompliance.Proofs.Json.Reader
import CwlCompliance.Proofs.Json.RoundTrip
import CwlCompliance.Proofs.CommandLine.Verdict
import CwlCompliance.Proofs.Report.Independence
import CwlCompliance.Proofs.Package.Respelling
import CwlCompliance.Proofs.Report.RoundTrip
import CwlCompliance.Proofs.Package.Tools
import CwlCompliance.Proofs.Document.Surroundings
import CwlCompliance.Proofs.Document.Origin
import CwlCompliance.Proofs.Document.Precedence
import CwlCompliance.Proofs.Document.Edits
import CwlCompliance.Proofs.Document.Enrichment
import CwlCompliance.Proofs.Package.Enrichment
import CwlCompliance.Proofs.Package.Metadata
import CwlCompliance.Proofs.Process.Reordering
import CwlCompliance.Proofs.Document.Reordering
import CwlCompliance.Proofs.Package.Reordering
import CwlCompliance.Proofs.Process.Change
import CwlCompliance.Proofs.Package.Removal
import CwlCompliance.Proofs.Package.References
import CwlCompliance.Proofs.Report.EntryPoint
import CwlCompliance.Proofs.Report.Offenders
import CwlCompliance.Proofs.Settings.Layers
import CwlCompliance.Proofs.CommandLine.Precedence
import CwlCompliance.Proofs.Report.Pieces
import CwlCompliance.Proofs.Fault.Details
import CwlCompliance.Proofs.Fault.Completion
import CwlCompliance.Proofs.Package.Representation
import CwlCompliance.Proofs.Process.Calls
import CwlCompliance.Proofs.Process.Survey
import CwlCompliance.Proofs.Checks.Label
