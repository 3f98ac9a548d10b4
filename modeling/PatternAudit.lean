import PatternAudit.Main
import PatternAudit.Proofs.Audit.SingleFile
import PatternAudit.Proofs.Observations.Sessions
import PatternAudit.Proofs.Walk.Exploring
import PatternAudit.Proofs.Audit.Running
import PatternAudit.Proofs.Audit.Settling
import PatternAudit.Proofs.Report.Rendering
import PatternAudit.Proofs.CommandLine.Checking
import PatternAudit.Proofs.Files.Downward
import PatternAudit.Proofs.Walk.Locating
import PatternAudit.Proofs.Audit.PassingTree
import PatternAudit.Proofs.Files.Listings
import PatternAudit.Proofs.Walk.Distinguishing
import PatternAudit.Proofs.Observations.Identity
import PatternAudit.Proofs.Audit.RuleByRule
import PatternAudit.Proofs.Audit.Spelling
import PatternAudit.Proofs.Walk.Alike
import PatternAudit.Proofs.Audit.Confinement
import PatternAudit.Proofs.Json.Numbers
import PatternAudit.Proofs.Json.Quoting
import PatternAudit.Proofs.Json.Reading
import PatternAudit.Proofs.Json.Layout
import PatternAudit.Proofs.Report.RoundTrip
import PatternAudit.Proofs.CommandLine.JsonReports
import PatternAudit.Proofs.Path.NormalForm
import PatternAudit.Proofs.Observations.Reading
import PatternAudit.Proofs.Walk.VisitingOrder
import PatternAudit.Proofs.Walk.FirstFailure
import PatternAudit.Proofs.Audit.Aborting
import PatternAudit.Proofs.Audit.Verdict
import PatternAudit.Proofs.Rules.Blaming
import PatternAudit.Proofs.Rules.Narrowing
import PatternAudit.Proofs.Audit.Filtering
import PatternAudit.Proofs.Report.Progress
import PatternAudit.Proofs.CommandLine.CompactReports
import PatternAudit.Proofs.CommandLine.Starting
import PatternAudit.Proofs.Config.Documents
import PatternAudit.Proofs.Config.Formats
import PatternAudit.Proofs.Audit.EntryKeys
import PatternAudit.Proofs.CommandLine.Precedence
import PatternAudit.Proofs.CommandLine.Preserving
