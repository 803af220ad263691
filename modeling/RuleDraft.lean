import RuleDraft.CommandLine.Tool
import RuleDraft.Editor.Session
import RuleDraft.Log.Record
import RuleDraft.Main
import RuleDraft.Proofs.Comparison.Canonical
import RuleDraft.Proofs.Comparison.Quantities
import RuleDraft.Proofs.Document.ChangeDetection
import RuleDraft.Proofs.Document.Encodable
import RuleDraft.Proofs.Document.ReadBack
import RuleDraft.Proofs.Document.Standard
import RuleDraft.Proofs.Document.StrictOutcomes
import RuleDraft.Proofs.Document.StrictReports
import RuleDraft.Proofs.Editor.Grounds
import RuleDraft.Proofs.Editor.Reconciled
import RuleDraft.Proofs.Editor.Regenerated
import RuleDraft.Proofs.Rule.Folding
import RuleDraft.Proofs.Rule.Models
import RuleDraft.Proofs.Service.Access
import RuleDraft.Proofs.Service.Accounting
import RuleDraft.Proofs.Service.Origins
import RuleDraft.Proofs.Tracking
import RuleDraft.Rule.Model
import RuleDraft.Service
import RuleDraft.Proofs.Service.Headers
import RuleDraft.Proofs.Service.Correlation
import RuleDraft.Proofs.Service.Findings
import RuleDraft.Proofs.Service.Rejections
import RuleDraft.Proofs.CommandLine.Agreement
import RuleDraft.Proofs.CommandLine.Nesting
import RuleDraft.Proofs.Editor.Frames
import RuleDraft.Proofs.CommandLine.Exits
import RuleDraft.Proofs.CommandLine.Delivery
import RuleDraft.Proofs.Editor.Undone
import RuleDraft.Proofs.Json.Lines
import RuleDraft.Proofs.Log.Lines
