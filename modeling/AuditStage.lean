import AuditStage.Main
import AuditStage.Proofs.Explorer.Envelope
import AuditStage.Proofs.Explorer.Request
import AuditStage.Proofs.Explorer.Retry
import AuditStage.Proofs.Isolation
import AuditStage.Proofs.Payload.RoundTrip
import AuditStage.Proofs.Pipeline.Early
import AuditStage.Proofs.Pipeline.Fidelity
import AuditStage.Proofs.Pipeline.History
import AuditStage.Proofs.Remap.Declared
import AuditStage.Proofs.Remap.Options
import AuditStage.Proofs.Remap.Packages
import AuditStage.Proofs.Remap.Rebase
import AuditStage.Proofs.Report.Findings
import AuditStage.Proofs.Report.Located
import AuditStage.Proofs.Report.Result
import AuditStage.Proofs.Session.Json
import AuditStage.Proofs.Staging.Allowed
import AuditStage.Proofs.Staging.Collision
import AuditStage.Proofs.Staging.Complete
import AuditStage.Proofs.Staging.Contained
import AuditStage.Proofs.Staging.Preexisting
import AuditStage.Proofs.Staging.Successive
import AuditStage.Proofs.Toolchain.Comment
import AuditStage.Proofs.Toolchain.Consensus
import AuditStage.Proofs.Toolchain.Grammar
import AuditStage.Proofs.Toolchain.Lease
import AuditStage.Shell.System
