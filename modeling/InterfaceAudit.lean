import InterfaceAudit.Main
import InterfaceAudit.Proofs.Script.Identity
import InterfaceAudit.Proofs.Session.Report
import InterfaceAudit.Proofs.Session.SingleUse
import InterfaceAudit.Proofs.Script.Simulation
import InterfaceAudit.Runtime.Registry
import InterfaceAudit.Proofs.Host.Transcript
import InterfaceAudit.Proofs.Replay.Findings
import InterfaceAudit.Proofs.Host.Exchanges
import InterfaceAudit.Proofs.Session.Services
import InterfaceAudit.Proofs.Session.Delivery
import InterfaceAudit.Proofs.Host.Children
import InterfaceAudit.Proofs.Session.Errands
import InterfaceAudit.Proofs.Session.Verdict
import InterfaceAudit.Proofs.CommandLine.ExitCodes
import InterfaceAudit.Proofs.Session.WorkingDirectory
import InterfaceAudit.Proofs.Session.Lodging
import InterfaceAudit.Proofs.Host.Memory
import InterfaceAudit.Proofs.Replay.Missing
import InterfaceAudit.Proofs.Json.RoundTrip
import InterfaceAudit.Proofs.Manifest.Elements
import InterfaceAudit.Proofs.Literal.Containment
import InterfaceAudit.Proofs.Diagnostic.LineEnds
import InterfaceAudit.Proofs.Host.Sharing
import InterfaceAudit.Proofs.Host.Tandem
import InterfaceAudit.Proofs.Host.Lockstep
import InterfaceAudit.Proofs.Session.Tenancy
import InterfaceAudit.Proofs.Host.Interleaving
import InterfaceAudit.Proofs.Session.Concurrency
import InterfaceAudit.Proofs.Diagnostic.Severity
import InterfaceAudit.Proofs.Diagnostic.Seam
import InterfaceAudit.Proofs.Session.Endings
import InterfaceAudit.Proofs.Replay.Order
import InterfaceAudit.Proofs.Gemfile.Reading
import InterfaceAudit.Proofs.Log.Standard
import InterfaceAudit.Proofs.Script.Soundness
import InterfaceAudit.Proofs.Json.AnyOrder
import InterfaceAudit.Proofs.Runtime.Registration
