import Notary.Config.Watcher
import Notary.Engine.Script
import Notary.Http.Exchange
import Notary.Settings.Load
import Notary.CommandLine.Operator
import Notary.Main
import Notary.Proofs.Program.Attempt
import Notary.Proofs.Program.Course
import Notary.Proofs.Workflow.CallPlan
import Notary.Proofs.Service.Isolation
import Notary.Proofs.Config.Reload
import Notary.Proofs.Config.Watching
import Notary.Proofs.Config.Acceptance
import Notary.Proofs.Config.Lookup
import Notary.Proofs.Config.Ledger
import Notary.Proofs.Program.Refusal
import Notary.Proofs.Workflow.Checks
import Notary.Proofs.Workflow.Precedence
import Notary.Proofs.Workflow.MissingId
import Notary.Proofs.Program.Contract
import Notary.Proofs.Workflow.DataFlow
import Notary.Proofs.Config.Validity
import Notary.Proofs.Service.Lifetime
import Notary.Proofs.Json.Tokens
import Notary.Proofs.Json.Outline
import Notary.Proofs.Json.Strings
import Notary.Proofs.Json.Numerals
import Notary.Proofs.Json.Grammar
import Notary.Proofs.Json.RoundTrip
import Notary.Proofs.Json.Members
import Notary.Proofs.Json.Selection
import Notary.Proofs.Config.RoundTrip
import Notary.Proofs.Digest.Length
import Notary.Proofs.Text.Base64
import Notary.Proofs.Text.Words
import Notary.Proofs.Secret.FreshHash
import Notary.Proofs.Secret.FreshSecret
import Notary.Proofs.Workflow.Secrecy
import Notary.Proofs.Text.Utf8
import Notary.Proofs.Workflow.Lossless
import Notary.Proofs.Config.Startup
import Notary.Proofs.Engine.Charset
import Notary.Proofs.Workflow.Outcome
import Notary.Proofs.Workflow.Revalidation
import Notary.Proofs.Http.Classification
import Notary.Proofs.Program.Counting
import Notary.Proofs.Workflow.Counting
import Notary.Proofs.Service.Detached
import Notary.Proofs.Config.Stopping
import Notary.Proofs.Workflow.OwnData
import Notary.Proofs.Program.Reporting
import Notary.Proofs.Workflow.Diagnosis
import Notary.Proofs.Service.Tally
import Notary.Proofs.Secret.Matching
import Notary.Proofs.Secret.Usability
import Notary.Proofs.Config.Location
import Notary.Proofs.Config.ByName
import Notary.Proofs.Config.Rearrangement
import Notary.Proofs.Config.Flaws
import Notary.Proofs.Config.Unordered
import Notary.Proofs.Config.FirstMatch
import Notary.Proofs.Http.FormFields
import Notary.Proofs.Workflow.MetadataNames
import Notary.Proofs.Text.WellFormed
import Notary.Proofs.Workflow.FirstDocument
import Notary.Proofs.Text.Sniffing
import Notary.Proofs.Text.Pieces
import Notary.Proofs.Version.Grammar
import Notary.Proofs.Text.CommaList
import Notary.Proofs.Config.ListChecks
import Notary.Proofs.CommandLine.Admission
import Notary.Proofs.Settings.Reading
import Notary.Proofs.Settings.Layers
import Notary.Proofs.Settings.Overruling
import Notary.Proofs.Lifecycle.Heeding
import Notary.Proofs.Lifecycle.Draining
