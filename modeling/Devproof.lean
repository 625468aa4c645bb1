import Devproof.CleanupOutcome
import Devproof.Observation.ReviewOnce
import Devproof.Observation.BindingReads
import Devproof.Observation.FocusedChains
import Devproof.Observation.Criterion
import Devproof.Journal.Atomicity
import Devproof.Journal.WriteOnce
import Devproof.Journal.Keys
import Devproof.Journal.Submissions
import Devproof.Journal.Completion
import Devproof.Browser.PermitRuns
import Devproof.Browser.ClosureRuns
import Devproof.Browser.IpRules
import Devproof.AgentRuntime.Attempts
import Devproof.AgentRuntime.Deadlines
import Devproof.AgentRuntime.LeaseSupervisor
import Devproof.AgentRuntime.ModelHealthRuns
import Devproof.Concurrency.AdmissionRuns
import Devproof.Concurrency.Resumption
import Devproof.Concurrency.Environments
import Devproof.Metrics.Breakdown
import Devproof.Metrics.Shares
import Devproof.Acceptance.Verdicts
import Devproof.Scheduling.Agreement
import Devproof.Recovery.Guards
import Devproof.Deletion.Ownership
import Devproof.Digests.Confusion
import Devproof.Accounts.AccountRuns
import Devproof.Observation.BusinessCheck
import Devproof.Observation.Scope
import Devproof.Webhooks.Claims
import Devproof.Resources.Collapse
import Devproof.Resources.RecordKeys
import Devproof.Profiles.ReservationRuns
import Devproof.CommandResults.Dispatcher
import Devproof.CommandResults.Evidence
import Devproof.CommandResults.CommandRuns
import Devproof.SpecChecks.CatalogRuns
import Devproof.SpecChecks.RequirementCoverage
import Devproof.Evidence.NetworkMatch
import Devproof.Concurrency.FairAdmission
import Devproof.ModelContext.OperationSummary
import Devproof.ModelContext.RequestTrimming
import Devproof.ModelContext.VerificationProgress
import Devproof.ModelContext.RedactedPlaces
import Devproof.Browser.PageDelivery
import Devproof.Browser.BudgetTrims
import Devproof.Rerun.CopiedCase
import Devproof.Browser.ProcessClosing
import Devproof.Browser.AuthSnapshots
import Devproof.TestData.RequestRuns
import Devproof.Browser.Presence
import Devproof.Observation.BoundEvidenceRuns
import Devproof.Recovery.DrainRuns
import Devproof.AgentRuntime.TelemetryRuns
import Devproof.Browser.HubRuns
