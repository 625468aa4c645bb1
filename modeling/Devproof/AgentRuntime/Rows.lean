import Devproof.Host
import Devproof.Lib.Double
import Devproof.Lib.Machine

/-!
The rows of a run in the control plane's database, and the pure decisions of
the task service (agent-runtime-task.service.ts, test-domain).  Instants and
durations are whole milliseconds.
-/

namespace Devproof

inductive TaskStatus where
  | pending
  | running
  | waitingHuman
  | succeeded
  | failed
  | cancelled
  | timedOut
  deriving Repr, DecidableEq

inductive RunLifecycle where
  | queued
  | preparing
  | running
  | waitingHuman
  | completed
  | cancelled
  | timedOut
  deriving Repr, DecidableEq

inductive RecoveryStatus where
  | pending
  | closing
  | hitlClosing
  | startupClosing
  | retryScheduled
  | exhausted
  | writeOutcomeUnknown
  | resolved
  deriving Repr, DecidableEq

inductive FailureClass where
  | toolExecution
  | provider
  | lifecycleProtocol
  | browserRuntime
  | timeout
  | runtimeLost
  | unknown
  deriving Repr, DecidableEq

inductive ExecutionDisposition where
  | executed
  | notRun
  | blocked
  | agentError
  | providerError
  | browserUnavailable
  | runtimeLost
  deriving Repr, DecidableEq

inductive ProductVerdict where
  | passed
  | failed
  | inconclusive
  deriving Repr, DecidableEq

inductive TerminationReason where
  | finalizationReserveReached
  | evidenceSubmissionFailed
  | repeatedOperations
  | textOnlyLoop
  | toolLimitReached
  | locatorRecoveryExhausted
  | runtimeSessionUnavailable
  deriving Repr, DecidableEq

def TerminationReason.code : TerminationReason → String
  | .finalizationReserveReached => "FINALIZATION_RESERVE_REACHED"
  | .evidenceSubmissionFailed => "EVIDENCE_SUBMISSION_FAILED"
  | .repeatedOperations => "REPEATED_OPERATIONS"
  | .textOnlyLoop => "TEXT_ONLY_LOOP"
  | .toolLimitReached => "TOOL_LIMIT_REACHED"
  | .locatorRecoveryExhausted => "LOCATOR_RECOVERY_EXHAUSTED"
  | .runtimeSessionUnavailable => "RUNTIME_SESSION_UNAVAILABLE"

structure ErrorCause where
  code : String
  failureClass : FailureClass
  message : String
  phase : Option String := none
  deriving Repr, DecidableEq

structure RuntimeError extends ErrorCause where
  originalError : Option ErrorCause := none
  verification : Option ProductVerdict := none
  pendingReason : Option TerminationReason := none
  deriving Repr, DecidableEq

inductive RuntimeOutcome where
  | verificationCompleted (verdict : ProductVerdict) (summary : String)
      (termination : Option TerminationReason)
  | waitingHuman (summary : String) (expiresAt : Option Int)
  | retryableFailure (executionDisposition : ExecutionDisposition) (error : RuntimeError)
      (summary : String)
  | fatalFailure (executionDisposition : ExecutionDisposition) (error : RuntimeError)
      (summary : String)
  deriving Repr, DecidableEq

namespace RuntimeOutcome

def isWaiting : RuntimeOutcome → Bool
  | .waitingHuman .. => true
  | _ => false

def runtimeError : RuntimeOutcome → Option RuntimeError
  | .retryableFailure _ error _ => some error
  | .fatalFailure _ error _ => some error
  | _ => none

end RuntimeOutcome

inductive RunDeadlinePolicy where
  | fixed
  | adaptive (extensionStepSeconds finalizationReserveSeconds slowModelThresholdSeconds : Nat)
      (refundHumanWait : Bool)
  deriving Repr, DecidableEq

structure RetryPolicy where
  maxAttempts : Nat
  retryOn : List FailureClass
  positive : 0 < maxAttempts := by decide
  deriving Repr, DecidableEq

structure HitlPolicy where
  enabled : Bool := true
  timeoutSeconds : Nat := 3600
  deriving Repr, DecidableEq

inductive AvailabilityPolicy where
  | wait
  | failFast
  deriving Repr, DecidableEq

structure ExecutionPolicy where
  browser : Option AvailabilityPolicy := none
  retryPolicy : RetryPolicy
  deadline : RunDeadlinePolicy := .fixed
  hitl : HitlPolicy := {}
  deriving Repr, DecidableEq

structure ExecutionRun where
  teamId : String
  lifecycle : RunLifecycle := .queued
  cancelRequestedAt : Option Int := none
  deadlineAt : Int
  hardDeadlineAt : Int
  initialDeadlineAt : Int
  deadlineExtendedMs : Int := 0
  deadlineExtensionCount : Nat := 0
  executionBudgetSeconds : Option Nat := none
  executionMaxExtensionSeconds : Option Nat := none
  executionBudgetStartedAt : Option Int := none
  currentAttemptNumber : Nat := 1
  maxAttempts : Nat
  infrastructureRecoveryCount : Nat := 0
  executionPolicy : ExecutionPolicy
  executionDisposition : Option ExecutionDisposition := none
  verdict : Option ProductVerdict := none
  startedAt : Option Int := none
  finishedAt : Option Int := none
  deriving Repr, DecidableEq

structure RunAttempt where
  id : String
  number : Nat
  status : TaskStatus := .pending
  error : Option RuntimeError := none
  failureClass : Option FailureClass := none
  result : Option RuntimeOutcome := none
  startedAt : Option Int := none
  finishedAt : Option Int := none
  deriving Repr, DecidableEq

structure AgentRuntimeTask where
  capability : String := "BROWSER_VERIFICATION"
  status : TaskStatus := .pending
  /-- `snapshot.executionPolicy.browser`. -/
  browserPolicy : Option AvailabilityPolicy := none
  result : Option RuntimeOutcome := none
  error : Option RuntimeError := none
  recoveryStatus : Option RecoveryStatus := none
  recoveryNextAttemptAt : Option Int := none
  leaseLostAt : Option Int := none
  leaseOwner : Option String := none
  leaseToken : Option String := none
  leaseExpiresAt : Option Int := none
  fencingToken : Nat := 0
  lastHeartbeatAt : Option Int := none
  activeOperation : Option String := none
  activeOperationKey : Option String := none
  activeOperationStartedAt : Option Int := none
  lastProgressAt : Option Int := none
  lastModelCompletedAt : Option Int := none
  lastModelLatencyMs : Option Int := none
  modelLatencyEwmaMs : Option Int := none
  modelLatencyMaxMs : Int := 0
  lastModelOperationKey : Option String := none
  lastDeadlineExtensionOperationKey : Option String := none
  lastMeaningfulProgressKey : Option String := none
  lastDeadlineExtensionProgressKey : Option String := none
  completionId : Option String := none
  cancelRequestedAt : Option Int := none
  deadlineAt : Int
  startedAt : Option Int := none
  finishedAt : Option Int := none
  deriving Repr, DecidableEq

inductive SessionStatus where
  | opening
  | active
  | humanControl
  | closing
  | closed
  | failed
  | lost
  deriving Repr, DecidableEq

structure SessionCommands where
  /-- A succeeded `session.open` of this lease with the session's launch identity. -/
  auditedLaunch : Bool := false
  potentialWrites : Nat := 0
  deriving Repr, DecidableEq

structure BrowserRuntimeSession where
  status : SessionStatus := .opening
  quarantinedAt : Option Int := none
  closureVerifiedAt : Option Int := none
  closureEvidenceId : Option String := none
  leaseExpiresAt : Int
  executionPermitExpiresAt : Option Int := none
  ownerTaskId : Option String := none
  ownerFencingToken : Option Nat := none
  /-- The id of a version 1 `launchIdentity`. -/
  launchId : Option String := none
  launchIdentityVersion : Option Nat := none
  launchHostInstanceId : Option String := none
  launchConnectionGeneration : Option Nat := none
  commands : SessionCommands := {}
  deriving Repr, DecidableEq

inductive WriteOutcomeState where
  | unknown
  | unassessed
  | notApplicable
  | noWriteVerified
  | confirmed
  | resolved
  | retryAuthorized
  deriving Repr, DecidableEq

inductive BrowserExecutionStatus where
  | requested
  | waitingCapacity
  | allocating
  | active
  | humanControl
  | releasing
  | released
  | failed
  | lost
  | timedOut
  deriving Repr, DecidableEq

/-- The browser of an attempt: its execution, the session bound to it, and the write
outcome state of the recovery of that session's epoch. -/
structure BrowserExecution where
  status : BrowserExecutionStatus := .requested
  runtimeSession : Option BrowserRuntimeSession := none
  writeOutcomeState : Option WriteOutcomeState := none
  error : Option String := none
  deriving Repr, DecidableEq

structure AttemptRow where
  attempt : RunAttempt
  task : AgentRuntimeTask
  browserExecution : Option BrowserExecution := none
  /-- A `PENDING` human intervention of the task. -/
  interventionPending : Bool := false
  deriving Repr, DecidableEq

def writeSettled : WriteOutcomeState → Bool
  | .notApplicable | .noWriteVerified | .confirmed | .resolved | .retryAuthorized => true
  | .unknown | .unassessed => false

def RunLifecycle.terminal : RunLifecycle → Bool
  | .completed | .cancelled | .timedOut => true
  | _ => false

def RunLifecycle.executable : RunLifecycle → Bool
  | .queued | .preparing | .running => true
  | _ => false

def TaskStatus.terminal : TaskStatus → Bool
  | .succeeded | .failed | .cancelled | .timedOut => true
  | _ => false

def TaskStatus.held : TaskStatus → Bool
  | .running | .waitingHuman => true
  | _ => false

def effectiveRetryPolicy (browserAvailabilityPolicy : Option AvailabilityPolicy)
    (outcome : RuntimeOutcome) (retryPolicy : RetryPolicy) : RetryPolicy :=
  if browserAvailabilityPolicy = some .failFast ∧
      outcome.runtimeError.map (fun error => error.failureClass) = some .browserRuntime then
    { retryPolicy with retryOn := retryPolicy.retryOn.filter (· ≠ .browserRuntime) }
  else retryPolicy

structure OutcomeProjection where
  attemptStatus : TaskStatus
  executionDisposition : Option ExecutionDisposition
  lifecycle : RunLifecycle
  nextAttemptScheduled : Bool
  taskStatus : TaskStatus
  verdict : Option ProductVerdict
  deriving Repr, DecidableEq

def projectFailure (shouldRetry : Bool) (executionDisposition : ExecutionDisposition)
    (failureClass : FailureClass) : OutcomeProjection :=
  let status : TaskStatus := if failureClass = .timeout then .timedOut else .failed
  { attemptStatus := status
    executionDisposition := if shouldRetry then none else some executionDisposition
    lifecycle :=
      if shouldRetry then .queued
      else if failureClass = .timeout then .timedOut
      else .completed
    nextAttemptScheduled := shouldRetry
    taskStatus := status
    verdict := none }

def projectRuntimeOutcome (attemptNumber : Nat) (outcome : RuntimeOutcome)
    (retryPolicy : RetryPolicy) : OutcomeProjection :=
  match outcome with
  | .verificationCompleted verdict _ _ =>
      { attemptStatus := .succeeded
        executionDisposition := some .executed
        lifecycle := .completed
        nextAttemptScheduled := false
        taskStatus := .succeeded
        verdict := some verdict }
  | .waitingHuman _ _ =>
      { attemptStatus := .waitingHuman
        executionDisposition := some .blocked
        lifecycle := .waitingHuman
        nextAttemptScheduled := false
        taskStatus := .waitingHuman
        verdict := none }
  | .retryableFailure executionDisposition error _ =>
      projectFailure
        (decide (attemptNumber < retryPolicy.maxAttempts) &&
          retryPolicy.retryOn.contains error.failureClass)
        executionDisposition error.failureClass
  | .fatalFailure executionDisposition error _ =>
      projectFailure false executionDisposition error.failureClass

def leaseRecoveryDecision (closed unknownWrite expired : Bool) (infrastructureRecoveries : Nat)
    (attemptNumber maxAttempts : Nat) : RecoveryStatus :=
  if unknownWrite then .writeOutcomeUnknown
  else if !closed || expired || 1 ≤ infrastructureRecoveries || maxAttempts ≤ attemptNumber then
    .exhausted
  else .retryScheduled

def threeHalves (latency : Int) : Int :=
  (3 * latency + 1) / 2

def smoothed (previous latency : Int) : Int :=
  mathRound (double (double (previous * double (7 / 10)) + double (latency * double (3 / 10))))

def clamp (value minimum maximum : Int) : Int :=
  min maximum (max minimum value)

structure AdaptiveDeadlineState where
  requireMeaningfulProgress : Bool
  lastMeaningfulProgressKey : Option String
  lastDeadlineExtensionProgressKey : Option String
  activeOperation : Option String
  activeOperationKey : Option String
  activeOperationStartedAtMs : Option Int
  deadlineAtMs : Int
  hardDeadlineAtMs : Int
  lastDeadlineExtensionOperationKey : Option String
  lastModelCompletedAtMs : Option Int
  lastModelLatencyMs : Option Int
  lastModelOperationKey : Option String
  modelLatencyEwmaMs : Option Int
  nowMs : Int
  policy : RunDeadlinePolicy
  deriving Repr, DecidableEq

inductive ExtensionTrigger where
  | activeSlowModel
  | recentModelProgress
  deriving Repr, DecidableEq

structure AdaptiveDeadlineExtension where
  progressKey : Option String
  activeModelElapsedMs : Int
  deadlineAtMs : Int
  extendedByMs : Int
  observedModelLatencyMs : Int
  operationKey : String
  reserveMs : Int
  trigger : ExtensionTrigger
  deriving Repr, DecidableEq

namespace AdaptiveDeadlineState

def progressKey (state : AdaptiveDeadlineState) : String :=
  state.lastMeaningfulProgressKey.getD "INITIAL_OBSERVATION"

def activeModelElapsedMs (state : AdaptiveDeadlineState) : Int :=
  match state.activeOperationStartedAtMs with
  | some startedAt =>
      if state.activeOperation = some "MODEL" then max 0 (state.nowMs - startedAt) else 0
  | none => 0

def activeModelIsSlow (slowThresholdMs : Int) (state : AdaptiveDeadlineState) : Bool :=
  slowThresholdMs ≤ state.activeModelElapsedMs && (truthy state.activeOperationKey).isSome

def completedModelHasProgress (slowThresholdMs : Int) (state : AdaptiveDeadlineState) : Bool :=
  (state.lastModelCompletedAtMs.any fun completedAt =>
      state.nowMs - completedAt ≤ max 300000 (slowThresholdMs * 4)) &&
    state.lastModelLatencyMs.isSome && (truthy state.lastModelOperationKey).isSome

end AdaptiveDeadlineState

def decideAdaptiveDeadlineExtension (state : AdaptiveDeadlineState) :
    Option AdaptiveDeadlineExtension :=
  match state.policy with
  | .fixed => none
  | .adaptive extensionStepSeconds finalizationReserveSeconds slowModelThresholdSeconds _ =>
      if state.requireMeaningfulProgress &&
          state.lastDeadlineExtensionProgressKey == some state.progressKey then none
      else if state.deadlineAtMs ≤ state.nowMs ∨ state.hardDeadlineAtMs ≤ state.deadlineAtMs then
        none
      else
        let slowThresholdMs : Int := slowModelThresholdSeconds * 1000
        let slow := state.activeModelIsSlow slowThresholdMs
        let key :=
          if slow then truthy state.activeOperationKey
          else if state.completedModelHasProgress slowThresholdMs then
            truthy state.lastModelOperationKey
          else none
        match key with
        | none => none
        | some operationKey =>
            if state.lastDeadlineExtensionOperationKey = some operationKey then none
            else
              let observedModelLatencyMs :=
                max (max slowThresholdMs state.activeModelElapsedMs)
                  (max (state.lastModelLatencyMs.getD 0) (state.modelLatencyEwmaMs.getD 0))
              let reserveMs :=
                clamp (threeHalves observedModelLatencyMs + finalizationReserveSeconds * 1000)
                  120000 300000
              if reserveMs < state.deadlineAtMs - state.nowMs then none
              else
                let requestedDeadlineAtMs :=
                  max (state.deadlineAtMs + extensionStepSeconds * 1000) (state.nowMs + reserveMs)
                let deadlineAtMs := min requestedDeadlineAtMs state.hardDeadlineAtMs
                if deadlineAtMs ≤ state.deadlineAtMs then none
                else
                  some
                    { progressKey :=
                        if state.requireMeaningfulProgress then some state.progressKey else none
                      activeModelElapsedMs := state.activeModelElapsedMs
                      deadlineAtMs
                      extendedByMs := deadlineAtMs - state.deadlineAtMs
                      observedModelLatencyMs
                      operationKey
                      reserveMs
                      trigger := if slow then .activeSlowModel else .recentModelProgress }

def deadlinePolicyPausesHumanWait : RunDeadlinePolicy → Bool
  | .fixed => true
  | .adaptive _ _ _ refundHumanWait => refundHumanWait

def hitlWaitDeadline (currentDeadlineAtMs : Int) (pauseHumanWait : Bool)
    (policyTimeoutSeconds : Nat) (requestedAtMs : Int) (requestedExpiresAtMs : Option Int) : Int :=
  let policyExpiresAtMs := requestedAtMs + policyTimeoutSeconds * 1000
  let requested := min (requestedExpiresAtMs.getD policyExpiresAtMs) policyExpiresAtMs
  if pauseHumanWait then requested else min requested currentDeadlineAtMs

def initializeExecutionBudget (now : Int) (seconds extensionSeconds : Nat)
    (parentDeadlineAt : Option Int) : Except String (Int × Int) :=
  let capped (instant : Int) := (parentDeadlineAt.map fun cap => min cap instant).getD instant
  let deadlineAt := capped (now + seconds * 1000)
  let hardDeadlineAt := capped (deadlineAt + extensionSeconds * 1000)
  if deadlineAt ≤ now then .error "The parent task deadline has elapsed."
  else .ok (deadlineAt, hardDeadlineAt)

end Devproof
