import Devproof.AgentRuntime.Rows

/-!
The transactions of the task service on one run.  Each reads and writes the
rows atomically: a transaction that throws leaves them as they were.  What a
transaction reads outside these rows (evidence, events, request features) comes
in as arguments.
-/

namespace Devproof

structure LeaseInput where
  workerId : String
  leaseToken : String
  fencingToken : String
  deriving Repr, DecidableEq

inductive TaskError where
  | notFound
  | staleLease
  | conflict (message : String)
  | badRequest (message : String)
  | browserClaimChanged
  | uniqueConstraint
  deriving Repr, DecidableEq

structure RuntimeProgress where
  meaningful : Bool
  sequence : Nat
  deriving Repr, DecidableEq

inductive TraceEvent where
  | modelStarted (segmentId : String) (step : Nat) (progress : Option RuntimeProgress)
  | modelCompleted (segmentId : String) (step : Nat) (durationMs : Nat)
  | modelFailed (segmentId : String) (step : Nat) (durationMs : Nat)
  | toolStarted (segmentId : String) (step : Nat)
  | toolCompleted (segmentId : String) (succeeded : Bool) (progress : Option RuntimeProgress)
  | toolFailed (segmentId : String)
  | segmentStarted (segmentId : String)
  | segmentCompleted (segmentId : String)
  | other
  deriving Repr, DecidableEq

inductive Directive where
  | proceed
  | cancel
  deriving Repr, DecidableEq

inductive TaskAnswer where
  | none
  | claimed (fencingToken : Nat) (leaseToken : String) (leaseExpiresAt : Int)
  | heartbeat (directive : Directive) (deadlineAt hardDeadlineAt leaseExpiresAt : Int)
      (extendedByMs : Option Int)
  | event
  | outcome (attemptNumber : Nat) (lifecycle : RunLifecycle) (nextAttemptScheduled : Bool)
      (taskStatus : TaskStatus)
  | decision (recoveryStatus : RecoveryStatus)
  deriving Repr, DecidableEq

structure TaskCommit where
  answer : TaskAnswer
  run : ExecutionRun
  row : AttemptRow
  /-- The task id and the rows of an attempt that is scheduled. -/
  next : Option (String × AttemptRow) := none
  /-- The event an agent appended. -/
  event : Option String := none
  deriving Repr, DecidableEq

namespace TaskService

def leaseExpiry (leaseSeconds : Nat) (now : Int) : Int :=
  now + leaseSeconds * 1000

def unexpired (now : Int) (expiresAt : Option Int) : Bool :=
  expiresAt.any fun instant => now < instant

def holdsLease (task : AgentRuntimeTask) (input : LeaseInput) (now : Int) : Bool :=
  task.leaseOwner == some input.workerId && task.leaseToken == some input.leaseToken &&
    toString task.fencingToken == input.fencingToken && unexpired now task.leaseExpiresAt

def requireLease (task : AgentRuntimeTask) (input : LeaseInput) (now : Int) :
    Except TaskError Unit :=
  throwIf (!holdsLease task input now) .staleLease

def leaseWhere (task : AgentRuntimeTask) (input : LeaseInput) (now : Int) : Bool :=
  bigInt input.fencingToken == some (task.fencingToken : Int) &&
    task.leaseOwner == some input.workerId && task.leaseToken == some input.leaseToken &&
    unexpired now task.leaseExpiresAt && task.status.held

def lockCurrentLease (task : AgentRuntimeTask) (input : LeaseInput) (now : Int) :
    Except TaskError Unit :=
  throwIf (!leaseWhere task input now) .staleLease

/-! `claim`. -/

def sessionUsable (now : Int) (session : BrowserRuntimeSession) : Bool :=
  session.status == .active && session.quarantinedAt.isNone && session.closureVerifiedAt.isNone &&
    now < session.leaseExpiresAt && unexpired now session.executionPermitExpiresAt

def claimable (now : Int) (run : ExecutionRun) (row : AttemptRow) : Bool :=
  now < row.task.deadlineAt && row.task.recoveryStatus != some .startupClosing &&
    run.cancelRequestedAt.isNone && run.lifecycle.executable && row.task.status == .pending &&
    row.browserExecution.any fun execution =>
      execution.status == .active && execution.runtimeSession.any (sessionUsable now)

def startBudget (now : Int) (parentDeadlineAt : Option Int) (run : ExecutionRun) :
    Except TaskError (Option (Int × Int)) :=
  match run.executionBudgetSeconds.filter (· ≠ 0), run.executionBudgetStartedAt with
  | some seconds, none =>
      match initializeExecutionBudget now seconds (run.executionMaxExtensionSeconds.getD 0)
          parentDeadlineAt with
      | .error message => .error (.conflict message)
      | .ok budget => .ok (some budget)
  | _, _ => .ok none

def withBudget (now : Int) (budget : Option (Int × Int)) (run : ExecutionRun) : ExecutionRun :=
  match budget with
  | none => run
  | some (deadlineAt, hardDeadlineAt) =>
      { run with
        deadlineAt
        hardDeadlineAt
        initialDeadlineAt := deadlineAt
        executionBudgetStartedAt := some now }

def ownSession (taskId : String) (task : AgentRuntimeTask) (permitExpiresAt : Int)
    (session : BrowserRuntimeSession) : Except TaskError BrowserRuntimeSession :=
  if session.ownerTaskId = none ∨
      (session.ownerTaskId = some taskId ∧ session.ownerFencingToken = some task.fencingToken) then
    .ok
      { session with
        ownerTaskId := some taskId
        ownerFencingToken := some (task.fencingToken + 1)
        executionPermitExpiresAt := some permitExpiresAt }
  else .error .browserClaimChanged

/-- The candidate is skipped where the request's protocol or features do not cover it, or an
account it needs is taken. -/
def claim (leaseSeconds : Nat) (taskId workerId leaseToken : String) (now : Int) (skipped : Bool)
    (parentDeadlineAt : Option Int) (run : ExecutionRun) (row : AttemptRow) :
    Except TaskError TaskCommit := do
  if skipped || !claimable now run row then
    return { answer := .none, run, row }
  let leaseExpiresAt := leaseExpiry leaseSeconds now
  let budget ← startBudget now parentDeadlineAt run
  let run := withBudget now budget run
  let session ←
    match row.browserExecution.bind BrowserExecution.runtimeSession with
    | none => throw .browserClaimChanged
    | some session =>
        ownSession taskId row.task (min leaseExpiresAt run.deadlineAt) session
  return {
    answer := .claimed (row.task.fencingToken + 1) leaseToken leaseExpiresAt
    run :=
      { run with
        lifecycle := .running
        startedAt := some (run.startedAt.getD now) }
    row :=
      { row with
        attempt := { row.attempt with startedAt := some now, status := .running }
        task :=
          { row.task with
            fencingToken := row.task.fencingToken + 1
            lastHeartbeatAt := some now
            leaseExpiresAt := some leaseExpiresAt
            leaseOwner := some workerId
            leaseToken := some leaseToken
            startedAt := some (row.task.startedAt.getD now)
            status := .running
            deadlineAt := (budget.map Prod.fst).getD row.task.deadlineAt }
        browserExecution :=
          row.browserExecution.map fun execution =>
            { execution with runtimeSession := some session } } }

/-! `heartbeat`. -/

def cancelled (now : Int) (run : ExecutionRun) (task : AgentRuntimeTask) : Bool :=
  task.cancelRequestedAt.isSome || run.cancelRequestedAt.isSome || run.deadlineAt ≤ now ||
    run.lifecycle == .cancelled || run.lifecycle == .timedOut || task.status == .cancelled ||
    task.status == .timedOut

def adaptiveState (now : Int) (run : ExecutionRun) (task : AgentRuntimeTask) :
    AdaptiveDeadlineState :=
  { requireMeaningfulProgress := task.capability == "BROWSER_VERIFICATION"
    lastMeaningfulProgressKey := task.lastMeaningfulProgressKey
    lastDeadlineExtensionProgressKey := task.lastDeadlineExtensionProgressKey
    activeOperation := task.activeOperation
    activeOperationKey := task.activeOperationKey
    activeOperationStartedAtMs := task.activeOperationStartedAt
    deadlineAtMs := run.deadlineAt
    hardDeadlineAtMs := run.hardDeadlineAt
    lastDeadlineExtensionOperationKey := task.lastDeadlineExtensionOperationKey
    lastModelCompletedAtMs := task.lastModelCompletedAt
    lastModelLatencyMs := task.lastModelLatencyMs
    lastModelOperationKey := task.lastModelOperationKey
    modelLatencyEwmaMs := task.modelLatencyEwmaMs
    nowMs := now
    policy := run.executionPolicy.deadline }

def renewPermit (taskId : String) (fencingToken : Nat) (permitExpiresAt : Int)
    (execution : BrowserExecution) : BrowserExecution :=
  { execution with
    runtimeSession := execution.runtimeSession.map fun session =>
      if session.ownerTaskId = some taskId ∧ session.ownerFencingToken = some fencingToken ∧
          session.status = .active ∧ session.quarantinedAt = none ∧
          session.closureVerifiedAt = none then
        { session with executionPermitExpiresAt := some permitExpiresAt }
      else session }

/-- The extension a heartbeat grants: decided on the rows, and still allowed by the update. -/
def grantedExtension (now : Int) (run : ExecutionRun) (task : AgentRuntimeTask) :
    Option AdaptiveDeadlineExtension :=
  (decideAdaptiveDeadlineExtension (adaptiveState now run task)).filter fun extension =>
    extension.deadlineAtMs ≤ run.hardDeadlineAt && run.lifecycle.executable

def extendRun (extension : AdaptiveDeadlineExtension) (run : ExecutionRun) : ExecutionRun :=
  { run with
    deadlineAt := extension.deadlineAtMs
    deadlineExtendedMs := run.deadlineExtendedMs + extension.extendedByMs
    deadlineExtensionCount := run.deadlineExtensionCount + 1 }

def extendTask (extension : AdaptiveDeadlineExtension) (task : AgentRuntimeTask) :
    AgentRuntimeTask :=
  { task with
    deadlineAt := extension.deadlineAtMs
    lastDeadlineExtensionOperationKey := some extension.operationKey
    lastDeadlineExtensionProgressKey :=
      match truthy extension.progressKey with
      | some key => some key
      | none => task.lastDeadlineExtensionProgressKey }

def heartbeat (leaseSeconds : Nat) (taskId : String) (input : LeaseInput) (now : Int)
    (run : ExecutionRun) (row : AttemptRow) : Except TaskError TaskCommit := do
  requireLease row.task input now
  if cancelled now run row.task then
    return {
      answer := .heartbeat .cancel run.deadlineAt run.hardDeadlineAt
        (row.task.leaseExpiresAt.getD now) none
      run, row }
  throwIf (!row.task.status.held) (.conflict "The Runtime task is already terminal.")
  let leaseExpiresAt := leaseExpiry leaseSeconds now
  throwIf (!leaseWhere row.task input now) .staleLease
  let task :=
    { row.task with lastHeartbeatAt := some now, leaseExpiresAt := some leaseExpiresAt }
  let browserExecution := row.browserExecution.map
    (renewPermit taskId row.task.fencingToken (min leaseExpiresAt run.deadlineAt))
  match grantedExtension now run row.task with
  | none =>
      return {
        answer := .heartbeat .proceed run.deadlineAt run.hardDeadlineAt leaseExpiresAt none
        run
        row := { row with task, browserExecution } }
  | some extension =>
      return {
        answer := .heartbeat .proceed extension.deadlineAtMs run.hardDeadlineAt leaseExpiresAt
          (some extension.extendedByMs)
        run := extendRun extension run
        row := { row with task := extendTask extension task, browserExecution } }

/-! `appendEvent`. -/

def traceKey (segmentId : String) (number : Nat) : String :=
  segmentId ++ ":" ++ toString number

def meaningfulKey (segmentId : String) (progress : Option RuntimeProgress) : Option String :=
  match progress with
  | some report => if report.meaningful then some (traceKey segmentId report.sequence) else none
  | none => none

def noteProgress (key : Option String) (task : AgentRuntimeTask) : AgentRuntimeTask :=
  match key with
  | some key => { task with lastMeaningfulProgressKey := some key }
  | none => task

def beginOperation (operation key : String) (recordedAt : Int) (task : AgentRuntimeTask) :
    AgentRuntimeTask :=
  { task with
    activeOperation := some operation
    activeOperationKey := some key
    activeOperationStartedAt := some recordedAt
    lastProgressAt := some recordedAt }

def endOperation (recordedAt : Int) (task : AgentRuntimeTask) : AgentRuntimeTask :=
  { task with
    activeOperation := none
    activeOperationKey := none
    activeOperationStartedAt := none
    lastProgressAt := some recordedAt }

def endModel (completed : Option String) (durationMs : Nat) (recordedAt : Int)
    (task : AgentRuntimeTask) : AgentRuntimeTask :=
  let latency : Int := min 2147483647 durationMs
  { endOperation recordedAt task with
    lastModelCompletedAt := completed.map fun _ => recordedAt
    lastModelLatencyMs := some latency
    lastModelOperationKey := completed
    modelLatencyEwmaMs := some ((task.modelLatencyEwmaMs.map fun previous =>
      smoothed previous latency).getD latency)
    modelLatencyMaxMs := max task.modelLatencyMaxMs latency }

def recordRuntimeProgress (event : TraceEvent) (recordedAt : Int) (task : AgentRuntimeTask) :
    AgentRuntimeTask :=
  match event with
  | .modelStarted segmentId step progress =>
      beginOperation "MODEL" (traceKey segmentId step) recordedAt
        (noteProgress (meaningfulKey segmentId progress) task)
  | .modelCompleted segmentId step durationMs =>
      endModel (some (traceKey segmentId step)) durationMs recordedAt task
  | .modelFailed _ _ durationMs => endModel none durationMs recordedAt task
  | .toolStarted segmentId step =>
      beginOperation "TOOL" (traceKey segmentId step) recordedAt task
  | .toolCompleted segmentId succeeded progress =>
      endOperation recordedAt
        (noteProgress (if succeeded then meaningfulKey segmentId progress else none) task)
  | .toolFailed _ => endOperation recordedAt task
  | .segmentCompleted _ => endOperation recordedAt task
  | .segmentStarted _ => { task with lastProgressAt := some recordedAt }
  | .other => task

/-- `refused` is an exception of the checks of the event's payload; `event` is what
`runtimeTraceEventSchema` reads in it. -/
def appendEvent (taskId : String) (input : LeaseInput) (now : Int) (eventId : String)
    (event : Option TraceEvent) (refused : Option TaskError) (recordedAt : Int)
    (events : List (String × String)) (run : ExecutionRun) (row : AttemptRow) :
    Except TaskError TaskCommit := do
  requireLease row.task input now
  lockCurrentLease row.task input now
  match events.lookup eventId with
  | some owner =>
      throwIf (owner != taskId) .uniqueConstraint
      return { answer := .event, run, row }
  | none =>
      match refused with
      | some failure => throw failure
      | none =>
          return {
            answer := .event
            run
            row :=
              { row with
                task :=
                  match event with
                  | some trace => recordRuntimeProgress trace recordedAt row.task
                  | none => row.task }
            event := some eventId }

/-! `submitOutcome`. -/

def auditedOwner (taskId : String) (task : AgentRuntimeTask) (session : BrowserRuntimeSession) :
    Bool :=
  (truthy session.launchId).isSome && session.launchIdentityVersion == some 1 &&
    (truthy session.launchHostInstanceId).isSome && session.launchConnectionGeneration.isSome &&
    session.ownerTaskId == some taskId && session.ownerFencingToken == some task.fencingToken

/-- The browser may have written: no settled write outcome, and no audit without writes. -/
def writeUncertain (taskId : String) (row : AttemptRow) : Bool :=
  match row.browserExecution.bind BrowserExecution.runtimeSession with
  | none => true
  | some session =>
      match row.browserExecution.bind BrowserExecution.writeOutcomeState with
      | some state => !writeSettled state
      | none =>
          !(auditedOwner taskId row.task session && session.commands.auditedLaunch &&
            session.commands.potentialWrites == 0)

def needsAudit : RuntimeOutcome → Bool
  | .retryableFailure .. => true
  | .fatalFailure .. => true
  | .verificationCompleted _ _ termination => termination.isSome
  | .waitingHuman .. => false

def unknownWriteFailure (originalError : ErrorCause) (verification : Option ProductVerdict) :
    RuntimeOutcome :=
  .fatalFailure .blocked
    { code := "WRITE_OUTCOME_UNKNOWN"
      failureClass := originalError.failureClass
      message :=
        "Browser execution stopped after a possible write; reconcile the affected state before retrying."
      phase := some "browser_verification"
      originalError := some originalError
      verification }
    (slice originalError.message 7000 ++ "\n写操作结果尚未确认，当前执行等待状态核对。")

def blockUnknownWrite (outcome : RuntimeOutcome) : RuntimeOutcome :=
  match outcome with
  | .verificationCompleted verdict summary (some reason) =>
      unknownWriteFailure
        { code := reason.code
          failureClass := .toolExecution
          message := summary
          phase := some "browser_verification" }
        (some verdict)
  | .retryableFailure _ error _ => unknownWriteFailure error.toErrorCause none
  | .fatalFailure _ error _ => unknownWriteFailure error.toErrorCause none
  | other => other

def demoteLostSession (outcome : RuntimeOutcome) : RuntimeOutcome :=
  match outcome with
  | .verificationCompleted verdict summary (some .runtimeSessionUnavailable) =>
      .fatalFailure .runtimeLost
        { code := "RUNTIME_SESSION_UNAVAILABLE"
          failureClass := .runtimeLost
          message := summary
          phase := some "browser_verification"
          verification := some verdict }
        summary
  | other => other

def writeOutcomeUnknown (taskId : String) (row : AttemptRow) (outcome : RuntimeOutcome) : Bool :=
  needsAudit outcome && writeUncertain taskId row

def acceptedOutcome (taskId : String) (row : AttemptRow) (outcome : RuntimeOutcome) :
    RuntimeOutcome :=
  demoteLostSession
    (if writeOutcomeUnknown taskId row outcome then blockUnknownWrite outcome else outcome)

def projectionOf (run : ExecutionRun) (row : AttemptRow) (outcome : RuntimeOutcome) :
    OutcomeProjection :=
  projectRuntimeOutcome row.attempt.number outcome
    (effectiveRetryPolicy run.executionPolicy.browser outcome run.executionPolicy.retryPolicy)

def acknowledgedStatus : TaskStatus → TaskStatus
  | .waitingHuman => .waitingHuman
  | .succeeded => .succeeded
  | .timedOut => .timedOut
  | _ => .failed

def scheduleNextAttempt (run : ExecutionRun) (row : AttemptRow) (nextAttemptId : String) :
    Except TaskError AttemptRow :=
  match row.task.browserPolicy with
  | none => .error (.conflict "The retry has no Browser execution policy.")
  | some _ =>
      .ok
        { attempt := { id := nextAttemptId, number := row.attempt.number + 1 }
          task :=
            { capability := row.task.capability
              browserPolicy := row.task.browserPolicy
              deadlineAt := run.deadlineAt }
          browserExecution := some {} }

def waitDeadline (requestedAt : Int) (run : ExecutionRun) (expiresAt : Option Int) : Int :=
  hitlWaitDeadline run.deadlineAt (deadlinePolicyPausesHumanWait run.executionPolicy.deadline)
    run.executionPolicy.hitl.timeoutSeconds requestedAt expiresAt

def preserveSession (expiresAt : Int) (execution : BrowserExecution) : BrowserExecution :=
  { execution with
    runtimeSession := execution.runtimeSession.map fun session =>
      if session.status = .opening ∨ session.status = .active ∨ session.status = .humanControl then
        { session with leaseExpiresAt := expiresAt }
      else session }

def completedRow (completionId : String) (completedAt : Int) (unknownWrite : Bool)
    (outcome : RuntimeOutcome) (projection : OutcomeProjection) (row : AttemptRow) : AttemptRow :=
  let finishedAt := if outcome.isWaiting then none else some completedAt
  { row with
    attempt :=
      { row.attempt with
        error := outcome.runtimeError
        failureClass := outcome.runtimeError.map fun error => error.failureClass
        finishedAt
        result := some outcome
        status := projection.attemptStatus }
    task :=
      { row.task with
        completionId := some completionId
        recoveryStatus :=
          if unknownWrite then some .writeOutcomeUnknown else row.task.recoveryStatus
        error := outcome.runtimeError
        finishedAt
        leaseExpiresAt := none
        leaseOwner := none
        leaseToken := none
        result := some outcome
        status := projection.taskStatus } }

def awaitHuman (requestedAt : Int) (run : ExecutionRun) (expiresAt : Option Int)
    (row : AttemptRow) : AttemptRow :=
  let deadline := waitDeadline requestedAt run expiresAt
  { row with
    task :=
      if deadlinePolicyPausesHumanWait run.executionPolicy.deadline then
        { row.task with deadlineAt := deadline }
      else row.task
    browserExecution := row.browserExecution.map (preserveSession deadline)
    interventionPending := true }

def completedRun (completedAt : Int) (pausedDeadlineAt : Option Int) (isWaiting : Bool)
    (projection : OutcomeProjection) (run : ExecutionRun) : ExecutionRun :=
  { run with
    executionDisposition := projection.executionDisposition
    finishedAt :=
      if projection.nextAttemptScheduled || isWaiting then none else some completedAt
    lifecycle := projection.lifecycle
    verdict := projection.verdict
    deadlineAt := pausedDeadlineAt.getD run.deadlineAt }

structure Submission where
  completionId : String
  completedAt : Int
  outcome : RuntimeOutcome
  refused : Option TaskError := none
  requestedAt : Int := 0
  nextAttemptId : String := ""
  nextTaskId : String := ""
  named : completionId ≠ "" := by decide
  deriving Repr, DecidableEq

def writeOutcome (taskId : String) (submission : Submission) (run : ExecutionRun)
    (row : AttemptRow) : Except TaskError TaskCommit := do
  let outcome := acceptedOutcome taskId row submission.outcome
  let projection := projectionOf run row outcome
  let completed := completedRow submission.completionId submission.completedAt
    (writeOutcomeUnknown taskId row submission.outcome) outcome projection row
  let answer := TaskAnswer.outcome row.attempt.number projection.lifecycle
    projection.nextAttemptScheduled projection.taskStatus
  match outcome with
  | .waitingHuman _ expiresAt =>
      throwIf (!run.executionPolicy.hitl.enabled) (.conflict "HITL is disabled for this Run.")
      let pausedDeadlineAt :=
        if deadlinePolicyPausesHumanWait run.executionPolicy.deadline then
          some (waitDeadline submission.requestedAt run expiresAt)
        else none
      return {
        answer
        run := completedRun submission.completedAt pausedDeadlineAt true projection run
        row := awaitHuman submission.requestedAt run expiresAt completed }
  | _ =>
      let written := completedRun submission.completedAt none false projection run
      if projection.nextAttemptScheduled then
        let next ← scheduleNextAttempt run row submission.nextAttemptId
        return {
          answer
          run := { written with currentAttemptNumber := row.attempt.number + 1 }
          row := completed
          next := some (submission.nextTaskId, next) }
      else return { answer, run := written, row := completed }

def submitOutcome (taskId : String) (input : LeaseInput) (now : Int) (submission : Submission)
    (run : ExecutionRun) (row : AttemptRow) : Except TaskError TaskCommit := do
  match truthy row.task.completionId with
  | some completionId =>
      throwIf (completionId != submission.completionId)
        (.conflict "The Runtime task already accepted a different completion.")
      return {
        answer := .outcome row.attempt.number run.lifecycle
          (decide (row.attempt.number < run.currentAttemptNumber))
          (acknowledgedStatus row.task.status)
        run, row }
  | none =>
      requireLease row.task input now
      lockCurrentLease row.task input now
      throwIf (!row.task.status.held) (.conflict "The Runtime task is already terminal.")
      throwIf (run.cancelRequestedAt.isSome || run.lifecycle == .cancelled ||
          run.lifecycle == .timedOut)
        (.conflict "The run no longer accepts outcomes.")
      match submission.refused with
      | some failure => throw failure
      | none => writeOutcome taskId submission run row

/-! `recoverExpiredLeases`. -/

def unclaimableHumanResume (now : Int) (run : ExecutionRun) (row : AttemptRow) : Bool :=
  row.task.status == .pending && row.task.startedAt.isSome && row.task.recoveryStatus.isNone &&
    run.cancelRequestedAt.isNone && now < run.deadlineAt && run.lifecycle.executable &&
    (row.browserExecution.bind BrowserExecution.runtimeSession).any fun session =>
      !sessionUsable now session

def leaseLostError (humanResume : Bool) : RuntimeError :=
  { code := if humanResume then "HUMAN_RESUME_SESSION_LOST" else "RUNTIME_LEASE_LOST"
    failureClass := .runtimeLost
    message :=
      if humanResume then
        "The preserved browser is no longer usable after human input; verified recovery is required."
      else "Agent ownership expired; the old browser must stop before retrying."
    phase := some "browser_verification" }

def revokeSession (taskId : String) (fencingToken : Nat) (now : Int)
    (execution : BrowserExecution) : BrowserExecution :=
  { execution with
    runtimeSession := execution.runtimeSession.map fun session =>
      if session.ownerTaskId = some taskId ∧ session.ownerFencingToken = some fencingToken ∧
          session.closureVerifiedAt = none ∧ session.status ≠ .closed then
        { session with executionPermitExpiresAt := some now, quarantinedAt := some now }
      else session }

def lapsed (now : Int) (humanResume : Bool) (fencingToken : Nat) (run : ExecutionRun)
    (row : AttemptRow) : Bool :=
  row.task.fencingToken == fencingToken &&
    if humanResume then unclaimableHumanResume now run row
    else row.task.status == .running && row.task.leaseExpiresAt.any (· ≤ now)

/-- The first sweep takes the lease from a task; `fencingToken` is the one the sweep had read. -/
def loseLease (taskId : String) (now : Int) (humanResume : Bool) (fencingToken : Nat)
    (run : ExecutionRun) (row : AttemptRow) : Except TaskError TaskCommit :=
  if lapsed now humanResume fencingToken run row then
    .ok
      { answer := .none
        run
        row :=
          { row with
            attempt :=
              { row.attempt with
                status := .failed
                finishedAt := some now
                failureClass := some .runtimeLost
                error := some (leaseLostError humanResume) }
            task :=
              { row.task with
                status := .failed
                fencingToken := row.task.fencingToken + 1
                leaseOwner := none
                leaseToken := none
                leaseExpiresAt := none
                leaseLostAt := some now
                recoveryStatus := some (if humanResume then .hitlClosing else .pending)
                recoveryNextAttemptAt := some now }
            browserExecution := row.browserExecution.map fun execution =>
              let revoked := revokeSession taskId row.task.fencingToken now execution
              if humanResume then
                { revoked with status := .lost, error := some (leaseLostError true).code }
              else revoked } }
  else .ok { answer := .none, run, row }

def RecoveryStatus.waiting : RecoveryStatus → Bool
  | .pending | .closing | .hitlClosing => true
  | _ => false

def recovering (task : AgentRuntimeTask) : Bool :=
  task.recoveryStatus.any RecoveryStatus.waiting

def deferRecovery (now : Int) (humanResume : Bool) (fencingToken : Nat) (run : ExecutionRun)
    (row : AttemptRow) : Except TaskError TaskCommit :=
  if row.task.fencingToken = fencingToken ∧ run.cancelRequestedAt = none ∧
      run.lifecycle.executable = true ∧ recovering row.task = true then
    .ok
      { answer := .none
        run
        row :=
          { row with
            task :=
              { row.task with
                recoveryStatus := some (if humanResume then .hitlClosing else .closing)
                recoveryNextAttemptAt := some (now + 5000) } } }
  else .ok { answer := .none, run, row }

structure PendingOutcome where
  reason : TerminationReason
  summary : String
  deriving Repr, DecidableEq

def verifiedClosed (row : AttemptRow) : Bool :=
  (row.browserExecution.bind BrowserExecution.runtimeSession).any fun session =>
    session.closureVerifiedAt.isSome && (truthy session.closureEvidenceId).isSome

/-- The write outcome of the session's recovery is not settled; without one it is unknown. -/
def unknownWrite (row : AttemptRow) : Bool :=
  match row.browserExecution.bind BrowserExecution.runtimeSession with
  | none => true
  | some _ =>
      !writeSettled ((row.browserExecution.bind BrowserExecution.writeOutcomeState).getD .unknown)

def recoveredError (decision : RecoveryStatus) (pending : Option PendingOutcome) : RuntimeError :=
  let unknown := decision == .writeOutcomeUnknown
  match pending with
  | some checkpoint =>
      { code := if unknown then "WRITE_OUTCOME_UNKNOWN" else "OUTCOME_SUBMISSION_UNCONFIRMED"
        failureClass := .runtimeLost
        message := "执行器已停止，但结果提交未获确认；保留原始原因，需核对写入与验收证据。"
        phase := some "browser_verification"
        pendingReason := some checkpoint.reason }
  | none =>
      { code := if unknown then "WRITE_OUTCOME_UNKNOWN" else "RUNTIME_LEASE_LOST"
        failureClass := .runtimeLost
        message :=
          if unknown then
            "A browser operation may have changed business data; reconcile state before replaying."
          else "The Runtime lease was lost."
        phase := some "browser_verification" }

def recoveredOutcome (error : RuntimeError) (pending : PendingOutcome) : RuntimeOutcome :=
  .fatalFailure .blocked error
    (slice pending.summary 7000 ++ "\n结果提交未获确认；待核对内容不作为已接受的产品结论。")

def recoveredRow (now : Int) (decision : RecoveryStatus) (pending : Option PendingOutcome)
    (row : AttemptRow) : AttemptRow :=
  let error := recoveredError decision pending
  let task :=
    { row.task with
      recoveryStatus := some decision
      recoveryNextAttemptAt := none
      finishedAt := some now
      error := some error }
  match pending with
  | none => { row with task }
  | some checkpoint =>
      { row with
        task := { task with result := some (recoveredOutcome error checkpoint) }
        attempt :=
          { row.attempt with
            result := some (recoveredOutcome error checkpoint)
            error := some error
            failureClass := some .runtimeLost
            status := .failed
            finishedAt := some now } }

def endRun (now : Int) (blocked : Bool) (run : ExecutionRun) : ExecutionRun :=
  if run.lifecycle.terminal then run
  else
    { run with
      lifecycle := if run.deadlineAt ≤ now then .timedOut else .completed
      verdict := none
      executionDisposition := some (if blocked then .blocked else .runtimeLost)
      finishedAt := some now }

structure RecoverySweep where
  expiredRun : Bool
  pending : Option PendingOutcome := none
  released : Bool := true
  nextAttemptId : String := ""
  nextTaskId : String := ""
  deriving Repr, DecidableEq

def recoveryDecision (now : Int) (sweep : RecoverySweep) (run : ExecutionRun)
    (row : AttemptRow) : RecoveryStatus :=
  leaseRecoveryDecision (verifiedClosed row) (unknownWrite row)
    (sweep.pending.isSome || sweep.expiredRun || run.deadlineAt ≤ now ||
      run.cancelRequestedAt.isSome || run.lifecycle.terminal)
    run.infrastructureRecoveryCount row.attempt.number run.maxAttempts

def completeRecovery (now : Int) (sweep : RecoverySweep) (run : ExecutionRun)
    (row : AttemptRow) : Except TaskError TaskCommit := do
  let decision := recoveryDecision now sweep run row
  if !recovering row.task then return { answer := .none, run, row }
  let recovered := recoveredRow now decision sweep.pending row
  throwIf ((row.browserExecution.bind BrowserExecution.runtimeSession).isSome &&
      !unknownWrite row && verifiedClosed row && !sweep.released)
    (.conflict
      "The session has no matching durable closure proof; its recovery cannot be replayed.")
  if decision = .retryScheduled then
    let next ← scheduleNextAttempt run row sweep.nextAttemptId
    return {
      answer := .decision decision
      run :=
        { run with
          infrastructureRecoveryCount := run.infrastructureRecoveryCount + 1
          lifecycle := .queued
          executionDisposition := some .runtimeLost
          currentAttemptNumber := row.attempt.number + 1 }
      row := recovered
      next := some (sweep.nextTaskId, next) }
  else
    return {
      answer := .decision decision
      run :=
        endRun now (sweep.pending.isSome || decision == .writeOutcomeUnknown) run
      row := recovered }

end TaskService

end Devproof
