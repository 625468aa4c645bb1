import Devproof.AgentRuntime.RunMoves

/-!
What the transactions of a run can do to the columns of a task, stated once for
the invariants of its runs.
-/

namespace Devproof

open TaskService

structure SameLease (before after : AgentRuntimeTask) : Prop where
  fencingToken : after.fencingToken = before.fencingToken
  leaseOwner : after.leaseOwner = before.leaseOwner
  leaseToken : after.leaseToken = before.leaseToken

structure SameOutcome (before after : AgentRuntimeTask) : Prop where
  status : after.status = before.status
  completionId : after.completionId = before.completionId
  result : after.result = before.result

theorem SameLease.refl (task : AgentRuntimeTask) : SameLease task task :=
  ⟨rfl, rfl, rfl⟩

theorem SameOutcome.refl (task : AgentRuntimeTask) : SameOutcome task task :=
  ⟨rfl, rfl, rfl⟩

/-- A next attempt: numbered after its predecessor, below the bound, and made only when the
predecessor's writes are known. -/
structure Scheduled (taskId : String) (maxAttempts : Nat) (row next : AttemptRow) : Prop where
  below : row.attempt.number < maxAttempts
  settled : writeUncertain taskId row = false
  numbered : next.attempt.number = row.attempt.number + 1
  pending : next.task.status = .pending
  unclaimed : next.task.leaseOwner = none
  calm : recovering next.task = false
  undisturbed : next.interventionPending = false

structure Unfenced (run : ExecutionRun) (row : AttemptRow) (commit : TaskCommit)
    (request : TaskRequest) : Prop where
  unclaimed : ∀ fencingToken leaseToken leaseExpiresAt,
    commit.answer ≠ .claimed fencingToken leaseToken leaseExpiresAt
  untaken : ∀ now humanResume fencingToken, request = .loseLease now humanResume fencingToken →
    lapsed now humanResume fencingToken run row = false

structure Framed (run : ExecutionRun) (row : AttemptRow) (commit : TaskCommit) : Prop where
  maxAttempts : commit.run.maxAttempts = run.maxAttempts
  executionPolicy : commit.run.executionPolicy = run.executionPolicy
  number : commit.row.attempt.number = row.attempt.number
  capability : commit.row.task.capability = row.task.capability

structure OutcomeAccepted (taskId : String) (input : LeaseInput) (now : Int) (submission : Submission)
    (run : ExecutionRun) (row : AttemptRow) (commit : TaskCommit) : Prop where
  framed : Framed run row commit
  holds : holdsLease row.task input now = true
  fresh : truthy row.task.completionId = none
  held : row.task.status.held = true
  fencingToken : commit.row.task.fencingToken = row.task.fencingToken
  released : commit.row.task.leaseOwner = none
  completionId : commit.row.task.completionId = some submission.completionId
  result : commit.row.task.result = some (acceptedOutcome taskId row submission.outcome)
  status : commit.row.task.status =
    (projectionOf run row (acceptedOutcome taskId row submission.outcome)).taskStatus
  calm : recovering commit.row.task = true → recovering row.task = true
  intervention : commit.row.interventionPending =
    (row.interventionPending || (acceptedOutcome taskId row submission.outcome).isWaiting)
  scheduled : ∀ next ∈ commit.next, commit.row.task.status.terminal = true ∧
    Scheduled taskId run.executionPolicy.retryPolicy.maxAttempts row next.2

inductive TaskEffect (taskId : String) (run : ExecutionRun) (row : AttemptRow)
    (commit : TaskCommit) : TaskRequest → Prop where
  /-- A transaction that leaves lease and outcome alone. -/
  | kept {request} : SameLease row.task commit.row.task →
      SameOutcome row.task commit.row.task →
      (recovering commit.row.task = true → recovering row.task = true) →
      commit.row.interventionPending = row.interventionPending → commit.next = none →
      Unfenced run row commit request → TaskEffect taskId run row commit request
  | claimed {leaseSeconds workerId leaseToken now skipped parentDeadlineAt} :
      row.task.status = .pending →
      commit.answer =
        .claimed (row.task.fencingToken + 1) leaseToken (leaseExpiry leaseSeconds now) →
      commit.row.task.fencingToken = row.task.fencingToken + 1 →
      commit.row.task.leaseOwner = some workerId →
      commit.row.task.leaseToken = some leaseToken → commit.row.task.status = .running →
      commit.row.task.completionId = row.task.completionId →
      commit.row.task.result = row.task.result →
      recovering commit.row.task = recovering row.task →
      commit.row.interventionPending = row.interventionPending → commit.next = none →
      TaskEffect taskId run row commit
        (.claim leaseSeconds workerId leaseToken now skipped parentDeadlineAt)
  | accepted {input now submission} : OutcomeAccepted taskId input now submission run row commit →
      TaskEffect taskId run row commit (.submitOutcome input now submission)
  | lost {now humanResume fencingToken} :
      lapsed now humanResume fencingToken run row = true →
      commit.row.task.fencingToken = row.task.fencingToken + 1 →
      commit.row.task.leaseOwner = none → commit.row.task.status = .failed →
      commit.row.task.completionId = row.task.completionId →
      commit.row.interventionPending = row.interventionPending → commit.next = none →
      TaskEffect taskId run row commit (.loseLease now humanResume fencingToken)
  | recovered {now sweep} : recovering row.task = true →
      SameLease row.task commit.row.task → commit.row.task.status = row.task.status →
      commit.row.task.completionId = row.task.completionId →
      commit.row.interventionPending = row.interventionPending →
      (∀ next ∈ commit.next, Scheduled taskId run.maxAttempts row next.2) →
      TaskEffect taskId run row commit (.completeRecovery now sweep)
  | resumed {now executionBudgetSeconds executionMaxExtensionSeconds parentDeadlineAt} :
      row.interventionPending = true → SameLease row.task commit.row.task →
      commit.row.task.status = .pending → commit.row.interventionPending = false →
      recovering commit.row.task = recovering row.task → commit.next = none →
      TaskEffect taskId run row commit
        (.resolveIntervention now executionBudgetSeconds executionMaxExtensionSeconds
          parentDeadlineAt)

theorem withBudget_maxAttempts (now : Int) (budget : Option (Int × Int)) (run : ExecutionRun) :
    (withBudget now budget run).maxAttempts = run.maxAttempts := by
  unfold withBudget
  split <;> rfl

theorem withBudget_executionPolicy (now : Int) (budget : Option (Int × Int))
    (run : ExecutionRun) : (withBudget now budget run).executionPolicy = run.executionPolicy := by
  unfold withBudget
  split <;> rfl

theorem claim_effect {leaseSeconds : Nat} {taskId workerId leaseToken : String} {now : Int}
    {skipped : Bool} {parentDeadlineAt : Option Int} {run : ExecutionRun} {row : AttemptRow}
    {commit : TaskCommit}
    (committed : claim leaseSeconds taskId workerId leaseToken now skipped parentDeadlineAt run row
      = .ok commit) :
    Framed run row commit ∧ TaskEffect taskId run row commit
      (.claim leaseSeconds workerId leaseToken now skipped parentDeadlineAt) := by
  unfold claim at committed
  split at committed
  · cases committed
    exact ⟨⟨rfl, rfl, rfl, rfl⟩, .kept (.refl _) (.refl _) id rfl rfl ⟨by simp, by simp⟩⟩
  · rename_i eligible
    have pending : row.task.status = .pending := by
      simp only [Bool.or_eq_true, Bool.not_eq_true', not_or, claimable] at eligible
      grind
    simp only [bind_ok] at committed
    obtain ⟨budget, -, committed⟩ := committed
    split at committed
    · obtain ⟨_, threw, -⟩ := bind_ok.mp committed
      simp at threw
    · obtain ⟨session, -, returned⟩ := bind_ok.mp committed
      cases returned
      exact ⟨⟨withBudget_maxAttempts .., withBudget_executionPolicy .., rfl, rfl⟩,
        .claimed pending rfl rfl rfl rfl rfl rfl rfl rfl rfl rfl⟩

theorem heartbeat_effect {leaseSeconds : Nat} {taskId : String} {input : LeaseInput} {now : Int}
    {run : ExecutionRun} {row : AttemptRow} {commit : TaskCommit}
    (committed : heartbeat leaseSeconds taskId input now run row = .ok commit) :
    Framed run row commit ∧ TaskEffect taskId run row commit (.heartbeat leaseSeconds input now) := by
  unfold heartbeat at committed
  simp only [requireLease, bind_ok, throwIf_ok] at committed
  obtain ⟨-, holds, committed⟩ := committed
  split at committed
  · cases committed
    exact ⟨⟨rfl, rfl, rfl, rfl⟩, .kept (.refl _) (.refl _) id rfl rfl ⟨by simp, by simp⟩⟩
  · simp only [bind_ok, throwIf_ok] at committed
    obtain ⟨-, held, -, current, committed⟩ := committed
    split at committed
    · cases committed
      exact ⟨⟨rfl, rfl, rfl, rfl⟩, .kept ⟨rfl, rfl, rfl⟩ ⟨rfl, rfl, rfl⟩ id rfl rfl ⟨by simp, by simp⟩⟩
    · cases committed
      exact ⟨⟨rfl, rfl, rfl, rfl⟩, .kept ⟨rfl, rfl, rfl⟩ ⟨rfl, rfl, rfl⟩ id rfl rfl ⟨by simp, by simp⟩⟩

theorem recordRuntimeProgress_kept (event : TraceEvent) (recordedAt : Int)
    (task : AgentRuntimeTask) :
    SameLease task (recordRuntimeProgress event recordedAt task) ∧
      SameOutcome task (recordRuntimeProgress event recordedAt task) ∧
      (recordRuntimeProgress event recordedAt task).recoveryStatus = task.recoveryStatus ∧
      (recordRuntimeProgress event recordedAt task).capability = task.capability := by
  have noted (key : Option String) : SameLease task (noteProgress key task) ∧
      SameOutcome task (noteProgress key task) ∧
      (noteProgress key task).recoveryStatus = task.recoveryStatus ∧
      (noteProgress key task).capability = task.capability := by
    cases key <;> exact ⟨⟨rfl, rfl, rfl⟩, ⟨rfl, rfl, rfl⟩, rfl, rfl⟩
  cases event with
  | modelStarted segmentId step progress =>
      obtain ⟨⟨fence, owner, token⟩, ⟨status, completion, result⟩, recovery, capability⟩ :=
        noted (meaningfulKey segmentId progress)
      exact ⟨⟨fence, owner, token⟩, ⟨status, completion, result⟩, recovery, capability⟩
  | toolCompleted segmentId succeeded progress =>
      obtain ⟨⟨fence, owner, token⟩, ⟨status, completion, result⟩, recovery, capability⟩ :=
        noted (if succeeded then meaningfulKey segmentId progress else none)
      exact ⟨⟨fence, owner, token⟩, ⟨status, completion, result⟩, recovery, capability⟩
  | modelCompleted => exact ⟨⟨rfl, rfl, rfl⟩, ⟨rfl, rfl, rfl⟩, rfl, rfl⟩
  | modelFailed => exact ⟨⟨rfl, rfl, rfl⟩, ⟨rfl, rfl, rfl⟩, rfl, rfl⟩
  | toolStarted => exact ⟨⟨rfl, rfl, rfl⟩, ⟨rfl, rfl, rfl⟩, rfl, rfl⟩
  | toolFailed => exact ⟨⟨rfl, rfl, rfl⟩, ⟨rfl, rfl, rfl⟩, rfl, rfl⟩
  | segmentStarted => exact ⟨⟨rfl, rfl, rfl⟩, ⟨rfl, rfl, rfl⟩, rfl, rfl⟩
  | segmentCompleted => exact ⟨⟨rfl, rfl, rfl⟩, ⟨rfl, rfl, rfl⟩, rfl, rfl⟩
  | other => exact ⟨.refl _, .refl _, rfl, rfl⟩

theorem appendEvent_effect {taskId : String} {input : LeaseInput} {now : Int} {eventId : String}
    {event : Option TraceEvent} {refused : Option TaskError} {recordedAt : Int}
    {events : List (String × String)} {run : ExecutionRun} {row : AttemptRow} {commit : TaskCommit}
    (committed : appendEvent taskId input now eventId event refused recordedAt events run row
      = .ok commit) :
    Framed run row commit ∧ TaskEffect taskId run row commit
      (.appendEvent input now eventId event refused recordedAt) := by
  unfold appendEvent at committed
  simp only [requireLease, lockCurrentLease, bind_ok, throwIf_ok] at committed
  obtain ⟨-, -, -, -, committed⟩ := committed
  split at committed
  · obtain ⟨-, -, returned⟩ := bind_ok.mp committed
    cases returned
    exact ⟨⟨rfl, rfl, rfl, rfl⟩, .kept (.refl _) (.refl _) id rfl rfl ⟨by simp, by simp⟩⟩
  · split at committed
    · simp at committed
    · cases committed
      cases event with
      | none => exact ⟨⟨rfl, rfl, rfl, rfl⟩, .kept (.refl _) (.refl _) id rfl rfl ⟨by simp, by simp⟩⟩
      | some trace =>
          obtain ⟨lease, outcome, recovery, capability⟩ :=
            recordRuntimeProgress_kept trace recordedAt row.task
          refine ⟨⟨rfl, rfl, rfl, capability⟩, .kept lease outcome ?_ rfl rfl ⟨by simp, by simp⟩⟩
          simp only [recovering, recovery]
          exact id

theorem scheduleNextAttempt_ok {run : ExecutionRun} {row next : AttemptRow}
    {nextAttemptId : String} (scheduled : scheduleNextAttempt run row nextAttemptId = .ok next) :
    next.attempt.number = row.attempt.number + 1 ∧ next.task.status = .pending ∧
      next.task.leaseOwner = none ∧ recovering next.task = false ∧
      next.interventionPending = false ∧ next.attempt.id = nextAttemptId := by
  unfold scheduleNextAttempt at scheduled
  split at scheduled
  · cases scheduled
  · cases scheduled
    exact ⟨rfl, rfl, rfl, rfl, rfl, rfl⟩

theorem loseLease_effect {taskId : String} {now : Int} {humanResume : Bool} {fencingToken : Nat}
    {run : ExecutionRun} {row : AttemptRow} {commit : TaskCommit}
    (committed : loseLease taskId now humanResume fencingToken run row = .ok commit) :
    Framed run row commit ∧
      TaskEffect taskId run row commit (.loseLease now humanResume fencingToken) := by
  unfold loseLease at committed
  split at committed
  · rename_i expired
    cases committed
    exact ⟨⟨rfl, rfl, rfl, rfl⟩, .lost expired rfl rfl rfl rfl rfl rfl⟩
  · rename_i unexpired
    cases committed
    refine ⟨⟨rfl, rfl, rfl, rfl⟩, .kept (.refl _) (.refl _) id rfl rfl ⟨by simp, ?_⟩⟩
    rintro _ _ _ ⟨⟩
    simpa using unexpired

theorem deferRecovery_effect {taskId : String} {now : Int} {humanResume : Bool}
    {fencingToken : Nat} {run : ExecutionRun} {row : AttemptRow} {commit : TaskCommit}
    (committed : deferRecovery now humanResume fencingToken run row = .ok commit) :
    Framed run row commit ∧
      TaskEffect taskId run row commit (.deferRecovery now humanResume fencingToken) := by
  unfold deferRecovery at committed
  split at committed
  · rename_i allowed
    cases committed
    exact ⟨⟨rfl, rfl, rfl, rfl⟩,
      .kept ⟨rfl, rfl, rfl⟩ ⟨rfl, rfl, rfl⟩ (fun _ => allowed.2.2.2) rfl rfl ⟨by simp, by simp⟩⟩
  · cases committed
    exact ⟨⟨rfl, rfl, rfl, rfl⟩, .kept (.refl _) (.refl _) id rfl rfl ⟨by simp, by simp⟩⟩

/-- A recovery whose writes are settled leaves nothing uncertain for a submission either. -/
theorem writeUncertain_of_known {taskId : String} {row : AttemptRow}
    (known : unknownWrite row = false) : writeUncertain taskId row = false := by
  unfold unknownWrite at known
  unfold writeUncertain
  split at known
  · cases known
  · cases state : row.browserExecution.bind BrowserExecution.writeOutcomeState with
    | none => simp [state, writeSettled] at known
    | some _ => simpa [state] using known

theorem retryScheduled_iff {closed unknownWrite expired : Bool}
    {infrastructureRecoveries attemptNumber maxAttempts : Nat} :
    leaseRecoveryDecision closed unknownWrite expired infrastructureRecoveries attemptNumber
        maxAttempts = .retryScheduled ↔
      unknownWrite = false ∧ closed = true ∧ expired = false ∧ infrastructureRecoveries = 0 ∧
        attemptNumber < maxAttempts := by
  unfold leaseRecoveryDecision
  cases unknownWrite <;> cases closed <;> cases expired <;> simp

theorem recoveredRow_kept (now : Int) (decision : RecoveryStatus)
    (pending : Option PendingOutcome) (row : AttemptRow) :
    SameLease row.task (recoveredRow now decision pending row).task ∧
      (recoveredRow now decision pending row).task.status = row.task.status ∧
      (recoveredRow now decision pending row).task.completionId = row.task.completionId ∧
      (recoveredRow now decision pending row).interventionPending = row.interventionPending ∧
      (recoveredRow now decision pending row).attempt.number = row.attempt.number ∧
      (recoveredRow now decision pending row).task.capability = row.task.capability := by
  cases pending <;> exact ⟨⟨rfl, rfl, rfl⟩, rfl, rfl, rfl, rfl, rfl⟩

theorem endRun_kept (now : Int) (blocked : Bool) (run : ExecutionRun) :
    (endRun now blocked run).maxAttempts = run.maxAttempts ∧
      (endRun now blocked run).executionPolicy = run.executionPolicy := by
  unfold endRun
  split <;> exact ⟨rfl, rfl⟩

theorem completeRecovery_effect {taskId : String} {now : Int} {sweep : RecoverySweep}
    {run : ExecutionRun} {row : AttemptRow} {commit : TaskCommit}
    (committed : completeRecovery now sweep run row = .ok commit) :
    Framed run row commit ∧ TaskEffect taskId run row commit (.completeRecovery now sweep) := by
  unfold completeRecovery at committed
  simp only at committed
  split at committed
  · cases committed
    exact ⟨⟨rfl, rfl, rfl, rfl⟩, .kept (.refl _) (.refl _) id rfl rfl ⟨by simp, by simp⟩⟩
  · rename_i waiting
    have waits : recovering row.task = true := by simpa using waiting
    obtain ⟨lease, status, completion, intervention, number, capability⟩ :=
      recoveredRow_kept now (recoveryDecision now sweep run row) sweep.pending row
    obtain ⟨-, -, committed⟩ := bind_ok.mp committed
    split at committed
    · rename_i retried
      obtain ⟨next, scheduled, returned⟩ := bind_ok.mp committed
      cases returned
      refine ⟨⟨rfl, rfl, number, capability⟩, .recovered waits lease status completion intervention ?_⟩
      intro entry member
      cases member
      obtain ⟨known, -, -, -, below⟩ := retryScheduled_iff.mp retried
      obtain ⟨numbered, pending, unclaimed, calm, undisturbed, -⟩ :=
        scheduleNextAttempt_ok scheduled
      exact ⟨below, writeUncertain_of_known known, numbered, pending, unclaimed, calm, undisturbed⟩
    · cases committed
      obtain ⟨maxAttempts, executionPolicy⟩ := endRun_kept now
        (sweep.pending.isSome || recoveryDecision now sweep run row == .writeOutcomeUnknown) run
      exact ⟨⟨maxAttempts, executionPolicy, number, capability⟩,
        .recovered waits lease status completion intervention (by simp)⟩

theorem projectFailure_retry {shouldRetry : Bool} {executionDisposition : ExecutionDisposition}
    {failureClass : FailureClass} :
    (projectFailure shouldRetry executionDisposition failureClass).taskStatus.terminal = true := by
  simp only [projectFailure]
  split <;> rfl

theorem effectiveRetryPolicy_maxAttempts (browser : Option AvailabilityPolicy)
    (outcome : RuntimeOutcome) (retryPolicy : RetryPolicy) :
    (effectiveRetryPolicy browser outcome retryPolicy).maxAttempts = retryPolicy.maxAttempts := by
  unfold effectiveRetryPolicy
  split <;> rfl

theorem projection_status (attemptNumber : Nat) (outcome : RuntimeOutcome)
    (retryPolicy : RetryPolicy) :
    if outcome.isWaiting then
      (projectRuntimeOutcome attemptNumber outcome retryPolicy).taskStatus = .waitingHuman
    else (projectRuntimeOutcome attemptNumber outcome retryPolicy).taskStatus.terminal = true := by
  cases outcome with
  | verificationCompleted => rfl
  | waitingHuman => rfl
  | retryableFailure => exact projectFailure_retry
  | fatalFailure => exact projectFailure_retry

theorem projection_scheduled {attemptNumber : Nat} {outcome : RuntimeOutcome}
    {retryPolicy : RetryPolicy}
    (scheduled : (projectRuntimeOutcome attemptNumber outcome retryPolicy).nextAttemptScheduled
      = true) :
    attemptNumber < retryPolicy.maxAttempts ∧ ∃ disposition error summary,
      outcome = .retryableFailure disposition error summary := by
  cases outcome with
  | verificationCompleted => cases scheduled
  | waitingHuman => cases scheduled
  | fatalFailure => cases scheduled
  | retryableFailure disposition error summary =>
      simp only [projectRuntimeOutcome, projectFailure, Bool.and_eq_true,
        decide_eq_true_eq] at scheduled
      exact ⟨scheduled.1, disposition, error, summary, rfl⟩

/-- A retryable failure is only written when the browser's writes are known. -/
theorem acceptedOutcome_retryable {taskId : String} {row : AttemptRow} {outcome : RuntimeOutcome}
    {disposition : ExecutionDisposition} {error : RuntimeError} {summary : String}
    (accepted : acceptedOutcome taskId row outcome = .retryableFailure disposition error summary) :
    writeUncertain taskId row = false := by
  unfold acceptedOutcome writeOutcomeUnknown at accepted
  cases outcome with
  | verificationCompleted verdict summary termination =>
      cases termination with
      | none => simp [needsAudit, demoteLostSession] at accepted
      | some reason =>
          split at accepted
          · simp [blockUnknownWrite, unknownWriteFailure, demoteLostSession] at accepted
          · cases reason <;> simp [demoteLostSession] at accepted
  | waitingHuman => simp [needsAudit, demoteLostSession] at accepted
  | fatalFailure =>
      split at accepted <;>
        simp [blockUnknownWrite, unknownWriteFailure, demoteLostSession] at accepted
  | retryableFailure =>
      split at accepted
      · simp [blockUnknownWrite, unknownWriteFailure, demoteLostSession] at accepted
      · rename_i known
        simpa [needsAudit] using known

/-- A wait for a person moves deadlines only. -/
theorem awaitHuman_kept (requestedAt : Int) (run : ExecutionRun) (expiresAt : Option Int)
    (row : AttemptRow) :
    SameLease row.task (awaitHuman requestedAt run expiresAt row).task ∧
      SameOutcome row.task (awaitHuman requestedAt run expiresAt row).task ∧
      (awaitHuman requestedAt run expiresAt row).task.recoveryStatus = row.task.recoveryStatus ∧
      (awaitHuman requestedAt run expiresAt row).task.capability = row.task.capability := by
  unfold awaitHuman
  simp only
  split <;> exact ⟨⟨rfl, rfl, rfl⟩, ⟨rfl, rfl, rfl⟩, rfl, rfl⟩

theorem writeOutcome_accepted {taskId : String} {input : LeaseInput} {now : Int}
    {submission : Submission} {run : ExecutionRun} {row : AttemptRow} {commit : TaskCommit}
    (holds : holdsLease row.task input now = true)
    (fresh : truthy row.task.completionId = none) (held : row.task.status.held = true)
    (committed : writeOutcome taskId submission run row = .ok commit) :
    OutcomeAccepted taskId input now submission run row commit := by
  unfold writeOutcome at committed
  simp only at committed
  have calm : recovering (completedRow submission.completionId submission.completedAt
      (writeOutcomeUnknown taskId row submission.outcome)
      (acceptedOutcome taskId row submission.outcome)
      (projectionOf run row (acceptedOutcome taskId row submission.outcome)) row).task = true →
      recovering row.task = true := by
    simp only [recovering, completedRow]
    split
    · simp [RecoveryStatus.waiting]
    · exact id
  split at committed
  · rename_i summary expiresAt waits
    obtain ⟨-, -, returned⟩ := bind_ok.mp committed
    cases returned
    have waiting : (acceptedOutcome taskId row submission.outcome).isWaiting = true := by
      rw [waits]
      rfl
    obtain ⟨lease, same, recovery, capability⟩ := awaitHuman_kept submission.requestedAt run expiresAt
      (completedRow submission.completionId submission.completedAt
        (writeOutcomeUnknown taskId row submission.outcome)
        (acceptedOutcome taskId row submission.outcome)
        (projectionOf run row (acceptedOutcome taskId row submission.outcome)) row)
    refine ⟨⟨rfl, rfl, rfl, capability⟩, holds, fresh, held, lease.fencingToken, lease.leaseOwner,
      same.completionId, same.result, same.status, ?_, ?_, by simp⟩
    · simp only [recovering, recovery]
      exact calm
    · rw [waiting, Bool.or_true]
      rfl
  · rename_i notWaiting
    have waiting : (acceptedOutcome taskId row submission.outcome).isWaiting = false := by
      cases outcome : acceptedOutcome taskId row submission.outcome with
      | waitingHuman summary expiresAt => exact absurd outcome (notWaiting summary expiresAt)
      | _ => rfl
    have undisturbed : row.interventionPending = (row.interventionPending ||
        (acceptedOutcome taskId row submission.outcome).isWaiting) := by
      rw [waiting, Bool.or_false]
    split at committed
    · rename_i retried
      obtain ⟨next, scheduled, returned⟩ := bind_ok.mp committed
      cases returned
      refine ⟨⟨rfl, rfl, rfl, rfl⟩, holds, fresh, held, rfl, rfl, rfl, rfl, rfl, calm, undisturbed, ?_⟩
      intro entry member
      cases member
      obtain ⟨below, disposition, error, summary, retryable⟩ := projection_scheduled retried
      rw [effectiveRetryPolicy_maxAttempts] at below
      obtain ⟨numbered, pending, unclaimed, quiet, undisturbed, -⟩ :=
        scheduleNextAttempt_ok scheduled
      refine ⟨?_, below, acceptedOutcome_retryable retryable, numbered, pending, unclaimed, quiet,
        undisturbed⟩
      have status := projection_status row.attempt.number
        (acceptedOutcome taskId row submission.outcome)
        (effectiveRetryPolicy run.executionPolicy.browser
          (acceptedOutcome taskId row submission.outcome) run.executionPolicy.retryPolicy)
      rw [waiting] at status
      exact status
    · cases committed
      exact ⟨⟨rfl, rfl, rfl, rfl⟩, holds, fresh, held, rfl, rfl, rfl, rfl, rfl, calm, undisturbed,
        by simp⟩

theorem submitOutcome_cases {taskId : String} {input : LeaseInput} {now : Int}
    {submission : Submission} {run : ExecutionRun} {row : AttemptRow} {commit : TaskCommit}
    (committed : submitOutcome taskId input now submission run row = .ok commit) :
    (truthy row.task.completionId = some submission.completionId ∧ commit.run = run ∧
        commit.row = row ∧ commit.next = none ∧ commit.event = none ∧
        ∀ fencingToken leaseToken leaseExpiresAt,
          commit.answer ≠ .claimed fencingToken leaseToken leaseExpiresAt) ∨
      OutcomeAccepted taskId input now submission run row commit := by
  unfold submitOutcome at committed
  split at committed
  · rename_i completionId held
    obtain ⟨_, same, returned⟩ := bind_ok.mp committed
    cases returned
    refine Or.inl ⟨?_, rfl, rfl, rfl, rfl, by simp⟩
    rw [held]
    simpa using same
  · rename_i fresh
    simp only [requireLease, lockCurrentLease, bind_ok, throwIf_ok, Bool.not_eq_false'] at committed
    obtain ⟨-, holds, -, -, -, held, -, -, committed⟩ := committed
    split at committed
    · simp at committed
    · exact Or.inr (writeOutcome_accepted holds fresh held committed)

theorem submitOutcome_effect {taskId : String} {input : LeaseInput} {now : Int}
    {submission : Submission} {run : ExecutionRun} {row : AttemptRow} {commit : TaskCommit}
    (committed : submitOutcome taskId input now submission run row = .ok commit) :
    Framed run row commit ∧
      TaskEffect taskId run row commit (.submitOutcome input now submission) := by
  rcases submitOutcome_cases committed with ⟨-, sameRun, same, unscheduled, -, unclaimed⟩ | accepted
  · exact ⟨⟨sameRun ▸ rfl, sameRun ▸ rfl, same ▸ rfl, same ▸ rfl⟩,
      .kept (same ▸ .refl _) (same ▸ .refl _) (same ▸ id) (same ▸ rfl) unscheduled
        ⟨unclaimed, by simp⟩⟩
  · exact ⟨accepted.framed, .accepted accepted⟩

theorem resolveIntervention_effect {taskId : String} {now : Int}
    {executionBudgetSeconds executionMaxExtensionSeconds : Nat} {parentDeadlineAt : Option Int}
    {run : ExecutionRun} {row : AttemptRow} {commit : TaskCommit}
    (committed : RunServices.resolveIntervention now executionBudgetSeconds
      executionMaxExtensionSeconds parentDeadlineAt run row = .ok commit) :
    Framed run row commit ∧ TaskEffect taskId run row commit
      (.resolveIntervention now executionBudgetSeconds executionMaxExtensionSeconds
        parentDeadlineAt) := by
  unfold RunServices.resolveIntervention at committed
  simp only [bind_ok, throwIf_ok, Bool.not_eq_false'] at committed
  obtain ⟨-, pending, -, -, -, -, committed⟩ := committed
  split at committed
  · simp at committed
  · cases committed
    exact ⟨⟨rfl, rfl, rfl, rfl⟩, .resumed pending ⟨rfl, rfl, rfl⟩ rfl rfl rfl rfl⟩

theorem resolveRecovery_effect {taskId : String} {authorizeRetry : Bool} {run : ExecutionRun}
    {row : AttemptRow} {commit : TaskCommit}
    (committed : RunServices.resolveRecovery authorizeRetry run row = .ok commit) :
    Framed run row commit ∧ TaskEffect taskId run row commit (.resolveRecovery authorizeRetry) := by
  unfold RunServices.resolveRecovery at committed
  split at committed
  · cases committed
  · simp only [bind_ok, throwIf_ok] at committed
    obtain ⟨-, -, -, -, -, -, -, -, returned⟩ := committed
    cases returned
    exact ⟨⟨rfl, rfl, rfl, rfl⟩,
      .kept ⟨rfl, rfl, rfl⟩ ⟨rfl, rfl, rfl⟩ (by simp [recovering, RecoveryStatus.waiting])
        rfl rfl ⟨by simp, by simp⟩⟩

theorem settleOwner_effect {taskId : String} {settled : Bool} {run : ExecutionRun}
    {row : AttemptRow} {commit : TaskCommit}
    (committed : RunServices.settleOwner settled run row = .ok commit) :
    Framed run row commit ∧ TaskEffect taskId run row commit (.settleOwner settled) := by
  unfold RunServices.settleOwner at committed
  split at committed
  · cases committed
    exact ⟨⟨rfl, rfl, rfl, rfl⟩, .kept (.refl _) (.refl _) id rfl rfl ⟨by simp, by simp⟩⟩
  · simp only at committed
    split at committed
    · cases committed
      exact ⟨⟨rfl, rfl, rfl, rfl⟩,
        .kept ⟨rfl, rfl, rfl⟩ ⟨rfl, rfl, rfl⟩ (by simp [recovering, RecoveryStatus.waiting])
          rfl rfl ⟨by simp, by simp⟩⟩
    · split at committed
      · cases committed
        exact ⟨⟨rfl, rfl, rfl, rfl⟩,
          .kept ⟨rfl, rfl, rfl⟩ ⟨rfl, rfl, rfl⟩ (by simp [recovering, RecoveryStatus.waiting])
            rfl rfl ⟨by simp, by simp⟩⟩
      · cases committed
        exact ⟨⟨rfl, rfl, rfl, rfl⟩, .kept (.refl _) (.refl _) id rfl rfl ⟨by simp, by simp⟩⟩

theorem reserveStartup_effect {taskId : String} {closing : Bool} {nextAttemptAt : Option Int}
    {run : ExecutionRun} {row : AttemptRow} {commit : TaskCommit}
    (committed : RunServices.reserveStartup closing nextAttemptAt run row = .ok commit) :
    Framed run row commit ∧
      TaskEffect taskId run row commit (.reserveStartup closing nextAttemptAt) := by
  unfold RunServices.reserveStartup at committed
  simp only at committed
  split at committed
  · cases committed
    refine ⟨⟨rfl, rfl, rfl, rfl⟩, .kept ⟨rfl, rfl, rfl⟩ ⟨rfl, rfl, rfl⟩ ?_ rfl rfl ⟨by simp, by simp⟩⟩
    cases closing <;> simp [recovering, RecoveryStatus.waiting]
  · cases committed
    exact ⟨⟨rfl, rfl, rfl, rfl⟩, .kept (.refl _) (.refl _) id rfl rfl ⟨by simp, by simp⟩⟩

theorem request_effect {taskId : String} {events : List (String × String)} {request : TaskRequest}
    {run : ExecutionRun} {row : AttemptRow} {commit : TaskCommit}
    (committed : request.perform taskId events run row = .ok commit) :
    Framed run row commit ∧ TaskEffect taskId run row commit request := by
  cases request with
  | claim => exact claim_effect committed
  | heartbeat => exact heartbeat_effect committed
  | appendEvent => exact appendEvent_effect committed
  | submitOutcome => exact submitOutcome_effect committed
  | loseLease => exact loseLease_effect committed
  | deferRecovery => exact deferRecovery_effect committed
  | completeRecovery => exact completeRecovery_effect committed
  | resolveRecovery => exact resolveRecovery_effect committed
  | settleOwner => exact settleOwner_effect committed
  | resolveIntervention => exact resolveIntervention_effect committed
  | reserveStartup => exact reserveStartup_effect committed
  | browserChanged =>
      cases committed
      exact ⟨⟨rfl, rfl, rfl, rfl⟩, .kept (.refl _) (.refl _) id rfl rfl ⟨by simp, by simp⟩⟩

end Devproof
