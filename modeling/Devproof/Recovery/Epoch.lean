import Devproof.AgentRuntime.Rows

/-!
One epoch of a browser session: the session row with its fence and lease token,
the recovery row keyed by the session and that fence, the resource leases of
the session and the stored closure evidence.
-/

namespace Devproof.SessionRecovery

inductive ClosureState where
  | observed
  | requested
  | closing
  | verified
  | retryWait
  | waitingRuntime
  | needsOperator
  deriving Repr, DecidableEq

inductive SessionPurpose where
  | execution
  | profilePreparation
  | profileVerification
  | profilePurge
  deriving Repr, DecidableEq

inductive ClosureMethod where
  | liveSessionTerminated
  | identifiedProcessSetTerminated
  | launchPrevented
  | controlPlaneNoLaunch
  | adminDrainAttestation
  deriving Repr, DecidableEq

inductive LeaseMode where
  | read
  | write
  deriving Repr, DecidableEq

inductive LeaseOrigin where
  | normal
  | accountCoordination
  | legacyRecovery
  deriving Repr, DecidableEq

inductive LaunchIdentity where
  | text (value : String)
  | object (id intentDaemonInstanceId : Option String)
  deriving Repr, DecidableEq

namespace LaunchIdentity

def id? : Option LaunchIdentity → Option String
  | some (.object id _) => id
  | _ => none

def intentDaemonInstanceId? : Option LaunchIdentity → Option String
  | some (.object _ daemon) => daemon
  | _ => none

def launchId : Option LaunchIdentity → Option String
  | some (.text value) => truthy (some value)
  | some (.object id _) => truthy id
  | none => none

end LaunchIdentity

structure BrowserRuntimeSession where
  id : String
  runtimeId : String
  purpose : SessionPurpose := .execution
  status : SessionStatus := .opening
  fencingToken : Nat
  leaseToken : String
  leaseExpiresAt : Int
  protocolMajor : Nat := 1
  protocolMinor : Nat := 0
  openedAt : Option Int := none
  closedAt : Option Int := none
  closureVerifiedAt : Option Int := none
  closureEvidenceId : Option String := none
  quarantinedAt : Option Int := none
  executionPermitExpiresAt : Option Int := none
  humanControllerUserId : Option String := none
  humanControlExpiresAt : Option Int := none
  identityPermit : Option Int := none
  ownerTaskId : Option String := none
  ownerFencingToken : Option Nat := none
  launchIdentity : Option LaunchIdentity := none
  launchHostInstanceId : Option String := none
  launchConnectionGeneration : Option Nat := none
  /-- The code of `lastError`. -/
  lastError : Option String := none
  deriving Repr, DecidableEq

def verified (session : BrowserRuntimeSession) : Bool :=
  session.closureVerifiedAt.isSome && session.closureEvidenceId.isSome

structure RuntimeSessionRecovery where
  id : String
  runtimeId : String
  expectedLeaseDigest : String
  reason : String
  sourceRunId : Option String := none
  closureState : ClosureState
  closureEvidenceId : Option String := none
  closureVerifiedAt : Option Int := none
  writeOutcomeState : WriteOutcomeState
  scopeRootKey : String := "*"
  scopeProvenance : String := "UNKNOWN"
  attempts : Nat := 0
  nextAttemptAt : Option Int := none
  lastErrorCode : Option String := none
  lastErrorAt : Option Int := none
  activeCommandId : Option String := none
  claimToken : Option String := none
  claimExpiresAt : Option Int := none
  resolutionOutcome : Option String := none
  resolutionNote : Option String := none
  outcomeEvidenceRefs : List String := []
  resolvedBy : Option String := none
  resolutionKey : Option String := none
  resolutionDigest : Option String := none
  writeResolvedAt : Option Int := none
  resolvedAt : Option Int := none
  version : Nat := 1
  deriving Repr, DecidableEq

structure ExecutionResourceLease where
  id : String
  rootKey : String
  resourceKey : String := ""
  mode : LeaseMode
  quarantined : Bool := false
  recoveryId : Option String := none
  origin : LeaseOrigin := .normal
  guardReason : Option String := none
  deriving Repr, DecidableEq

structure ClosedSessionWriteAudit where
  launchIdentityId : String
  complete : Bool
  requestCount : Nat
  potentialWrites : Nat
  deriving Repr, DecidableEq

structure SessionClosureEvidence where
  id : String
  evidenceId : String
  recoveryId : String
  requestId : String
  sessionId : String
  sessionFence : Nat
  leaseDigest : String
  method : ClosureMethod
  capabilityVersion : String
  closureCompletedAt : Option String := none
  writeAudit : Option ClosedSessionWriteAudit := none
  actorId : Option String := none
  auditRef : Option String := none
  serverVerifiedAt : Int
  deriving Repr, DecidableEq

/-! Rows that other components write as well. -/

structure OwnerTask where
  id : String
  status : TaskStatus
  fencingToken : Nat
  completionId : Option String := none
  /-- The `kind` of the stored result. -/
  resultKind : Option String := none
  recoveryStatus : Option RecoveryStatus := none
  recoveryNextAttemptAt : Option Int := none
  leaseLostAt : Option Int := none
  leaseExpiresAt : Option Int := none
  lifecycle : RunLifecycle
  /-- The control plane recorded `runtime.lease_lost` for the fence of the session. -/
  leaseLossRecorded : Bool := false
  deriving Repr, DecidableEq

structure SessionExecution where
  lifecycle : RunLifecycle
  requestedByUserId : Option String := none
  deriving Repr, DecidableEq

structure ClosePayload where
  recoveryId : String
  requestId : String
  sessionId : String
  expectedLeaseToken : String
  expectedFencingToken : String
  expectedLaunchIdentity : Option String := none
  expectedLaunchDaemonInstanceId : Option String := none
  deriving Repr, DecidableEq

inductive CommandStatus where
  | pending
  | dispatched
  | succeeded
  | failed
  | timedOut
  | cancelled
  deriving Repr, DecidableEq

structure RuntimeCommand where
  id : String
  sessionId : String
  commandType : String
  status : CommandStatus := .pending
  leaseToken : String
  fencingToken : Nat
  deadlineAt : Int
  recovery : Option ClosePayload := none
  deriving Repr, DecidableEq

structure BrowserRuntime where
  id : String
  enabled : Bool := true
  revokedAt : Option Int := none
  drainState : String := "NONE"
  status : String := "ONLINE"
  connectionId : Option String := none
  connectionGeneration : Nat := 0
  hostInstanceId : Option String := none
  daemonInstanceId : Option String := none
  capabilities : List String := []
  deriving Repr, DecidableEq

inductive TeamRole where
  | admin
  | member
  deriving Repr, DecidableEq

structure RecoveryScope where
  rootKey : String := "*"
  provenance : String := "UNKNOWN"
  sourceRunId : Option String := none
  deriving Repr, DecidableEq

/-- The settings and the rows of other components that a transaction reads.  The
audits judge the commands, the network log and the stored evidence of a session. -/
structure Outside where
  recoveryEnabled : Bool := true
  businessDataLocksEnabled : Bool := true
  tasks : List OwnerTask := []
  browserExecutions : List SessionExecution := []
  commands : List RuntimeCommand := []
  runtimes : List BrowserRuntime := []
  memberships : List (String × TeamRole) := []
  scope : RecoveryScope := {}
  /-- The close permit of the runtime is free for this recovery. -/
  permitFree : Bool := true
  sessionExecutionPermit : BrowserRuntimeSession → Bool := fun _ => false
  hasConfirmedWriteOutcome : BrowserRuntimeSession → List SessionClosureEvidence → Bool :=
    fun _ _ => false
  hasVerifiedObservationOnlyHistory : BrowserRuntimeSession → List SessionClosureEvidence → Bool :=
    fun _ _ => false
  hasVerifiedNoWriteNetworkAudit : BrowserRuntimeSession → List SessionClosureEvidence → Bool :=
    fun _ _ => false
  hasVerifiedOfflineStartup : BrowserRuntimeSession → Option String → Bool := fun _ _ => false

structure Epoch where
  session : BrowserRuntimeSession
  recovery : Option RuntimeSessionRecovery := none
  leases : List ExecutionResourceLease := []
  evidences : List SessionClosureEvidence := []
  outside : Outside := {}

inductive RecoveryError where
  | notFound (message : String)
  | forbidden (message : String)
  | conflict (message : String)
  | coded (code message : String)
  | internal (message : String)
  | uniqueConstraint
  deriving Repr, DecidableEq

structure Moment where
  now : Int
  recoveryId : String := ""
  leaseId : String := ""
  evidenceRowId : String := ""
  evidenceId : String := ""
  claimToken : String := ""
  random : Rat := 0

def MAX_CLOSURE_ATTEMPTS : Nat := 6

def demand (condition : Bool) (failure : RecoveryError) : Except RecoveryError Unit :=
  throwIf (!condition) failure

@[simp] theorem demand_ok {condition : Bool} {failure : RecoveryError} {result : Unit} :
    demand condition failure = .ok result ↔ condition = true := by
  simp [demand]

def requireRecoveryEnabled (outside : Outside) : Except RecoveryError Unit :=
  demand outside.recoveryEnabled (.coded "SESSION_RECOVERY_DISABLED"
    "Session recovery is paused until all API and Worker replicas support verified closure.")

section Reading

variable (host : Host)

def leaseDigest (value : String) : String :=
  host.sha256 value

def ownerOf (epoch : Epoch) : Option OwnerTask :=
  epoch.session.ownerTaskId.bind fun id => epoch.outside.tasks.find? fun task => task.id == id

def updateTask (outside : Outside) (id : String) (update : OwnerTask → OwnerTask) : Outside :=
  { outside with
    tasks := outside.tasks.map fun task => if task.id = id then update task else task }

def resolveTask (task : OwnerTask) : OwnerTask :=
  { task with recoveryStatus := some .resolved, recoveryNextAttemptAt := none }

def hasConfirmedBrowserOutcome (task : OwnerTask) : Bool :=
  (truthy task.completionId).isSome && task.status == .succeeded &&
    task.resultKind == some "VERIFICATION_COMPLETED"

def isRevokedSessionOwner (session : BrowserRuntimeSession) (owner : OwnerTask) : Bool :=
  owner.status == .failed && owner.leaseLostAt.isSome && owner.leaseExpiresAt.isNone &&
    (session.ownerFencingToken.any fun fence => owner.fencingToken == fence + 1) &&
    owner.leaseLossRecorded

def isHealthySession (epoch : Epoch) (now : Int) : Bool :=
  let session := epoch.session
  session.closureVerifiedAt.isNone && session.quarantinedAt.isNone && session.closedAt.isNone &&
    now < session.leaseExpiresAt &&
    (session.status == .opening || session.status == .active || session.status == .humanControl) &&
    epoch.outside.sessionExecutionPermit session &&
    (session.ownerTaskId.isNone ||
      (ownerOf epoch).any fun owner => !owner.status.terminal && !owner.lifecycle.terminal) &&
    !(epoch.outside.browserExecutions.head?.any fun execution => execution.lifecycle.terminal)

def initialWriteState (epoch : Epoch) : WriteOutcomeState :=
  if epoch.session.purpose ≠ .execution then .notApplicable
  else if (ownerOf epoch).any fun owner =>
      epoch.session.ownerFencingToken == some owner.fencingToken &&
        owner.recoveryStatus == some .resolved then .resolved
  else if !epoch.leases.isEmpty && epoch.leases.all fun lease => lease.mode == .read then
    .notApplicable
  else if epoch.outside.hasConfirmedWriteOutcome epoch.session epoch.evidences then .confirmed
  else if epoch.outside.hasVerifiedObservationOnlyHistory epoch.session epoch.evidences ||
      epoch.outside.hasVerifiedNoWriteNetworkAudit epoch.session epoch.evidences then
    .noWriteVerified
  else .unknown

def verifiedRecovery (epoch : Epoch) : Option RuntimeSessionRecovery :=
  if epoch.session.status ≠ .closed ∨ epoch.session.closureVerifiedAt = none then none
  else
    match epoch.session.closureEvidenceId.bind fun id =>
        epoch.evidences.find? fun evidence => evidence.id == id with
    | none => none
    | some evidence =>
        if evidence.sessionId ≠ epoch.session.id ∨
            evidence.sessionFence ≠ epoch.session.fencingToken ∨
            evidence.leaseDigest ≠ leaseDigest host epoch.session.leaseToken then none
        else
          epoch.recovery.filter fun recovery =>
            recovery.id == evidence.recoveryId && recovery.closureState == .verified &&
              recovery.closureEvidenceId == some evidence.id && recovery.closureVerifiedAt.isSome

end Reading

end Devproof.SessionRecovery
