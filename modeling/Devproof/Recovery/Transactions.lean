import Devproof.Recovery.Epoch

/-!
The transactions of session recovery on one epoch.  Each reads and writes the
rows atomically: a transaction that throws leaves them as they were.
-/

namespace Devproof.SessionRecovery

section Transactions

variable (host : Host)

/-! `session-recovery.state.ts`. -/

def assessWriteOutcome (outside : Outside) (session : BrowserRuntimeSession)
    (evidences : List SessionClosureEvidence) (recovery : RuntimeSessionRecovery) :
    Option WriteOutcomeState :=
  if outside.hasConfirmedWriteOutcome session evidences then some .confirmed
  else if outside.hasVerifiedObservationOnlyHistory session evidences ||
      outside.hasVerifiedNoWriteNetworkAudit session evidences ||
      outside.hasVerifiedOfflineStartup session recovery.sourceRunId then some .noWriteVerified
  else none

/-- The row was read in the same transaction, so the guards on its version and state hold. -/
def refreshedRecovery (epoch : Epoch) (now : Int) (recovery : RuntimeSessionRecovery) :
    RuntimeSessionRecovery :=
  if writeSettled recovery.writeOutcomeState then recovery
  else
    match assessWriteOutcome epoch.outside epoch.session epoch.evidences recovery with
    | none => recovery
    | some state =>
        { recovery with
          writeOutcomeState := state
          version := recovery.version + 1
          resolvedAt :=
            if recovery.closureState = .verified ∧ recovery.closureEvidenceId.isSome ∧
                recovery.closureVerifiedAt.isSome then some now
            else none }

def refreshRecoveryWriteOutcome (epoch : Epoch) (now : Int) : Epoch :=
  { epoch with recovery := epoch.recovery.map (refreshedRecovery epoch now) }

def recoveryGuard (epoch : Epoch) (leaseId : String) (recovery : RuntimeSessionRecovery) :
    ExecutionResourceLease where
  id := leaseId
  rootKey := epoch.outside.scope.rootKey
  mode := .write
  quarantined := true
  recoveryId := some recovery.id
  origin := .legacyRecovery
  guardReason := some recovery.reason

def quarantineWrites (leases : List ExecutionResourceLease) : List ExecutionResourceLease :=
  leases.map fun lease =>
    if lease.mode = .write then { lease with quarantined := true } else lease

def adoptLeases (recoveryId : String) (leases : List ExecutionResourceLease) :
    List ExecutionResourceLease :=
  leases.map fun lease => { lease with recoveryId := some recoveryId }

def needsGuard (epoch : Epoch) : Bool :=
  epoch.leases.isEmpty && epoch.session.purpose == .execution &&
    epoch.outside.businessDataLocksEnabled

def materializeRecoveryGuards (epoch : Epoch) (leaseId : String)
    (recovery : RuntimeSessionRecovery) : Epoch :=
  if writeSettled recovery.writeOutcomeState then epoch
  else
    let leases :=
      if needsGuard epoch then epoch.leases ++ [recoveryGuard epoch leaseId recovery]
      else epoch.leases
    { epoch with leases := quarantineWrites (adoptLeases recovery.id leases) }

def promotes (recovery : RuntimeSessionRecovery) (observed : Bool) : Bool :=
  (recovery.closureState == .observed && !observed) ||
    (recovery.closureState == .verified && recovery.closureEvidenceId.isNone)

def promotedRecovery (reason : String) (now : Int) (recovery : RuntimeSessionRecovery) :
    RuntimeSessionRecovery :=
  { recovery with
    closureState := .requested
    closureVerifiedAt := none
    reason
    nextAttemptAt := some now
    version := recovery.version + 1 }

def createdRecovery (epoch : Epoch) (reason : String) (sourceRunId : Option String)
    (observed : Bool) (moment : Moment) : RuntimeSessionRecovery :=
  let session := epoch.session
  { id := moment.recoveryId
    runtimeId := session.runtimeId
    expectedLeaseDigest := leaseDigest host session.leaseToken
    reason
    sourceRunId := sourceRunId.or epoch.outside.scope.sourceRunId
    closureState :=
      if verified session then .verified else if observed then .observed else .requested
    closureVerifiedAt :=
      if session.closureEvidenceId.isSome then session.closureVerifiedAt else none
    closureEvidenceId := session.closureEvidenceId
    writeOutcomeState := initialWriteState epoch
    scopeRootKey := epoch.outside.scope.rootKey
    scopeProvenance := epoch.outside.scope.provenance
    nextAttemptAt := if verified session || observed then none else some moment.now
    resolvedAt :=
      if verified session && writeSettled (initialWriteState epoch) then some moment.now else none }

def ensureRecovery (reason : String) (sourceRunId : Option String) (observed : Bool)
    (moment : Moment) (epoch : Epoch) : Except RecoveryError (Epoch × RuntimeSessionRecovery) :=
  match epoch.recovery with
  | none =>
      let recovery := createdRecovery host epoch reason sourceRunId observed moment
      let created := { epoch with recovery := some recovery }
      .ok (if observed then created
        else materializeRecoveryGuards created moment.leaseId recovery, recovery)
  | some existing => do
      demand (existing.expectedLeaseDigest == leaseDigest host epoch.session.leaseToken)
        (.internal "Session epoch changed without a new fence.")
      let recovery := refreshedRecovery epoch moment.now existing
      let refreshed := refreshRecoveryWriteOutcome epoch moment.now
      let guarded :=
        if observed then refreshed
        else materializeRecoveryGuards refreshed moment.leaseId recovery
      if promotes recovery observed then
        let promoted := promotedRecovery reason moment.now recovery
        return ({ guarded with recovery := some promoted }, promoted)
      else return (guarded, recovery)

/-! `session-resource-cleanup.ts`. -/

def quarantineSession (code : String) (now : Int) (epoch : Epoch) : Epoch × Nat :=
  if epoch.session.closureVerifiedAt.isNone && epoch.session.status != .closed then
    ({ epoch with
        session :=
          { epoch.session with
            status := .lost
            executionPermitExpiresAt := some now
            humanControllerUserId := none
            humanControlExpiresAt := none
            lastError := some code
            quarantinedAt := epoch.session.quarantinedAt.or (some now) }
        leases := quarantineWrites epoch.leases }, 1)
  else (epoch, 0)

def retainedLeases (settled : Bool) (leases : List ExecutionResourceLease) :
    List ExecutionResourceLease :=
  let unclaimed := leases.filter fun lease => lease.origin != .accountCoordination
  if settled then []
  else (quarantineWrites unclaimed).filter fun lease =>
    !(lease.mode == .read && lease.origin == .normal)

def releaseOwner (settled : Bool) (epoch : Epoch) : Outside :=
  match ownerOf epoch with
  | none => epoch.outside
  | some owner =>
      let current := epoch.session.ownerFencingToken == some owner.fencingToken
      if settled then
        if (current || isRevokedSessionOwner epoch.session owner) &&
            owner.recoveryStatus == some .writeOutcomeUnknown && owner.status.terminal then
          updateTask epoch.outside owner.id resolveTask
        else epoch.outside
      else if !hasConfirmedBrowserOutcome owner && current && owner.status.terminal &&
          owner.recoveryStatus != some .resolved then
        updateTask epoch.outside owner.id fun task =>
          { task with
            recoveryStatus := some .writeOutcomeUnknown
            recoveryNextAttemptAt := none }
      else epoch.outside

def releaseVerifiedSessionResources (now : Int) (epoch : Epoch) : Epoch × Bool :=
  match verifiedRecovery host epoch with
  | none => (epoch, false)
  | some found =>
      let recovery := refreshedRecovery epoch now found
      let settled := writeSettled recovery.writeOutcomeState
      let leases := retainedLeases settled epoch.leases
      ({ epoch with
          recovery := some recovery
          leases
          outside := releaseOwner settled epoch
          session :=
            { epoch.session with
              identityPermit := none
              executionPermitExpiresAt := some now
              humanControllerUserId := none
              humanControlExpiresAt := none
              quarantinedAt :=
                if leases.any fun lease => lease.quarantined then
                  epoch.session.quarantinedAt.or (some now)
                else none } }, true)

def releaseCompletedSessionData (taskId : String) (now : Int) (epoch : Epoch) : Epoch :=
  match epoch.outside.tasks.find? fun task => task.id == taskId with
  | none => epoch
  | some task =>
      if !hasConfirmedBrowserOutcome task || task.recoveryStatus == some .writeOutcomeUnknown then
        epoch
      else if epoch.session.ownerTaskId == some taskId &&
          epoch.session.ownerFencingToken == some task.fencingToken && verified epoch.session &&
          (verifiedRecovery host epoch).isSome then
        (releaseVerifiedSessionResources host now (refreshRecoveryWriteOutcome epoch now)).1
      else epoch

/-! `session-closure.service.ts`. -/

structure EvidenceInput where
  evidenceId : String
  requestId : String
  method : ClosureMethod
  capabilityVersion : String
  closureCompletedAt : Option String := none
  writeAudit : Option ClosedSessionWriteAudit := none
  actorId : Option String := none
  auditRef : Option String := none
  deriving Repr, DecidableEq

structure Acceptance where
  recoveryId : String
  closureVerifiedAt : Int
  deriving Repr, DecidableEq

def replayedElsewhere (session : BrowserRuntimeSession) (recovery : RuntimeSessionRecovery)
    (proof : EvidenceInput) (prior : SessionClosureEvidence) : Bool :=
  prior.sessionId != session.id || prior.sessionFence != session.fencingToken ||
    prior.recoveryId != recovery.id || prior.requestId != proof.requestId

def newEvidence (epoch : Epoch) (recovery : RuntimeSessionRecovery) (proof : EvidenceInput)
    (moment : Moment) : SessionClosureEvidence where
  id := moment.evidenceRowId
  evidenceId := proof.evidenceId
  recoveryId := recovery.id
  requestId := proof.requestId
  sessionId := epoch.session.id
  sessionFence := epoch.session.fencingToken
  leaseDigest := leaseDigest host epoch.session.leaseToken
  method := proof.method
  capabilityVersion := proof.capabilityVersion
  closureCompletedAt := proof.closureCompletedAt
  writeAudit := proof.writeAudit
  actorId := proof.actorId
  auditRef := proof.auditRef
  serverVerifiedAt := moment.now

def storeEvidence (epoch : Epoch) (recovery : RuntimeSessionRecovery) (proof : EvidenceInput)
    (moment : Moment) (prior : Option SessionClosureEvidence) :
    Except RecoveryError (Epoch × SessionClosureEvidence) :=
  match prior with
  | some evidence => .ok (epoch, evidence)
  | none => do
      throwIf (epoch.evidences.any fun other => other.id == moment.evidenceRowId) .uniqueConstraint
      let evidence := newEvidence host epoch recovery proof moment
      return ({ epoch with evidences := epoch.evidences ++ [evidence] }, evidence)

def closedSession (evidenceId : String) (now : Int) (session : BrowserRuntimeSession) :
    BrowserRuntimeSession :=
  { session with
    status := .closed
    closedAt := some now
    closureVerifiedAt := some now
    closureEvidenceId := some evidenceId
    executionPermitExpiresAt := some now
    identityPermit := none
    humanControllerUserId := none
    humanControlExpiresAt := none }

def closedRecovery (evidenceId : String) (now : Int) (recovery : RuntimeSessionRecovery) :
    RuntimeSessionRecovery :=
  { recovery with
    closureState := .verified
    closureEvidenceId := some evidenceId
    closureVerifiedAt := some now
    nextAttemptAt := none
    claimToken := none
    claimExpiresAt := none
    version := recovery.version + 1
    resolvedAt := if writeSettled recovery.writeOutcomeState then some now else none }

def commitEvidence (proof : EvidenceInput) (moment : Moment) (epoch : Epoch)
    (found : RuntimeSessionRecovery) : Except RecoveryError (Epoch × Acceptance) := do
  let recovery := refreshedRecovery epoch moment.now found
  let epoch := { epoch with recovery := some recovery }
  let prior := epoch.evidences.find? fun evidence => evidence.evidenceId == proof.evidenceId
  throwIf (prior.any (replayedElsewhere epoch.session recovery proof))
    (.conflict "Closure evidence ID was replayed for another operation.")
  match verified epoch.session, epoch.session.closureVerifiedAt with
  | true, some closureVerifiedAt =>
      return ((releaseVerifiedSessionResources host moment.now epoch).1,
        { recoveryId := recovery.id, closureVerifiedAt })
  | _, _ =>
      let (stored, evidence) ← storeEvidence host
        (materializeRecoveryGuards epoch moment.leaseId recovery) recovery proof moment prior
      let closed :=
        { stored with
          session := closedSession evidence.id moment.now stored.session
          recovery := some (closedRecovery evidence.id moment.now recovery) }
      return ((releaseVerifiedSessionResources host moment.now closed).1,
        { recoveryId := recovery.id, closureVerifiedAt := moment.now })

structure RuntimeContext where
  runtimeId : String
  connectionId : String
  connectionGeneration : Nat
  negotiatedMinor : Nat
  capabilities : List String
  hostInstanceId : Option String
  daemonInstanceId : Option String
  deriving Repr, DecidableEq

structure RuntimeClosureProof where
  evidenceId : String
  recoveryId : String
  requestId : String
  sessionId : String
  leaseToken : String
  fencingToken : String
  hostInstanceId : String
  daemonInstanceId : String
  launchIdentityVersion : Int
  method : ClosureMethod
  networkRevoked : Bool
  closureCompletedAt : String
  deriving Repr, DecidableEq

def suppliesEvidence (context : RuntimeContext) (proof : RuntimeClosureProof) : Bool :=
  context.capabilities.contains "closure-evidence-v1" && 14 ≤ context.negotiatedMinor &&
    proof.networkRevoked && (truthy context.hostInstanceId).isSome &&
    (truthy context.daemonInstanceId).isSome &&
    context.hostInstanceId == some proof.hostInstanceId &&
    context.daemonInstanceId == some proof.daemonInstanceId &&
    [ClosureMethod.liveSessionTerminated, .identifiedProcessSetTerminated,
      .launchPrevented].contains proof.method &&
    (proof.method != .launchPrevented ||
      (15 ≤ context.negotiatedMinor && context.capabilities.contains "no-launch-evidence-v1")) &&
    1 ≤ proof.launchIdentityVersion

def currentRuntime (outside : Outside) (context : RuntimeContext) : Bool :=
  outside.runtimes.any fun runtime =>
    runtime.id == context.runtimeId && runtime.enabled && runtime.revokedAt.isNone &&
      runtime.drainState == "NONE" && runtime.status == "ONLINE" &&
      runtime.connectionId == some context.connectionId &&
      runtime.connectionGeneration == context.connectionGeneration &&
      runtime.hostInstanceId == context.hostInstanceId &&
      runtime.daemonInstanceId == context.daemonInstanceId

def matchesSession (session : BrowserRuntimeSession) (context : RuntimeContext)
    (proof : RuntimeClosureProof) : Bool :=
  session.id == proof.sessionId && session.runtimeId == context.runtimeId &&
    session.leaseToken == proof.leaseToken && toString session.fencingToken == proof.fencingToken &&
    ((truthy session.launchHostInstanceId).isNone ||
      session.launchHostInstanceId == some proof.hostInstanceId)

def matchesRecovery (context : RuntimeContext) (proof : RuntimeClosureProof)
    (recovery : RuntimeSessionRecovery) : Bool :=
  recovery.id == proof.recoveryId && recovery.runtimeId == context.runtimeId &&
    recovery.expectedLeaseDigest == leaseDigest host proof.leaseToken

def closeChallenge (epoch : Epoch) (proof : RuntimeClosureProof)
    (recovery : RuntimeSessionRecovery) : Option ClosePayload :=
  (epoch.outside.commands.find? fun command => command.id == proof.requestId).bind fun command =>
    if command.commandType = "session.close" ∧ command.sessionId = epoch.session.id ∧
        command.leaseToken = epoch.session.leaseToken ∧
        command.fencingToken = epoch.session.fencingToken then
      command.recovery.filter fun payload =>
        payload.recoveryId == recovery.id && payload.requestId == proof.requestId
    else none

def unusedLaunchIntent (epoch : Epoch) (payload : ClosePayload) (proof : RuntimeClosureProof) :
    Bool :=
  let session := epoch.session
  let id := LaunchIdentity.id? session.launchIdentity
  let daemon := LaunchIdentity.intentDaemonInstanceId? session.launchIdentity
  (truthy id).isSome && (truthy daemon).isSome && id == payload.expectedLaunchIdentity &&
    daemon == payload.expectedLaunchDaemonInstanceId &&
    session.launchHostInstanceId == some proof.hostInstanceId && session.openedAt.isNone &&
    session.ownerTaskId.isNone &&
    epoch.outside.commands.all fun command => command.sessionId != session.id ||
      command.commandType == "session.open" || command.commandType == "session.close"

def checkRuntimeEvidence (context : RuntimeContext) (proof : RuntimeClosureProof)
    (epoch : Epoch) : Except RecoveryError RuntimeSessionRecovery := do
  requireRecoveryEnabled epoch.outside
  demand (suppliesEvidence context proof)
    (.conflict "The authenticated Runtime cannot supply this closure evidence.")
  demand (currentRuntime epoch.outside context)
    (.conflict "Closure evidence came from a superseded Runtime connection.")
  demand (matchesSession epoch.session context proof)
    (.conflict "Closure evidence does not match the session epoch or launch host.")
  match epoch.recovery.filter (matchesRecovery host context proof) with
  | none => throw (.conflict "Closure recovery does not match this epoch.")
  | some recovery =>
      match closeChallenge epoch proof recovery with
      | none => throw (.conflict "Closure evidence has no matching durable close challenge.")
      | some payload => do
          throwIf (proof.method == .identifiedProcessSetTerminated &&
              (truthy payload.expectedLaunchIdentity).isNone)
            (.conflict
              "Identified-process closure requires a previously registered launch identity.")
          throwIf (proof.method == .launchPrevented && !unusedLaunchIntent epoch payload proof)
            (.conflict
              "No-launch evidence requires an unused, previously registered launch intent.")
          return recovery

def launchPreventedRecovery (method : ClosureMethod) (recovery : RuntimeSessionRecovery) :
    RuntimeSessionRecovery :=
  if method = .launchPrevented then
    { recovery with writeOutcomeState := .noWriteVerified, version := recovery.version + 1 }
  else recovery

def acceptedAudit (context : RuntimeContext) (proof : RuntimeClosureProof)
    (session : BrowserRuntimeSession) (writeAudit : Option ClosedSessionWriteAudit) :
    Option ClosedSessionWriteAudit :=
  writeAudit.filter fun audit =>
    21 ≤ context.negotiatedMinor && 21 ≤ session.protocolMinor &&
      proof.method == .liveSessionTerminated &&
      LaunchIdentity.id? session.launchIdentity == some audit.launchIdentityId

/-- A closure-only frame can arrive before the command result; the audit joins its evidence. -/
def enrichEvidence (epoch : Epoch) (recovery : RuntimeSessionRecovery)
    (proof : RuntimeClosureProof) (audit : Option ClosedSessionWriteAudit) :
    List SessionClosureEvidence :=
  if audit.isSome && epoch.session.closureEvidenceId.isSome then
    epoch.evidences.map fun evidence =>
      if some evidence.id = epoch.session.closureEvidenceId ∧
          evidence.sessionId = epoch.session.id ∧
          evidence.sessionFence = epoch.session.fencingToken ∧
          evidence.recoveryId = recovery.id ∧ evidence.method = .liveSessionTerminated ∧
          evidence.closureCompletedAt = some proof.closureCompletedAt ∧
          evidence.writeAudit = none then
        { evidence with writeAudit := audit }
      else evidence
  else epoch.evidences

def acceptRuntimeEvidence (context : RuntimeContext) (proof : RuntimeClosureProof)
    (writeAudit : Option ClosedSessionWriteAudit) (moment : Moment) (epoch : Epoch) :
    Except RecoveryError (Epoch × Acceptance) := do
  let found ← checkRuntimeEvidence host context proof epoch
  let recovery := launchPreventedRecovery proof.method found
  let audit := acceptedAudit context proof epoch.session writeAudit
  commitEvidence host
    { evidenceId := proof.evidenceId
      requestId := proof.requestId
      method := proof.method
      capabilityVersion :=
        if proof.method = .launchPrevented then "no-launch-evidence-v1" else "closure-evidence-v1"
      closureCompletedAt := some proof.closureCompletedAt
      writeAudit := audit }
    moment
    { epoch with
      recovery := some recovery
      evidences := enrichEvidence epoch recovery proof audit }
    recovery

def acceptNeverLaunched (expectedFencingToken expectedLeaseToken : String) (moment : Moment)
    (epoch : Epoch) : Except RecoveryError (Epoch × Acceptance) := do
  requireRecoveryEnabled epoch.outside
  demand (epoch.session.purpose == .profilePurge &&
      epoch.session.launchConnectionGeneration.isSome &&
      toString epoch.session.fencingToken == expectedFencingToken &&
      epoch.session.leaseToken == expectedLeaseToken &&
      epoch.outside.commands.all fun command =>
        command.sessionId != epoch.session.id || command.commandType == "profile.purge")
    (.conflict "This allocation has no complete no-launch audit.")
  let (ensured, recovery) ←
    ensureRecovery host "CONTROL_PLANE_NO_LAUNCH" none false moment epoch
  commitEvidence host
    { evidenceId := moment.evidenceId
      requestId := recovery.id
      method := .controlPlaneNoLaunch
      capabilityVersion := "control-plane-no-launch-v1" }
    moment ensured recovery

structure DrainInput where
  expectedFencingToken : String
  expectedLeaseDigest : String
  evidenceId : String
  drainId : String
  actorId : String
  deriving Repr, DecidableEq

def acceptAdminDrainEvidence (input : DrainInput) (moment : Moment) (epoch : Epoch) :
    Except RecoveryError (Epoch × Acceptance) := do
  requireRecoveryEnabled epoch.outside
  demand (toString epoch.session.fencingToken == input.expectedFencingToken &&
      leaseDigest host epoch.session.leaseToken == input.expectedLeaseDigest)
    (.conflict "Frozen drain session changed its epoch.")
  let (ensured, recovery) ← ensureRecovery host "ADMIN_DRAIN" none false moment epoch
  commitEvidence host
    { evidenceId := input.evidenceId
      requestId := input.drainId
      method := .adminDrainAttestation
      capabilityVersion := "admin-drain-v1"
      actorId := some input.actorId
      auditRef := some input.drainId }
    moment ensured recovery

structure SessionClosureFailure where
  expectedFencingToken : String
  expectedLeaseToken : String
  requestId : Option String := none
  errorCode : String
  claimToken : Option String := none
  deriving Repr, DecidableEq

def retryDelay (attempts : Nat) : Int :=
  [5, 15, 30, 60, 120].getD (min attempts 4) 120 * 1000

def failedRecovery (errorCode : String) (moment : Moment) (recovery : RuntimeSessionRecovery) :
    RuntimeSessionRecovery :=
  let needsOperator :=
    ["CLOSURE_UNVERIFIED", "LAUNCH_IDENTITY_UNAVAILABLE",
      "UNSUPPORTED_CLOSURE_EVIDENCE"].contains errorCode ||
      MAX_CLOSURE_ATTEMPTS ≤ recovery.attempts
  let delay := ((retryDelay recovery.attempts : Rat) * (4 / 5 + moment.random * (2 / 5))).floor
  { recovery with
    closureState :=
      if needsOperator then .needsOperator
      else if errorCode = "RUNTIME_OFFLINE" then .waitingRuntime
      else .retryWait
    lastErrorCode := some errorCode
    lastErrorAt := some moment.now
    nextAttemptAt := if needsOperator then none else some (moment.now + delay)
    claimToken := none
    claimExpiresAt := none
    version := recovery.version + 1 }

def failedSession (errorCode : String) (now : Int) (session : BrowserRuntimeSession) :
    BrowserRuntimeSession :=
  if session.closureVerifiedAt.isNone then
    { session with
      status := .lost
      executionPermitExpiresAt := some now
      quarantinedAt := session.quarantinedAt.or (some now)
      lastError := some errorCode }
  else session

def recordFailure (input : SessionClosureFailure) (moment : Moment) (epoch : Epoch) :
    Except RecoveryError (Epoch × Bool) := do
  requireRecoveryEnabled epoch.outside
  if verified epoch.session || toString epoch.session.fencingToken != input.expectedFencingToken ||
      epoch.session.leaseToken != input.expectedLeaseToken then
    return (epoch, false)
  let (ensured, recovery) ← ensureRecovery host input.errorCode none false moment epoch
  if (truthy input.requestId).any (fun id => recovery.activeCommandId != some id) ||
      (truthy input.claimToken).any (fun token => recovery.claimToken != some token) then
    return (ensured, false)
  if recovery.closureState = .needsOperator then
    return (ensured, false)
  return ({ ensured with
      session := failedSession input.errorCode moment.now ensured.session
      recovery := some (failedRecovery input.errorCode moment recovery) }, true)

/-! `session-recovery.service.ts`. -/

def stopSession (now : Int) (session : BrowserRuntimeSession) : BrowserRuntimeSession :=
  { session with
    status := .lost
    executionPermitExpiresAt := some now
    humanControlExpiresAt := none
    humanControllerUserId := none
    quarantinedAt := session.quarantinedAt.or (some now) }

def stoppedEpoch (healthy : Bool) (now : Int) (epoch : Epoch) : Epoch :=
  if !healthy && epoch.session.closureVerifiedAt.isNone then
    { epoch with session := stopSession now epoch.session }
  else epoch

def request (reason : String) (sourceRunId : Option String) (explicitClose : Bool)
    (moment : Moment) (epoch : Epoch) : Except RecoveryError (Epoch × RuntimeSessionRecovery) := do
  requireRecoveryEnabled epoch.outside
  let healthy := !explicitClose && isHealthySession epoch moment.now
  let (ensured, recovery) ← ensureRecovery host reason (truthy sourceRunId) healthy moment
    (stoppedEpoch healthy moment.now epoch)
  if verified ensured.session then
    return ((releaseVerifiedSessionResources host moment.now ensured).1, recovery)
  else return (ensured, recovery)

def closePayload (recoveryId requestId : String) (session : BrowserRuntimeSession) :
    ClosePayload where
  recoveryId
  requestId
  sessionId := session.id
  expectedLeaseToken := session.leaseToken
  expectedFencingToken := toString session.fencingToken
  expectedLaunchIdentity := LaunchIdentity.launchId session.launchIdentity
  expectedLaunchDaemonInstanceId := LaunchIdentity.intentDaemonInstanceId? session.launchIdentity

def pendingCommand (epoch : Epoch) (recovery : RuntimeSessionRecovery) (now : Int) :
    Option RuntimeCommand :=
  (recovery.activeCommandId.bind fun id =>
    epoch.outside.commands.find? fun command => command.id == id).filter fun command =>
      (command.status == .pending || command.status == .dispatched) && now < command.deadlineAt

def closingRecovery (commandId : String) (pending : Bool) (moment : Moment)
    (recovery : RuntimeSessionRecovery) : RuntimeSessionRecovery :=
  { recovery with
    activeCommandId := some commandId
    claimToken := some moment.claimToken
    claimExpiresAt := some (moment.now + 120000)
    closureState := .closing
    attempts := if pending then recovery.attempts else recovery.attempts + 1
    nextAttemptAt := some (moment.now + 120000)
    version := recovery.version + 1 }

def closeCommand (session : BrowserRuntimeSession) (commandId : String) (payload : ClosePayload)
    (timeoutSeconds now : Int) : RuntimeCommand where
  id := commandId
  sessionId := session.id
  commandType := "session.close"
  leaseToken := session.leaseToken
  fencingToken := session.fencingToken
  deadlineAt := now + max 1 (min timeoutSeconds 90) * 1000
  recovery := some payload

/-- The second transaction of `prepareClose`; the first is a request for the explicit close. -/
def prepareClose (requestedId proposedCommandId : String) (timeoutSeconds : Int)
    (moment : Moment) (epoch : Epoch) : Except RecoveryError (Epoch × Option ClosePayload) := do
  match epoch.recovery.filter fun recovery => recovery.id == requestedId with
  | none => throw (.notFound "No RuntimeSessionRecovery found")
  | some recovery => do
      demand (leaseDigest host epoch.session.leaseToken == recovery.expectedLeaseDigest)
        (.conflict "The session epoch changed.")
      throwIf (verified epoch.session)
        (.conflict "The session already has verified closure evidence.")
      let prior := pendingCommand epoch recovery moment.now
      throwIf (recovery.closureState == .needsOperator ||
          (prior.isNone && MAX_CLOSURE_ATTEMPTS ≤ recovery.attempts))
        (.coded "RECOVERY_NEEDS_OPERATOR" "Closure recovery needs an operator retry.")
      throwIf (prior.isNone && recovery.nextAttemptAt.any fun instant => moment.now < instant)
        (.coded "RECOVERY_BACKOFF" "Closure recovery is waiting for its next retry.")
      demand epoch.outside.permitFree
        (.conflict "Another session closure is still pending on this Runtime.")
      throwIf (prior.isNone && epoch.outside.commands.any fun command =>
        command.id == proposedCommandId) .uniqueConstraint
      let commandId := (prior.map (·.id)).getD proposedCommandId
      let payload := closePayload recovery.id commandId epoch.session
      let commands :=
        if prior.isSome then epoch.outside.commands
        else epoch.outside.commands ++
          [closeCommand epoch.session commandId payload timeoutSeconds moment.now]
      return ({ epoch with
          recovery := some (closingRecovery commandId prior.isSome moment recovery)
          outside := { epoch.outside with commands } },
        match prior with
        | some command => command.recovery
        | none => some payload)

def wakes (recovery : RuntimeSessionRecovery) : Bool :=
  recovery.closureEvidenceId.isNone &&
    (recovery.closureState == .waitingRuntime ||
      (recovery.closureState == .needsOperator &&
        recovery.lastErrorCode == some "UNSUPPORTED_CLOSURE_EVIDENCE"))

def wokenRecovery (now : Int) (recovery : RuntimeSessionRecovery) : RuntimeSessionRecovery :=
  { recovery with
    closureState := .requested
    nextAttemptAt := some now
    version := recovery.version + 1 }

def wakeRuntime (runtimeId : String) (listed : Bool) (now : Int) (epoch : Epoch) : Epoch × Nat :=
  let capable := epoch.outside.runtimes.any fun runtime =>
    runtime.id == runtimeId && runtime.enabled && runtime.status == "ONLINE" &&
      runtime.capabilities.contains "closure-evidence-v1"
  if !epoch.outside.recoveryEnabled || !capable || !listed then (epoch, 0)
  else
    match epoch.recovery.filter fun recovery =>
        recovery.runtimeId == runtimeId && wakes recovery with
    | none => (epoch, 0)
    | some recovery => ({ epoch with recovery := some (wokenRecovery now recovery) }, 1)

def requireTeamMember (outside : Outside) (userId : String) : Except RecoveryError Unit :=
  demand (outside.memberships.lookup userId).isSome
    (.forbidden "A current team membership is required to recover a browser session.")

def requireAdmin (outside : Outside) (userId : String) : Except RecoveryError Unit :=
  demand (outside.memberships.lookup userId == some .admin)
    (.forbidden "A current team administrator must perform this recovery action.")

def owned (epoch : Epoch) (id : String) : Except RecoveryError RuntimeSessionRecovery :=
  match epoch.recovery.filter fun recovery => recovery.id == id with
  | none => .error (.notFound "Runtime recovery was not found.")
  | some recovery => .ok recovery

def retriedRecovery (now : Int) (recovery : RuntimeSessionRecovery) : RuntimeSessionRecovery :=
  { recovery with
    closureState := .requested
    attempts := 0
    nextAttemptAt := some now
    version := recovery.version + 1 }

def retry (userId id : String) (expectedVersion : Nat) (now : Int) (epoch : Epoch) :
    Except RecoveryError (Epoch × RuntimeSessionRecovery) := do
  requireRecoveryEnabled epoch.outside
  requireTeamMember epoch.outside userId
  let row ← owned epoch id
  if row.closureState = .verified then
    return (epoch, row)
  throwIf (row.closureState == .observed)
    (.conflict "The execution still owns a valid lease; wait for it to stop.")
  demand (row.version == expectedVersion && row.closureVerifiedAt.isNone &&
      row.claimExpiresAt.all fun instant => instant ≤ now)
    (.conflict "Recovery changed or is being processed. Refresh before retrying.")
  return ({ epoch with recovery := some (retriedRecovery now row) }, retriedRecovery now row)

inductive ResolutionOutcome where
  | noWrite
  | verified
  | compensated
  | retryAuthorized
  deriving Repr, DecidableEq

def ResolutionOutcome.name : ResolutionOutcome → String
  | .noWrite => "NO_WRITE"
  | .verified => "VERIFIED"
  | .compensated => "COMPENSATED"
  | .retryAuthorized => "RETRY_AUTHORIZED"

structure ResolutionInput where
  expectedVersion : Nat
  idempotencyKey : String
  outcome : ResolutionOutcome
  note : String
  evidenceRefs : List String
  deriving Repr, DecidableEq

def resolutionDigest (input : ResolutionInput) : String :=
  leaseDigest host (host.stringify (.obj
    [("outcome", .str input.outcome.name), ("note", .str input.note),
      ("evidenceRefs", .arr (input.evidenceRefs.map Json.str))]))

def closureProven (epoch : Epoch) (row : RuntimeSessionRecovery) : Bool :=
  leaseDigest host epoch.session.leaseToken == row.expectedLeaseDigest &&
    epoch.session.status == .closed && verified epoch.session && row.closureState == .verified

def evidenceProven (epoch : Epoch) (row : RuntimeSessionRecovery) : Bool :=
  (epoch.session.closureEvidenceId.bind fun id =>
      epoch.evidences.find? fun evidence => evidence.id == id).any fun evidence =>
    evidence.sessionId == epoch.session.id &&
      evidence.sessionFence == epoch.session.fencingToken &&
      evidence.leaseDigest == row.expectedLeaseDigest && evidence.recoveryId == row.id &&
      row.closureEvidenceId == some evidence.id && row.closureVerifiedAt.isSome

def executionStopped (epoch : Epoch) : Bool :=
  (ownerOf epoch).all (fun owner =>
    (epoch.session.ownerFencingToken == some owner.fencingToken ||
      isRevokedSessionOwner epoch.session owner) &&
      owner.status.terminal && owner.lifecycle.terminal) &&
    epoch.outside.browserExecutions.all fun execution => execution.lifecycle.terminal

def recoveryPending (owner : OwnerTask) : Bool :=
  owner.recoveryStatus == some .pending || owner.recoveryStatus == some .closing ||
    owner.recoveryStatus == some .hitlClosing || owner.recoveryStatus == some .retryScheduled

def resolvedRecovery (userId : String) (input : ResolutionInput) (now : Int)
    (recovery : RuntimeSessionRecovery) : RuntimeSessionRecovery :=
  let authorizeRetry := input.outcome == .retryAuthorized
  { recovery with
    writeOutcomeState := if authorizeRetry then .retryAuthorized else .resolved
    resolutionOutcome := some input.outcome.name
    resolutionNote := some input.note
    outcomeEvidenceRefs := input.evidenceRefs
    resolvedBy := some userId
    resolutionKey := some input.idempotencyKey
    resolutionDigest := some (resolutionDigest host input)
    writeResolvedAt := if authorizeRetry then none else some now
    resolvedAt := some now
    version := recovery.version + 1 }

def checkResolution (input : ResolutionInput) (epoch : Epoch)
    (row : RuntimeSessionRecovery) : Except RecoveryError Unit := do
  let authorizeRetry := input.outcome == .retryAuthorized
  throwIf (row.version != input.expectedVersion || row.writeOutcomeState == .resolved ||
      (authorizeRetry && row.writeOutcomeState != .unknown &&
        row.writeOutcomeState != .unassessed))
    (.conflict "Recovery changed. Refresh before resolving its write outcome.")
  throwIf (authorizeRetry &&
      (epoch.session.purpose != .execution || epoch.outside.browserExecutions.isEmpty))
    (.conflict "Only a stopped browser execution can be authorized for retry.")
  demand (closureProven host epoch row)
    (.conflict "A verified closure proof for this session epoch is required.")
  demand (evidenceProven epoch row)
    (.conflict "A durable closure evidence record is required before resolving writes.")
  demand (executionStopped epoch)
    (.conflict "The previous execution must stop before its business result can be resolved.")
  throwIf ((ownerOf epoch).any recoveryPending)
    (.conflict "The Agent lease recovery is still pending.")

def checkMembership (userId : String) (input : ResolutionInput) (outside : Outside) :
    Except RecoveryError Unit :=
  if input.outcome = .retryAuthorized then
    demand (outside.memberships.lookup userId).isSome
      (.forbidden "A current team membership is required to retry.")
  else requireAdmin outside userId

def checkRequester (userId : String) (input : ResolutionInput) (outside : Outside) :
    Except RecoveryError Unit :=
  throwIf (input.outcome == .retryAuthorized &&
      outside.memberships.lookup userId != some .admin &&
      (outside.browserExecutions.isEmpty || outside.browserExecutions.any fun execution =>
        execution.requestedByUserId != some userId))
    (.forbidden "仅原任务发起人或团队管理员可以确认重试。")

def resolvedOwner (epoch : Epoch) : Outside :=
  match ownerOf epoch with
  | some owner => updateTask epoch.outside owner.id resolveTask
  | none => epoch.outside

def finishRecovery (userId id : String) (input : ResolutionInput) (moment : Moment)
    (epoch : Epoch) : Except RecoveryError (Epoch × RuntimeSessionRecovery × Nat) := do
  requireRecoveryEnabled epoch.outside
  checkMembership userId input epoch.outside
  let row ← owned epoch id
  checkRequester userId input epoch.outside
  if row.resolutionKey = some input.idempotencyKey then
    demand (row.resolutionDigest == some (resolutionDigest host input))
      (.conflict "Idempotency key was already used for different evidence.")
    return (epoch, row, 0)
  checkResolution host input epoch row
  let guarded := materializeRecoveryGuards { epoch with outside := resolvedOwner epoch }
    moment.leaseId row
  let updated := resolvedRecovery host userId input moment.now row
  let released := guarded.leases.filter fun lease => lease.recoveryId == some id
  return ({ guarded with
      recovery := some updated
      leases := guarded.leases.filter fun lease => lease.recoveryId != some id
      session := { guarded.session with quarantinedAt := none } },
    updated, released.length)

inductive RecoveryMove where
  | request (reason : String) (sourceRunId : Option String) (explicitClose : Bool)
      (moment : Moment)
  | prepareClose (requestedId proposedCommandId : String) (timeoutSeconds : Int)
      (moment : Moment)
  | acceptRuntimeEvidence (context : RuntimeContext) (proof : RuntimeClosureProof)
      (writeAudit : Option ClosedSessionWriteAudit) (moment : Moment)
  | acceptNeverLaunched (expectedFencingToken expectedLeaseToken : String) (moment : Moment)
  | acceptAdminDrainEvidence (input : DrainInput) (moment : Moment)
  | recordFailure (input : SessionClosureFailure) (moment : Moment)
  | wakeRuntime (runtimeId : String) (listed : Bool) (now : Int)
  | retry (userId id : String) (expectedVersion : Nat) (now : Int)
  | finishRecovery (userId id : String) (input : ResolutionInput) (moment : Moment)
  | quarantineSession (code : String) (now : Int)
  | releaseVerifiedSessionResources (now : Int)
  | releaseCompletedSessionData (taskId : String) (now : Int)
  /-- The rows of other components change between two transactions. -/
  | elsewhere (outside : Outside)

def commits (move : RecoveryMove) (epoch : Epoch) : Except RecoveryError Epoch :=
  match move with
  | .request reason sourceRunId explicitClose moment =>
      Prod.fst <$> request host reason sourceRunId explicitClose moment epoch
  | .prepareClose requestedId proposedCommandId timeoutSeconds moment =>
      Prod.fst <$> prepareClose host requestedId proposedCommandId timeoutSeconds moment epoch
  | .acceptRuntimeEvidence context proof writeAudit moment =>
      Prod.fst <$> acceptRuntimeEvidence host context proof writeAudit moment epoch
  | .acceptNeverLaunched expectedFencingToken expectedLeaseToken moment =>
      Prod.fst <$> acceptNeverLaunched host expectedFencingToken expectedLeaseToken moment epoch
  | .acceptAdminDrainEvidence input moment =>
      Prod.fst <$> acceptAdminDrainEvidence host input moment epoch
  | .recordFailure input moment => Prod.fst <$> recordFailure host input moment epoch
  | .wakeRuntime runtimeId listed now => .ok (wakeRuntime runtimeId listed now epoch).1
  | .retry userId id expectedVersion now =>
      Prod.fst <$> retry userId id expectedVersion now epoch
  | .finishRecovery userId id input moment =>
      Prod.fst <$> finishRecovery host userId id input moment epoch
  | .quarantineSession code now => .ok (quarantineSession code now epoch).1
  | .releaseVerifiedSessionResources now =>
      .ok (releaseVerifiedSessionResources host now epoch).1
  | .releaseCompletedSessionData taskId now =>
      .ok (releaseCompletedSessionData host taskId now epoch)
  | .elsewhere outside => .ok { epoch with outside }

def recoveryStep (move : RecoveryMove) (epoch : Epoch) : Outcome Epoch RecoveryError :=
  match commits host move epoch with
  | .ok committed => .done committed
  | .error failure => .failed epoch failure

end Transactions

end Devproof.SessionRecovery
