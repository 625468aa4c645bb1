import Devproof.Concurrency.Conflicts
import Devproof.Recovery.Transactions

/-!
The admission of a session (`allocateSession` in
browser-execution-runner.service.ts) and the resource leases it grants.
-/

namespace Devproof

open SessionRecovery (LeaseMode LeaseOrigin ExecutionResourceLease SessionPurpose Epoch)

structure SavedLease extends ExecutionResourceLease where
  sessionId : String
  deriving Repr, DecidableEq

def claimMode : LeaseMode → ClaimMode
  | .read => .read
  | .write => .write

def leaseMode : ClaimMode → LeaseMode
  | .read => .read
  | .write => .write

def storedClaim (lease : ExecutionResourceLease) : ResourceClaim where
  rootKey := lease.rootKey
  resourceKey := lease.resourceKey
  mode := claimMode lease.mode

def heldClaim (lease : ExecutionResourceLease) : ResourceClaim where
  rootKey := lease.rootKey
  resourceKey := lease.resourceKey
  mode := if lease.quarantined then .write else claimMode lease.mode

def leaseOrigin (origin : Option String) : LeaseOrigin :=
  if origin = some "ACCOUNT_COORDINATION" then .accountCoordination else .normal

def claimedLease (id : String) (claim : ResourceClaim) : ExecutionResourceLease where
  id
  rootKey := claim.rootKey
  resourceKey := claim.resourceKey
  mode := leaseMode claim.mode
  origin := leaseOrigin claim.origin

structure WaitingExecution where
  runId : String
  /-- It was created earlier, or at the same time with a smaller id. -/
  earlier : Bool
  execution : Execution

inductive AdmissionError where
  | blocked (reason message : String)
  | failed (message : String)
  deriving Repr, DecidableEq

structure AdmissionRequest where
  /-- The rows that are created with the session. -/
  session : SessionRecovery.BrowserRuntimeSession
  outside : SessionRecovery.Outside := {}
  leaseId : ResourceClaim → String
  execution : Execution
  /-- What refuses the request before its claims are read: its attempt, the cases it depends on,
      the login identity. -/
  refusedBefore : Option AdmissionError := none
  /-- What refuses it afterwards: the runtime, its slots, the execution it is bound to. -/
  refusedAfter : Option AdmissionError := none
  /-- `executionTarget` of a session without leases. -/
  legacyTarget : String → Option String := fun _ => none
  /-- `ahead`, when the request is for an execution. -/
  ahead : List WaitingExecution := []

section Deployment

variable (deployment : Deployment)

def readAtAdmission (claims : List ResourceClaim) (lease : ExecutionResourceLease) : Bool :=
  (businessDataLocksEnabled deployment || lease.origin == .accountCoordination) &&
    (claims.any (·.rootKey == "*") || lease.rootKey == "*" ||
      claims.any (·.rootKey == lease.rootKey))

def blocksAdmission (claims : List ResourceClaim) (lease : ExecutionResourceLease) : Bool :=
  readAtAdmission deployment claims lease &&
    claims.any fun claim => resourcesConflict claim (heldClaim lease)

def admissionBlocker (claims : List ResourceClaim) (leases : List ExecutionResourceLease) :
    Option ExecutionResourceLease :=
  leases.find? (blocksAdmission deployment claims)

def checkLeases (claims : List ResourceClaim) (leases : List ExecutionResourceLease) :
    Except AdmissionError Unit :=
  match admissionBlocker deployment claims leases with
  | none => .ok ()
  | some lease =>
      if lease.quarantined then
        .error (.blocked "LEASE_RECOVERY"
          "A previous write has an unknown outcome and requires review.")
      else
        .error (.blocked "DATA_LOCK"
          "Another execution holds a conflicting business-data lock.")

def claimsOrFail (claims : Except String (List ResourceClaim)) :
    Except AdmissionError (List ResourceClaim) :=
  claims.mapError .failed

def isLegacyHolder (holder : Epoch) : Bool :=
  holder.session.purpose == .execution && holder.session.closureVerifiedAt.isNone &&
    holder.session.status != .closed && holder.leases.isEmpty

def checkLegacy (claims : List ResourceClaim) (legacyTarget : String → Option String)
    (holders : List Epoch) : Except AdmissionError Unit :=
  (holders.filter isLegacyHolder).forM fun holder => do
    let held ← claimsOrFail (resourceClaims deployment (legacyTarget holder.session.id) none)
    throwIf (held.any fun lease => claims.any fun claim => resourcesConflict claim lease)
      (.blocked "DATA_LOCK"
        "A legacy execution must drain before this business environment can run concurrently.")

def checkAhead (claims : List ResourceClaim) (ahead : List WaitingExecution) :
    Except AdmissionError Unit :=
  (ahead.filter (·.earlier)).forM fun waiting => do
    let wanted ← claimsOrFail (executionResourceClaims deployment waiting.execution)
    throwIf (wanted.any fun claim =>
        claim.mode == .write && claims.any fun requested => resourcesConflict requested claim)
      (.blocked "DATA_LOCK" "An earlier conflicting writer is waiting for admission.")

def refuse (refused : Option AdmissionError) : Except AdmissionError Unit :=
  match refused with
  | some failure => .error failure
  | none => .ok ()

def whenever (condition : Bool) (check : Except AdmissionError Unit) : Except AdmissionError Unit :=
  if condition then check else .ok ()

def admissionClaims (request : AdmissionRequest) : Except AdmissionError (List ResourceClaim) :=
  if request.session.purpose = .profilePurge then .ok []
  else claimsOrFail (executionResourceClaims deployment request.execution)

def allocateSession (request : AdmissionRequest) (sessions : List Epoch) :
    Except AdmissionError (List Epoch) := do
  refuse request.refusedBefore
  let claims ← admissionClaims deployment request
  whenever (!claims.isEmpty) (checkLeases deployment claims (sessions.flatMap (·.leases)))
  whenever (!claims.isEmpty && businessDataLocksEnabled deployment)
    (checkLegacy deployment claims request.legacyTarget sessions)
  whenever (!claims.isEmpty) (checkAhead deployment claims request.ahead)
  refuse request.refusedAfter
  -- the primary key, and one lease of a session for a key
  throwIf (sessions.any fun holder => holder.session.id == request.session.id)
    (.failed "Unique constraint failed")
  throwIf (!decide (claims.map (·.resourceKey)).Nodup) (.failed "Unique constraint failed")
  return sessions ++
    [{ session := request.session
       leases := claims.map fun claim => claimedLease (request.leaseId claim) claim
       outside := request.outside }]

inductive LeaseMove where
  | allocateSession (request : AdmissionRequest)
  | quarantineSession (sessionId code : String) (now : Int)
  | releaseVerifiedSessionResources (sessionId : String) (now : Int)
  /-- What other transactions do to the rows of a session, its leases apart: its heartbeats,
      its closure and the evidence of it, its recovery and its owner. -/
  | elsewhere (sessionId : String) (rows : Epoch)

def onSession (sessionId : String) (change : Epoch → Epoch) (sessions : List Epoch) : List Epoch :=
  sessions.map fun epoch => if epoch.session.id = sessionId then change epoch else epoch

def changedElsewhere (rows epoch : Epoch) : Epoch :=
  { rows with
    session := { rows.session with id := epoch.session.id }
    leases := epoch.leases }

def leaseStep (move : LeaseMove) (sessions : List Epoch) : Outcome (List Epoch) AdmissionError :=
  match move with
  | .allocateSession request =>
      match allocateSession deployment request sessions with
      | .ok admitted => .done admitted
      | .error failure => .failed sessions failure
  | .quarantineSession sessionId code now =>
      .done (onSession sessionId
        (fun epoch => (SessionRecovery.quarantineSession code now epoch).1) sessions)
  | .releaseVerifiedSessionResources sessionId now =>
      .done (onSession sessionId
        (fun epoch => (SessionRecovery.releaseVerifiedSessionResources deployment.host now epoch).1)
        sessions)
  | .elsewhere sessionId rows => .done (onSession sessionId (changedElsewhere rows) sessions)

end Deployment

end Devproof
