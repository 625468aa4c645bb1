import Devproof.Recovery.Epoch

/-!
Draining a Runtime and resuming it: `runtime-drain.service.ts` and `runtime-drain-resume.ts`, the
pairing and the revocation of `browser-runtime.service.ts`, and the handshake of
`runtime-gateway.service.ts`, for the rows of one Runtime.  Every call is one transaction under
the lock of the execution resources or of the Runtime's row.  What the transactions write to the
sessions belongs to the recovery of the sessions, and is read here as it stands.
-/

namespace Devproof.RuntimeDrains

open SessionRecovery (SessionClosureEvidence RecoveryError TeamRole demand)

inductive RuntimeStatus where
  | online
  | offline
  | revoked
  deriving DecidableEq

inductive DrainState where
  | none
  | frozen
  | attested
  | resuming
  deriving DecidableEq

structure BrowserRuntime where
  teamId : String
  instanceKey : String
  tokenHash : String
  enabled : Bool
  status : RuntimeStatus
  drainState : DrainState
  drainGeneration : Nat
  connectionGeneration : Nat
  connectionId : Option String
  hostInstanceId : Option String
  daemonInstanceId : Option String
  revokedAt : Option Int

structure FrozenSession where
  sessionId : String
  fencingToken : Nat
  leaseDigest : String
  status : SessionStatus
  closureVerifiedAt : Option Int

inductive AttestationState where
  | frozen
  | attested
  deriving DecidableEq

structure RuntimeDrainAttestation where
  id : String
  teamId : String
  drainGeneration : Nat
  connectionGeneration : Nat
  hostInstanceId : Option String
  frozenSessions : List FrozenSession
  snapshotDigest : String
  state : AttestationState := .frozen
  createdBy : String
  attestedBy : Option String := none
  idempotencyKey : Option String := none
  attestationDigest : Option String := none
  evidenceRefs : List String := []
  note : Option String
  attestedAt : Option Int := none
  resumeGeneration : Nat := 0
  resumeConnectionGeneration : Option Nat := none
  resumedAt : Option Int := none

structure ResumeScope where
  drainId : String
  generation : Nat
  requestedBy : String

structure BrowserRuntimePairingToken where
  tokenHash : String
  teamId : String
  expiresAt : Int
  usedAt : Option Int := none
  resume : Option ResumeScope := none

structure Database where
  runtime : BrowserRuntime
  drains : List RuntimeDrainAttestation := []
  tokens : List BrowserRuntimePairingToken := []

structure Inventory where
  sessions : List SessionRecovery.BrowserRuntimeSession
  /-- The session has a quarantined resource lease. -/
  quarantined : String → Bool
  proofs : List SessionClosureEvidence
  slots : Nat
  leases : Nat
  /-- The recovery permits that have not expired. -/
  recoveryPermits : Nat

structure Moment where
  now : Int
  recoveryEnabled : Bool
  membership : String → Option TeamRole
  active : String → Bool
  inventory : Inventory
  drainId : String
  tokenHash : String
  runtimeTokenHash : String

structure SnapshotText where
  connectionGeneration : Nat
  hostInstanceId : Option String
  sessions : List FrozenSession

structure AttestInput where
  snapshotDigest : String
  idempotencyKey : String
  note : String
  evidenceRefs : List String

structure Digests where
  lease : String → String
  snapshot : SnapshotText → String
  attestation : AttestInput → String

structure AuthContext where
  teamId : String
  userId : String

variable (digests : Digests)

def listed (inventory : Inventory) (session : SessionRecovery.BrowserRuntimeSession) : Bool :=
  session.status != .closed || session.closureEvidenceId.isNone ||
    session.closureVerifiedAt.isNone || inventory.quarantined session.id

def frozenSession (session : SessionRecovery.BrowserRuntimeSession) : FrozenSession :=
  { sessionId := session.id
    fencingToken := session.fencingToken
    leaseDigest := digests.lease session.leaseToken
    status := session.status
    closureVerifiedAt := session.closureVerifiedAt }

def snapshotSessions (moment : Moment) : List FrozenSession :=
  (moment.inventory.sessions.filter (listed moment.inventory)).map (frozenSession digests)

def snapshotDigest (runtime : BrowserRuntime) (moment : Moment) : String :=
  digests.snapshot
    { connectionGeneration := runtime.connectionGeneration
      hostInstanceId := runtime.hostInstanceId
      sessions := snapshotSessions digests moment }

def closed (moment : Moment) (session : SessionRecovery.BrowserRuntimeSession) : Bool :=
  let proof := session.closureEvidenceId.bind fun id =>
    moment.inventory.proofs.find? fun proof => proof.id == id
  session.status == .closed && session.closureVerifiedAt.isSome &&
    proof.any (fun proof => proof.sessionId == session.id &&
      proof.sessionFence == session.fencingToken &&
      proof.leaseDigest == digests.lease session.leaseToken) &&
    session.identityPermit.isNone &&
    !session.executionPermitExpiresAt.any fun expiresAt => decide (moment.now < expiresAt)

def assertResumeInventory (moment : Moment) : Except RecoveryError Unit := do
  demand (moment.inventory.sessions.all (closed digests moment)) (.conflict
    "Every historical session must have matching closure evidence and no execution permit before resume.")
  demand (moment.inventory.slots == 0 && moment.inventory.leases == 0 &&
      moment.inventory.recoveryPermits == 0) (.conflict
    "Runtime physical leases or recovery permits must be released before resume.")

def truthy (text : Option String) : Bool :=
  text.any fun text => text != ""

def resumable (runtime : BrowserRuntime) (drain : RuntimeDrainAttestation) : Bool :=
  runtime.teamId == drain.teamId &&
    (runtime.drainState == .attested || runtime.drainState == .resuming) &&
    !runtime.enabled && (runtime.status == .offline || runtime.status == .revoked) &&
    drain.state == .attested && drain.attestedAt.isSome && drain.resumedAt.isNone &&
    runtime.drainGeneration == drain.drainGeneration &&
    runtime.connectionGeneration ==
      drain.resumeConnectionGeneration.getD drain.connectionGeneration &&
    truthy drain.hostInstanceId && runtime.hostInstanceId == drain.hostInstanceId &&
    truthy runtime.daemonInstanceId

def assertResumeScope (runtime : BrowserRuntime) (drain : RuntimeDrainAttestation) :
    Except RecoveryError Unit :=
  demand (resumable runtime drain) (.conflict
    "Resume requires the current attested, disabled and offline Runtime on its original host.")

def requireRecoveryEnabled (moment : Moment) : Except RecoveryError Unit :=
  demand moment.recoveryEnabled (.coded "SESSION_RECOVERY_DISABLED"
    "Session recovery is paused until all API and Worker replicas support verified closure.")

def requireAdmin (moment : Moment) (userId : String) : Except RecoveryError Unit :=
  demand (moment.membership userId == some .admin)
    (.forbidden "A current team administrator must perform this recovery action.")

def operator (moment : Moment) (userId : String) : Bool :=
  moment.active userId && moment.membership userId == some .admin

namespace Database

variable (db : Database)

def drainOf (teamId drainId : String) : Option RuntimeDrainAttestation :=
  db.drains.find? fun drain => drain.id == drainId && drain.teamId == teamId

def ownDrain (teamId drainId : String) : Option RuntimeDrainAttestation :=
  if db.runtime.teamId = teamId then db.drainOf teamId drainId else none

def updateDrain (drainId : String) (update : RuntimeDrainAttestation → RuntimeDrainAttestation) :
    Database :=
  { db with
    drains := db.drains.map fun drain => if drain.id = drainId then update drain else drain }

def updateTokens (chosen : BrowserRuntimePairingToken → Bool)
    (update : BrowserRuntimePairingToken → BrowserRuntimePairingToken) : Database :=
  { db with tokens := db.tokens.map fun token => if chosen token then update token else token }

end Database

def freeze (current : AuthContext) (inputDigest : String) (note : Option String)
    (moment : Moment) (db : Database) :
    Except RecoveryError (Database × RuntimeDrainAttestation) := do
  requireRecoveryEnabled moment
  requireAdmin moment current.userId
  demand (db.runtime.teamId == current.teamId) (.notFound "Runtime was not found.")
  demand (db.runtime.drainState != .resuming) (.conflict
    "Complete or reissue the pending Runtime recovery before starting another drain.")
  -- The drains are in the order of their generations, and the last frozen one is read.
  match (db.drains.filter fun drain => drain.state == .frozen).getLast? with
  | some existing =>
      demand (existing.snapshotDigest == inputDigest)
        (.conflict "An existing frozen drain must be completed first.")
      pure (db, existing)
  | none =>
      demand (snapshotDigest digests db.runtime moment == inputDigest)
        (.conflict "Runtime inventory changed. Preview again before freezing it.")
      demand (!db.drains.any fun drain => drain.id == moment.drainId) .uniqueConstraint
      let row : RuntimeDrainAttestation :=
        { id := moment.drainId
          teamId := current.teamId
          drainGeneration := db.runtime.drainGeneration + 1
          connectionGeneration := db.runtime.connectionGeneration
          hostInstanceId := db.runtime.hostInstanceId
          frozenSessions := snapshotSessions digests moment
          snapshotDigest := snapshotDigest digests db.runtime moment
          createdBy := current.userId
          note }
      pure ({ db with
          runtime := { db.runtime with
            enabled := false
            drainState := .frozen
            drainGeneration := db.runtime.drainGeneration + 1 }
          drains := db.drains ++ [row] }, row)

def attestable (input : AttestInput) (runtime : BrowserRuntime)
    (drain : RuntimeDrainAttestation) : Bool :=
  drain.state == .frozen && drain.snapshotDigest == input.snapshotDigest &&
    runtime.drainState == .frozen && runtime.drainGeneration == drain.drainGeneration &&
    runtime.connectionGeneration == drain.connectionGeneration &&
    runtime.hostInstanceId == drain.hostInstanceId && !runtime.enabled &&
    (runtime.status == .offline || runtime.status == .revoked)

def attested (userId : String) (input : AttestInput) (now : Int)
    (drain : RuntimeDrainAttestation) : RuntimeDrainAttestation :=
  { drain with
    state := .attested
    attestedBy := some userId
    idempotencyKey := some input.idempotencyKey
    attestationDigest := some (digests.attestation input)
    note := some input.note
    evidenceRefs := input.evidenceRefs
    attestedAt := some now }

/-- `attest`; `closures` is what `acceptAdminDrainEvidence` says of the frozen sessions. -/
def attest (current : AuthContext) (drainId : String) (input : AttestInput)
    (closures : List FrozenSession → Except RecoveryError Unit) (moment : Moment) (db : Database) :
    Except RecoveryError (Database × RuntimeDrainAttestation) := do
  requireRecoveryEnabled moment
  requireAdmin moment current.userId
  match db.ownDrain current.teamId drainId with
  | none => throw (.notFound "Frozen Runtime drain was not found.")
  | some drain =>
      if drain.idempotencyKey = some input.idempotencyKey then
        demand (drain.attestationDigest == some (digests.attestation input)) (.conflict
          "Idempotency key was already used for different drain evidence.")
        pure (db, drain)
      else
        demand (attestable input db.runtime drain) (.conflict
          "Drain evidence requires the unchanged frozen Runtime to be disabled and offline or revoked. A reconnect invalidates this operation.")
        closures drain.frozenSessions
        let updated := db.updateDrain drainId (attested digests current.userId input moment.now)
        pure ({ updated with runtime := { db.runtime with drainState := .attested } },
          attested digests current.userId input moment.now drain)

def reissued (moment : Moment) (runtime : BrowserRuntime) : BrowserRuntime :=
  { runtime with
    drainState := .attested
    enabled := false
    status := .offline
    tokenHash := moment.runtimeTokenHash
    connectionGeneration := runtime.connectionGeneration + 1
    connectionId := none }

def resumeToken (current : AuthContext) (drainId inputDigest : String)
    (profileStoragePreserved : Bool) (moment : Moment) (db : Database) :
    Except RecoveryError (Database × BrowserRuntimePairingToken) := do
  requireRecoveryEnabled moment
  requireAdmin moment current.userId
  match db.ownDrain current.teamId drainId with
  | none => throw (.notFound "Attested Runtime drain was not found.")
  | some drain =>
      demand (operator moment current.userId)
        (.conflict "An active team administrator must issue the recovery ticket.")
      assertResumeScope db.runtime drain
      demand (drain.snapshotDigest == inputDigest && profileStoragePreserved)
        (.conflict "Confirm the current drain and preserved Profile storage before resuming.")
      assertResumeInventory digests moment
      demand (!db.tokens.any fun token => token.tokenHash == moment.tokenHash) .uniqueConstraint
      let token : BrowserRuntimePairingToken :=
        { tokenHash := moment.tokenHash
          teamId := current.teamId
          expiresAt := moment.now + 600000
          resume := some
            { drainId
              generation := drain.resumeGeneration + 1
              requestedBy := current.userId } }
      let counted := db.updateDrain drainId fun row =>
        { row with
          resumeGeneration := drain.resumeGeneration + 1
          resumeConnectionGeneration := some (db.runtime.connectionGeneration + 1) }
      let expired := counted.updateTokens
        (fun token => token.usedAt.isNone && token.resume.any fun scope => scope.drainId == drainId)
        fun token => { token with expiresAt := moment.now }
      pure ({ expired with
          runtime := reissued moment db.runtime
          tokens := expired.tokens ++ [token] }, token)

def createPairingToken (current : AuthContext) (moment : Moment) (db : Database) :
    Except RecoveryError (Database × BrowserRuntimePairingToken) := do
  demand (!db.tokens.any fun token => token.tokenHash == moment.tokenHash) .uniqueConstraint
  let token : BrowserRuntimePairingToken :=
    { tokenHash := moment.tokenHash
      teamId := current.teamId
      expiresAt := moment.now + 600000 }
  pure ({ db with tokens := db.tokens ++ [token] }, token)

structure RuntimePairInput where
  /-- `hashToken(input.pairingToken)`. -/
  tokenHash : String
  instanceKey : String

def claim (tokenHash : String) (now : Int) (db : Database) : Database :=
  db.updateTokens (fun token => token.tokenHash == tokenHash) fun token =>
    { token with usedAt := some now }

def pairResuming (token : BrowserRuntimePairingToken) (scope : ResumeScope)
    (input : RuntimePairInput) (moment : Moment) (db : Database) :
    Except RecoveryError Database := do
  requireRecoveryEnabled moment
  match db.drainOf token.teamId scope.drainId with
  | none => throw (.forbidden "Runtime recovery ticket is invalid.")
  | some drain =>
      demand (db.runtime.teamId == token.teamId && db.runtime.instanceKey == input.instanceKey)
        (.forbidden "Recovery ticket belongs to a different Runtime instance.")
      assertResumeScope db.runtime drain
      demand (db.runtime.drainState == .attested && scope.generation == drain.resumeGeneration)
        (.conflict "Runtime recovery ticket was superseded.")
      demand (operator moment scope.requestedBy) (.forbidden
        "The recovery ticket issuer is no longer an active team administrator.")
      assertResumeInventory digests moment
      let counted := (claim token.tokenHash moment.now db).updateDrain drain.id fun row =>
        { row with resumeConnectionGeneration := some (db.runtime.connectionGeneration + 1) }
      pure { counted with
        runtime := { db.runtime with
          drainState := .resuming
          enabled := false
          revokedAt := none
          status := .offline
          tokenHash := moment.runtimeTokenHash
          connectionGeneration := db.runtime.connectionGeneration + 1
          connectionId := none } }

def pair (input : RuntimePairInput) (moment : Moment) (db : Database) :
    Except RecoveryError Database :=
  match db.tokens.find? fun token => token.tokenHash == input.tokenHash with
  | none => throw (.forbidden "Pairing token is invalid, expired, or already used.")
  | some token => do
      demand (token.usedAt.isNone && decide (moment.now < token.expiresAt))
        (.forbidden "Pairing token is invalid, expired, or already used.")
      match token.resume with
      | some scope => pairResuming digests token scope input moment db
      | none =>
          -- A token for another instance creates or updates the row of that one.
          if db.runtime.teamId = token.teamId ∧ db.runtime.instanceKey = input.instanceKey then
            demand (db.runtime.drainState == .none)
              (.conflict "A Runtime frozen for drain cannot be paired or re-enabled.")
            pure { claim token.tokenHash moment.now db with
              runtime := { db.runtime with
                enabled := true
                revokedAt := none
                status := .online
                tokenHash := moment.runtimeTokenHash } }
          else pure (claim token.tokenHash moment.now db)

def revoke (current : AuthContext) (moment : Moment) (db : Database) :
    Except RecoveryError Database := do
  demand (db.runtime.teamId == current.teamId) (.forbidden "Browser Runtime was not found.")
  pure { db with
    runtime := { db.runtime with
      enabled := false, revokedAt := some moment.now, status := .revoked } }

structure Hello where
  tokenHash : String
  hostInstanceId : Option String
  daemonInstanceId : Option String
  connectionId : String
  selectedMinor : Nat
  /-- The capabilities that the selected version allows. -/
  capabilities : List String
  activeSessions : Nat

/-- A Runtime that resumes is the drained one, on its host, in a new process without sessions. -/
def resumes (hello : Hello) (runtime : BrowserRuntime) (drain : RuntimeDrainAttestation) : Bool :=
  decide (14 ≤ hello.selectedMinor) && hello.capabilities.contains "closure-evidence-v1" &&
    hello.capabilities.contains "session-permits-v1" &&
    hello.hostInstanceId == drain.hostInstanceId && truthy hello.daemonInstanceId &&
    hello.daemonInstanceId != runtime.daemonInstanceId && hello.activeSessions == 0

def connected (hello : Hello) (runtime : BrowserRuntime) : BrowserRuntime :=
  { runtime with
    connectionId := some hello.connectionId
    connectionGeneration := runtime.connectionGeneration + 1
    hostInstanceId := hello.hostInstanceId
    daemonInstanceId := hello.daemonInstanceId
    status := .offline }

def issuer (db : Database) (drain : RuntimeDrainAttestation) : Option String :=
  (db.tokens.find? fun token => token.usedAt.isSome && token.resume.any fun scope =>
    scope.drainId == drain.id && scope.generation == drain.resumeGeneration).bind fun token =>
      token.resume.map fun scope => scope.requestedBy

/-- The transaction of a handshake; `seen` is the drain state that was read before it.  `none`
    rejects the Runtime. -/
def handshake (seen : DrainState) (hello : Hello) (moment : Moment) (db : Database) :
    Option Database :=
  if db.runtime.tokenHash = hello.tokenHash ∧ db.runtime.revokedAt = none ∧
      ((db.runtime.enabled = true ∧ db.runtime.drainState = .none) ∨
        (db.runtime.enabled = false ∧ db.runtime.drainState = .resuming)) then
    if db.runtime.drainState = .resuming then
      if seen ≠ .resuming ∨ moment.recoveryEnabled = false then none
      else
        match db.drains.find? fun drain =>
            drain.teamId == db.runtime.teamId &&
              drain.drainGeneration == db.runtime.drainGeneration with
        | none => none
        | some drain =>
            match assertResumeScope db.runtime drain, assertResumeInventory digests moment with
            | .ok _, .ok _ =>
                if resumes hello db.runtime drain = true ∧
                    (issuer db drain).any (operator moment) = true then
                  let resumed := db.updateDrain drain.id fun row =>
                    { row with resumedAt := some moment.now }
                  some { resumed with
                    runtime := { connected hello db.runtime with
                      enabled := true, drainState := .none } }
                else none
            | _, _ => none
    else if seen = .resuming then none
    else some { db with runtime := connected hello db.runtime }
  else none

/-- The connection is the current one and reports itself; a handshake asks for no drain too. -/
def markOnline (connectionId : String) (connectionGeneration : Nat) (db : Database) : Database :=
  if db.runtime.connectionId = some connectionId ∧
      db.runtime.connectionGeneration = connectionGeneration ∧ db.runtime.enabled = true ∧
      db.runtime.revokedAt = none then
    { db with runtime := { db.runtime with status := .online } }
  else db

def markOffline (connectionId : String) (db : Database) : Database :=
  if db.runtime.connectionId = some connectionId then
    { db with runtime := { db.runtime with status := .offline } }
  else db

inductive Move where
  | freeze (current : AuthContext) (inputDigest : String) (note : Option String) (moment : Moment)
  | attest (current : AuthContext) (drainId : String) (input : AttestInput)
      (closures : List FrozenSession → Except RecoveryError Unit) (moment : Moment)
  | resumeToken (current : AuthContext) (drainId inputDigest : String)
      (profileStoragePreserved : Bool) (moment : Moment)
  | createPairingToken (current : AuthContext) (moment : Moment)
  | pair (input : RuntimePairInput) (moment : Moment)
  | revoke (current : AuthContext) (moment : Moment)
  | handshake (seen : DrainState) (hello : Hello) (moment : Moment)
  | markOnline (connectionId : String) (connectionGeneration : Nat)
  | markOffline (connectionId : String)

def committed {Answer : Type} (db : Database) :
    Except RecoveryError (Database × Answer) → Database
  | .ok (next, _) => next
  | .error _ => db

def step (move : Move) (db : Database) : Database :=
  match move with
  | .freeze current inputDigest note moment =>
      committed db (freeze digests current inputDigest note moment db)
  | .attest current drainId input closures moment =>
      committed db (attest digests current drainId input closures moment db)
  | .resumeToken current drainId inputDigest profileStoragePreserved moment =>
      committed db
        (resumeToken digests current drainId inputDigest profileStoragePreserved moment db)
  | .createPairingToken current moment => committed db (createPairingToken current moment db)
  | .pair input moment => committed db ((pair digests input moment db).map fun next => (next, ()))
  | .revoke current moment => committed db ((revoke current moment db).map fun next => (next, ()))
  | .handshake seen hello moment => (handshake digests seen hello moment db).getD db
  | .markOnline connectionId connectionGeneration =>
      markOnline connectionId connectionGeneration db
  | .markOffline connectionId => markOffline connectionId db

def reached (moves : List Move) (db : Database) : Database :=
  moves.foldl (fun db move => step digests move db) db

end Devproof.RuntimeDrains
