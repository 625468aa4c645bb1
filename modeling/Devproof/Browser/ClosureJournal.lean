import Devproof.Host
import Devproof.Lib.Machine

/-!
The durable closure journal of a browser runtime (closure-journal.ts).  A
session's record is one file that every operation reads whole and replaces
atomically; the process may die before or after the replacement.
-/

namespace Devproof

structure RuntimeProcessIdentity where
  hostInstanceId : String
  daemonInstanceId : String
  deriving Repr, DecidableEq

structure BrowserLaunchIdentity where
  hostInstanceId : String
  daemonInstanceId : String
  id : String
  marker : String
  deriving Repr, DecidableEq

structure BrowserProcessIdentity where
  pid : Nat
  marker : String
  processGroupId : Option Nat := none
  startedAt : Option String := none
  deriving Repr, DecidableEq

structure SessionEpoch where
  sessionId : String
  leaseToken : String
  fencingToken : String
  deriving Repr, DecidableEq

inductive ClosureMethod where
  | liveSessionTerminated
  | identifiedProcessSetTerminated
  | launchPrevented
  deriving Repr, DecidableEq

structure ClosedSessionWriteAudit where
  launchIdentityId : Option String
  complete : Bool
  requestCount : Nat
  potentialWrites : Nat
  deriving Repr, DecidableEq

structure ClosedProof where
  method : ClosureMethod
  completedAt : String
  writeAudit : Option ClosedSessionWriteAudit := none
  deriving Repr, DecidableEq

structure RuntimeClosureEvidence where
  evidenceId : String
  recoveryId : String
  requestId : String
  sessionId : String
  leaseToken : String
  fencingToken : String
  hostInstanceId : String
  daemonInstanceId : String
  method : ClosureMethod
  closureCompletedAt : String
  deriving Repr, DecidableEq

structure RuntimeClosureRecovery where
  recoveryId : String
  requestId : String
  sessionId : String
  expectedLeaseToken : String
  expectedFencingToken : String
  expectedLaunchIdentity : Option String := none
  deriving Repr, DecidableEq

structure ClosureRecord where
  epoch : SessionEpoch
  revokedAt : Option String := none
  launch : Option BrowserLaunchIdentity := none
  processIdentity : Option BrowserProcessIdentity := none
  closed : Option ClosedProof := none
  evidence : List RuntimeClosureEvidence := []
  deriving Repr, DecidableEq

inductive ClosureError where
  | coded (code message : String)
  | schema
  deriving Repr, DecidableEq

namespace ClosureError

def unverified (message : String) : ClosureError :=
  coded "CLOSURE_UNVERIFIED" message

def lost (message : String) : ClosureError :=
  coded "SESSION_LOST" message

def permitExpired (message : String) : ClosureError :=
  coded "SESSION_PERMIT_EXPIRED" message

end ClosureError

/-- `/^[a-f\d-]{36}$/iu`. -/
def isSessionPath (sessionId : String) : Bool :=
  sessionId.toList.length == 36 && sessionId.toList.all fun char =>
    ('a' ≤ char && char ≤ 'f') || ('A' ≤ char && char ≤ 'F') || ('0' ≤ char && char ≤ '9') ||
      char == '-'

/-- `/^\d+$/u`. -/
def isNumeral (text : String) : Bool :=
  text != "" && text.toList.all fun char => '0' ≤ char && char ≤ '9'

def isClosureEvidence (host : Host) (row : RuntimeClosureEvidence) : Bool :=
  host.isUuid row.evidenceId && host.isUuid row.recoveryId && host.isUuid row.requestId &&
    host.isUuid row.sessionId && host.isUuid row.leaseToken && isNumeral row.fencingToken &&
    16 ≤ units row.hostInstanceId && units row.hostInstanceId ≤ 160 &&
    host.isUuid row.daemonInstanceId && host.isDatetime row.closureCompletedAt

inductive ClosureCall where
  | recordLaunch (epoch : SessionEpoch) (identity : RuntimeProcessIdentity) (marker : String)
      (launchIdentityId : Option String) (uuid : String)
  | preventLaunch (epoch : SessionEpoch) (identity : RuntimeProcessIdentity)
      (launchIdentityId : String) (now : String)
  | revoke (epoch : SessionEpoch) (now : String)
  | attachProcess (epoch : SessionEpoch) (processIdentity : BrowserProcessIdentity)
  | recordAbortedLaunch (epoch : SessionEpoch) (identity : RuntimeProcessIdentity)
      (marker : String) (launchIdentityId : Option String) (uuid : String) (now : String)
  | complete (epoch : SessionEpoch) (identity : RuntimeProcessIdentity) (method : ClosureMethod)
      (writeAudit : Option ClosedSessionWriteAudit) (now : String)
  | evidence (request : RuntimeClosureRecovery) (identity : RuntimeProcessIdentity)
      (uuid : String)
  deriving Repr, DecidableEq

inductive ClosureAnswer where
  | done
  | launched (launch : BrowserLaunchIdentity)
  | proof (evidence : RuntimeClosureEvidence)
  deriving Repr, DecidableEq

structure Transaction where
  answer : ClosureAnswer
  written : Option ClosureRecord := none
  deriving Repr, DecidableEq

def ClosureCall.sessionId : ClosureCall → String
  | .recordLaunch epoch _ _ _ _ => epoch.sessionId
  | .preventLaunch epoch _ _ _ => epoch.sessionId
  | .revoke epoch _ => epoch.sessionId
  | .attachProcess epoch _ => epoch.sessionId
  | .recordAbortedLaunch epoch _ _ _ _ _ => epoch.sessionId
  | .complete epoch _ _ _ _ => epoch.sessionId
  | .evidence request _ _ => request.sessionId

namespace ClosureJournal

variable (host : Host)

def read (sessionId : String) (file : Option ClosureRecord) :
    Except ClosureError (Option ClosureRecord) := do
  throwIf (!isSessionPath sessionId) (.unverified "Invalid session identity.")
  match file with
  | none => return none
  | some record =>
      throwIf (record.epoch.sessionId != sessionId)
        (.unverified "The local closure journal is invalid.")
      throwIf (!record.evidence.all (isClosureEvidence host)) .schema
      return some record

def assertEpoch (record : ClosureRecord) (epoch : SessionEpoch) : Except ClosureError Unit :=
  throwIf (record.epoch != epoch)
    (.lost "Closure evidence belongs to a different session epoch.")

def assertCanLaunch (epoch : SessionEpoch) (file : Option ClosureRecord) :
    Except ClosureError Unit := do
  match ← read host epoch.sessionId file with
  | none => return ()
  | some existing =>
      assertEpoch existing epoch
      throwIf (existing.revokedAt.isSome || existing.closed.isSome)
        (.permitExpired "A durably revoked session cannot launch again.")
      throw (.unverified "An earlier launch must be closed before opening this session.")

def launchOf (identity : RuntimeProcessIdentity) (id marker : String) : BrowserLaunchIdentity :=
  { hostInstanceId := identity.hostInstanceId
    daemonInstanceId := identity.daemonInstanceId
    id
    marker }

def recordLaunch (epoch : SessionEpoch) (identity : RuntimeProcessIdentity) (marker : String)
    (launchIdentityId : Option String) (uuid : String) (file : Option ClosureRecord) :
    Except ClosureError Transaction := do
  assertCanLaunch host epoch file
  let launch := launchOf identity (launchIdentityId.getD uuid) marker
  return { answer := .launched launch, written := some { epoch, launch := some launch } }

def preventLaunch (epoch : SessionEpoch) (identity : RuntimeProcessIdentity)
    (launchIdentityId now : String) (file : Option ClosureRecord) :
    Except ClosureError Transaction := do
  match ← read host epoch.sessionId file with
  | none => pure ()
  | some existing =>
      assertEpoch existing epoch
      throwIf existing.launch.isSome
        (.unverified "A launch was recorded while revoking the intent.")
  return {
    answer := .done
    written := some {
      epoch
      revokedAt := some now
      launch := some (launchOf identity launchIdentityId "unlaunched")
      closed := some { method := .launchPrevented, completedAt := now } } }

def revoke (epoch : SessionEpoch) (now : String) (file : Option ClosureRecord) :
    Except ClosureError Transaction := do
  let record := (← read host epoch.sessionId file).getD { epoch }
  assertEpoch record epoch
  return {
    answer := .done
    written := some { record with revokedAt := some (record.revokedAt.getD now) } }

def attachProcess (epoch : SessionEpoch) (processIdentity : BrowserProcessIdentity)
    (file : Option ClosureRecord) : Except ClosureError Transaction := do
  let refusal := ClosureError.permitExpired "A closed launch cannot acquire another process."
  match ← read host epoch.sessionId file with
  | none => throw refusal
  | some record =>
      throwIf (record.launch.isNone || record.closed.isSome) refusal
      assertEpoch record epoch
      return {
        answer := .done
        written := some { record with processIdentity := some processIdentity } }

def recordAbortedLaunch (epoch : SessionEpoch) (identity : RuntimeProcessIdentity)
    (marker : String) (launchIdentityId : Option String) (uuid now : String)
    (file : Option ClosureRecord) : Except ClosureError Transaction := do
  match ← read host epoch.sessionId file with
  | none => return { answer := .done }
  | some record =>
      if record.revokedAt.isNone || record.launch.isSome then return { answer := .done }
      assertEpoch record epoch
      return {
        answer := .done
        written := some
          { record with
            launch := some (launchOf identity (launchIdentityId.getD uuid) marker)
            closed := some { method := .identifiedProcessSetTerminated, completedAt := now } } }

def complete (epoch : SessionEpoch) (identity : RuntimeProcessIdentity) (method : ClosureMethod)
    (writeAudit : Option ClosedSessionWriteAudit) (now : String) (file : Option ClosureRecord) :
    Except ClosureError Transaction := do
  let refusal :=
    ClosureError.unverified "No durable launch scope and revocation exist on this host."
  match ← read host epoch.sessionId file with
  | none => throw refusal
  | some record =>
      match record.launch with
      | none => throw refusal
      | some launch =>
          throwIf (launch.hostInstanceId != identity.hostInstanceId || record.revokedAt.isNone)
            refusal
          assertEpoch record epoch
          throwIf (writeAudit.any fun audit =>
              method != .liveSessionTerminated || audit.launchIdentityId != some launch.id)
            (.unverified "Write audit belongs to a different browser launch.")
          return {
            answer := .done
            written := some
              { record with
                closed := some (record.closed.getD { method, completedAt := now, writeAudit }) } }

def answers (request : RuntimeClosureRecovery) (identity : RuntimeProcessIdentity)
    (row : RuntimeClosureEvidence) : Bool :=
  row.requestId == request.requestId && row.daemonInstanceId == identity.daemonInstanceId

def proofOf (record : ClosureRecord) (closed : ClosedProof) (request : RuntimeClosureRecovery)
    (identity : RuntimeProcessIdentity) (uuid : String) : RuntimeClosureEvidence :=
  { evidenceId := uuid
    recoveryId := request.recoveryId
    requestId := request.requestId
    sessionId := record.epoch.sessionId
    leaseToken := record.epoch.leaseToken
    fencingToken := record.epoch.fencingToken
    hostInstanceId := identity.hostInstanceId
    daemonInstanceId := identity.daemonInstanceId
    method := closed.method
    closureCompletedAt := closed.completedAt }

def evidence (request : RuntimeClosureRecovery) (identity : RuntimeProcessIdentity)
    (uuid : String) (file : Option ClosureRecord) : Except ClosureError Transaction := do
  let refusal := ClosureError.unverified "No verified closure tombstone exists on this host."
  match ← read host request.sessionId file with
  | none => throw refusal
  | some record =>
      match record.closed, record.launch with
      | some closed, some launch =>
          throwIf (launch.hostInstanceId != identity.hostInstanceId) refusal
          assertEpoch record
            { sessionId := request.sessionId
              leaseToken := request.expectedLeaseToken
              fencingToken := request.expectedFencingToken }
          throwIf ((truthy request.expectedLaunchIdentity).any fun id => id != launch.id)
            (.lost "The closure challenge targets a different launch.")
          match record.evidence.find? (answers request identity) with
          | some previous =>
              throwIf (previous.recoveryId != request.recoveryId)
                (.lost "A closure challenge was reused for another recovery.")
              return { answer := .proof previous }
          | none =>
              let proof := proofOf record closed request identity uuid
              throwIf (!isClosureEvidence host proof) .schema
              return {
                answer := .proof proof
                written := some { record with evidence := record.evidence ++ [proof] } }
      | _, _ => throw refusal

def perform (call : ClosureCall) (file : Option ClosureRecord) :
    Except ClosureError Transaction :=
  match call with
  | .recordLaunch epoch identity marker launchIdentityId uuid =>
      recordLaunch host epoch identity marker launchIdentityId uuid file
  | .preventLaunch epoch identity launchIdentityId now =>
      preventLaunch host epoch identity launchIdentityId now file
  | .revoke epoch now => revoke host epoch now file
  | .attachProcess epoch processIdentity => attachProcess host epoch processIdentity file
  | .recordAbortedLaunch epoch identity marker launchIdentityId uuid now =>
      recordAbortedLaunch host epoch identity marker launchIdentityId uuid now file
  | .complete epoch identity method writeAudit now =>
      complete host epoch identity method writeAudit now file
  | .evidence request identity uuid => evidence host request identity uuid file

/-! What a successful operation has checked, and what it writes. -/

structure Challenged (request : RuntimeClosureRecovery) (identity : RuntimeProcessIdentity)
    (record : ClosureRecord) (closed : ClosedProof) (launch : BrowserLaunchIdentity) : Prop where
  isClosed : record.closed = some closed
  launched : record.launch = some launch
  ownHost : launch.hostInstanceId = identity.hostInstanceId
  epoch : record.epoch =
    { sessionId := request.sessionId
      leaseToken := request.expectedLeaseToken
      fencingToken := request.expectedFencingToken }
  expected : ((truthy request.expectedLaunchIdentity).any fun id => id != launch.id) = false

inductive ClosureEffect (file : Option ClosureRecord) : ClosureCall → Transaction → Prop where
  | launch (epoch identity marker launchIdentityId uuid launch) (absent : file = none) :
      ClosureEffect file (.recordLaunch epoch identity marker launchIdentityId uuid)
        { answer := .launched launch, written := some { epoch, launch := some launch } }
  | prevent (epoch identity launchIdentityId now launch closed)
      (unlaunched : ∀ existing, file = some existing →
        existing.epoch = epoch ∧ existing.launch = none) :
      ClosureEffect file (.preventLaunch epoch identity launchIdentityId now)
        { answer := .done
          written := some
            { epoch, revokedAt := some now, launch := some launch, closed := some closed } }
  | revokeNew (epoch now) (absent : file = none) :
      ClosureEffect file (.revoke epoch now)
        { answer := .done, written := some { epoch, revokedAt := some now } }
  | revoke (epoch now record revokedAt) (found : file = some record)
      (same : record.epoch = epoch) :
      ClosureEffect file (.revoke epoch now)
        { answer := .done, written := some { record with revokedAt := some revokedAt } }
  | attach (epoch processIdentity record) (found : file = some record)
      (same : record.epoch = epoch) :
      ClosureEffect file (.attachProcess epoch processIdentity)
        { answer := .done
          written := some { record with processIdentity := some processIdentity } }
  | idle (epoch identity marker launchIdentityId uuid now) :
      ClosureEffect file (.recordAbortedLaunch epoch identity marker launchIdentityId uuid now)
        { answer := .done }
  | abort (epoch identity marker launchIdentityId uuid now record launch closed)
      (found : file = some record) (same : record.epoch = epoch)
      (revoked : record.revokedAt.isSome = true) (unlaunched : record.launch = none) :
      ClosureEffect file (.recordAbortedLaunch epoch identity marker launchIdentityId uuid now)
        { answer := .done
          written := some { record with launch := some launch, closed := some closed } }
  | complete (epoch identity method writeAudit now record proof) (found : file = some record)
      (same : record.epoch = epoch) (revoked : record.revokedAt.isSome = true)
      (launched : record.launch.isSome = true) :
      ClosureEffect file (.complete epoch identity method writeAudit now)
        { answer := .done
          written := some { record with closed := some (record.closed.getD proof) } }
  | replay (request identity uuid record closed launch previous) (found : file = some record)
      (challenged : Challenged request identity record closed launch)
      (row : record.evidence.find? (answers request identity) = some previous)
      (recovery : previous.recoveryId = request.recoveryId) :
      ClosureEffect file (.evidence request identity uuid) { answer := .proof previous }
  | prove (request identity uuid record closed launch) (found : file = some record)
      (challenged : Challenged request identity record closed launch)
      (fresh : record.evidence.find? (answers request identity) = none)
      (valid : isClosureEvidence host (proofOf record closed request identity uuid) = true) :
      ClosureEffect file (.evidence request identity uuid)
        { answer := .proof (proofOf record closed request identity uuid)
          written := some
            { record with
              evidence := record.evidence ++ [proofOf record closed request identity uuid] } }

variable {host}

theorem read_ok {sessionId : String} {file result : Option ClosureRecord}
    (ok : read host sessionId file = .ok result) : file = result := by
  cases file with
  | none =>
      simp only [read, bind_ok, throwIf_ok, exists_const, pure, Except.pure,
        Except.ok.injEq] at ok
      exact ok.2
  | some record =>
      simp only [read, bind_ok, throwIf_ok, exists_const, pure, Except.pure,
        Except.ok.injEq] at ok
      exact ok.2.2.2

theorem read_path {sessionId : String} {file result : Option ClosureRecord}
    (ok : read host sessionId file = .ok result) : isSessionPath sessionId = true := by
  simp only [read, bind_ok, throwIf_ok, exists_const, Bool.not_eq_false'] at ok
  exact ok.1

theorem assertEpoch_ok {record : ClosureRecord} {epoch : SessionEpoch} {result : Unit} :
    assertEpoch record epoch = .ok result ↔ record.epoch = epoch := by
  simp [assertEpoch]

theorem recordLaunch_ok {epoch : SessionEpoch} {identity : RuntimeProcessIdentity}
    {marker : String} {launchIdentityId : Option String} {uuid : String}
    {file : Option ClosureRecord} {transaction : Transaction}
    (ok : recordLaunch host epoch identity marker launchIdentityId uuid file = .ok transaction) :
    ClosureEffect host file (.recordLaunch epoch identity marker launchIdentityId uuid)
      transaction := by
  simp only [recordLaunch, assertCanLaunch, bind_ok, pure, Except.pure, Except.ok.injEq] at ok
  obtain ⟨_, ⟨stored, found, checked⟩, same⟩ := ok
  subst same
  refine ClosureEffect.launch _ _ _ _ _ _ ?_
  rw [read_ok found]
  cases stored with
  | none => rfl
  | some existing => simp [bind_ok] at checked

theorem preventLaunch_ok {epoch : SessionEpoch} {identity : RuntimeProcessIdentity}
    {launchIdentityId now : String} {file : Option ClosureRecord} {transaction : Transaction}
    (ok : preventLaunch host epoch identity launchIdentityId now file = .ok transaction) :
    ClosureEffect host file (.preventLaunch epoch identity launchIdentityId now) transaction := by
  simp only [preventLaunch, bind_ok, pure, Except.pure] at ok
  obtain ⟨stored, found, checked⟩ := ok
  have same := read_ok found
  subst same
  cases file with
  | none =>
      simp only [Except.ok.injEq] at checked
      rw [← checked]
      exact ClosureEffect.prevent _ _ _ _ _ _ (by simp)
  | some existing =>
      simp only [bind_ok, assertEpoch_ok, throwIf_ok, exists_const, Except.ok.injEq,
        Option.isSome_eq_false_iff, Option.isNone_iff_eq_none] at checked
      obtain ⟨same, unlaunched, written⟩ := checked
      rw [← written]
      refine ClosureEffect.prevent _ _ _ _ _ _ ?_
      intro other found
      rw [← Option.some.inj found]
      exact ⟨same, unlaunched⟩

theorem revoke_ok {epoch : SessionEpoch} {now : String} {file : Option ClosureRecord}
    {transaction : Transaction} (ok : revoke host epoch now file = .ok transaction) :
    ClosureEffect host file (.revoke epoch now) transaction := by
  simp only [revoke, bind_ok, assertEpoch_ok, exists_const, pure, Except.pure,
    Except.ok.injEq] at ok
  obtain ⟨stored, found, same, written⟩ := ok
  rw [read_ok found, ← written]
  cases stored with
  | none => exact ClosureEffect.revokeNew _ _ rfl
  | some record => exact ClosureEffect.revoke _ _ record _ rfl same

theorem attachProcess_ok {epoch : SessionEpoch} {processIdentity : BrowserProcessIdentity}
    {file : Option ClosureRecord} {transaction : Transaction}
    (ok : attachProcess host epoch processIdentity file = .ok transaction) :
    ClosureEffect host file (.attachProcess epoch processIdentity) transaction := by
  simp only [attachProcess, bind_ok, pure, Except.pure] at ok
  obtain ⟨stored, found, checked⟩ := ok
  rw [read_ok found]
  cases stored with
  | none => simp at checked
  | some record =>
      simp only [bind_ok, throwIf_ok, assertEpoch_ok, exists_const, Except.ok.injEq] at checked
      obtain ⟨-, same, written⟩ := checked
      rw [← written]
      exact ClosureEffect.attach _ _ record rfl same

theorem recordAbortedLaunch_ok {epoch : SessionEpoch} {identity : RuntimeProcessIdentity}
    {marker : String} {launchIdentityId : Option String} {uuid now : String}
    {file : Option ClosureRecord} {transaction : Transaction}
    (ok : recordAbortedLaunch host epoch identity marker launchIdentityId uuid now file =
      .ok transaction) :
    ClosureEffect host file (.recordAbortedLaunch epoch identity marker launchIdentityId uuid now)
      transaction := by
  simp only [recordAbortedLaunch, bind_ok, pure, Except.pure] at ok
  obtain ⟨stored, found, checked⟩ := ok
  rw [read_ok found]
  cases stored with
  | none =>
      rw [← Except.ok.inj checked]
      exact ClosureEffect.idle _ _ _ _ _ _
  | some record =>
      simp only at checked
      split at checked
      · rw [← Except.ok.inj checked]
        exact ClosureEffect.idle _ _ _ _ _ _
      · rename_i live
        simp only [bind_ok, assertEpoch_ok, exists_const, Except.ok.injEq] at checked
        obtain ⟨same, written⟩ := checked
        rw [← written]
        simp only [Bool.or_eq_true, not_or, Bool.not_eq_true, Option.isSome_eq_false_iff,
          Option.isNone_iff_eq_none] at live
        exact ClosureEffect.abort _ _ _ _ _ _ record _ _ rfl same
          (Option.isSome_iff_ne_none.mpr live.1) live.2

theorem complete_ok {epoch : SessionEpoch} {identity : RuntimeProcessIdentity}
    {method : ClosureMethod} {writeAudit : Option ClosedSessionWriteAudit} {now : String}
    {file : Option ClosureRecord} {transaction : Transaction}
    (ok : complete host epoch identity method writeAudit now file = .ok transaction) :
    ClosureEffect host file (.complete epoch identity method writeAudit now) transaction := by
  simp only [complete, bind_ok, pure, Except.pure] at ok
  obtain ⟨stored, found, checked⟩ := ok
  rw [read_ok found]
  cases stored with
  | none => simp at checked
  | some record =>
      simp only at checked
      split at checked
      · simp at checked
      · rename_i launch launched
        simp only [bind_ok, throwIf_ok, assertEpoch_ok, exists_const, Except.ok.injEq,
          Bool.or_eq_false_iff, Option.isNone_eq_false_iff] at checked
        obtain ⟨⟨-, revoked⟩, same, -, written⟩ := checked
        rw [← written]
        exact ClosureEffect.complete _ _ _ _ _ record _ rfl same revoked (by simp [launched])

theorem evidence_ok {request : RuntimeClosureRecovery} {identity : RuntimeProcessIdentity}
    {uuid : String} {file : Option ClosureRecord} {transaction : Transaction}
    (ok : evidence host request identity uuid file = .ok transaction) :
    ClosureEffect host file (.evidence request identity uuid) transaction := by
  simp only [evidence, bind_ok, pure, Except.pure] at ok
  obtain ⟨stored, found, checked⟩ := ok
  rw [read_ok found]
  cases stored with
  | none => simp at checked
  | some record =>
      simp only at checked
      split at checked
      · rename_i closed launch isClosed launched
        simp only [bind_ok, throwIf_ok, assertEpoch_ok, exists_const,
          bne_eq_false_iff_eq] at checked
        obtain ⟨ownHost, epoch, expected, checked⟩ := checked
        have challenged : Challenged request identity record closed launch :=
          ⟨isClosed, launched, ownHost, epoch, expected⟩
        split at checked
        · rename_i previous row
          simp only [bind_ok, throwIf_ok, exists_const, Except.ok.injEq, bne_eq_false_iff_eq]
            at checked
          obtain ⟨recovery, written⟩ := checked
          rw [← written]
          exact ClosureEffect.replay _ _ _ record closed launch previous rfl challenged row recovery
        · rename_i fresh
          simp only [bind_ok, throwIf_ok, exists_const, Except.ok.injEq, Bool.not_eq_false']
            at checked
          obtain ⟨valid, written⟩ := checked
          rw [← written]
          exact ClosureEffect.prove _ _ _ record closed launch rfl challenged fresh valid
      · simp at checked

theorem perform_effect {call : ClosureCall} {file : Option ClosureRecord}
    {transaction : Transaction} (ok : perform host call file = .ok transaction) :
    ClosureEffect host file call transaction := by
  cases call with
  | recordLaunch => exact recordLaunch_ok ok
  | preventLaunch => exact preventLaunch_ok ok
  | revoke => exact revoke_ok ok
  | attachProcess => exact attachProcess_ok ok
  | recordAbortedLaunch => exact recordAbortedLaunch_ok ok
  | complete => exact complete_ok ok
  | evidence => exact evidence_ok ok

structure Kept (before after : ClosureRecord) : Prop where
  epoch : after.epoch = before.epoch
  launch : ∀ launch, before.launch = some launch → after.launch = some launch
  revoked : before.revokedAt.isSome = true → after.revokedAt.isSome = true
  closed : ∀ proof, before.closed = some proof → after.closed = some proof
  evidence : before.evidence <+: after.evidence

def FileKept (before after : Option ClosureRecord) : Prop :=
  ∀ record, before = some record → ∃ later, after = some later ∧ Kept record later

theorem Kept.refl (record : ClosureRecord) : Kept record record :=
  ⟨rfl, fun _ found => found, fun found => found, fun _ found => found, List.prefix_refl _⟩

theorem Kept.trans {first second third : ClosureRecord} (before : Kept first second)
    (after : Kept second third) : Kept first third where
  epoch := after.epoch.trans before.epoch
  launch launch found := after.launch launch (before.launch launch found)
  revoked found := after.revoked (before.revoked found)
  closed proof found := after.closed proof (before.closed proof found)
  evidence := before.evidence.trans after.evidence

theorem FileKept.refl (file : Option ClosureRecord) : FileKept file file :=
  fun record found => ⟨record, found, Kept.refl record⟩

theorem FileKept.trans {first second third : Option ClosureRecord} (before : FileKept first second)
    (after : FileKept second third) : FileKept first third := by
  intro record found
  obtain ⟨middle, there, kept⟩ := before record found
  obtain ⟨later, here, still⟩ := after middle there
  exact ⟨later, here, kept.trans still⟩

structure WellFormed (host : Host) (sessionId : String) (record : ClosureRecord) : Prop where
  session : record.epoch.sessionId = sessionId
  closed : record.closed.isSome = true →
    record.launch.isSome = true ∧ record.revokedAt.isSome = true
  evidence : record.evidence ≠ [] → record.closed.isSome = true
  valid : record.evidence.all (isClosureEvidence host) = true

theorem effect_kept {call : ClosureCall} {file : Option ClosureRecord} {transaction : Transaction}
    {written : ClosureRecord} (effect : ClosureEffect host file call transaction)
    (writes : transaction.written = some written)
    (wellFormed : ∀ record, file = some record → WellFormed host call.sessionId record) :
    FileKept file (some written) := by
  intro record found
  refine ⟨written, rfl, ?_⟩
  have shape := wellFormed record found
  -- A record without a launch holds no proof and no evidence, so rebuilding it loses nothing.
  have bare : record.launch = none → record.closed = none ∧ record.evidence = [] := by
    intro unlaunched
    have unclosed : record.closed = none := by
      cases closed : record.closed with
      | none => rfl
      | some proof =>
          have launched := (shape.closed (by simp [closed])).1
          simp [unlaunched] at launched
    refine ⟨unclosed, ?_⟩
    by_contra rows
    have closed := shape.evidence rows
    simp [unclosed] at closed
  cases effect with
  | launch epoch identity marker launchIdentityId uuid launch absent => simp [absent] at found
  | prevent epoch identity launchIdentityId now launch closed unlaunched =>
      obtain ⟨same, noLaunch⟩ := unlaunched record found
      obtain ⟨unclosed, empty⟩ := bare noLaunch
      rw [← Option.some.inj writes]
      exact ⟨same.symm, by simp [noLaunch], fun _ => rfl, by simp [unclosed], by simp [empty]⟩
  | revokeNew epoch now absent => simp [absent] at found
  | revoke epoch now existing revokedAt here same =>
      rw [here, Option.some.injEq] at found
      rw [← Option.some.inj writes, ← found]
      exact ⟨rfl, fun _ held => held, fun _ => rfl, fun _ held => held, List.prefix_refl _⟩
  | attach epoch processIdentity existing here same =>
      rw [here, Option.some.injEq] at found
      rw [← Option.some.inj writes, ← found]
      exact ⟨rfl, fun _ held => held, fun held => held, fun _ held => held, List.prefix_refl _⟩
  | idle => simp at writes
  | abort epoch identity marker launchIdentityId uuid now existing launch closed here same revoked
      unlaunched =>
      rw [here, Option.some.injEq] at found
      rw [← found] at bare ⊢
      rw [← Option.some.inj writes]
      exact ⟨rfl, by simp [unlaunched], fun held => held, by simp [(bare unlaunched).1],
        List.prefix_refl _⟩
  | complete epoch identity method writeAudit now existing proof here same revoked launched =>
      rw [here, Option.some.injEq] at found
      rw [← Option.some.inj writes, ← found]
      exact ⟨rfl, fun _ held => held, fun held => held, fun closed held => by simp [held],
        List.prefix_refl _⟩
  | replay => simp at writes
  | prove request identity uuid existing closed launch here challenged fresh valid =>
      rw [here, Option.some.injEq] at found
      rw [← Option.some.inj writes, ← found]
      exact ⟨rfl, fun _ held => held, fun held => held, fun _ held => held, List.prefix_append _ _⟩

theorem effect_wellFormed {call : ClosureCall} {file : Option ClosureRecord}
    {transaction : Transaction} {written : ClosureRecord}
    (effect : ClosureEffect host file call transaction)
    (writes : transaction.written = some written)
    (wellFormed : ∀ record, file = some record → WellFormed host call.sessionId record) :
    WellFormed host call.sessionId written := by
  cases effect with
  | launch epoch identity marker launchIdentityId uuid launch absent =>
      rw [← Option.some.inj writes]
      exact ⟨rfl, by simp, by simp, by simp⟩
  | prevent epoch identity launchIdentityId now launch closed unlaunched =>
      rw [← Option.some.inj writes]
      exact ⟨rfl, by simp, by simp, by simp⟩
  | revokeNew epoch now absent =>
      rw [← Option.some.inj writes]
      exact ⟨rfl, by simp, by simp, by simp⟩
  | revoke epoch now existing revokedAt here same =>
      have shape := wellFormed existing here
      rw [← Option.some.inj writes]
      exact ⟨shape.session, fun held => ⟨(shape.closed held).1, rfl⟩, shape.evidence, shape.valid⟩
  | attach epoch processIdentity existing here same =>
      have shape := wellFormed existing here
      rw [← Option.some.inj writes]
      exact ⟨shape.session, shape.closed, shape.evidence, shape.valid⟩
  | idle => simp at writes
  | abort epoch identity marker launchIdentityId uuid now existing launch closed here same revoked
      unlaunched =>
      have shape := wellFormed existing here
      rw [← Option.some.inj writes]
      exact ⟨shape.session, fun _ => ⟨rfl, revoked⟩, fun _ => rfl, shape.valid⟩
  | complete epoch identity method writeAudit now existing proof here same revoked launched =>
      have shape := wellFormed existing here
      rw [← Option.some.inj writes]
      exact ⟨shape.session, fun _ => ⟨launched, revoked⟩, fun _ => rfl, shape.valid⟩
  | replay => simp at writes
  | prove request identity uuid existing closed launch here challenged fresh valid =>
      have shape := wellFormed existing here
      rw [← Option.some.inj writes]
      refine ⟨shape.session, shape.closed, fun _ => by simp [challenged.isClosed], ?_⟩
      rw [List.all_append, shape.valid]
      simp [valid]

/-- The row a challenge adds answers it. -/
theorem answers_proofOf (record : ClosureRecord) (closed : ClosedProof)
    (request : RuntimeClosureRecovery) (identity : RuntimeProcessIdentity) (uuid : String) :
    answers request identity (proofOf record closed request identity uuid) = true := by
  simp [answers, proofOf]

theorem read_wellFormed {sessionId : String} {record : ClosureRecord}
    (path : isSessionPath sessionId = true) (shape : WellFormed host sessionId record) :
    read host sessionId (some record) = .ok (some record) := by
  simp [read, bind_ok, path, shape.session, shape.valid, pure, Except.pure]

theorem evidence_replay {request : RuntimeClosureRecovery} {identity : RuntimeProcessIdentity}
    {record : ClosureRecord} {closed : ClosedProof} {launch : BrowserLaunchIdentity}
    {previous : RuntimeClosureEvidence} (uuid : String)
    (path : isSessionPath request.sessionId = true)
    (shape : WellFormed host request.sessionId record)
    (challenged : Challenged request identity record closed launch)
    (row : record.evidence.find? (answers request identity) = some previous)
    (recovery : previous.recoveryId = request.recoveryId) :
    evidence host request identity uuid (some record) = .ok { answer := .proof previous } := by
  simp only [evidence, bind_ok]
  refine ⟨_, read_wellFormed path shape, ?_⟩
  simp [bind_ok, challenged.isClosed, challenged.launched, challenged.ownHost, challenged.epoch,
    challenged.expected, assertEpoch, row, recovery, pure, Except.pure]

theorem Kept.challenged {before after : ClosureRecord} {request : RuntimeClosureRecovery}
    {identity : RuntimeProcessIdentity} {closed : ClosedProof} {launch : BrowserLaunchIdentity}
    (kept : Kept before after) (challenged : Challenged request identity before closed launch) :
    Challenged request identity after closed launch where
  isClosed := kept.closed closed challenged.isClosed
  launched := kept.launch launch challenged.launched
  ownHost := challenged.ownHost
  epoch := kept.epoch.trans challenged.epoch
  expected := challenged.expected

/-- The first row that answers a challenge stays the first. -/
theorem Kept.row {before after : ClosureRecord} {request : RuntimeClosureRecovery}
    {identity : RuntimeProcessIdentity} {previous : RuntimeClosureEvidence}
    (kept : Kept before after)
    (row : before.evidence.find? (answers request identity) = some previous) :
    after.evidence.find? (answers request identity) = some previous := by
  obtain ⟨more, split⟩ := kept.evidence
  rw [← split, List.find?_append, row]
  rfl

theorem evidence_row {request : RuntimeClosureRecovery} {identity : RuntimeProcessIdentity}
    {uuid : String} {file : Option ClosureRecord} {transaction : Transaction}
    {proof : RuntimeClosureEvidence}
    (ok : evidence host request identity uuid file = .ok transaction)
    (gave : transaction.answer = .proof proof) :
    ∃ record closed launch, (transaction.written <|> file) = some record ∧
      Challenged request identity record closed launch ∧
      record.evidence.find? (answers request identity) = some proof ∧
      proof.recoveryId = request.recoveryId := by
  cases evidence_ok ok with
  | replay _ _ _ record closed launch previous found challenged row recovery =>
      simp only [ClosureAnswer.proof.injEq] at gave
      rw [← gave]
      exact ⟨record, closed, launch, by simp [found], challenged, row, recovery⟩
  | prove _ _ _ record closed launch found challenged fresh valid =>
      simp only [ClosureAnswer.proof.injEq] at gave
      rw [← gave]
      refine ⟨_, closed, launch, rfl, ?_, ?_, rfl⟩
      · exact ⟨challenged.isClosed, challenged.launched, challenged.ownHost, challenged.epoch,
          challenged.expected⟩
      · simp only [List.find?_append, fresh, Option.none_or, List.find?_cons,
          answers_proofOf]

theorem evidence_path {request : RuntimeClosureRecovery} {identity : RuntimeProcessIdentity}
    {uuid : String} {file : Option ClosureRecord} {transaction : Transaction}
    (ok : evidence host request identity uuid file = .ok transaction) :
    isSessionPath request.sessionId = true := by
  simp only [evidence, bind_ok] at ok
  obtain ⟨stored, found, -⟩ := ok
  exact read_path found

theorem answers_same {request other : RuntimeClosureRecovery}
    {identity daemon : RuntimeProcessIdentity} (challenge : other.requestId = request.requestId)
    (same : daemon.daemonInstanceId = identity.daemonInstanceId) :
    answers other daemon = answers request identity := by
  funext row
  simp [answers, challenge, same]

end ClosureJournal

end Devproof
