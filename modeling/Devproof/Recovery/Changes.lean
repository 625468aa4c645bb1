import Devproof.Recovery.Transactions
import Mathlib.Logic.Relation

/-!
Every transaction of session recovery is a chain of a few kinds of changes to
the rows of the epoch.
-/

namespace Devproof.SessionRecovery

inductive Kind where
  | settle
  | adopt
  | guard
  | reopen
  | create
  | stop
  | quarantine
  | progress
  | close
  | release
  | noLaunch
  | enrich
  | resolve
  | elsewhere
  deriving Repr, DecidableEq

structure SameClosure (before after : BrowserRuntimeSession) : Prop where
  id : after.id = before.id
  fencingToken : after.fencingToken = before.fencingToken
  leaseToken : after.leaseToken = before.leaseToken
  closureVerifiedAt : after.closureVerifiedAt = before.closureVerifiedAt
  closureEvidenceId : after.closureEvidenceId = before.closureEvidenceId

structure SameOutcome (before after : RuntimeSessionRecovery) : Prop where
  id : after.id = before.id
  writeOutcomeState : after.writeOutcomeState = before.writeOutcomeState
  closureEvidenceId : after.closureEvidenceId = before.closureEvidenceId

def withGuard (epoch : Epoch) (leaseId : String) (recovery : RuntimeSessionRecovery) :
    List ExecutionResourceLease :=
  quarantineWrites (adoptLeases recovery.id
    (epoch.leases ++ [recoveryGuard epoch leaseId recovery]))

section Changes

variable (host : Host)

inductive Change : Kind → Epoch → Epoch → Prop where
  | settle (epoch now) : Change .settle epoch (refreshRecoveryWriteOutcome epoch now)
  | adopt {epoch recovery} : epoch.recovery = some recovery →
      writeSettled recovery.writeOutcomeState = false →
      Change .adopt epoch
        { epoch with leases := quarantineWrites (adoptLeases recovery.id epoch.leases) }
  | guard {epoch recovery} (leaseId) : epoch.recovery = some recovery →
      writeSettled recovery.writeOutcomeState = false → needsGuard epoch = true →
      Change .guard epoch { epoch with leases := withGuard epoch leaseId recovery }
  | reopen {epoch recovery} (reason now observed) : epoch.recovery = some recovery →
      promotes recovery observed = true →
      Change .reopen epoch { epoch with recovery := some (promotedRecovery reason now recovery) }
  | create {epoch} (recovery) : epoch.recovery = none →
      Change .create epoch { epoch with recovery := some recovery }
  | stop {epoch} (session) : epoch.session.closureVerifiedAt = none →
      SameClosure epoch.session session → Change .stop epoch { epoch with session }
  | quarantine {epoch} (session) : epoch.session.closureVerifiedAt = none →
      SameClosure epoch.session session →
      Change .quarantine epoch { epoch with session, leases := quarantineWrites epoch.leases }
  | progress {epoch recovery} (next) : epoch.recovery = some recovery →
      SameOutcome recovery next →
      (verified epoch.session = false ∨ recovery.closureEvidenceId = none ∨
        recovery.closureState ≠ .verified) →
      Change .progress epoch { epoch with recovery := some next }
  | close {epoch stored recovery evidence proof} (moment) : epoch.recovery = some recovery →
      verified epoch.session = false →
      (epoch.evidences.find? fun other => other.evidenceId == proof.evidenceId).any
        (replayedElsewhere epoch.session recovery proof) = false →
      storeEvidence host epoch recovery proof moment
        (epoch.evidences.find? fun other => other.evidenceId == proof.evidenceId) =
          .ok (stored, evidence) →
      Change .close epoch (releaseVerifiedSessionResources host moment.now
        { stored with
          session := closedSession evidence.id moment.now stored.session
          recovery := some (closedRecovery evidence.id moment.now recovery) }).1
  | release (epoch now) : Change .release epoch (releaseVerifiedSessionResources host now epoch).1
  | noLaunch {epoch recovery} : epoch.recovery = some recovery →
      Change .noLaunch epoch
        { epoch with recovery := some (launchPreventedRecovery .launchPrevented recovery) }
  | enrich {epoch recovery} (proof audit) : epoch.recovery = some recovery →
      Change .enrich epoch { epoch with evidences := enrichEvidence epoch recovery proof audit }
  | resolve {epoch recovery} (userId input now) : epoch.recovery = some recovery →
      closureProven host epoch recovery = true → evidenceProven epoch recovery = true →
      recovery.writeOutcomeState ≠ .resolved →
      (input.outcome = .retryAuthorized → writeSettled recovery.writeOutcomeState = false) →
      Change .resolve epoch
        { epoch with
          recovery := some (resolvedRecovery host userId input now recovery)
          leases := epoch.leases.filter fun lease => lease.recoveryId != some recovery.id
          session := { epoch.session with quarantinedAt := none } }
  | elsewhere (epoch outside) : Change .elsewhere epoch { epoch with outside }

def Changes (allowed : Kind → Prop) : Epoch → Epoch → Prop :=
  Relation.ReflTransGen fun before after => ∃ kind, allowed kind ∧ Change host kind before after

variable {host} {allowed : Kind → Prop}

theorem Changes.one {kind : Kind} {before after : Epoch} (change : Change host kind before after)
    (fine : allowed kind) : Changes host allowed before after :=
  Relation.ReflTransGen.single ⟨kind, fine, change⟩

theorem Changes.trans {first second third : Epoch} (left : Changes host allowed first second)
    (right : Changes host allowed second third) : Changes host allowed first third :=
  Relation.ReflTransGen.trans left right

theorem Changes.refl (epoch : Epoch) : Changes host allowed epoch epoch :=
  Relation.ReflTransGen.refl

theorem Changes.invariant (holds : Epoch → Prop) {before after : Epoch}
    (changes : Changes host allowed before after) (initially : holds before)
    (kept : ∀ {kind first second}, allowed kind → Change host kind first second →
      holds first → holds second) : holds after := by
  induction changes with
  | refl => exact initially
  | tail _ last ih =>
      obtain ⟨kind, fine, change⟩ := last
      exact kept fine change ih

theorem materialize_changes {epoch : Epoch} {recovery : RuntimeSessionRecovery} (leaseId : String)
    (current : epoch.recovery = some recovery) (adopts : allowed .adopt)
    (guards : needsGuard epoch = true → writeSettled recovery.writeOutcomeState = false →
      allowed .guard) :
    Changes host allowed epoch (materializeRecoveryGuards epoch leaseId recovery) := by
  unfold materializeRecoveryGuards
  cases settled : writeSettled recovery.writeOutcomeState with
  | true => exact Changes.refl epoch
  | false =>
      cases needs : needsGuard epoch with
      | true =>
          exact Changes.one (Change.guard leaseId current settled needs) (guards needs settled)
      | false => exact Changes.one (Change.adopt current settled) adopts

@[simp] theorem materialize_session (epoch : Epoch) (leaseId : String)
    (recovery : RuntimeSessionRecovery) :
    (materializeRecoveryGuards epoch leaseId recovery).session = epoch.session := by
  unfold materializeRecoveryGuards
  split <;> rfl

@[simp] theorem materialize_recovery (epoch : Epoch) (leaseId : String)
    (recovery : RuntimeSessionRecovery) :
    (materializeRecoveryGuards epoch leaseId recovery).recovery = epoch.recovery := by
  unfold materializeRecoveryGuards
  split <;> rfl

@[simp] theorem materialize_evidences (epoch : Epoch) (leaseId : String)
    (recovery : RuntimeSessionRecovery) :
    (materializeRecoveryGuards epoch leaseId recovery).evidences = epoch.evidences := by
  unfold materializeRecoveryGuards
  split <;> rfl

def guardDue (epoch : Epoch) (now : Int) : Bool :=
  needsGuard epoch && !(match epoch.recovery with
    | none => writeSettled (initialWriteState epoch)
    | some recovery => writeSettled (refreshedRecovery epoch now recovery).writeOutcomeState)

theorem ensureRecovery_changes {reason : String} {sourceRunId : Option String} {observed : Bool}
    {moment : Moment} {epoch after : Epoch} {recovery : RuntimeSessionRecovery}
    (ensured : ensureRecovery host reason sourceRunId observed moment epoch =
      .ok (after, recovery))
    (settles : allowed .settle) (adopts : allowed .adopt) (reopens : allowed .reopen)
    (creates : allowed .create)
    (guards : guardDue epoch moment.now = true → allowed .guard) :
    Changes host allowed epoch after ∧ after.recovery = some recovery ∧
      after.session = epoch.session := by
  unfold ensureRecovery at ensured
  cases current : epoch.recovery with
  | none =>
      simp only [current, Except.ok.injEq, Prod.mk.injEq] at ensured
      obtain ⟨rfl, rfl⟩ := ensured
      have created : Changes host allowed epoch
          { epoch with
            recovery := some (createdRecovery host epoch reason sourceRunId observed moment) } :=
        Changes.one (Change.create _ current) creates
      cases observed with
      | true => exact ⟨created, rfl, rfl⟩
      | false =>
          refine ⟨created.trans (materialize_changes moment.leaseId rfl adopts ?_), by simp,
            by simp⟩
          intro needs unsettled
          apply guards
          simp only [guardDue, current, Bool.and_eq_true, Bool.not_eq_true']
          exact ⟨needs, unsettled⟩
  | some existing =>
      simp only [current, bind_ok, demand_ok] at ensured
      obtain ⟨_, _, ensured⟩ := ensured
      have settled : Changes host allowed epoch (refreshRecoveryWriteOutcome epoch moment.now) :=
        Changes.one (Change.settle epoch moment.now) settles
      have row : (refreshRecoveryWriteOutcome epoch moment.now).recovery =
          some (refreshedRecovery epoch moment.now existing) := by
        simp [refreshRecoveryWriteOutcome, current]
      have guarded : Changes host allowed epoch
          (if observed = true then refreshRecoveryWriteOutcome epoch moment.now
          else materializeRecoveryGuards (refreshRecoveryWriteOutcome epoch moment.now)
            moment.leaseId (refreshedRecovery epoch moment.now existing)) := by
        cases observed with
        | true => exact settled
        | false =>
            refine settled.trans (materialize_changes moment.leaseId row adopts ?_)
            intro needs unsettled
            apply guards
            simp only [guardDue, current, Bool.and_eq_true, Bool.not_eq_true']
            exact ⟨needs, unsettled⟩
      have same : (if observed = true then refreshRecoveryWriteOutcome epoch moment.now
          else materializeRecoveryGuards (refreshRecoveryWriteOutcome epoch moment.now)
            moment.leaseId (refreshedRecovery epoch moment.now existing)).recovery =
          some (refreshedRecovery epoch moment.now existing) := by
        split <;> simp [row]
      have session : (if observed = true then refreshRecoveryWriteOutcome epoch moment.now
          else materializeRecoveryGuards (refreshRecoveryWriteOutcome epoch moment.now)
            moment.leaseId (refreshedRecovery epoch moment.now existing)).session =
          epoch.session := by
        split <;> simp [refreshRecoveryWriteOutcome]
      split at ensured
      · rename_i promoted
        simp only [pure, Except.pure, Except.ok.injEq, Prod.mk.injEq] at ensured
        obtain ⟨rfl, rfl⟩ := ensured
        exact ⟨guarded.trans (Changes.one (Change.reopen reason moment.now observed same promoted)
          reopens), rfl, session⟩
      · simp only [pure, Except.pure, Except.ok.injEq, Prod.mk.injEq] at ensured
        obtain ⟨rfl, rfl⟩ := ensured
        exact ⟨guarded, same, session⟩

theorem commitEvidence_changes {proof : EvidenceInput} {moment : Moment} {epoch after : Epoch}
    {found : RuntimeSessionRecovery} {acceptance : Acceptance}
    (current : epoch.recovery = some found)
    (committed : commitEvidence host proof moment epoch found = .ok (after, acceptance))
    (settles : allowed .settle) (adopts : allowed .adopt) (closes : allowed .close)
    (releases : allowed .release)
    (guards : verified epoch.session = false → allowed .guard) :
    Changes host allowed epoch after := by
  have settled : Changes host allowed epoch
      { epoch with recovery := some (refreshedRecovery epoch moment.now found) } := by
    have change : Changes host allowed epoch (refreshRecoveryWriteOutcome epoch moment.now) :=
      Changes.one (Change.settle epoch moment.now) settles
    simpa [refreshRecoveryWriteOutcome, current] using change
  simp only [commitEvidence, bind_ok, throwIf_ok] at committed
  obtain ⟨_, fresh, committed⟩ := committed
  refine settled.trans ?_
  split at committed
  · simp only [pure, Except.pure, Except.ok.injEq, Prod.mk.injEq] at committed
    obtain ⟨rfl, -⟩ := committed
    exact Changes.one (Change.release _ moment.now) releases
  · rename_i other
    have unverified : verified epoch.session = false := by
      cases proven : verified epoch.session with
      | false => rfl
      | true =>
          obtain ⟨instant, stamped⟩ := Option.isSome_iff_exists.mp
            ((Bool.and_eq_true _ _).mp proven).1
          exact absurd stamped (other instant proven)
    simp only [bind_ok] at committed
    obtain ⟨⟨stored, evidence⟩, written, committed⟩ := committed
    simp only [pure, Except.pure, Except.ok.injEq, Prod.mk.injEq] at committed
    obtain ⟨rfl, -⟩ := committed
    refine (materialize_changes moment.leaseId rfl adopts fun _ _ => guards unverified).trans ?_
    refine Changes.one (@Change.close host _ stored _ evidence proof moment ?_ ?_ ?_ ?_) closes
    · simp
    · simpa using unverified
    · simpa using fresh
    · simpa using written

def GuardsAt (move : RecoveryMove) (epoch : Epoch) : Prop :=
  match move with
  | .request _ _ explicitClose moment =>
      guardDue (stoppedEpoch (!explicitClose && isHealthySession epoch moment.now) moment.now
        epoch) moment.now = true
  | .acceptNeverLaunched _ _ moment | .acceptAdminDrainEvidence _ moment =>
      verified epoch.session = false ∨ guardDue epoch moment.now = true
  | .acceptRuntimeEvidence .. => verified epoch.session = false
  | .recordFailure .. | .finishRecovery .. => True
  | _ => False

def AcceptsNoLaunch (host : Host) (move : RecoveryMove) (epoch : Epoch) : Prop :=
  match move with
  | .acceptRuntimeEvidence context proof _ _ =>
      proof.method = .launchPrevented ∧
        ∃ recovery, checkRuntimeEvidence host context proof epoch = .ok recovery
  | _ => False

def Resolves : RecoveryMove → Prop
  | .finishRecovery .. => True
  | _ => False

structure Allowed (host : Host) (move : RecoveryMove) (epoch : Epoch) (kind : Kind) : Prop where
  guard : kind = .guard → GuardsAt move epoch
  noLaunch : kind = .noLaunch → AcceptsNoLaunch host move epoch
  resolve : kind = .resolve → Resolves move

theorem allowed_other {move : RecoveryMove} {epoch : Epoch} {kind : Kind} (guard : kind ≠ .guard)
    (noLaunch : kind ≠ .noLaunch) (resolve : kind ≠ .resolve) : Allowed host move epoch kind :=
  ⟨fun same => absurd same guard, fun same => absurd same noLaunch,
    fun same => absurd same resolve⟩

theorem allowed_guard {move : RecoveryMove} {epoch : Epoch} (guards : GuardsAt move epoch) :
    Allowed host move epoch .guard :=
  ⟨fun _ => guards, by simp, by simp⟩

/-- A change of any other kind is always allowed. -/
theorem Changes.other {move : RecoveryMove} {epoch before after : Epoch} {kind : Kind}
    (change : Change host kind before after) (guard : kind ≠ .guard) (noLaunch : kind ≠ .noLaunch)
    (resolve : kind ≠ .resolve) : Changes host (Allowed host move epoch) before after :=
  Changes.one change (allowed_other guard noLaunch resolve)

theorem ensureRecovery_allowed (move : RecoveryMove) (start : Epoch) {epoch after : Epoch}
    {reason : String} {sourceRunId : Option String} {observed : Bool} {moment : Moment}
    {recovery : RuntimeSessionRecovery}
    (ensured : ensureRecovery host reason sourceRunId observed moment epoch =
      .ok (after, recovery))
    (guards : guardDue epoch moment.now = true → GuardsAt move start) :
    Changes host (Allowed host move start) epoch after ∧ after.recovery = some recovery ∧
      after.session = epoch.session :=
  ensureRecovery_changes ensured (allowed_other (by simp) (by simp) (by simp)) (allowed_other (by simp) (by simp) (by simp))
    (allowed_other (by simp) (by simp) (by simp)) (allowed_other (by simp) (by simp) (by simp))
    fun due => allowed_guard (guards due)

theorem commitEvidence_allowed (move : RecoveryMove) (start : Epoch) {epoch after : Epoch}
    {proof : EvidenceInput} {moment : Moment} {found : RuntimeSessionRecovery}
    {acceptance : Acceptance} (current : epoch.recovery = some found)
    (committed : commitEvidence host proof moment epoch found = .ok (after, acceptance))
    (guards : verified epoch.session = false → GuardsAt move start) :
    Changes host (Allowed host move start) epoch after :=
  commitEvidence_changes current committed (allowed_other (by simp) (by simp) (by simp))
    (allowed_other (by simp) (by simp) (by simp)) (allowed_other (by simp) (by simp) (by simp))
    (allowed_other (by simp) (by simp) (by simp)) fun unverified => allowed_guard (guards unverified)

theorem stoppedEpoch_changes (move : RecoveryMove) (start : Epoch) (healthy : Bool) (now : Int)
    (epoch : Epoch) :
    Changes host (Allowed host move start) epoch (stoppedEpoch healthy now epoch) := by
  unfold stoppedEpoch
  split
  · rename_i lost
    simp only [Bool.and_eq_true, Option.isNone_iff_eq_none] at lost
    exact Changes.other (Change.stop (stopSession now epoch.session) lost.2
      ⟨rfl, rfl, rfl, rfl, rfl⟩) (by simp) (by simp) (by simp)
  · exact Changes.refl epoch

theorem request_changes {reason : String} {sourceRunId : Option String} {explicitClose : Bool}
    {moment : Moment} {epoch after : Epoch} {recovery : RuntimeSessionRecovery}
    (requested : request host reason sourceRunId explicitClose moment epoch =
      .ok (after, recovery)) :
    Changes host (Allowed host (.request reason sourceRunId explicitClose moment) epoch)
      epoch after := by
  simp only [request, bind_ok] at requested
  obtain ⟨_, _, ⟨ensured, row⟩, accepted, requested⟩ := requested
  have stops : Changes host
      (Allowed host (.request reason sourceRunId explicitClose moment) epoch) epoch
      (stoppedEpoch (!explicitClose && isHealthySession epoch moment.now) moment.now epoch) :=
    stoppedEpoch_changes _ epoch _ moment.now epoch
  have ensures := (ensureRecovery_allowed (.request reason sourceRunId explicitClose moment)
    epoch accepted id).1
  split at requested
  · simp only [pure, Except.pure, Except.ok.injEq, Prod.mk.injEq] at requested
    obtain ⟨rfl, -⟩ := requested
    exact (stops.trans ensures).trans
      (Changes.other (Change.release ensured moment.now) (by simp) (by simp) (by simp))
  · simp only [pure, Except.pure, Except.ok.injEq, Prod.mk.injEq] at requested
    obtain ⟨rfl, -⟩ := requested
    exact stops.trans ensures

theorem checkRuntimeEvidence_recovery {context : RuntimeContext} {proof : RuntimeClosureProof}
    {epoch : Epoch} {recovery : RuntimeSessionRecovery}
    (checked : checkRuntimeEvidence host context proof epoch = .ok recovery) :
    epoch.recovery = some recovery := by
  simp only [checkRuntimeEvidence, bind_ok] at checked
  obtain ⟨_, _, _, _, _, _, _, _, checked⟩ := checked
  split at checked
  · simp at checked
  · rename_i found matched
    have current := (Option.filter_eq_some_iff.mp matched).1
    split at checked
    · simp at checked
    · simp only [bind_ok, pure, Except.pure, Except.ok.injEq] at checked
      obtain ⟨_, _, _, _, rfl⟩ := checked
      exact current

theorem acceptRuntimeEvidence_changes {context : RuntimeContext} {proof : RuntimeClosureProof}
    {writeAudit : Option ClosedSessionWriteAudit} {moment : Moment} {epoch after : Epoch}
    {acceptance : Acceptance}
    (accepted : acceptRuntimeEvidence host context proof writeAudit moment epoch =
      .ok (after, acceptance)) :
    Changes host (Allowed host (.acceptRuntimeEvidence context proof writeAudit moment) epoch)
      epoch after := by
  simp only [acceptRuntimeEvidence, bind_ok] at accepted
  obtain ⟨found, checked, committed⟩ := accepted
  have current := checkRuntimeEvidence_recovery checked
  have settled : Changes host
      (Allowed host (.acceptRuntimeEvidence context proof writeAudit moment) epoch) epoch
      { epoch with recovery := some (launchPreventedRecovery proof.method found) } := by
    by_cases noLaunch : proof.method = .launchPrevented
    · rw [noLaunch]
      exact Changes.one (Change.noLaunch current)
        ⟨by simp, fun _ => ⟨noLaunch, found, checked⟩, by simp⟩
    · simp only [launchPreventedRecovery, noLaunch, ↓reduceIte, ← current]
      exact Changes.refl epoch
  have enriched : Changes host
      (Allowed host (.acceptRuntimeEvidence context proof writeAudit moment) epoch)
      { epoch with recovery := some (launchPreventedRecovery proof.method found) }
      { epoch with
        recovery := some (launchPreventedRecovery proof.method found)
        evidences := enrichEvidence epoch (launchPreventedRecovery proof.method found) proof
          (acceptedAudit context proof epoch.session writeAudit) } :=
    Changes.other (Change.enrich proof (acceptedAudit context proof epoch.session writeAudit) rfl)
      (by simp) (by simp) (by simp)
  exact (settled.trans enriched).trans
    (commitEvidence_allowed (.acceptRuntimeEvidence context proof writeAudit moment) epoch rfl
      committed id)

theorem acceptNeverLaunched_changes {expectedFencingToken expectedLeaseToken : String}
    {moment : Moment} {epoch after : Epoch} {acceptance : Acceptance}
    (accepted : acceptNeverLaunched host expectedFencingToken expectedLeaseToken moment epoch =
      .ok (after, acceptance)) :
    Changes host (Allowed host
      (.acceptNeverLaunched expectedFencingToken expectedLeaseToken moment) epoch) epoch after := by
  simp only [acceptNeverLaunched, bind_ok] at accepted
  obtain ⟨_, _, _, _, ⟨ensured, row⟩, prepared, committed⟩ := accepted
  obtain ⟨ensures, current, session⟩ := ensureRecovery_allowed
    (.acceptNeverLaunched expectedFencingToken expectedLeaseToken moment) epoch prepared Or.inr
  exact ensures.trans (commitEvidence_allowed _ epoch current committed fun unverified =>
    Or.inl (session ▸ unverified))

theorem acceptAdminDrainEvidence_changes {input : DrainInput} {moment : Moment}
    {epoch after : Epoch} {acceptance : Acceptance}
    (accepted : acceptAdminDrainEvidence host input moment epoch = .ok (after, acceptance)) :
    Changes host (Allowed host (.acceptAdminDrainEvidence input moment) epoch) epoch after := by
  simp only [acceptAdminDrainEvidence, bind_ok] at accepted
  obtain ⟨_, _, _, _, ⟨ensured, row⟩, prepared, committed⟩ := accepted
  obtain ⟨ensures, current, session⟩ := ensureRecovery_allowed
    (.acceptAdminDrainEvidence input moment) epoch prepared Or.inr
  exact ensures.trans (commitEvidence_allowed _ epoch current committed fun unverified =>
    Or.inl (session ▸ unverified))

theorem failedSession_closure (errorCode : String) (now : Int) (session : BrowserRuntimeSession) :
    SameClosure session (failedSession errorCode now session) := by
  unfold failedSession
  split
  · exact ⟨rfl, rfl, rfl, rfl, rfl⟩
  · exact ⟨rfl, rfl, rfl, rfl, rfl⟩

theorem recordFailure_changes {input : SessionClosureFailure} {moment : Moment}
    {epoch after : Epoch} {changed : Bool}
    (recorded : recordFailure host input moment epoch = .ok (after, changed)) :
    Changes host (Allowed host (.recordFailure input moment) epoch) epoch after := by
  simp only [recordFailure, bind_ok] at recorded
  obtain ⟨_, _, recorded⟩ := recorded
  split at recorded
  · simp only [pure, Except.pure, Except.ok.injEq, Prod.mk.injEq] at recorded
    obtain ⟨rfl, -⟩ := recorded
    exact Changes.refl epoch
  · rename_i open_
    have unverified : verified epoch.session = false := by
      cases proven : verified epoch.session with
      | false => rfl
      | true => exact absurd (by simp [proven]) open_
    simp only [bind_ok] at recorded
    obtain ⟨⟨ensured, row⟩, prepared, recorded⟩ := recorded
    obtain ⟨ensures, current, session⟩ := ensureRecovery_allowed (.recordFailure input moment)
      epoch prepared fun _ => trivial
    split at recorded
    · simp only [pure, Except.pure, Except.ok.injEq, Prod.mk.injEq] at recorded
      obtain ⟨rfl, -⟩ := recorded
      exact ensures
    · split at recorded
      · simp only [pure, Except.pure, Except.ok.injEq, Prod.mk.injEq] at recorded
        obtain ⟨rfl, -⟩ := recorded
        exact ensures
      · simp only [pure, Except.pure, Except.ok.injEq, Prod.mk.injEq] at recorded
        obtain ⟨rfl, -⟩ := recorded
        have failed : Changes host (Allowed host (.recordFailure input moment) epoch) ensured
            { ensured with recovery := some (failedRecovery input.errorCode moment row) } :=
          Changes.other (Change.progress _ current ⟨rfl, rfl, rfl⟩
            (Or.inl (session ▸ unverified))) (by simp) (by simp) (by simp)
        refine (ensures.trans failed).trans ?_
        by_cases unclosed : ensured.session.closureVerifiedAt = none
        · exact Changes.other (Change.stop _ unclosed
            (failedSession_closure input.errorCode moment.now ensured.session))
            (by simp) (by simp) (by simp)
        · have same : failedSession input.errorCode moment.now ensured.session = ensured.session := by
            simp [failedSession, unclosed]
          rw [same]
          exact Changes.refl _

theorem prepareClose_changes {requestedId proposedCommandId : String} {timeoutSeconds : Int}
    {moment : Moment} {epoch after : Epoch} {payload : Option ClosePayload}
    (prepared : prepareClose host requestedId proposedCommandId timeoutSeconds moment epoch =
      .ok (after, payload)) :
    Changes host (Allowed host
      (.prepareClose requestedId proposedCommandId timeoutSeconds moment) epoch) epoch after := by
  simp only [prepareClose] at prepared
  split at prepared
  · simp at prepared
  · rename_i row matched
    have current := (Option.filter_eq_some_iff.mp matched).1
    simp only [bind_ok, throwIf_ok] at prepared
    obtain ⟨_, _, _, unverified, _, _, _, _, _, _, _, _, prepared⟩ := prepared
    simp only [pure, Except.pure, Except.ok.injEq, Prod.mk.injEq] at prepared
    obtain ⟨rfl, -⟩ := prepared
    have closing : Changes host (Allowed host
        (.prepareClose requestedId proposedCommandId timeoutSeconds moment) epoch) epoch
        { epoch with recovery := some (closingRecovery
            (((pendingCommand epoch row moment.now).map (·.id)).getD proposedCommandId)
            (pendingCommand epoch row moment.now).isSome moment row) } :=
      Changes.other (Change.progress _ current ⟨rfl, rfl, rfl⟩ (Or.inl unverified))
        (by simp) (by simp) (by simp)
    exact closing.trans (Changes.other (Change.elsewhere _ _) (by simp) (by simp) (by simp))

theorem wakeRuntime_changes (runtimeId : String) (listed : Bool) (now : Int) (epoch : Epoch) :
    Changes host (Allowed host (.wakeRuntime runtimeId listed now) epoch) epoch
      (wakeRuntime runtimeId listed now epoch).1 := by
  simp only [wakeRuntime]
  split
  · exact Changes.refl epoch
  · split
    · exact Changes.refl epoch
    · rename_i row matched
      obtain ⟨current, waits⟩ := Option.filter_eq_some_iff.mp matched
      simp only [wakes, Bool.and_eq_true, Option.isNone_iff_eq_none] at waits
      exact Changes.other (Change.progress _ current ⟨rfl, rfl, rfl⟩
        (Or.inr (Or.inl waits.2.1))) (by simp) (by simp) (by simp)

theorem owned_recovery {epoch : Epoch} {id : String} {found : RuntimeSessionRecovery}
    (owns : owned epoch id = .ok found) : epoch.recovery = some found ∧ found.id = id := by
  unfold owned at owns
  split at owns
  · cases owns
  · rename_i matched
    rw [← Except.ok.inj owns]
    simpa using Option.filter_eq_some_iff.mp matched

theorem retry_changes {userId id : String} {expectedVersion : Nat} {now : Int}
    {epoch after : Epoch} {row : RuntimeSessionRecovery}
    (retried : retry userId id expectedVersion now epoch = .ok (after, row)) :
    Changes host (Allowed host (.retry userId id expectedVersion now) epoch) epoch after := by
  simp only [retry, bind_ok] at retried
  obtain ⟨_, _, _, _, found, owns, retried⟩ := retried
  have current := (owned_recovery owns).1
  split at retried
  · simp only [pure, Except.pure, Except.ok.injEq, Prod.mk.injEq] at retried
    obtain ⟨rfl, -⟩ := retried
    exact Changes.refl epoch
  · rename_i open_
    simp only [bind_ok, pure, Except.pure, Except.ok.injEq, Prod.mk.injEq] at retried
    obtain ⟨_, _, _, _, rfl, -⟩ := retried
    exact Changes.other (Change.progress _ current ⟨rfl, rfl, rfl⟩ (Or.inr (Or.inr open_)))
      (by simp) (by simp) (by simp)

theorem checkResolution_ok {input : ResolutionInput} {epoch : Epoch}
    {row : RuntimeSessionRecovery} {result : Unit}
    (checked : checkResolution host input epoch row = .ok result) :
    closureProven host epoch row = true ∧ evidenceProven epoch row = true ∧
      row.writeOutcomeState ≠ .resolved ∧
      (input.outcome = .retryAuthorized → writeSettled row.writeOutcomeState = false) := by
  simp only [checkResolution, bind_ok, throwIf_ok, demand_ok, Bool.or_eq_false_iff,
    beq_eq_false_iff_ne, bne_eq_false_iff_eq, Bool.and_eq_false_iff] at checked
  obtain ⟨_, ⟨⟨_, open_⟩, unsettled⟩, _, _, _, closed, _, proven, _⟩ := checked
  refine ⟨closed, proven, open_, fun authorizes => ?_⟩
  rcases unsettled with ⟨other | unknown⟩ | unassessed
  · exact absurd authorizes other
  · rw [unknown]
    rfl
  · rw [unassessed]
    rfl

theorem finishRecovery_changes {userId id : String} {input : ResolutionInput} {moment : Moment}
    {epoch after : Epoch} {answer : RuntimeSessionRecovery × Nat}
    (finished : finishRecovery host userId id input moment epoch = .ok (after, answer)) :
    Changes host (Allowed host (.finishRecovery userId id input moment) epoch) epoch after := by
  simp only [finishRecovery, bind_ok] at finished
  obtain ⟨_, _, _, _, row, owns, _, _, finished⟩ := finished
  obtain ⟨current, named⟩ := owned_recovery owns
  split at finished
  · simp only [bind_ok, pure, Except.pure, Except.ok.injEq, Prod.mk.injEq] at finished
    obtain ⟨_, _, rfl, -⟩ := finished
    exact Changes.refl epoch
  · simp only [bind_ok, pure, Except.pure, Except.ok.injEq, Prod.mk.injEq] at finished
    obtain ⟨_, checked, rfl, -⟩ := finished
    obtain ⟨closed, proven, open_, unsettled⟩ := checkResolution_ok checked
    have elsewhere : Changes host (Allowed host (.finishRecovery userId id input moment) epoch)
        epoch { epoch with outside := resolvedOwner epoch } :=
      Changes.other (Change.elsewhere epoch (resolvedOwner epoch)) (by simp) (by simp) (by simp)
    have guarded : Changes host (Allowed host (.finishRecovery userId id input moment) epoch)
        { epoch with outside := resolvedOwner epoch }
        (materializeRecoveryGuards { epoch with outside := resolvedOwner epoch }
          moment.leaseId row) :=
      materialize_changes moment.leaseId current (allowed_other (by simp) (by simp) (by simp))
        fun _ _ => allowed_guard trivial
    refine (elsewhere.trans guarded).trans ?_
    rw [← named]
    refine Changes.one (Change.resolve userId input moment.now ?_ ?_ ?_ open_ unsettled)
      ⟨by simp, by simp, fun _ => trivial⟩
    · simpa using current
    · simpa [closureProven] using closed
    · simpa [evidenceProven] using proven

theorem quarantineSession_changes (code : String) (now : Int) (epoch : Epoch) :
    Changes host (Allowed host (.quarantineSession code now) epoch) epoch
      (quarantineSession code now epoch).1 := by
  unfold quarantineSession
  split
  · rename_i open_
    simp only [Bool.and_eq_true, Option.isNone_iff_eq_none] at open_
    exact Changes.other (Change.quarantine _ open_.1 ⟨rfl, rfl, rfl, rfl, rfl⟩) (by simp) (by simp) (by simp)
  · exact Changes.refl epoch

theorem releaseCompletedSessionData_changes (taskId : String) (now : Int) (epoch : Epoch) :
    Changes host (Allowed host (.releaseCompletedSessionData taskId now) epoch) epoch
      (releaseCompletedSessionData host taskId now epoch) := by
  unfold releaseCompletedSessionData
  split
  · exact Changes.refl epoch
  · split
    · exact Changes.refl epoch
    · split
      · exact (Changes.other (Change.settle epoch now) (by simp) (by simp) (by simp)).trans
          (Changes.other (Change.release _ now) (by simp) (by simp) (by simp))
      · exact Changes.refl epoch

theorem map_fst_ok {α β Failure : Type} {computed : Except Failure (α × β)} {result : α}
    (mapped : Prod.fst <$> computed = .ok result) :
    ∃ answer, computed = .ok (result, answer) := by
  cases computed with
  | error failure => cases mapped
  | ok pair =>
      cases mapped
      exact ⟨pair.2, rfl⟩

theorem commits_changes {move : RecoveryMove} {epoch after : Epoch}
    (committed : commits host move epoch = .ok after) :
    Changes host (Allowed host move epoch) epoch after := by
  cases move with
  | request reason sourceRunId explicitClose moment =>
      obtain ⟨_, requested⟩ := map_fst_ok committed
      exact request_changes requested
  | prepareClose requestedId proposedCommandId timeoutSeconds moment =>
      obtain ⟨_, prepared⟩ := map_fst_ok committed
      exact prepareClose_changes prepared
  | acceptRuntimeEvidence context proof writeAudit moment =>
      obtain ⟨_, accepted⟩ := map_fst_ok committed
      exact acceptRuntimeEvidence_changes accepted
  | acceptNeverLaunched expectedFencingToken expectedLeaseToken moment =>
      obtain ⟨_, accepted⟩ := map_fst_ok committed
      exact acceptNeverLaunched_changes accepted
  | acceptAdminDrainEvidence input moment =>
      obtain ⟨_, accepted⟩ := map_fst_ok committed
      exact acceptAdminDrainEvidence_changes accepted
  | recordFailure input moment =>
      obtain ⟨_, recorded⟩ := map_fst_ok committed
      exact recordFailure_changes recorded
  | wakeRuntime runtimeId listed now =>
      cases committed
      exact wakeRuntime_changes runtimeId listed now epoch
  | retry userId id expectedVersion now =>
      obtain ⟨_, retried⟩ := map_fst_ok committed
      exact retry_changes retried
  | finishRecovery userId id input moment =>
      obtain ⟨_, finished⟩ := map_fst_ok committed
      exact finishRecovery_changes finished
  | quarantineSession code now =>
      cases committed
      exact quarantineSession_changes code now epoch
  | releaseVerifiedSessionResources now =>
      cases committed
      exact Changes.other (Change.release epoch now) (by simp) (by simp) (by simp)
  | releaseCompletedSessionData taskId now =>
      cases committed
      exact releaseCompletedSessionData_changes taskId now epoch
  | elsewhere outside =>
      cases committed
      exact Changes.other (Change.elsewhere epoch outside) (by simp) (by simp) (by simp)

theorem step_changes (move : RecoveryMove) (epoch : Epoch) :
    Changes host (Allowed host move epoch) epoch (recoveryStep host move epoch).state := by
  unfold recoveryStep
  split
  · rename_i committed
    exact commits_changes committed
  · exact Changes.refl epoch

end Changes

end Devproof.SessionRecovery
