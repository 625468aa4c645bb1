import Devproof.Recovery.Changes

/-!
A verified closure is absorbing, and a write outcome that is settled stays
settled.
-/

namespace Devproof.SessionRecovery

section Closure

variable {host : Host}

structure SameClosing (before after : RuntimeSessionRecovery) : Prop where
  id : after.id = before.id
  closureState : after.closureState = before.closureState
  closureEvidenceId : after.closureEvidenceId = before.closureEvidenceId
  closureVerifiedAt : after.closureVerifiedAt = before.closureVerifiedAt
  attempts : after.attempts = before.attempts

theorem refreshedRecovery_closing (epoch : Epoch) (now : Int) (recovery : RuntimeSessionRecovery) :
    SameClosing recovery (refreshedRecovery epoch now recovery) := by
  unfold refreshedRecovery
  split
  · exact ⟨rfl, rfl, rfl, rfl, rfl⟩
  · split
    · exact ⟨rfl, rfl, rfl, rfl, rfl⟩
    · exact ⟨rfl, rfl, rfl, rfl, rfl⟩

theorem refreshedRecovery_settled (epoch : Epoch) (now : Int) {recovery : RuntimeSessionRecovery}
    (settled : writeSettled recovery.writeOutcomeState = true) :
    refreshedRecovery epoch now recovery = recovery := by
  simp [refreshedRecovery, settled]

theorem verifiedRecovery_recovery {epoch : Epoch} {found : RuntimeSessionRecovery}
    (proven : verifiedRecovery host epoch = some found) : epoch.recovery = some found := by
  unfold verifiedRecovery at proven
  split at proven
  · cases proven
  · split at proven
    · cases proven
    · split at proven
      · cases proven
      · exact (Option.filter_eq_some_iff.mp proven).1

def releasedEpoch (now : Int) (found : RuntimeSessionRecovery) (epoch : Epoch) : Epoch :=
  let recovery := refreshedRecovery epoch now found
  let settled := writeSettled recovery.writeOutcomeState
  let leases := retainedLeases settled epoch.leases
  { epoch with
    recovery := some recovery
    leases
    outside := releaseOwner settled epoch
    session :=
      { epoch.session with
        identityPermit := none
        executionPermitExpiresAt := some now
        humanControllerUserId := none
        humanControlExpiresAt := none
        quarantinedAt :=
          if leases.any fun lease => lease.quarantined then
            epoch.session.quarantinedAt.or (some now)
          else none } }

variable (host) in
theorem release_cases (now : Int) (epoch : Epoch) :
    (verifiedRecovery host epoch = none ∧
        (releaseVerifiedSessionResources host now epoch).1 = epoch) ∨
      ∃ found, verifiedRecovery host epoch = some found ∧ epoch.recovery = some found ∧
        (releaseVerifiedSessionResources host now epoch).1 = releasedEpoch now found epoch := by
  unfold releaseVerifiedSessionResources
  cases proven : verifiedRecovery host epoch with
  | none => exact Or.inl ⟨rfl, rfl⟩
  | some found => exact Or.inr ⟨found, rfl, verifiedRecovery_recovery proven, rfl⟩

structure ClosedWith (instant : Int) (evidenceId : String) (attempts : Nat) (epoch : Epoch) :
    Prop where
  status : epoch.session.status = .closed
  instant : epoch.session.closureVerifiedAt = some instant
  evidence : epoch.session.closureEvidenceId = some evidenceId
  recovery : ∃ row, epoch.recovery = some row ∧ row.closureState = .verified ∧
    row.closureEvidenceId = some evidenceId ∧ row.attempts = attempts

theorem ClosedWith.verified {instant : Int} {evidenceId : String} {attempts : Nat} {epoch : Epoch}
    (closed : ClosedWith instant evidenceId attempts epoch) : verified epoch.session = true := by
  simp [SessionRecovery.verified, closed.instant, closed.evidence]

/-- Another row with the same closure says the same. -/
theorem ClosedWith.row {instant : Int} {evidenceId : String} {attempts : Nat} {epoch after : Epoch}
    {row next : RuntimeSessionRecovery} (closed : ClosedWith instant evidenceId attempts epoch)
    (session : SameClosure epoch.session after.session)
    (status : after.session.status = epoch.session.status)
    (current : epoch.recovery = some row) (later : after.recovery = some next)
    (same : SameClosing row next) : ClosedWith instant evidenceId attempts after := by
  obtain ⟨found, stored, state, evidence, attempt⟩ := closed.recovery
  obtain rfl : row = found := Option.some.inj (current ▸ stored)
  exact ⟨status ▸ closed.status, session.closureVerifiedAt ▸ closed.instant,
    session.closureEvidenceId ▸ closed.evidence,
    next, later, same.closureState ▸ state, same.closureEvidenceId ▸ evidence,
    same.attempts ▸ attempt⟩

theorem ClosedWith.released {instant : Int} {evidenceId : String} {attempts : Nat} {epoch : Epoch}
    (closed : ClosedWith instant evidenceId attempts epoch) (now : Int) :
    ClosedWith instant evidenceId attempts (releaseVerifiedSessionResources host now epoch).1 := by
  rcases release_cases host now epoch with ⟨_, same⟩ | ⟨found, _, current, same⟩
  · rw [same]
    exact closed
  · rw [same]
    exact closed.row ⟨rfl, rfl, rfl, rfl, rfl⟩ rfl current rfl
      (refreshedRecovery_closing epoch now found)

theorem change_closed {kind : Kind} {instant : Int} {evidenceId : String} {attempts : Nat}
    {epoch after : Epoch} (change : Change host kind epoch after)
    (closed : ClosedWith instant evidenceId attempts epoch) :
    ClosedWith instant evidenceId attempts after := by
  obtain ⟨row, stored, state, evidence, _⟩ := closed.recovery
  have proven := closed.verified
  cases change with
  | settle _ now =>
      exact closed.row ⟨rfl, rfl, rfl, rfl, rfl⟩ rfl stored
        (by simp [refreshRecoveryWriteOutcome, stored]) (refreshedRecovery_closing epoch now row)
  | adopt | guard | enrich | elsewhere =>
      exact ⟨closed.status, closed.instant, closed.evidence, closed.recovery⟩
  | reopen reason now observed current promoted =>
      obtain rfl := Option.some.inj (stored ▸ current)
      simp [promotes, state, evidence] at promoted
  | create recovery missing =>
      rw [stored] at missing
      cases missing
  | stop session open_ | quarantine session open_ =>
      rw [closed.instant] at open_
      cases open_
  | progress next current same open_ =>
      obtain rfl := Option.some.inj (stored ▸ current)
      rcases open_ with unverified | unproven | other
      · rw [proven] at unverified
        cases unverified
      · rw [evidence] at unproven
        cases unproven
      · exact absurd state other
  | close moment current unverified =>
      rw [proven] at unverified
      cases unverified
  | release _ now => exact closed.released now
  | noLaunch current =>
      exact closed.row ⟨rfl, rfl, rfl, rfl, rfl⟩ rfl current rfl ⟨rfl, rfl, rfl, rfl, rfl⟩
  | resolve userId input now current =>
      exact closed.row ⟨rfl, rfl, rfl, rfl, rfl⟩ rfl current rfl ⟨rfl, rfl, rfl, rfl, rfl⟩

def ClosureAgrees (epoch : Epoch) : Prop :=
  verified epoch.session = true →
    ∃ instant evidenceId attempts, ClosedWith instant evidenceId attempts epoch

theorem change_unverified {kind : Kind} {epoch after : Epoch} (change : Change host kind epoch after)
    (unverified : verified epoch.session = false) (other : kind ≠ .close) :
    verified after.session = false := by
  cases change with
  | settle | adopt | guard | reopen | create | progress | noLaunch | enrich | elsewhere =>
      exact unverified
  | stop session _ same | quarantine session _ same =>
      simpa [verified, same.closureVerifiedAt, same.closureEvidenceId] using unverified
  | close => exact absurd rfl other
  | release _ now =>
      rcases release_cases host now epoch with ⟨_, same⟩ | ⟨found, _, _, same⟩
      · rw [same]
        exact unverified
      · rw [same]
        exact unverified
  | resolve => exact unverified

theorem change_agrees {kind : Kind} {epoch after : Epoch} (change : Change host kind epoch after)
    (agrees : ClosureAgrees epoch) : ClosureAgrees after := by
  intro proven
  cases before : verified epoch.session with
  | true =>
      obtain ⟨instant, evidenceId, attempts, closed⟩ := agrees before
      exact ⟨instant, evidenceId, attempts, change_closed change closed⟩
  | false =>
      by_cases closing : kind = .close
      · subst closing
        cases change with
        | @close _ stored recovery evidence proof moment _ _ _ written =>
            refine ⟨moment.now, evidence.id, recovery.attempts, ClosedWith.released ?_ moment.now⟩
            exact ⟨rfl, rfl, rfl, _, rfl, rfl, rfl, rfl⟩
      · rw [change_unverified change before closing] at proven
        cases proven

theorem path_closed {start finish : Epoch} {made : List (RecoveryMove × Epoch)}
    (path : Path (recoveryStep host) start made finish) {instant : Int} {evidenceId : String}
    {attempts : Nat} (closed : ClosedWith instant evidenceId attempts start) :
    ClosedWith instant evidenceId attempts finish :=
  (path.invariant (ClosedWith instant evidenceId attempts) closed fun entry _ holds =>
    (step_changes entry.1 entry.2).invariant _ holds fun _ change => change_closed change).1

theorem path_agrees {start finish : Epoch} {made : List (RecoveryMove × Epoch)}
    (path : Path (recoveryStep host) start made finish) (agrees : ClosureAgrees start) :
    ClosureAgrees finish :=
  (path.invariant ClosureAgrees agrees fun entry _ holds =>
    (step_changes entry.1 entry.2).invariant _ holds fun _ change => change_agrees change).1

/-- Once the closure of a session is verified, no transaction takes it back, replaces its
proof or gives the session up again. -/
theorem verified_closure_stays {start middle finish : Epoch}
    {before after : List (RecoveryMove × Epoch)} (unverified : verified start.session = false)
    (first : Path (recoveryStep host) start before middle)
    (rest : Path (recoveryStep host) middle after finish) {instant : Int} {evidenceId : String}
    (closed : middle.session.closureVerifiedAt = some instant)
    (proof : middle.session.closureEvidenceId = some evidenceId) :
    finish.session.status = .closed ∧ finish.session.closureVerifiedAt = some instant ∧
      finish.session.closureEvidenceId = some evidenceId ∧
      ∃ row next, middle.recovery = some row ∧ finish.recovery = some next ∧
        next.closureState = .verified ∧ next.closureEvidenceId = some evidenceId ∧
        next.attempts = row.attempts := by
  have agrees := path_agrees first (fun proven => by simp [unverified] at proven)
  obtain ⟨stamp, evidence, attempts, held⟩ := agrees (by simp [verified, closed, proof])
  obtain rfl := Option.some.inj (closed.symm.trans held.instant)
  obtain rfl := Option.some.inj (proof.symm.trans held.evidence)
  have later := path_closed rest held
  obtain ⟨row, current, _, _, count⟩ := held.recovery
  obtain ⟨next, stored, state, named, kept⟩ := later.recovery
  exact ⟨later.status, later.instant, later.evidence, row, next, current, stored, state, named,
    kept.trans count.symm⟩

def outcomeSettled (epoch : Epoch) : Bool :=
  epoch.recovery.any fun recovery => writeSettled recovery.writeOutcomeState

def outcomeResolved (epoch : Epoch) : Bool :=
  epoch.recovery.any fun recovery => recovery.writeOutcomeState == .resolved

theorem release_outcome {epoch : Epoch} {row : RuntimeSessionRecovery} (now : Int)
    (current : epoch.recovery = some row) (settled : writeSettled row.writeOutcomeState = true) :
    (releaseVerifiedSessionResources host now epoch).1.recovery = some row := by
  rcases release_cases host now epoch with ⟨_, same⟩ | ⟨found, _, stored, same⟩
  · rw [same, current]
  · obtain rfl := Option.some.inj (current.symm.trans stored)
    rw [same]
    simp [releasedEpoch, refreshedRecovery_settled _ _ settled]

theorem change_outcome {kind : Kind} {epoch after : Epoch} {row : RuntimeSessionRecovery}
    (change : Change host kind epoch after) (stored : epoch.recovery = some row)
    (settled : writeSettled row.writeOutcomeState = true) (launched : kind ≠ .noLaunch)
    (open_ : kind ≠ .resolve) :
    ∃ next, after.recovery = some next ∧ next.writeOutcomeState = row.writeOutcomeState := by
  cases change with
  | settle _ now =>
      refine ⟨row, ?_, rfl⟩
      simp [refreshRecoveryWriteOutcome, stored, refreshedRecovery_settled _ _ settled]
  | adopt | guard | stop | quarantine | enrich | elsewhere => exact ⟨row, stored, rfl⟩
  | reopen reason now observed current =>
      obtain rfl := Option.some.inj (stored.symm.trans current)
      exact ⟨_, rfl, rfl⟩
  | create recovery missing =>
      rw [stored] at missing
      cases missing
  | progress next current same =>
      obtain rfl := Option.some.inj (stored.symm.trans current)
      exact ⟨next, rfl, same.writeOutcomeState⟩
  | close moment current =>
      obtain rfl := Option.some.inj (stored.symm.trans current)
      exact ⟨_, release_outcome moment.now rfl settled, rfl⟩
  | release _ now => exact ⟨row, release_outcome now stored settled, rfl⟩
  | noLaunch => exact absurd rfl launched
  | resolve => exact absurd rfl open_

theorem change_settled {kind : Kind} {epoch after : Epoch} (change : Change host kind epoch after)
    (settled : outcomeSettled epoch = true) : outcomeSettled after = true := by
  obtain ⟨row, stored, state⟩ := (Option.any_eq_true _ _).mp settled
  by_cases launched : kind = .noLaunch
  · subst launched
    cases change
    rfl
  by_cases open_ : kind = .resolve
  · subst open_
    cases change
    simp only [outcomeSettled, resolvedRecovery, Option.any_some]
    split <;> rfl
  obtain ⟨next, later, same⟩ := change_outcome change stored state launched open_
  simpa [outcomeSettled, later, same] using state

theorem change_resolved {kind : Kind} {epoch after : Epoch} (change : Change host kind epoch after)
    (launched : kind ≠ .noLaunch) (resolved : outcomeResolved epoch = true) :
    outcomeResolved after = true := by
  obtain ⟨row, stored, state⟩ := (Option.any_eq_true _ _).mp resolved
  have final : row.writeOutcomeState = .resolved := by simpa using state
  by_cases open_ : kind = .resolve
  · subst open_
    cases change with
    | resolve userId input now current _ _ other =>
        obtain rfl := Option.some.inj (stored.symm.trans current)
        exact absurd final other
  obtain ⟨next, later, same⟩ := change_outcome change stored (by rw [final]; rfl) launched open_
  simp [outcomeResolved, later, same, final]

/-- A settled outcome stays settled, and a resolved one stays resolved unless no-launch evidence
is accepted after the resolution. -/
theorem write_outcome_stays {start finish : Epoch} {made : List (RecoveryMove × Epoch)}
    (path : Path (recoveryStep host) start made finish) :
    (outcomeSettled start = true → outcomeSettled finish = true) ∧
      ((∀ entry ∈ made,
        ¬ (AcceptsNoLaunch host entry.1 entry.2 ∧ outcomeResolved entry.2 = true)) →
          outcomeResolved start = true → outcomeResolved finish = true) := by
  constructor
  · intro settled
    exact (path.invariant (fun epoch => outcomeSettled epoch = true) settled fun entry _ holds =>
      (step_changes entry.1 entry.2).invariant _ holds fun _ change => change_settled change).1
  · intro careful resolved
    refine (path.invariant (fun epoch => outcomeResolved epoch = true) resolved
      fun entry member holds => ?_).1
    refine (step_changes entry.1 entry.2).invariant (fun epoch => outcomeResolved epoch = true)
      holds fun allowed change held => ?_
    refine change_resolved change (fun launched => ?_) held
    exact careful entry member ⟨allowed.noLaunch launched, holds⟩

end Closure

/-! A launch intent whose browser never starts. -/

def intentHost : Host :=
  .ofTables
    { digests := [("lease-1", "62347e78440f09d723a76daa7b7f9302d5308d46dea28d67628bee7247a42812")] }

def intentEpoch : Epoch where
  session :=
    { id := "session-1"
      runtimeId := "runtime-1"
      fencingToken := 7
      leaseToken := "lease-1"
      leaseExpiresAt := 1000
      protocolMinor := 15
      launchIdentity := some (.object (some "launch-1") (some "daemon-1"))
      launchHostInstanceId := some "host-1" }
  outside :=
    { runtimes :=
        [{ id := "runtime-1"
           connectionId := some "connection-1"
           connectionGeneration := 1
           hostInstanceId := some "host-1"
           daemonInstanceId := some "daemon-1"
           capabilities := ["closure-evidence-v1", "no-launch-evidence-v1"] }]
      memberships := [("admin-1", .admin)] }

def noLaunchEvidence (now : Int) : RecoveryMove :=
  .acceptRuntimeEvidence
    { runtimeId := "runtime-1"
      connectionId := "connection-1"
      connectionGeneration := 1
      negotiatedMinor := 15
      capabilities := ["closure-evidence-v1", "no-launch-evidence-v1"]
      hostInstanceId := some "host-1"
      daemonInstanceId := some "daemon-1" }
    { evidenceId := "evidence-1"
      recoveryId := "recovery-1"
      requestId := "command-1"
      sessionId := "session-1"
      leaseToken := "lease-1"
      fencingToken := "7"
      hostInstanceId := "host-1"
      daemonInstanceId := "daemon-1"
      launchIdentityVersion := 1
      method := .launchPrevented
      networkRevoked := true
      closureCompletedAt := "2026-09-05T15:00:00Z" }
    none { now, evidenceRowId := "row-1" }

def closeMoves : List RecoveryMove :=
  [.request "EXPLICIT_CLOSE" none true
      { now := 2000, recoveryId := "recovery-1", leaseId := "guard-1" },
    .prepareClose "recovery-1" "command-1" 90 { now := 3000, claimToken := "claim-1" },
    noLaunchEvidence 4000]

def resolveMove : RecoveryMove :=
  .finishRecovery "admin-1" "recovery-1"
    { expectedVersion := 4
      idempotencyKey := "key-1"
      outcome := .verified
      note := "checked"
      evidenceRefs := ["ticket-1"] }
    { now := 5000 }

def closedEpoch : Epoch :=
  arrival (recoveryStep intentHost) closeMoves intentEpoch

def resolvedEpoch : Epoch :=
  (recoveryStep intentHost resolveMove closedEpoch).state

def lateMoves : List RecoveryMove :=
  [.recordFailure
      { expectedFencingToken := "7"
        expectedLeaseToken := "lease-1"
        errorCode := "RUNTIME_OFFLINE" }
      { now := 6000 },
    .retry "admin-1" "recovery-1" 4 7000, .quarantineSession "LEASE_EXPIRED" 8000,
    noLaunchEvidence 9000]

theorem late_moves_keep_closure :
    (arrival (recoveryStep intentHost) lateMoves closedEpoch).session.status = .closed ∧
      (arrival (recoveryStep intentHost) lateMoves closedEpoch).session.closureVerifiedAt =
        some 4000 := by
  have stays := @verified_closure_stays intentHost intentEpoch closedEpoch _ _ _ rfl
    (visits_path closeMoves intentEpoch) (visits_path lateMoves closedEpoch) 4000 "row-1"
    (by decide) (by decide)
  exact ⟨stays.1, stays.2.1⟩

/-- A periodic request leaves the resolution alone. -/
theorem request_keeps_resolution :
    outcomeResolved (recoveryStep intentHost
      (.request "PERIODIC_RECONCILIATION" none false { now := 6000 }) resolvedEpoch).state =
        true := by
  have path : Path (recoveryStep intentHost) resolvedEpoch
      [(.request "PERIODIC_RECONCILIATION" none false { now := 6000 }, resolvedEpoch)]
      (recoveryStep intentHost (.request "PERIODIC_RECONCILIATION" none false { now := 6000 })
        resolvedEpoch).state := Path.move _ (Path.stop _)
  refine (write_outcome_stays path).2 ?_ (by decide)
  rintro entry member ⟨accepts, _⟩
  rw [List.mem_singleton.mp member] at accepts
  exact accepts

/-- The repeated evidence takes the operator's resolution back. -/
theorem repeated_evidence_unresolves :
    outcomeResolved resolvedEpoch = true ∧
      outcomeResolved (recoveryStep intentHost (noLaunchEvidence 6000) resolvedEpoch).state =
        false := by
  decide

end Devproof.SessionRecovery
