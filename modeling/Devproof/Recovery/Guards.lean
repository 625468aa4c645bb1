import Devproof.Recovery.Closure

/-!
The resource leases of an epoch: which transactions release a write guard, and
what repeated recovery does to the leases once the closure is verified.
-/

namespace Devproof.SessionRecovery

section Guards

variable {host : Host}

structure Inherits (old lease : ExecutionResourceLease) : Prop where
  id : lease.id = old.id
  rootKey : lease.rootKey = old.rootKey
  resourceKey : lease.resourceKey = old.resourceKey
  mode : lease.mode = old.mode
  origin : lease.origin = old.origin
  quarantined : lease.quarantined = true → old.quarantined = true ∨ old.mode = .write

theorem Inherits.refl (lease : ExecutionResourceLease) : Inherits lease lease :=
  ⟨rfl, rfl, rfl, rfl, rfl, Or.inl⟩

theorem Inherits.trans {first second third : ExecutionResourceLease}
    (left : Inherits first second) (right : Inherits second third) : Inherits first third := by
  refine ⟨right.id.trans left.id, right.rootKey.trans left.rootKey,
    right.resourceKey.trans left.resourceKey, right.mode.trans left.mode,
    right.origin.trans left.origin, fun marked => ?_⟩
  rcases right.quarantined marked with already | write
  · exact left.quarantined already
  · exact Or.inr (left.mode ▸ write)

/-- `quarantineWrites` on one lease. -/
theorem quarantined_inherits (lease : ExecutionResourceLease) :
    Inherits lease
      (if lease.mode = .write then { lease with quarantined := true } else lease) := by
  split
  · rename_i write
    exact ⟨rfl, rfl, rfl, rfl, rfl, fun _ => Or.inr write⟩
  · exact Inherits.refl lease

theorem mem_quarantineWrites {leases : List ExecutionResourceLease}
    {lease : ExecutionResourceLease} (member : lease ∈ quarantineWrites leases) :
    (∃ old ∈ leases, Inherits old lease) ∧
      (lease.mode = .write → lease.quarantined = true) := by
  obtain ⟨old, stored, rfl⟩ := List.mem_map.mp member
  refine ⟨⟨old, stored, quarantined_inherits old⟩, ?_⟩
  split
  · exact fun _ => rfl
  · rename_i read
    exact fun write => absurd write read

theorem quarantineWrites_kept {leases : List ExecutionResourceLease}
    {lease : ExecutionResourceLease} (member : lease ∈ leases) :
    ∃ kept ∈ quarantineWrites leases, Inherits lease kept :=
  ⟨_, List.mem_map.mpr ⟨lease, member, rfl⟩, quarantined_inherits lease⟩

theorem mem_adoptLeases {recoveryId : String} {leases : List ExecutionResourceLease}
    {lease : ExecutionResourceLease} (member : lease ∈ adoptLeases recoveryId leases) :
    ∃ old ∈ leases, Inherits old lease := by
  obtain ⟨old, stored, rfl⟩ := List.mem_map.mp member
  exact ⟨old, stored, rfl, rfl, rfl, rfl, rfl, Or.inl⟩

theorem adoptLeases_kept {recoveryId : String} {leases : List ExecutionResourceLease}
    {lease : ExecutionResourceLease} (member : lease ∈ leases) :
    ∃ kept ∈ adoptLeases recoveryId leases, Inherits lease kept :=
  ⟨_, List.mem_map.mpr ⟨lease, member, rfl⟩, rfl, rfl, rfl, rfl, rfl, Or.inl⟩

/-- What a verified closure may leave: guards and reads of other origins, no account claim. -/
def Swept (leases : List ExecutionResourceLease) : Prop :=
  ∀ lease ∈ leases, lease.origin ≠ .accountCoordination ∧
    ¬ (lease.mode = .read ∧ lease.origin = .normal) ∧
    (lease.mode = .write → lease.quarantined = true)

theorem mem_retainedLeases {settled : Bool} {leases : List ExecutionResourceLease}
    {lease : ExecutionResourceLease} (member : lease ∈ retainedLeases settled leases) :
    settled = false ∧ (∃ old ∈ leases, Inherits old lease) ∧
      lease.origin ≠ .accountCoordination ∧ ¬ (lease.mode = .read ∧ lease.origin = .normal) ∧
      (lease.mode = .write → lease.quarantined = true) := by
  unfold retainedLeases at member
  cases settled with
  | true => simp at member
  | false =>
      simp only [Bool.false_eq_true, ↓reduceIte, List.mem_filter, Bool.not_eq_true',
        Bool.and_eq_false_iff, beq_eq_false_iff_ne] at member
      obtain ⟨marked, retained⟩ := member
      obtain ⟨⟨old, kept, inherits⟩, quarantined⟩ := mem_quarantineWrites marked
      obtain ⟨stored, claimed⟩ := List.mem_filter.mp kept
      refine ⟨rfl, ⟨old, stored, inherits⟩, ?_, ?_, quarantined⟩
      · rw [inherits.origin]
        simpa using claimed
      · rintro ⟨read, normal⟩
        rcases retained with write | other
        · exact write read
        · exact other normal

theorem retainedLeases_swept (settled : Bool) (leases : List ExecutionResourceLease) :
    Swept (retainedLeases settled leases) :=
  fun _ member => (mem_retainedLeases member).2.2

theorem retainedLeases_kept {leases : List ExecutionResourceLease}
    {lease : ExecutionResourceLease} (member : lease ∈ leases) (write : lease.mode = .write)
    (claim : lease.origin ≠ .accountCoordination) :
    ∃ kept ∈ retainedLeases false leases, Inherits lease kept := by
  have unclaimed : lease ∈ leases.filter fun lease => lease.origin != .accountCoordination :=
    List.mem_filter.mpr ⟨member, by simpa using claim⟩
  obtain ⟨kept, marked, inherits⟩ := quarantineWrites_kept unclaimed
  refine ⟨kept, ?_, inherits⟩
  simp only [retainedLeases, Bool.false_eq_true, ↓reduceIte, List.mem_filter]
  exact ⟨marked, by simp [inherits.mode, write]⟩

theorem quarantineWrites_swept {leases : List ExecutionResourceLease} (swept : Swept leases) :
    quarantineWrites leases = leases := by
  unfold quarantineWrites
  conv_rhs => rw [← List.map_id leases]
  refine List.map_congr_left fun lease member => ?_
  split
  · rename_i write
    have marked := (swept lease member).2.2 write
    cases lease
    simp_all
  · rfl

theorem retainedLeases_swept_eq {leases : List ExecutionResourceLease} (swept : Swept leases) :
    retainedLeases false leases = leases := by
  have claimed : leases.filter (fun lease => lease.origin != .accountCoordination) = leases :=
    List.filter_eq_self.mpr fun lease member => by simpa using (swept lease member).1
  simp only [retainedLeases, claimed, Bool.false_eq_true, ↓reduceIte, quarantineWrites_swept swept]
  refine List.filter_eq_self.mpr fun lease member => ?_
  have retained := (swept lease member).2.1
  simp only [Bool.not_eq_true', Bool.and_eq_false_iff, beq_eq_false_iff_ne]
  by_contra both
  simp only [not_or, not_not] at both
  exact retained both

theorem adoptLeases_swept {recoveryId : String} {leases : List ExecutionResourceLease}
    (swept : Swept leases) : Swept (quarantineWrites (adoptLeases recoveryId leases)) := by
  intro lease member
  obtain ⟨⟨middle, adopted, later⟩, quarantined⟩ := mem_quarantineWrites member
  obtain ⟨old, stored, earlier⟩ := mem_adoptLeases adopted
  have inherits := earlier.trans later
  obtain ⟨unclaimed, retained, _⟩ := swept old stored
  refine ⟨inherits.origin ▸ unclaimed, ?_, quarantined⟩
  rw [inherits.mode, inherits.origin]
  exact retained

theorem withGuard_swept {epoch : Epoch} {leaseId : String} {recovery : RuntimeSessionRecovery}
    (swept : Swept epoch.leases) : Swept (withGuard epoch leaseId recovery) := by
  apply adoptLeases_swept
  intro lease member
  rcases List.mem_append.mp member with old | new
  · exact swept lease old
  · obtain rfl := List.mem_singleton.mp new
    exact ⟨nofun, nofun, fun _ => rfl⟩

def NoNewLock (before after : Epoch) : Prop :=
  ∀ lease ∈ after.leases, ∃ old ∈ before.leases, Inherits old lease

theorem NoNewLock.trans {first second third : Epoch} (left : NoNewLock first second)
    (right : NoNewLock second third) : NoNewLock first third := by
  intro lease member
  obtain ⟨middle, held, later⟩ := right lease member
  obtain ⟨old, stored, earlier⟩ := left middle held
  exact ⟨old, stored, earlier.trans later⟩

theorem noNewLock_same {before after : Epoch} (same : after.leases = before.leases) :
    NoNewLock before after := by
  intro lease member
  exact ⟨lease, same ▸ member, Inherits.refl lease⟩

theorem release_noNewLock (now : Int) (epoch : Epoch) :
    NoNewLock epoch (releaseVerifiedSessionResources host now epoch).1 := by
  rcases release_cases host now epoch with ⟨_, same⟩ | ⟨found, _, _, same⟩
  · exact noNewLock_same (by rw [same])
  · rw [same]
    intro lease member
    exact (mem_retainedLeases member).2.1

theorem storeEvidence_epoch {epoch stored : Epoch} {recovery : RuntimeSessionRecovery}
    {proof : EvidenceInput} {moment : Moment} {prior : Option SessionClosureEvidence}
    {evidence : SessionClosureEvidence}
    (written : storeEvidence host epoch recovery proof moment prior = .ok (stored, evidence)) :
    stored.leases = epoch.leases ∧ stored.session = epoch.session ∧
      (prior = some evidence ∨
        (prior = none ∧ evidence = newEvidence host epoch recovery proof moment ∧
          stored.evidences = epoch.evidences ++ [evidence] ∧
          ∀ other ∈ epoch.evidences, other.id ≠ evidence.id)) := by
  unfold storeEvidence at written
  split at written
  · cases written
    exact ⟨rfl, rfl, Or.inl rfl⟩
  · simp only [bind_ok, throwIf_ok, pure, Except.pure, Except.ok.injEq, Prod.mk.injEq] at written
    obtain ⟨_, free, rfl, rfl⟩ := written
    refine ⟨rfl, rfl, Or.inr ⟨rfl, rfl, rfl, ?_⟩⟩
    simpa [newEvidence] using free

theorem change_noNewLock {kind : Kind} {epoch after : Epoch} (change : Change host kind epoch after)
    (unguarded : kind ≠ .guard) : NoNewLock epoch after := by
  cases change with
  | settle | reopen | create | stop | progress | noLaunch | enrich | elsewhere =>
      exact noNewLock_same rfl
  | adopt current unsettled =>
      intro lease member
      obtain ⟨⟨middle, adopted, later⟩, _⟩ := mem_quarantineWrites member
      obtain ⟨old, stored, earlier⟩ := mem_adoptLeases adopted
      exact ⟨old, stored, earlier.trans later⟩
  | guard => exact absurd rfl unguarded
  | quarantine =>
      intro lease member
      exact (mem_quarantineWrites member).1
  | close moment _ _ _ written =>
      have leases := (storeEvidence_epoch written).1
      exact (noNewLock_same leases).trans (release_noNewLock moment.now _)
  | release _ now => exact release_noNewLock now epoch
  | resolve =>
      intro lease member
      exact ⟨lease, (List.mem_filter.mp member).1, Inherits.refl lease⟩

/-! Release only after proof and settlement. -/

structure ClosureProof (host : Host) (epoch : Epoch) : Prop where
  status : epoch.session.status = .closed
  instant : epoch.session.closureVerifiedAt.isSome = true
  evidence : ∃ evidence ∈ epoch.evidences,
    epoch.session.closureEvidenceId = some evidence.id ∧
    evidence.sessionId = epoch.session.id ∧
    evidence.sessionFence = epoch.session.fencingToken ∧
    evidence.leaseDigest = leaseDigest host epoch.session.leaseToken

structure ProvenAndSettled (host : Host) (epoch : Epoch) : Prop extends
    ClosureProof host epoch where
  settled : outcomeSettled epoch = true

theorem ProvenAndSettled.verified {epoch : Epoch} (proven : ProvenAndSettled host epoch) :
    verified epoch.session = true := by
  obtain ⟨evidence, _, named, _⟩ := proven.evidence
  simp [SessionRecovery.verified, proven.instant, named]

/-- What `verifiedRecovery` looks at. -/
theorem verifiedRecovery_iff {epoch : Epoch} {row : RuntimeSessionRecovery} :
    verifiedRecovery host epoch = some row ↔
      epoch.session.status = .closed ∧ epoch.session.closureVerifiedAt.isSome = true ∧
      ∃ id evidence, epoch.session.closureEvidenceId = some id ∧
        epoch.evidences.find? (fun other => other.id == id) = some evidence ∧
        evidence.sessionId = epoch.session.id ∧
        evidence.sessionFence = epoch.session.fencingToken ∧
        evidence.leaseDigest = leaseDigest host epoch.session.leaseToken ∧
        epoch.recovery = some row ∧ row.id = evidence.recoveryId ∧
        row.closureState = .verified ∧ row.closureEvidenceId = some evidence.id ∧
        row.closureVerifiedAt.isSome = true := by
  unfold verifiedRecovery
  constructor
  · intro found
    split at found
    · cases found
    · rename_i closed
      simp only [not_or, not_not] at closed
      split at found
      · cases found
      · rename_i evidence stored
        obtain ⟨id, named, matched⟩ := Option.bind_eq_some_iff.mp stored
        split at found
        · cases found
        · rename_i own
          simp only [not_or, not_not] at own
          obtain ⟨current, agrees⟩ := Option.filter_eq_some_iff.mp found
          simp only [Bool.and_eq_true, beq_iff_eq] at agrees
          exact ⟨closed.1, Option.isSome_iff_ne_none.mpr closed.2, id, evidence, named, matched,
            own.1, own.2.1, own.2.2, current, agrees.1.1.1, agrees.1.1.2, agrees.1.2, agrees.2⟩
  · rintro ⟨status, instant, id, evidence, named, matched, session, fence, digest, current, owner,
      state, linked, stamped⟩
    have stored : (epoch.session.closureEvidenceId.bind fun id =>
        epoch.evidences.find? fun evidence => evidence.id == id) = some evidence := by
      rw [named]
      exact matched
    rw [if_neg (by simp [status, Option.isSome_iff_ne_none.mp instant]), stored]
    simp only [session, fence, digest, ne_eq, not_true_eq_false, or_self, ↓reduceIte, current]
    simp [owner, state, linked, stamped]

theorem verifiedRecovery_proof {epoch : Epoch} {row : RuntimeSessionRecovery}
    (found : verifiedRecovery host epoch = some row) : ClosureProof host epoch := by
  obtain ⟨status, instant, id, evidence, named, matched, session, fence, digest, _⟩ :=
    verifiedRecovery_iff.mp found
  have same : evidence.id = id := by simpa using List.find?_some matched
  exact ⟨status, instant, evidence, List.mem_of_find?_eq_some matched, same ▸ named, session,
    fence, digest⟩

theorem enrichEvidence_row (epoch : Epoch) (recovery : RuntimeSessionRecovery)
    (proof : RuntimeClosureProof) (audit : Option ClosedSessionWriteAudit) :
    ∃ enrich : SessionClosureEvidence → SessionClosureEvidence,
      enrichEvidence epoch recovery proof audit = epoch.evidences.map enrich ∧
      ∀ evidence, (enrich evidence).id = evidence.id ∧
        (enrich evidence).sessionId = evidence.sessionId ∧
        (enrich evidence).sessionFence = evidence.sessionFence ∧
        (enrich evidence).leaseDigest = evidence.leaseDigest ∧
        (enrich evidence).recoveryId = evidence.recoveryId := by
  unfold enrichEvidence
  split
  · refine ⟨_, rfl, fun evidence => ?_⟩
    split
    · exact ⟨rfl, rfl, rfl, rfl, rfl⟩
    · exact ⟨rfl, rfl, rfl, rfl, rfl⟩
  · exact ⟨id, (List.map_id _).symm, fun _ => ⟨rfl, rfl, rfl, rfl, rfl⟩⟩

theorem change_provenAndSettled {kind : Kind} {epoch after : Epoch}
    (change : Change host kind epoch after) (proven : ProvenAndSettled host epoch) :
    ProvenAndSettled host after := by
  have settled := change_settled change proven.settled
  have verified := proven.verified
  cases change with
  | settle | adopt | guard | reopen | create | progress | noLaunch | elsewhere | resolve =>
      exact ⟨⟨proven.status, proven.instant, proven.evidence⟩, settled⟩
  | stop session open_ | quarantine session open_ =>
      have instant := proven.instant
      simp [open_] at instant
  | close moment _ unverified =>
      rw [verified] at unverified
      cases unverified
  | release _ now =>
      rcases release_cases host now epoch with ⟨_, same⟩ | ⟨found, _, _, same⟩
      · rw [same]
        exact proven
      · rw [same] at settled ⊢
        exact ⟨⟨proven.status, proven.instant, proven.evidence⟩, settled⟩
  | enrich proof audit current =>
      obtain ⟨enrich, mapped, keeps⟩ := enrichEvidence_row epoch _ proof audit
      obtain ⟨evidence, stored, named, session, fence, digest⟩ := proven.evidence
      obtain ⟨id, sameSession, sameFence, sameDigest, _⟩ := keeps evidence
      refine ⟨⟨proven.status, proven.instant, enrich evidence, ?_, ?_, ?_, ?_, ?_⟩, settled⟩
      · rw [mapped]
        exact List.mem_map.mpr ⟨evidence, stored, rfl⟩
      · rw [id]
        exact named
      · rw [sameSession]
        exact session
      · rw [sameFence]
        exact fence
      · rw [sameDigest]
        exact digest

def HeldOrProven (host : Host) (lease : ExecutionResourceLease) (epoch : Epoch) : Prop :=
  (∃ kept ∈ epoch.leases, Inherits lease kept) ∨ ProvenAndSettled host epoch

theorem release_held {epoch : Epoch} {lease : ExecutionResourceLease} (now : Int)
    (member : lease ∈ epoch.leases) (write : lease.mode = .write)
    (claim : lease.origin ≠ .accountCoordination) :
    HeldOrProven host lease (releaseVerifiedSessionResources host now epoch).1 := by
  rcases release_cases host now epoch with ⟨_, same⟩ | ⟨found, proven, current, same⟩
  · rw [same]
    exact Or.inl ⟨lease, member, Inherits.refl lease⟩
  · rw [same]
    cases settled : writeSettled (refreshedRecovery epoch now found).writeOutcomeState with
    | false =>
        obtain ⟨kept, retained, inherits⟩ := retainedLeases_kept member write claim
        refine Or.inl ⟨kept, ?_, inherits⟩
        simpa [releasedEpoch, settled] using retained
    | true =>
        have closed := verifiedRecovery_proof proven
        refine Or.inr ⟨⟨closed.status, closed.instant, closed.evidence⟩, ?_⟩
        simpa [outcomeSettled, releasedEpoch] using settled

theorem resolve_proven {epoch : Epoch} {row : RuntimeSessionRecovery}
    (current : epoch.recovery = some row) (closed : closureProven host epoch row = true)
    (evidenced : evidenceProven epoch row = true) :
    ∃ found, verifiedRecovery host epoch = some found := by
  simp only [closureProven, Bool.and_eq_true, beq_iff_eq, verified] at closed
  obtain ⟨⟨⟨digest, status⟩, stamped, _⟩, state⟩ := closed
  obtain ⟨evidence, stored, agrees⟩ := (Option.any_eq_true _ _).mp evidenced
  obtain ⟨id, named, matched⟩ := Option.bind_eq_some_iff.mp stored
  simp only [Bool.and_eq_true, beq_iff_eq] at agrees
  obtain ⟨⟨⟨⟨⟨session, fence⟩, sameDigest⟩, owner⟩, linked⟩, instant⟩ := agrees
  exact ⟨row, verifiedRecovery_iff.mpr ⟨status, stamped, id, evidence, named, matched, session,
    fence, sameDigest.trans digest.symm, current, owner.symm, state, linked, instant⟩⟩

theorem change_held {kind : Kind} {epoch after : Epoch} {lease : ExecutionResourceLease}
    (change : Change host kind epoch after) (write : lease.mode = .write)
    (claim : lease.origin ≠ .accountCoordination) (held : HeldOrProven host lease epoch) :
    HeldOrProven host lease after := by
  rcases held with ⟨kept, member, inherits⟩ | proven
  · have keptWrite : kept.mode = .write := inherits.mode.trans write
    have keptClaim : kept.origin ≠ .accountCoordination := inherits.origin ▸ claim
    have passed : ∀ {epoch : Epoch}, HeldOrProven host kept epoch → HeldOrProven host lease epoch :=
      fun held => held.imp_left fun ⟨later, stored, further⟩ =>
        ⟨later, stored, inherits.trans further⟩
    cases change with
    | settle | reopen | create | stop | progress | noLaunch | enrich | elsewhere =>
        exact Or.inl ⟨kept, member, inherits⟩
    | adopt =>
        obtain ⟨adopted, stored, first⟩ := adoptLeases_kept member
        obtain ⟨marked, final, second⟩ := quarantineWrites_kept stored
        exact passed (Or.inl ⟨marked, final, first.trans second⟩)
    | guard leaseId =>
        obtain ⟨adopted, stored, first⟩ := adoptLeases_kept (List.mem_append_left _ member)
        obtain ⟨marked, final, second⟩ := quarantineWrites_kept stored
        exact passed (Or.inl ⟨marked, final, first.trans second⟩)
    | quarantine =>
        obtain ⟨marked, final, further⟩ := quarantineWrites_kept member
        exact passed (Or.inl ⟨marked, final, further⟩)
    | close moment _ _ _ written =>
        have stored := (storeEvidence_epoch written).1 ▸ member
        exact passed (release_held moment.now stored keptWrite keptClaim)
    | release _ now => exact passed (release_held now member keptWrite keptClaim)
    | resolve userId input now current closed evidenced =>
        obtain ⟨found, proven⟩ := resolve_proven current closed evidenced
        have proof := verifiedRecovery_proof proven
        refine Or.inr ⟨⟨proof.status, proof.instant, proof.evidence⟩, ?_⟩
        simp only [outcomeSettled, resolvedRecovery, Option.any_some]
        split <;> rfl
  · exact Or.inr (change_provenAndSettled change proven)

structure Unproven (epoch : Epoch) : Prop where
  unverified : verified epoch.session = false
  noEvidence : ∀ evidence ∈ epoch.evidences, evidence.sessionId = epoch.session.id →
    evidence.sessionFence ≠ epoch.session.fencingToken

structure Guarded (host : Host) (epoch : Epoch) : Prop where
  noEvidence : verified epoch.session = false →
    ∀ evidence ∈ epoch.evidences, evidence.sessionId = epoch.session.id →
      evidence.sessionFence ≠ epoch.session.fencingToken
  proven : verified epoch.session = true → (verifiedRecovery host epoch).isSome = true
  swept : verified epoch.session = true → Swept epoch.leases

theorem unproven_of_nil {epoch : Epoch} (unverified : verified epoch.session = false)
    (none : epoch.evidences = []) : Unproven epoch :=
  ⟨unverified, fun _ member => by simp [none] at member⟩

theorem Unproven.guarded {epoch : Epoch} (unproven : Unproven epoch) : Guarded host epoch := by
  refine ⟨fun _ => unproven.noEvidence, fun verified => ?_, fun verified => ?_⟩
  · simp [unproven.unverified] at verified
  · simp [unproven.unverified] at verified

theorem verifiedRecovery_kept {epoch after : Epoch} {row next : RuntimeSessionRecovery}
    (found : verifiedRecovery host epoch = some row)
    (session : SameClosure epoch.session after.session)
    (status : after.session.status = epoch.session.status)
    (evidences : after.evidences = epoch.evidences) (later : after.recovery = some next)
    (same : SameClosing row next) : verifiedRecovery host after = some next := by
  obtain ⟨closed, instant, id, evidence, named, matched, ofSession, fence, digest, _, owner, state,
    linked, stamped⟩ := verifiedRecovery_iff.mp found
  refine verifiedRecovery_iff.mpr ⟨status ▸ closed, session.closureVerifiedAt ▸ instant, id,
    evidence, session.closureEvidenceId ▸ named, evidences ▸ matched, session.id ▸ ofSession,
    session.fencingToken ▸ fence, session.leaseToken ▸ digest, later, same.id ▸ owner,
    same.closureState ▸ state, same.closureEvidenceId ▸ linked, same.closureVerifiedAt ▸ stamped⟩

theorem release_proven {epoch : Epoch} {row : RuntimeSessionRecovery} (now : Int)
    (found : verifiedRecovery host epoch = some row) :
    (verifiedRecovery host (releaseVerifiedSessionResources host now epoch).1).isSome = true ∧
      Swept (releaseVerifiedSessionResources host now epoch).1.leases := by
  rcases release_cases host now epoch with ⟨none, _⟩ | ⟨other, same, _, released⟩
  · rw [found] at none
    cases none
  · rw [released]
    refine ⟨?_, retainedLeases_swept _ _⟩
    have kept : verifiedRecovery host (releasedEpoch now other epoch) =
        some (refreshedRecovery epoch now other) :=
      verifiedRecovery_kept same ⟨rfl, rfl, rfl, rfl, rfl⟩ rfl rfl rfl
        (refreshedRecovery_closing epoch now other)
    rw [kept]
    rfl

theorem close_proven {epoch stored : Epoch} {recovery : RuntimeSessionRecovery}
    {evidence : SessionClosureEvidence} {proof : EvidenceInput} {moment : Moment}
    (unproven : ∀ evidence ∈ epoch.evidences, evidence.sessionId = epoch.session.id →
      evidence.sessionFence ≠ epoch.session.fencingToken)
    (fresh : (epoch.evidences.find? fun other => other.evidenceId == proof.evidenceId).any
      (replayedElsewhere epoch.session recovery proof) = false)
    (written : storeEvidence host epoch recovery proof moment
      (epoch.evidences.find? fun other => other.evidenceId == proof.evidenceId) =
        .ok (stored, evidence)) :
    (verifiedRecovery host
      { stored with
        session := closedSession evidence.id moment.now stored.session
        recovery := some (closedRecovery evidence.id moment.now recovery) }).isSome = true := by
  obtain ⟨_, session, prior | ⟨_, created, evidences, free⟩⟩ := storeEvidence_epoch written
  · have own := unproven evidence (List.mem_of_find?_eq_some prior)
    simp only [prior, Option.any_some, replayedElsewhere, Bool.or_eq_false_iff,
      bne_eq_false_iff_eq] at fresh
    exact absurd fresh.1.1.2 (own fresh.1.1.1)
  · refine Option.isSome_iff_exists.mpr ⟨closedRecovery evidence.id moment.now recovery,
      verifiedRecovery_iff.mpr ⟨rfl, rfl, evidence.id, evidence, rfl, ?_, ?_, ?_, ?_, rfl, ?_, rfl,
        rfl, rfl⟩⟩
    · rw [evidences, List.find?_append, List.find?_eq_none.mpr]
      · simp
      · intro other member
        simpa using free other member
    · rw [created, session]
      rfl
    · rw [created, session]
      rfl
    · rw [created, session]
      rfl
    · rw [created]
      rfl

/-- Another row with the same closure, beside leases that stay swept. -/
theorem Guarded.row {epoch after : Epoch} {row next : RuntimeSessionRecovery}
    (guarded : Guarded host epoch) (same : SameClosure epoch.session after.session)
    (status : after.session.status = epoch.session.status)
    (evidences : after.evidences = epoch.evidences) (current : epoch.recovery = some row)
    (later : after.recovery = some next) (closing : SameClosing row next)
    (leases : Swept epoch.leases → Swept after.leases) : Guarded host after := by
  have agrees : verified after.session = verified epoch.session := by
    simp [verified, same.closureVerifiedAt, same.closureEvidenceId]
  refine ⟨fun unverified evidence member own => ?_, fun proven => ?_,
    fun proven => leases (guarded.swept (agrees ▸ proven))⟩
  · rw [same.fencingToken]
    exact guarded.noEvidence (agrees ▸ unverified) evidence (evidences ▸ member)
      (own.trans same.id)
  · obtain ⟨found, stored⟩ := Option.isSome_iff_exists.mp (guarded.proven (agrees ▸ proven))
    obtain rfl := Option.some.inj (current.symm.trans (verifiedRecovery_recovery stored))
    rw [verifiedRecovery_kept stored same status evidences later closing]
    rfl

/-- A verified session has its row, and the row says so. -/
theorem Guarded.recovery {epoch : Epoch} (guarded : Guarded host epoch)
    (proven : verified epoch.session = true) :
    ∃ row, verifiedRecovery host epoch = some row ∧ epoch.recovery = some row ∧
      row.closureState = .verified ∧ row.closureEvidenceId.isSome = true := by
  obtain ⟨row, found⟩ := Option.isSome_iff_exists.mp (guarded.proven proven)
  obtain ⟨_, _, _, _, _, _, _, _, _, current, _, state, linked, _⟩ := verifiedRecovery_iff.mp found
  exact ⟨row, found, current, state, by simp [linked]⟩

theorem Guarded.unverified {epoch after : Epoch} (guarded : Guarded host epoch)
    (before : verified epoch.session = false) (unverified : verified after.session = false)
    (evidences : after.evidences = epoch.evidences) (id : after.session.id = epoch.session.id)
    (fence : after.session.fencingToken = epoch.session.fencingToken) : Guarded host after := by
  refine ⟨fun _ evidence member own => ?_, fun proven => ?_, fun proven => ?_⟩
  · rw [fence]
    exact guarded.noEvidence before evidence (evidences ▸ member) (own.trans id)
  · rw [unverified] at proven
    cases proven
  · rw [unverified] at proven
    cases proven

theorem verified_open {session after : BrowserRuntimeSession}
    (open_ : session.closureVerifiedAt = none) (same : SameClosure session after) :
    verified session = false ∧ verified after = false := by
  simp [verified, same.closureVerifiedAt, open_]

theorem release_guarded {epoch : Epoch} {row : RuntimeSessionRecovery} (now : Int)
    (found : verifiedRecovery host epoch = some row) :
    Guarded host (releaseVerifiedSessionResources host now epoch).1 := by
  obtain ⟨proven, swept⟩ := release_proven now found
  obtain ⟨later, kept⟩ := Option.isSome_iff_exists.mp proven
  obtain ⟨evidence, _, named, _⟩ := (verifiedRecovery_proof kept).evidence
  refine ⟨fun unverified => ?_, fun _ => proven, fun _ => swept⟩
  simp [verified, (verifiedRecovery_proof kept).instant, named] at unverified

theorem enrich_verifiedRecovery {epoch : Epoch} {row : RuntimeSessionRecovery}
    {evidences : List SessionClosureEvidence}
    (enrich : SessionClosureEvidence → SessionClosureEvidence)
    (mapped : evidences = epoch.evidences.map enrich)
    (keeps : ∀ evidence, (enrich evidence).id = evidence.id ∧
      (enrich evidence).sessionId = evidence.sessionId ∧
      (enrich evidence).sessionFence = evidence.sessionFence ∧
      (enrich evidence).leaseDigest = evidence.leaseDigest ∧
      (enrich evidence).recoveryId = evidence.recoveryId)
    (found : verifiedRecovery host epoch = some row) :
    verifiedRecovery host { epoch with evidences } = some row := by
  obtain ⟨closed, instant, id, evidence, named, matched, ofSession, fence, digest, current, owner,
    state, linked, stamped⟩ := verifiedRecovery_iff.mp found
  obtain ⟨sameId, sameSession, sameFence, sameDigest, sameRecovery⟩ := keeps evidence
  refine verifiedRecovery_iff.mpr ⟨closed, instant, id, enrich evidence, named, ?_,
    sameSession.trans ofSession, sameFence.trans fence, sameDigest.trans digest, current,
    owner.trans sameRecovery.symm, state, sameId.symm ▸ linked, stamped⟩
  have keys : (fun other : SessionClosureEvidence => other.id == id) ∘ enrich =
      fun other => other.id == id := by
    funext other
    simp [(keeps other).1]
  rw [mapped, List.find?_map, keys, matched]
  rfl

theorem change_guarded {kind : Kind} {epoch after : Epoch} (change : Change host kind epoch after)
    (guarded : Guarded host epoch) : Guarded host after := by
  cases change with
  | settle _ now =>
      cases current : epoch.recovery with
      | none =>
          have same : refreshRecoveryWriteOutcome epoch now = epoch := by
            unfold refreshRecoveryWriteOutcome
            rw [current, Option.map_none, ← current]
          rw [same]
          exact guarded
      | some row =>
          exact guarded.row ⟨rfl, rfl, rfl, rfl, rfl⟩ rfl rfl current
            (by simp [refreshRecoveryWriteOutcome, current])
            (refreshedRecovery_closing epoch now row) id
  | adopt current =>
      exact guarded.row ⟨rfl, rfl, rfl, rfl, rfl⟩ rfl rfl current current
        ⟨rfl, rfl, rfl, rfl, rfl⟩ adoptLeases_swept
  | guard leaseId current =>
      exact guarded.row ⟨rfl, rfl, rfl, rfl, rfl⟩ rfl rfl current current
        ⟨rfl, rfl, rfl, rfl, rfl⟩ withGuard_swept
  | reopen reason now observed current promoted =>
      cases before : verified epoch.session with
      | false => exact guarded.unverified before before rfl rfl rfl
      | true =>
          obtain ⟨row, _, stored, state, linked⟩ := guarded.recovery before
          obtain rfl := Option.some.inj (stored.symm.trans current)
          obtain ⟨evidenceId, named⟩ := Option.isSome_iff_exists.mp linked
          simp [promotes, state, named] at promoted
  | create recovery missing =>
      cases before : verified epoch.session with
      | false => exact guarded.unverified before before rfl rfl rfl
      | true =>
          obtain ⟨row, _, stored, _⟩ := guarded.recovery before
          rw [stored] at missing
          cases missing
  | stop session open_ same | quarantine session open_ same =>
      obtain ⟨before, unverified⟩ := verified_open open_ same
      exact guarded.unverified before unverified rfl same.id same.fencingToken
  | progress next current same open_ =>
      cases before : verified epoch.session with
      | false => exact guarded.unverified before before rfl rfl rfl
      | true =>
          obtain ⟨row, _, stored, state, linked⟩ := guarded.recovery before
          obtain rfl := Option.some.inj (stored.symm.trans current)
          rcases open_ with unverified | unlinked | other
          · rw [before] at unverified
            cases unverified
          · simp [unlinked] at linked
          · exact absurd state other
  | close moment current unverified fresh written =>
      obtain ⟨row, found⟩ := Option.isSome_iff_exists.mp
        (close_proven (guarded.noEvidence unverified) fresh written)
      exact release_guarded moment.now found
  | release _ now =>
      rcases release_cases host now epoch with ⟨_, same⟩ | ⟨row, found, _, _⟩
      · rw [same]
        exact guarded
      · exact release_guarded now found
  | noLaunch current =>
      exact guarded.row ⟨rfl, rfl, rfl, rfl, rfl⟩ rfl rfl current rfl
        ⟨rfl, rfl, rfl, rfl, rfl⟩ id
  | enrich proof audit current =>
      obtain ⟨enrich, mapped, keeps⟩ := enrichEvidence_row epoch _ proof audit
      refine ⟨fun unverified evidence member own => ?_, fun proven => ?_, guarded.swept⟩
      · rw [mapped] at member
        obtain ⟨old, stored, rfl⟩ := List.mem_map.mp member
        obtain ⟨_, session, fence, _⟩ := keeps old
        rw [fence]
        exact guarded.noEvidence unverified old stored (session.symm.trans own)
      · obtain ⟨row, found, _⟩ := guarded.recovery proven
        rw [enrich_verifiedRecovery enrich mapped keeps found]
        rfl
  | resolve userId input now current =>
      exact guarded.row ⟨rfl, rfl, rfl, rfl, rfl⟩ rfl rfl current rfl
        ⟨rfl, rfl, rfl, rfl, rfl⟩ fun swept lease member =>
          swept lease (List.mem_filter.mp member).1
  | elsewhere => exact ⟨guarded.noEvidence, guarded.proven, guarded.swept⟩

theorem path_guarded {start finish : Epoch} {made : List (RecoveryMove × Epoch)}
    (path : Path (recoveryStep host) start made finish) (guarded : Guarded host start) :
    Guarded host finish :=
  (path.invariant (Guarded host) guarded fun entry _ holds =>
    (step_changes entry.1 entry.2).invariant _ holds fun _ change => change_guarded change).1

theorem move_held (move : RecoveryMove) {epoch : Epoch} {lease : ExecutionResourceLease}
    (member : lease ∈ epoch.leases) (write : lease.mode = .write)
    (claim : lease.origin ≠ .accountCoordination) :
    HeldOrProven host lease (recoveryStep host move epoch).state :=
  (step_changes move epoch).invariant (HeldOrProven host lease)
    (Or.inl ⟨lease, member, Inherits.refl lease⟩)
    fun _ change held => change_held change write claim held

def ClosureKnown (session : BrowserRuntimeSession) : Prop :=
  verified session = true ∨ (session.closureVerifiedAt = none ∧ session.status ≠ .closed)

theorem quarantineSession_quarantined {epoch : Epoch} (guarded : Guarded host epoch)
    (known : ClosureKnown epoch.session) (code : String) (now : Int) :
    ∀ lease ∈ (quarantineSession code now epoch).1.leases, lease.mode = .write →
      lease.quarantined = true := by
  intro lease member write
  unfold quarantineSession at member
  split at member
  · exact (mem_quarantineWrites member).2 write
  · rename_i late
    rcases known with proven | open_
    · exact (guarded.swept proven lease member).2.2 write
    · simp [open_.1, open_.2] at late

theorem quarantineSession_unknown {epoch : Epoch} (unknown : ¬ ClosureKnown epoch.session)
    (code : String) (now : Int) : quarantineSession code now epoch = (epoch, 0) := by
  unfold quarantineSession
  rw [if_neg]
  intro late
  simp only [Bool.and_eq_true, Option.isNone_iff_eq_none, bne_iff_ne] at late
  exact unknown (Or.inr late)

/-- A write lease of a run goes with a transaction that leaves the closure proven and the write
outcome settled, and a quarantine marks the write leases of every session whose closure is known. -/
theorem guards_released_when_settled {start epoch : Epoch} {made : List (RecoveryMove × Epoch)}
    (path : Path (recoveryStep host) start made epoch) :
    (∀ move, ∀ lease ∈ epoch.leases, lease.mode = .write →
      lease.origin ≠ .accountCoordination →
      (∀ kept ∈ (recoveryStep host move epoch).state.leases, kept.id ≠ lease.id) →
      ProvenAndSettled host (recoveryStep host move epoch).state) ∧
    ∀ code now, (Unproven start → ClosureKnown epoch.session →
        ∀ lease ∈ (recoveryStep host (.quarantineSession code now) epoch).state.leases,
          lease.mode = .write → lease.quarantined = true) ∧
      (¬ ClosureKnown epoch.session →
        (recoveryStep host (.quarantineSession code now) epoch).state = epoch) := by
  refine ⟨fun move lease member write claim gone => ?_, fun code now => ⟨fun unproven known => ?_,
    fun unknown => ?_⟩⟩
  · have held : HeldOrProven host lease (recoveryStep host move epoch).state :=
      move_held move member write claim
    rcases held with ⟨kept, stored, inherits⟩ | proven
    · exact absurd inherits.id (gone kept stored)
    · exact proven
  · exact quarantineSession_quarantined (path_guarded path unproven.guarded) known code now
  · show (quarantineSession code now epoch).1 = epoch
    rw [quarantineSession_unknown unknown]

def repeats : RecoveryMove → Bool
  | .request .. | .prepareClose .. | .acceptRuntimeEvidence .. | .acceptNeverLaunched ..
  | .acceptAdminDrainEvidence .. | .releaseVerifiedSessionResources ..
  | .releaseCompletedSessionData .. | .elsewhere .. => true
  | _ => false

def locksAgain (move : RecoveryMove) (epoch : Epoch) : Bool :=
  match move with
  | .request _ _ _ moment | .acceptAdminDrainEvidence _ moment =>
      epoch.outside.recoveryEnabled && guardDue epoch moment.now
  | _ => false

def lock (lease : ExecutionResourceLease) : ExecutionResourceLease :=
  { lease with recoveryId := none, guardReason := none }

def locks (epoch : Epoch) : List ExecutionResourceLease :=
  epoch.leases.map lock

theorem adoptLeases_locks {recoveryId : String} {leases : List ExecutionResourceLease}
    (swept : Swept leases) :
    (quarantineWrites (adoptLeases recoveryId leases)).map lock = leases.map lock := by
  simp only [quarantineWrites, adoptLeases, List.map_map]
  refine List.map_congr_left fun lease member => ?_
  have marked := (swept lease member).2.2
  simp only [Function.comp_apply]
  split
  · rename_i write
    simp [lock, marked write]
  · rfl

def LocksKept (start epoch : Epoch) : Prop :=
  locks epoch = locks start ∨ (outcomeSettled epoch = true ∧ epoch.leases = [])

structure Repeated (host : Host) (start epoch : Epoch) : Prop where
  guarded : Guarded host epoch
  proven : verified epoch.session = true
  noNewLock : NoNewLock start epoch
  locksKept : LocksKept start epoch

theorem change_verified {kind : Kind} {epoch after : Epoch} (change : Change host kind epoch after)
    (guarded : Guarded host epoch) (proven : verified epoch.session = true) :
    verified after.session = true := by
  obtain ⟨row, found⟩ := Option.isSome_iff_exists.mp (guarded.proven proven)
  obtain ⟨status, stamped, id, evidence, named, matched, _, _, _, current, _, state, linked, _⟩ :=
    verifiedRecovery_iff.mp found
  obtain ⟨instant, closed⟩ := Option.isSome_iff_exists.mp stamped
  have same : evidence.id = id := by simpa using List.find?_some matched
  have before : ClosedWith instant id row.attempts epoch :=
    ⟨status, closed, named, row, current, state, same ▸ linked, rfl⟩
  exact (change_closed change before).verified

theorem release_locks {epoch : Epoch} (now : Int) (guarded : Guarded host epoch)
    (proven : verified epoch.session = true) :
    LocksKept epoch (releaseVerifiedSessionResources host now epoch).1 := by
  rcases release_cases host now epoch with ⟨_, same⟩ | ⟨found, _, _, same⟩
  · rw [same]
    exact Or.inl rfl
  · rw [same]
    cases settled : writeSettled (refreshedRecovery epoch now found).writeOutcomeState with
    | false =>
        left
        simp [locks, releasedEpoch, settled, retainedLeases_swept_eq (guarded.swept proven)]
    | true =>
        right
        simp [outcomeSettled, releasedEpoch, settled, retainedLeases]

theorem change_locks {kind : Kind} {epoch after : Epoch} (change : Change host kind epoch after)
    (guarded : Guarded host epoch) (proven : verified epoch.session = true)
    (unguarded : kind ≠ .guard) (open_ : kind ≠ .resolve) : LocksKept epoch after := by
  cases change with
  | settle | reopen | create | stop | progress | noLaunch | enrich | elsewhere => exact Or.inl rfl
  | adopt => exact Or.inl (adoptLeases_locks (guarded.swept proven))
  | guard => exact absurd rfl unguarded
  | quarantine session =>
      left
      simp [locks, quarantineWrites_swept (guarded.swept proven)]
  | close moment _ unverified =>
      rw [proven] at unverified
      cases unverified
  | release _ now => exact release_locks now guarded proven
  | resolve => exact absurd rfl open_

theorem LocksKept.trans {start epoch after : Epoch} (first : LocksKept start epoch)
    (second : LocksKept epoch after) (inherits : NoNewLock epoch after)
    (settles : outcomeSettled epoch = true → outcomeSettled after = true) :
    LocksKept start after := by
  rcases second with same | empty
  · rcases first with before | ⟨settled, none⟩
    · exact Or.inl (same.trans before)
    · refine Or.inr ⟨settles settled, List.eq_nil_iff_forall_not_mem.mpr fun lease member => ?_⟩
      obtain ⟨old, stored, _⟩ := inherits lease member
      simp [none] at stored
  · exact Or.inr empty

theorem change_repeated {kind : Kind} {start epoch after : Epoch}
    (change : Change host kind epoch after) (unguarded : kind ≠ .guard) (open_ : kind ≠ .resolve)
    (repeated : Repeated host start epoch) : Repeated host start after := by
  have inherits := change_noNewLock change unguarded
  have kept := change_locks change repeated.guarded repeated.proven unguarded open_
  exact ⟨change_guarded change repeated.guarded,
    change_verified change repeated.guarded repeated.proven, repeated.noNewLock.trans inherits,
    repeated.locksKept.trans kept inherits (change_settled change)⟩

theorem guardsAt_locksAgain {move : RecoveryMove} {epoch after : Epoch}
    (committed : commits host move epoch = .ok after) (again : repeats move = true)
    (proven : verified epoch.session = true) (guards : GuardsAt move epoch) :
    locksAgain move epoch = true := by
  cases move with
  | request reason sourceRunId explicitClose moment =>
      have closed : epoch.session.closureVerifiedAt.isNone = false := by
        rw [← Option.not_isSome, ((Bool.and_eq_true _ _).mp proven).1]
        rfl
      have same : ∀ healthy, stoppedEpoch healthy moment.now epoch = epoch := by
        simp [stoppedEpoch, closed]
      obtain ⟨_, requested⟩ := map_fst_ok committed
      simp only [request, bind_ok, requireRecoveryEnabled, demand_ok] at requested
      obtain ⟨_, enabled, _⟩ := requested
      refine (Bool.and_eq_true _ _).mpr ⟨enabled, ?_⟩
      rw [← same (!explicitClose && isHealthySession epoch moment.now)]
      exact guards
  | acceptNeverLaunched _ _ moment =>
      obtain ⟨_, accepted⟩ := map_fst_ok committed
      simp only [acceptNeverLaunched, bind_ok, demand_ok, Bool.and_eq_true, beq_iff_eq] at accepted
      obtain ⟨_, _, _, ⟨⟨⟨⟨purge, _⟩, _⟩, _⟩, _⟩, _⟩ := accepted
      rcases guards with unverified | due
      · rw [proven] at unverified
        cases unverified
      · simp [guardDue, needsGuard, purge] at due
  | acceptAdminDrainEvidence input moment =>
      obtain ⟨_, accepted⟩ := map_fst_ok committed
      simp only [acceptAdminDrainEvidence, bind_ok, requireRecoveryEnabled, demand_ok] at accepted
      obtain ⟨_, enabled, _⟩ := accepted
      rcases guards with unverified | due
      · rw [proven] at unverified
        cases unverified
      · exact (Bool.and_eq_true _ _).mpr ⟨enabled, due⟩
  | acceptRuntimeEvidence =>
      have unverified : verified epoch.session = false := guards
      rw [proven] at unverified
      cases unverified
  | recordFailure | finishRecovery => cases again
  | prepareClose | wakeRuntime | retry | quarantineSession | releaseVerifiedSessionResources
  | releaseCompletedSessionData | elsewhere => exact absurd guards id

theorem step_repeated (move : RecoveryMove) {start epoch : Epoch} (again : repeats move = true)
    (released : locksAgain move epoch = false) (repeated : Repeated host start epoch) :
    Repeated host start (recoveryStep host move epoch).state := by
  cases committed : commits host move epoch with
  | error failure =>
      have same : (recoveryStep host move epoch).state = epoch := by
        simp [recoveryStep, committed]
      rw [same]
      exact repeated
  | ok after =>
      refine (step_changes move epoch).invariant (Repeated host start) repeated
        fun allowed change held => change_repeated change ?_ ?_ held
      · intro guard
        have locked := guardsAt_locksAgain committed again repeated.proven (allowed.guard guard)
        simp [released] at locked
      · intro resolve
        have resolves := allowed.resolve resolve
        cases move with
        | finishRecovery => cases again
        | _ => exact resolves

/-- Once the closure of a session is verified, repeated recovery adds no lease, quarantines none
but writes and leaves what the session blocks as it is, or releases all of it with the outcome
settled, where no request and no drain guards the released session again. -/
theorem repeated_recovery_locks_nothing {origin start finish : Epoch}
    {before made : List (RecoveryMove × Epoch)} (unproven : Unproven origin)
    (first : Path (recoveryStep host) origin before start)
    (proven : verified start.session = true)
    (rest : Path (recoveryStep host) start made finish)
    (again : ∀ entry ∈ made, repeats entry.1 = true)
    (released : ∀ entry ∈ made, locksAgain entry.1 entry.2 = false) :
    NoNewLock start finish ∧
      (locks finish = locks start ∨ (outcomeSettled finish = true ∧ finish.leases = [])) := by
  have initially : Repeated host start start :=
    ⟨path_guarded first unproven.guarded, proven, noNewLock_same rfl, Or.inl rfl⟩
  have repeated := (rest.invariant (Repeated host start) initially fun entry member held =>
    step_repeated entry.1 (again entry member) (released entry member) held).1
  exact ⟨repeated.noNewLock, repeated.locksKept⟩

end Guards

def writeEpoch : Epoch :=
  { intentEpoch with leases := [{ id := "write-1", rootKey := "shop", mode := .write }] }

def closureEvidence (now : Int) : RecoveryMove :=
  .acceptRuntimeEvidence
    { runtimeId := "runtime-1"
      connectionId := "connection-1"
      connectionGeneration := 1
      negotiatedMinor := 15
      capabilities := ["closure-evidence-v1"]
      hostInstanceId := some "host-1"
      daemonInstanceId := some "daemon-1" }
    { evidenceId := "evidence-1"
      recoveryId := "recovery-1"
      requestId := "command-1"
      sessionId := "session-1"
      leaseToken := "lease-1"
      fencingToken := "7"
      hostInstanceId := "host-1"
      daemonInstanceId := "daemon-1"
      launchIdentityVersion := 1
      method := .liveSessionTerminated
      networkRevoked := true
      closureCompletedAt := "2026-09-05T15:00:00Z" }
    none { now, evidenceRowId := "row-1" }

def liveCloseMoves : List RecoveryMove :=
  [.request "EXPLICIT_CLOSE" none true
      { now := 2000, recoveryId := "recovery-1", leaseId := "guard-1" },
    .prepareClose "recovery-1" "command-1" 90 { now := 3000, claimToken := "claim-1" },
    closureEvidence 4000]

def liveClosedEpoch : Epoch :=
  arrival (recoveryStep intentHost) liveCloseMoves writeEpoch

def attestMove : RecoveryMove :=
  .finishRecovery "admin-1" "recovery-1"
    { expectedVersion := 3
      idempotencyKey := "key-1"
      outcome := .verified
      note := "checked"
      evidenceRefs := ["ticket-1"] }
    { now := 5000 }

def historicEpoch : Epoch :=
  { writeEpoch with session := { writeEpoch.session with status := .closed } }

theorem resolution_releases_guard :
    ProvenAndSettled intentHost (recoveryStep intentHost attestMove liveClosedEpoch).state := by
  have run := @guards_released_when_settled intentHost writeEpoch liveClosedEpoch _
    (visits_path liveCloseMoves writeEpoch)
  exact run.1 attestMove
    { id := "write-1", rootKey := "shop", mode := .write, quarantined := true,
      recoveryId := some "recovery-1" }
    (by decide) rfl nofun (by decide)

theorem historic_lease_unquarantined :
    Unproven historicEpoch ∧
      ∃ lease ∈ (recoveryStep intentHost (.quarantineSession "LEASE_EXPIRED" 2000)
          historicEpoch).state.leases, lease.mode = .write ∧ lease.quarantined = false :=
  ⟨unproven_of_nil rfl rfl, { id := "write-1", rootKey := "shop", mode := .write },
    by decide, rfl, rfl⟩

def repeatedMoves : List RecoveryMove :=
  [.request "OPERATOR_REQUEST" none false { now := 6000 }, closureEvidence 7000,
    .releaseVerifiedSessionResources 8000]

theorem repeated_moves_keep_locks :
    NoNewLock liveClosedEpoch (arrival (recoveryStep intentHost) repeatedMoves liveClosedEpoch) :=
  (@repeated_recovery_locks_nothing intentHost writeEpoch liveClosedEpoch _ _ _
    (unproven_of_nil rfl rfl) (visits_path liveCloseMoves writeEpoch) (by decide)
    (visits_path repeatedMoves liveClosedEpoch) (by decide) (by decide)).1

def accountEpoch : Epoch :=
  { intentEpoch with
    leases :=
      [{ id := "read-1", rootKey := "shop", mode := .read },
        { id := "account-1", rootKey := "shop", mode := .write, origin := .accountCoordination }] }

def accountClosedEpoch : Epoch :=
  arrival (recoveryStep intentHost) liveCloseMoves accountEpoch

/-- The closure leaves no lease, and the next request locks the environment. -/
theorem operator_request_locks_again :
    Unproven accountEpoch ∧ verified accountClosedEpoch.session = true ∧
      accountClosedEpoch.leases = [] ∧
      (recoveryStep intentHost (.request "OPERATOR_REQUEST" none false
          { now := 6000, leaseId := "guard-2" }) accountClosedEpoch).state.leases =
        [{ id := "guard-2"
           rootKey := "*"
           mode := .write
           quarantined := true
           recoveryId := some "recovery-1"
           origin := .legacyRecovery
           guardReason := some "EXPLICIT_CLOSE" }] :=
  ⟨unproven_of_nil rfl rfl, by decide, by decide, by decide⟩

end Devproof.SessionRecovery
