import Mathlib.Data.List.Pairwise
import Devproof.Concurrency.Admission
import Devproof.Concurrency.Exclusion

/-!
What sessions hold over whole runs of admissions, quarantines and releases: no
two of them have leases that conflict.
-/

namespace Devproof

open SessionRecovery (ExecutionResourceLease Epoch)

/-! A lease and the claim it was made from. -/

theorem heldClaim_of_written {lease : ExecutionResourceLease}
    (written : lease.quarantined = true → lease.mode = .write) :
    heldClaim lease = storedClaim lease := by
  unfold heldClaim storedClaim
  cases hidden : lease.quarantined with
  | false => rfl
  | true =>
      rw [written hidden]
      rfl

theorem resourcesConflict_claimedLease (left claim : ResourceClaim) (id : String) :
    resourcesConflict left (heldClaim (claimedLease id claim)) = resourcesConflict left claim := by
  have mode : claimMode (leaseMode claim.mode) = claim.mode := by cases claim.mode <;> rfl
  simp [resourcesConflict, heldClaim, claimedLease, mode]

theorem no_conflict_of_unread {claims : List ResourceClaim} {lease : ExecutionResourceLease}
    (unread : (claims.any (·.rootKey == "*") || lease.rootKey == "*" ||
      claims.any (·.rootKey == lease.rootKey)) = false) {claim : ResourceClaim}
    (member : claim ∈ claims) : resourcesConflict claim (heldClaim lease) = false := by
  simp only [Bool.or_eq_false_iff, List.any_eq_false, beq_iff_eq] at unread
  obtain ⟨⟨known, elsewhere⟩, apart⟩ := unread
  have rooted : lease.rootKey ≠ "*" := by simpa using elsewhere
  simp [resourcesConflict, heldClaim, known claim member, apart claim member, rooted]

section Deployment

variable {deployment : Deployment}

theorem executionResourceClaims_coordinated {execution : Execution} {claims : List ResourceClaim}
    (unlocked : businessDataLocksEnabled deployment = false)
    (made : executionResourceClaims deployment execution = .ok claims) {claim : ResourceClaim}
    (member : claim ∈ claims) : claim.origin = some "ACCOUNT_COORDINATION" := by
  simp only [executionResourceClaims, unlocked, Bool.false_eq_true, if_false, pure_bind] at made
  split at made
  · cases made
    cases member
  · obtain ⟨root, -, unique⟩ := bind_ok.mp made
    cases unique
    have inside := (mem_foldl_keepClaim member).resolve_left List.not_mem_nil
    rw [List.nil_append] at inside
    obtain ⟨assignment, -, assigned⟩ := List.mem_flatMap.mp inside
    obtain ⟨account, -, typed⟩ := List.mem_flatMap.mp assigned
    obtain ⟨type, -, rfl⟩ := List.mem_map.mp typed
    rfl

theorem mapError_ok {claims : Except String (List ResourceClaim)} {result : List ResourceClaim}
    (made : claimsOrFail claims = .ok result) : claims = .ok result := by
  cases claims with
  | error message => cases made
  | ok value => exact congrArg Except.ok (Except.ok.inj made)

structure Admitted (deployment : Deployment) (request : AdmissionRequest) (sessions : List Epoch)
    (claims : List ResourceClaim) : Prop where
  claimed : claims = [] ∨ executionResourceClaims deployment request.execution = .ok claims
  unblocked : ∀ holder ∈ sessions, ∀ lease ∈ holder.leases,
    blocksAdmission deployment claims lease = false
  fresh : ∀ holder ∈ sessions, holder.session.id ≠ request.session.id

theorem checkLeases_ok {claims : List ResourceClaim} {leases : List ExecutionResourceLease}
    {result : Unit} (passed : checkLeases deployment claims leases = .ok result) :
    ∀ lease ∈ leases, blocksAdmission deployment claims lease = false := by
  unfold checkLeases at passed
  split at passed
  · rename_i clear
    intro lease member
    simpa using List.find?_eq_none.mp clear lease member
  · split at passed
    · cases passed
    · cases passed

theorem allocateSession_ok {request : AdmissionRequest} {sessions admitted : List Epoch}
    (accepted : allocateSession deployment request sessions = .ok admitted) :
    ∃ claims, Admitted deployment request sessions claims ∧
      admitted = sessions ++
        [{ session := request.session
           leases := claims.map fun claim => claimedLease (request.leaseId claim) claim
           outside := request.outside }] := by
  simp only [allocateSession, bind_ok, throwIf_ok, pure, Except.pure, Except.ok.injEq] at accepted
  obtain ⟨_, -, claims, made, _, checked, _, -, _, -, _, -, _, fresh, _, -, rfl⟩ := accepted
  refine ⟨claims, ⟨?_, ?_, ?_⟩, rfl⟩
  · unfold admissionClaims at made
    split at made
    · exact Or.inl (Except.ok.inj made).symm
    · exact Or.inr (mapError_ok made)
  · intro holder member lease held
    cases claims with
    | nil => simp [blocksAdmission]
    | cons first rest =>
        exact checkLeases_ok checked lease (List.mem_flatMap.mpr ⟨holder, member, held⟩)
  · intro holder member same
    rw [List.any_eq_false] at fresh
    exact fresh holder member (beq_iff_eq.mpr same)

structure Exclusive (deployment : Deployment) (sessions : List Epoch) : Prop where
  distinct : sessions.Pairwise fun first second => first.session.id ≠ second.session.id
  /-- Only writes are quarantined, so judging them as written changes nothing. -/
  quarantined : ∀ holder ∈ sessions, ∀ lease ∈ holder.leases,
    lease.quarantined = true → lease.mode = .write
  /-- With the data locks off, the leases that admission leaves out do not exist. -/
  coordinated : businessDataLocksEnabled deployment = false → ∀ holder ∈ sessions,
    ∀ lease ∈ holder.leases, lease.origin = .accountCoordination
  apart : sessions.Pairwise fun first second => ∀ lease ∈ first.leases, ∀ other ∈ second.leases,
    resourcesConflict (heldClaim lease) (heldClaim other) = false

structure Inherited (before after : Epoch) : Prop where
  same : after.session.id = before.session.id
  leases : ∀ lease ∈ after.leases, ∃ old ∈ before.leases, storedClaim lease = storedClaim old ∧
    lease.origin = old.origin ∧ lease.mode = old.mode ∧
    (lease.quarantined = true → old.quarantined = true ∨ old.mode = .write)

theorem Inherited.refl (epoch : Epoch) : Inherited epoch epoch :=
  ⟨rfl, fun lease member => ⟨lease, member, rfl, rfl, rfl, Or.inl⟩⟩

theorem exclusive_onSession {sessions : List Epoch} (exclusive : Exclusive deployment sessions)
    {sessionId : String} {change : Epoch → Epoch} (kept : ∀ epoch, Inherited epoch (change epoch)) :
    Exclusive deployment (onSession sessionId change sessions) := by
  have step : ∀ epoch : Epoch,
      Inherited epoch (if epoch.session.id = sessionId then change epoch else epoch) := by
    intro epoch
    split
    · exact kept epoch
    · exact Inherited.refl epoch
  have written : ∀ holder ∈ sessions, ∀ lease ∈
      (if holder.session.id = sessionId then change holder else holder).leases,
      lease.quarantined = true → lease.mode = .write := by
    intro holder member lease held quarantined
    obtain ⟨old, inside, -, -, mode, before⟩ := (step holder).leases lease held
    rw [mode]
    exact (before quarantined).elim (exclusive.quarantined holder member old inside) id
  constructor
  · refine List.pairwise_map.mpr (exclusive.distinct.imp fun apart => ?_)
    rw [(step _).same, (step _).same]
    exact apart
  · intro holder member
    obtain ⟨before, inside, rfl⟩ := List.mem_map.mp member
    exact written before inside
  · intro unlocked holder member lease held
    obtain ⟨before, inside, rfl⟩ := List.mem_map.mp member
    obtain ⟨old, was, -, origin, -⟩ := (step before).leases lease held
    rw [origin]
    exact exclusive.coordinated unlocked before inside old was
  · refine List.pairwise_map.mpr (exclusive.apart.imp_of_mem ?_)
    intro first second here there apart lease held other held'
    obtain ⟨old, was, claim, -, -, -⟩ := (step first).leases lease held
    obtain ⟨old', was', claim', -, -, -⟩ := (step second).leases other held'
    rw [heldClaim_of_written (written first here lease held),
      heldClaim_of_written (written second there other held'), claim, claim',
      ← heldClaim_of_written (exclusive.quarantined first here old was),
      ← heldClaim_of_written (exclusive.quarantined second there old' was')]
    exact apart old was old' was'

theorem exclusive_allocateSession {request : AdmissionRequest} {sessions admitted : List Epoch}
    (exclusive : Exclusive deployment sessions)
    (accepted : allocateSession deployment request sessions = .ok admitted) :
    Exclusive deployment admitted := by
  obtain ⟨claims, ⟨claimed, unblocked, fresh⟩, rfl⟩ := allocateSession_ok accepted
  have coordinated : businessDataLocksEnabled deployment = false → ∀ claim ∈ claims,
      claim.origin = some "ACCOUNT_COORDINATION" := by
    intro unlocked claim member
    rcases claimed with rfl | made
    · cases member
    · exact executionResourceClaims_coordinated unlocked made member
  constructor
  · refine List.pairwise_append.mpr ⟨exclusive.distinct, List.pairwise_singleton _ _, ?_⟩
    intro holder member last here
    rw [List.mem_singleton.mp here]
    exact fresh holder member
  · intro holder member
    rcases List.mem_append.mp member with early | last
    · exact exclusive.quarantined holder early
    · rw [List.mem_singleton.mp last]
      intro lease held
      obtain ⟨claim, -, rfl⟩ := List.mem_map.mp held
      exact fun quarantined => absurd quarantined Bool.false_ne_true
  · intro unlocked holder member
    rcases List.mem_append.mp member with early | last
    · exact exclusive.coordinated unlocked holder early
    · rw [List.mem_singleton.mp last]
      intro lease held
      obtain ⟨claim, inside, rfl⟩ := List.mem_map.mp held
      simp [claimedLease, leaseOrigin, coordinated unlocked claim inside]
  · refine List.pairwise_append.mpr ⟨exclusive.apart, List.pairwise_singleton _ _, ?_⟩
    intro holder member last here lease held other granted
    rw [List.mem_singleton.mp here] at granted
    obtain ⟨claim, inside, rfl⟩ := List.mem_map.mp granted
    rw [resourcesConflict_claimedLease, resourcesConflict_comm]
    have clear := unblocked holder member lease held
    rw [blocksAdmission, Bool.and_eq_false_iff] at clear
    rcases clear with unread | free
    · rw [readAtAdmission, Bool.and_eq_false_iff] at unread
      rcases unread with overlooked | elsewhere
      · -- with the locks off, every lease was granted for an account
        rw [Bool.or_eq_false_iff] at overlooked
        have origin := exclusive.coordinated overlooked.1 holder member lease held
        rw [origin] at overlooked
        cases overlooked.2
      · exact no_conflict_of_unread elsewhere inside
    · rw [List.any_eq_false] at free
      simpa using free claim inside

theorem inherited_quarantineWrites {leases : List ExecutionResourceLease} {lease : ExecutionResourceLease}
    (member : lease ∈ SessionRecovery.quarantineWrites leases) :
    ∃ old ∈ leases, storedClaim lease = storedClaim old ∧ lease.origin = old.origin ∧
      lease.mode = old.mode ∧ (lease.quarantined = true → old.quarantined = true ∨ old.mode = .write) := by
  obtain ⟨old, inside, rfl⟩ := List.mem_map.mp member
  refine ⟨old, inside, ?_⟩
  split
  · rename_i writes
    exact ⟨rfl, rfl, rfl, fun _ => Or.inr writes⟩
  · exact ⟨rfl, rfl, rfl, Or.inl⟩

theorem inherited_quarantineSession (code : String) (now : Int) (epoch : Epoch) :
    Inherited epoch (SessionRecovery.quarantineSession code now epoch).1 := by
  unfold SessionRecovery.quarantineSession
  split
  · exact ⟨rfl, fun lease member => inherited_quarantineWrites member⟩
  · exact Inherited.refl epoch

theorem inherited_release (host : Host) (now : Int) (epoch : Epoch) :
    Inherited epoch (SessionRecovery.releaseVerifiedSessionResources host now epoch).1 := by
  unfold SessionRecovery.releaseVerifiedSessionResources
  split
  · exact Inherited.refl epoch
  · refine ⟨rfl, fun lease member => ?_⟩
    simp only [SessionRecovery.retainedLeases] at member
    split at member
    · cases member
    · obtain ⟨old, inside, same⟩ := inherited_quarantineWrites (List.mem_filter.mp member).1
      exact ⟨old, (List.mem_filter.mp inside).1, same⟩

theorem inherited_elsewhere (rows epoch : Epoch) : Inherited epoch (changedElsewhere rows epoch) :=
  ⟨rfl, fun lease member => ⟨lease, member, rfl, rfl, rfl, Or.inl⟩⟩

theorem exclusive_step {sessions : List Epoch} (exclusive : Exclusive deployment sessions)
    (move : LeaseMove) : Exclusive deployment (leaseStep deployment move sessions).state := by
  cases move with
  | allocateSession request =>
      simp only [leaseStep]
      split
      · rename_i admitted accepted
        exact exclusive_allocateSession exclusive accepted
      · exact exclusive
  | quarantineSession sessionId code now =>
      exact exclusive_onSession exclusive (inherited_quarantineSession code now)
  | releaseVerifiedSessionResources sessionId now =>
      exact exclusive_onSession exclusive (inherited_release deployment.host now)
  | elsewhere sessionId rows => exact exclusive_onSession exclusive (inherited_elsewhere rows)

theorem exclusive_run (moves : List LeaseMove) {sessions : List Epoch}
    (exclusive : Exclusive deployment sessions) :
    Exclusive deployment (arrival (leaseStep deployment) moves sessions) :=
  foldl_invariant (Exclusive deployment) exclusive fun _ move _ held => exclusive_step held move

theorem exclusive_nil : Exclusive deployment [] := by
  constructor <;> simp

/-- In every run from the empty table, leases of different sessions do not conflict, neither as
    they are saved nor as admission judges them. -/
theorem leases_never_conflict (deployment : Deployment) (moves : List LeaseMove)
    {first second : Epoch}
    (here : first ∈ arrival (leaseStep deployment) moves [])
    (there : second ∈ arrival (leaseStep deployment) moves [])
    (apart : first.session.id ≠ second.session.id) :
    ∀ lease ∈ first.leases, ∀ other ∈ second.leases,
      resourcesConflict (storedClaim lease) (storedClaim other) = false ∧
        resourcesConflict (heldClaim lease) (heldClaim other) = false := by
  have exclusive := exclusive_run moves (@exclusive_nil deployment)
  intro lease held other held'
  have judged : resourcesConflict (heldClaim lease) (heldClaim other) = false := by
    have symmetric : Std.Symm fun first second : Epoch => ∀ lease ∈ first.leases,
        ∀ other ∈ second.leases, resourcesConflict (heldClaim lease) (heldClaim other) = false :=
      ⟨fun _ _ clear lease member other member' => by
        rw [resourcesConflict_comm]
        exact clear other member' lease member⟩
    have unlike : first ≠ second := fun same => apart (congrArg (·.session.id) same)
    exact exclusive.apart.forall here there unlike lease held other held'
  refine ⟨?_, judged⟩
  rwa [heldClaim_of_written (exclusive.quarantined first here lease held),
    heldClaim_of_written (exclusive.quarantined second there other held')] at judged

end Deployment

def officeRequest (sessionId account : String) : AdmissionRequest where
  session := { id := sessionId, runtimeId := "runtime", fencingToken := 1, leaseToken := sessionId,
               leaseExpiresAt := 0 }
  leaseId := fun claim => sessionId ++ claim.resourceKey
  execution := appExecution none (subject account "MAPPING")

def officeRun : List LeaseMove :=
  [.allocateSession (officeRequest "first" "ann"), .allocateSession (officeRequest "second" "bo"),
    .quarantineSession "first" "RUNTIME_LOST" 0]

theorem leases_never_conflict_office :
    ∃ first ∈ arrival (leaseStep (office (some "false"))) officeRun [],
      ∃ second ∈ arrival (leaseStep (office (some "false"))) officeRun [],
        (first.session.id = "first" ∧ first.leases.map (·.quarantined) = [true]) ∧
        (second.session.id = "second" ∧ second.leases.map (·.quarantined) = [false]) ∧
        ∀ lease ∈ first.leases, ∀ other ∈ second.leases,
          resourcesConflict (storedClaim lease) (storedClaim other) = false ∧
            resourcesConflict (heldClaim lease) (heldClaim other) = false := by
  have held : (arrival (leaseStep (office (some "false"))) officeRun []).map
      (fun holder => (holder.session.id, holder.leases.map (·.quarantined))) =
        [("first", [true]), ("second", [false])] := by decide +kernel
  have found : ∀ entry ∈ [("first", [true]), ("second", [false])],
      ∃ holder ∈ arrival (leaseStep (office (some "false"))) officeRun [],
        (holder.session.id, holder.leases.map (·.quarantined)) = entry := by
    rw [← held]
    exact fun entry member => List.mem_map.mp member
  obtain ⟨first, here, one⟩ := found ("first", [true]) (by simp)
  obtain ⟨second, there, two⟩ := found ("second", [false]) (by simp)
  refine ⟨first, here, second, there, Prod.mk.inj one, Prod.mk.inj two, ?_⟩
  refine leases_never_conflict (office (some "false")) officeRun here there ?_
  rw [(Prod.mk.inj one).1, (Prod.mk.inj two).1]
  decide

end Devproof
