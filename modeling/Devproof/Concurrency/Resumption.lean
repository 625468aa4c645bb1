import Devproof.Concurrency.AdmissionRuns

/-!
The check a resumed task makes for a replaced account
(`coordinateResumedAccounts`), beside the one made at admission.
-/

namespace Devproof

open SessionRecovery (ExecutionResourceLease LeaseMode)

def leaseKey (lease : SavedLease) : String × String := (lease.sessionId, lease.resourceKey)

structure LeaseTable where
  rows : List SavedLease
  unique : (rows.map leaseKey).Nodup

structure ResumeInput where
  sessionId : String
  execution : Execution
  leaseId : ResourceClaim → String

def createdLease (input : ResumeInput) (claim : ResourceClaim) : SavedLease where
  toExecutionResourceLease := claimedLease (input.leaseId claim) claim
  sessionId := input.sessionId

def isClaimed (input : ResumeInput) (claim : ResourceClaim) (lease : SavedLease) : Bool :=
  leaseKey lease == (input.sessionId, claim.resourceKey)

theorem isClaimed_iff {input : ResumeInput} {claim : ResourceClaim} {lease : SavedLease} :
    isClaimed input claim lease = true ↔ leaseKey lease = (input.sessionId, claim.resourceKey) :=
  beq_iff_eq

def updatedLease (input : ResumeInput) (claim : ResourceClaim) (mode : LeaseMode)
    (lease : SavedLease) : SavedLease :=
  if isClaimed input claim lease then { lease with mode } else lease

theorem leaseKey_updated (input : ResumeInput) (claim : ResourceClaim) (mode : LeaseMode)
    (lease : SavedLease) : leaseKey (updatedLease input claim mode lease) = leaseKey lease := by
  unfold updatedLease
  split
  · rfl
  · rfl

theorem unique_updated {input : ResumeInput} {claim : ResourceClaim} {mode : LeaseMode}
    {rows : List SavedLease} (unique : (rows.map leaseKey).Nodup) :
    ((rows.map (updatedLease input claim mode)).map leaseKey).Nodup := by
  rw [List.map_map]
  have same : leaseKey ∘ updatedLease input claim mode = leaseKey :=
    funext (leaseKey_updated input claim mode)
  rwa [same]

theorem unique_created {input : ResumeInput} {claim : ResourceClaim} {rows : List SavedLease}
    (unique : (rows.map leaseKey).Nodup) (absent : rows.any (isClaimed input claim) = false) :
    ((rows ++ [createdLease input claim]).map leaseKey).Nodup := by
  rw [List.map_append, List.nodup_append]
  refine ⟨unique, List.nodup_singleton _, ?_⟩
  intro key known other created same
  rw [List.map_singleton, List.mem_singleton] at created
  obtain ⟨lease, member, rfl⟩ := List.mem_map.mp known
  rw [List.any_eq_false] at absent
  exact absent lease member (isClaimed_iff.mpr (same.trans created))

def LeaseTable.upsert (input : ResumeInput) (claim : ResourceClaim) (mode : LeaseMode)
    (table : LeaseTable) : LeaseTable :=
  if absent : table.rows.any (isClaimed input claim) = false then
    ⟨table.rows ++ [createdLease input claim], unique_created table.unique absent⟩
  else ⟨table.rows.map (updatedLease input claim mode), unique_updated table.unique⟩

def readOnResume (claims : List ResourceClaim) (lease : ExecutionResourceLease) : Bool :=
  claims.any (·.rootKey == lease.rootKey) || lease.rootKey == "*"

def resumedMode (input : ResumeInput) (leases : List SavedLease) (claim : ResourceClaim) :
    LeaseMode :=
  if leases.any fun lease => isClaimed input claim lease && lease.mode == .write then .write
  else leaseMode claim.mode

def upsertAll (input : ResumeInput) (leases : List SavedLease) (claims : List ResourceClaim)
    (table : LeaseTable) : LeaseTable :=
  claims.foldl (fun table claim => table.upsert input claim (resumedMode input leases claim)) table

def blocksResume (input : ResumeInput) (claims : List ResourceClaim) (lease : SavedLease) : Bool :=
  lease.sessionId != input.sessionId &&
    claims.any fun claim => resourcesConflict claim (storedClaim lease.toExecutionResourceLease)

/-- `coordinateResumedAccounts(tx, input)`: the session of a conflicting lease, if there is one. -/
def coordinateResumedAccounts (deployment : Deployment) (input : ResumeInput)
    (table : LeaseTable) : Except String (Option String × LeaseTable) := do
  let claims ← executionResourceClaims deployment input.execution
  if claims.isEmpty then return (none, table)
  else
    let leases := table.rows.filter fun lease => readOnResume claims lease.toExecutionResourceLease
    match leases.find? (blocksResume input claims) with
    | some conflict => return (some conflict.sessionId, table)
    | none =>
        return (none, upsertAll input leases claims table)

def LeaseTable.Holds (table : LeaseTable) (key : String × String) (mode : LeaseMode) : Prop :=
  ∃ lease ∈ table.rows, leaseKey lease = key ∧ lease.mode = mode

theorem holds_unique {table : LeaseTable} {key : String × String} {first second : LeaseMode}
    (one : table.Holds key first) (two : table.Holds key second) : first = second := by
  obtain ⟨lease, here, same, rfl⟩ := one
  obtain ⟨other, there, same', rfl⟩ := two
  rw [List.inj_on_of_nodup_map table.unique here there (same.trans same'.symm)]

theorem holds_upsert_other {input : ResumeInput} {claim : ResourceClaim} {mode held : LeaseMode}
    {table : LeaseTable} {key : String × String} (other : key ≠ (input.sessionId, claim.resourceKey)) :
    (table.upsert input claim mode).Holds key held ↔ table.Holds key held := by
  have unclaimed : ∀ lease : SavedLease, leaseKey lease = key →
      isClaimed input claim lease = false := by
    intro lease same
    rw [← Bool.not_eq_true, isClaimed_iff, same]
    exact other
  unfold LeaseTable.upsert LeaseTable.Holds
  split
  · constructor
    · rintro ⟨lease, member, same, rfl⟩
      rcases List.mem_append.mp member with known | created
      · exact ⟨lease, known, same, rfl⟩
      · rw [List.mem_singleton.mp created] at same
        exact absurd same.symm other
    · rintro ⟨lease, member, same, rfl⟩
      exact ⟨lease, List.mem_append_left _ member, same, rfl⟩
  · constructor
    · rintro ⟨lease, member, same, rfl⟩
      obtain ⟨before, inside, rfl⟩ := List.mem_map.mp member
      rw [leaseKey_updated] at same
      refine ⟨before, inside, same, ?_⟩
      rw [updatedLease, unclaimed before same]
      rfl
    · rintro ⟨lease, member, same, rfl⟩
      refine ⟨_, List.mem_map_of_mem member, by rw [leaseKey_updated]; exact same, ?_⟩
      rw [updatedLease, unclaimed lease same]
      rfl

theorem holds_upsert_updated {input : ResumeInput} {claim : ResourceClaim} {mode : LeaseMode}
    {table : LeaseTable} (present : table.rows.any (isClaimed input claim) ≠ false) :
    (table.upsert input claim mode).Holds (input.sessionId, claim.resourceKey) mode := by
  rw [LeaseTable.upsert, dif_neg present]
  rw [ne_eq, Bool.not_eq_false, List.any_eq_true] at present
  obtain ⟨lease, member, claimed⟩ := present
  refine ⟨_, List.mem_map_of_mem member, ?_, ?_⟩
  · rw [leaseKey_updated]
    exact isClaimed_iff.mp claimed
  · rw [updatedLease, if_pos claimed]

section Upserts

variable (input : ResumeInput) (leases : List SavedLease)

theorem holds_upsertAll_other {claims : List ResourceClaim} {table : LeaseTable}
    {key : String × String} {held : LeaseMode}
    (other : ∀ claim ∈ claims, key ≠ (input.sessionId, claim.resourceKey)) :
    (upsertAll input leases claims table).Holds key held ↔ table.Holds key held := by
  induction claims generalizing table with
  | nil => rfl
  | cons claim rest ih =>
      rw [upsertAll, List.foldl_cons, ← upsertAll,
        ih fun next member => other next (List.mem_cons_of_mem _ member),
        holds_upsert_other (other claim (List.mem_cons_self ..))]

theorem holds_upsertAll_claimed {claims : List ResourceClaim} {table : LeaseTable}
    {claim : ResourceClaim} (distinct : (claims.map (·.resourceKey)).Nodup)
    (member : claim ∈ claims) {held : LeaseMode}
    (before : table.Holds (input.sessionId, claim.resourceKey) held) :
    (upsertAll input leases claims table).Holds (input.sessionId, claim.resourceKey)
      (resumedMode input leases claim) := by
  induction claims generalizing table with
  | nil => cases member
  | cons first rest ih =>
      obtain ⟨fresh, later⟩ := List.nodup_cons.mp distinct
      rw [upsertAll, List.foldl_cons, ← upsertAll]
      rcases List.mem_cons.mp member with rfl | inside
      · have others : ∀ next ∈ rest,
            (input.sessionId, claim.resourceKey) ≠ (input.sessionId, next.resourceKey) := by
          intro next there same
          exact fresh (List.mem_map.mpr ⟨next, there, (Prod.mk.inj same).2.symm⟩)
        rw [holds_upsertAll_other input leases others]
        apply holds_upsert_updated
        obtain ⟨lease, here, same, -⟩ := before
        rw [ne_eq, Bool.not_eq_false, List.any_eq_true]
        exact ⟨lease, here, isClaimed_iff.mpr same⟩
      · refine ih later inside ((holds_upsert_other ?_).mpr before)
        intro same
        exact fresh (List.mem_map.mpr ⟨claim, inside, (Prod.mk.inj same).2⟩)

end Upserts

/-! The keys of the claims are distinct. -/

theorem keepClaim_distinct {claim : ResourceClaim} {unique : List ResourceClaim} {root : String}
    (rooted : ∀ kept ∈ unique, kept.rootKey = root) (here : claim.rootKey = root)
    (distinct : (unique.map (·.resourceKey)).Nodup) :
    ((keepClaim claim unique).map (·.resourceKey)).Nodup := by
  induction unique with
  | nil => simp [keepClaim]
  | cons head rest ih =>
      obtain ⟨fresh, later⟩ := List.nodup_cons.mp distinct
      simp only [keepClaim, sameClaimKey, Bool.and_eq_true, beq_iff_eq]
      split
      · rename_i same
        have key : (if head.mode = .write then head else claim).resourceKey = head.resourceKey := by
          split
          · rfl
          · exact same.2.symm
        rw [List.map_cons, key]
        exact List.nodup_cons.mpr ⟨fresh, later⟩
      · rename_i unlike
        refine List.nodup_cons.mpr ⟨?_, ih (fun kept member =>
          rooted kept (List.mem_cons_of_mem _ member)) later⟩
        intro member
        obtain ⟨kept, inside, same⟩ := List.mem_map.mp member
        rcases mem_keepClaim inside with rfl | known
        · exact unlike ⟨(rooted head (List.mem_cons_self ..)).trans here.symm, same.symm⟩
        · exact fresh (List.mem_map.mpr ⟨kept, known, same⟩)

theorem uniqueClaims_distinct {claims : List ResourceClaim} {root : String}
    (rooted : ∀ claim ∈ claims, claim.rootKey = root) :
    ((uniqueClaims claims).map (·.resourceKey)).Nodup := by
  have kept : ∀ unique : List ResourceClaim, ∀ claim ∈ claims,
      ((∀ kept ∈ unique, kept.rootKey = root) ∧ (unique.map (·.resourceKey)).Nodup) →
      (∀ kept ∈ keepClaim claim unique, kept.rootKey = root) ∧
        ((keepClaim claim unique).map (·.resourceKey)).Nodup := by
    rintro unique claim member ⟨known, distinct⟩
    refine ⟨fun kept inside => ?_, keepClaim_distinct known (rooted claim member) distinct⟩
    rcases mem_keepClaim inside with rfl | before
    · exact rooted kept member
    · exact known kept before
  have nothing : (∀ kept ∈ ([] : List ResourceClaim), kept.rootKey = root) ∧
      (([] : List ResourceClaim).map (·.resourceKey)).Nodup :=
    ⟨fun _ member => absurd member List.not_mem_nil, List.nodup_nil⟩
  exact (foldl_invariant
    (fun unique : List ResourceClaim =>
      (∀ kept ∈ unique, kept.rootKey = root) ∧ (unique.map (·.resourceKey)).Nodup)
    nothing kept).2

section Deployment

variable {deployment : Deployment}

theorem resourceClaims_rooted {targetUrl : Option String} {value : Option Json} {root : String}
    {claims : List ResourceClaim} (environment : businessEnvironmentKey deployment targetUrl = .ok root)
    (made : resourceClaims deployment targetUrl value = .ok claims) :
    (∀ claim ∈ claims, claim.rootKey = root) ∧ (claims.map (·.resourceKey)).Nodup := by
  rw [resourceClaims, environment] at made
  simp only [bind, Except.bind] at made
  split at made
  · cases made
    simp
  · cases made
    refine ⟨by simp, ?_⟩
    rw [List.map_map]
    have keys : (fun claim : ResourceClaim => claim.resourceKey) ∘ (fun resourceKey =>
        { rootKey := root, resourceKey, mode := if (concurrencyPolicy deployment value).accessMode =
            .readOnly then ClaimMode.read else .write }) = id := rfl
    rw [keys, List.map_id]
    exact (List.mergeSort_perm _ _).nodup_iff.mpr (nodup_uniq _)

theorem assignmentClaims_rooted {root : String} {assignment : AccountAssignment}
    {claim : ResourceClaim} (member : claim ∈ assignmentClaims deployment root assignment) :
    claim.rootKey = root := by
  obtain ⟨account, -, typed⟩ := List.mem_flatMap.mp member
  obtain ⟨type, -, rfl⟩ := List.mem_map.mp typed
  rfl

/-- What the account claims are added to. -/
theorem coordinatedClaims_distinct {execution : Execution} {business claims : List ResourceClaim}
    (single : (business.map (·.resourceKey)).Nodup)
    (rooted : ∀ root, businessEnvironmentKey deployment execution.targetUrl = .ok root →
      ∀ claim ∈ business, claim.rootKey = root)
    (made : (match assignedBindings deployment (object execution.executionPolicy) with
      | none => pure business
      | some bindings => do
          let rootKey ← businessEnvironmentKey deployment execution.targetUrl
          pure (uniqueClaims (business ++
            (boundAccounts deployment (object execution.executionPolicy) bindings).flatMap
              (assignmentClaims deployment rootKey))) : Except String (List ResourceClaim)) =
      .ok claims) : (claims.map (·.resourceKey)).Nodup := by
  split at made
  · cases made
    exact single
  · obtain ⟨root, environment, unique⟩ := bind_ok.mp made
    cases unique
    refine @uniqueClaims_distinct _ root fun claim member => ?_
    rcases List.mem_append.mp member with known | assigned
    · exact rooted root environment claim known
    · obtain ⟨assignment, -, inside⟩ := List.mem_flatMap.mp assigned
      exact assignmentClaims_rooted inside

/-- An execution claims a key once. -/
theorem executionResourceClaims_distinct {execution : Execution} {claims : List ResourceClaim}
    (made : executionResourceClaims deployment execution = .ok claims) :
    (claims.map (·.resourceKey)).Nodup := by
  unfold executionResourceClaims at made
  split at made
  · obtain ⟨business, declared, made⟩ := bind_ok.mp made
    have parts := declared
    rw [resourceClaims] at parts
    obtain ⟨known, environment, -⟩ := bind_ok.mp parts
    refine coordinatedClaims_distinct (resourceClaims_rooted environment declared).2 ?_ made
    intro root same
    exact (resourceClaims_rooted same declared).1
  · rw [pure_bind] at made
    have nothing : (([] : List ResourceClaim).map (·.resourceKey)).Nodup := List.nodup_nil
    exact coordinatedClaims_distinct nothing (fun _ _ _ member =>
      absurd member List.not_mem_nil) made

def isForeign (input : ResumeInput) (lease : SavedLease) : Prop :=
  lease.sessionId ≠ input.sessionId

def countedAtAdmission (deployment : Deployment) (lease : SavedLease) : Bool :=
  businessDataLocksEnabled deployment || lease.origin == .accountCoordination

/-- The lease is under a known root that is not read, and a claim under the wildcard meets it. -/
def missedByRoot (claims : List ResourceClaim) (lease : SavedLease) : Bool :=
  !readOnResume claims lease.toExecutionResourceLease &&
    claims.any fun claim => claim.rootKey == "*" &&
      !(claim.mode == .read && (heldClaim lease.toExecutionResourceLease).mode == .read)

def missedByMode (claims : List ResourceClaim) (lease : SavedLease) : Bool :=
  lease.quarantined && lease.mode == .read && claims.any fun claim => claim.mode == .read &&
    resourcesConflict claim (heldClaim lease.toExecutionResourceLease)

def caughtOnResume (input : ResumeInput) (claims : List ResourceClaim) (table : LeaseTable) : Prop :=
  ∃ lease ∈ table.rows, readOnResume claims lease.toExecutionResourceLease = true ∧
    blocksResume input claims lease = true

def resumesSafely (deployment : Deployment) (input : ResumeInput) (claims : List ResourceClaim)
    (table : LeaseTable) : Prop :=
  caughtOnResume input claims table ∨
  (∀ lease ∈ table.rows, isForeign input lease → countedAtAdmission deployment lease = true →
      missedByRoot claims lease = false ∧ missedByMode claims lease = false) ∧
  ∀ lease ∈ table.rows, ¬isForeign input lease → lease.mode = .write →
    readOnResume claims lease.toExecutionResourceLease = false →
      ∀ claim ∈ claims, claim.resourceKey = lease.resourceKey → claim.mode = .write

/-- A granted resumption is one that admission would let in, a refused one writes nothing, and no
    write of the session becomes a read. -/
structure Coordinated (deployment : Deployment) (input : ResumeInput)
    (claims : List ResourceClaim) (table : LeaseTable) (answer : Option String)
    (after : LeaseTable) : Prop where
  granted : answer = none → ∀ lease ∈ table.rows, isForeign input lease →
    blocksAdmission deployment claims lease.toExecutionResourceLease = false
  refused : answer ≠ none → after = table
  written : ∀ key, key.1 = input.sessionId → table.Holds key .write → after.Holds key .write

/-- Only a quarantined read is judged differently, and only by a reading claim. -/
theorem resourcesConflict_held_of_stored {claim : ResourceClaim} {lease : ExecutionResourceLease}
    (stored : resourcesConflict claim (storedClaim lease) = false)
    (held : resourcesConflict claim (heldClaim lease) = true) :
    lease.quarantined = true ∧ lease.mode = .read ∧ claim.mode = .read := by
  have differ : resourcesConflict claim (heldClaim lease) ≠
      resourcesConflict claim (storedClaim lease) := by
    rw [held, stored]
    decide
  have mode : lease.mode = .read := by
    by_contra writes
    have written : lease.mode = .write := by
      cases mode : lease.mode with
      | read => exact absurd mode writes
      | write => rfl
    rw [heldClaim_of_written fun _ => written] at differ
    exact differ rfl
  refine ⟨?_, mode, ?_⟩
  · by_contra clear
    rw [heldClaim_of_written fun quarantined => absurd quarantined clear] at differ
    exact differ rfl
  · by_contra writes
    apply differ
    simp [resourcesConflict, heldClaim, storedClaim, writes]

theorem resourcesConflict_wildcard {claim other : ResourceClaim} (wildcard : claim.rootKey = "*") :
    resourcesConflict claim other = !(claim.mode == .read && other.mode == .read) := by
  cases both : claim.mode == .read && other.mode == .read <;>
    simp [resourcesConflict, wildcard, both]

theorem readAtAdmission_of_conflict {claims : List ResourceClaim} {lease : SavedLease}
    {claim : ResourceClaim} (counted : countedAtAdmission deployment lease = true)
    (member : claim ∈ claims)
    (conflict : resourcesConflict claim (heldClaim lease.toExecutionResourceLease) = true) :
    readAtAdmission deployment claims lease.toExecutionResourceLease = true := by
  rw [readAtAdmission, Bool.and_eq_true]
  refine ⟨counted, ?_⟩
  by_contra unread
  rw [no_conflict_of_unread (Bool.not_eq_true _ ▸ unread) member] at conflict
  cases conflict

theorem blocksAdmission_iff_missed {claims : List ResourceClaim} {lease : SavedLease}
    (uncaught : ¬(readOnResume claims lease.toExecutionResourceLease = true ∧
      ∃ claim ∈ claims,
        resourcesConflict claim (storedClaim lease.toExecutionResourceLease) = true)) :
    blocksAdmission deployment claims lease.toExecutionResourceLease = true ↔
      countedAtAdmission deployment lease = true ∧
        (missedByRoot claims lease = true ∨ missedByMode claims lease = true) := by
  constructor
  · intro blocks
    rw [blocksAdmission, Bool.and_eq_true, List.any_eq_true] at blocks
    obtain ⟨read, claim, member, conflict⟩ := blocks
    refine ⟨(Bool.and_eq_true _ _ ▸ read).1, ?_⟩
    cases fetched : readOnResume claims lease.toExecutionResourceLease with
    | true =>
        right
        have stored : resourcesConflict claim (storedClaim lease.toExecutionResourceLease) =
            false := by
          by_contra clash
          exact uncaught ⟨fetched, claim, member, by simpa using clash⟩
        obtain ⟨quarantined, mode, reads⟩ := resourcesConflict_held_of_stored stored conflict
        simp only [missedByMode, quarantined, mode, beq_self_eq_true, Bool.and_true, Bool.true_and,
          List.any_eq_true]
        exact ⟨claim, member, by simp [reads, conflict]⟩
    | false =>
        left
        have wildcard : claim.rootKey = "*" := by
          simp only [readOnResume, Bool.or_eq_false_iff, List.any_eq_false, beq_iff_eq] at fetched
          by_contra known
          have rooted : lease.rootKey ≠ "*" := by simpa using fetched.2
          simp [resourcesConflict, heldClaim, known, rooted, fetched.1 claim member] at conflict
        rw [resourcesConflict_wildcard wildcard] at conflict
        simp only [missedByRoot, fetched, Bool.not_false, Bool.true_and, List.any_eq_true]
        exact ⟨claim, member, by rw [wildcard, conflict]; rfl⟩
  · rintro ⟨counted, missed⟩
    have clash : ∃ claim ∈ claims,
        resourcesConflict claim (heldClaim lease.toExecutionResourceLease) = true := by
      rcases missed with root | mode
      · simp only [missedByRoot, Bool.and_eq_true, List.any_eq_true, beq_iff_eq] at root
        obtain ⟨-, claim, member, wildcard, meets⟩ := root
        exact ⟨claim, member, by rw [resourcesConflict_wildcard wildcard]; exact meets⟩
      · simp only [missedByMode, Bool.and_eq_true, List.any_eq_true] at mode
        obtain ⟨-, claim, member, -, conflict⟩ := mode
        exact ⟨claim, member, conflict⟩
    obtain ⟨claim, member, conflict⟩ := clash
    rw [blocksAdmission, Bool.and_eq_true, List.any_eq_true]
    exact ⟨readAtAdmission_of_conflict counted member conflict, claim, member, conflict⟩

theorem written_iff {input : ResumeInput} {claims : List ResourceClaim} {table : LeaseTable}
    (distinct : (claims.map (·.resourceKey)).Nodup) :
    (∀ key, key.1 = input.sessionId → table.Holds key .write →
      (upsertAll input
        (table.rows.filter fun lease => readOnResume claims lease.toExecutionResourceLease)
        claims table).Holds key .write) ↔
    ∀ lease ∈ table.rows, ¬isForeign input lease → lease.mode = .write →
      readOnResume claims lease.toExecutionResourceLease = false →
        ∀ claim ∈ claims, claim.resourceKey = lease.resourceKey → claim.mode = .write := by
  constructor
  · intro written lease member own writes unread claim inside same
    have key : leaseKey lease = (input.sessionId, claim.resourceKey) :=
      Prod.ext (not_not.mp own) same.symm
    have before : table.Holds (input.sessionId, claim.resourceKey) .write :=
      ⟨lease, member, key, writes⟩
    have mode := holds_unique (holds_upsertAll_claimed input _ distinct inside before)
      (written _ rfl before)
    have unknown : ((table.rows.filter fun lease =>
        readOnResume claims lease.toExecutionResourceLease).any fun other =>
          isClaimed input claim other && other.mode == .write) = false := by
      rw [List.any_eq_false]
      intro other found
      obtain ⟨there, read⟩ := List.mem_filter.mp found
      rw [Bool.and_eq_true, isClaimed_iff, not_and]
      intro claimed
      rw [List.inj_on_of_nodup_map table.unique there member (claimed.trans key.symm), unread] at read
      cases read
    rw [resumedMode, unknown, if_neg Bool.false_ne_true] at mode
    cases reads : claim.mode with
    | write => rfl
    | read =>
        rw [reads] at mode
        cases mode
  · intro kept key own before
    obtain ⟨lease, member, same, writes⟩ := before
    by_cases claimed : ∃ claim ∈ claims, key = (input.sessionId, claim.resourceKey)
    · obtain ⟨claim, inside, rfl⟩ := claimed
      have after := holds_upsertAll_claimed input
        (table.rows.filter fun lease => readOnResume claims lease.toExecutionResourceLease)
        distinct inside ⟨lease, member, same, writes⟩
      have mode : resumedMode input (table.rows.filter fun lease =>
          readOnResume claims lease.toExecutionResourceLease) claim = .write := by
        rw [resumedMode]
        split
        · rfl
        · rename_i unknown
          have unread : readOnResume claims lease.toExecutionResourceLease = false := by
            by_contra read
            refine unknown (List.any_eq_true.mpr ⟨lease, List.mem_filter.mpr ⟨member, ?_⟩, ?_⟩)
            · simpa using read
            · rw [Bool.and_eq_true]
              exact ⟨isClaimed_iff.mpr same, by rw [writes]; rfl⟩
          have session : ¬isForeign input lease := not_not.mpr (Prod.mk.inj same).1
          rw [kept lease member session writes unread claim inside (Prod.mk.inj same).2.symm]
          rfl
      rwa [mode] at after
    · push Not at claimed
      exact (holds_upsertAll_other input _ claimed).mpr ⟨lease, member, same, writes⟩

/-- The check on resumption does what admission would do where `resumesSafely` holds, and nowhere
    else. -/
theorem coordinateResumedAccounts_agrees (input : ResumeInput) (table : LeaseTable)
    {claims : List ResourceClaim}
    (made : executionResourceClaims deployment input.execution = .ok claims) :
    ∃ answer after, coordinateResumedAccounts deployment input table = .ok (answer, after) ∧
      (Coordinated deployment input claims table answer after ↔
        resumesSafely deployment input claims table) := by
  simp only [coordinateResumedAccounts, made, bind, Except.bind]
  by_cases nothing : claims = []
  · subst nothing
    refine ⟨none, table, rfl, iff_of_true ⟨?_, ?_, ?_⟩ (Or.inr ⟨?_, ?_⟩)⟩
    · simp [blocksAdmission]
    · exact fun refused => absurd rfl refused
    · exact fun _ _ before => before
    · simp [missedByRoot, missedByMode]
    · exact fun _ _ _ _ _ _ inside => absurd inside List.not_mem_nil
  · rw [if_neg (by simpa using nothing)]
    cases found : (table.rows.filter fun lease =>
        readOnResume claims lease.toExecutionResourceLease).find? (blocksResume input claims) with
    | some conflict =>
        have caught : caughtOnResume input claims table := by
          obtain ⟨member, read⟩ := List.mem_filter.mp (List.mem_of_find?_eq_some found)
          exact ⟨conflict, member, read, List.find?_some found⟩
        exact ⟨some conflict.sessionId, table, rfl, iff_of_true
          ⟨by simp, fun _ => rfl, fun _ _ before => before⟩ (Or.inl caught)⟩
    | none =>
        refine ⟨none, _, rfl, ?_⟩
        have free : ¬caughtOnResume input claims table := by
          rintro ⟨lease, member, read, blocks⟩
          exact List.find?_eq_none.mp found lease (List.mem_filter.mpr ⟨member, read⟩) blocks
        have missed : ∀ lease ∈ table.rows, isForeign input lease →
            (blocksAdmission deployment claims lease.toExecutionResourceLease = false ↔
              (countedAtAdmission deployment lease = true →
                missedByRoot claims lease = false ∧ missedByMode claims lease = false)) := by
          intro lease member foreign
          have uncaught : ¬(readOnResume claims lease.toExecutionResourceLease = true ∧
              ∃ claim ∈ claims,
                resourcesConflict claim (storedClaim lease.toExecutionResourceLease) = true) := by
            rintro ⟨read, clash⟩
            refine free ⟨lease, member, read, ?_⟩
            rw [blocksResume, Bool.and_eq_true, bne_iff_ne, List.any_eq_true]
            exact ⟨foreign, clash⟩
          have iff := @blocksAdmission_iff_missed deployment _ _ uncaught
          rw [← Bool.not_eq_true, iff]
          simp only [← Bool.not_eq_true]
          tauto
        have written := @written_iff input _ table (executionResourceClaims_distinct made)
        constructor
        · intro agreed
          exact Or.inr ⟨fun lease member foreign =>
            (missed lease member foreign).mp (agreed.granted rfl lease member foreign),
            written.mp agreed.written⟩
        · intro safe
          obtain ⟨judged, kept⟩ := safe.resolve_left free
          exact ⟨fun _ lease member foreign =>
            (missed lease member foreign).mpr (judged lease member foreign),
            fun refused => absurd rfl refused, written.mpr kept⟩

end Deployment

def otherLease : SavedLease where
  id := "other"
  rootKey := "origin:https://app.test"
  mode := .write
  sessionId := "second"

def otherTable : LeaseTable where
  rows := [otherLease]
  unique := by decide

def resumeInput (targetUrl : Option String) : ResumeInput where
  sessionId := "first"
  execution := { appExecution none (subject "ann" "MAPPING") with targetUrl }
  leaseId := fun claim => "first" ++ claim.resourceKey

theorem coordinateResumedAccounts_agrees_office :
    ∃ claims answer after,
      executionResourceClaims (office none) (resumeInput (some "https://app.test")).execution =
        .ok claims ∧
      coordinateResumedAccounts (office none) (resumeInput (some "https://app.test")) otherTable =
        .ok (answer, after) ∧
      (Coordinated (office none) (resumeInput (some "https://app.test")) claims otherTable answer
          after ↔
        resumesSafely (office none) (resumeInput (some "https://app.test")) claims otherTable) := by
  have made : ∃ claims, executionResourceClaims (office none)
      (resumeInput (some "https://app.test")).execution = .ok claims := ⟨_, rfl⟩
  obtain ⟨claims, made⟩ := made
  obtain ⟨answer, after, result, agrees⟩ :=
    coordinateResumedAccounts_agrees (resumeInput (some "https://app.test")) otherTable made
  exact ⟨claims, answer, after, made, result, agrees⟩

/-- Without a target the account is granted beside a write that admission would wait for. -/
theorem coordinateResumedAccounts_overlooks_root :
    ∃ claims after,
      executionResourceClaims (office none) (resumeInput none).execution = .ok claims ∧
      coordinateResumedAccounts (office none) (resumeInput none) otherTable = .ok (none, after) ∧
      blocksAdmission (office none) claims otherLease.toExecutionResourceLease = true ∧
      ¬Coordinated (office none) (resumeInput none) claims otherTable none after := by
  have made : ∃ claims, executionResourceClaims (office none) (resumeInput none).execution =
      .ok claims ∧ blocksAdmission (office none) claims otherLease.toExecutionResourceLease = true :=
    ⟨_, rfl, by decide +kernel⟩
  have answer : (coordinateResumedAccounts (office none) (resumeInput none)
      otherTable).toOption.map Prod.fst = some none := by decide +kernel
  obtain ⟨claims, made, blocks⟩ := made
  cases granted : coordinateResumedAccounts (office none) (resumeInput none) otherTable with
  | error message =>
      rw [granted] at answer
      cases answer
  | ok result =>
      rw [granted] at answer
      obtain ⟨found, after⟩ := result
      cases answer
      refine ⟨claims, after, made, rfl, blocks, fun agreed => ?_⟩
      have foreign : isForeign (resumeInput none) otherLease := (by decide : "second" ≠ "first")
      have clear := agreed.granted rfl otherLease (List.mem_singleton_self _) foreign
      rw [blocks] at clear
      cases clear

end Devproof
