import Devproof.Recovery.Drains
import Mathlib.Data.List.Induction
import Mathlib.Data.List.Nodup
import Mathlib.Data.List.Range

/-!
What every run of drains keeps: a Runtime in a drain takes no work, its drains are made and
completed one after the other, and it comes back only through its attested drain, a used ticket
of an administrator and closed sessions.
-/

namespace Devproof.RuntimeDrains

open SessionRecovery (RecoveryError demand demand_ok)

variable {digests : Digests} {db next : Database}

def ticketKey (token : BrowserRuntimePairingToken) : Option (String × Nat) :=
  token.resume.map fun scope => (scope.drainId, scope.generation)

def ticketKeys (db : Database) : List (String × Nat) :=
  db.tokens.filterMap ticketKey

def Released (digests : Digests) (moment : Moment) : Prop :=
  (∀ session ∈ moment.inventory.sessions, closed digests moment session = true) ∧
    moment.inventory.slots = 0 ∧ moment.inventory.leases = 0 ∧
    moment.inventory.recoveryPermits = 0

theorem assertResumeInventory_ok {moment : Moment} {result : Unit} :
    assertResumeInventory digests moment = .ok result ↔ Released digests moment := by
  simp [assertResumeInventory, Released, bind_ok, and_assoc]

theorem assertResumeScope_ok {runtime : BrowserRuntime} {drain : RuntimeDrainAttestation}
    {result : Unit} :
    assertResumeScope runtime drain = .ok result ↔ resumable runtime drain = true := by
  simp [assertResumeScope]

structure Resumable (runtime : BrowserRuntime) (drain : RuntimeDrainAttestation) : Prop where
  drained : runtime.drainState = .attested ∨ runtime.drainState = .resuming
  attested : drain.state = .attested
  unresumed : drain.resumedAt = none
  current : runtime.drainGeneration = drain.drainGeneration
  host : runtime.hostInstanceId = drain.hostInstanceId

theorem resumable_fits {runtime : BrowserRuntime} {drain : RuntimeDrainAttestation}
    (fits : resumable runtime drain = true) : Resumable runtime drain := by
  simp only [resumable, Bool.and_eq_true, Bool.or_eq_true, beq_iff_eq, Bool.not_eq_true',
    Option.isNone_iff_eq_none] at fits
  obtain ⟨⟨⟨⟨⟨⟨⟨⟨⟨⟨⟨-, drained⟩, -⟩, -⟩, attested⟩, -⟩, unresumed⟩, current⟩, -⟩, -⟩, host⟩, -⟩ :=
    fits
  exact ⟨drained, attested, unresumed, current, host⟩

/-- The drain is there, and the ticket of its latest resume generation that an active
    administrator issued was used. -/
def Ticketed (db : Database) (moment : Moment) (drain : RuntimeDrainAttestation) : Prop :=
  ∃ token ∈ db.tokens, token.usedAt.isSome = true ∧ ∃ scope, token.resume = some scope ∧
    scope.drainId = drain.id ∧ scope.generation = drain.resumeGeneration ∧
    operator moment scope.requestedBy = true

/-- The moves that update the current drain: what becomes of it, the state that the Runtime is left
    in, and the tickets that are issued. -/
inductive Updates (digests : Digests) (db : Database) (drain : RuntimeDrainAttestation) :
    Move → (RuntimeDrainAttestation → RuntimeDrainAttestation) → DrainState →
      List (String × Nat) → Prop
  | attested {current : AuthContext} {input : AttestInput}
      {closures : List FrozenSession → Except RecoveryError Unit} {moment : Moment}
      (frozen : drain.state = .frozen) (state : db.runtime.drainState = .frozen) :
      Updates digests db drain (.attest current drain.id input closures moment)
        (RuntimeDrains.attested digests current.userId input moment.now) .attested []
  | reissued {current : AuthContext} {inputDigest : String} {preserved : Bool} {moment : Moment}
      {connection : Option Nat} (scope : Resumable db.runtime drain) :
      Updates digests db drain (.resumeToken current drain.id inputDigest preserved moment)
        (fun row =>
          { row with
            resumeGeneration := drain.resumeGeneration + 1
            resumeConnectionGeneration := connection })
        .attested [(drain.id, drain.resumeGeneration + 1)]
  | paired {input : RuntimePairInput} {moment : Moment} {connection : Option Nat}
      (scope : Resumable db.runtime drain) :
      Updates digests db drain (.pair input moment)
        (fun row => { row with resumeConnectionGeneration := connection }) .resuming []
  | resumed {seen : DrainState} {hello : Hello} {moment : Moment}
      (scope : Resumable db.runtime drain) (released : Released digests moment)
      (ticketed : Ticketed db moment drain) (host : hello.hostInstanceId = drain.hostInstanceId)
      (daemon : hello.daemonInstanceId ≠ db.runtime.daemonInstanceId) :
      Updates digests db drain (.handshake seen hello moment)
        (fun row => { row with resumedAt := some moment.now }) .none []

inductive Change (digests : Digests) (db : Database) : Move → Database → Prop
  /-- The drain of the Runtime stays, and only a Runtime without one is enabled. -/
  | quiet {move : Move} {next : Database} (drains : next.drains = db.drains)
      (state : next.runtime.drainState = db.runtime.drainState)
      (generation : next.runtime.drainGeneration = db.runtime.drainGeneration)
      (enabled : next.runtime.enabled = true → db.runtime.enabled = true ∨
        db.runtime.drainState = .none)
      (tickets : ticketKeys next = ticketKeys db) : Change digests db move next
  | froze {current : AuthContext} {inputDigest : String} {note : Option String} {moment : Moment}
      {row : RuntimeDrainAttestation} {next : Database}
      (thawed : ∀ drain ∈ db.drains, drain.state ≠ .frozen)
      (fresh : ∀ drain ∈ db.drains, drain.id ≠ row.id)
      (state : row.state = .frozen) (unresumed : row.resumedAt = none)
      (generation : row.drainGeneration = db.runtime.drainGeneration + 1)
      (drains : next.drains = db.drains ++ [row])
      (tokens : next.tokens = db.tokens)
      (frozen : next.runtime.drainState = .frozen) (disabled : next.runtime.enabled = false)
      (counted : next.runtime.drainGeneration = db.runtime.drainGeneration + 1) :
      Change digests db (.freeze current inputDigest note moment) next
  | updated {move : Move} {drain : RuntimeDrainAttestation}
      {update : RuntimeDrainAttestation → RuntimeDrainAttestation} {state : DrainState}
      {issued : List (String × Nat)} {next : Database} (member : drain ∈ db.drains)
      (updates : Updates digests db drain move update state issued)
      (current : db.runtime.drainGeneration = drain.drainGeneration)
      (drains : next.drains = (db.updateDrain drain.id update).drains)
      (left : next.runtime.drainState = state)
      (enabled : next.runtime.enabled = true → db.runtime.enabled = true ∨ state = .none)
      (generation : next.runtime.drainGeneration = db.runtime.drainGeneration)
      (tickets : ticketKeys next = ticketKeys db ++ issued) : Change digests db move next

theorem Change.same (move : Move) : Change digests db move db :=
  .quiet rfl rfl rfl .inl rfl

theorem drainOf_mem {teamId drainId : String} {drain : RuntimeDrainAttestation}
    (found : db.drainOf teamId drainId = some drain) : drain ∈ db.drains ∧ drain.id = drainId := by
  have named := List.find?_some found
  simp only [Bool.and_eq_true, beq_iff_eq] at named
  exact ⟨List.mem_of_find?_eq_some found, named.1⟩

theorem ownDrain_mem {teamId drainId : String} {drain : RuntimeDrainAttestation}
    (found : db.ownDrain teamId drainId = some drain) : drain ∈ db.drains ∧ drain.id = drainId := by
  unfold Database.ownDrain at found
  split at found
  · exact drainOf_mem found
  · cases found

theorem ticketKeys_updateTokens (db : Database) (chosen : BrowserRuntimePairingToken → Bool)
    (update : BrowserRuntimePairingToken → BrowserRuntimePairingToken)
    (kept : ∀ token, (update token).resume = token.resume) :
    ticketKeys (db.updateTokens chosen update) = ticketKeys db := by
  simp only [ticketKeys, Database.updateTokens, List.filterMap_map]
  refine List.filterMap_congr fun token _ => ?_
  simp only [Function.comp_apply, ticketKey]
  split
  · rw [kept]
  · rfl

theorem freeze_change {current : AuthContext} {inputDigest : String} {note : Option String}
    {moment : Moment} {row : RuntimeDrainAttestation}
    (done : freeze digests current inputDigest note moment db = .ok (next, row)) :
    Change digests db (.freeze current inputDigest note moment) next := by
  simp only [freeze, bind_ok] at done
  obtain ⟨_, _, _, _, _, _, _, _, done⟩ := done
  split at done
  next existing found =>
    simp only [bind_ok, pure, Except.pure, Except.ok.injEq, Prod.mk.injEq] at done
    obtain ⟨_, _, rfl, -⟩ := done
    exact .same _
  next found =>
    simp only [bind_ok, pure, Except.pure, Except.ok.injEq, Prod.mk.injEq, demand_ok,
      Bool.not_eq_true', List.any_eq_false, beq_iff_eq] at done
    obtain ⟨_, _, _, fresh, rfl, rfl⟩ := done
    refine .froze ?_ (fun drain member same => fresh drain member same) rfl rfl rfl rfl rfl rfl rfl
      rfl
    intro drain member frozen
    have kept : drain ∈ db.drains.filter fun drain => drain.state == .frozen :=
      List.mem_filter.mpr ⟨member, beq_iff_eq.mpr frozen⟩
    rw [List.getLast?_eq_none_iff.mp found] at kept
    cases kept

theorem attest_change {current : AuthContext} {drainId : String} {input : AttestInput}
    {closures : List FrozenSession → Except RecoveryError Unit} {moment : Moment}
    {row : RuntimeDrainAttestation}
    (done : attest digests current drainId input closures moment db = .ok (next, row)) :
    Change digests db (.attest current drainId input closures moment) next := by
  simp only [attest, bind_ok] at done
  obtain ⟨_, _, _, _, done⟩ := done
  split at done
  next => simp at done
  next drain found =>
    obtain ⟨member, rfl⟩ := ownDrain_mem found
    split at done
    next =>
      simp only [bind_ok, pure, Except.pure, Except.ok.injEq, Prod.mk.injEq] at done
      obtain ⟨_, _, rfl, -⟩ := done
      exact .same _
    next =>
      simp only [bind_ok, pure, Except.pure, Except.ok.injEq, Prod.mk.injEq, demand_ok,
        attestable, Bool.and_eq_true, beq_iff_eq] at done
      obtain ⟨_, ⟨⟨⟨⟨⟨⟨⟨frozen, -⟩, state⟩, current⟩, -⟩, -⟩, -⟩, -⟩, _, _, rfl, -⟩ := done
      exact .updated member (.attested frozen state) current rfl rfl .inl rfl
        (List.append_nil _).symm

theorem resumeToken_change {current : AuthContext} {drainId inputDigest : String}
    {preserved : Bool} {moment : Moment} {token : BrowserRuntimePairingToken}
    (done : resumeToken digests current drainId inputDigest preserved moment db =
      .ok (next, token)) :
    Change digests db (.resumeToken current drainId inputDigest preserved moment) next := by
  simp only [resumeToken, bind_ok] at done
  obtain ⟨_, _, _, _, done⟩ := done
  split at done
  next => simp at done
  next drain found =>
    obtain ⟨member, rfl⟩ := ownDrain_mem found
    simp only [bind_ok, pure, Except.pure, Except.ok.injEq, Prod.mk.injEq,
      assertResumeScope_ok] at done
    obtain ⟨_, _, _, scope, _, _, _, _, _, _, rfl, -⟩ := done
    have fits := resumable_fits scope
    refine .updated member (.reissued fits) fits.current rfl rfl nofun rfl ?_
    have keys := ticketKeys_updateTokens (db.updateDrain drain.id fun row =>
        { row with
          resumeGeneration := drain.resumeGeneration + 1
          resumeConnectionGeneration := some (db.runtime.connectionGeneration + 1) })
      (fun token => token.usedAt.isNone && token.resume.any fun scope =>
        scope.drainId == drain.id)
      (fun token => { token with expiresAt := moment.now }) fun _ => rfl
    simp only [ticketKeys, List.filterMap_append] at keys ⊢
    rw [keys]
    rfl

theorem claim_keys (db : Database) (tokenHash : String) (now : Int) :
    ticketKeys (claim tokenHash now db) = ticketKeys db :=
  ticketKeys_updateTokens db _ _ fun _ => rfl

theorem pair_change {input : RuntimePairInput} {moment : Moment}
    (done : pair digests input moment db = .ok next) :
    Change digests db (.pair input moment) next := by
  unfold pair at done
  split at done
  next => simp at done
  next token found =>
    simp only [bind_ok] at done
    obtain ⟨_, _, done⟩ := done
    split at done
    next scope resume =>
      simp only [pairResuming, bind_ok] at done
      obtain ⟨_, _, done⟩ := done
      split at done
      next => simp at done
      next drain known =>
        obtain ⟨member, -⟩ := drainOf_mem known
        simp only [bind_ok, pure, Except.pure, Except.ok.injEq, assertResumeScope_ok] at done
        obtain ⟨_, _, _, fits, _, _, _, _, _, _, rfl⟩ := done
        have scope := resumable_fits fits
        exact .updated member (.paired scope) scope.current rfl rfl nofun rfl
          ((claim_keys db _ _).trans (List.append_nil _).symm)
    next =>
      split at done
      next =>
        simp only [bind_ok, pure, Except.pure, Except.ok.injEq, demand_ok, beq_iff_eq] at done
        obtain ⟨_, idle, rfl⟩ := done
        exact .quiet rfl rfl rfl (fun _ => .inr idle) (claim_keys db _ _)
      next =>
        simp only [pure, Except.pure, Except.ok.injEq] at done
        subst done
        exact .quiet rfl rfl rfl .inl (claim_keys db _ _)

theorem issuer_ticketed {moment : Moment} {drain : RuntimeDrainAttestation}
    (issued : (issuer db drain).any (operator moment) = true) : Ticketed db moment drain := by
  obtain ⟨userId, found, active⟩ := (Option.any_eq_true _ _).mp issued
  obtain ⟨token, here, keyed⟩ := Option.bind_eq_some_iff.mp found
  obtain ⟨scope, resume, rfl⟩ := Option.map_eq_some_iff.mp keyed
  have chosen := List.find?_some here
  simp only [resume, Option.any_some, Bool.and_eq_true, beq_iff_eq] at chosen
  exact ⟨token, List.mem_of_find?_eq_some here, chosen.1, scope, resume, chosen.2.1, chosen.2.2,
    active⟩

theorem handshake_change {seen : DrainState} {hello : Hello} {moment : Moment}
    (done : handshake digests seen hello moment db = some next) :
    Change digests db (.handshake seen hello moment) next := by
  unfold handshake at done
  split at done
  next allowed =>
    split at done
    next =>
      split at done
      next => cases done
      next =>
        split at done
        next => cases done
        next drain found =>
          split at done
          next scope inventory =>
            split at done
            next meets =>
              cases done
              obtain ⟨fits, issued⟩ := meets
              simp only [resumes, Bool.and_eq_true, beq_iff_eq, bne_iff_ne] at fits
              obtain ⟨⟨⟨⟨⟨⟨-, -⟩, -⟩, host⟩, -⟩, daemon⟩, -⟩ := fits
              have resuming := resumable_fits (assertResumeScope_ok.mp scope)
              exact .updated (List.mem_of_find?_eq_some found)
                (.resumed resuming (assertResumeInventory_ok.mp inventory) (issuer_ticketed issued)
                  host daemon)
                resuming.current rfl rfl (fun _ => .inr rfl) rfl (List.append_nil _).symm
            next => cases done
          next => cases done
    next =>
      split at done
      next => cases done
      next =>
        cases done
        exact .quiet rfl rfl rfl .inl rfl
  next => cases done

theorem step_change (digests : Digests) (move : Move) (db : Database) :
    Change digests db move (step digests move db) := by
  cases move with
  | freeze current inputDigest note moment =>
      simp only [step, committed]
      split
      next done => exact freeze_change done
      next => exact .same _
  | attest current drainId input closures moment =>
      simp only [step, committed]
      split
      next done => exact attest_change done
      next => exact .same _
  | resumeToken current drainId inputDigest preserved moment =>
      simp only [step, committed]
      split
      next done => exact resumeToken_change done
      next => exact .same _
  | createPairingToken current moment =>
      simp only [step, committed]
      split
      next done =>
        simp only [createPairingToken, bind_ok, pure, Except.pure, Except.ok.injEq,
          Prod.mk.injEq] at done
        obtain ⟨_, _, rfl, -⟩ := done
        exact .quiet rfl rfl rfl .inl (by simp [ticketKeys, ticketKey])
      next => exact .same _
  | pair input moment =>
      cases done : pair digests input moment db with
      | ok after =>
          simp only [step, done, Except.map, committed]
          exact pair_change done
      | error failure =>
          simp only [step, done, Except.map, committed]
          exact .same _
  | revoke current moment =>
      cases done : revoke current moment db with
      | ok after =>
          simp only [step, done, Except.map, committed]
          simp only [revoke, bind_ok, pure, Except.pure, Except.ok.injEq] at done
          obtain ⟨_, _, rfl⟩ := done
          exact .quiet rfl rfl rfl (by simp) rfl
      | error failure =>
          simp only [step, done, Except.map, committed]
          exact .same _
  | handshake seen hello moment =>
      cases done : handshake digests seen hello moment db with
      | some after =>
          simp only [step, done, Option.getD_some]
          exact handshake_change done
      | none =>
          simp only [step, done, Option.getD_none]
          exact .same _
  | markOnline connectionId connectionGeneration =>
      simp only [step, markOnline]
      split
      · exact .quiet rfl rfl rfl .inl rfl
      · exact .same _
  | markOffline connectionId =>
      simp only [step, markOffline]
      split
      · exact .quiet rfl rfl rfl .inl rfl
      · exact .same _

def Stands : DrainState → RuntimeDrainAttestation → Prop
  | .frozen, drain => drain.state = .frozen ∧ drain.resumedAt = none
  | .attested, drain | .resuming, drain => drain.state = .attested ∧ drain.resumedAt = none
  | .none, drain => drain.state = .attested ∧ drain.resumedAt.isSome = true

structure Lawful (db : Database) : Prop where
  ids : (db.drains.map RuntimeDrainAttestation.id).Nodup
  generations : db.drains.map RuntimeDrainAttestation.drainGeneration =
    List.range' 1 db.runtime.drainGeneration
  idle : db.runtime.enabled = true → db.runtime.drainState = .none
  past : ∀ drain ∈ db.drains, drain.drainGeneration ≠ db.runtime.drainGeneration →
    drain.state = .attested
  current : ∀ drain ∈ db.drains, drain.drainGeneration = db.runtime.drainGeneration →
    Stands db.runtime.drainState drain
  tickets : (ticketKeys db).Nodup
  keyed : ∀ key ∈ ticketKeys db, ∃ drain ∈ db.drains, drain.id = key.1 ∧
    key.2 ≤ drain.resumeGeneration

theorem Lawful.same_id (lawful : Lawful db) {first second : RuntimeDrainAttestation}
    (member : first ∈ db.drains) (member' : second ∈ db.drains) (same : first.id = second.id) :
    first = second :=
  List.inj_on_of_nodup_map lawful.ids member member' same

theorem Lawful.same_generation (lawful : Lawful db) {first second : RuntimeDrainAttestation}
    (member : first ∈ db.drains) (member' : second ∈ db.drains)
    (same : first.drainGeneration = second.drainGeneration) : first = second := by
  have distinct : (db.drains.map RuntimeDrainAttestation.drainGeneration).Nodup := by
    rw [lawful.generations]
    exact List.nodup_range'
  exact List.inj_on_of_nodup_map distinct member member' same

theorem Lawful.generation_le (lawful : Lawful db) {drain : RuntimeDrainAttestation}
    (member : drain ∈ db.drains) : drain.drainGeneration ≤ db.runtime.drainGeneration := by
  have counted : drain.drainGeneration ∈ List.range' 1 db.runtime.drainGeneration := by
    rw [← lawful.generations]
    exact List.mem_map_of_mem member
  have bounds := List.mem_range'_1.mp counted
  omega

/-- A row of updated drains is the updated one or another. -/
theorem Lawful.updated (lawful : Lawful db) {drain row : RuntimeDrainAttestation}
    (member : drain ∈ db.drains) {update : RuntimeDrainAttestation → RuntimeDrainAttestation}
    (listed : row ∈ (db.updateDrain drain.id update).drains) :
    row = update drain ∨ (row ∈ db.drains ∧ row.id ≠ drain.id) := by
  obtain ⟨old, stored, rfl⟩ := List.mem_map.mp listed
  by_cases same : old.id = drain.id
  · rw [lawful.same_id stored member same]
    exact .inl (if_pos rfl)
  · rw [if_neg same]
    exact .inr ⟨stored, same⟩

section Updated

variable {drain : RuntimeDrainAttestation} {move : Move}
  {update : RuntimeDrainAttestation → RuntimeDrainAttestation} {state : DrainState}
  {issued : List (String × Nat)}

theorem Updates.named (updates : Updates digests db drain move update state issued)
    (row : RuntimeDrainAttestation) : (update row).id = row.id := by
  cases updates <;> rfl

theorem Updates.counted (updates : Updates digests db drain move update state issued)
    (row : RuntimeDrainAttestation) : (update row).drainGeneration = row.drainGeneration := by
  cases updates <;> rfl

theorem Updates.drained (updates : Updates digests db drain move update state issued) :
    db.runtime.drainState ≠ .none := by
  intro free
  have drained : db.runtime.drainState = .frozen ∨ db.runtime.drainState = .attested ∨
      db.runtime.drainState = .resuming := by
    cases updates with
    | attested frozen state => exact .inl state
    | reissued scope | paired scope | resumed scope => exact .inr scope.drained
  simp [free] at drained

theorem Updates.unresumed (updates : Updates digests db drain move update state issued)
    (lawful : Lawful db) (member : drain ∈ db.drains)
    (current : db.runtime.drainGeneration = drain.drainGeneration) : drain.resumedAt = none := by
  cases updates with
  | attested frozen state =>
      have standing := lawful.current drain member current.symm
      rw [state] at standing
      exact standing.2
  | reissued scope | paired scope | resumed scope => exact scope.unresumed

theorem Updates.stands (updates : Updates digests db drain move update state issued)
    (unresumed : drain.resumedAt = none) : Stands state (update drain) := by
  cases updates with
  | attested frozen => exact ⟨rfl, unresumed⟩
  | reissued scope | paired scope => exact ⟨scope.attested, unresumed⟩
  | resumed scope => exact ⟨scope.attested, rfl⟩

theorem Updates.onward (updates : Updates digests db drain move update state issued) :
    drain.resumeGeneration ≤ (update drain).resumeGeneration := by
  cases updates with
  | reissued => exact Nat.le_succ _
  | attested | paired | resumed => exact Nat.le_refl _

/-- An issued ticket is newer than those of the drain before. -/
theorem Updates.newer (updates : Updates digests db drain move update state issued) :
    issued.Nodup ∧ ∀ key ∈ issued, key.1 = drain.id ∧ drain.resumeGeneration < key.2 ∧
      key.2 ≤ (update drain).resumeGeneration := by
  cases updates with
  | reissued =>
      refine ⟨List.nodup_singleton _, fun key listed => ?_⟩
      rw [List.mem_singleton.mp listed]
      exact ⟨rfl, Nat.lt_succ_self _, Nat.le_refl _⟩
  | attested | paired | resumed => exact ⟨List.nodup_nil, nofun⟩

end Updated

/-- The current drain is updated. -/
theorem Lawful.update (lawful : Lawful db) {drain : RuntimeDrainAttestation} {move : Move}
    {update : RuntimeDrainAttestation → RuntimeDrainAttestation} {state : DrainState}
    {issued : List (String × Nat)} (member : drain ∈ db.drains)
    (updates : Updates digests db drain move update state issued)
    (current : db.runtime.drainGeneration = drain.drainGeneration)
    (drains : next.drains = (db.updateDrain drain.id update).drains)
    (left : next.runtime.drainState = state)
    (enabled : next.runtime.enabled = true → db.runtime.enabled = true ∨ state = .none)
    (generation : next.runtime.drainGeneration = db.runtime.drainGeneration)
    (tickets : ticketKeys next = ticketKeys db ++ issued) : Lawful next := by
  have kept : ∀ {α : Type} (field : RuntimeDrainAttestation → α),
      (∀ row, field (update row) = field row) →
        next.drains.map field = db.drains.map field := by
    intro α field same
    rw [drains, Database.updateDrain, List.map_map]
    refine List.map_congr_left fun row _ => ?_
    simp only [Function.comp_apply]
    split
    · exact same row
    · rfl
  have here : update drain ∈ next.drains := by
    rw [drains]
    exact List.mem_map.mpr ⟨drain, member, if_pos rfl⟩
  have there : ∀ row ∈ db.drains, row.id ≠ drain.id → row ∈ next.drains := by
    intro row stored other
    rw [drains]
    exact List.mem_map.mpr ⟨row, stored, if_neg other⟩
  refine ⟨by rw [kept _ updates.named]; exact lawful.ids,
    by rw [kept _ updates.counted, generation]; exact lawful.generations, fun works => ?_,
    fun row listed other => ?_, fun row listed same => ?_, ?_, fun key listed => ?_⟩
  · rw [left]
    rcases enabled works with worked | free
    · exact absurd (lawful.idle worked) updates.drained
    · exact free
  · rw [drains] at listed
    rcases lawful.updated member listed with rfl | ⟨stored, -⟩
    · rw [updates.counted, generation, current] at other
      exact absurd rfl other
    · rw [generation] at other
      exact lawful.past row stored other
  · rw [drains] at listed
    rcases lawful.updated member listed with rfl | ⟨stored, different⟩
    · rw [left]
      exact updates.stands (updates.unresumed lawful member current)
    · rw [generation, current] at same
      exact absurd (congrArg _ (lawful.same_generation stored member same)) different
  · rw [tickets, List.nodup_append]
    refine ⟨lawful.tickets, updates.newer.1, fun key former other new => ?_⟩
    rintro rfl
    obtain ⟨own, above, -⟩ := updates.newer.2 key new
    obtain ⟨row, stored, named, bound⟩ := lawful.keyed key former
    rw [lawful.same_id stored member (named.trans own)] at bound
    exact absurd bound (Nat.not_le_of_lt above)
  · rw [tickets] at listed
    rcases List.mem_append.mp listed with former | new
    · obtain ⟨row, stored, named, bound⟩ := lawful.keyed key former
      by_cases same : row.id = drain.id
      · rw [lawful.same_id stored member same] at named bound
        exact ⟨update drain, here, (updates.named drain).trans named,
          bound.trans updates.onward⟩
      · exact ⟨row, there row stored same, named, bound⟩
    · obtain ⟨own, -, below⟩ := updates.newer.2 key new
      exact ⟨update drain, here, (updates.named drain).trans own.symm, below⟩

theorem change_lawful {move : Move} (lawful : Lawful db) (change : Change digests db move next) :
    Lawful next := by
  cases change with
  | quiet drains state generation enabled tickets =>
      refine ⟨by rw [drains]; exact lawful.ids,
        by rw [drains, generation]; exact lawful.generations, fun works => ?_,
        by rw [drains, generation]; exact lawful.past,
        by rw [drains, generation, state]; exact lawful.current,
        by rw [tickets]; exact lawful.tickets, by rw [tickets, drains]; exact lawful.keyed⟩
      rw [state]
      exact (enabled works).elim lawful.idle id
  | froze thawed fresh state unresumed generation drains tokens frozen disabled counted =>
      have keys : ticketKeys next = ticketKeys db := by rw [ticketKeys, tokens, ticketKeys]
      refine ⟨?_, ?_, by simp [disabled], fun row listed other => ?_, fun row listed same => ?_,
        by rw [keys]; exact lawful.tickets, fun key member => ?_⟩
      · rw [drains, List.map_append, List.nodup_append]
        refine ⟨lawful.ids, by simp, fun id listed other single => ?_⟩
        obtain ⟨drain, stored, rfl⟩ := List.mem_map.mp listed
        rw [List.map_singleton, List.mem_singleton] at single
        rw [single]
        exact fresh drain stored
      · rw [drains, List.map_append, lawful.generations, counted, List.map_singleton, generation,
          List.range'_1_concat, Nat.add_comm 1]
      · rw [drains] at listed
        rcases List.mem_append.mp listed with stored | new
        · cases old : row.state with
          | frozen => exact absurd old (thawed row stored)
          | attested => rfl
        · rw [List.mem_singleton.mp new, generation, counted] at other
          exact absurd rfl other
      · rw [drains] at listed
        rw [frozen]
        rcases List.mem_append.mp listed with stored | new
        · have bound := lawful.generation_le stored
          omega
        · rw [List.mem_singleton.mp new]
          exact ⟨state, unresumed⟩
      · rw [keys] at member
        obtain ⟨drain, stored, rest⟩ := lawful.keyed key member
        exact ⟨drain, by rw [drains]; exact List.mem_append_left _ stored, rest⟩
  | updated member updates current drains left enabled generation tickets =>
      exact lawful.update member updates current drains left enabled generation tickets

def created (teamId instanceKey tokenHash : String) : Database :=
  { runtime :=
      { teamId, instanceKey, tokenHash
        enabled := true
        status := .online
        drainState := .none
        drainGeneration := 0
        connectionGeneration := 0
        connectionId := none
        hostInstanceId := none
        daemonInstanceId := none
        revokedAt := none } }

theorem created_lawful (teamId instanceKey tokenHash : String) :
    Lawful (created teamId instanceKey tokenHash) where
  ids := List.nodup_nil
  generations := rfl
  idle _ := rfl
  past := by simp [created]
  current := by simp [created]
  tickets := List.nodup_nil
  keyed := by simp [created, ticketKeys]

theorem reached_snoc (moves : List Move) (move : Move) (db : Database) :
    reached digests (moves ++ [move]) db = step digests move (reached digests moves db) := by
  simp [reached]

def Completed (digests : Digests) (start : Database) (moves : List Move)
    (drain : RuntimeDrainAttestation) (resumedAt : Int) : Prop :=
  ∃ before seen hello moment after, moves = before ++ .handshake seen hello moment :: after ∧
    moment.now = resumedAt ∧ Released digests moment ∧
    hello.hostInstanceId = drain.hostInstanceId ∧
    hello.daemonInstanceId ≠ (reached digests before start).runtime.daemonInstanceId ∧
    ∃ earlier ∈ (reached digests before start).drains, earlier.id = drain.id ∧
      earlier.state = .attested ∧ earlier.resumedAt = none ∧
      Ticketed (reached digests before start) moment earlier

theorem Completed.later {start : Database} {moves : List Move}
    {drain row : RuntimeDrainAttestation} {resumedAt : Int}
    (completed : Completed digests start moves drain resumedAt) (named : row.id = drain.id)
    (host : row.hostInstanceId = drain.hostInstanceId) (move : Move) :
    Completed digests start (moves ++ [move]) row resumedAt := by
  obtain ⟨before, seen, hello, moment, after, rfl, rest⟩ := completed
  refine ⟨before, seen, hello, moment, after ++ [move], by simp, ?_⟩
  rw [named, host]
  exact rest

structure Traced (digests : Digests) (start : Database) (moves : List Move) (db : Database) :
    Prop where
  lawful : Lawful db
  completed : ∀ drain ∈ db.drains, ∀ resumedAt, drain.resumedAt = some resumedAt →
    Completed digests start moves drain resumedAt

theorem change_traced {start : Database} {moves : List Move} {move : Move}
    (traced : Traced digests start moves (reached digests moves start))
    (change : Change digests (reached digests moves start) move next) :
    Traced digests start (moves ++ [move]) next := by
  refine ⟨change_lawful traced.lawful change, fun row listed resumedAt back => ?_⟩
  have kept : ∀ drain ∈ (reached digests moves start).drains, drain.resumedAt = some resumedAt →
      row.id = drain.id → row.hostInstanceId = drain.hostInstanceId →
      Completed digests start (moves ++ [move]) row resumedAt :=
    fun drain stored former named host =>
      (traced.completed drain stored resumedAt former).later named host move
  cases change with
  | quiet drains =>
      rw [drains] at listed
      exact kept row listed back rfl rfl
  | froze thawed fresh state unresumed generation drains =>
      rw [drains] at listed
      rcases List.mem_append.mp listed with stored | new
      · exact kept row stored back rfl rfl
      · rw [List.mem_singleton.mp new, unresumed] at back
        cases back
  | updated member updates current drains =>
      rw [drains] at listed
      rcases traced.lawful.updated member listed with rfl | ⟨stored, -⟩
      · cases updates with
        | attested | reissued | paired => exact kept _ member back rfl rfl
        | resumed scope released ticketed host daemon =>
            cases back
            exact ⟨moves, _, _, _, [], rfl, rfl, released, host, daemon, _, member, rfl,
              scope.attested, scope.unresumed, ticketed⟩
      · exact kept row stored back rfl rfl

theorem reached_traced (teamId instanceKey tokenHash : String) (moves : List Move) :
    Traced digests (created teamId instanceKey tokenHash) moves
      (reached digests moves (created teamId instanceKey tokenHash)) := by
  induction moves using List.reverseRecOn with
  | nil => exact ⟨created_lawful teamId instanceKey tokenHash, by simp [reached, created]⟩
  | append_singleton moves move ih =>
      have change := step_change digests move
        (reached digests moves (created teamId instanceKey tokenHash))
      rw [← reached_snoc] at change
      exact change_traced ih change

theorem ticket_unique {tokens : List BrowserRuntimePairingToken}
    (distinct : (tokens.filterMap ticketKey).Nodup) {first second : BrowserRuntimePairingToken}
    (member : first ∈ tokens) (member' : second ∈ tokens) {key : String × Nat}
    (keyed : ticketKey first = some key) (keyed' : ticketKey second = some key) :
    first = second := by
  induction tokens with
  | nil => cases member
  | cons token rest ih =>
      have apart : ∀ other ∈ rest, ticketKey token = some key → ticketKey other = some key →
          False := by
        intro other later here there
        rw [List.filterMap_cons_some here, List.nodup_cons] at distinct
        exact distinct.1 (List.mem_filterMap.mpr ⟨other, later, there⟩)
      rcases List.mem_cons.mp member with rfl | later
      · rcases List.mem_cons.mp member' with rfl | later'
        · rfl
        · exact (apart second later' keyed keyed').elim
      · rcases List.mem_cons.mp member' with rfl | later'
        · exact (apart first later keyed' keyed).elim
        · exact ih (distinct.sublist ((List.sublist_cons_self ..).filterMap _)) later later'

/-- After any moves: only a Runtime without a drain is enabled; its drains are numbered as they
    were made, and the only one that may be frozen is the current one of a frozen Runtime; a
    Runtime that came out of its drains completed the last one; and no two tickets are for the
    same resumption. -/
theorem drains_in_turn (teamId instanceKey tokenHash : String) (moves : List Move) :
    let db := reached digests moves (created teamId instanceKey tokenHash)
    (db.runtime.enabled = true → db.runtime.drainState = .none) ∧
    db.drains.map RuntimeDrainAttestation.drainGeneration =
      List.range' 1 db.runtime.drainGeneration ∧
    (∀ drain ∈ db.drains, drain.state = .frozen ↔
      drain.drainGeneration = db.runtime.drainGeneration ∧ db.runtime.drainState = .frozen) ∧
    (db.runtime.drainState = .none → ∀ drain ∈ db.drains,
      drain.drainGeneration = db.runtime.drainGeneration → drain.resumedAt.isSome = true) ∧
    ∀ first ∈ db.tokens, ∀ second ∈ db.tokens, ∀ key, ticketKey first = some key →
      ticketKey second = some key → first = second := by
  intro db
  have lawful : Lawful db := (reached_traced teamId instanceKey tokenHash moves).lawful
  refine ⟨lawful.idle, lawful.generations, fun drain member => ⟨fun frozen => ?_, fun here => ?_⟩,
    fun free drain member here => ?_, fun first member second member' key =>
      ticket_unique lawful.tickets member member'⟩
  · by_cases here : drain.drainGeneration = db.runtime.drainGeneration
    · refine ⟨here, ?_⟩
      have standing := lawful.current drain member here
      cases state : db.runtime.drainState with
      | frozen => rfl
      | attested | resuming | none =>
          rw [state] at standing
          rw [standing.1] at frozen
          cases frozen
    · rw [lawful.past drain member here] at frozen
      cases frozen
  · have standing := lawful.current drain member here.1
    rw [here.2] at standing
    exact standing.1
  · have standing := lawful.current drain member here
    rw [free] at standing
    exact standing.2

def Settled (db : Database) (drain : RuntimeDrainAttestation) : Prop :=
  drain.resumedAt.isSome = true ∨ drain.drainGeneration < db.runtime.drainGeneration

/-- A settled drain is not the one that a change updates. -/
theorem Settled.other {drain row : RuntimeDrainAttestation} (settled : Settled db drain)
    (current : db.runtime.drainGeneration = row.drainGeneration)
    (unresumed : row.resumedAt = none) (lawful : Lawful db) (member : drain ∈ db.drains)
    (member' : row ∈ db.drains) : drain.id ≠ row.id := by
  intro same
  rw [lawful.same_id member member' same, Settled, unresumed, current] at settled
  exact settled.elim (by simp) (Nat.lt_irrefl _)

/-- No change touches a settled drain. -/
theorem change_settled {move : Move} (lawful : Lawful db) (change : Change digests db move next)
    {drain : RuntimeDrainAttestation} (member : drain ∈ db.drains) (settled : Settled db drain) :
    drain ∈ next.drains ∧ Settled next drain := by
  cases change with
  | quiet drains state generation =>
      rw [Settled, drains, generation]
      exact ⟨member, settled⟩
  | froze thawed fresh state unresumed generation drains tokens frozen disabled counted =>
      rw [Settled, drains, counted]
      exact ⟨List.mem_append_left _ member, settled.imp_right Nat.lt_succ_of_lt⟩
  | updated member' updates current drains left enabled generation =>
      rw [Settled, drains, generation]
      have apart := settled.other current (updates.unresumed lawful member' current) lawful member
        member'
      exact ⟨List.mem_map.mpr ⟨drain, member, if_neg apart⟩, settled⟩

theorem reached_settled (lawful : Lawful db) (moves : List Move)
    {drain : RuntimeDrainAttestation} (member : drain ∈ db.drains) (settled : Settled db drain) :
    drain ∈ (reached digests moves db).drains := by
  induction moves generalizing db with
  | nil => exact member
  | cons move moves ih =>
      have change := step_change digests move db
      have kept := change_settled lawful change member settled
      exact ih (change_lawful lawful change) kept.1 kept.2

/-- After any moves: every drain that was completed was so by a handshake on the drain's host, of
    another process, at a moment when every session was closed with its evidence and the Runtime
    held nothing; the drain was attested before, and the ticket of its latest resume generation
    was used and came from one who was an active administrator still.  No later move touches a
    drain that was completed or left for a later one. -/
theorem resumed_when_released (teamId instanceKey tokenHash : String) (moves : List Move) :
    (∀ drain ∈ (reached digests moves (created teamId instanceKey tokenHash)).drains, ∀ resumedAt,
      drain.resumedAt = some resumedAt →
        Completed digests (created teamId instanceKey tokenHash) moves drain resumedAt) ∧
    ∀ later, ∀ drain ∈ (reached digests moves (created teamId instanceKey tokenHash)).drains,
      Settled (reached digests moves (created teamId instanceKey tokenHash)) drain →
      drain ∈ (reached digests (moves ++ later) (created teamId instanceKey tokenHash)).drains := by
  have traced : Traced digests (created teamId instanceKey tokenHash) moves
      (reached digests moves (created teamId instanceKey tokenHash)) :=
    reached_traced teamId instanceKey tokenHash moves
  refine ⟨traced.completed, fun later drain member settled => ?_⟩
  have appended : reached digests (moves ++ later) (created teamId instanceKey tokenHash) =
      reached digests later (reached digests moves (created teamId instanceKey tokenHash)) :=
    List.foldl_append
  rw [appended]
  exact reached_settled traced.lawful later member settled

end Devproof.RuntimeDrains
