import Mathlib.Data.Rat.Defs
import Mathlib.Algebra.Order.Field.Rat
import Mathlib.Tactic.Linarith
import Devproof.Browser.SessionPermits

/-!
Runs of the permit registry: revocation and expiry are final, a takeover fences
the executor it interrupted, and a local deadline is never later than the
server's.
-/

namespace Devproof

inductive PermitCall where
  | synchronizeClock (now : Rat) (serverTime : String) (roundTripMs : Rat)
  | setConnected (connected : Bool)
  | revoke (sessionId : String)
  | accept (now : ClockReadings) (identity : SessionIdentity) (permit : RuntimeSessionPermit)
      (serverTime : Option String) (roundTripMs : Rat)
  | assert (now : Rat) (identity : SessionIdentity) (owner : Option CommandOwner)
      (allowStartup : Bool)
  | networkAllowed (now : Rat) (identity : SessionIdentity)
  deriving Repr, DecidableEq

def thrownBy {α : Type} (answer : Except Refusal α) : Option Refusal :=
  match answer with
  | .error refusal => some refusal
  | .ok _ => none

namespace PermitCall

variable (host : Host)

def step (call : PermitCall) (state : SessionPermits) : Outcome SessionPermits Refusal :=
  match call with
  | .synchronizeClock now serverTime roundTripMs =>
      .done (state.synchronizeClock host now serverTime roundTripMs)
  | .setConnected connected => .done (state.setConnected connected)
  | .revoke sessionId => .done (state.revoke sessionId)
  | .accept now identity permit serverTime roundTripMs =>
      let answer := state.accept host now identity permit serverTime roundTripMs
      { state := answer.2, thrown := thrownBy answer.1 }
  | .assert now identity owner allowStartup =>
      let answer := state.assert now identity owner allowStartup
      { state := answer.2, thrown := thrownBy answer.1 }
  | .networkAllowed now identity => .done (state.networkAllowed now identity).2

def readings : PermitCall → List Rat
  | .synchronizeClock now _ _ => [now]
  | .accept now _ _ _ _ => [now.checked, now.cached, now.registered]
  | .assert now _ _ _ => [now]
  | .networkAllowed now _ => [now]
  | .setConnected _ => []
  | .revoke _ => []

end PermitCall

abbrev PermitEntry : Type := PermitCall × SessionPermits

/-! A browser session on the fourth of September. -/

def permitHost : Host :=
  Host.ofTables
    { dates :=
        [("2026-09-04T00:00:00Z", 1788480000000), ("2026-09-04T00:00:10Z", 1788480010000),
          ("2026-09-04T00:10:00Z", 1788480600000)] }

def sampleIdentity : SessionIdentity :=
  { sessionId := "5b0b8f0e-94fb-4d0c-9f3e-0c5a7a3d2f10"
    leaseToken := "c1f4a1ce-6b55-4ff0-8e52-3f0f1a1f5a77"
    fencingToken := "5" }

def samplePermit (ownerKind : OwnerKind) (ownerFencingToken : String)
    (expiresAt : String) : RuntimeSessionPermit :=
  { sessionId := sampleIdentity.sessionId
    fencingToken := sampleIdentity.fencingToken
    leaseToken := sampleIdentity.leaseToken
    ownerKind
    ownerTaskId := some "0d6ff6c6-2f43-4b8e-8a54-6f6f3a9b1c21"
    ownerFencingToken := some ownerFencingToken
    expiresAt }

def offer (now : Rat) (permit : RuntimeSessionPermit) : PermitCall :=
  .accept { checked := now, cached := now, registered := now } sampleIdentity permit none 0

def freshRegistry : SessionPermits :=
  SessionPermits.create 1788480000000 0

section Sessions

variable (host : Host) (sessionId : String)

def acceptedPermit (entry : PermitEntry) : Option RuntimeSessionPermit :=
  match entry.1 with
  | .accept now identity permit serverTime roundTripMs =>
      match (entry.2.accept host now identity permit serverTime roundTripMs).1 with
      | .ok true => if identity.sessionId = sessionId then some permit else none
      | _ => none
  | _ => none

def acceptedPermits (made : List PermitEntry) : List RuntimeSessionPermit :=
  made.filterMap (acceptedPermit host sessionId)

/-- The call is an `assert`, or a question of the network gate, that lets the session act. -/
def passes (entry : PermitEntry) : Bool :=
  match entry.1 with
  | .assert now identity owner allowStartup =>
      identity.sessionId == sessionId && (entry.2.assert now identity owner allowStartup).1.isOk
  | .networkAllowed now identity =>
      identity.sessionId == sessionId && (entry.2.networkAllowed now identity).1
  | _ => false

inductive SessionStep (entry : PermitEntry) : SessionPermits → Prop where
  | kept (after) (quiet : acceptedPermit host sessionId entry = none)
      (permits : after.permits sessionId = entry.2.permits sessionId)
      (revoked : after.revoked sessionId = entry.2.revoked sessionId)
      (executor : after.executorEpochs sessionId = entry.2.executorEpochs sessionId) :
      SessionStep entry after
  | revoked (after) (quiet : acceptedPermit host sessionId entry = none)
      (permits : after.permits sessionId = none) (revoked : after.revoked sessionId = true)
      (executor : after.executorEpochs sessionId = entry.2.executorEpochs sessionId) :
      SessionStep entry after
  | admitted (now identity permit serverTime roundTripMs admission)
      (call : entry.1 = .accept now identity permit serverTime roundTripMs)
      (mine : identity.sessionId = sessionId)
      (accepts : acceptedPermit host sessionId entry = some permit)
      (admits : SessionPermits.Admitted host now identity permit serverTime roundTripMs entry.2
        admission) :
      SessionStep entry (entry.2.register sessionId admission)

variable {host sessionId}

theorem revoke_session (entry : PermitEntry) (other : String)
    (quiet : acceptedPermit host sessionId entry = none) :
    SessionStep host sessionId entry (entry.2.revoke other) := by
  by_cases same : sessionId = other
  · subst same
    exact SessionStep.revoked _ quiet (by simp) (by simp) (by simp)
  · exact SessionStep.kept _ quiet (by simp [same]) (by simp [same]) (by simp)

theorem acceptedPermit_rejected {now : ClockReadings} {identity : SessionIdentity}
    {permit : RuntimeSessionPermit} {serverTime : Option String} {roundTripMs : Rat}
    {state : SessionPermits}
    (rejected : (state.accept host now identity permit serverTime roundTripMs).1 ≠ .ok true) :
    acceptedPermit host sessionId
      (.accept now identity permit serverTime roundTripMs, state) = none := by
  cases answered : (state.accept host now identity permit serverTime roundTripMs).1 with
  | error refusal => simp [acceptedPermit, answered]
  | ok registered =>
      cases registered with
      | true => exact absurd answered rejected
      | false => simp [acceptedPermit, answered]

theorem accept_session (now : ClockReadings) (identity : SessionIdentity)
    (permit : RuntimeSessionPermit) (serverTime : Option String) (roundTripMs : Rat)
    (state : SessionPermits) :
    SessionStep host sessionId (.accept now identity permit serverTime roundTripMs, state)
      (state.accept host now identity permit serverTime roundTripMs).2 := by
  rcases SessionPermits.accept_cases now identity permit serverTime roundTripMs state with
    ⟨admission, admits, accepts⟩ | ⟨rejected, same | revoked⟩
  · by_cases mine : identity.sessionId = sessionId
    · rw [accepts, mine]
      exact SessionStep.admitted now identity permit serverTime roundTripMs admission rfl mine
        (by simp [acceptedPermit, accepts, mine]) admits
    · have other : sessionId ≠ identity.sessionId := fun same => mine same.symm
      rw [accepts]
      refine SessionStep.kept _ (by simp [acceptedPermit, accepts, mine]) (by simp [other])
        (by simp) ?_
      cases epoch : admission.epoch <;> simp [SessionPermits.register, epoch, other]
  · rw [same]
    exact SessionStep.kept _ (acceptedPermit_rejected rejected) rfl rfl rfl
  · rw [revoked]
    exact revoke_session _ _ (acceptedPermit_rejected rejected)

theorem step_session (entry : PermitEntry) :
    SessionStep host sessionId entry (entry.1.step host entry.2).state := by
  obtain ⟨call, state⟩ := entry
  cases call with
  | synchronizeClock now serverTime roundTripMs =>
      simp only [PermitCall.step, Outcome.done_state, SessionPermits.synchronizeClock]
      split
      · exact SessionStep.kept _ rfl rfl rfl rfl
      · exact SessionStep.kept _ rfl rfl rfl rfl
  | setConnected connected => exact SessionStep.kept _ rfl rfl rfl rfl
  | revoke other => exact revoke_session _ _ rfl
  | accept now identity permit serverTime roundTripMs =>
      exact accept_session now identity permit serverTime roundTripMs state
  | assert now identity owner allowStartup =>
      simp only [PermitCall.step]
      rcases (SessionPermits.assert_cases now identity owner allowStartup state).2 with
        same | revoked
      · rw [same]
        exact SessionStep.kept _ rfl rfl rfl rfl
      · rw [revoked]
        exact revoke_session _ _ rfl
  | networkAllowed now identity =>
      simp only [PermitCall.step, Outcome.done_state, SessionPermits.networkAllowed_eq]
      rcases (SessionPermits.assert_cases now identity none false state).2 with same | revoked
      · rw [same]
        exact SessionStep.kept _ rfl rfl rfl rfl
      · rw [revoked]
        exact revoke_session _ _ rfl

theorem assert_registered {now : Rat} {identity : SessionIdentity} {owner : Option CommandOwner}
    {allowStartup : Bool} {state : SessionPermits}
    (granted : (state.assert now identity owner allowStartup).1.isOk = true) :
    state.revoked identity.sessionId = false ∧
      ∃ registered, state.permits identity.sessionId = some registered ∧
        now < registered.deadline := by
  rw [(SessionPermits.assert_cases now identity owner allowStartup state).1] at granted
  cases authorized : SessionPermits.authorize now identity owner allowStartup state with
  | error refusal => simp [authorized, Except.isOk, Except.toBool] at granted
  | ok permit =>
      obtain ⟨live, registered, found, -, inTime⟩ := SessionPermits.authorize_registered authorized
      exact ⟨live, registered, found, inTime⟩

/-- A command goes through only under a live registered permit. -/
theorem passes_registered {entry : PermitEntry} (granted : passes sessionId entry = true) :
    entry.2.revoked sessionId = false ∧
      ∃ registered now, entry.2.permits sessionId = some registered ∧
        entry.1.readings = [now] ∧ now < registered.deadline := by
  obtain ⟨call, state⟩ := entry
  cases call with
  | assert now identity owner allowStartup =>
      simp only [passes, Bool.and_eq_true, beq_iff_eq] at granted
      obtain ⟨mine, granted⟩ := granted
      subst mine
      obtain ⟨live, registered, found, inTime⟩ := assert_registered granted
      exact ⟨live, registered, now, found, rfl, inTime⟩
  | networkAllowed now identity =>
      simp only [passes, Bool.and_eq_true, beq_iff_eq, SessionPermits.networkAllowed_eq] at granted
      obtain ⟨mine, granted⟩ := granted
      subst mine
      obtain ⟨live, registered, found, inTime⟩ := assert_registered granted
      exact ⟨live, registered, now, found, rfl, inTime⟩
  | synchronizeClock now serverTime roundTripMs => simp [passes] at granted
  | setConnected connected => simp [passes] at granted
  | revoke other => simp [passes] at granted
  | accept now identity permit serverTime roundTripMs => simp [passes] at granted

theorem step_revoked {entry : PermitEntry} (revoked : entry.2.revoked sessionId = true) :
    (entry.1.step host entry.2).state.revoked sessionId = true := by
  have stepped : SessionStep host sessionId entry (entry.1.step host entry.2).state :=
    step_session entry
  revert stepped
  generalize (entry.1.step host entry.2).state = after
  intro stepped
  cases stepped with
  | kept after quiet permits same executor => rw [same, revoked]
  | revoked after quiet permits same executor => exact same
  | admitted now identity permit serverTime roundTripMs admission call mine accepts admits =>
      rw [← mine] at revoked
      rw [admits.live] at revoked
      simp at revoked

theorem path_revoked {start finish : SessionPermits} {made : List PermitEntry}
    (path : Path (PermitCall.step host) start made finish)
    (revoked : start.revoked sessionId = true) : finish.revoked sessionId = true :=
  (path.invariant (fun state => state.revoked sessionId = true) revoked
    fun _ _ held => step_revoked held).1

def clockReadings (made : List PermitEntry) : List Rat :=
  made.flatMap fun entry => entry.1.readings

variable (host sessionId)

def renewedBefore (deadline : Rat) (entry : PermitEntry) : Prop :=
  (acceptedPermit host sessionId entry).isSome ∧
    ∃ now, entry.1.readings.head? = some now ∧ now < deadline

/-- The session was revoked on the way, or the deadline of a permit it had registered
was reached without a renewal strictly before it. -/
inductive Ended (visited : List PermitEntry) : Prop where
  | revoked (entry) (member : entry ∈ visited) (revoked : entry.2.revoked sessionId = true) :
      Ended visited
  | lapsed (first entry later registered reading) (split : visited = first ++ entry :: later)
      (found : entry.2.permits sessionId = some registered)
      (read : reading ∈ clockReadings (entry :: later)) (reached : registered.deadline ≤ reading)
      (unrenewed : ∀ renewal ∈ entry :: later,
        ¬ renewedBefore host sessionId registered.deadline renewal) :
      Ended visited

variable {host sessionId}

theorem step_unrenewed {entry : PermitEntry} {registered : RegisteredPermit}
    (held : entry.2.revoked sessionId = true ∨ entry.2.permits sessionId = some registered)
    (unrenewed : ¬ renewedBefore host sessionId registered.deadline entry) :
    (entry.1.step host entry.2).state.revoked sessionId = true ∨
      (entry.1.step host entry.2).state.permits sessionId = some registered := by
  rcases held with revoked | found
  · exact Or.inl (step_revoked revoked)
  · have stepped : SessionStep host sessionId entry (entry.1.step host entry.2).state :=
      step_session entry
    revert stepped
    generalize (entry.1.step host entry.2).state = after
    intro stepped
    cases stepped with
    | kept after quiet permits same executor => exact Or.inr (permits.trans found)
    | revoked after quiet permits same executor => exact Or.inl same
    | admitted now identity permit serverTime roundTripMs admission call mine accepts admits =>
        refine absurd ⟨by rw [accepts]; rfl, now.checked, ?_, ?_⟩ unrenewed
        · rw [call]
          rfl
        · exact admits.inTime registered (by rw [mine, found])

theorem path_unrenewed {start finish : SessionPermits} {made : List PermitEntry}
    {registered : RegisteredPermit} (path : Path (PermitCall.step host) start made finish)
    (found : start.permits sessionId = some registered)
    (unrenewed : ∀ entry ∈ made, ¬ renewedBefore host sessionId registered.deadline entry) :
    finish.revoked sessionId = true ∨ finish.permits sessionId = some registered :=
  (path.invariant
    (fun state => state.revoked sessionId = true ∨ state.permits sessionId = some registered)
    (Or.inr found) fun entry member held => step_unrenewed held (unrenewed entry member)).1

/-- A nondecreasing clock has read nothing later than its last reading. -/
theorem reading_le_last {made : List PermitEntry} {entry : PermitEntry} {now reading : Rat}
    (steady : (clockReadings (made ++ [entry])).Pairwise (· ≤ ·))
    (last : entry.1.readings = [now]) (read : reading ∈ clockReadings (made ++ [entry])) :
    reading ≤ now := by
  simp only [clockReadings, List.flatMap_append, List.flatMap_cons, List.flatMap_nil, last,
    List.append_nil, List.pairwise_append, List.mem_append, List.mem_singleton] at steady read
  rcases read with earlier | same
  · exact steady.2.2 reading earlier now rfl
  · exact le_of_eq same

theorem ended_denied {start finish : SessionPermits} {made : List PermitEntry}
    {entry : PermitEntry} (path : Path (PermitCall.step host) start (made ++ [entry]) finish)
    (steady : (clockReadings (made ++ [entry])).Pairwise (· ≤ ·))
    (ended : Ended host sessionId (made ++ [entry])) : passes sessionId entry = false := by
  cases granted : passes sessionId entry with
  | false => rfl
  | true =>
      obtain ⟨live, registered, now, found, last, inTime⟩ := passes_registered granted
      cases ended with
      | revoked visited member revoked =>
          obtain ⟨first, later, split⟩ := List.append_of_mem member
          obtain ⟨middle, -, between⟩ := path.visited split
          rw [path_revoked between revoked] at live
          simp at live
      | lapsed first visited later lapsed reading split held read reached unrenewed =>
          obtain ⟨middle, same, between⟩ := path.visited split
          have early : reading ≤ now := by
            apply reading_le_last steady last
            rw [split, clockReadings, List.flatMap_append]
            exact List.mem_append_right _ read
          have kept := path_unrenewed between held fun step member => unrenewed step (by
            rw [same]
            exact List.mem_append_left _ member)
          rcases kept with revoked | same
          · rw [revoked] at live
            simp at live
          · rw [found, Option.some.injEq] at same
            subst same
            linarith

theorem revoke_narrows {now : Rat} {identity : SessionIdentity} {owner : Option CommandOwner}
    {allowStartup : Bool} {state : SessionPermits} {permit : RuntimeSessionPermit} (other : String)
    (granted : ((state.revoke other).assert now identity owner allowStartup).1 = .ok permit) :
    (state.assert now identity owner allowStartup).1 = .ok permit := by
  rw [(SessionPermits.assert_cases now identity owner allowStartup _).1] at granted ⊢
  have live := (SessionPermits.authorize_registered granted).1
  by_cases same : identity.sessionId = other
  · simp [same] at live
  · rw [← granted]
    unfold SessionPermits.authorize
    simp [same, SessionPermits.revoke]

/-- Whatever is offered afterwards, a session that was revoked, or whose deadline was reached
without a renewal strictly before it, stays denied; and a rejected permit widens nothing. -/
theorem ended_session_denied {start finish : SessionPermits} {made : List PermitEntry}
    (path : Path (PermitCall.step host) start made finish)
    (steady : (clockReadings made).Pairwise (· ≤ ·)) :
    (∀ visited entry after, made = visited ++ entry :: after →
      Ended host sessionId (visited ++ [entry]) → passes sessionId entry = false) ∧
    (∀ now identity permit serverTime roundTripMs (state : SessionPermits),
      (state.accept host now identity permit serverTime roundTripMs).1 ≠ .ok true →
      ∀ time caller owner allowStartup granted,
        ((state.accept host now identity permit serverTime roundTripMs).2.assert time caller owner
          allowStartup).1 = .ok granted →
        (state.assert time caller owner allowStartup).1 = .ok granted) := by
  constructor
  · intro visited entry after split ended
    rw [split, List.append_cons] at path steady
    obtain ⟨middle, reached, -⟩ := path.split
    have sofar : (clockReadings (visited ++ [entry])).Pairwise (· ≤ ·) := by
      rw [clockReadings, List.flatMap_append] at steady
      exact (List.pairwise_append.mp steady).1
    exact ended_denied reached sofar ended
  · intro now identity permit serverTime roundTripMs state rejected time caller owner allowStartup
      granted allowed
    rcases SessionPermits.accept_cases now identity permit serverTime roundTripMs state with
      ⟨admission, -, accepts⟩ | ⟨-, same | revoked⟩
    · rw [accepts] at rejected
      exact absurd rfl rejected
    · rw [same] at allowed
      exact allowed
    · rw [revoked] at allowed
      exact revoke_narrows _ allowed

def lateRenewal : List PermitCall :=
  [offer 0 (samplePermit .agent "2" "2026-09-04T00:00:10Z"),
    offer 10001 (samplePermit .agent "2" "2026-09-04T00:10:00Z")]

def lateCommand : PermitCall :=
  .assert 10002 sampleIdentity none false

theorem late_renewal_denied :
    passes sampleIdentity.sessionId
      (lateCommand, arrival (PermitCall.step permitHost) lateRenewal freshRegistry) = false := by
  have split : visits (PermitCall.step permitHost) (lateRenewal ++ [lateCommand]) freshRegistry =
      _ ++ [(lateCommand, _)] := visits_append lateRenewal [lateCommand] freshRegistry
  refine (ended_session_denied (visits_path (lateRenewal ++ [lateCommand]) freshRegistry)
    (by decide)).1 _ _ [] split ?_
  refine Ended.lapsed [_] (offer 10001 (samplePermit .agent "2" "2026-09-04T00:10:00Z"), _)
    [(lateCommand, _)]
    { value := samplePermit .agent "2" "2026-09-04T00:00:10Z", deadline := 10000 } 10001 rfl
    (by decide +kernel) (by decide) (by decide) ?_
  intro renewal member renewed
  have none : ∀ later ∈ (visits (PermitCall.step permitHost) (lateRenewal ++ [lateCommand])
      freshRegistry).tail, acceptedPermit permitHost sampleIdentity.sessionId later = none := by
    decide +kernel
  have accepted := renewed.1
  rw [none renewal member] at accepted
  simp at accepted

/-! A takeover fences the executor it interrupted. -/

def executorOf (permit : RuntimeSessionPermit) : Option ExecutorEpoch :=
  match SessionPermits.epochOf permit with
  | .ok epoch => epoch
  | .error _ => none

def lastExecutor (accepted : List RuntimeSessionPermit) : Option ExecutorEpoch :=
  (accepted.filterMap executorOf).getLast?

def RuntimeSessionPermit.token (permit : RuntimeSessionPermit) : Option Int :=
  permit.ownerFencingToken.bind bigInt

structure TakenOver (accepted : List RuntimeSessionPermit) (human : RuntimeSessionPermit) :
    Prop where
  isHuman : human.ownerKind = .human
  since : ∃ first between, accepted = first ++ human :: between ∧
    ∀ permit ∈ between, permit.ownerKind ≠ .agent

/-- The accepted permits of a session never go back to an older control generation or executor
epoch. -/
structure Advancing (accepted : List RuntimeSessionPermit) : Prop where
  generation : accepted.Pairwise fun earlier later => earlier.generation ≤ later.generation
  executor : (accepted.filterMap executorOf).Pairwise fun earlier later =>
    earlier.taskId = later.taskId ∧ earlier.token ≤ later.token

/-- Nor do they hand a browser a person took over to the executor they interrupted. -/
structure Fenced (accepted : List RuntimeSessionPermit) : Prop extends Advancing accepted where
  takeover : ∀ earlier agent later human executor token, accepted = earlier ++ agent :: later →
    agent.ownerKind = .agent → TakenOver earlier human → lastExecutor earlier = some executor →
    agent.token = some token →
    executor.token < token ∨ human.generation < agent.generation

variable (host sessionId)

/-- No agent permit without a newer executor or control generation is offered over a startup or
system permit that has replaced the permit of a person who took over. -/
def HandsBack (visited : List PermitEntry) (entry : PermitEntry) : Prop :=
  ∀ now identity permit serverTime roundTripMs existing executor token human,
    entry.1 = .accept now identity permit serverTime roundTripMs →
    identity.sessionId = sessionId → permit.ownerKind = .agent →
    entry.2.permits sessionId = some existing →
    existing.value.ownerKind = .startup ∨ existing.value.ownerKind = .system →
    entry.2.executorEpochs sessionId = some executor → permit.token = some token →
    TakenOver (acceptedPermits host sessionId visited) human →
    executor.token < token ∨ human.generation < permit.generation

structure Tracked (accepted : List RuntimeSessionPermit) (state : SessionPermits) : Prop where
  registered : state.revoked sessionId = false →
    (state.permits sessionId).map RegisteredPermit.value = accepted.getLast?
  executor : state.executorEpochs sessionId = lastExecutor accepted
  advancing : Advancing accepted

variable {host sessionId}

theorem executorOf_epoch {permit : RuntimeSessionPermit} {epoch : Option ExecutorEpoch}
    (named : SessionPermits.epochOf permit = .ok epoch) : executorOf permit = epoch := by
  rw [executorOf, named]

theorem lastExecutor_append (accepted : List RuntimeSessionPermit)
    (permit : RuntimeSessionPermit) :
    lastExecutor (accepted ++ [permit]) =
      match executorOf permit with
      | none => lastExecutor accepted
      | some epoch => some epoch := by
  unfold lastExecutor
  cases named : executorOf permit with
  | none => simp [List.filterMap_append, named]
  | some epoch => simp [List.filterMap_append, named]

theorem related_last {α : Type} {relation : α → α → Prop} {items : List α} {last item : α}
    (sorted : items.Pairwise relation) (final : items.getLast? = some last)
    (member : item ∈ items) : item = last ∨ relation item last := by
  obtain ⟨front, split⟩ := List.getLast?_eq_some_iff.mp final
  subst split
  rcases List.mem_append.mp member with earlier | same
  · exact Or.inr ((List.pairwise_append.mp sorted).2.2 item earlier last (by simp))
  · exact Or.inl (List.mem_singleton.mp same)

theorem pairwise_concat {α : Type} {relation : α → α → Prop} {items : List α} {item : α}
    (transitive : ∀ first second third, relation first second → relation second third →
      relation first third)
    (sorted : items.Pairwise relation)
    (next : ∀ last, items.getLast? = some last → relation last item) :
    (items ++ [item]).Pairwise relation := by
  refine List.pairwise_append.mpr ⟨sorted, List.pairwise_singleton _ _, ?_⟩
  intro earlier member final same
  rw [List.mem_singleton.mp same]
  cases last : items.getLast? with
  | none =>
      rw [List.getLast?_eq_none_iff.mp last] at member
      simp at member
  | some top =>
      rcases related_last sorted last member with equal | related
      · rw [equal]
        exact next top last
      · exact transitive _ _ _ related (next top last)

theorem epochFresh_executor {executor epoch : ExecutorEpoch} {permit : RuntimeSessionPermit}
    (fresh : SessionPermits.staleEpoch (some executor) permit = some false)
    (named : executorOf permit = some epoch) :
    executor.taskId = epoch.taskId ∧ executor.token ≤ epoch.token := by
  unfold executorOf SessionPermits.epochOf at named
  unfold SessionPermits.staleEpoch at fresh
  cases named' : permit.executor with
  | none => simp [named'] at named
  | some pair =>
      obtain ⟨taskId, text⟩ := pair
      simp only [named'] at named fresh
      cases parsed : bigInt text with
      | none => simp [parsed] at named
      | some token =>
          simp only [parsed, Option.some.injEq] at named
          subst named
          split at fresh
          · simp at fresh
          · rename_i same
            simp only [parsed, Option.map_some, Option.some.injEq, decide_eq_false_iff_not,
              not_lt] at fresh
            exact ⟨not_not.mp same, fresh⟩

/-- The check right after a person's permit. -/
theorem takeover_newer {existing : RegisteredPermit} {executor : ExecutorEpoch}
    {permit : RuntimeSessionPermit} {token : Int}
    (checked : SessionPermits.takesOver (some existing) (some executor) permit = some false)
    (human : existing.value.ownerKind = .human) (agent : permit.ownerKind = .agent)
    (names : permit.token = some token) :
    executor.token < token ∨ existing.value.generation < permit.generation := by
  unfold RuntimeSessionPermit.token at names
  simp only [SessionPermits.takesOver, human, agent, and_self, if_true, names, Option.map_some,
    Option.some.injEq, Bool.and_eq_false_iff, decide_eq_false_iff_not, not_le] at checked
  exact checked

theorem TakenOver.mem {accepted : List RuntimeSessionPermit} {human : RuntimeSessionPermit}
    (taken : TakenOver accepted human) : human ∈ accepted := by
  obtain ⟨first, between, split, -⟩ := taken.since
  simp [split]

/-- The last accepted permit since a takeover is not an agent's. -/
theorem TakenOver.last {accepted : List RuntimeSessionPermit} {human last : RuntimeSessionPermit}
    (taken : TakenOver accepted human) (final : accepted.getLast? = some last) :
    last.ownerKind ≠ .agent := by
  obtain ⟨first, between, split, quiet⟩ := taken.since
  subst split
  cases between using List.reverseRecOn with
  | nil =>
      simp only [List.getLast?_append, List.getLast?_singleton, Option.some_or,
        Option.some.injEq] at final
      rw [← final, taken.isHuman]
      decide
  | append_singleton front tail _ =>
      apply quiet
      rw [← List.cons_append, ← List.append_assoc, List.getLast?_concat] at final
      simp only [Option.some.injEq] at final
      simp [final]

theorem advancing_append {accepted : List RuntimeSessionPermit} {permit : RuntimeSessionPermit}
    (advancing : Advancing accepted)
    (generation : ∀ last, accepted.getLast? = some last → last.generation ≤ permit.generation)
    (epoch : ∀ executor epoch, lastExecutor accepted = some executor →
      executorOf permit = some epoch →
      executor.taskId = epoch.taskId ∧ executor.token ≤ epoch.token) :
    Advancing (accepted ++ [permit]) := by
  refine ⟨?_, ?_⟩
  · exact pairwise_concat (fun _ _ _ => Nat.le_trans) advancing.generation generation
  · rw [List.filterMap_append]
    cases named : executorOf permit with
    | none => simpa [named] using advancing.executor
    | some next =>
        simp only [List.filterMap_cons, named, List.filterMap_nil]
        refine pairwise_concat ?_ advancing.executor fun last final => epoch last next final named
        intro first second third before after
        exact ⟨before.1.trans after.1, before.2.trans after.2⟩

theorem takeover_append {accepted : List RuntimeSessionPermit} {permit : RuntimeSessionPermit}
    (fenced : Fenced accepted)
    (takeover : ∀ human executor token, permit.ownerKind = .agent → TakenOver accepted human →
      lastExecutor accepted = some executor → permit.token = some token →
      executor.token < token ∨ human.generation < permit.generation)
    (advancing : Advancing (accepted ++ [permit])) : Fenced (accepted ++ [permit]) := by
  refine ⟨advancing, ?_⟩
  intro earlier agent later human executor token split isAgent taken final names
  cases later using List.reverseRecOn with
  | nil =>
      obtain ⟨same, last⟩ := List.append_inj' split rfl
      simp only [List.cons.injEq, and_true] at last
      subst same last
      exact takeover human executor token isAgent taken final names
  | append_singleton front tail _ =>
      rw [← List.cons_append, ← List.append_assoc] at split
      obtain ⟨same, -⟩ := List.append_inj' split rfl
      exact fenced.takeover earlier agent front human executor token same isAgent taken final names

theorem acceptedPermits_append (visited : List PermitEntry) (entry : PermitEntry) :
    acceptedPermits host sessionId (visited ++ [entry]) =
      match acceptedPermit host sessionId entry with
      | none => acceptedPermits host sessionId visited
      | some permit => acceptedPermits host sessionId visited ++ [permit] := by
  unfold acceptedPermits
  cases accepted : acceptedPermit host sessionId entry with
  | none => simp [List.filterMap_append, accepted]
  | some permit => simp [List.filterMap_append, accepted]

theorem step_tracked {visited : List PermitEntry} {entry : PermitEntry}
    (tracked : Tracked sessionId (acceptedPermits host sessionId visited) entry.2) :
    Tracked sessionId (acceptedPermits host sessionId (visited ++ [entry]))
      (entry.1.step host entry.2).state := by
  have stepped : SessionStep host sessionId entry (entry.1.step host entry.2).state :=
    step_session entry
  rw [acceptedPermits_append]
  revert stepped
  generalize (entry.1.step host entry.2).state = after
  intro stepped
  cases stepped with
  | kept after quiet permits revoked executor =>
      rw [quiet]
      refine ⟨?_, executor.trans tracked.executor, tracked.advancing⟩
      rw [permits, revoked]
      exact tracked.registered
  | revoked after quiet permits revoked executor =>
      rw [quiet]
      refine ⟨?_, executor.trans tracked.executor, tracked.advancing⟩
      rw [revoked]
      simp
  | admitted now identity permit serverTime roundTripMs admission call mine accepts admits =>
      rw [accepts]
      have named := executorOf_epoch admits.epoch
      have last := tracked.registered (by rw [← mine]; exact admits.live)
      obtain ⟨left, -, -, registered⟩ := admits.left
      refine ⟨?_, ?_, advancing_append tracked.advancing ?_ ?_⟩
      · simp [registered]
      · rw [lastExecutor_append, named, ← tracked.executor]
        cases epoch : admission.epoch <;> simp [SessionPermits.register, epoch]
      · intro previous final
        rw [← last] at final
        obtain ⟨existing, found, same⟩ := Option.map_eq_some_iff.mp final
        rw [← same]
        exact admits.generation existing (by rw [mine, found])
      · intro executor epoch final names
        rw [← tracked.executor] at final
        have fresh := admits.epochFresh
        rw [mine, final] at fresh
        exact epochFresh_executor fresh names

theorem admitted_newer {visited : List PermitEntry} {entry : PermitEntry} {now : ClockReadings}
    {identity : SessionIdentity} {permit human : RuntimeSessionPermit}
    {serverTime : Option String} {roundTripMs : Rat} {admission : SessionPermits.Admission}
    {executor : ExecutorEpoch} {token : Int}
    (tracked : Tracked sessionId (acceptedPermits host sessionId visited) entry.2)
    (handsBack : HandsBack host sessionId visited entry)
    (call : entry.1 = .accept now identity permit serverTime roundTripMs)
    (mine : identity.sessionId = sessionId)
    (admits : SessionPermits.Admitted host now identity permit serverTime roundTripMs entry.2
      admission)
    (isAgent : permit.ownerKind = .agent)
    (taken : TakenOver (acceptedPermits host sessionId visited) human)
    (final : lastExecutor (acceptedPermits host sessionId visited) = some executor)
    (names : permit.token = some token) :
    executor.token < token ∨ human.generation < permit.generation := by
  rw [← tracked.executor] at final
  have last := tracked.registered (by rw [← mine]; exact admits.live)
  obtain ⟨previous, previousLast⟩ : ∃ previous,
      (acceptedPermits host sessionId visited).getLast? = some previous := by
    cases nothing : (acceptedPermits host sessionId visited).getLast? with
    | none =>
        have member := taken.mem
        rw [List.getLast?_eq_none_iff.mp nothing] at member
        simp at member
    | some previous => exact ⟨previous, rfl⟩
  have held := previousLast
  rw [← last] at held
  obtain ⟨existing, found, same⟩ := Option.map_eq_some_iff.mp held
  have ordered : human.generation ≤ existing.value.generation := by
    rw [same]
    rcases related_last tracked.advancing.generation previousLast taken.mem with equal | before
    · rw [equal]
    · exact before
  have notAgent := taken.last previousLast
  rw [← same] at notAgent
  cases kind : existing.value.ownerKind with
  | agent => exact absurd kind notAgent
  | human =>
      have checked := admits.takeover
      rw [mine, found, final] at checked
      rcases takeover_newer checked kind isAgent names with newer | raised
      · exact Or.inl newer
      · exact Or.inr (lt_of_le_of_lt ordered raised)
  | startup =>
      exact handsBack now identity permit serverTime roundTripMs existing executor token human
        call mine isAgent found (Or.inl kind) final names taken
  | system =>
      exact handsBack now identity permit serverTime roundTripMs existing executor token human
        call mine isAgent found (Or.inr kind) final names taken

theorem step_fenced {visited : List PermitEntry} {entry : PermitEntry}
    (tracked : Tracked sessionId (acceptedPermits host sessionId visited) entry.2)
    (fenced : Fenced (acceptedPermits host sessionId visited))
    (handsBack : HandsBack host sessionId visited entry) :
    Fenced (acceptedPermits host sessionId (visited ++ [entry])) := by
  have advancing := (step_tracked tracked).advancing
  have stepped : SessionStep host sessionId entry (entry.1.step host entry.2).state :=
    step_session entry
  rw [acceptedPermits_append] at advancing ⊢
  revert stepped
  generalize (entry.1.step host entry.2).state = after
  intro stepped
  cases stepped with
  | kept after quiet permits revoked executor =>
      rw [quiet]
      exact fenced
  | revoked after quiet permits revoked executor =>
      rw [quiet]
      exact fenced
  | admitted now identity permit serverTime roundTripMs admission call mine accepts admits =>
      rw [accepts] at advancing ⊢
      exact takeover_append fenced (fun _ _ _ isAgent taken final names =>
        admitted_newer tracked handsBack call mine admits isAgent taken final names) advancing

/-- The accepted permits of a session never go back, and are fenced when no interrupted executor
is offered the browser over a startup or system permit. -/
theorem accepted_permits_fenced {wallNow monotonicNow : Rat} {finish : SessionPermits}
    {made : List PermitEntry}
    (path : Path (PermitCall.step host) (SessionPermits.create wallNow monotonicNow) made finish) :
    Advancing (acceptedPermits host sessionId made) ∧
      ((∀ visited entry after, made = visited ++ entry :: after →
        HandsBack host sessionId visited entry) →
          Fenced (acceptedPermits host sessionId made)) := by
  have initially : Tracked sessionId (acceptedPermits host sessionId [])
      (SessionPermits.create wallNow monotonicNow) :=
    ⟨fun _ => rfl, rfl, List.Pairwise.nil, List.Pairwise.nil⟩
  have unfenced : Fenced (acceptedPermits host sessionId []) := by
    refine ⟨⟨List.Pairwise.nil, List.Pairwise.nil⟩, ?_⟩
    intro earlier agent later human executor token split
    simp [acceptedPermits] at split
  constructor
  · exact (path.history
      (fun visited state => Tracked sessionId (acceptedPermits host sessionId visited) state)
      initially fun _ _ _ _ held => step_tracked held).advancing
  · intro handsBack
    exact (path.history
      (fun visited state => Tracked sessionId (acceptedPermits host sessionId visited) state ∧
        Fenced (acceptedPermits host sessionId visited))
      ⟨initially, unfenced⟩ fun visited entry after split held =>
        ⟨step_tracked held.1, step_fenced held.1 held.2 (handsBack visited entry after split)⟩).2

/-- An agent, the person who takes over, a system permit, and the interrupted agent again. -/
def handedBack : List PermitCall :=
  [offer 0 (samplePermit .agent "2" "2026-09-04T00:00:10Z"),
    offer 1 (samplePermit .human "2" "2026-09-04T00:00:10Z"),
    offer 2 (samplePermit .system "2" "2026-09-04T00:00:10Z"),
    offer 3 (samplePermit .agent "2" "2026-09-04T00:00:10Z")]

theorem interrupted_executor_regains :
    ∃ finish made, Path (PermitCall.step permitHost) freshRegistry made finish ∧
      ¬ Fenced (acceptedPermits permitHost sampleIdentity.sessionId made) := by
  refine ⟨_, _, visits_path handedBack freshRegistry, ?_⟩
  intro fenced
  have accepted : acceptedPermits permitHost sampleIdentity.sessionId
      (visits (PermitCall.step permitHost) handedBack freshRegistry) =
        [samplePermit .agent "2" "2026-09-04T00:00:10Z",
          samplePermit .human "2" "2026-09-04T00:00:10Z",
          samplePermit .system "2" "2026-09-04T00:00:10Z"] ++
        samplePermit .agent "2" "2026-09-04T00:00:10Z" :: [] := by
    decide +kernel
  have newer := fenced.takeover _ _ _ (samplePermit .human "2" "2026-09-04T00:00:10Z")
    { taskId := "0d6ff6c6-2f43-4b8e-8a54-6f6f3a9b1c21", token := 2 } 2 accepted rfl
    ⟨rfl, [_], [_], rfl, by decide⟩ (by decide) (by decide)
  revert newer
  decide

def resumed : List PermitCall :=
  [offer 0 (samplePermit .agent "2" "2026-09-04T00:00:10Z"),
    offer 1 (samplePermit .human "2" "2026-09-04T00:00:10Z"),
    offer 2 (samplePermit .agent "3" "2026-09-04T00:00:10Z")]

theorem resumed_permits_fenced :
    Fenced (acceptedPermits permitHost sampleIdentity.sessionId
      (visits (PermitCall.step permitHost) resumed freshRegistry)) := by
  refine (accepted_permits_fenced (visits_path resumed freshRegistry)).2 ?_
  intro visited entry after split now identity permit serverTime roundTripMs existing executor
    token human call mine isAgent found kind
  have member : entry ∈ visits (PermitCall.step permitHost) resumed freshRegistry := by
    rw [split]
    simp
  have owned : ∀ entry ∈ visits (PermitCall.step permitHost) resumed freshRegistry,
      (entry.2.permits sampleIdentity.sessionId).all (fun existing =>
        existing.value.ownerKind == .agent || existing.value.ownerKind == .human) = true := by
    decide +kernel
  have here := owned entry member
  rw [found] at here
  rcases kind with startup | system
  · simp [startup] at here
  · simp [system] at here

end Sessions

/-! A local deadline is later than the server's by roundings only. -/

section Clocks

variable (host : Host)

def trueServerTime (offset now : Rat) : Rat :=
  now + offset

/-- The response of a clock synchronization, received at the reading `now`: the server's time
lies between the time it reports and that time plus the round trip. -/
def ReceivedAt (offset now : Rat) (serverTime : String) (roundTripMs : Rat) : Prop :=
  ∃ server, host.parseDate serverTime = some server ∧
    server ≤ trueServerTime offset now ∧ trueServerTime offset now ≤ server + roundTripMs

/-- A call that reports the server's time is made when its response is received, the clock
reads one value within a call, and an `accept` without a server time follows a synchronization. -/
def WellTimed (offset : Rat) (visited : List PermitEntry) (entry : PermitEntry) : Prop :=
  match entry.1 with
  | .synchronizeClock now serverTime roundTripMs =>
      ReceivedAt host offset now serverTime roundTripMs
  | .accept now _ _ serverTime roundTripMs =>
      now.checked = now.registered ∧ now.cached = now.registered ∧
        match truthy serverTime with
        | some text => ReceivedAt host offset now.registered text roundTripMs
        | none => ∃ earlier ∈ visited, ∃ at_ text roundTrip,
            earlier.1 = .synchronizeClock at_ text roundTrip
  | _ => True

/-- The amounts that a call reckons with: clock readings, round trips and dates. -/
def PermitCall.amounts (call : PermitCall) : List Rat :=
  call.readings ++
    match call with
    | .synchronizeClock _ serverTime roundTripMs =>
        roundTripMs :: ((host.parseDate serverTime).map fun date : Int => (date : Rat)).toList
    | .accept _ _ permit serverTime roundTripMs =>
        roundTripMs :: ((truthy serverTime).toList ++ [permit.expiresAt]).flatMap fun text =>
          ((host.parseDate text).map fun date : Int => (date : Rat)).toList
    | _ => []

def Bounded (bound : Rat) (entry : PermitEntry) : Prop :=
  ∀ amount ∈ entry.1.amounts host, |amount| ≤ bound

def PermitCall.synchronizes : PermitCall → Bool
  | .synchronizeClock _ _ _ => true
  | _ => false

/-- Once it is synchronized the cached clock is behind the server by one rounding at most, and a
registered deadline is later than the server's expiry of the permit by five. -/
structure ClockSound (offset bound : Rat) (visited : List PermitEntry) (state : SessionPermits) :
    Prop where
  clock : (∃ earlier ∈ visited, earlier.1.synchronizes = true) →
    trueServerTime offset state.serverClock.monotonicAt ≤
        state.serverClock.timestamp + 2 * bound / 2 ^ 53 ∧
      |state.serverClock.monotonicAt| ≤ bound ∧ |state.serverClock.timestamp| ≤ 3 * bound
  deadlines : ∀ sessionId registered, state.permits sessionId = some registered →
    ∃ expiresAt, host.parseDate registered.value.expiresAt = some expiresAt ∧
      trueServerTime offset registered.deadline ≤ expiresAt + bound / 2 ^ 48

variable {host}

theorem step_serverClock {call : PermitCall} (other : call.synchronizes = false)
    (state : SessionPermits) : (call.step host state).state.serverClock = state.serverClock := by
  cases call with
  | synchronizeClock now serverTime roundTripMs => simp [PermitCall.synchronizes] at other
  | setConnected connected => rfl
  | revoke sessionId => rfl
  | accept now identity permit serverTime roundTripMs =>
      simp only [PermitCall.step]
      rcases SessionPermits.accept_cases now identity permit serverTime roundTripMs state with
        ⟨admission, -, accepts⟩ | ⟨-, same | revoked⟩
      · rw [accepts]
        rfl
      · rw [same]
      · rw [revoked]
        rfl
  | assert now identity owner allowStartup =>
      simp only [PermitCall.step]
      rcases (SessionPermits.assert_cases now identity owner allowStartup state).2 with
        same | revoked
      · rw [same]
      · rw [revoked]
        rfl
  | networkAllowed now identity =>
      simp only [PermitCall.step, Outcome.done_state, SessionPermits.networkAllowed_eq]
      rcases (SessionPermits.assert_cases now identity none false state).2 with same | revoked
      · rw [same]
      · rw [revoked]
        rfl

theorem double_sum {value bound : Rat} (count : Rat) (small : |value| ≤ count * bound) :
    double value ≤ value + count * bound / 2 ^ 53 ∧ value ≤ double value + count * bound / 2 ^ 53 ∧
      |double value| ≤ (count + count / 2 ^ 53) * bound := by
  obtain ⟨above, below⟩ := double_within small
  obtain ⟨low, high⟩ := abs_le.mp small
  refine ⟨above, by linarith, abs_le.mpr ⟨?_, ?_⟩⟩
  · linarith
  · linarith

theorem received_late {offset now roundTripMs bound server : Rat}
    (early : trueServerTime offset now ≤ server + roundTripMs) (date : |server| ≤ bound)
    (trip : |roundTripMs| ≤ bound) :
    trueServerTime offset now ≤ double (server + max 0 roundTripMs) + 2 * bound / 2 ^ 53 ∧
      |double (server + max 0 roundTripMs)| ≤ 3 * bound := by
  have nonneg : 0 ≤ bound := (abs_nonneg _).trans date
  have size : |server + max 0 roundTripMs| ≤ 2 * bound := by
    rw [abs_le] at date trip ⊢
    rcases max_cases 0 roundTripMs with ⟨same, -⟩ | ⟨same, -⟩ <;> rw [same] <;>
      constructor <;> linarith
  obtain ⟨-, below, sized⟩ := double_sum 2 size
  have more : roundTripMs ≤ max 0 roundTripMs := le_max_right _ _
  exact ⟨by linarith, by linarith⟩

/-- The server time an `accept` reckons with is behind the server by three roundings at most. -/
theorem serverNow_late {offset now reckoned roundTripMs bound : Rat} {clock : ServerClock}
    {serverTime : Option String}
    (reported : ∀ text, truthy serverTime = some text →
      ReceivedAt host offset now text roundTripMs)
    (dates : ∀ text date, truthy serverTime = some text → host.parseDate text = some date →
      |(date : Rat)| ≤ bound)
    (trip : |roundTripMs| ≤ bound) (read : |now| ≤ bound)
    (cached : truthy serverTime = none →
      trueServerTime offset clock.monotonicAt ≤ clock.timestamp + 2 * bound / 2 ^ 53 ∧
        |clock.monotonicAt| ≤ bound ∧ |clock.timestamp| ≤ 3 * bound)
    (found : SessionPermits.serverNow host now clock serverTime roundTripMs = some reckoned) :
    trueServerTime offset now ≤ reckoned + 12 * bound / 2 ^ 53 ∧ |reckoned| ≤ 7 * bound := by
  have nonneg : 0 ≤ bound := (abs_nonneg _).trans trip
  unfold SessionPermits.serverNow at found
  cases stated : truthy serverTime with
  | none =>
      rw [stated] at found
      simp only [Option.some.injEq] at found
      obtain ⟨synchronized, monotonic, timestamp⟩ := cached stated
      have first : |clock.timestamp + now| ≤ 4 * bound :=
        (abs_add_le _ _).trans (by linarith)
      obtain ⟨-, below, sized⟩ := double_sum 4 first
      have second : |double (clock.timestamp + now) - clock.monotonicAt| ≤ 6 * bound :=
        (abs_sub _ _).trans (by linarith)
      obtain ⟨-, below', sized'⟩ := double_sum 6 second
      rw [found] at below' sized'
      unfold trueServerTime at synchronized ⊢
      exact ⟨by linarith, by linarith⟩
  | some text =>
      obtain ⟨server, parsed, -, late⟩ := reported text stated
      rw [stated] at found
      simp only [parsed, Option.map_some, Option.some.injEq] at found
      obtain ⟨behind, sized⟩ := received_late late (dates text server stated parsed) trip
      rw [found] at behind sized
      exact ⟨by linarith, by linarith⟩

theorem deadline_late {offset now reckoned expiresAt bound : Rat}
    (late : trueServerTime offset now ≤ reckoned + 12 * bound / 2 ^ 53)
    (size : |reckoned| ≤ 7 * bound) (date : |expiresAt| ≤ bound) (read : |now| ≤ bound) :
    trueServerTime offset (double (now + double (expiresAt - reckoned))) ≤
      expiresAt + bound / 2 ^ 48 := by
  have nonneg : 0 ≤ bound := (abs_nonneg _).trans date
  have first : |expiresAt - reckoned| ≤ 8 * bound := (abs_sub _ _).trans (by linarith)
  obtain ⟨above, -, sized⟩ := double_sum 8 first
  have second : |now + double (expiresAt - reckoned)| ≤ 10 * bound :=
    (abs_add_le _ _).trans (by linarith)
  obtain ⟨above', -, -⟩ := double_sum 10 second
  unfold trueServerTime at late ⊢
  linarith

theorem step_deadlines {offset bound : Rat} {visited : List PermitEntry} {entry : PermitEntry}
    (sound : ClockSound host offset bound visited entry.2)
    (timed : WellTimed host offset visited entry) (bounded : Bounded host bound entry)
    {sessionId : String} {registered : RegisteredPermit}
    (found : (entry.1.step host entry.2).state.permits sessionId = some registered) :
    ∃ expiresAt, host.parseDate registered.value.expiresAt = some expiresAt ∧
      trueServerTime offset registered.deadline ≤ expiresAt + bound / 2 ^ 48 := by
  have stepped : SessionStep host sessionId entry (entry.1.step host entry.2).state :=
    step_session entry
  revert stepped found
  generalize (entry.1.step host entry.2).state = after
  intro found stepped
  cases stepped with
  | kept after quiet permits revoked executor =>
      exact sound.deadlines sessionId registered (permits.symm.trans found)
  | revoked after quiet permits revoked executor =>
      rw [permits] at found
      simp at found
  | admitted now identity permit serverTime roundTripMs admission call mine accepts admits =>
      obtain ⟨left, reckons, positive, stored⟩ := admits.left
      simp only [SessionPermits.register_permits, Function.update_self, Option.some.injEq,
        stored] at found
      subst found
      simp only [SessionPermits.remaining, Option.bind_eq_bind, Option.bind_eq_some_iff,
        Option.pure_def, Option.some.injEq] at reckons
      obtain ⟨expiresAt, parsed, reckoned, current, same⟩ := reckons
      refine ⟨expiresAt, parsed, ?_⟩
      simp only [WellTimed, call] at timed
      obtain ⟨-, once, source⟩ := timed
      rw [once] at current
      have read : |now.registered| ≤ bound :=
        bounded _ (by simp [call, PermitCall.amounts, PermitCall.readings])
      have late := serverNow_late (fun text stated => by rw [stated] at source; exact source)
        (fun text date stated dated => bounded _ (by
          simp [call, PermitCall.amounts, stated, dated]))
        (bounded _ (by simp [call, PermitCall.amounts])) read
        (fun unstated => by
          rw [unstated] at source
          obtain ⟨earlier, member, at_, text, roundTrip, synchronized⟩ := source
          exact sound.clock ⟨earlier, member, by rw [synchronized]; rfl⟩) current
      rw [← same]
      exact deadline_late late.1 late.2
        (bounded _ (by simp [call, PermitCall.amounts, parsed])) read

theorem step_clock {offset bound : Rat} {visited : List PermitEntry} {entry : PermitEntry}
    (sound : ClockSound host offset bound visited entry.2)
    (timed : WellTimed host offset visited entry) (bounded : Bounded host bound entry)
    (synchronized : ∃ earlier ∈ visited ++ [entry], earlier.1.synchronizes = true) :
    trueServerTime offset (entry.1.step host entry.2).state.serverClock.monotonicAt ≤
        (entry.1.step host entry.2).state.serverClock.timestamp + 2 * bound / 2 ^ 53 ∧
      |(entry.1.step host entry.2).state.serverClock.monotonicAt| ≤ bound ∧
        |(entry.1.step host entry.2).state.serverClock.timestamp| ≤ 3 * bound := by
  cases own : entry.1.synchronizes with
  | false =>
      rw [step_serverClock own]
      apply sound.clock
      obtain ⟨earlier, member, synchronizes⟩ := synchronized
      rcases List.mem_append.mp member with before | same
      · exact ⟨earlier, before, synchronizes⟩
      · rw [List.mem_singleton.mp same, own] at synchronizes
        simp at synchronizes
  | true =>
      obtain ⟨call, state⟩ := entry
      cases call with
      | synchronizeClock now serverTime roundTripMs =>
          obtain ⟨server, parsed, -, late⟩ := timed
          obtain ⟨behind, sized⟩ := received_late late
            (bounded _ (by simp [PermitCall.amounts, parsed]))
            (bounded roundTripMs (by simp [PermitCall.amounts]))
          simp only [PermitCall.step, Outcome.done_state, SessionPermits.synchronizeClock, parsed]
          exact ⟨behind, bounded _ (by simp [PermitCall.amounts, PermitCall.readings]), sized⟩
      | setConnected connected => simp [PermitCall.synchronizes] at own
      | revoke sessionId => simp [PermitCall.synchronizes] at own
      | accept now identity permit serverTime roundTripMs =>
          simp [PermitCall.synchronizes] at own
      | assert now identity owner allowStartup => simp [PermitCall.synchronizes] at own
      | networkAllowed now identity => simp [PermitCall.synchronizes] at own

/-- A session acts only while the server still holds the permit that is registered for it, up to
the rounding of amounts of this size. -/
theorem passes_before_expiry {wallNow monotonicNow offset bound : Rat} {finish : SessionPermits}
    {made : List PermitEntry}
    (path : Path (PermitCall.step host) (SessionPermits.create wallNow monotonicNow) made finish)
    (timed : ∀ visited entry after, made = visited ++ entry :: after →
      WellTimed host offset visited entry)
    (bounded : ∀ entry ∈ made, Bounded host bound entry) :
    ∀ visited entry after sessionId, made = visited ++ entry :: after →
      passes sessionId entry = true →
      ∃ registered now expiresAt, entry.2.permits sessionId = some registered ∧
        entry.1.readings = [now] ∧ host.parseDate registered.value.expiresAt = some expiresAt ∧
        trueServerTime offset now < expiresAt + bound / 2 ^ 48 := by
  intro visited entry after sessionId split granted
  have initially : ClockSound host offset bound [] (SessionPermits.create wallNow monotonicNow) :=
    ⟨by simp, by simp [SessionPermits.create]⟩
  rw [split] at path
  obtain ⟨middle, before, onward⟩ := path.split
  have reached : middle = entry.2 := by
    cases onward
    rfl
  subst reached
  have sound := before.history (ClockSound host offset bound) initially
    fun earlier step later here held => by
      have timedHere := timed earlier step (later ++ entry :: after) (by
        rw [split, here, List.append_assoc, List.cons_append])
      have boundedHere := bounded step (by rw [split, here]; simp)
      exact ⟨step_clock held timedHere boundedHere,
        fun _ _ => step_deadlines held timedHere boundedHere⟩
  obtain ⟨-, registered, now, found, read, inTime⟩ := passes_registered granted
  obtain ⟨expiresAt, parsed, late⟩ := sound.deadlines sessionId registered found
  refine ⟨registered, now, expiresAt, found, read, parsed, ?_⟩
  unfold trueServerTime at late ⊢
  linarith

def synchronized : List PermitCall :=
  [.synchronizeClock 0 "2026-09-04T00:00:00Z" 100,
    offer 0 (samplePermit .agent "2" "2026-09-04T00:00:10Z")]

def timelyCommand : PermitCall :=
  .assert 9899 sampleIdentity none false

theorem synchronized_permit_live :
    ∃ registered now expiresAt,
      (arrival (PermitCall.step permitHost) synchronized freshRegistry).permits
          sampleIdentity.sessionId = some registered ∧
        timelyCommand.readings = [now] ∧
        permitHost.parseDate registered.value.expiresAt = some expiresAt ∧
        trueServerTime 1788480000050 now < expiresAt + 2 ^ 41 / 2 ^ 48 := by
  have split : visits (PermitCall.step permitHost) (synchronized ++ [timelyCommand])
      freshRegistry = _ ++ [(timelyCommand, _)] :=
    visits_append synchronized [timelyCommand] freshRegistry
  refine passes_before_expiry (visits_path (synchronized ++ [timelyCommand]) freshRegistry) ?_
    ?_ _ (timelyCommand, _) [] sampleIdentity.sessionId split (by decide +kernel)
  · intro visited entry after here
    rcases visited with _ | ⟨first, _ | ⟨second, _ | ⟨third, rest⟩⟩⟩
    · obtain ⟨rfl, -⟩ := List.cons.inj here
      exact ⟨1788480000000, by decide, by norm_num [trueServerTime],
        by norm_num [trueServerTime]⟩
    · obtain ⟨rfl, later⟩ := List.cons.inj here
      obtain ⟨rfl, -⟩ := List.cons.inj later
      exact ⟨rfl, rfl, _, List.mem_singleton_self _, 0, "2026-09-04T00:00:00Z", 100, rfl⟩
    · obtain ⟨rfl, later⟩ := List.cons.inj here
      obtain ⟨rfl, last⟩ := List.cons.inj later
      obtain ⟨rfl, -⟩ := List.cons.inj last
      trivial
    · have long := congrArg List.length here
      simp [visits, synchronized] at long
  · unfold Bounded
    decide +kernel

/-- A round trip of which binary64 has no room beside a date: its sum is rounded down. -/
def roundedDown : List PermitCall :=
  [.accept ⟨0, 0, 0⟩ sampleIdentity (samplePermit .agent "2" "2026-09-04T00:00:10Z")
      (some "2026-09-04T00:00:00Z") (16 + 1 / 2 ^ 14),
    .assert (9984 - 1 / 2 ^ 15) sampleIdentity none false]

/-- The command is let through although the server's time is past the expiry of its permit. -/
theorem rounded_permit_outlives :
    (∀ visited entry after,
      visits (PermitCall.step permitHost) roundedDown freshRegistry = visited ++ entry :: after →
        WellTimed permitHost (1788480000016 + 1 / 2 ^ 14) visited entry) ∧
    ∃ entry ∈ visits (PermitCall.step permitHost) roundedDown freshRegistry,
      passes sampleIdentity.sessionId entry = true ∧ entry.1.readings = [9984 - 1 / 2 ^ 15] ∧
      ((entry.2.permits sampleIdentity.sessionId).bind fun registered =>
        permitHost.parseDate registered.value.expiresAt) = some 1788480010000 ∧
      1788480010000 < trueServerTime (1788480000016 + 1 / 2 ^ 14) (9984 - 1 / 2 ^ 15) := by
  constructor
  · intro visited entry after here
    rcases visited with _ | ⟨first, _ | ⟨second, rest⟩⟩
    · obtain ⟨rfl, -⟩ := List.cons.inj here
      exact ⟨rfl, rfl, 1788480000000, by decide, by norm_num [trueServerTime],
        by norm_num [trueServerTime]⟩
    · obtain ⟨rfl, later⟩ := List.cons.inj here
      obtain ⟨rfl, -⟩ := List.cons.inj later
      trivial
    · have long := congrArg List.length here
      simp [visits, roundedDown] at long
  · refine ⟨_, List.mem_cons_of_mem _ (List.mem_singleton_self _), ?_⟩
    decide +kernel

end Clocks

end Devproof
