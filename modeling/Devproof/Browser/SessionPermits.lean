import Mathlib.Algebra.Order.Ring.Unbundled.Rat
import Mathlib.Logic.Function.Basic
import Devproof.Host
import Devproof.Lib.Double
import Devproof.Lib.Machine
import Devproof.ExecutionState

/-!
The registry of execution permits of a browser runtime (session-permits.ts).
Sums and differences of clock values are binary64; `Date.parse` is the host's and may be
`NaN`.
-/

namespace Devproof

inductive OwnerKind where
  | startup
  | agent
  | human
  | system
  deriving Repr, DecidableEq

structure SessionIdentity where
  sessionId : String
  leaseToken : String
  fencingToken : String
  deriving Repr, DecidableEq

structure RuntimeSessionPermit where
  sessionId : String
  fencingToken : String
  leaseToken : String
  ownerKind : OwnerKind
  ownerTaskId : Option String := none
  ownerFencingToken : Option String := none
  controlGeneration : Option Nat := none
  expiresAt : String
  deriving Repr, DecidableEq

structure RegisteredPermit where
  value : RuntimeSessionPermit
  deadline : Rat
  deriving Repr, DecidableEq

structure ExecutorEpoch where
  taskId : String
  token : Int
  deriving Repr, DecidableEq

structure ServerClock where
  timestamp : Rat
  monotonicAt : Rat
  deriving Repr, DecidableEq

structure CommandOwner where
  ownerKind : Option OwnerKind := none
  ownerTaskId : Option String := none
  ownerFencingToken : Option String := none
  controlGeneration : Option Nat := none
  deriving Repr, DecidableEq

structure SessionPermits where
  permits : String → Option RegisteredPermit := fun _ => none
  revoked : String → Bool := fun _ => false
  executorEpochs : String → Option ExecutorEpoch := fun _ => none
  connected : Bool := true
  serverClock : ServerClock

/-- The readings of the monotonic clock in one `accept`: at the deadline check,
in the cached server clock, and at the registration. -/
structure ClockReadings where
  checked : Rat
  cached : Rat
  registered : Rat
  deriving Repr, DecidableEq

inductive Refusal where
  | denied (message : String)
  | expired (message : String)
  | syntaxError
  deriving Repr, DecidableEq

namespace RuntimeSessionPermit

def generation (permit : RuntimeSessionPermit) : Nat :=
  permit.controlGeneration.getD 0

def executor (permit : RuntimeSessionPermit) : Option (String × String) :=
  match truthy permit.ownerTaskId, truthy permit.ownerFencingToken with
  | some taskId, some token => some (taskId, token)
  | _, _ => none

end RuntimeSessionPermit

namespace SessionPermits

variable (host : Host)

def create (wallNow monotonicNow : Rat) : SessionPermits :=
  { serverClock := { timestamp := wallNow, monotonicAt := monotonicNow } }

def synchronizeClock (now : Rat) (serverTime : String) (roundTripMs : Rat)
    (state : SessionPermits) : SessionPermits :=
  match host.parseDate serverTime with
  | none => state
  | some server =>
      { state with
        serverClock := { timestamp := double (server + max 0 roundTripMs), monotonicAt := now } }

def setConnected (connected : Bool) (state : SessionPermits) : SessionPermits :=
  { state with connected := connected }

def revoke (sessionId : String) (state : SessionPermits) : SessionPermits :=
  { state with
    revoked := Function.update state.revoked sessionId true
    permits := Function.update state.permits sessionId none }

def refuseIf (condition : Option Bool) (refusal : Refusal) : Except Refusal Unit :=
  match condition with
  | none => .error .syntaxError
  | some true => .error refusal
  | some false => .ok ()

def staleEpoch (executor : Option ExecutorEpoch) (permit : RuntimeSessionPermit) : Option Bool :=
  match executor, permit.executor with
  | some executor, some (taskId, token) =>
      if executor.taskId ≠ taskId then some true
      else (bigInt token).map fun token => decide (token < executor.token)
  | _, _ => some false

def takesOver (existing : Option RegisteredPermit) (executor : Option ExecutorEpoch)
    (permit : RuntimeSessionPermit) : Option Bool :=
  match existing, executor with
  | some existing, some executor =>
      if existing.value.ownerKind = .human ∧ permit.ownerKind = .agent then
        (permit.ownerFencingToken.bind bigInt).map fun token =>
          decide (token ≤ executor.token) &&
            decide (permit.generation ≤ existing.value.generation)
      else some false
  | _, _ => some false

/-- The offered owner is another task, or an older epoch, than the registered permit names. -/
def staleOwner (existing : Option RegisteredPermit) (permit : RuntimeSessionPermit) :
    Option Bool :=
  match existing with
  | none => some false
  | some existing =>
      match truthy existing.value.ownerFencingToken, truthy permit.ownerFencingToken with
      | some registered, some offered =>
          if existing.value.ownerTaskId ≠ permit.ownerTaskId then some true
          else do
            let offered ← bigInt offered
            let registered ← bigInt registered
            return decide (offered < registered)
      | _, _ => some false

def sameOwner (existing permit : RuntimeSessionPermit) : Bool :=
  existing.ownerKind == permit.ownerKind &&
    existing.ownerTaskId == permit.ownerTaskId &&
    existing.ownerFencingToken == permit.ownerFencingToken &&
    existing.generation == permit.generation

def notAfter (left right : String) : Bool :=
  match host.parseDate left, host.parseDate right with
  | some first, some second => first ≤ second
  | _, _ => false

def staleSnapshot (existing : Option RegisteredPermit) (permit : RuntimeSessionPermit) : Bool :=
  existing.any fun existing =>
    sameOwner existing.value permit && notAfter host permit.expiresAt existing.value.expiresAt

def serverNow (cached : Rat) (clock : ServerClock) (serverTime : Option String)
    (roundTripMs : Rat) : Option Rat :=
  match truthy serverTime with
  | some text =>
      (host.parseDate text).map fun server : Int => double ((server : Rat) + max 0 roundTripMs)
  | none => some (double (double (clock.timestamp + cached) - clock.monotonicAt))

def remaining (cached : Rat) (clock : ServerClock) (permit : RuntimeSessionPermit)
    (serverTime : Option String) (roundTripMs : Rat) : Option Rat := do
  let expiresAt ← host.parseDate permit.expiresAt
  let now ← serverNow host cached clock serverTime roundTripMs
  return double (expiresAt - now)

/-- `executorEpochs.set`, when the permit names an executor; an error where `BigInt` throws. -/
def epochOf (permit : RuntimeSessionPermit) : Except Refusal (Option ExecutorEpoch) :=
  match permit.executor with
  | none => .ok none
  | some (taskId, token) =>
      match bigInt token with
      | none => .error .syntaxError
      | some token => .ok (some { taskId, token })

structure Admission where
  epoch : Option ExecutorEpoch
  registered : RegisteredPermit
  deriving Repr, DecidableEq

def judge (now : ClockReadings) (identity : SessionIdentity) (permit : RuntimeSessionPermit)
    (serverTime : Option String) (roundTripMs : Rat) (state : SessionPermits) :
    Except Refusal (Option Admission) := do
  refuseIf (some (state.revoked identity.sessionId))
    (.denied "An expired or closed session cannot be revived.")
  refuseIf (some (identity.sessionId != permit.sessionId ||
      identity.fencingToken != permit.fencingToken || identity.leaseToken != permit.leaseToken))
    (.denied "The session permit belongs to another browser lease.")
  let executor := state.executorEpochs identity.sessionId
  refuseIf (staleEpoch executor permit)
    (.denied "The execution permit belongs to a stale owner.")
  let existing := state.permits identity.sessionId
  refuseIf (some (existing.any fun existing => existing.deadline ≤ now.checked))
    (.expired "The previous session permit expired before renewal arrived.")
  refuseIf (some (existing.any fun existing => permit.generation < existing.value.generation))
    (.denied "The execution permit belongs to a stale control generation.")
  refuseIf (takesOver existing executor permit)
    (.denied "Resuming after human control requires a new executor epoch.")
  refuseIf (some (existing.any fun existing =>
      existing.value.ownerKind == .agent && permit.ownerKind == .startup))
    (.denied "An execution permit cannot be downgraded to startup.")
  refuseIf (staleOwner existing permit)
    (.denied "The execution permit belongs to a stale owner.")
  if staleSnapshot host existing permit then return none
  match remaining host now.cached state.serverClock permit serverTime roundTripMs with
  | none => throw (.expired "The execution permit has expired.")
  | some remaining =>
      refuseIf (some (remaining ≤ 0)) (.expired "The execution permit has expired.")
      let epoch ← epochOf permit
      return some
        { epoch, registered := { value := permit, deadline := double (now.registered + remaining) } }

def refuse (sessionId : String) (refusal : Refusal) (state : SessionPermits) : SessionPermits :=
  match refusal with
  | .expired _ => state.revoke sessionId
  | _ => state

def register (sessionId : String) (admission : Admission) (state : SessionPermits) :
    SessionPermits :=
  { state with
    executorEpochs :=
      match admission.epoch with
      | none => state.executorEpochs
      | some epoch => Function.update state.executorEpochs sessionId (some epoch)
    permits := Function.update state.permits sessionId (some admission.registered) }

def accept (now : ClockReadings) (identity : SessionIdentity) (permit : RuntimeSessionPermit)
    (serverTime : Option String) (roundTripMs : Rat) (state : SessionPermits) :
    Except Refusal Bool × SessionPermits :=
  match judge host now identity permit serverTime roundTripMs state with
  | .error refusal => (.error refusal, state.refuse identity.sessionId refusal)
  | .ok none => (.ok false, state)
  | .ok (some admission) => (.ok true, state.register identity.sessionId admission)

def fromExecutor (owner : Option CommandOwner) : Bool :=
  match owner with
  | none => false
  | some owner =>
      owner.ownerKind == some .agent ||
        (owner.ownerKind.isNone &&
          ((truthy owner.ownerTaskId).isSome || (truthy owner.ownerFencingToken).isSome))

def authorize (now : Rat) (identity : SessionIdentity) (owner : Option CommandOwner)
    (allowStartup : Bool) (state : SessionPermits) : Except Refusal RuntimeSessionPermit := do
  refuseIf (some (state.revoked identity.sessionId))
    (.denied "The session has no active execution permit.")
  match state.permits identity.sessionId with
  | none => throw (.denied "The session has no active execution permit.")
  | some registered =>
      let permit := registered.value
      refuseIf (some (registered.deadline ≤ now))
        (.expired "The session execution permit expired.")
      refuseIf (some !state.connected)
        (.denied "The Runtime is disconnected from its control plane.")
      refuseIf (some (owner.any fun owner =>
          owner.controlGeneration.getD 0 != permit.generation))
        (.denied "The command belongs to a stale control generation.")
      refuseIf (some (permit.leaseToken != identity.leaseToken ||
          permit.fencingToken != identity.fencingToken))
        (.denied "The command owns a stale browser session.")
      refuseIf (some (permit.ownerKind == .startup && !allowStartup))
        (.denied "The session is waiting for an execution owner.")
      refuseIf (some ((permit.ownerKind == .human || permit.ownerKind == .system) &&
          fromExecutor owner))
        (.denied "The command owns a stale executor lease.")
      refuseIf (some (permit.ownerKind == .agent && owner.any fun owner =>
          owner.ownerTaskId != permit.ownerTaskId ||
            owner.ownerFencingToken != permit.ownerFencingToken))
        (.denied "The command owns a stale executor lease.")
      return permit

def assert (now : Rat) (identity : SessionIdentity) (owner : Option CommandOwner)
    (allowStartup : Bool) (state : SessionPermits) :
    Except Refusal RuntimeSessionPermit × SessionPermits :=
  match authorize now identity owner allowStartup state with
  | .error refusal => (.error refusal, state.refuse identity.sessionId refusal)
  | .ok permit => (.ok permit, state)

def networkAllowed (now : Rat) (identity : SessionIdentity) (state : SessionPermits) :
    Bool × SessionPermits :=
  match state.assert now identity none false with
  | (.ok _, state) => (true, state)
  | (.error _, state) => (false, state)

@[simp] theorem refuseIf_ok {condition : Option Bool} {refusal : Refusal} {result : Unit} :
    refuseIf condition refusal = .ok result ↔ condition = some false := by
  rcases condition with _ | _ | _ <;> simp [refuseIf]

structure Admitted (now : ClockReadings) (identity : SessionIdentity)
    (permit : RuntimeSessionPermit) (serverTime : Option String) (roundTripMs : Rat)
    (state : SessionPermits) (admission : Admission) : Prop where
  live : state.revoked identity.sessionId = false
  epochFresh : staleEpoch (state.executorEpochs identity.sessionId) permit = some false
  inTime : ∀ existing, state.permits identity.sessionId = some existing →
    now.checked < existing.deadline
  generation : ∀ existing, state.permits identity.sessionId = some existing →
    existing.value.generation ≤ permit.generation
  takeover : takesOver (state.permits identity.sessionId)
    (state.executorEpochs identity.sessionId) permit = some false
  left : ∃ left, remaining host now.cached state.serverClock permit serverTime roundTripMs =
      some left ∧ 0 < left ∧
    admission.registered = { value := permit, deadline := double (now.registered + left) }
  epoch : epochOf permit = .ok admission.epoch

variable {host}

theorem judge_admitted {now : ClockReadings} {identity : SessionIdentity}
    {permit : RuntimeSessionPermit} {serverTime : Option String} {roundTripMs : Rat}
    {state : SessionPermits} {admission : Admission}
    (admits : judge host now identity permit serverTime roundTripMs state = .ok (some admission)) :
    Admitted host now identity permit serverTime roundTripMs state admission := by
  unfold judge at admits
  simp only [bind_ok, refuseIf_ok, exists_const, Option.some.injEq] at admits
  obtain ⟨live, -, epochFresh, inTime, generation, takeover, -, -, rest⟩ := admits
  split at rest
  · simp [pure, Except.pure] at rest
  · split at rest
    · simp [throw, throwThe, MonadExceptOf.throw] at rest
    · rename_i left found
      simp only [bind_ok, refuseIf_ok, exists_const, Option.some.injEq, decide_eq_false_iff_not,
        Rat.not_le, pure, Except.pure, Except.ok.injEq] at rest
      obtain ⟨positive, epoch, named, same⟩ := rest
      subst same
      refine ⟨live, epochFresh, ?_, ?_, takeover, ⟨left, found, positive, rfl⟩, named⟩
      · intro existing registered
        simpa [registered, Rat.not_le] using inTime
      · intro existing registered
        simpa [registered] using generation

/-- An `accept` registers the permit, or leaves the registry, or revokes the session. -/
theorem accept_cases (now : ClockReadings) (identity : SessionIdentity)
    (permit : RuntimeSessionPermit) (serverTime : Option String) (roundTripMs : Rat)
    (state : SessionPermits) :
    (∃ admission, Admitted host now identity permit serverTime roundTripMs state admission ∧
      state.accept host now identity permit serverTime roundTripMs =
        (.ok true, state.register identity.sessionId admission)) ∨
    ((state.accept host now identity permit serverTime roundTripMs).1 ≠ .ok true ∧
      ((state.accept host now identity permit serverTime roundTripMs).2 = state ∨
        (state.accept host now identity permit serverTime roundTripMs).2 =
          state.revoke identity.sessionId)) := by
  unfold accept
  cases judged : judge host now identity permit serverTime roundTripMs state with
  | error refusal =>
      refine Or.inr ⟨by simp, ?_⟩
      cases refusal with
      | expired => exact Or.inr rfl
      | denied => exact Or.inl rfl
      | syntaxError => exact Or.inl rfl
  | ok verdict =>
      cases verdict with
      | none => exact Or.inr ⟨by simp, Or.inl rfl⟩
      | some admission => exact Or.inl ⟨admission, judge_admitted judged, rfl⟩

/-- What `assert` has checked when it passes. -/
theorem authorize_registered {now : Rat} {identity : SessionIdentity}
    {owner : Option CommandOwner} {allowStartup : Bool} {state : SessionPermits}
    {permit : RuntimeSessionPermit}
    (passes : authorize now identity owner allowStartup state = .ok permit) :
    state.revoked identity.sessionId = false ∧
      ∃ registered, state.permits identity.sessionId = some registered ∧
        registered.value = permit ∧ now < registered.deadline := by
  unfold authorize at passes
  simp only [bind_ok, refuseIf_ok, exists_const, Option.some.injEq] at passes
  obtain ⟨live, rest⟩ := passes
  refine ⟨live, ?_⟩
  split at rest
  · simp [throw, throwThe, MonadExceptOf.throw] at rest
  · rename_i registered found
    simp only [bind_ok, refuseIf_ok, exists_const, Option.some.injEq, decide_eq_false_iff_not,
      Rat.not_le, pure, Except.pure, Except.ok.injEq] at rest
    obtain ⟨inTime, -, -, -, -, -, -, same⟩ := rest
    exact ⟨registered, found, same, inTime⟩

theorem assert_cases (now : Rat) (identity : SessionIdentity) (owner : Option CommandOwner)
    (allowStartup : Bool) (state : SessionPermits) :
    (state.assert now identity owner allowStartup).1 =
        authorize now identity owner allowStartup state ∧
      ((state.assert now identity owner allowStartup).2 = state ∨
        (state.assert now identity owner allowStartup).2 = state.revoke identity.sessionId) := by
  unfold assert
  cases authorize now identity owner allowStartup state with
  | error refusal =>
      refine ⟨rfl, ?_⟩
      cases refusal with
      | expired => exact Or.inr rfl
      | denied => exact Or.inl rfl
      | syntaxError => exact Or.inl rfl
  | ok permit => exact ⟨rfl, Or.inl rfl⟩

theorem networkAllowed_eq (now : Rat) (identity : SessionIdentity) (state : SessionPermits) :
    state.networkAllowed now identity =
      ((state.assert now identity none false).1.isOk,
        (state.assert now identity none false).2) := by
  unfold networkAllowed
  cases state.assert now identity none false with
  | mk answer after => cases answer <;> rfl

@[simp] theorem revoke_revoked (sessionId : String) (state : SessionPermits) :
    (state.revoke sessionId).revoked = Function.update state.revoked sessionId true := rfl

@[simp] theorem revoke_permits (sessionId : String) (state : SessionPermits) :
    (state.revoke sessionId).permits = Function.update state.permits sessionId none := rfl

@[simp] theorem revoke_executorEpochs (sessionId : String) (state : SessionPermits) :
    (state.revoke sessionId).executorEpochs = state.executorEpochs := rfl

@[simp] theorem revoke_serverClock (sessionId : String) (state : SessionPermits) :
    (state.revoke sessionId).serverClock = state.serverClock := rfl

@[simp] theorem register_revoked (sessionId : String) (admission : Admission)
    (state : SessionPermits) : (state.register sessionId admission).revoked = state.revoked := rfl

@[simp] theorem register_permits (sessionId : String) (admission : Admission)
    (state : SessionPermits) : (state.register sessionId admission).permits =
      Function.update state.permits sessionId (some admission.registered) := rfl

@[simp] theorem register_serverClock (sessionId : String) (admission : Admission)
    (state : SessionPermits) :
    (state.register sessionId admission).serverClock = state.serverClock := rfl

end SessionPermits

end Devproof
