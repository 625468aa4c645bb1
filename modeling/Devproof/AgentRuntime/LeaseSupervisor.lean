import Mathlib.Algebra.Order.Field.Rat
import Mathlib.Tactic.Linarith
import Devproof.Lib.Machine

/-!
The lease of a worker (`lease-supervisor.ts`): its renewals and the local deadline
after which the execution is aborted.  Times are milliseconds of the local clock;
the server's clock differs from it by a constant.
-/

namespace Devproof

namespace LeaseSupervisor

inductive RenewalDirective where
  | proceed
  | cancel
  deriving Repr, DecidableEq

structure LeaseRenewal where
  directive : RenewalDirective
  leaseExpiresAt : Rat
  serverTime : Option Rat := none
  leaseDurationMs : Option Rat := none
  deriving Repr, DecidableEq

def withConservativeLeaseDuration (lease : LeaseRenewal) (elapsedMs : Rat) : LeaseRenewal :=
  match lease.serverTime with
  | none => lease
  | some serverTime =>
      { lease with leaseDurationMs := some (max 0 (lease.leaseExpiresAt - serverTime - elapsedMs)) }

structure LeaseOptions where
  intervalMs : Rat := 15000
  timeoutMs : Rat := 5000
  safetyMs : Rat := 10000
  safety : 0 ≤ safetyMs := by decide

structure RenewTimer where
  id : Nat
  due : Rat
  deriving Repr, DecidableEq

structure Renewal where
  id : Nat
  started : Rat
  timeoutAt : Rat
  deriving Repr, DecidableEq

structure Supervisor where
  now : Rat
  stopped : Bool := false
  /-- When the execution signal was aborted. -/
  abortedAt : Option Rat := none
  failures : Nat := 0
  safeUntil : Rat := 0
  expiryTimer : Option Rat := none
  armed : List RenewTimer := []
  /-- The timer that `stop` clears. -/
  timer : Option Nat := none
  renewals : List Renewal := []
  drawn : Nat := 0
  /-- The lease last confirmed, with the time at which it was received. -/
  confirmed : Option (Rat × LeaseRenewal) := none
  /-- The times at which `renew` and `onRenewed` were called. -/
  renewCalls : List Rat := []
  renewedCalls : List Rat := []
  /-- `stop` was called while the execution went on. -/
  halted : Bool := false
  deriving Repr, DecidableEq

namespace Supervisor

def stop (state : Supervisor) : Supervisor :=
  { state with
    stopped := true
    armed := state.armed.filter fun timer => state.timer != some timer.id
    expiryTimer := none }

def abort (state : Supervisor) : Supervisor :=
  let aborted := { state with abortedAt := state.abortedAt.or (some state.now) }
  if state.stopped then aborted else aborted.stop

def lose (state : Supervisor) : Supervisor :=
  if state.stopped then state else state.abort.stop

section Options

variable (options : LeaseOptions)

def duration (lease : LeaseRenewal) (date : Rat) : Rat :=
  match lease.leaseDurationMs, lease.serverTime with
  | some duration, _ => duration
  | none, some serverTime => lease.leaseExpiresAt - serverTime
  | none, none => min 60000 (lease.leaseExpiresAt - date)

def confirm (lease : LeaseRenewal) (date : Rat) (state : Supervisor) : Supervisor :=
  let duration := duration lease date
  let confirmed := { state with
    safeUntil := state.now + max 0 (duration - options.safetyMs)
    expiryTimer := none
    confirmed := some (state.now, lease) }
  if duration ≤ options.safetyMs then confirmed.lose
  else { confirmed with expiryTimer := some (state.now + (duration - options.safetyMs)) }

def schedule (delayMs : Rat) (state : Supervisor) : Supervisor :=
  if state.stopped || state.abortedAt.isSome then state
  else
    let due := state.now + min delayMs (max 0 (state.safeUntil - state.now))
    { state with
      armed := { id := state.drawn, due } :: state.armed
      timer := some state.drawn
      drawn := state.drawn + 1 }

def tick (state : Supervisor) : Supervisor :=
  if state.stopped || state.abortedAt.isSome then state
  else
    let remainingMs := state.safeUntil - state.now
    if remainingMs ≤ 0 then state.lose
    else
      let renewal := {
        id := state.drawn
        started := state.now
        timeoutAt := state.now + min options.timeoutMs remainingMs }
      { state with
        renewals := renewal :: state.renewals
        drawn := state.drawn + 1
        renewCalls := state.now :: state.renewCalls }

def settle (id : Nat) (state : Supervisor) : Supervisor :=
  { state with renewals := state.renewals.filter fun renewal => renewal.id != id }

def renewed (response : LeaseRenewal) (date : Rat) (state : Supervisor) : Supervisor :=
  if state.stopped then state
  else
    match response.directive with
    | .cancel => state.lose
    | .proceed =>
        let confirmed := confirm options response date { state with failures := 0 }
        if confirmed.stopped then confirmed
        else
          schedule options.intervalMs
            { confirmed with renewedCalls := confirmed.now :: confirmed.renewedCalls }

end Options

def failed (terminal : Bool) (random : Rat) (state : Supervisor) : Supervisor :=
  if state.stopped then state
  else
    let counted := { state with failures := state.failures + 1 }
    if terminal then counted.lose
    else
      schedule (min 4000 (1000 * 2 ^ min 2 (counted.failures - 1)) * (4 / 5 + random * (2 / 5)))
        counted

end Supervisor

structure Exchange where
  sentAt : Rat
  handledAt : Rat
  leaseExpiresAt : Rat
  deriving Repr, DecidableEq

inductive LeaseMove where
  | advance (time : Rat)
  | expire
  | fire (id : Nat)
  | timeout (id : Nat) (terminal : Bool) (random : Rat)
  | reply (id : Nat) (directive : RenewalDirective) (exchange : Exchange) (date : Rat)
  | fail (id : Nat) (terminal : Bool) (random : Rat)
  | abort
  | stop
  deriving Repr, DecidableEq

section System

variable (options : LeaseOptions) (offset : Rat)

def Exchange.lease (exchange : Exchange) (directive : RenewalDirective) (receivedAt : Rat) :
    LeaseRenewal :=
  withConservativeLeaseDuration
    { directive
      leaseExpiresAt := exchange.leaseExpiresAt
      serverTime := some (exchange.handledAt + offset) }
    (receivedAt - exchange.sentAt)

def dues (state : Supervisor) : List Rat :=
  state.expiryTimer.toList ++ state.armed.map RenewTimer.due ++
    state.renewals.map Renewal.timeoutAt

/-- One event.  Time does not pass over a timer that is due, timers do not fire early, and a
response is received after it was sent and handled; other moves do nothing. -/
def step (state : Supervisor) : LeaseMove → Supervisor
  | .advance time =>
      if state.now ≤ time && (dues state).all fun due => time ≤ due then { state with now := time }
      else state
  | .expire =>
      if state.expiryTimer.any fun due => due ≤ state.now then
        { state with expiryTimer := none }.lose
      else state
  | .fire id =>
      if state.armed.any fun timer => timer.id == id && timer.due ≤ state.now then
        Supervisor.tick options
          { state with armed := state.armed.filter fun timer => timer.id != id }
      else state
  | .timeout id terminal random =>
      if state.renewals.any fun renewal => renewal.id == id && renewal.timeoutAt ≤ state.now then
        (state.settle id).failed terminal random
      else state
  | .reply id directive exchange date =>
      if state.renewals.any (fun renewal =>
            renewal.id == id && renewal.started ≤ exchange.sentAt) &&
          exchange.sentAt ≤ exchange.handledAt && exchange.handledAt ≤ state.now then
        (state.settle id).renewed options (exchange.lease offset directive state.now) date
      else state
  | .fail id terminal random =>
      if state.renewals.any fun renewal => renewal.id == id then
        (state.settle id).failed terminal random
      else state
  | .abort => state.abort
  | .stop => { state.stop with halted := state.halted || state.abortedAt.isNone }

structure Claim where
  receivedAt : Rat
  exchange : Exchange
  aborted : Bool
  ordered : exchange.sentAt ≤ exchange.handledAt ∧ exchange.handledAt ≤ receivedAt

def construct (claim : Claim) (date : Rat) : Supervisor :=
  let state := { now := claim.receivedAt : Supervisor }
  if claim.aborted then { state with abortedAt := some claim.receivedAt }.stop
  else
    Supervisor.schedule options.intervalMs
      (state.confirm options (claim.exchange.lease offset .proceed claim.receivedAt) date)

def run (state : Supervisor) (moves : List LeaseMove) : Supervisor :=
  moves.foldl (step options offset) state

end System

section Invariant

variable (options : LeaseOptions) (offset : Rat)

def lastMoment (lease : LeaseRenewal) : Rat :=
  lease.leaseExpiresAt - offset - options.safetyMs

structure Watched (state : Supervisor) : Prop where
  single : state.armed.length + state.renewals.length ≤ 1
  live : state.stopped = false →
    state.abortedAt = none ∧ state.expiryTimer = some state.safeUntil ∧
      state.now ≤ state.safeUntil ∧ ∃ receivedAt lease, state.confirmed = some (receivedAt, lease) ∧
        state.safeUntil ≤ lastMoment options offset lease
  ended : state.stopped = true → state.abortedAt ≠ none ∨ state.halted = true
  timely : state.halted = false → ∀ time, state.abortedAt = some time →
    ∀ receivedAt lease, state.confirmed = some (receivedAt, lease) →
      time ≤ max receivedAt (lastMoment options offset lease)

end Invariant

section Steps

variable {options : LeaseOptions} {offset : Rat} {state : Supervisor}

def Idle (state : Supervisor) : Prop :=
  state.armed = [] ∧ state.renewals = []

theorem Idle.single (idle : Idle state) : state.armed.length + state.renewals.length ≤ 1 := by
  rw [idle.1, idle.2]
  exact Nat.zero_le 1

theorem lose_live (live : state.stopped = false) :
    state.lose = { state with
      abortedAt := state.abortedAt.or (some state.now)
      stopped := true
      armed := state.armed.filter fun timer => state.timer != some timer.id
      expiryTimer := none } := by
  simp [Supervisor.lose, Supervisor.abort, Supervisor.stop, live]

theorem watched_lose (single : state.armed.length + state.renewals.length ≤ 1)
    (live : state.stopped = false) (running : state.abortedAt = none)
    (inTime : ∀ receivedAt lease, state.confirmed = some (receivedAt, lease) →
      state.now ≤ max receivedAt (lastMoment options offset lease)) :
    Watched options offset state.lose := by
  rw [lose_live live, running]
  refine ⟨?_, nofun, fun _ => .inl (by simp), ?_⟩
  · have fewer := List.length_filter_le (fun timer => state.timer != some timer.id) state.armed
    dsimp only
    omega
  · intro _ time aborted receivedAt lease confirmed
    simp only [Option.none_or, Option.some.injEq] at aborted
    subst aborted
    exact inTime receivedAt lease confirmed

theorem Watched.inTime (watched : Watched options offset state) (live : state.stopped = false)
    (receivedAt : Rat) (lease : LeaseRenewal)
    (confirmed : state.confirmed = some (receivedAt, lease)) :
    state.now ≤ max receivedAt (lastMoment options offset lease) := by
  obtain ⟨-, -, before, receivedAt', lease', confirmed', deadline⟩ := watched.live live
  rw [confirmed, Option.some.injEq, Prod.mk.injEq] at confirmed'
  obtain ⟨-, rfl⟩ := confirmed'
  exact le_max_of_le_right (before.trans deadline)

theorem lease_duration (exchange : Exchange) (directive : RenewalDirective) (receivedAt date : Rat) :
    Supervisor.duration (exchange.lease offset directive receivedAt) date =
      max 0 (exchange.leaseExpiresAt - (exchange.handledAt + offset) -
        (receivedAt - exchange.sentAt)) := rfl

theorem watched_confirm (idle : Idle state) (live : state.stopped = false)
    (running : state.abortedAt = none) {exchange : Exchange} {directive : RenewalDirective}
    (ordered : exchange.sentAt ≤ exchange.handledAt) (date : Rat) :
    Watched options offset
      (state.confirm options (exchange.lease offset directive state.now) date) := by
  unfold Supervisor.confirm
  dsimp only
  rw [lease_duration]
  have margin := options.safety
  split
  · refine watched_lose idle.single live running ?_
    intro receivedAt lease confirmed
    simp only [Option.some.injEq, Prod.mk.injEq] at confirmed
    exact le_max_of_le_left confirmed.1.le
  · rename_i long
    have positive : 0 < exchange.leaseExpiresAt - (exchange.handledAt + offset) -
        (state.now - exchange.sentAt) := by
      by_contra negative
      rw [max_eq_left (not_lt.mp negative)] at long
      exact long margin
    rw [max_eq_right positive.le] at long ⊢
    rw [max_eq_right (by linarith)]
    refine ⟨idle.single, fun _ => ⟨running, rfl, by dsimp only; linarith, _, _, rfl, ?_⟩,
      fun stopped => ?_, ?_⟩
    · simp only [lastMoment, Exchange.lease, withConservativeLeaseDuration]
      linarith
    · rw [live] at stopped
      cases stopped
    · intro _ time aborted
      rw [running] at aborted
      cases aborted

theorem lose_idle (idle : Idle state) : Idle state.lose := by
  cases live : state.stopped with
  | true => simpa only [Supervisor.lose, live, if_true] using idle
  | false =>
      rw [lose_live live]
      exact ⟨by simp [idle.1], idle.2⟩

theorem confirm_idle (idle : Idle state) (lease : LeaseRenewal) (date : Rat) :
    Idle (state.confirm options lease date) := by
  unfold Supervisor.confirm
  dsimp only
  split
  · exact lose_idle idle
  · exact idle

theorem watched_schedule (watched : Watched options offset state) (idle : Idle state)
    (delayMs : Rat) : Watched options offset (state.schedule delayMs) := by
  unfold Supervisor.schedule
  split
  · exact watched
  · exact ⟨by simp [idle.1, idle.2], watched.live, watched.ended, watched.timely⟩

/-- The call of `tick` that ends was the only one, and no timer was armed. -/
theorem settle_idle (single : state.armed.length + state.renewals.length ≤ 1) {id : Nat}
    {renewal : Renewal} (member : renewal ∈ state.renewals) (named : renewal.id = id) :
    Idle (state.settle id) := by
  have waiting : 1 ≤ state.renewals.length := List.length_pos_of_mem member
  have none : state.armed = [] := List.length_eq_zero_iff.mp (by omega)
  have one : state.renewals.length = 1 := by omega
  obtain ⟨only, here⟩ := List.length_eq_one_iff.mp one
  rw [here, List.mem_singleton] at member
  subst member
  exact ⟨none, by simp [Supervisor.settle, here, named]⟩

theorem watched_settle (watched : Watched options offset state) (id : Nat) :
    Watched options offset (state.settle id) := by
  refine ⟨?_, watched.live, watched.ended, watched.timely⟩
  have fewer := List.length_filter_le (fun renewal => renewal.id != id) state.renewals
  have single := watched.single
  simp only [Supervisor.settle]
  omega

theorem Watched.lose (watched : Watched options offset state) :
    Watched options offset state.lose := by
  cases live : state.stopped with
  | true => simpa only [Supervisor.lose, live, if_true] using watched
  | false =>
      exact watched_lose watched.single live (watched.live live).1 (watched.inTime live)

theorem watched_failed (watched : Watched options offset state) (idle : Idle state)
    (terminal : Bool) (random : Rat) : Watched options offset (state.failed terminal random) := by
  unfold Supervisor.failed
  split
  · exact watched
  · have counted : Watched options offset { state with failures := state.failures + 1 } :=
      ⟨watched.single, watched.live, watched.ended, watched.timely⟩
    dsimp only
    split
    · exact counted.lose
    · exact watched_schedule counted idle _

theorem watched_renewed (watched : Watched options offset state) (idle : Idle state)
    {exchange : Exchange} (ordered : exchange.sentAt ≤ exchange.handledAt)
    (directive : RenewalDirective) (date : Rat) :
    Watched options offset
      (state.renewed options (exchange.lease offset directive state.now) date) := by
  unfold Supervisor.renewed
  split
  · exact watched
  · rename_i running
    have live : state.stopped = false := by simpa using running
    split
    · exact watched.lose
    · have idle' : Idle { state with failures := 0 } := idle
      have confirmed := @watched_confirm options offset { state with failures := 0 } idle' live
        (watched.live live).1 exchange directive ordered date
      have still := @confirm_idle options { state with failures := 0 } idle'
        (exchange.lease offset directive state.now) date
      dsimp only
      split
      · exact confirmed
      · apply watched_schedule
        · exact ⟨confirmed.single, confirmed.live, confirmed.ended, confirmed.timely⟩
        · exact still

theorem watched_tick (watched : Watched options offset state) (none : state.armed = [])
    (nobody : state.renewals = []) : Watched options offset (state.tick options) := by
  unfold Supervisor.tick
  split
  · exact watched
  · dsimp only
    split
    · exact watched.lose
    · exact ⟨by simp [none, nobody], watched.live, watched.ended, watched.timely⟩

theorem watched_abort (watched : Watched options offset state) :
    Watched options offset state.abort := by
  cases live : state.stopped with
  | false =>
      have same : state.abort = state.lose := by
        simp [Supervisor.lose, Supervisor.abort, Supervisor.stop, live]
      rw [same]
      exact watched.lose
  | true =>
      simp only [Supervisor.abort, live, if_true]
      refine ⟨watched.single, nofun, fun _ => .inl (by cases state.abortedAt <;> simp), ?_⟩
      · intro going time aborted
        cases before : state.abortedAt with
        | none =>
            rcases watched.ended live with ended | halted
            · exact absurd before ended
            · rw [going] at halted
              cases halted
        | some earlier =>
            rw [before, Option.some_or, Option.some.injEq] at aborted
            subst aborted
            exact watched.timely going earlier before

theorem watched_stop (watched : Watched options offset state) :
    Watched options offset
      { state.stop with halted := state.halted || state.abortedAt.isNone } := by
  refine ⟨?_, nofun, ?_, ?_⟩
  · have fewer := List.length_filter_le (fun timer => state.timer != some timer.id) state.armed
    have single := watched.single
    simp only [Supervisor.stop]
    omega
  · intro _
    cases aborted : state.abortedAt with
    | none => exact .inr (by simp)
    | some time => exact .inl (by simp [Supervisor.stop, aborted])
  · intro going
    exact watched.timely (Bool.or_eq_false_iff.mp going).1

theorem watched_step (watched : Watched options offset state) (move : LeaseMove) :
    Watched options offset (step options offset state move) := by
  cases move with
  | advance time =>
      rw [step]
      split
      · rename_i allowed
        rw [Bool.and_eq_true, decide_eq_true_eq, List.all_eq_true] at allowed
        refine ⟨watched.single, fun live => ?_, watched.ended, watched.timely⟩
        obtain ⟨running, timer, -, confirmed⟩ := watched.live live
        have due := allowed.2 state.safeUntil (by simp [dues, timer])
        exact ⟨running, timer, of_decide_eq_true due, confirmed⟩
      · exact watched
  | expire =>
      rw [step]
      split
      · by_cases ended : state.stopped = true
        · have same : ({ state with expiryTimer := none } : Supervisor).lose =
              { state with expiryTimer := none } := if_pos ended
          rw [same]
          exact ⟨watched.single, fun running => absurd (ended.symm.trans running) (by decide),
            watched.ended, watched.timely⟩
        · have live : state.stopped = false := by simpa using ended
          exact @watched_lose options offset { state with expiryTimer := none } watched.single live
            (watched.live live).1 (watched.inTime live)
      · exact watched
  | fire id =>
      rw [step]
      split
      · rename_i due
        obtain ⟨timer, member, same⟩ := List.any_eq_true.mp due
        rw [Bool.and_eq_true, beq_iff_eq] at same
        have single := watched.single
        have waiting : 1 ≤ state.armed.length := List.length_pos_of_mem member
        have nobody : state.renewals = [] := List.length_eq_zero_iff.mp (by omega)
        obtain ⟨only, here⟩ := List.length_eq_one_iff.mp (show state.armed.length = 1 by omega)
        rw [here, List.mem_singleton] at member
        subst member
        have none : (state.armed.filter fun timer => timer.id != id) = [] := by
          simp [here, same.1]
        refine watched_tick ⟨?_, watched.live, watched.ended, watched.timely⟩ none nobody
        simp [none, nobody]
      · exact watched
  | timeout id terminal random =>
      rw [step]
      split
      · rename_i due
        obtain ⟨renewal, member, same⟩ := List.any_eq_true.mp due
        rw [Bool.and_eq_true, beq_iff_eq] at same
        exact watched_failed (watched_settle watched id)
          (settle_idle watched.single member same.1) terminal random
      · exact watched
  | reply id directive exchange date =>
      rw [step]
      split
      · rename_i received
        simp only [Bool.and_eq_true, decide_eq_true_eq] at received
        obtain ⟨⟨waiting, ordered⟩, -⟩ := received
        obtain ⟨renewal, member, same⟩ := List.any_eq_true.mp waiting
        rw [Bool.and_eq_true, beq_iff_eq] at same
        exact watched_renewed (watched_settle watched id)
          (settle_idle watched.single member same.1) ordered directive date
      · exact watched
  | fail id terminal random =>
      rw [step]
      split
      · rename_i waiting
        obtain ⟨renewal, member, same⟩ := List.any_eq_true.mp waiting
        exact watched_failed (watched_settle watched id)
          (settle_idle watched.single member (beq_iff_eq.mp same)) terminal random
      · exact watched
  | abort => exact watched_abort watched
  | stop => exact watched_stop watched

theorem watched_construct (claim : Claim) (date : Rat) :
    Watched options offset (construct options offset claim date) := by
  unfold construct
  dsimp only
  split
  · refine ⟨by simp [Supervisor.stop], nofun, fun _ => .inl (by simp [Supervisor.stop]), ?_⟩
    intro _ time _ receivedAt lease confirmed
    cases confirmed
  · have idle : Idle { now := claim.receivedAt } := ⟨rfl, rfl⟩
    have confirmed := @watched_confirm options offset { now := claim.receivedAt } idle rfl rfl
      claim.exchange .proceed claim.ordered.1 date
    exact watched_schedule confirmed (confirm_idle idle _ date) _

theorem watched_run (watched : Watched options offset state) (moves : List LeaseMove) :
    Watched options offset (run options offset state moves) :=
  foldl_invariant (Watched options offset) watched fun _ move _ kept => watched_step kept move

def Quiet (before after : Supervisor) : Prop :=
  after.stopped = true ∧ after.renewCalls = before.renewCalls ∧
    after.renewedCalls = before.renewedCalls

theorem quiet_step (ended : state.stopped = true) (move : LeaseMove) :
    Quiet state (step options offset state move) := by
  have same : Quiet state state := ⟨ended, rfl, rfl⟩
  cases move with
  | advance time =>
      rw [step]
      split
      · exact ⟨ended, rfl, rfl⟩
      · exact same
  | expire =>
      rw [step]
      split
      · simp only [Supervisor.lose, ended, if_true]
        exact ⟨rfl, rfl, rfl⟩
      · exact same
  | fire id =>
      rw [step]
      split
      · simp only [Supervisor.tick, ended, Bool.true_or, if_true]
        exact ⟨rfl, rfl, rfl⟩
      · exact same
  | timeout id terminal random =>
      rw [step]
      split
      · simp only [Supervisor.failed, Supervisor.settle, ended, if_true]
        exact ⟨rfl, rfl, rfl⟩
      · exact same
  | reply id directive exchange date =>
      rw [step]
      split
      · simp only [Supervisor.renewed, Supervisor.settle, ended, if_true]
        exact ⟨rfl, rfl, rfl⟩
      · exact same
  | fail id terminal random =>
      rw [step]
      split
      · simp only [Supervisor.failed, Supervisor.settle, ended, if_true]
        exact ⟨rfl, rfl, rfl⟩
      · exact same
  | abort =>
      simp only [step, Supervisor.abort, ended, if_true]
      exact ⟨rfl, rfl, rfl⟩
  | stop => exact ⟨rfl, rfl, rfl⟩

theorem quiet_run (ended : state.stopped = true) (moves : List LeaseMove) :
    Quiet state (run options offset state moves) :=
  foldl_invariant (Quiet state) ⟨ended, rfl, rfl⟩ fun later move _ quiet => by
    obtain ⟨stopped, calls, reports⟩ := @quiet_step options offset later quiet.1 move
    exact ⟨stopped, calls.trans quiet.2.1, reports.trans quiet.2.2⟩

def LeaseMove.fails : LeaseMove → Bool
  | .timeout _ _ _ => true
  | .fail _ _ _ => true
  | _ => false

theorem lose_safeUntil : state.lose.safeUntil = state.safeUntil := by
  unfold Supervisor.lose
  split
  · rfl
  · unfold Supervisor.abort
    dsimp only
    split <;> rfl

theorem failed_safeUntil (terminal : Bool) (random : Rat) :
    (state.failed terminal random).safeUntil = state.safeUntil := by
  unfold Supervisor.failed
  split
  · rfl
  · dsimp only
    split
    · exact lose_safeUntil
    · unfold Supervisor.schedule
      split <;> rfl

theorem failure_safeUntil {move : LeaseMove} (failure : move.fails = true) :
    (step options offset state move).safeUntil = state.safeUntil := by
  cases move with
  | timeout id terminal random =>
      rw [step]
      split
      · exact failed_safeUntil terminal random
      · rfl
  | fail id terminal random =>
      rw [step]
      split
      · exact failed_safeUntil terminal random
      · rfl
  | advance time => cases failure
  | expire => cases failure
  | fire id => cases failure
  | reply id directive exchange date => cases failure
  | abort => cases failure
  | stop => cases failure

end Steps

/-- In every state a supervisor reaches: unless it was stopped before, the execution is
aborted by the time the last confirmed lease was received or by the margin before it can
expire, whichever is later; one renewal is in flight at most; failures do not move the
deadline; and nothing is renewed after the end. -/
theorem lease_supervised (options : LeaseOptions) (offset : Rat) (claim : Claim) (date : Rat)
    (moves : List LeaseMove) :
    let state := run options offset (construct options offset claim date) moves
    (state.halted = false → ∀ receivedAt lease, state.confirmed = some (receivedAt, lease) →
      match state.abortedAt with
      | some time => time ≤ max receivedAt (lastMoment options offset lease)
      | none => state.now ≤ lastMoment options offset lease) ∧
    state.renewals.length ≤ 1 ∧
    (∀ move, move.fails = true →
      (step options offset state move).safeUntil = state.safeUntil) ∧
    (state.abortedAt ≠ none ∨ state.stopped = true → ∀ more,
      (run options offset state more).renewCalls = state.renewCalls ∧
        (run options offset state more).renewedCalls = state.renewedCalls) := by
  intro state
  have watched : Watched options offset state := watched_run (watched_construct claim date) moves
  refine ⟨?_, ?_, fun move failure => failure_safeUntil failure, ?_⟩
  · intro going receivedAt lease confirmed
    cases aborted : state.abortedAt with
    | some time => exact watched.timely going time aborted receivedAt lease confirmed
    | none =>
        have live : state.stopped = false := by
          by_contra ended
          rcases watched.ended (by simpa using ended) with isOver | halted
          · exact isOver aborted
          · rw [going] at halted
            cases halted
        obtain ⟨-, -, before, receivedAt', lease', confirmed', deadline⟩ := watched.live live
        rw [confirmed, Option.some.injEq, Prod.mk.injEq] at confirmed'
        obtain ⟨-, rfl⟩ := confirmed'
        exact before.trans deadline
  · exact (Nat.le_add_left _ _).trans watched.single
  · intro isOver more
    have ended : state.stopped = true := by
      rcases isOver with aborted | stopped
      · by_contra running
        exact aborted (watched.live (by simpa using running)).1
      · exact stopped
    exact (quiet_run ended more).2

/-! A lease that is shorter than the margin. -/

def shortClaim : Claim where
  receivedAt := 1000
  exchange := { sentAt := 1000, handledAt := 1000, leaseExpiresAt := 6000 }
  aborted := false
  ordered := by decide

/-- The execution is aborted at once, five seconds before the lease can expire. -/
theorem short_lease_aborted_late :
    let options : LeaseOptions := {}
    let state := construct options 0 shortClaim 1000
    state.halted = false ∧ state.abortedAt = some 1000 ∧
      state.confirmed.map (fun confirmed => confirmed.2.leaseExpiresAt) = some 6000 ∧
      ¬ ∀ receivedAt lease, state.confirmed = some (receivedAt, lease) →
        ∀ time, state.abortedAt = some time → time ≤ lastMoment options 0 lease := by
  refine ⟨by decide +kernel, by decide +kernel, by decide +kernel, fun early => ?_⟩
  have late := early 1000 (shortClaim.exchange.lease 0 .proceed 1000) (by decide +kernel) 1000
    (by decide +kernel)
  exact absurd late (by decide +kernel)

end LeaseSupervisor

end Devproof
