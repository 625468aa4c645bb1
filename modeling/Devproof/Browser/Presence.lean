import Devproof.Lib.Numerals
import Devproof.Lib.Refinement
import Mathlib.Logic.Function.Basic

/-!
Model of the runtimes' presence in apps/api's redis.service.ts: any number of
gateways report the runtimes that are connected to them into one store whose
keys expire, and read there which runtime is online and how its machine does.
Each call is one script or command of the store.  The texts of the snapshots
are left out, and the clocks of the gateways are arguments.
-/

namespace Devproof

namespace RuntimePresence

structure Kept (Value : Type) where
  value : Value
  expiresAt : Int

def live {Value : Type} (now : Int) : Option (Kept Value) → Option Value
  | some kept => if now ≤ kept.expiresAt then some kept.value else none
  | none => none

structure RuntimeTelemetrySnapshot (Metrics : Type) where
  receivedAt : Int
  metrics : Metrics

structure OwnedSnapshot (Metrics : Type) where
  owner : List Char
  snapshot : RuntimeTelemetrySnapshot Metrics

structure Store (Metrics : Type) where
  now : Int
  presence : String → Option (Kept (List Char))
  telemetry : String → Option (Kept (OwnedSnapshot Metrics))

def RUNTIME_TELEMETRY_STALE_MS : Int := 45000

def presenceSpan (leaseSeconds : Nat) : Int := (max leaseSeconds 45 : Nat) * 1000

def ownerText (connectionGeneration : Nat) (instanceId : String) : List Char :=
  Nat.toDigits 10 connectionGeneration ++ ':' :: instanceId.toList

def matchedGeneration (previous : List Char) : Option (List Char) :=
  let digits := previous.takeWhile Char.isDigit
  if digits ≠ [] ∧ (previous.dropWhile Char.isDigit).head? = some ':' then some digits else none

inductive Request (Metrics : Type) where
  | markRuntimeOnline (runtimeId : String) (connectionGeneration : Nat) (instanceId : String)
      (receivedAt : Int) (metrics : Option Metrics)
  | removeRuntimePresence (runtimeId : String) (connectionGeneration : Nat) (instanceId : String)
  | runtimeTelemetry (runtimeId : String)
  | isRuntimeOnline (runtimeId : String)
  | elapse (span : Nat)

inductive Reply (Metrics : Type) where
  | done
  | telemetry (snapshot : Option (RuntimeTelemetrySnapshot Metrics))
  | online (isOnline : Bool)

variable {Metrics : Type} (leaseSeconds : Nat)

namespace Store

variable (store : Store Metrics)

def fenced (runtimeId : String) (connectionGeneration : Nat) : Bool :=
  match live store.now (store.presence runtimeId) with
  | some previous =>
      match matchedGeneration previous with
      | some old => Numerals.later old (Nat.toDigits 10 connectionGeneration)
      | none => false
  | none => false

def markRuntimeOnline (runtimeId : String) (connectionGeneration : Nat) (instanceId : String)
    (receivedAt : Int) (metrics : Option Metrics) : Store Metrics :=
  if store.fenced runtimeId connectionGeneration then store
  else
    let owner := ownerText connectionGeneration instanceId
    { store with
      presence := Function.update store.presence runtimeId
        (some { value := owner, expiresAt := store.now + presenceSpan leaseSeconds })
      telemetry := Function.update store.telemetry runtimeId
        (metrics.map fun metrics =>
          { value := { owner, snapshot := { receivedAt, metrics } }
            expiresAt := store.now + RUNTIME_TELEMETRY_STALE_MS }) }

def removeRuntimePresence (runtimeId : String) (connectionGeneration : Nat)
    (instanceId : String) : Store Metrics :=
  if live store.now (store.presence runtimeId) = some (ownerText connectionGeneration instanceId)
  then { store with presence := Function.update store.presence runtimeId none }
  else store

def runtimeTelemetry (runtimeId : String) : Option (RuntimeTelemetrySnapshot Metrics) :=
  match live store.now (store.presence runtimeId), live store.now (store.telemetry runtimeId) with
  | some owner, some owned => if owned.owner ≠ owner then none else some owned.snapshot
  | _, _ => none

def isRuntimeOnline (runtimeId : String) : Bool :=
  (live store.now (store.presence runtimeId)).isSome

end Store

def serve (request : Request Metrics) (store : Store Metrics) : Store Metrics × Reply Metrics :=
  match request with
  | .markRuntimeOnline runtimeId connectionGeneration instanceId receivedAt metrics =>
      (store.markRuntimeOnline leaseSeconds runtimeId connectionGeneration instanceId receivedAt
        metrics, .done)
  | .removeRuntimePresence runtimeId connectionGeneration instanceId =>
      (store.removeRuntimePresence runtimeId connectionGeneration instanceId, .done)
  | .runtimeTelemetry runtimeId => (store, .telemetry (store.runtimeTelemetry runtimeId))
  | .isRuntimeOnline runtimeId => (store, .online (store.isRuntimeOnline runtimeId))
  | .elapse span => ({ store with now := store.now + span }, .done)

def emptyStore (now : Int) : Store Metrics :=
  { now, presence := fun _ => none, telemetry := fun _ => none }

/-! What the presence is for: the last report that was accepted of each runtime. -/

structure Report (Metrics : Type) where
  connectionGeneration : Nat
  instanceId : String
  reportedAt : Int
  receivedAt : Int
  metrics : Option Metrics

structure Registry (Metrics : Type) where
  now : Int
  last : String → Option (Report Metrics)

namespace Registry

variable (registry : Registry Metrics)

def connected (runtimeId : String) : Option (Report Metrics) :=
  (registry.last runtimeId).filter fun report =>
    decide (registry.now ≤ report.reportedAt + presenceSpan leaseSeconds)

def report (runtimeId : String) (new : Report Metrics) : Registry Metrics :=
  match registry.connected leaseSeconds runtimeId with
  | some current =>
      if new.connectionGeneration < current.connectionGeneration then registry
      else { registry with last := Function.update registry.last runtimeId (some new) }
  | none => { registry with last := Function.update registry.last runtimeId (some new) }

def leave (runtimeId : String) (connectionGeneration : Nat) (instanceId : String) :
    Registry Metrics :=
  match registry.connected leaseSeconds runtimeId with
  | some current =>
      if current.connectionGeneration = connectionGeneration ∧ current.instanceId = instanceId then
        { registry with last := Function.update registry.last runtimeId none }
      else registry
  | none => registry

def metricsOf (runtimeId : String) : Option (RuntimeTelemetrySnapshot Metrics) :=
  match registry.connected leaseSeconds runtimeId with
  | some current =>
      if registry.now ≤ current.reportedAt + RUNTIME_TELEMETRY_STALE_MS then
        current.metrics.map fun metrics => { receivedAt := current.receivedAt, metrics }
      else none
  | none => none

def serve (request : Request Metrics) (registry : Registry Metrics) :
    Registry Metrics × Reply Metrics :=
  match request with
  | .markRuntimeOnline runtimeId connectionGeneration instanceId receivedAt metrics =>
      (registry.report leaseSeconds runtimeId
        { connectionGeneration, instanceId, reportedAt := registry.now, receivedAt, metrics },
        .done)
  | .removeRuntimePresence runtimeId connectionGeneration instanceId =>
      (registry.leave leaseSeconds runtimeId connectionGeneration instanceId, .done)
  | .runtimeTelemetry runtimeId =>
      (registry, .telemetry (registry.metricsOf leaseSeconds runtimeId))
  | .isRuntimeOnline runtimeId =>
      (registry, .online (registry.connected leaseSeconds runtimeId).isSome)
  | .elapse span => ({ registry with now := registry.now + span }, .done)

end Registry

def emptyRegistry (now : Int) : Registry Metrics :=
  { now, last := fun _ => none }

theorem digits_before {digits : List Char} (rest : List Char)
    (decimal : ∀ digit ∈ digits, digit.isDigit = true) :
    (digits ++ ':' :: rest).takeWhile Char.isDigit = digits ∧
      (digits ++ ':' :: rest).dropWhile Char.isDigit = ':' :: rest := by
  have colon : Char.isDigit ':' = false := rfl
  rw [List.takeWhile_append_of_pos decimal, List.dropWhile_append_of_pos decimal,
    List.takeWhile_cons_of_neg (by simp [colon]), List.dropWhile_cons_of_neg (by simp [colon])]
  simp

theorem generation_decimal (connectionGeneration : Nat) :
    ∀ digit ∈ Nat.toDigits 10 connectionGeneration, digit.isDigit = true :=
  fun _ member => Nat.isDigit_of_mem_toDigits (by decide) (by decide) member

theorem matchedGeneration_owner (connectionGeneration : Nat) (instanceId : String) :
    matchedGeneration (ownerText connectionGeneration instanceId) =
      some (Nat.toDigits 10 connectionGeneration) := by
  obtain ⟨taken, dropped⟩ := digits_before instanceId.toList
    (generation_decimal connectionGeneration)
  simp [matchedGeneration, ownerText, taken, dropped]

theorem ownerText_inj {connectionGeneration connectionGeneration' : Nat}
    {instanceId instanceId' : String} :
    ownerText connectionGeneration instanceId = ownerText connectionGeneration' instanceId' ↔
      connectionGeneration = connectionGeneration' ∧ instanceId = instanceId' := by
  constructor
  · intro same
    obtain ⟨taken, dropped⟩ := digits_before instanceId.toList
      (generation_decimal connectionGeneration)
    obtain ⟨taken', dropped'⟩ := digits_before instanceId'.toList
      (generation_decimal connectionGeneration')
    unfold ownerText at same
    rw [same, taken'] at taken
    rw [same, dropped'] at dropped
    constructor
    · rw [← Nat.ofDigitChars_ten_toDigits (n := connectionGeneration), ← taken,
        Nat.ofDigitChars_ten_toDigits]
    · exact String.toList_inj.mp (List.cons.inj dropped).2.symm
  · rintro ⟨rfl, rfl⟩
    rfl

def presenceKey (report : Report Metrics) : Kept (List Char) :=
  { value := ownerText report.connectionGeneration report.instanceId
    expiresAt := report.reportedAt + presenceSpan leaseSeconds }

def telemetryKey (report : Report Metrics) : Option (Kept (OwnedSnapshot Metrics)) :=
  report.metrics.map fun metrics =>
    { value :=
        { owner := ownerText report.connectionGeneration report.instanceId
          snapshot := { receivedAt := report.receivedAt, metrics } }
      expiresAt := report.reportedAt + RUNTIME_TELEMETRY_STALE_MS }

structure Holds (store : Store Metrics) (registry : Registry Metrics) : Prop where
  now : store.now = registry.now
  presence : ∀ runtimeId, store.presence runtimeId =
    (registry.last runtimeId).map (presenceKey leaseSeconds)
  telemetry : ∀ runtimeId report, registry.last runtimeId = some report →
    store.telemetry runtimeId = telemetryKey report

variable {leaseSeconds} {store : Store Metrics} {registry : Registry Metrics}

theorem connected_iff {runtimeId : String} {report : Report Metrics} :
    registry.connected leaseSeconds runtimeId = some report ↔
      registry.last runtimeId = some report ∧
        registry.now ≤ report.reportedAt + presenceSpan leaseSeconds := by
  simp [Registry.connected, Option.filter_eq_some_iff]

theorem Holds.live (holds : Holds leaseSeconds store registry) (runtimeId : String) :
    live store.now (store.presence runtimeId) =
      (registry.connected leaseSeconds runtimeId).map fun report =>
        ownerText report.connectionGeneration report.instanceId := by
  rw [holds.presence runtimeId, holds.now]
  cases last : registry.last runtimeId with
  | none => simp [RuntimePresence.live, Registry.connected, last]
  | some report =>
      by_cases fresh : registry.now ≤ report.reportedAt + presenceSpan leaseSeconds <;>
        simp [RuntimePresence.live, Registry.connected, last, presenceKey, fresh, Option.filter]

theorem Holds.fenced (holds : Holds leaseSeconds store registry) (runtimeId : String)
    (connectionGeneration : Nat) :
    store.fenced runtimeId connectionGeneration = true ↔
      ∃ current, registry.connected leaseSeconds runtimeId = some current ∧
        connectionGeneration < current.connectionGeneration := by
  unfold Store.fenced
  rw [holds.live runtimeId]
  cases registry.connected leaseSeconds runtimeId with
  | none => simp
  | some current => simp [matchedGeneration_owner, Numerals.later_iff]

theorem report_eq (runtimeId : String) (new : Report Metrics) :
    registry.report leaseSeconds runtimeId new =
      if ∃ current, registry.connected leaseSeconds runtimeId = some current ∧
        new.connectionGeneration < current.connectionGeneration then registry
      else { registry with last := Function.update registry.last runtimeId (some new) } := by
  unfold Registry.report
  cases registry.connected leaseSeconds runtimeId with
  | none => simp
  | some current => simp

theorem leave_eq (runtimeId : String) (connectionGeneration : Nat) (instanceId : String) :
    registry.leave leaseSeconds runtimeId connectionGeneration instanceId =
      if ∃ current, registry.connected leaseSeconds runtimeId = some current ∧
        current.connectionGeneration = connectionGeneration ∧ current.instanceId = instanceId then
        { registry with last := Function.update registry.last runtimeId none }
      else registry := by
  unfold Registry.leave
  cases registry.connected leaseSeconds runtimeId with
  | none => simp
  | some current => simp

theorem mark_holds (holds : Holds leaseSeconds store registry) (runtimeId : String)
    (connectionGeneration : Nat) (instanceId : String) (receivedAt : Int)
    (metrics : Option Metrics) :
    Holds leaseSeconds
      (store.markRuntimeOnline leaseSeconds runtimeId connectionGeneration instanceId receivedAt
        metrics)
      (registry.report leaseSeconds runtimeId
        { connectionGeneration, instanceId, reportedAt := registry.now, receivedAt, metrics }) := by
  rw [report_eq]
  unfold Store.markRuntimeOnline
  by_cases older : store.fenced runtimeId connectionGeneration = true
  · rw [if_pos older, if_pos ((holds.fenced runtimeId connectionGeneration).mp older)]
    exact holds
  · rw [if_neg older, if_neg (mt (holds.fenced runtimeId connectionGeneration).mpr older)]
    refine ⟨holds.now, fun other => ?_, fun other report known => ?_⟩
    · by_cases same : other = runtimeId
      · subst same
        simp [presenceKey, holds.now]
      · simp [Function.update_of_ne same, holds.presence other]
    · by_cases same : other = runtimeId
      · subst same
        simp only [Function.update_self, Option.some.injEq] at known ⊢
        subst known
        simp [telemetryKey, holds.now]
      · simp only [Function.update_of_ne same] at known ⊢
        exact holds.telemetry other report known

theorem remove_holds (holds : Holds leaseSeconds store registry) (runtimeId : String)
    (connectionGeneration : Nat) (instanceId : String) :
    Holds leaseSeconds (store.removeRuntimePresence runtimeId connectionGeneration instanceId)
      (registry.leave leaseSeconds runtimeId connectionGeneration instanceId) := by
  have own : live store.now (store.presence runtimeId) =
        some (ownerText connectionGeneration instanceId) ↔
      ∃ current, registry.connected leaseSeconds runtimeId = some current ∧
        current.connectionGeneration = connectionGeneration ∧ current.instanceId = instanceId := by
    rw [holds.live runtimeId, Option.map_eq_some_iff]
    simp only [ownerText_inj]
  rw [leave_eq]
  unfold Store.removeRuntimePresence
  by_cases here : live store.now (store.presence runtimeId) =
      some (ownerText connectionGeneration instanceId)
  · rw [if_pos here, if_pos (own.mp here)]
    refine ⟨holds.now, fun other => ?_, fun other report known => ?_⟩
    · by_cases same : other = runtimeId
      · subst same
        simp
      · simp [Function.update_of_ne same, holds.presence other]
    · by_cases same : other = runtimeId
      · subst same
        simp at known
      · simp only [Function.update_of_ne same] at known
        exact holds.telemetry other report known
  · rw [if_neg here, if_neg (mt own.mpr here)]
    exact holds

theorem telemetry_metrics (holds : Holds leaseSeconds store registry) (runtimeId : String) :
    store.runtimeTelemetry runtimeId = registry.metricsOf leaseSeconds runtimeId := by
  unfold Store.runtimeTelemetry Registry.metricsOf
  rw [holds.live runtimeId]
  cases connected : registry.connected leaseSeconds runtimeId with
  | none => simp
  | some current =>
      rw [holds.telemetry runtimeId current (connected_iff.mp connected).1, holds.now]
      cases given : current.metrics with
      | none => simp [telemetryKey, given, live]
      | some metrics =>
          by_cases fresh : registry.now ≤ current.reportedAt + RUNTIME_TELEMETRY_STALE_MS <;>
            simp [telemetryKey, given, live, fresh]

theorem holds_simulates :
    Refinement.Simulates (serve leaseSeconds) (Registry.serve leaseSeconds)
      (@Holds Metrics leaseSeconds) := by
  intro request store registry holds
  cases request with
  | markRuntimeOnline runtimeId connectionGeneration instanceId receivedAt metrics =>
      exact ⟨rfl, mark_holds holds runtimeId connectionGeneration instanceId receivedAt metrics⟩
  | removeRuntimePresence runtimeId connectionGeneration instanceId =>
      exact ⟨rfl, remove_holds holds runtimeId connectionGeneration instanceId⟩
  | runtimeTelemetry runtimeId =>
      exact ⟨congrArg Reply.telemetry (telemetry_metrics holds runtimeId), holds⟩
  | isRuntimeOnline runtimeId =>
      refine ⟨?_, holds⟩
      simp only [serve, Registry.serve, Store.isRuntimeOnline, holds.live runtimeId,
        Option.isSome_map]
  | elapse span => exact ⟨rfl, by simp [serve, Registry.serve, holds.now], holds.presence,
      holds.telemetry⟩

theorem empty_holds (leaseSeconds : Nat) (now : Int) :
    Holds leaseSeconds (emptyStore now : Store Metrics) (emptyRegistry now) :=
  ⟨rfl, fun _ => rfl, nofun⟩

/-- Whatever the gateways call and however long it takes, the store replies as the registry of
    last accepted reports does. -/
theorem presence_refines (now : Int) (requests : List (Request Metrics)) :
    Refinement.replies (serve leaseSeconds) requests (emptyStore now) =
      Refinement.replies (Registry.serve leaseSeconds) requests (emptyRegistry now) :=
  holds_simulates.replies requests (empty_holds leaseSeconds now)

/-! What a reply says about the calls before it. -/

/-- A call that leaves a connection's report in place: no report of the same or a newer
    connection of its runtime, and not its own removal. -/
def Leaves (runtimeId : String) (connectionGeneration : Nat) (instanceId : String) :
    Request Metrics → Prop
  | .markRuntimeOnline other generation _ _ _ =>
      other = runtimeId → generation < connectionGeneration
  | .removeRuntimePresence other generation owner =>
      ¬(other = runtimeId ∧ generation = connectionGeneration ∧ owner = instanceId)
  | _ => True

def Request.span : Request Metrics → Int
  | .elapse span => span
  | _ => 0

def elapsed : List (Request Metrics) → Int
  | [] => 0
  | request :: requests => request.span + elapsed requests

theorem elapsed_snoc (requests : List (Request Metrics)) (request : Request Metrics) :
    elapsed (requests ++ [request]) = elapsed requests + request.span := by
  induction requests with
  | nil => simp [elapsed]
  | cons first rest ih =>
      rw [List.cons_append, elapsed, elapsed, ih]
      exact (Int.add_assoc _ _ _).symm

/-- The report was accepted from one of the calls, and every call after it leaves it in place. -/
def Accepted (requests : List (Request Metrics)) (now : Int) (runtimeId : String)
    (report : Report Metrics) : Prop :=
  ∃ before after, requests = before ++ .markRuntimeOnline runtimeId report.connectionGeneration
      report.instanceId report.receivedAt report.metrics :: after ∧
    (∀ request ∈ after, Leaves runtimeId report.connectionGeneration report.instanceId request) ∧
    now = report.reportedAt + elapsed after

theorem Accepted.next {requests : List (Request Metrics)} {now : Int} {runtimeId : String}
    {report : Report Metrics} (accepted : Accepted requests now runtimeId report)
    {request : Request Metrics}
    (leaves : Leaves runtimeId report.connectionGeneration report.instanceId request) :
    Accepted (requests ++ [request]) (now + request.span) runtimeId report := by
  obtain ⟨before, after, rfl, quiet, passed⟩ := accepted
  refine ⟨before, after ++ [request], by simp, ?_, ?_⟩
  · intro other member
    rcases List.mem_append.mp member with early | final
    · exact quiet other early
    · rw [List.mem_singleton.mp final]
      exact leaves
  · rw [passed, elapsed_snoc]
    exact Int.add_assoc _ _ _

theorem Accepted.still {requests : List (Request Metrics)} {now : Int} {runtimeId : String}
    {report : Report Metrics} (accepted : Accepted requests now runtimeId report)
    {request : Request Metrics} (instant : request.span = 0)
    (leaves : Leaves runtimeId report.connectionGeneration report.instanceId request) :
    Accepted (requests ++ [request]) now runtimeId report := by
  have kept := accepted.next leaves
  rwa [instant, Int.add_zero] at kept

variable (leaseSeconds) in
def Traced (requests : List (Request Metrics)) (registry : Registry Metrics) : Prop :=
  ∀ runtimeId report, registry.connected leaseSeconds runtimeId = some report →
    Accepted requests registry.now runtimeId report

theorem connected_update {runtimeId other : String} {last : Option (Report Metrics)} :
    Registry.connected leaseSeconds
        { registry with last := Function.update registry.last runtimeId last } other =
      if other = runtimeId then last.filter fun report =>
        decide (registry.now ≤ report.reportedAt + presenceSpan leaseSeconds)
      else registry.connected leaseSeconds other := by
  by_cases same : other = runtimeId
  · subst same
    simp [Registry.connected]
  · simp [Registry.connected, same]

theorem report_traced {requests : List (Request Metrics)}
    (traced : Traced leaseSeconds requests registry) (runtimeId : String)
    (connectionGeneration : Nat) (instanceId : String) (receivedAt : Int)
    (metrics : Option Metrics) :
    Traced leaseSeconds
      (requests ++
        [.markRuntimeOnline runtimeId connectionGeneration instanceId receivedAt metrics])
      (registry.report leaseSeconds runtimeId
        { connectionGeneration, instanceId, reportedAt := registry.now, receivedAt, metrics }) := by
  rw [report_eq]
  split
  next refused =>
    intro other report connected
    obtain ⟨current, here, newer⟩ := refused
    apply (traced other report connected).still rfl
    intro same
    subst same
    rw [connected] at here
    cases here
    exact newer
  next =>
    intro other report connected
    rw [connected_update] at connected
    split at connected
    next same =>
      subst same
      cases Option.some.inj (Option.filter_eq_some_iff.mp connected).1
      exact ⟨requests, [], rfl, nofun, by simp [elapsed]⟩
    next different =>
      exact (traced other report connected).still rfl fun same => absurd same.symm different

theorem leave_traced {requests : List (Request Metrics)}
    (traced : Traced leaseSeconds requests registry) (runtimeId : String)
    (connectionGeneration : Nat) (instanceId : String) :
    Traced leaseSeconds
      (requests ++ [.removeRuntimePresence runtimeId connectionGeneration instanceId])
      (registry.leave leaseSeconds runtimeId connectionGeneration instanceId) := by
  rw [leave_eq]
  split
  next =>
    intro other report connected
    rw [connected_update] at connected
    split at connected
    next => simp at connected
    next different =>
      apply (traced other report connected).still rfl
      rintro ⟨same, -, -⟩
      exact different same.symm
  next absent =>
    intro other report connected
    apply (traced other report connected).still rfl
    rintro ⟨rfl, rfl, rfl⟩
    exact absent ⟨report, connected, rfl, rfl⟩

theorem serve_traced (requests : List (Request Metrics)) (request : Request Metrics)
    (registry : Registry Metrics) (traced : Traced leaseSeconds requests registry) :
    Traced leaseSeconds (requests ++ [request])
      (registry.serve leaseSeconds request).1 := by
  cases request with
  | markRuntimeOnline runtimeId connectionGeneration instanceId receivedAt metrics =>
      exact report_traced traced runtimeId connectionGeneration instanceId receivedAt metrics
  | removeRuntimePresence runtimeId connectionGeneration instanceId =>
      exact leave_traced traced runtimeId connectionGeneration instanceId
  | runtimeTelemetry runtimeId =>
      intro other report connected
      exact (traced other report connected).still rfl trivial
  | isRuntimeOnline runtimeId =>
      intro other report connected
      exact (traced other report connected).still rfl trivial
  | elapse span =>
      intro other report connected
      obtain ⟨last, fresh⟩ := connected_iff.mp connected
      have earlier : registry.connected leaseSeconds other = some report := by
        refine connected_iff.mpr ⟨last, ?_⟩
        simp only [Registry.serve] at fresh
        omega
      exact (traced other report earlier).next trivial

theorem traced (now : Int) (requests : List (Request Metrics)) :
    Traced leaseSeconds requests
      (Refinement.final (Registry.serve leaseSeconds) requests (emptyRegistry now)) :=
  Refinement.history (fun _ _ => nofun) serve_traced requests

/-- After any calls: a runtime that is online was reported so by a call within the span of its
    presence, and telemetry that is shown came with such a call less than the stale time ago; no
    later call reported the same or a newer connection of the runtime, and that gateway did not
    remove it. -/
theorem reports_current (now : Int) (requests : List (Request Metrics)) :
    let store := Refinement.final (serve leaseSeconds) requests (emptyStore now)
    (∀ runtimeId, store.isRuntimeOnline runtimeId = true →
      ∃ before connectionGeneration instanceId receivedAt metrics after,
        requests = before ++ .markRuntimeOnline runtimeId connectionGeneration instanceId receivedAt
          metrics :: after ∧
        (∀ request ∈ after, Leaves runtimeId connectionGeneration instanceId request) ∧
        elapsed after ≤ presenceSpan leaseSeconds) ∧
    ∀ runtimeId snapshot, store.runtimeTelemetry runtimeId = some snapshot →
      ∃ before connectionGeneration instanceId after,
        requests = before ++ .markRuntimeOnline runtimeId connectionGeneration instanceId
          snapshot.receivedAt (some snapshot.metrics) :: after ∧
        (∀ request ∈ after, Leaves runtimeId connectionGeneration instanceId request) ∧
        elapsed after ≤ presenceSpan leaseSeconds ∧
        elapsed after ≤ RUNTIME_TELEMETRY_STALE_MS := by
  intro store
  have holds := holds_simulates.final requests (empty_holds leaseSeconds now)
  constructor
  · intro runtimeId online
    rw [Store.isRuntimeOnline, holds.live runtimeId, Option.isSome_map,
      Option.isSome_iff_exists] at online
    obtain ⟨report, connected⟩ := online
    obtain ⟨before, after, whole, quiet, passed⟩ := traced now requests runtimeId report connected
    have fresh := (connected_iff.mp connected).2
    exact ⟨before, _, _, _, _, after, whole, quiet, by omega⟩
  · intro runtimeId snapshot shown
    rw [telemetry_metrics holds runtimeId, Registry.metricsOf] at shown
    split at shown
    next report connected =>
      split at shown
      next recent =>
        obtain ⟨metrics, given, rfl⟩ := Option.map_eq_some_iff.mp shown
        obtain ⟨before, after, whole, quiet, passed⟩ :=
          traced now requests runtimeId report connected
        have fresh := (connected_iff.mp connected).2
        rw [given] at whole
        exact ⟨before, _, _, after, whole, quiet, by omega, by omega⟩
      next => cases shown
    next => cases shown

end RuntimePresence

end Devproof
