import Devproof.Acceptance.Report
import Devproof.Lib.Json

/-!
The progress of a task's cases (task-scheduling.ts).
-/

namespace Devproof

open Acceptance (TaskLifecycle)

inductive CaseSchedulingState where
  | ready
  | waiting
  | admitted
  | running
  | recovering
  | terminal
  deriving Repr, DecidableEq

def CaseSchedulingState.ofString : String → Option CaseSchedulingState
  | "READY" => some .ready
  | "WAITING" => some .waiting
  | "ADMITTED" => some .admitted
  | "RUNNING" => some .running
  | "RECOVERING" => some .recovering
  | "TERMINAL" => some .terminal
  | _ => none

structure CaseSchedulingDecision where
  state : CaseSchedulingState
  reason : Option String
  waitingSince : Option String
  evaluatedAt : String
  blockedBy : Option Members
  queue : Option Members
  nextRetryAt : Option String

def objectWith (name : String) (value : Option Json) : Option Members :=
  match value with
  | some (.obj members) => if (stringOf (Members.get members name)).isSome then some members else none
  | _ => none

def readCaseScheduling (value : Option Json) : Option CaseSchedulingDecision :=
  match value with
  | some (.obj row) => do
      let state ← (stringOf (Members.get row "state")).bind CaseSchedulingState.ofString
      some {
        state
        reason := stringOf (Members.get row "reason")
        waitingSince := stringOf (Members.get row "waitingSince")
        evaluatedAt := (stringOf (Members.get row "evaluatedAt")).getD ""
        blockedBy := objectWith "resourceType" (Members.get row "blockedBy")
        queue := objectWith "scope" (Members.get row "queue")
        nextRetryAt := stringOf (Members.get row "nextRetryAt") }
  | _ => none

inductive DispatchStatus where
  | pending
  | dispatching
  | linked
  | failed
  | cancelled
  deriving Repr, DecidableEq

structure CaseRun where
  executionDisposition : Option ExecutionDisposition
  lifecycle : RunLifecycle
  verdict : Option ProductVerdict
  tasks : Option (List (Option RecoveryStatus)) := none
  deriving Repr, DecidableEq

structure CaseExecutionProgress where
  dispatchStatus : DispatchStatus
  dispatchAttempts : Option Int
  dispatchMaxAttempts : Option Int
  scheduling : Option Json
  run : Option CaseRun

inductive CaseExecutionPhase where
  | queued
  | running
  | recovering
  | waitingHuman
  | terminal
  deriving Repr, DecidableEq

def caseExecutionPhase (item : CaseExecutionProgress) : CaseExecutionPhase :=
  let scheduling := readCaseScheduling item.scheduling
  let state := scheduling.map (·.state)
  match item.run with
  | some run =>
      if run.lifecycle.terminal then .terminal
      else if run.lifecycle = .waitingHuman then .waitingHuman
      else if (run.tasks.getD []).any fun status =>
          status = some .pending || status = some .closing || status = some .hitlClosing then
        .recovering
      else if state = some .recovering then .recovering
      else if state = some .admitted then .queued
      else if run.lifecycle = .running then .running
      else .queued
  | none =>
      if scheduling.bind (·.reason) = some "TEST_ACCOUNTS_REQUIRED" then .waitingHuman
      else if state = some .recovering then .recovering
      else if item.dispatchStatus = .cancelled ∨ item.dispatchStatus = .linked ∨
          item.dispatchStatus = .failed ∧
            item.dispatchMaxAttempts.getD 3 ≤ item.dispatchAttempts.getD 0 ∨
          state = some .terminal then
        .terminal
      else .queued

structure CaseCounts where
  blocked : Nat := 0
  failed : Nat := 0
  inconclusive : Nat := 0
  passed : Nat := 0
  queued : Nat := 0
  running : Nat := 0
  recovering : Nat := 0
  waitingHuman : Nat := 0
  terminal : Nat := 0
  timedOut : Nat := 0
  cancelled : Nat := 0
  dispatchFailed : Nat := 0
  total : Nat := 0
  waiting : Nat := 0
  deriving Repr, DecidableEq

def CaseCounts.add (counts : CaseCounts) (phase : CaseExecutionPhase) (amount : Nat) : CaseCounts :=
  match phase with
  | .queued => { counts with queued := counts.queued + amount }
  | .running => { counts with running := counts.running + amount }
  | .recovering => { counts with recovering := counts.recovering + amount }
  | .waitingHuman => { counts with waitingHuman := counts.waitingHuman + amount }
  | .terminal => { counts with terminal := counts.terminal + amount }

def one (counted : Bool) : Nat := if counted then 1 else 0

def parentOver (parentLifecycle : Option TaskLifecycle) : Bool :=
  parentLifecycle.any TaskLifecycle.terminal

def countedPhase (parentLifecycle : Option TaskLifecycle) (item : CaseExecutionProgress) :
    CaseExecutionPhase :=
  if item.run.isNone && parentOver parentLifecycle then .terminal else caseExecutionPhase item

def countCase (parentLifecycle : Option TaskLifecycle) (counts : CaseCounts)
    (item : CaseExecutionProgress) : CaseCounts :=
  let counts := counts.add (countedPhase parentLifecycle item) 1
  let disposition := item.run.bind (·.executionDisposition)
  let verdict := item.run.bind (·.verdict)
  let lifecycle := item.run.map (·.lifecycle)
  { counts with
    blocked := counts.blocked + one (disposition.any (· ≠ .executed))
    failed := counts.failed + one (verdict = some .failed)
    inconclusive := counts.inconclusive + one (verdict = some .inconclusive)
    passed := counts.passed + one (verdict = some .passed)
    timedOut := counts.timedOut + one (lifecycle = some .timedOut)
    cancelled := counts.cancelled +
      one (lifecycle = some .cancelled || item.run.isNone && item.dispatchStatus = .cancelled)
    dispatchFailed := counts.dispatchFailed +
      one (item.run.isNone && caseExecutionPhase item = .terminal &&
        item.dispatchStatus ≠ .cancelled) }

def countCaseExecutions (executions : List CaseExecutionProgress) (plannedTotal : Nat)
    (parentLifecycle : Option TaskLifecycle) : CaseCounts :=
  let total := max plannedTotal executions.length
  let counts := executions.foldl (countCase parentLifecycle) { total }
  -- deployment rows that were never created
  let missing := total - executions.length
  let counts := counts.add (if parentOver parentLifecycle then .terminal else .queued) missing
  { counts with waiting := counts.queued }

inductive SchedulingSummaryState where
  | terminal
  | running
  | recovering
  | waitingHuman
  | waiting
  deriving Repr, DecidableEq

structure SchedulingSummary where
  state : SchedulingSummaryState
  reason : Option String
  waitingSince : Option String
  blockedBy : Option Members
  reasons : List (String × Nat)

def countReason (reasons : List (String × Nat)) (reason : String) : List (String × Nat) :=
  if reasons.any (·.1 == reason) then
    reasons.map fun entry => if entry.1 == reason then (entry.1, entry.2 + 1) else entry
  else reasons ++ [(reason, 1)]

def summarizeCaseScheduling (localeCompare : String → String → Int)
    (executions : List CaseExecutionProgress) (parentLifecycle : Option TaskLifecycle) :
    SchedulingSummary :=
  let counts := countCaseExecutions executions executions.length parentLifecycle
  let decisions := executions.filterMap fun item =>
    if caseExecutionPhase item = .terminal then none else readCaseScheduling item.scheduling
  let waiting := decisions.filter fun item =>
    item.state = .waiting || item.state = .admitted || item.state = .recovering
  let reasons := (waiting.filterMap fun item => item.reason.filter (· ≠ "")).foldl countReason []
  let since (item : CaseSchedulingDecision) := item.waitingSince.getD item.evaluatedAt
  let oldest := (waiting.insertionSort fun left right =>
    localeCompare (since left) (since right) ≤ 0).head?
  { state :=
      if parentOver parentLifecycle then .terminal
      else if counts.running ≠ 0 then .running
      else if counts.recovering ≠ 0 then .recovering
      else if counts.waitingHuman ≠ 0 then .waitingHuman
      else if counts.queued ≠ 0 then .waiting
      else .terminal
    reason :=
      if counts.running ≠ 0 then none
      else if counts.recovering ≠ 0 then some "LEASE_RECOVERY"
      else (oldest.bind (·.reason)).or
        (if counts.queued ≠ 0 then some "SCHEDULER_PENDING" else none)
    waitingSince := oldest.bind (·.waitingSince)
    blockedBy := if counts.running ≠ 0 then none else oldest.bind (·.blockedBy)
    reasons }

def CaseCounts.phases (counts : CaseCounts) : Nat :=
  counts.queued + counts.running + counts.recovering + counts.waitingHuman + counts.terminal

theorem phases_add (counts : CaseCounts) (phase : CaseExecutionPhase) (amount : Nat) :
    (counts.add phase amount).phases = counts.phases + amount := by
  cases phase <;> simp only [CaseCounts.add, CaseCounts.phases] <;> omega

theorem total_add (counts : CaseCounts) (phase : CaseExecutionPhase) (amount : Nat) :
    (counts.add phase amount).total = counts.total := by
  cases phase <;> rfl

theorem terminal_add (counts : CaseCounts) (phase : CaseExecutionPhase) (amount : Nat) :
    (counts.add phase amount).terminal =
      counts.terminal + if phase = .terminal then amount else 0 := by
  cases phase <;> rfl

theorem phases_countCase (parent : Option TaskLifecycle) (counts : CaseCounts)
    (item : CaseExecutionProgress) : (countCase parent counts item).phases = counts.phases + 1 :=
  phases_add counts _ 1

theorem total_countCase (parent : Option TaskLifecycle) (counts : CaseCounts)
    (item : CaseExecutionProgress) : (countCase parent counts item).total = counts.total :=
  total_add counts _ 1

theorem terminal_countCase (parent : Option TaskLifecycle) (counts : CaseCounts)
    (item : CaseExecutionProgress) :
    (countCase parent counts item).terminal =
      counts.terminal + if countedPhase parent item = .terminal then 1 else 0 :=
  terminal_add counts _ 1

theorem phases_loop (parent : Option TaskLifecycle) (executions : List CaseExecutionProgress)
    (counts : CaseCounts) :
    (executions.foldl (countCase parent) counts).phases = counts.phases + executions.length := by
  induction executions generalizing counts with
  | nil => rfl
  | cons item rest ih =>
      rw [List.foldl_cons, ih, phases_countCase, List.length_cons]
      omega

theorem total_loop (parent : Option TaskLifecycle) (executions : List CaseExecutionProgress)
    (counts : CaseCounts) :
    (executions.foldl (countCase parent) counts).total = counts.total := by
  induction executions generalizing counts with
  | nil => rfl
  | cons item rest ih => rw [List.foldl_cons, ih, total_countCase]

theorem terminal_loop (parent : Option TaskLifecycle) (executions : List CaseExecutionProgress)
    (counts : CaseCounts) :
    (executions.foldl (countCase parent) counts).terminal =
      counts.terminal + executions.countP fun item => countedPhase parent item = .terminal := by
  induction executions generalizing counts with
  | nil => rfl
  | cons item rest ih =>
      rw [List.foldl_cons, ih, terminal_countCase, List.countP_cons]
      simp only [decide_eq_true_eq]
      omega

theorem countCaseExecutions_total (executions : List CaseExecutionProgress) (plannedTotal : Nat)
    (parent : Option TaskLifecycle) :
    (countCaseExecutions executions plannedTotal parent).phases =
      (countCaseExecutions executions plannedTotal parent).total ∧
    (countCaseExecutions executions plannedTotal parent).total =
      max plannedTotal executions.length := by
  have covers := Nat.le_max_right plannedTotal executions.length
  constructor
  · calc (countCaseExecutions executions plannedTotal parent).phases
        = (executions.foldl (countCase parent) { total := max plannedTotal executions.length }).phases
            + (max plannedTotal executions.length - executions.length) := phases_add _ _ _
      _ = max plannedTotal executions.length := by
          rw [phases_loop]
          simp only [CaseCounts.phases]
          omega
      _ = (countCaseExecutions executions plannedTotal parent).total := by
          simp only [countCaseExecutions, total_add, total_loop]
  · simp only [countCaseExecutions, total_add, total_loop]

theorem countCaseExecutions_terminal {executions : List CaseExecutionProgress} {plannedTotal : Nat}
    {parent : Option TaskLifecycle} (open' : parentOver parent = false) :
    (countCaseExecutions executions plannedTotal parent).terminal = executions.length ↔
      ∀ item ∈ executions, caseExecutionPhase item = .terminal := by
  have phase : ∀ item, countedPhase parent item = caseExecutionPhase item := by
    intro item
    simp [countedPhase, open']
  simp only [countCaseExecutions, terminal_add, terminal_loop, open', phase]
  simp [List.countP_eq_length]

end Devproof
