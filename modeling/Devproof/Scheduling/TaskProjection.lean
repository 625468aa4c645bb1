import Devproof.Scheduling.CaseProgress

/-!
The state of a task, from its stages and the runs of its cases
(`projectTaskExecution` in test-domain).
-/

namespace Devproof

open Acceptance (TaskLifecycle StageStatus StageType)

structure TaskCase where
  dispatchAttempts : Int
  dispatchMaxAttempts : Int
  scheduling : Option Json := none
  dispatchStatus : DispatchStatus
  run : Option CaseRun

def TaskCase.progress (item : TaskCase) : CaseExecutionProgress where
  dispatchStatus := item.dispatchStatus
  dispatchAttempts := some item.dispatchAttempts
  dispatchMaxAttempts := some item.dispatchMaxAttempts
  scheduling := item.scheduling
  run := item.run

structure TaskExecutionProjectionInput where
  analysisStatus : StageStatus
  cancelRequested : Bool
  caseExecutions : List TaskCase
  executionStatus : StageStatus
  targetAvailable : Bool
  timedOut : Option Bool := none

structure TaskExecutionProjection where
  currentStage : StageType
  executionDisposition : Option ExecutionDisposition
  executionStageStatus : StageStatus
  lifecycle : TaskLifecycle
  verdict : Option ProductVerdict
  waitingReason : Option String
  deriving Repr, DecidableEq

def taskProjection (currentStage : StageType) (lifecycle : TaskLifecycle)
    (executionStageStatus : StageStatus) (executionDisposition : Option ExecutionDisposition)
    (verdict : Option ProductVerdict) : TaskExecutionProjection where
  currentStage
  executionDisposition
  executionStageStatus
  lifecycle
  verdict
  waitingReason := none

def TaskCase.linkedRun (item : TaskCase) : Option CaseRun :=
  if item.dispatchStatus = .linked then item.run else none

def TaskCase.dispatchActive (item : TaskCase) : Bool :=
  item.dispatchStatus = .pending || item.dispatchStatus = .dispatching ||
    item.dispatchStatus = .failed && item.dispatchAttempts < item.dispatchMaxAttempts

def TaskCase.accountsRequired (item : TaskCase) : Bool :=
  (readCaseScheduling item.scheduling).bind (·.reason) = some "TEST_ACCOUNTS_REQUIRED"

def projectFinished (caseExecutions : List TaskCase) : TaskExecutionProjection :=
  let runs := caseExecutions.filterMap TaskCase.linkedRun
  let fullyLinked := caseExecutions.all fun item => item.linkedRun.isSome
  let fullyExecuted := fullyLinked && runs.length == caseExecutions.length &&
    runs.all fun run => run.executionDisposition = some .executed
  if !fullyExecuted then
    taskProjection .specExecution .completed .failed
      (if runs.isEmpty then some .notRun else some .blocked)
      (if runs.any fun run => run.verdict = some .failed then some .failed else none)
  else
    let verdict :=
      if runs.any fun run => run.verdict = some .failed then ProductVerdict.failed
      else if runs.any fun run => run.verdict = some .inconclusive || run.verdict = none then
        .inconclusive
      else .passed
    taskProjection .specExecution .completed .succeeded (some .executed) (some verdict)

def projectCases (localeCompare : String → String → Int) (caseExecutions : List TaskCase) :
    TaskExecutionProjection :=
  let runs := caseExecutions.filterMap TaskCase.linkedRun
  let runsActive := runs.any fun run => !run.lifecycle.terminal
  if runs.any fun run => run.lifecycle = .waitingHuman then
    taskProjection .specExecution .waitingHuman .running none none
  else if caseExecutions.any TaskCase.accountsRequired && !runsActive then
    { taskProjection .specExecution .waitingHuman .running none none with
      waitingReason := some "TEST_ACCOUNTS_REQUIRED" }
  else if caseExecutions.isEmpty || caseExecutions.any TaskCase.dispatchActive || runsActive then
    { taskProjection .specExecution .running .running none none with
      waitingReason := (summarizeCaseScheduling localeCompare
        (caseExecutions.map TaskCase.progress) none).reason }
  else projectFinished caseExecutions

def projectTaskExecution (localeCompare : String → String → Int)
    (input : TaskExecutionProjectionInput) : TaskExecutionProjection :=
  if input.cancelRequested then taskProjection .specExecution .cancelled .cancelled none none
  else if input.timedOut.getD false then
    taskProjection .specExecution .timedOut .failed none none
  else
    match input.analysisStatus with
    | .pending => taskProjection .specAnalysis .queued input.executionStatus none none
    | .running => taskProjection .specAnalysis .running input.executionStatus none none
    | .waitingInput =>
        { taskProjection .specAnalysis .waitingInput input.executionStatus none none with
          waitingReason := some "ANALYSIS_INPUT_REQUIRED" }
    | .failed =>
        taskProjection .specAnalysis .completed input.executionStatus (some .notRun) none
    | .cancelled => taskProjection .specAnalysis .cancelled .cancelled none none
    | .succeeded | .skipped =>
        if !input.targetAvailable || input.executionStatus = .waitingInput then
          { taskProjection .specExecution .waitingInput .waitingInput none none with
            waitingReason := some "DEPLOYMENT_TARGET_REQUIRED" }
        else projectCases localeCompare input.caseExecutions

def TaskCase.runActive (item : TaskCase) : Bool :=
  item.linkedRun.any fun run => !run.lifecycle.terminal

def TaskCase.openForTask (item : TaskCase) : Bool :=
  item.dispatchActive || item.accountsRequired || item.runActive

theorem linkedRun_eq_some_iff {item : TaskCase} {run : CaseRun} :
    item.linkedRun = some run ↔ item.dispatchStatus = .linked ∧ item.run = some run := by
  unfold TaskCase.linkedRun
  split
  · rename_i linked
    simp [linked]
  · rename_i unlinked
    simp [unlinked]

theorem mem_runs {cases : List TaskCase} {run : CaseRun} :
    run ∈ cases.filterMap TaskCase.linkedRun ↔
      ∃ item ∈ cases, item.dispatchStatus = .linked ∧ item.run = some run := by
  simp only [List.mem_filterMap, linkedRun_eq_some_iff]

theorem runsActive_iff {cases : List TaskCase} :
    ((cases.filterMap TaskCase.linkedRun).any fun run => !run.lifecycle.terminal) = true ↔
      ∃ item ∈ cases, item.runActive = true := by
  simp only [List.any_eq_true, List.mem_filterMap, TaskCase.runActive, Option.any_eq_true]
  constructor
  · rintro ⟨run, ⟨item, inside, linked⟩, active⟩
    exact ⟨item, inside, run, linked, active⟩
  · rintro ⟨item, inside, run, linked, active⟩
    exact ⟨run, ⟨item, inside, linked⟩, active⟩

theorem projectFinished_completed (cases : List TaskCase) :
    (projectFinished cases).lifecycle = .completed := by
  unfold projectFinished
  simp only
  split
  · rfl
  · rfl

theorem projectCases_open (localeCompare : String → String → Int) {cases : List TaskCase}
    (open' : ∃ item ∈ cases, item.openForTask = true) :
    (projectCases localeCompare cases).lifecycle ≠ .completed := by
  obtain ⟨item, member, works⟩ := open'
  simp only [TaskCase.openForTask, Bool.or_eq_true] at works
  unfold projectCases
  simp only
  split
  · exact TaskLifecycle.noConfusion
  split
  · exact TaskLifecycle.noConfusion
  · rename_i unrequired
    split
    · exact TaskLifecycle.noConfusion
    · rename_i idle
      simp only [Bool.or_eq_true, not_or, runsActive_iff] at idle
      simp only [Bool.and_eq_true, Bool.not_eq_true', not_and, Bool.not_eq_false,
        runsActive_iff] at unrequired
      rcases works with (dispatch | accounts) | active
      · exact absurd (List.any_eq_true.mpr ⟨item, member, dispatch⟩) idle.1.2
      · exact absurd (unrequired (List.any_eq_true.mpr ⟨item, member, accounts⟩)) idle.2
      · exact absurd ⟨item, member, active⟩ idle.2

theorem projectCases_closed (localeCompare : String → String → Int) {cases : List TaskCase}
    (nonempty : cases ≠ []) (closed : ∀ item ∈ cases, item.openForTask = false) :
    projectCases localeCompare cases = projectFinished cases := by
  simp only [TaskCase.openForTask, Bool.or_eq_false_iff] at closed
  have idle : ((cases.filterMap TaskCase.linkedRun).any fun run => !run.lifecycle.terminal) =
      false := by
    rw [← Bool.not_eq_true, runsActive_iff]
    rintro ⟨item, member, active⟩
    rw [(closed item member).2] at active
    cases active
  have unheld : ((cases.filterMap TaskCase.linkedRun).any fun run =>
      decide (run.lifecycle = .waitingHuman)) = false := by
    rw [List.any_eq_false] at idle ⊢
    intro run member waits
    exact idle run member (by rw [of_decide_eq_true waits]; rfl)
  have unrequired : cases.any TaskCase.accountsRequired = false := by
    rw [List.any_eq_false]
    intro item member
    rw [(closed item member).1.2]
    exact Bool.false_ne_true
  have settled : cases.any TaskCase.dispatchActive = false := by
    rw [List.any_eq_false]
    intro item member
    rw [(closed item member).1.1]
    exact Bool.false_ne_true
  have filled : cases.isEmpty = false := List.isEmpty_eq_false_iff.mpr nonempty
  simp [projectCases, idle, unheld, unrequired, settled, filled]

/-- A task is over when its cases leave it nothing to do. -/
theorem projectCases_completed_iff (localeCompare : String → String → Int) {cases : List TaskCase}
    (nonempty : cases ≠ []) :
    (projectCases localeCompare cases).lifecycle = .completed ↔
      ∀ item ∈ cases, item.openForTask = false := by
  constructor
  · intro completed item member
    by_contra works
    exact projectCases_open localeCompare ⟨item, member, Bool.not_eq_false _ ▸ works⟩ completed
  · intro closed
    rw [projectCases_closed localeCompare nonempty closed]
    exact projectFinished_completed cases

end Devproof
