import Devproof.Scheduling.TaskProjection

/-!
When the state of a task and the progress of its cases agree that it is over.
The two are decided by separate folds; a case that only one of them still
counts as open sets them apart unless another case makes up for it.
-/

namespace Devproof

open Acceptance (TaskLifecycle StageStatus)

namespace TaskCase

def schedulingState (item : TaskCase) : Option CaseSchedulingState :=
  (readCaseScheduling item.scheduling).map (·.state)

def openForProgress (item : TaskCase) : Bool :=
  match item.run with
  | some run => !run.lifecycle.terminal
  | none =>
      item.accountsRequired || item.schedulingState = some .recovering ||
        item.dispatchActive && !(item.schedulingState = some .terminal)

/-- A case that only the progress has open: its run is lost and was recovering, or goes on
    although the case is no longer linked to it. -/
def leftOpen (item : TaskCase) : Bool :=
  !item.dispatchActive && !item.accountsRequired &&
    match item.run with
    | some run => !run.lifecycle.terminal && item.dispatchStatus ≠ .linked
    | none => item.schedulingState = some .recovering

/-- A case that only the task has open: its run is over, or its scheduling is, with a dispatch or
    accounts still asked for. -/
def closedEarly (item : TaskCase) : Bool :=
  match item.run with
  | some run => run.lifecycle.terminal && (item.dispatchActive || item.accountsRequired)
  | none =>
      !item.accountsRequired && item.dispatchActive && item.schedulingState = some .terminal

def Passed (item : TaskCase) : Prop :=
  ∃ run, item.dispatchStatus = .linked ∧ item.run = some run ∧
    run.executionDisposition = some .executed ∧ run.verdict = some .passed

def Failed (item : TaskCase) : Prop :=
  ∃ run, item.dispatchStatus = .linked ∧ item.run = some run ∧ run.verdict = some .failed

end TaskCase

/-! A case, for the task and for the progress. -/

theorem dispatchActive_eq_false_iff {item : TaskCase} :
    item.dispatchActive = false ↔ item.dispatchStatus = .cancelled ∨
      item.dispatchStatus = .linked ∨ item.dispatchStatus = .failed ∧
        item.dispatchMaxAttempts ≤ item.dispatchAttempts := by
  unfold TaskCase.dispatchActive
  cases item.dispatchStatus <;> simp

theorem phase_terminal_iff (item : TaskCase) :
    caseExecutionPhase item.progress = .terminal ↔ item.openForProgress = false := by
  unfold caseExecutionPhase TaskCase.openForProgress
  cases held : item.run with
  | some run =>
      simp only [TaskCase.progress, held]
      cases ended : run.lifecycle.terminal with
      | true => simp
      | false =>
          simp only [Bool.false_eq_true, if_false, Bool.not_false]
          repeat' split
          all_goals simp
  | none =>
      have state : (readCaseScheduling item.scheduling).map (·.state) = item.schedulingState := rfl
      have required : (readCaseScheduling item.scheduling).bind (·.reason) =
          some "TEST_ACCOUNTS_REQUIRED" ↔ item.accountsRequired = true := by
        rw [TaskCase.accountsRequired, decide_eq_true_eq]
      have active := @dispatchActive_eq_false_iff item
      simp only [TaskCase.progress, held, state, required, Option.getD_some, Bool.or_eq_false_iff,
        Bool.and_eq_false_iff, Bool.not_eq_false', decide_eq_true_eq, decide_eq_false_iff_not, active]
      split
      · rename_i needed
        simp [needed]
      · rename_i unneeded
        split
        · rename_i recovers
          simp [recovers]
        · rename_i settled
          rw [Bool.not_eq_true] at unneeded
          split
          · rename_i ended
            simp only [true_iff]
            tauto
          · rename_i works
            simp only [reduceCtorEq, false_iff]
            tauto

theorem leftOpen_iff {item : TaskCase} :
    item.leftOpen = true ↔ item.openForProgress = true ∧ item.openForTask = false := by
  unfold TaskCase.leftOpen TaskCase.openForProgress TaskCase.openForTask TaskCase.runActive
    TaskCase.linkedRun
  cases item.run with
  | none => cases item.dispatchActive <;> cases item.accountsRequired <;> simp
  | some run =>
      by_cases linked : item.dispatchStatus = .linked <;>
        cases item.dispatchActive <;> cases item.accountsRequired <;>
          cases run.lifecycle.terminal <;> simp [linked]

theorem closedEarly_iff {item : TaskCase} :
    item.closedEarly = true ↔ item.openForTask = true ∧ item.openForProgress = false := by
  unfold TaskCase.closedEarly TaskCase.openForProgress TaskCase.openForTask TaskCase.runActive
    TaskCase.linkedRun
  cases item.run with
  | none =>
      by_cases ended : item.schedulingState = some .terminal <;>
        cases item.dispatchActive <;> cases item.accountsRequired <;> simp [ended]
  | some run =>
      by_cases linked : item.dispatchStatus = .linked <;>
        cases item.dispatchActive <;> cases item.accountsRequired <;>
          cases run.lifecycle.terminal <;> simp [linked]

/-- Two folds that look for an open case agree when a case is open for both, or neither has
    one to itself, or each has. -/
theorem folds_agree_iff {α : Type} (cases : List α) (first second : α → Bool) :
    ((∀ item ∈ cases, first item = false) ↔ ∀ item ∈ cases, second item = false) ↔
      (∃ item ∈ cases, first item = true ∧ second item = true) ∨
      ((∃ item ∈ cases, second item = true ∧ first item = false) ↔
        ∃ item ∈ cases, first item = true ∧ second item = false) := by
  have none_open : ∀ fold : α → Bool,
      (∀ item ∈ cases, fold item = false) ↔ ¬∃ item ∈ cases, fold item = true := by
    intro fold
    simp
  rw [none_open, none_open, not_iff_not]
  by_cases both : ∃ item ∈ cases, first item = true ∧ second item = true
  · obtain ⟨item, member, works, shows⟩ := both
    exact iff_of_true ⟨fun _ => ⟨item, member, shows⟩, fun _ => ⟨item, member, works⟩⟩
      (Or.inl ⟨item, member, works, shows⟩)
  · have alone : ∀ item ∈ cases, first item = true → second item = false := by
      intro item member works
      by_contra shows
      exact both ⟨item, member, works, by simpa using shows⟩
    have firsts : (∃ item ∈ cases, first item = true) ↔
        ∃ item ∈ cases, first item = true ∧ second item = false := by
      constructor
      · rintro ⟨item, member, works⟩
        exact ⟨item, member, works, alone item member works⟩
      · rintro ⟨item, member, works, -⟩
        exact ⟨item, member, works⟩
    have seconds : (∃ item ∈ cases, second item = true) ↔
        ∃ item ∈ cases, second item = true ∧ first item = false := by
      constructor
      · rintro ⟨item, member, shows⟩
        refine ⟨item, member, shows, ?_⟩
        by_contra works
        rw [alone item member (by simpa using works)] at shows
        cases shows
      · rintro ⟨item, member, shows, -⟩
        exact ⟨item, member, shows⟩
    rw [firsts, seconds, or_iff_right both]
    exact iff_comm

/-! The verdict of a task that is over. -/

theorem projectFinished_passed_iff {cases : List TaskCase} :
    (projectFinished cases).verdict = some .passed ↔ ∀ item ∈ cases, item.Passed := by
  unfold projectFinished
  simp only
  constructor
  · intro passed item member
    split at passed
    · simp only [taskProjection] at passed
      split at passed
      · cases passed
      · cases passed
    · rename_i executed
      simp only [Bool.not_eq_true', Bool.not_eq_false, Bool.and_eq_true, List.all_eq_true] at executed
      obtain ⟨⟨linked, -⟩, done⟩ := executed
      obtain ⟨run, held⟩ := Option.isSome_iff_exists.mp (linked item member)
      obtain ⟨status, run_eq⟩ := linkedRun_eq_some_iff.mp held
      have inside : run ∈ cases.filterMap TaskCase.linkedRun :=
        mem_runs.mpr ⟨item, member, status, run_eq⟩
      refine ⟨run, status, run_eq, of_decide_eq_true (done run inside), ?_⟩
      simp only [taskProjection, Option.some.injEq] at passed
      split at passed
      · cases passed
      · rename_i noFailure
        split at passed
        · cases passed
        · rename_i conclusive
          simp only [List.any_eq_true, not_exists, not_and, decide_eq_true_eq, Bool.or_eq_true,
            not_or] at noFailure conclusive
          cases verdict : run.verdict with
          | none => exact absurd verdict (conclusive run inside).2
          | some value =>
              cases value with
              | passed => rfl
              | failed => exact absurd verdict (noFailure run inside)
              | inconclusive => exact absurd verdict (conclusive run inside).1
  · intro passed
    have held : ∀ item ∈ cases, ∃ run, item.linkedRun = some run := by
      intro item member
      obtain ⟨run, status, run_eq, -⟩ := passed item member
      exact ⟨run, linkedRun_eq_some_iff.mpr ⟨status, run_eq⟩⟩
    have all : ∀ run ∈ cases.filterMap TaskCase.linkedRun,
        run.executionDisposition = some .executed ∧ run.verdict = some .passed := by
      intro run inside
      obtain ⟨item, member, status, run_eq⟩ := mem_runs.mp inside
      obtain ⟨other, -, other_eq, executed, verdict⟩ := passed item member
      rw [run_eq, Option.some.injEq] at other_eq
      subst other_eq
      exact ⟨executed, verdict⟩
    have linked : (cases.all fun item => item.linkedRun.isSome) = true :=
      List.all_eq_true.mpr fun item member => Option.isSome_iff_exists.mpr (held item member)
    have length : (cases.filterMap TaskCase.linkedRun).length = cases.length :=
      List.filterMap_length_eq_length.mpr (List.all_eq_true.mp linked)
    have executed : ((cases.filterMap TaskCase.linkedRun).all fun run =>
        decide (run.executionDisposition = some .executed)) = true :=
      List.all_eq_true.mpr fun run inside => decide_eq_true (all run inside).1
    have noFailure : ((cases.filterMap TaskCase.linkedRun).any fun run =>
        decide (run.verdict = some .failed)) = false := by
      rw [List.any_eq_false]
      intro run inside
      rw [(all run inside).2]
      decide
    have conclusive : ((cases.filterMap TaskCase.linkedRun).any fun run =>
        decide (run.verdict = some .inconclusive) || decide (run.verdict = none)) = false := by
      rw [List.any_eq_false]
      intro run inside
      rw [(all run inside).2]
      decide
    simp [linked, length, executed, noFailure, conclusive, taskProjection]

theorem projectFinished_failed {cases : List TaskCase} (failed : ∃ item ∈ cases, item.Failed) :
    (projectFinished cases).verdict = some .failed := by
  have found : ((cases.filterMap TaskCase.linkedRun).any fun run =>
      decide (run.verdict = some .failed)) = true := by
    obtain ⟨item, member, run, linked, held, verdict⟩ := failed
    exact List.any_eq_true.mpr ⟨run, mem_runs.mpr ⟨item, member, linked, held⟩,
      decide_eq_true verdict⟩
  unfold projectFinished
  simp only [found, if_true]
  split
  · rfl
  · rfl

structure FinishedTogether (localeCompare : String → String → Int)
    (input : TaskExecutionProjectionInput) (counts : CaseCounts) : Prop where
  completed : (projectTaskExecution localeCompare input).lifecycle = .completed ↔
    counts.terminal = input.caseExecutions.length
  passed : (projectTaskExecution localeCompare input).lifecycle = .completed →
    ((projectTaskExecution localeCompare input).verdict = some .passed ↔
      ∀ item ∈ input.caseExecutions, item.Passed)
  failed : (projectTaskExecution localeCompare input).lifecycle = .completed →
    (∃ item ∈ input.caseExecutions, item.Failed) →
      (projectTaskExecution localeCompare input).verdict = some .failed

section Task

variable (localeCompare : String → String → Int)

/-- The cases for which state and progress agree that the task is over, or that it is not. -/
def casesAgree (cases : List TaskCase) : Prop :=
  (∃ item ∈ cases, item.openForTask = true ∧ item.openForProgress = true) ∨
  ((∃ item ∈ cases, item.leftOpen = true) ↔ ∃ item ∈ cases, item.closedEarly = true)

def agreesOnFinish (input : TaskExecutionProjectionInput) : Prop :=
  match input.analysisStatus with
  | .succeeded | .skipped =>
      if input.executionStatus = .waitingInput then
        ∃ item ∈ input.caseExecutions, item.openForProgress = true
      else casesAgree input.caseExecutions
  | .failed =>
      -- a task whose analysis failed is over without a verdict, whatever its cases are
      (∀ item ∈ input.caseExecutions, item.openForProgress = false) ∧
        (¬∀ item ∈ input.caseExecutions, item.Passed) ∧
        ¬∃ item ∈ input.caseExecutions, item.Failed
  | _ => ∃ item ∈ input.caseExecutions, item.openForProgress = true

def analysisFinished : StageStatus → Bool
  | .pending | .running | .waitingInput => false
  | _ => true

theorem terminal_count_iff {cases : List TaskCase} {plannedTotal : Nat}
    {parent : Option TaskLifecycle} (open' : parentOver parent = false) :
    (countCaseExecutions (cases.map TaskCase.progress) plannedTotal parent).terminal =
        cases.length ↔ ∀ item ∈ cases, item.openForProgress = false := by
  have counted :=
    @countCaseExecutions_terminal (cases.map TaskCase.progress) plannedTotal parent open'
  rw [List.length_map] at counted
  rw [counted, List.forall_mem_map]
  exact forall₂_congr fun item _ => phase_terminal_iff item

theorem projectCases_agree_iff {cases : List TaskCase} (nonempty : cases ≠ []) :
    ((projectCases localeCompare cases).lifecycle = .completed ↔
      ∀ item ∈ cases, item.openForProgress = false) ↔ casesAgree cases := by
  rw [projectCases_completed_iff localeCompare nonempty, folds_agree_iff, casesAgree]
  simp only [leftOpen_iff, closedEarly_iff]

theorem finishedTogether_open {input : TaskExecutionProjectionInput} {counts : CaseCounts}
    (goesOn : (projectTaskExecution localeCompare input).lifecycle ≠ .completed) :
    FinishedTogether localeCompare input counts ↔
      counts.terminal ≠ input.caseExecutions.length := by
  constructor
  · exact fun agree all => goesOn (agree.completed.mpr all)
  · exact fun some => ⟨⟨fun ended => absurd ended goesOn, fun all => absurd all some⟩,
      fun ended => absurd ended goesOn, fun ended => absurd ended goesOn⟩

theorem finishedTogether_cases {input : TaskExecutionProjectionInput} {counts : CaseCounts}
    (nonempty : input.caseExecutions ≠ [])
    (decided : projectTaskExecution localeCompare input =
      projectCases localeCompare input.caseExecutions)
    (terminal : counts.terminal = input.caseExecutions.length ↔
      ∀ item ∈ input.caseExecutions, item.openForProgress = false) :
    FinishedTogether localeCompare input counts ↔ casesAgree input.caseExecutions := by
  rw [← projectCases_agree_iff localeCompare nonempty, ← terminal]
  constructor
  · intro agree
    have completed := agree.completed
    rwa [decided] at completed
  · intro completed
    have finished : (projectCases localeCompare input.caseExecutions).lifecycle = .completed →
        projectTaskExecution localeCompare input = projectFinished input.caseExecutions := by
      intro ended
      rw [decided]
      exact projectCases_closed localeCompare nonempty
        ((projectCases_completed_iff localeCompare nonempty).mp ended)
    rw [← decided] at completed finished
    refine ⟨completed, fun ended => ?_, fun ended failed => ?_⟩
    · rw [finished ended]
      exact projectFinished_passed_iff
    · rw [finished ended]
      exact projectFinished_failed failed

theorem finishedTogether_failed {input : TaskExecutionProjectionInput} {counts : CaseCounts}
    (ended : (projectTaskExecution localeCompare input).lifecycle = .completed)
    (verdictless : (projectTaskExecution localeCompare input).verdict = none) :
    FinishedTogether localeCompare input counts ↔
      counts.terminal = input.caseExecutions.length ∧
        (¬∀ item ∈ input.caseExecutions, item.Passed) ∧
        ¬∃ item ∈ input.caseExecutions, item.Failed := by
  constructor
  · intro agree
    refine ⟨agree.completed.mp ended, fun passed => ?_, fun failed => ?_⟩
    · have verdict := (agree.passed ended).mpr passed
      rw [verdictless] at verdict
      cases verdict
    · have verdict := agree.failed ended failed
      rw [verdictless] at verdict
      cases verdict
  · rintro ⟨all, unpassed, unfailed⟩
    refine ⟨iff_of_true ended all, fun _ => ?_, fun _ failed => absurd failed unfailed⟩
    rw [verdictless]
    exact iff_of_false (by simp) unpassed

/-- The phase counts are disjoint and together the total, and the state of a task and the progress
    of its cases agree that the task is over on the inputs of `agreesOnFinish`, and on no others. -/
theorem projectTaskExecution_agrees (input : TaskExecutionProjectionInput) (plannedTotal : Nat)
    (parent : Option TaskLifecycle) (nonempty : input.caseExecutions ≠ [])
    (uncancelled : input.cancelRequested = false) (inTime : input.timedOut ≠ some true)
    (analysed : analysisFinished input.analysisStatus = true)
    (target : input.targetAvailable = true) (goesOn : parentOver parent = false) :
    let counts :=
      countCaseExecutions (input.caseExecutions.map TaskCase.progress) plannedTotal parent
    counts.phases = counts.total ∧
      counts.total = max plannedTotal input.caseExecutions.length ∧
      (FinishedTogether localeCompare input counts ↔ agreesOnFinish input) := by
  intro counts
  obtain ⟨disjoint, total⟩ :=
    countCaseExecutions_total (input.caseExecutions.map TaskCase.progress) plannedTotal parent
  rw [List.length_map] at total
  refine ⟨disjoint, total, ?_⟩
  have terminal : counts.terminal = input.caseExecutions.length ↔
      ∀ item ∈ input.caseExecutions, item.openForProgress = false := terminal_count_iff goesOn
  have some_open : counts.terminal ≠ input.caseExecutions.length ↔
      ∃ item ∈ input.caseExecutions, item.openForProgress = true := by
    rw [ne_eq, terminal]
    simp
  have late : input.timedOut.getD false = false := by
    cases out : input.timedOut with
    | none => rfl
    | some value =>
        cases value with
        | false => rfl
        | true => exact absurd out inTime
  have decided : input.analysisStatus = .succeeded ∨ input.analysisStatus = .skipped →
      (FinishedTogether localeCompare input counts ↔
        if input.executionStatus = .waitingInput then
          ∃ item ∈ input.caseExecutions, item.openForProgress = true
        else casesAgree input.caseExecutions) := by
    intro analysis
    by_cases waits : input.executionStatus = .waitingInput
    · rw [if_pos waits, ← some_open]
      apply finishedTogether_open
      rcases analysis with analysis | analysis <;>
        simp [projectTaskExecution, uncancelled, late, analysis, waits, taskProjection]
    · rw [if_neg waits]
      apply finishedTogether_cases localeCompare nonempty ?_ terminal
      rcases analysis with analysis | analysis <;>
        simp [projectTaskExecution, uncancelled, late, analysis, waits, target]
  unfold agreesOnFinish
  cases analysis : input.analysisStatus with
  | pending => simp [analysis, analysisFinished] at analysed
  | running => simp [analysis, analysisFinished] at analysed
  | waitingInput => simp [analysis, analysisFinished] at analysed
  | succeeded => exact decided (Or.inl analysis)
  | skipped => exact decided (Or.inr analysis)
  | failed =>
      rw [← terminal]
      apply finishedTogether_failed
      · simp [projectTaskExecution, uncancelled, late, analysis, taskProjection]
      · simp [projectTaskExecution, uncancelled, late, analysis, taskProjection]
  | cancelled =>
      rw [← some_open]
      apply finishedTogether_open
      simp [projectTaskExecution, uncancelled, late, analysis, taskProjection]

end Task

def passedCase : TaskCase where
  dispatchAttempts := 1
  dispatchMaxAttempts := 3
  dispatchStatus := .linked
  run := some { executionDisposition := some .executed, lifecycle := .completed,
                verdict := some .passed }

def lostCase : TaskCase where
  dispatchAttempts := 1
  dispatchMaxAttempts := 3
  scheduling := some (.obj [("state", .str "RECOVERING")])
  dispatchStatus := .linked
  run := none

def taskOf (cases : List TaskCase) : TaskExecutionProjectionInput where
  analysisStatus := .succeeded
  cancelRequested := false
  caseExecutions := cases
  executionStatus := .running
  targetAvailable := true

def caseIn (lifecycle : RunLifecycle) : TaskCase :=
  { passedCase with
    run := some { executionDisposition := none, lifecycle := lifecycle, verdict := none } }

def retriedCase : TaskCase :=
  { lostCase with dispatchStatus := .failed }

/-- A case in each phase, of six planned ones. -/
def mixedCases : List TaskCase :=
  [passedCase, caseIn .running, caseIn .waitingHuman, retriedCase,
    { retriedCase with scheduling := none }]

theorem projectTaskExecution_agrees_mixed :
    (countCaseExecutions (mixedCases.map TaskCase.progress) 6 none).phases = 6 ∧
      FinishedTogether (fun _ _ => 0) (taskOf mixedCases)
        (countCaseExecutions (mixedCases.map TaskCase.progress) 6 none) := by
  obtain ⟨disjoint, total, agrees⟩ := projectTaskExecution_agrees (fun _ _ => 0)
    (taskOf mixedCases) 6 none (by simp [taskOf, mixedCases]) rfl (by decide) rfl rfl rfl
  exact ⟨disjoint.trans total, agrees.mpr
    (Or.inl ⟨caseIn .running, by simp [taskOf, mixedCases], by decide, by decide⟩)⟩

/-- The task is over, and its progress still counts a case as recovering. -/
theorem projectTaskExecution_leaves_recovering :
    (projectTaskExecution (fun _ _ => 0) (taskOf [lostCase])).lifecycle = .completed ∧
    (countCaseExecutions [lostCase.progress] 1 none).recovering = 1 ∧
    ¬FinishedTogether (fun _ _ => 0) (taskOf [lostCase])
      (countCaseExecutions [lostCase.progress] 1 none) := by
  have ended : (projectTaskExecution (fun _ _ => 0) (taskOf [lostCase])).lifecycle =
      .completed := by decide
  have none_over : (countCaseExecutions [lostCase.progress] 1 none).terminal ≠ 1 := by decide
  exact ⟨ended, by decide, fun agree => none_over (agree.completed.mp ended)⟩

end Devproof
