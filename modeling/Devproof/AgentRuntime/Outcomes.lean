import Devproof.AgentRuntime.Leases

/-!
Outcomes of a run: what its rows keep in every interleaving, and what an accepted
outcome leaves for good.
-/

namespace Devproof

open TaskService

structure Orderly (row : AttemptRow) : Prop where
  unleased : row.task.status = .waitingHuman → row.task.leaseOwner = none
  intervention : row.interventionPending = true → row.task.status = .waitingHuman
  recovery : recovering row.task = true → row.task.status = .failed

theorem Scheduled.orderly {taskId : String} {maxAttempts : Nat} {row next : AttemptRow}
    (scheduled : Scheduled taskId maxAttempts row next) : Orderly next := by
  refine ⟨fun _ => scheduled.unclaimed, ?_, ?_⟩
  · intro pending
    rw [scheduled.undisturbed] at pending
    cases pending
  · intro waits
    rw [scheduled.calm] at waits
    cases waits

theorem OutcomeAccepted.running {taskId : String} {input : LeaseInput} {now : Int}
    {submission : Submission} {run : ExecutionRun} {row : AttemptRow} {commit : TaskCommit}
    (accepted : OutcomeAccepted taskId input now submission run row commit)
    (orderly : Orderly row) : row.task.status = .running := by
  have held := accepted.held
  obtain ⟨owner, -, -⟩ := holdsLease_fence accepted.holds
  cases status : row.task.status with
  | running => rfl
  | waitingHuman =>
      rw [orderly.unleased status] at owner
      cases owner
  | _ => simp [status, TaskStatus.held] at held

theorem lapsed_status {now : Int} {humanResume : Bool} {fencingToken : Nat} {run : ExecutionRun}
    {row : AttemptRow} (expired : lapsed now humanResume fencingToken run row = true) :
    row.task.status = .running ∨ row.task.status = .pending := by
  unfold lapsed at expired
  cases humanResume with
  | false =>
      simp only [Bool.false_eq_true, if_false, Bool.and_eq_true, beq_iff_eq] at expired
      exact Or.inl expired.2.1
  | true =>
      simp only [if_true, unclaimableHumanResume, Bool.and_eq_true, beq_iff_eq] at expired
      exact Or.inr expired.2.1.1.1.1.1.1

theorem effect_orderly {taskId : String} {run : ExecutionRun} {row : AttemptRow}
    {commit : TaskCommit} {request : TaskRequest} (orderly : Orderly row)
    (effect : TaskEffect taskId run row commit request) : Orderly commit.row := by
  obtain ⟨unleased, intervention, recovery⟩ := orderly
  cases effect with
  | kept lease outcome calm undisturbed =>
      refine ⟨?_, ?_, ?_⟩
      · rw [outcome.status, lease.leaseOwner]
        exact unleased
      · rw [undisturbed, outcome.status]
        exact intervention
      · rw [outcome.status]
        exact fun waits => recovery (calm waits)
  | claimed pending answers raised owner token running completion result calm undisturbed =>
      refine ⟨by simp [running], ?_, ?_⟩
      · rw [undisturbed]
        intro waits
        simp [pending] at intervention
        simp [intervention] at waits
      · rw [calm]
        intro waits
        simp [pending] at recovery
        simp [recovery] at waits
  | @accepted input now submission accepted =>
      have running := accepted.running ⟨unleased, intervention, recovery⟩
      refine ⟨fun _ => accepted.released, ?_, ?_⟩
      · rw [accepted.intervention, Bool.or_eq_true]
        rintro (pending | waiting)
        · rw [intervention pending] at running
          cases running
        · have status := projection_status row.attempt.number
            (acceptedOutcome taskId row submission.outcome)
            (effectiveRetryPolicy run.executionPolicy.browser
              (acceptedOutcome taskId row submission.outcome) run.executionPolicy.retryPolicy)
          rw [waiting] at status
          rw [accepted.status]
          exact status
      · intro waits
        rw [recovery (accepted.calm waits)] at running
        cases running
  | lost expired raised released failed completion undisturbed =>
      refine ⟨by simp [failed], ?_, fun _ => failed⟩
      rw [undisturbed]
      intro pending
      rcases lapsed_status expired with status | status
      · rw [intervention pending] at status
        cases status
      · rw [intervention pending] at status
        cases status
  | recovered waits lease status completion undisturbed =>
      refine ⟨?_, ?_, ?_⟩
      · rw [status, lease.leaseOwner]
        exact unleased
      · rw [undisturbed, status]
        exact intervention
      · intro _
        rw [status]
        exact recovery waits
  | resumed pending lease status undisturbed calm =>
      refine ⟨by simp [status], by simp [undisturbed], ?_⟩
      rw [calm]
      intro waits
      have waiting := intervention pending
      rw [recovery waits] at waiting
      cases waiting

theorem cancelRow_orderly {now : Int} {row : AttemptRow} (orderly : Orderly row) :
    Orderly (RunServices.cancelRow now row) := by
  obtain ⟨unleased, intervention, recovery⟩ := orderly
  unfold RunServices.cancelRow
  refine ⟨?_, by simp, ?_⟩
  · cases status : row.task.status <;> simp [RunServices.TaskStatus.live, status]
  · intro waits
    have failed : row.task.status = .failed := by
      apply recovery
      revert waits
      simp only
      split <;> exact id
    simp [failed, RunServices.TaskStatus.live]

theorem rowStep_orderly {taskId : String} {move : TaskMove} {state : RunState}
    {before after : AttemptRow} (orderly : Orderly before)
    (next : RowStep taskId move state before after) : Orderly after := by
  cases next with
  | same => exact orderly
  | performed _ performed => exact effect_orderly orderly (request_effect performed).2
  | cancelled => exact cancelRow_orderly orderly

theorem step_orderly (move : TaskMove) {state : RunState}
    (orderly : ∀ entry ∈ state.tasks, Orderly entry.2) :
    ∀ entry ∈ (TaskMove.step move state).state.tasks, Orderly entry.2 := by
  intro entry member
  rcases rows_step member with ⟨before, present, next⟩ |
    ⟨taskId, request, row, commit, -, present, performed, inserted⟩
  · exact rowStep_orderly (orderly _ (mem_of_row present)) next
  · cases (request_effect performed).2 with
    | accepted accepted => exact (accepted.scheduled entry inserted).2.orderly
    | recovered waits lease status completion undisturbed scheduled =>
        exact (scheduled entry inserted).orderly
    | kept _ _ _ _ unscheduled => simp [unscheduled] at inserted
    | claimed _ _ _ _ _ _ _ _ _ _ unscheduled => simp [unscheduled] at inserted
    | lost _ _ _ _ _ _ unscheduled => simp [unscheduled] at inserted
    | resumed _ _ _ _ _ unscheduled => simp [unscheduled] at inserted

theorem created_orderly (teamId taskId attemptId : String) (deadlineAt hardDeadlineAt : Int)
    (executionBudgetSeconds executionMaxExtensionSeconds : Option Nat)
    (executionPolicy : ExecutionPolicy) :
    ∀ entry ∈ (RunState.created teamId taskId attemptId deadlineAt hardDeadlineAt
      executionBudgetSeconds executionMaxExtensionSeconds executionPolicy).tasks,
      Orderly entry.2 := by
  intro entry member
  rw [List.mem_singleton.mp member]
  exact ⟨nofun, nofun, nofun⟩

theorem path_orderly {start finish : RunState} {made : List (TaskMove × RunState)}
    (path : Path TaskMove.step start made finish)
    (initially : ∀ entry ∈ start.tasks, Orderly entry.2) :
    ∀ entry ∈ finish.tasks, Orderly entry.2 :=
  (path.invariant (fun state => ∀ entry ∈ state.tasks, Orderly entry.2) initially
    fun entry _ orderly => step_orderly entry.1 orderly).1

def Accepts (taskId : String) (submission : Submission) (row : AttemptRow)
    (entry : TaskMove × RunState) : Prop :=
  (∃ input now, entry.1 = .on taskId (.submitOutcome input now submission)) ∧
    entry.2.row taskId = some row ∧ truthy row.task.completionId = none ∧
    (answerOf entry).isSome = true

def Resumes (taskId : String) (move : TaskMove) : Prop :=
  ∃ now executionBudgetSeconds executionMaxExtensionSeconds parentDeadlineAt,
    move = .on taskId (.resolveIntervention now executionBudgetSeconds
      executionMaxExtensionSeconds parentDeadlineAt)

theorem accepts_commit {taskId : String} {submission : Submission} {row : AttemptRow}
    {entry : TaskMove × RunState} (accepts : Accepts taskId submission row entry) :
    ∃ input now commit, OutcomeAccepted taskId input now submission entry.2.run row commit ∧
      (TaskMove.step entry.1 entry.2).state.row taskId = some commit.row := by
  obtain ⟨⟨input, now, made⟩, present, fresh, answered⟩ := accepts
  obtain ⟨move, state⟩ := entry
  simp only at made present
  subst made
  obtain ⟨answer, answered⟩ := Option.isSome_iff_exists.mp answered
  obtain ⟨commit, performed, quiet, -⟩ := answerOf_inv present answered
  obtain ⟨after, found, next⟩ := row_step (.on taskId (.submitOutcome input now submission)) present
  refine ⟨input, now, commit, ?_, ?_⟩
  · rcases submitOutcome_cases performed with ⟨held, -⟩ | accepted
    · rw [fresh] at held
      cases held
    · exact accepted
  · cases next with
    | same idle => exact absurd quiet (idle _ _ rfl performed)
    | cancelled made => cases made
    | performed made again =>
        cases (TaskMove.on.inj made).2
        rw [performed] at again
        cases again
        exact found

/-- After an acceptance its lease is spent: only a claim grants another, with a higher token. -/
def Spent (fencingToken : Nat) (row : AttemptRow) : Prop :=
  row.task.fencingToken = fencingToken ∧ row.task.leaseOwner = none ∨
    fencingToken < row.task.fencingToken

theorem spent_step {taskId : String} {fencingToken : Nat} {move : TaskMove} {state : RunState}
    {before after : AttemptRow} (spent : Spent fencingToken before)
    (next : RowStep taskId move state before after) : Spent fencingToken after := by
  have same {task : AgentRuntimeTask} (lease : SameLease before.task task) :
      task.fencingToken = fencingToken ∧ task.leaseOwner = none ∨
        fencingToken < task.fencingToken := by
    rw [lease.fencingToken, lease.leaseOwner]
    exact spent
  have raised {task : AgentRuntimeTask}
      (higher : task.fencingToken = before.task.fencingToken + 1) :
      fencingToken < task.fencingToken := by
    rcases spent with ⟨equal, -⟩ | above <;> omega
  cases next with
  | same => exact spent
  | cancelled =>
      unfold Spent RunServices.cancelRow
      simp only
      split <;> exact spent
  | performed _ performed =>
      cases (request_effect performed).2 with
      | kept lease => exact same lease
      | recovered _ lease => exact same lease
      | resumed _ lease => exact same lease
      | claimed _ _ higher => exact Or.inr (raised higher)
      | lost _ higher => exact Or.inr (raised higher)
      | accepted accepted =>
          obtain ⟨owner, -, -⟩ := holdsLease_fence accepted.holds
          refine Or.inr ?_
          rw [accepted.fencingToken]
          rcases spent with ⟨-, unowned⟩ | above
          · rw [unowned] at owner
            cases owner
          · exact above

theorem truthy_named (submission : Submission) :
    truthy (some submission.completionId) = some submission.completionId := by
  simp [truthy, submission.named]

theorem completion_step {taskId : String} {submission : Submission} {move : TaskMove}
    {state : RunState} {before after : AttemptRow}
    (held : before.task.completionId = some submission.completionId)
    (unresumed : ¬ Resumes taskId move) (next : RowStep taskId move state before after) :
    after.task.completionId = some submission.completionId := by
  cases next with
  | same => exact held
  | cancelled =>
      unfold RunServices.cancelRow
      simp only
      split <;> exact held
  | performed made performed =>
      cases (request_effect performed).2 with
      | kept _ outcome => exact outcome.completionId.trans held
      | claimed _ _ _ _ _ _ completion => exact completion.trans held
      | lost _ _ _ _ completion => exact completion.trans held
      | recovered _ _ _ completion => exact completion.trans held
      | accepted accepted =>
          have fresh := accepted.fresh
          rw [held, truthy_named] at fresh
          cases fresh
      | resumed => exact absurd ⟨_, _, _, _, made⟩ unresumed

structure Final (status : TaskStatus) (result : RuntimeOutcome) (row : AttemptRow) : Prop where
  statusIs : row.task.status = status
  resultIs : row.task.result = some result
  stopped : row.task.status.terminal = true
  calm : recovering row.task = false
  undisturbed : row.interventionPending = false

theorem final_step {taskId : String} {status : TaskStatus} {result : RuntimeOutcome}
    {move : TaskMove} {state : RunState} {before after : AttemptRow}
    (final : Final status result before) (next : RowStep taskId move state before after) :
    Final status result after := by
  obtain ⟨statusIs, resultIs, stopped, calm, undisturbed⟩ := final
  cases next with
  | same => exact ⟨statusIs, resultIs, stopped, calm, undisturbed⟩
  | cancelled =>
      have dead : RunServices.TaskStatus.live before.task.status = false := by
        revert stopped
        cases before.task.status <;> simp [RunServices.TaskStatus.live, TaskStatus.terminal]
      unfold RunServices.cancelRow
      simp only [dead, Bool.false_eq_true, if_false]
      exact ⟨statusIs, resultIs, stopped, calm, rfl⟩
  | @performed request commit _ performed =>
      cases (request_effect performed).2 with
      | kept _ outcome quiet same =>
          refine ⟨outcome.status.trans statusIs, outcome.result.trans resultIs,
            outcome.status ▸ stopped, ?_, same.trans undisturbed⟩
          cases waits : recovering commit.row.task with
          | false => rfl
          | true => exact (quiet waits).symm.trans calm
      | claimed pending => simp [pending, TaskStatus.terminal] at stopped
      | accepted accepted =>
          have held := accepted.held
          revert held stopped
          cases before.task.status <;> simp [TaskStatus.held, TaskStatus.terminal]
      | lost expired =>
          rcases lapsed_status expired with here | here
          · simp [here, TaskStatus.terminal] at stopped
          · simp [here, TaskStatus.terminal] at stopped
      | recovered waits =>
          rw [calm] at waits
          cases waits
      | resumed pending =>
          rw [undisturbed] at pending
          cases pending

theorem acceptedOutcome_isWaiting (taskId : String) (row : AttemptRow) (outcome : RuntimeOutcome) :
    (acceptedOutcome taskId row outcome).isWaiting = outcome.isWaiting := by
  have demoted (other : RuntimeOutcome) :
      (demoteLostSession other).isWaiting = other.isWaiting := by
    unfold demoteLostSession
    split <;> rfl
  have blocked (other : RuntimeOutcome) :
      (blockUnknownWrite other).isWaiting = other.isWaiting := by
    unfold blockUnknownWrite
    split <;> rfl
  unfold acceptedOutcome
  rw [demoted]
  split
  · exact blocked outcome
  · rfl

theorem OutcomeAccepted.final {taskId : String} {input : LeaseInput} {now : Int}
    {submission : Submission} {run : ExecutionRun} {row : AttemptRow} {commit : TaskCommit}
    (accepted : OutcomeAccepted taskId input now submission run row commit)
    (orderly : Orderly row) (ended : submission.outcome.isWaiting = false) :
    Final commit.row.task.status (acceptedOutcome taskId row submission.outcome) commit.row := by
  have running := accepted.running orderly
  have waiting : (acceptedOutcome taskId row submission.outcome).isWaiting = false := by
    rw [acceptedOutcome_isWaiting, ended]
  refine ⟨rfl, accepted.result, ?_, ?_, ?_⟩
  · have status := projection_status row.attempt.number
      (acceptedOutcome taskId row submission.outcome)
      (effectiveRetryPolicy run.executionPolicy.browser
        (acceptedOutcome taskId row submission.outcome) run.executionPolicy.retryPolicy)
    rw [waiting] at status
    rw [accepted.status]
    exact status
  · rw [Bool.eq_false_iff]
    intro waits
    rw [orderly.recovery (accepted.calm waits)] at running
    cases running
  · rw [accepted.intervention, waiting, Bool.or_false, Bool.eq_false_iff]
    intro pending
    rw [orderly.intervention pending] at running
    cases running

theorem replay_step {taskId : String} {input : LeaseInput} {now : Int}
    {submission again : Submission} {state : RunState} {row : AttemptRow}
    (present : state.row taskId = some row)
    (held : row.task.completionId = some submission.completionId) :
    (TaskMove.step (.on taskId (.submitOutcome input now again)) state).state = state ∧
      ((TaskMove.step (.on taskId (.submitOutcome input now again)) state).thrown = none ↔
        again.completionId = submission.completionId) := by
  rw [step_present _ present]
  simp only [TaskRequest.perform]
  unfold submitOutcome
  rw [held, truthy_named]
  by_cases same : submission.completionId = again.completionId
  · simp only [same, bne_self_eq_false, throwIf, Bool.false_eq_true, if_false, bind, Except.bind,
      pure, Except.pure]
    rcases commit_cases taskId _ state with
      ⟨quiet, run, tasks, events, -⟩ | ⟨threw, -⟩
    · refine ⟨RunState.ext run ?_ ?_, by simp [quiet]⟩
      · rw [tasks, RunState.update_same state.distinct present]
        exact List.append_nil _
      · rw [events]
        exact List.append_nil _
    · exact absurd rfl threw
  · have differs : (submission.completionId != again.completionId) = true := by
      simpa using same
    simp only [differs, throwIf, if_true, bind, Except.bind, Outcome.failed_state,
      Outcome.failed_thrown, true_and]
    simpa using Ne.symm same

theorem row_along {taskId : String} {start finish : RunState} {made : List (TaskMove × RunState)}
    (holds : AttemptRow → Prop) (path : Path TaskMove.step start made finish)
    (initially : ∃ row, start.row taskId = some row ∧ holds row)
    (kept : ∀ entry ∈ made, ∀ before after, RowStep taskId entry.1 entry.2 before after →
      holds before → holds after) :
    ∀ state ∈ statesOf made finish, ∃ row, state.row taskId = some row ∧ holds row := by
  have along := path.invariant (fun state => ∃ row, state.row taskId = some row ∧ holds row)
    initially ?_
  · intro state member
    rcases List.mem_append.mp member with visited | final
    · obtain ⟨entry, there, rfl⟩ := List.mem_map.mp visited
      exact along.2 entry there
    · rw [List.mem_singleton.mp final]
      exact along.1
  · rintro entry member ⟨row, present, held⟩
    obtain ⟨after, found, next⟩ := row_step entry.1 present
    exact ⟨after, found, kept entry member row after next held⟩

theorem statesOf_finish {made : List (TaskMove × RunState)} {finish : RunState} :
    finish ∈ statesOf made finish :=
  List.mem_append_right _ (List.mem_singleton.mpr rfl)

/-- In every run, a task accepts at most one outcome per fencing token, answers an accepted
completion again without a change, refuses another one, and keeps its status and result for
good once an outcome other than a request for a person is accepted. -/
theorem outcomes_accepted_once (teamId createdTaskId attemptId : String)
    (deadlineAt hardDeadlineAt : Int)
    (executionBudgetSeconds executionMaxExtensionSeconds : Option Nat)
    (executionPolicy : ExecutionPolicy) (moves : List TaskMove) (taskId : String) :
    let start := RunState.created teamId createdTaskId attemptId deadlineAt hardDeadlineAt
      executionBudgetSeconds executionMaxExtensionSeconds executionPolicy
    (∀ earlier first between second rest submission row again later,
      visits TaskMove.step moves start = earlier ++ first :: (between ++ second :: rest) →
      Accepts taskId submission row first → Accepts taskId again later second →
      row.task.fencingToken < later.task.fencingToken) ∧
    (∀ earlier first between repeated rest submission row input now again,
      visits TaskMove.step moves start = earlier ++ first :: (between ++ repeated :: rest) →
      Accepts taskId submission row first →
      (∀ entry ∈ between, ¬ Resumes taskId entry.1) →
      repeated.1 = .on taskId (.submitOutcome input now again) →
      (TaskMove.step repeated.1 repeated.2).state = repeated.2 ∧
        ((TaskMove.step repeated.1 repeated.2).thrown = none ↔
          again.completionId = submission.completionId)) ∧
    (∀ earlier first rest submission row,
      visits TaskMove.step moves start = earlier ++ first :: rest →
      Accepts taskId submission row first → submission.outcome.isWaiting = false →
      ∃ status, ∀ state ∈ statesOf rest (arrival TaskMove.step moves start),
        ∃ current, state.row taskId = some current ∧ current.task.status = status ∧
          current.task.result = some (acceptedOutcome taskId row submission.outcome)) := by
  intro start
  have path := tasks_path moves start
  refine ⟨?_, ?_, ?_⟩
  · intro earlier first between second rest submission row again later split accepts repeats
    rw [split] at path
    obtain ⟨input, now, commit, accepted, written⟩ := accepts_commit accepts
    obtain ⟨input', now', commit', reaccepted, -⟩ := accepts_commit repeats
    have spent := row_along (Spent row.task.fencingToken) path.through.2.through.1
      ⟨_, written, Or.inl ⟨accepted.fencingToken, accepted.released⟩⟩
      fun _ _ _ _ next spent => spent_step spent next
    obtain ⟨current, present, left⟩ := spent _ statesOf_finish
    obtain ⟨-, found, -, -⟩ := repeats
    rw [found] at present
    cases present
    obtain ⟨owner, -, -⟩ := holdsLease_fence reaccepted.holds
    rcases left with ⟨-, unowned⟩ | above
    · rw [unowned] at owner
      cases owner
    · exact above
  · intro earlier first between repeated rest submission row input now again split accepts
      unresumed made
    rw [split] at path
    obtain ⟨_, _, commit, accepted, written⟩ := accepts_commit accepts
    have held := row_along
      (fun current => current.task.completionId = some submission.completionId)
      path.through.2.through.1 ⟨_, written, accepted.completionId⟩
      fun entry member _ _ next held => completion_step held (unresumed entry member) next
    obtain ⟨current, present, holds⟩ := held _ statesOf_finish
    rw [made]
    exact replay_step present holds
  · intro earlier first rest submission row split accepts ended
    rw [split] at path
    have orderly := path_orderly path.through.1 (created_orderly _ _ _ _ _ _ _ _)
    obtain ⟨_, _, commit, accepted, written⟩ := accepts_commit accepts
    have final := accepted.final (orderly _ (mem_of_row accepts.2.1)) ended
    refine ⟨commit.row.task.status, ?_⟩
    intro state member
    obtain ⟨current, present, kept⟩ :=
      row_along (Final commit.row.task.status (acceptedOutcome taskId row submission.outcome))
        path.through.2 ⟨_, written, final⟩ (fun _ _ _ _ next final => final_step final next)
        state member
    exact ⟨current, present, kept.statusIs, kept.resultIs⟩

def passedOutcome (completionId : String) (named : completionId ≠ "") : TaskMove :=
  .on "task" (.submitOutcome firstLease 2000
    { completionId
      completedAt := 2000
      outcome := .verificationCompleted .passed "done" none
      named })

theorem second_completion_refused :
    let moves := [.on "task" (.browserChanged (some openedBrowser)), firstClaim,
      passedOutcome "first" (by decide)]
    let second := passedOutcome "second" (by decide)
    (TaskMove.step second (arrival TaskMove.step moves sampleRun)).state =
      arrival TaskMove.step moves sampleRun := by
  intro moves second
  have split : visits TaskMove.step (moves ++ [second]) sampleRun =
      visits TaskMove.step (moves.take 2) sampleRun ++
        (passedOutcome "first" (by decide), arrival TaskMove.step (moves.take 2) sampleRun) ::
          ([] ++ [(second, arrival TaskMove.step moves sampleRun)]) := rfl
  refine ((outcomes_accepted_once "team" "task" "attempt" 600000 900000 none none
    sampleRun.run.executionPolicy (moves ++ [second]) "task").2.1 _ _ _ _ _ _ _ _ _ _ split
    ⟨⟨_, _, rfl⟩, rfl, ?_, ?_⟩ (by simp) rfl).1
  · decide
  · decide

end Devproof
