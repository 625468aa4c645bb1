import Devproof.AgentRuntime.Outcomes

/-!
The attempts of a run: numbered in order, at most one of them live, never more
than the run allows.
-/

namespace Devproof

open TaskService

/-- The attempts are numbered from one in the order they were created, all but the last have
ended, and the run's bound is the one of its policy. -/
structure AttemptsInOrder (bound : Nat) (state : RunState) : Prop where
  numbered : state.tasks.map (fun entry => entry.2.attempt.number) =
    List.range' 1 state.tasks.length
  ended : ∀ entry ∈ state.tasks, entry.2.attempt.number ≠ state.tasks.length →
    entry.2.task.status.terminal = true
  bounded : state.tasks.length ≤ bound
  maxAttempts : state.run.maxAttempts = bound
  policy : state.run.executionPolicy.retryPolicy.maxAttempts = bound
  orderly : ∀ entry ∈ state.tasks, Orderly entry.2

theorem terminal_step {taskId : String} {move : TaskMove} {state : RunState}
    {before after : AttemptRow} (orderly : Orderly before)
    (ended : before.task.status.terminal = true)
    (next : RowStep taskId move state before after) :
    after.task.status.terminal = true := by
  cases next with
  | same => exact ended
  | cancelled =>
      unfold RunServices.cancelRow
      simp only
      split
      · rfl
      · exact ended
  | performed _ performed =>
      cases (request_effect performed).2 with
      | kept _ outcome => exact outcome.status ▸ ended
      | recovered _ _ status => exact status ▸ ended
      | claimed pending => simp [pending, TaskStatus.terminal] at ended
      | accepted accepted =>
          rw [accepted.running orderly] at ended
          cases ended
      | lost _ _ _ failed => simp [failed, TaskStatus.terminal]
      | resumed pending =>
          rw [orderly.intervention pending] at ended
          cases ended

theorem number_step {taskId : String} {move : TaskMove} {state : RunState}
    {before after : AttemptRow} (next : RowStep taskId move state before after) :
    after.attempt.number = before.attempt.number := by
  cases next with
  | same => rfl
  | cancelled =>
      unfold RunServices.cancelRow
      simp only
      split <;> rfl
  | performed _ performed => exact (request_effect performed).1.number

structure Schedules (bound : Nat) (state after : RunState) (taskId : String)
    (row : AttemptRow) (next : String × AttemptRow) : Prop where
  present : state.row taskId = some row
  scheduled : Scheduled taskId bound row next.2
  fresh : ∀ entry ∈ state.tasks, entry.2.attempt.number ≠ next.2.attempt.number
  ended : ∀ written, after.row taskId = some written → written.task.status.terminal = true

theorem attempts_step {bound : Nat} (move : TaskMove) {state : RunState}
    (inOrder : AttemptsInOrder bound state) :
    (TaskMove.step move state).state.run.maxAttempts = bound ∧
    (TaskMove.step move state).state.run.executionPolicy.retryPolicy.maxAttempts = bound ∧
    ∃ inserted : Option (String × AttemptRow),
      (TaskMove.step move state).state.tasks.map (fun entry => entry.2.attempt.number) =
        state.tasks.map (fun entry => entry.2.attempt.number) ++
          (inserted.map fun next => next.2.attempt.number).toList ∧
      (∀ entry ∈ (TaskMove.step move state).state.tasks, state.row entry.1 = none →
        inserted = some entry) ∧
      ∀ next ∈ inserted, ∃ taskId row,
        Schedules bound state (TaskMove.step move state).state taskId row next := by
  have unchanged (same : (TaskMove.step move state).state = state) :
      (TaskMove.step move state).state.run.maxAttempts = bound ∧
      (TaskMove.step move state).state.run.executionPolicy.retryPolicy.maxAttempts = bound ∧
      ∃ inserted : Option (String × AttemptRow),
        (TaskMove.step move state).state.tasks.map (fun entry => entry.2.attempt.number) =
          state.tasks.map (fun entry => entry.2.attempt.number) ++
            (inserted.map fun next => next.2.attempt.number).toList ∧
        (∀ entry ∈ (TaskMove.step move state).state.tasks, state.row entry.1 = none →
          inserted = some entry) ∧
        ∀ next ∈ inserted, ∃ taskId row,
          Schedules bound state (TaskMove.step move state).state taskId row next := by
    rw [same]
    refine ⟨inOrder.maxAttempts, inOrder.policy, none, by simp, ?_, by simp⟩
    intro entry member absent
    rw [row_of_mem member] at absent
    cases absent
  cases move with
  | cancel now =>
      by_cases ended : state.run.lifecycle.terminal = true
      · exact unchanged (by simp [TaskMove.step, ended])
      · simp only [TaskMove.step, ended, Bool.false_eq_true, if_false, Outcome.done_state]
        refine ⟨inOrder.maxAttempts, inOrder.policy, none, ?_, ?_, by simp⟩
        · simp only [List.map_map, Option.map_none, Option.toList_none, List.append_nil,
            List.map_inj_left, Function.comp, RunServices.cancelRow]
          intro entry _
          split <;> rfl
        · intro entry member absent
          obtain ⟨other, there, rfl⟩ := List.mem_map.mp member
          rw [row_of_mem there] at absent
          cases absent
  | on taskId request =>
      cases present : state.row taskId with
      | none => exact unchanged (by rw [step_absent _ present]; rfl)
      | some row =>
          have stepped := step_present request present
          cases performed : request.perform taskId state.events state.run row with
          | error failure => exact unchanged (by rw [stepped, performed]; rfl)
          | ok commit =>
              rw [performed] at stepped
              simp only at stepped
              obtain ⟨framed, effect⟩ := request_effect performed
              rcases commit_cases taskId commit state with
                ⟨-, run, tasks, -, free⟩ | ⟨-, same⟩
              · have numbers : (RunState.update taskId commit.row state.tasks).map
                    (fun entry => entry.2.attempt.number) =
                    state.tasks.map fun entry => entry.2.attempt.number := by
                  simp only [RunState.update, List.map_map, List.map_inj_left, Function.comp]
                  intro entry member
                  split
                  · rename_i same
                    have found := row_of_mem member
                    rw [same, present] at found
                    rw [framed.number, Option.some.inj found]
                  · rfl
                rw [stepped, run, tasks, List.map_append, numbers, framed.maxAttempts,
                  framed.executionPolicy]
                refine ⟨inOrder.maxAttempts, inOrder.policy, commit.next, ?_, ?_, ?_⟩
                · cases commit.next <;> rfl
                · intro entry member absent
                  rcases List.mem_append.mp member with kept | inserted
                  · have key : entry.1 ∈ (RunState.update taskId commit.row state.tasks).map
                        Prod.fst := List.mem_map.mpr ⟨entry, kept, rfl⟩
                    rw [RunState.keys_update] at key
                    obtain ⟨other, there, same⟩ := List.mem_map.mp key
                    rw [← same, row_of_mem there] at absent
                    cases absent
                  · simpa using inserted
                · intro next member
                  have written : (state.commit taskId commit).state.row taskId =
                      some commit.row := by
                    unfold RunState.row
                    rw [tasks]
                    apply RunState.lookup_append
                    rw [RunState.lookup_update, if_pos rfl,
                      show state.tasks.lookup taskId = some row from present]
                    rfl
                  have fresh : ∀ entry ∈ state.tasks,
                      entry.2.attempt.number ≠ next.2.attempt.number := by
                    intro entry there same
                    have number : next.2.attempt.number ∈
                        (RunState.update taskId commit.row state.tasks).map
                          fun entry => entry.2.attempt.number :=
                      numbers ▸ List.mem_map.mpr ⟨entry, there, same⟩
                    obtain ⟨other, held, equal⟩ := List.mem_map.mp number
                    have clear := List.any_eq_false.mp (free next member) other held
                    simp [equal] at clear
                  refine ⟨taskId, row, present, ?_, fresh, ?_⟩
                  · cases effect with
                    | accepted accepted =>
                        exact inOrder.policy ▸ (accepted.scheduled next member).2
                    | recovered _ _ _ _ _ scheduled =>
                        exact inOrder.maxAttempts ▸ scheduled next member
                    | kept _ _ _ _ unscheduled => simp [unscheduled] at member
                    | claimed _ _ _ _ _ _ _ _ _ _ unscheduled => simp [unscheduled] at member
                    | lost _ _ _ _ _ _ unscheduled => simp [unscheduled] at member
                    | resumed _ _ _ _ _ unscheduled => simp [unscheduled] at member
                  · intro other found
                    rw [written] at found
                    cases found
                    cases effect with
                    | accepted accepted => exact (accepted.scheduled next member).1
                    | recovered waits _ status =>
                        have failed :=
                          (inOrder.orderly _ (mem_of_row present)).recovery waits
                        rw [status, failed]
                        rfl
                    | kept _ _ _ _ unscheduled => simp [unscheduled] at member
                    | claimed _ _ _ _ _ _ _ _ _ _ unscheduled => simp [unscheduled] at member
                    | lost _ _ _ _ _ _ unscheduled => simp [unscheduled] at member
                    | resumed _ _ _ _ _ unscheduled => simp [unscheduled] at member
              · exact unchanged (by rw [stepped, same])

/-- Only the last attempt of a run can be followed by another one. -/
theorem Schedules.last {bound : Nat} {state after : RunState} {taskId : String} {row : AttemptRow}
    {next : String × AttemptRow} (inOrder : AttemptsInOrder bound state)
    (schedules : Schedules bound state after taskId row next) :
    row.attempt.number = state.tasks.length := by
  have member : row.attempt.number ∈ List.range' 1 state.tasks.length :=
    inOrder.numbered ▸ List.mem_map.mpr ⟨_, mem_of_row schedules.present, rfl⟩
  have above : row.attempt.number + 1 ∉ List.range' 1 state.tasks.length := by
    rw [← inOrder.numbered]
    intro taken
    obtain ⟨entry, there, same⟩ := List.mem_map.mp taken
    exact schedules.fresh entry there (same.trans schedules.scheduled.numbered.symm)
  rw [List.mem_range'_1] at member above
  omega

theorem in_order_step {bound : Nat} (move : TaskMove) {state : RunState}
    (inOrder : AttemptsInOrder bound state) :
    AttemptsInOrder bound (TaskMove.step move state).state := by
  obtain ⟨maxAttempts, policy, inserted, numbers, arrived, schedules⟩ :=
    attempts_step move inOrder
  have length : (TaskMove.step move state).state.tasks.length =
      state.tasks.length + inserted.toList.length := by
    have counted := congrArg List.length numbers
    cases inserted <;> simpa using counted
  have orderly := step_orderly move inOrder.orderly
  refine ⟨?_, ?_, ?_, maxAttempts, policy, orderly⟩
  · rw [numbers, inOrder.numbered, length]
    cases inserted with
    | none => simp
    | some next =>
        obtain ⟨taskId, row, scheduled⟩ := schedules next rfl
        have number := scheduled.scheduled.numbered
        rw [scheduled.last inOrder] at number
        simp only [Option.map_some, Option.toList_some, List.length_singleton, number]
        rw [List.range'_concat, Nat.one_mul, Nat.add_comm 1]
  · intro entry member elsewhere
    cases present : state.row entry.1 with
    | none =>
        -- The attempt that was just inserted is the last one.
        have new := arrived entry member present
        obtain ⟨taskId, row, scheduled⟩ := schedules entry new
        rw [length, new] at elsewhere
        refine absurd ?_ elsewhere
        rw [scheduled.scheduled.numbered, scheduled.last inOrder]
        rfl
    | some before =>
        obtain ⟨after, found, next⟩ := row_step move present
        rw [row_of_mem member] at found
        cases found
        have earlier := mem_of_row present
        by_cases last : before.attempt.number = state.tasks.length
        · -- The attempt was the last one, so it scheduled the one that follows it.
          cases inserted with
          | none =>
              refine absurd ?_ elsewhere
              rw [number_step next, last, length]
              rfl
          | some scheduledNext =>
              obtain ⟨taskId, row, scheduled⟩ := schedules scheduledNext rfl
              have distinct : (state.tasks.map fun entry => entry.2.attempt.number).Nodup :=
                inOrder.numbered ▸ List.nodup_range'
              have same : (entry.1, before) = (taskId, row) :=
                List.inj_on_of_nodup_map distinct earlier (mem_of_row scheduled.present)
                  (last.trans (scheduled.last inOrder).symm)
              apply scheduled.ended entry.2
              rw [← (Prod.mk.inj same).1]
              exact row_of_mem member
        · exact terminal_step (inOrder.orderly _ earlier) (inOrder.ended _ earlier last) next
  · rw [length]
    cases inserted with
    | none => exact inOrder.bounded
    | some next =>
        obtain ⟨taskId, row, scheduled⟩ := schedules next rfl
        have below := scheduled.scheduled.below
        rw [scheduled.last inOrder] at below
        exact below

theorem created_in_order (teamId taskId attemptId : String) (deadlineAt hardDeadlineAt : Int)
    (executionBudgetSeconds executionMaxExtensionSeconds : Option Nat)
    (executionPolicy : ExecutionPolicy) :
    AttemptsInOrder executionPolicy.retryPolicy.maxAttempts
      (RunState.created teamId taskId attemptId deadlineAt hardDeadlineAt executionBudgetSeconds
        executionMaxExtensionSeconds executionPolicy) := by
  refine ⟨rfl, ?_, executionPolicy.retryPolicy.positive, rfl, rfl, created_orderly _ _ _ _ _ _ _ _⟩
  intro entry member elsewhere
  rw [List.mem_singleton.mp member] at elsewhere
  exact absurd rfl elsewhere

/-- In every run, a next attempt is scheduled only below the bound, when every attempt before
it has ended and the last one's browser has no write left open; so the attempts never exceed
the bound. -/
theorem attempts_bounded (teamId createdTaskId attemptId : String)
    (deadlineAt hardDeadlineAt : Int)
    (executionBudgetSeconds executionMaxExtensionSeconds : Option Nat)
    (executionPolicy : ExecutionPolicy) (moves : List TaskMove) :
    let start := RunState.created teamId createdTaskId attemptId deadlineAt hardDeadlineAt
      executionBudgetSeconds executionMaxExtensionSeconds executionPolicy
    (∀ state ∈ statesOf (visits TaskMove.step moves start) (arrival TaskMove.step moves start),
      state.tasks.length ≤ state.run.maxAttempts ∧
        state.run.maxAttempts = executionPolicy.retryPolicy.maxAttempts) ∧
    (∀ entry ∈ visits TaskMove.step moves start,
      entry.2.tasks.length < (TaskMove.step entry.1 entry.2).state.tasks.length →
      entry.2.tasks.length < entry.2.run.maxAttempts ∧
      ∃ taskId row, entry.2.row taskId = some row ∧
        row.attempt.number = entry.2.tasks.length ∧ writeUncertain taskId row = false ∧
        (∀ other ∈ entry.2.tasks, other.1 ≠ taskId → other.2.task.status.terminal = true) ∧
        (∀ other ∈ (TaskMove.step entry.1 entry.2).state.tasks, entry.2.row other.1 ≠ none →
          other.2.task.status.terminal = true)) := by
  intro start
  have kept := (tasks_path moves start).invariant
    (AttemptsInOrder executionPolicy.retryPolicy.maxAttempts)
    (created_in_order _ _ _ _ _ _ _ _) fun entry _ inOrder => in_order_step entry.1 inOrder
  constructor
  · intro state member
    have inOrder : AttemptsInOrder executionPolicy.retryPolicy.maxAttempts state := by
      rcases List.mem_append.mp member with visited | final
      · obtain ⟨entry, there, rfl⟩ := List.mem_map.mp visited
        exact kept.2 entry there
      · rw [List.mem_singleton.mp final]
        exact kept.1
    rw [inOrder.maxAttempts]
    exact ⟨inOrder.bounded, rfl⟩
  · intro entry member grows
    have inOrder := kept.2 entry member
    have after := in_order_step entry.1 inOrder
    obtain ⟨-, -, inserted, numbers, -, schedules⟩ := attempts_step entry.1 inOrder
    have counted := congrArg List.length numbers
    cases inserted with
    | none =>
        simp only [List.length_map, Option.map_none, Option.toList_none, List.append_nil] at counted
        omega
    | some next =>
        obtain ⟨taskId, row, scheduled⟩ := schedules next rfl
        have last := scheduled.last inOrder
        have below := scheduled.scheduled.below
        simp only [List.length_map, Option.map_some, Option.toList_some, List.length_append,
          List.length_singleton] at counted
        refine ⟨by rw [inOrder.maxAttempts, ← last]; exact below, taskId, row,
          scheduled.present, last, scheduled.scheduled.settled, ?_, ?_⟩
        · intro other there elsewhere
          apply inOrder.ended other there
          intro number
          have distinct : (entry.2.tasks.map fun entry => entry.2.attempt.number).Nodup :=
            inOrder.numbered ▸ List.nodup_range'
          have same : other = (taskId, row) :=
            List.inj_on_of_nodup_map distinct there (mem_of_row scheduled.present)
              (number.trans last.symm)
          exact elsewhere (congrArg Prod.fst same)
        · intro other there known
          apply after.ended other there
          obtain ⟨before, present⟩ := Option.ne_none_iff_exists'.mp known
          obtain ⟨written, found, stepped⟩ := row_step entry.1 present
          rw [row_of_mem there] at found
          cases found
          have number : before.attempt.number ∈ List.range' 1 entry.2.tasks.length :=
            inOrder.numbered ▸ List.mem_map.mpr ⟨_, mem_of_row present, rfl⟩
          rw [List.mem_range'_1] at number
          rw [number_step stepped, counted]
          omega

def quietBrowser : BrowserExecution :=
  { openedBrowser with writeOutcomeState := some .noWriteVerified }

def failedOutcome : TaskMove :=
  .on "task" (.submitOutcome firstLease 2000
    { completionId := "completion"
      completedAt := 2000
      outcome := .retryableFailure .agentError
        { code := "TOOL", failureClass := .toolExecution, message := "tool failed" } "failed"
      nextAttemptId := "attempt2"
      nextTaskId := "task2"
      named := completion_named })

theorem quiet_failure_retried :
    let moves := [.on "task" (.browserChanged (some quietBrowser)), firstClaim]
    let state := arrival TaskMove.step moves sampleRun
    (TaskMove.step failedOutcome state).state.tasks.length = 2 ∧
      state.tasks.length < state.run.maxAttempts := by
  intro moves state
  refine ⟨by decide, ?_⟩
  refine ((attempts_bounded "team" "task" "attempt" 600000 900000 none none
    sampleRun.run.executionPolicy (moves ++ [failedOutcome])).2 (failedOutcome, state) ?_ ?_).1
  · exact List.mem_of_getElem? (i := 2) rfl
  · decide

end Devproof
