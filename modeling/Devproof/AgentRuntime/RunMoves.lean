import Devproof.AgentRuntime.TaskService

/-!
A run of the control plane: any interleaving of the task service's transactions
with those that other services make on the same rows.
-/

namespace Devproof

namespace RunServices

/-- `isRevokedSessionOwner`: the lease was taken from the owner once, and nobody owns it since. -/
def isRevokedSessionOwner (session : BrowserRuntimeSession) (owner : AgentRuntimeTask) : Bool :=
  owner.status == .failed && owner.leaseLostAt.isSome && owner.leaseExpiresAt.isNone &&
    session.ownerFencingToken.any fun fencingToken => owner.fencingToken == fencingToken + 1

def ownsSession (session : BrowserRuntimeSession) (owner : AgentRuntimeTask) : Bool :=
  session.ownerFencingToken == some owner.fencingToken || isRevokedSessionOwner session owner

def resolveRecovery (authorizeRetry : Bool) (run : ExecutionRun) (row : AttemptRow) :
    Except TaskError TaskCommit :=
  match row.browserExecution.bind BrowserExecution.runtimeSession with
  | none => .error .notFound
  | some session => do
      let state := (row.browserExecution.bind BrowserExecution.writeOutcomeState).getD .unknown
      throwIf (state == .resolved || (authorizeRetry && state != .unknown && state != .unassessed))
        (.conflict "Recovery changed. Refresh before resolving its write outcome.")
      throwIf (session.status != .closed || session.closureVerifiedAt.isNone ||
          (truthy session.closureEvidenceId).isNone)
        (.conflict "A verified closure proof for this session epoch is required.")
      throwIf (!ownsSession session row.task || !row.task.status.terminal || !run.lifecycle.terminal)
        (.conflict
          "The previous execution must stop before its business result can be resolved.")
      throwIf (TaskService.recovering row.task || row.task.recoveryStatus == some .retryScheduled)
        (.conflict "The Agent lease recovery is still pending.")
      return {
        answer := .none
        run
        row :=
          { row with
            task :=
              { row.task with recoveryStatus := some .resolved, recoveryNextAttemptAt := none }
            browserExecution := row.browserExecution.map fun execution =>
              { execution with
                writeOutcomeState := some (if authorizeRetry then .retryAuthorized else .resolved)
                runtimeSession := some { session with quarantinedAt := none } } } }

def hasConfirmedBrowserOutcome (task : AgentRuntimeTask) : Bool :=
  (truthy task.completionId).isSome && task.status == .succeeded &&
    match task.result with
    | some (.verificationCompleted ..) => true
    | _ => false

def settleOwner (settled : Bool) (run : ExecutionRun) (row : AttemptRow) :
    Except TaskError TaskCommit :=
  match row.browserExecution.bind BrowserExecution.runtimeSession with
  | none => .ok { answer := .none, run, row }
  | some session =>
      let noted (status : RecoveryStatus) : TaskCommit :=
        { answer := .none
          run
          row :=
            { row with
              task :=
                { row.task with recoveryStatus := some status, recoveryNextAttemptAt := none } } }
      if settled && ownsSession session row.task &&
          row.task.recoveryStatus == some .writeOutcomeUnknown && row.task.status.terminal then
        .ok (noted .resolved)
      else if !settled && !hasConfirmedBrowserOutcome row.task &&
          session.ownerFencingToken == some row.task.fencingToken && row.task.status.terminal &&
          row.task.recoveryStatus != some .resolved then
        .ok (noted .writeOutcomeUnknown)
      else .ok { answer := .none, run, row }

/-- A person answers the pending intervention; the budget of the resumed run is the one the
service reads or defaults. -/
def resolveIntervention (now : Int) (executionBudgetSeconds executionMaxExtensionSeconds : Nat)
    (parentDeadlineAt : Option Int) (run : ExecutionRun) (row : AttemptRow) :
    Except TaskError TaskCommit := do
  throwIf (!row.interventionPending) (.conflict "Human intervention is already resolved.")
  throwIf (run.lifecycle != .waitingHuman) (.conflict "The run is not waiting for human input.")
  throwIf run.cancelRequestedAt.isSome (.conflict "The run can no longer accept human input.")
  match initializeExecutionBudget now executionBudgetSeconds executionMaxExtensionSeconds
      parentDeadlineAt with
  | .error message => throw (.conflict message)
  | .ok (resumedDeadlineAt, resumedHardDeadlineAt) =>
      return {
        answer := .none
        run :=
          { run with
            executionDisposition := none
            deadlineAt := resumedDeadlineAt
            initialDeadlineAt := resumedDeadlineAt
            executionBudgetStartedAt := some now
            executionBudgetSeconds := some executionBudgetSeconds
            executionMaxExtensionSeconds := some executionMaxExtensionSeconds
            deadlineExtensionCount := 0
            deadlineExtendedMs := 0
            finishedAt := none
            hardDeadlineAt := resumedHardDeadlineAt
            lifecycle := .queued
            verdict := none }
        row :=
          { row with
            attempt :=
              { row.attempt with
                error := none
                failureClass := none
                finishedAt := none
                result := none
                status := .pending }
            task :=
              { row.task with
                completionId := none
                error := none
                deadlineAt := resumedDeadlineAt
                finishedAt := none
                result := none
                lastDeadlineExtensionOperationKey := none
                lastDeadlineExtensionProgressKey := none
                status := .pending }
            interventionPending := false } }

def reserveStartup (closing : Bool) (nextAttemptAt : Option Int) (run : ExecutionRun)
    (row : AttemptRow) : Except TaskError TaskCommit :=
  let recoveryStatus := if closing then some RecoveryStatus.startupClosing else none
  if row.task.status = .pending ∧ row.task.startedAt = none ∧ row.task.fencingToken = 0 then
    .ok
      { answer := .none
        run
        row :=
          { row with
            task := { row.task with recoveryStatus, recoveryNextAttemptAt := nextAttemptAt } } }
  else .ok { answer := .none, run, row }

def TaskStatus.live : TaskStatus → Bool
  | .pending | .running | .waitingHuman => true
  | _ => false

def cancelRow (now : Int) (row : AttemptRow) : AttemptRow :=
  { row with
    attempt :=
      if TaskStatus.live row.attempt.status then
        { row.attempt with finishedAt := some now, status := .cancelled }
      else row.attempt
    task :=
      if TaskStatus.live row.task.status then
        { row.task with
          cancelRequestedAt := some now
          finishedAt := some now
          status := .cancelled }
      else row.task
    interventionPending := false }

def cancelRun (now : Int) (run : ExecutionRun) : ExecutionRun :=
  { run with
    cancelRequestedAt := some now
    executionDisposition := some (if run.startedAt.isSome then .blocked else .notRun)
    finishedAt := some now
    lifecycle := .cancelled
    verdict := none }

end RunServices

@[ext] structure RunState where
  run : ExecutionRun
  /-- The attempts in the order they were created, under the ids of their tasks. -/
  tasks : List (String × AttemptRow)
  /-- The events of agents: the event's id and its task's. -/
  events : List (String × String) := []
  distinct : (tasks.map Prod.fst).Nodup
  deriving Repr, DecidableEq

inductive TaskRequest where
  | claim (leaseSeconds : Nat) (workerId leaseToken : String) (now : Int) (skipped : Bool)
      (parentDeadlineAt : Option Int)
  | heartbeat (leaseSeconds : Nat) (input : LeaseInput) (now : Int)
  | appendEvent (input : LeaseInput) (now : Int) (eventId : String) (event : Option TraceEvent)
      (refused : Option TaskError) (recordedAt : Int)
  | submitOutcome (input : LeaseInput) (now : Int) (submission : TaskService.Submission)
  | loseLease (now : Int) (humanResume : Bool) (fencingToken : Nat)
  | deferRecovery (now : Int) (humanResume : Bool) (fencingToken : Nat)
  | completeRecovery (now : Int) (sweep : TaskService.RecoverySweep)
  | resolveRecovery (authorizeRetry : Bool)
  | settleOwner (settled : Bool)
  | resolveIntervention (now : Int) (executionBudgetSeconds executionMaxExtensionSeconds : Nat)
      (parentDeadlineAt : Option Int)
  | reserveStartup (closing : Bool) (nextAttemptAt : Option Int)
  /-- The session services open, lose or close the browser. -/
  | browserChanged (browserExecution : Option BrowserExecution)
  deriving Repr, DecidableEq

namespace TaskRequest

def lease : TaskRequest → Option LeaseInput
  | heartbeat _ input _ => some input
  | appendEvent input .. => some input
  | submitOutcome input .. => some input
  | _ => none

def perform (taskId : String) (events : List (String × String)) (request : TaskRequest)
    (run : ExecutionRun) (row : AttemptRow) : Except TaskError TaskCommit :=
  match request with
  | claim leaseSeconds workerId leaseToken now skipped parentDeadlineAt =>
      TaskService.claim leaseSeconds taskId workerId leaseToken now skipped parentDeadlineAt run row
  | heartbeat leaseSeconds input now =>
      TaskService.heartbeat leaseSeconds taskId input now run row
  | appendEvent input now eventId event refused recordedAt =>
      TaskService.appendEvent taskId input now eventId event refused recordedAt events run row
  | submitOutcome input now submission =>
      TaskService.submitOutcome taskId input now submission run row
  | loseLease now humanResume fencingToken =>
      TaskService.loseLease taskId now humanResume fencingToken run row
  | deferRecovery now humanResume fencingToken =>
      TaskService.deferRecovery now humanResume fencingToken run row
  | completeRecovery now sweep => TaskService.completeRecovery now sweep run row
  | resolveRecovery authorizeRetry => RunServices.resolveRecovery authorizeRetry run row
  | settleOwner settled => RunServices.settleOwner settled run row
  | resolveIntervention now executionBudgetSeconds executionMaxExtensionSeconds
      parentDeadlineAt =>
      RunServices.resolveIntervention now executionBudgetSeconds executionMaxExtensionSeconds
        parentDeadlineAt run row
  | reserveStartup closing nextAttemptAt =>
      RunServices.reserveStartup closing nextAttemptAt run row
  | browserChanged browserExecution =>
      .ok { answer := .none, run, row := { row with browserExecution } }

end TaskRequest

inductive TaskMove where
  | on (taskId : String) (request : TaskRequest)
  | cancel (now : Int)
  deriving Repr, DecidableEq

namespace RunState

def created (teamId taskId attemptId : String) (deadlineAt hardDeadlineAt : Int)
    (executionBudgetSeconds executionMaxExtensionSeconds : Option Nat)
    (executionPolicy : ExecutionPolicy) : RunState :=
  { run :=
      { teamId
        deadlineAt
        hardDeadlineAt
        initialDeadlineAt := deadlineAt
        executionBudgetSeconds
        executionMaxExtensionSeconds
        maxAttempts := executionPolicy.retryPolicy.maxAttempts
        executionPolicy }
    tasks :=
      [(taskId,
        { attempt := { id := attemptId, number := 1 }
          task := { browserPolicy := executionPolicy.browser, deadlineAt }
          browserExecution := some {} })]
    distinct := List.nodup_singleton _ }

def row (state : RunState) (taskId : String) : Option AttemptRow :=
  state.tasks.lookup taskId

def update (taskId : String) (row : AttemptRow) (tasks : List (String × AttemptRow)) :
    List (String × AttemptRow) :=
  tasks.map fun entry => if entry.1 = taskId then (taskId, row) else entry

theorem keys_update (taskId : String) (row : AttemptRow) (tasks : List (String × AttemptRow)) :
    (update taskId row tasks).map Prod.fst = tasks.map Prod.fst := by
  simp only [update, List.map_map, List.map_inj_left, Function.comp]
  intro entry _
  split
  · rename_i same
    exact same.symm
  · rfl

/-- The unique indexes an insertion meets: task id, attempt id, attempt number of the run. -/
def collides (taskId : String) (row : AttemptRow) (tasks : List (String × AttemptRow)) : Bool :=
  tasks.any fun entry =>
    entry.1 == taskId || entry.2.attempt.id == row.attempt.id ||
      entry.2.attempt.number == row.attempt.number

theorem distinct_append {taskId : String} {row : AttemptRow} {tasks : List (String × AttemptRow)}
    (distinct : (tasks.map Prod.fst).Nodup) (free : collides taskId row tasks = false) :
    ((tasks ++ [(taskId, row)]).map Prod.fst).Nodup := by
  rw [List.map_append]
  refine List.Nodup.append distinct (List.nodup_singleton _) ?_
  simp only [List.map_cons, List.map_nil, List.disjoint_singleton, List.mem_map, not_exists, not_and]
  intro entry member same
  have other := List.any_eq_false.mp free entry member
  simp [same] at other

def commit (taskId : String) (commit : TaskCommit) (state : RunState) :
    Outcome RunState TaskError :=
  let changed : RunState :=
    { run := commit.run
      tasks := update taskId commit.row state.tasks
      events := state.events ++ (commit.event.map fun eventId => (eventId, taskId)).toList
      distinct := (keys_update taskId commit.row state.tasks).symm ▸ state.distinct }
  match commit.next with
  | none => .done changed
  | some (nextTaskId, next) =>
      if free : collides nextTaskId next changed.tasks = false then
        .done
          { changed with
            tasks := changed.tasks ++ [(nextTaskId, next)]
            distinct := distinct_append changed.distinct free }
      else .failed state .uniqueConstraint

end RunState

namespace TaskMove

def step (move : TaskMove) (state : RunState) : Outcome RunState TaskError :=
  match move with
  | .on taskId request =>
      match state.row taskId with
      | none => .failed state .notFound
      | some row =>
          match request.perform taskId state.events state.run row with
          | .error failure => .failed state failure
          | .ok commit => state.commit taskId commit
  | .cancel now =>
      if state.run.lifecycle.terminal then .done state
      else
        .done
          { state with
            run := RunServices.cancelRun now state.run
            tasks := state.tasks.map fun entry => (entry.1, RunServices.cancelRow now entry.2)
            distinct := by simpa [Function.comp_def] using state.distinct }

end TaskMove

/-- The path of the moves of a run. -/
theorem tasks_path (moves : List TaskMove) (start : RunState) :
    Path TaskMove.step start (visits TaskMove.step moves start)
      (arrival TaskMove.step moves start) :=
  visits_path moves start

namespace RunState

theorem lookup_update (taskId : String) (row : AttemptRow) (tasks : List (String × AttemptRow))
    (other : String) :
    (update taskId row tasks).lookup other =
      if other = taskId then (tasks.lookup other).map fun _ => row else tasks.lookup other := by
  induction tasks with
  | nil => simp [update]
  | cons entry rest ih =>
      obtain ⟨key, value⟩ := entry
      simp only [update, List.map_cons, List.lookup_cons] at ih ⊢
      grind

theorem lookup_append {taskId : String} {row : AttemptRow} {first : List (String × AttemptRow)}
    (second : List (String × AttemptRow)) (found : first.lookup taskId = some row) :
    (first ++ second).lookup taskId = some row := by
  induction first with
  | nil => simp at found
  | cons entry rest ih =>
      obtain ⟨key, value⟩ := entry
      simp only [List.cons_append, List.lookup_cons] at found ⊢
      split at found
      · exact found
      · exact ih found

theorem lookup_map (change : AttemptRow → AttemptRow) (tasks : List (String × AttemptRow))
    (taskId : String) :
    (tasks.map fun entry => (entry.1, change entry.2)).lookup taskId =
      (tasks.lookup taskId).map change := by
  induction tasks with
  | nil => rfl
  | cons entry rest ih =>
      obtain ⟨key, value⟩ := entry
      simp only [List.map_cons, List.lookup_cons]
      split
      · rfl
      · exact ih

theorem lookup_of_mem {tasks : List (String × AttemptRow)} {entry : String × AttemptRow}
    (distinct : (tasks.map Prod.fst).Nodup) (member : entry ∈ tasks) :
    tasks.lookup entry.1 = some entry.2 := by
  induction tasks with
  | nil => simp at member
  | cons first rest ih =>
      obtain ⟨key, value⟩ := first
      obtain ⟨fresh, distinct⟩ := List.nodup_cons.mp distinct
      rw [List.lookup_cons]
      rcases List.mem_cons.mp member with same | later
      · subst same
        simp
      · have differs : (entry.1 == key) = false := by
          rw [beq_eq_false_iff_ne]
          rintro same
          exact fresh (List.mem_map.mpr ⟨entry, later, same⟩)
        rw [differs]
        exact ih distinct later

theorem mem_of_lookup {tasks : List (String × AttemptRow)} {taskId : String} {row : AttemptRow}
    (found : tasks.lookup taskId = some row) : (taskId, row) ∈ tasks := by
  induction tasks with
  | nil => simp at found
  | cons first rest ih =>
      obtain ⟨key, value⟩ := first
      rw [List.lookup_cons] at found
      split at found
      · rename_i same
        rw [beq_iff_eq.mp same, Option.some.inj found]
        exact List.mem_cons_self ..
      · exact List.mem_cons_of_mem _ (ih found)

/-- Writing the row a task already has changes nothing. -/
theorem update_same {taskId : String} {row : AttemptRow} {tasks : List (String × AttemptRow)}
    (distinct : (tasks.map Prod.fst).Nodup) (found : tasks.lookup taskId = some row) :
    update taskId row tasks = tasks := by
  induction tasks with
  | nil => rfl
  | cons entry rest ih =>
      obtain ⟨key, value⟩ := entry
      obtain ⟨fresh, distinct⟩ := List.nodup_cons.mp distinct
      simp only [List.lookup_cons] at found
      simp only [update, List.map_cons, List.cons.injEq]
      by_cases same : taskId = key
      · subst same
        simp only [beq_self_eq_true, Option.some.injEq] at found
        subst found
        refine ⟨by simp, ?_⟩
        rw [List.map_congr_left (g := id), List.map_id]
        intro other member
        have differs : other.1 ≠ taskId := fun equal =>
          fresh (List.mem_map.mpr ⟨other, member, equal⟩)
        simp [differs]
      · have skipped : (taskId == key) = false := by simpa using same
        rw [skipped] at found
        refine ⟨?_, ih distinct found⟩
        simp [Ne.symm same]

end RunState

/-- A transaction that commits writes its task and appends the attempt it schedules; one that
meets a unique index leaves the rows alone. -/
theorem commit_cases (taskId : String) (commit : TaskCommit) (state : RunState) :
    ((state.commit taskId commit).thrown = none ∧
      (state.commit taskId commit).state.run = commit.run ∧
      (state.commit taskId commit).state.tasks =
        RunState.update taskId commit.row state.tasks ++ commit.next.toList ∧
      (state.commit taskId commit).state.events =
        state.events ++ (commit.event.map fun eventId => (eventId, taskId)).toList ∧
      ∀ next ∈ commit.next, RunState.collides next.1 next.2
        (RunState.update taskId commit.row state.tasks) = false) ∨
    ((state.commit taskId commit).thrown ≠ none ∧
      (state.commit taskId commit).state = state) := by
  unfold RunState.commit
  cases commit.next with
  | none => exact Or.inl ⟨rfl, rfl, (List.append_nil _).symm, rfl, by simp⟩
  | some next =>
      by_cases free : RunState.collides next.1 next.2
          (RunState.update taskId commit.row state.tasks) = false
      · simp only [free, dite_true]
        exact Or.inl ⟨rfl, rfl, rfl, rfl, fun _ same => Option.some.inj same ▸ free⟩
      · simp only [free]
        exact Or.inr ⟨by simp, rfl⟩

theorem step_present {taskId : String} (request : TaskRequest) {state : RunState}
    {row : AttemptRow} (present : state.row taskId = some row) :
    TaskMove.step (.on taskId request) state =
      match request.perform taskId state.events state.run row with
      | .error failure => .failed state failure
      | .ok commit => state.commit taskId commit := by
  simp only [TaskMove.step, present]

theorem step_absent {taskId : String} (request : TaskRequest) {state : RunState}
    (absent : state.row taskId = none) :
    TaskMove.step (.on taskId request) state = .failed state .notFound := by
  simp only [TaskMove.step, absent]

inductive RowStep (taskId : String) (move : TaskMove) (state : RunState) (before : AttemptRow) :
    AttemptRow → Prop where
  /-- No transaction on the task commits. -/
  | same : (∀ request commit, move = .on taskId request →
      request.perform taskId state.events state.run before = .ok commit →
      (TaskMove.step move state).thrown ≠ none) → RowStep taskId move state before before
  | performed {request commit} : move = .on taskId request →
      request.perform taskId state.events state.run before = .ok commit →
      (TaskMove.step move state).thrown = none → RowStep taskId move state before commit.row
  | cancelled {now} : move = .cancel now →
      RowStep taskId move state before (RunServices.cancelRow now before)

theorem row_step (move : TaskMove) {state : RunState} {taskId : String} {before : AttemptRow}
    (present : state.row taskId = some before) :
    ∃ after, (TaskMove.step move state).state.row taskId = some after ∧
      RowStep taskId move state before after := by
  have found : state.tasks.lookup taskId = some before := present
  cases move with
  | cancel now =>
      by_cases ended : state.run.lifecycle.terminal = true
      · exact ⟨before, by simpa [TaskMove.step, ended] using present, .same (by simp)⟩
      · refine ⟨RunServices.cancelRow now before, ?_, .cancelled rfl⟩
        simp only [TaskMove.step, ended, Bool.false_eq_true, if_false, Outcome.done_state,
          RunState.row, RunState.lookup_map, found, Option.map_some]
  | on other request =>
      by_cases same : other = taskId
      · subst same
        have stepped := step_present request present
        cases performed : request.perform other state.events state.run before with
        | error failure =>
            rw [performed] at stepped
            refine ⟨before, by rw [stepped]; exact present, .same ?_⟩
            intro _ commit same committed
            injection same with _ same
            subst same
            rw [performed] at committed
            cases committed
        | ok commit =>
            rw [performed] at stepped
            rcases commit_cases other commit state with
              ⟨quiet, -, tasks, -, -⟩ | ⟨threw, unchanged⟩
            · refine ⟨commit.row, ?_, .performed rfl performed (by rw [stepped]; exact quiet)⟩
              rw [stepped]
              unfold RunState.row
              rw [tasks]
              apply RunState.lookup_append
              rw [RunState.lookup_update, if_pos rfl, found]
              rfl
            · refine ⟨before, by rw [stepped, unchanged]; exact present, .same ?_⟩
              intro _ _ _ _
              rw [stepped]
              exact threw
      · refine ⟨before, ?_, .same fun _ _ equal => absurd (TaskMove.on.inj equal).1 same⟩
        cases there : state.row other with
        | none =>
            rw [step_absent _ there]
            exact present
        | some row =>
            rw [step_present _ there]
            split
            · exact present
            · rename_i commit _
              rcases commit_cases other commit state with
                ⟨-, -, tasks, -, -⟩ | ⟨-, unchanged⟩
              · unfold RunState.row
                rw [tasks]
                apply RunState.lookup_append
                rw [RunState.lookup_update, if_neg (Ne.symm same)]
                exact found
              · rw [unchanged]
                exact present

theorem row_of_mem {state : RunState} {entry : String × AttemptRow} (member : entry ∈ state.tasks) :
    state.row entry.1 = some entry.2 :=
  RunState.lookup_of_mem state.distinct member

theorem mem_of_row {state : RunState} {taskId : String} {row : AttemptRow}
    (present : state.row taskId = some row) : (taskId, row) ∈ state.tasks :=
  RunState.mem_of_lookup present

theorem rows_step {move : TaskMove} {state : RunState} {entry : String × AttemptRow}
    (member : entry ∈ (TaskMove.step move state).state.tasks) :
    (∃ before, state.row entry.1 = some before ∧ RowStep entry.1 move state before entry.2) ∨
      ∃ taskId request row commit, move = .on taskId request ∧ state.row taskId = some row ∧
        request.perform taskId state.events state.run row = .ok commit ∧
        commit.next = some entry := by
  have after := row_of_mem member
  cases before : state.row entry.1 with
  | some row =>
      obtain ⟨next, found, stepped⟩ := row_step move before
      rw [after] at found
      cases found
      exact Or.inl ⟨row, rfl, stepped⟩
  | none =>
      -- The task is new, so the move is the transaction that inserted it.
      have absent : ∀ row, (entry.1, row) ∉ state.tasks := by
        intro row there
        rw [row_of_mem there] at before
        cases before
      cases move with
      | cancel now =>
          simp only [TaskMove.step] at member
          split at member
          · exact absurd member (absent _)
          · obtain ⟨other, there, rfl⟩ := List.mem_map.mp member
            exact absurd there (absent _)
      | on taskId request =>
          cases present : state.row taskId with
          | none =>
              rw [step_absent _ present] at member
              exact absurd member (absent _)
          | some row =>
              rw [step_present _ present] at member
              cases performed : request.perform taskId state.events state.run row with
              | error failure =>
                  rw [performed] at member
                  exact absurd member (absent _)
              | ok commit =>
                  rw [performed] at member
                  simp only at member
                  rcases commit_cases taskId commit state with
                    ⟨-, -, tasks, -, -⟩ | ⟨-, unchanged⟩
                  · rw [tasks] at member
                    rcases List.mem_append.mp member with kept | inserted
                    · have key : entry.1 ∈ (RunState.update taskId commit.row state.tasks).map
                          Prod.fst := List.mem_map.mpr ⟨entry, kept, rfl⟩
                      rw [RunState.keys_update] at key
                      obtain ⟨other, there, same⟩ := List.mem_map.mp key
                      exact absurd (same ▸ there) (absent other.2)
                    · exact Or.inr ⟨taskId, request, row, commit, rfl, present, performed,
                        by simpa using inserted⟩
                  · rw [unchanged] at member
                    exact absurd member (absent _)

end Devproof
