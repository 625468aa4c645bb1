import Devproof.AgentRuntime.Effects

/-!
Leases of a task along a run: every claim and every loss of the lease raises the
fencing token, and what a worker sends under an older lease changes nothing.
-/

namespace Devproof

open TaskService

def answerOf (entry : TaskMove × RunState) : Option TaskAnswer :=
  match entry.1 with
  | .cancel _ => none
  | .on taskId request =>
      (entry.2.row taskId).bind fun row =>
        match request.perform taskId entry.2.events entry.2.run row with
        | .error _ => none
        | .ok commit =>
            if (TaskMove.step entry.1 entry.2).thrown = none then some commit.answer else none

def Issues (taskId : String) (input : LeaseInput) (entry : TaskMove × RunState) : Prop :=
  ∃ leaseSeconds now skipped parentDeadlineAt fencingToken leaseExpiresAt,
    entry.1 = .on taskId
      (.claim leaseSeconds input.workerId input.leaseToken now skipped parentDeadlineAt) ∧
    answerOf entry = some (.claimed fencingToken input.leaseToken leaseExpiresAt) ∧
    input.fencingToken = toString fencingToken

def TakesLease (taskId : String) (entry : TaskMove × RunState) : Prop :=
  ∃ now humanResume fencingToken row,
    entry.1 = .on taskId (.loseLease now humanResume fencingToken) ∧
    entry.2.row taskId = some row ∧ lapsed now humanResume fencingToken entry.2.run row = true

def Supersedes (taskId : String) (entry : TaskMove × RunState) : Prop :=
  (∃ input, Issues taskId input entry) ∨ TakesLease taskId entry

def SentUnder (taskId : String) (input : LeaseInput) (move : TaskMove) : Prop :=
  ∃ request, move = .on taskId request ∧ request.lease = some input

theorem answerOf_performed {taskId : String} {request : TaskRequest} {state : RunState}
    {row : AttemptRow} {commit : TaskCommit} (present : state.row taskId = some row)
    (performed : request.perform taskId state.events state.run row = .ok commit)
    (quiet : (TaskMove.step (.on taskId request) state).thrown = none) :
    answerOf (.on taskId request, state) = some commit.answer := by
  simp only [answerOf, present, Option.bind_some, performed, quiet, if_true]

theorem answerOf_inv {taskId : String} {request : TaskRequest} {state : RunState}
    {row : AttemptRow} {answer : TaskAnswer} (present : state.row taskId = some row)
    (answered : answerOf (.on taskId request, state) = some answer) :
    ∃ commit, request.perform taskId state.events state.run row = .ok commit ∧
      (TaskMove.step (.on taskId request) state).thrown = none ∧ commit.answer = answer := by
  simp only [answerOf, present, Option.bind_some] at answered
  split at answered
  · cases answered
  · rename_i commit performed
    split at answered
    · rename_i quiet
      exact ⟨commit, performed, quiet, Option.some.inj answered⟩
    · cases answered

/-- A lease is taken from a task only by a transaction that commits. -/
theorem loseLease_commits {taskId : String} {now : Int} {humanResume : Bool} {fencingToken : Nat}
    {state : RunState} {row : AttemptRow} (present : state.row taskId = some row)
    (expired : lapsed now humanResume fencingToken state.run row = true) :
    ∃ commit, (TaskRequest.loseLease now humanResume fencingToken).perform taskId state.events
        state.run row = .ok commit ∧
      (TaskMove.step (.on taskId (.loseLease now humanResume fencingToken)) state).thrown
        = none := by
  simp only [step_present _ present, TaskRequest.perform, loseLease, expired, if_true]
  refine ⟨_, rfl, ?_⟩
  rcases commit_cases taskId _ state with ⟨quiet, -⟩ | ⟨threw, -⟩
  · exact quiet
  · exact absurd rfl threw

theorem fence_step {taskId : String} {move : TaskMove} {state : RunState} {before after : AttemptRow}
    (present : state.row taskId = some before) (next : RowStep taskId move state before after) :
    (Supersedes taskId (move, state) ∧
        after.task.fencingToken = before.task.fencingToken + 1) ∨
      (¬ Supersedes taskId (move, state) ∧
        after.task.fencingToken = before.task.fencingToken) := by
  cases next with
  | same idle =>
      refine Or.inr ⟨?_, rfl⟩
      rintro (⟨input, leaseSeconds, now, skipped, parentDeadlineAt, fencingToken, leaseExpiresAt,
        made, answered, -⟩ | ⟨now, humanResume, fencingToken, row, made, found, expired⟩)
      · simp only at made
        subst made
        obtain ⟨commit, performed, quiet, -⟩ := answerOf_inv present answered
        exact idle _ commit rfl performed quiet
      · simp only at made found
        subst made
        rw [present] at found
        cases found
        obtain ⟨commit, performed, quiet⟩ := loseLease_commits present expired
        exact idle _ commit rfl performed quiet
  | cancelled made =>
      subst made
      refine Or.inr ⟨?_, ?_⟩
      · rintro (⟨input, leaseSeconds, now, skipped, parentDeadlineAt, fencingToken, leaseExpiresAt,
          made, -⟩ | ⟨now, humanResume, fencingToken, row, made, -⟩)
        · cases made
        · cases made
      · simp only [RunServices.cancelRow]
        split <;> rfl
  | @performed request commit made performed quiet =>
      subst made
      have answer := answerOf_performed present performed quiet
      -- Only a claim answers with a lease, and only a sweep meets a lapsed one.
      have unissued (other : ∀ leaseSeconds workerId leaseToken now skipped parentDeadlineAt,
          request ≠ .claim leaseSeconds workerId leaseToken now skipped parentDeadlineAt)
          (untaken : ∀ now humanResume fencingToken,
            request = .loseLease now humanResume fencingToken →
            lapsed now humanResume fencingToken state.run before = false) :
          ¬ Supersedes taskId (.on taskId request, state) := by
        rintro (⟨input, leaseSeconds, now, skipped, parentDeadlineAt, fencingToken, leaseExpiresAt,
          made, -⟩ | ⟨now, humanResume, fencingToken, row, made, found, expired⟩)
        · exact other _ _ _ _ _ _ (TaskMove.on.inj made).2
        · simp only at found
          rw [present] at found
          cases found
          rw [untaken _ _ _ (TaskMove.on.inj made).2] at expired
          cases expired
      cases (request_effect performed).2 with
      | kept lease outcome calm intervention unscheduled unfenced =>
          refine Or.inr ⟨?_, lease.fencingToken⟩
          rintro (⟨input, leaseSeconds, now, skipped, parentDeadlineAt, fencingToken,
            leaseExpiresAt, made, answered, -⟩ | ⟨now, humanResume, fencingToken, row, made, found,
            expired⟩)
          · rw [answer] at answered
            exact unfenced.unclaimed _ _ _ (Option.some.inj answered)
          · simp only at found
            rw [present] at found
            cases found
            rw [unfenced.untaken _ _ _ (TaskMove.on.inj made).2] at expired
            cases expired
      | @claimed leaseSeconds workerId leaseToken now skipped parentDeadlineAt pending answers
          raised =>
          have issued := answer.trans (congrArg some answers)
          exact Or.inl ⟨Or.inl ⟨⟨workerId, leaseToken, toString (before.task.fencingToken + 1)⟩,
            leaseSeconds, now, skipped, parentDeadlineAt, before.task.fencingToken + 1,
            leaseExpiry leaseSeconds now, rfl, issued, rfl⟩, raised⟩
      | @lost now humanResume fencingToken expired raised =>
          exact Or.inl ⟨Or.inr ⟨now, humanResume, fencingToken, before, rfl, present, expired⟩,
            raised⟩
      | accepted accepted =>
          exact Or.inr ⟨unissued (by simp) (by simp), accepted.fencingToken⟩
      | recovered waits lease =>
          exact Or.inr ⟨unissued (by simp) (by simp), lease.fencingToken⟩
      | resumed pending lease =>
          exact Or.inr ⟨unissued (by simp) (by simp), lease.fencingToken⟩

/-- The lease of an issuing claim carries the fencing token the claim leaves. -/
theorem issued_fence {taskId : String} {input : LeaseInput} {entry : TaskMove × RunState}
    {before after : AttemptRow} (issues : Issues taskId input entry)
    (present : entry.2.row taskId = some before)
    (next : RowStep taskId entry.1 entry.2 before after) :
    input.fencingToken = toString after.task.fencingToken := by
  obtain ⟨move, state⟩ := entry
  obtain ⟨leaseSeconds, now, skipped, parentDeadlineAt, fencingToken, leaseExpiresAt, made,
    answered, carried⟩ := issues
  simp only at made present next
  subst made
  obtain ⟨commit, performed, quiet, answers⟩ := answerOf_inv present answered
  rw [carried]
  congr 1
  cases next with
  | same idle => exact absurd quiet (idle _ commit rfl performed)
  | cancelled made => cases made
  | @performed request other made again =>
      cases (TaskMove.on.inj made).2
      rw [performed] at again
      cases again
      cases (request_effect performed).2 with
      | kept lease outcome calm intervention unscheduled unfenced =>
          exact absurd answers (unfenced.unclaimed _ _ _)
      | claimed pending answered raised =>
          rw [answers] at answered
          rw [raised]
          exact (TaskAnswer.claimed.inj answered).1

theorem holdsLease_fence {task : AgentRuntimeTask} {input : LeaseInput} {now : Int}
    (holds : holdsLease task input now = true) :
    task.leaseOwner = some input.workerId ∧ task.leaseToken = some input.leaseToken ∧
      toString task.fencingToken = input.fencingToken := by
  simp only [holdsLease, Bool.and_eq_true, beq_iff_eq] at holds
  exact ⟨holds.1.1.1, holds.1.1.2, holds.1.2⟩

theorem unleased_perform {taskId : String} {events : List (String × String)}
    {request : TaskRequest} {input : LeaseInput} {run : ExecutionRun} {row : AttemptRow}
    {commit : TaskCommit} (sent : request.lease = some input)
    (fenced : ∀ now, holdsLease row.task input now = false)
    (performed : request.perform taskId events run row = .ok commit) :
    commit.run = run ∧ commit.row = row ∧ commit.next = none ∧ commit.event = none := by
  cases request with
  | heartbeat leaseSeconds lease now =>
      cases sent
      simp [TaskRequest.perform, heartbeat, requireLease, fenced, bind_ok] at performed
  | appendEvent lease now eventId event refused recordedAt =>
      cases sent
      simp [TaskRequest.perform, appendEvent, requireLease, fenced, bind_ok] at performed
  | submitOutcome lease now submission =>
      cases sent
      simp only [TaskRequest.perform] at performed
      unfold submitOutcome at performed
      split at performed
      · obtain ⟨-, -, returned⟩ := bind_ok.mp performed
        cases returned
        exact ⟨rfl, rfl, rfl, rfl⟩
      · simp [requireLease, fenced, bind_ok] at performed
  | _ => cases sent

theorem unleased_step {taskId : String} {move : TaskMove} {input : LeaseInput} {state : RunState}
    {row : AttemptRow} (sent : SentUnder taskId input move) (present : state.row taskId = some row)
    (fenced : ∀ now, holdsLease row.task input now = false) :
    (TaskMove.step move state).state = state := by
  obtain ⟨request, made, carried⟩ := sent
  subst made
  rw [step_present _ present]
  split
  · rfl
  · rename_i commit performed
    obtain ⟨run, kept, unscheduled, unrecorded⟩ := unleased_perform carried fenced performed
    rcases commit_cases taskId commit state with
      ⟨-, sameRun, tasks, events, -⟩ | ⟨-, unchanged⟩
    · apply RunState.ext
      · rw [sameRun, run]
      · rw [tasks, kept, unscheduled, RunState.update_same state.distinct present]
        simp
      · rw [events, unrecorded]
        simp
    · exact unchanged

/-- The fencing token of a task never falls along a path. -/
theorem fence_le {taskId : String} {fencingToken : Nat} {start finish : RunState}
    {made : List (TaskMove × RunState)} (path : Path TaskMove.step start made finish)
    (initially : ∃ row, start.row taskId = some row ∧ fencingToken ≤ row.task.fencingToken) :
    ∃ row, finish.row taskId = some row ∧ fencingToken ≤ row.task.fencingToken := by
  refine (path.invariant (fun state => ∃ row, state.row taskId = some row ∧
    fencingToken ≤ row.task.fencingToken) initially ?_).1
  rintro entry - ⟨row, present, bound⟩
  obtain ⟨after, found, next⟩ := row_step entry.1 present
  refine ⟨after, found, ?_⟩
  rcases fence_step present next with ⟨-, raised⟩ | ⟨-, same⟩
  · rw [raised]
    exact Nat.le_succ_of_le bound
  · rw [same]
    exact bound

/-- In every interleaving, a claim and a lease recovery of a task raise its fencing token and
nothing else moves it, one lease at most passes `requireLease`, and a request under a lease
that a later claim or recovery superseded changes nothing. -/
theorem older_leases_fenced (start : RunState) (moves : List TaskMove) (taskId : String) :
    (∀ entry ∈ visits TaskMove.step moves start, ∀ before, entry.2.row taskId = some before →
      ∃ after, (TaskMove.step entry.1 entry.2).state.row taskId = some after ∧
        (Supersedes taskId entry →
          after.task.fencingToken = before.task.fencingToken + 1) ∧
        (¬ Supersedes taskId entry → after.task.fencingToken = before.task.fencingToken)) ∧
    (∀ state ∈ statesOf (visits TaskMove.step moves start) (arrival TaskMove.step moves start),
      ∀ row now first second, state.row taskId = some row →
        holdsLease row.task first now = true → holdsLease row.task second now = true →
        first = second) ∧
    (∀ earlier issue between supersede later use rest input,
      visits TaskMove.step moves start =
        earlier ++ issue :: (between ++ supersede :: (later ++ use :: rest)) →
      Issues taskId input issue → Supersedes taskId supersede → SentUnder taskId input use.1 →
      (TaskMove.step use.1 use.2).state = use.2) := by
  refine ⟨?_, ?_, ?_⟩
  · intro entry _ before present
    obtain ⟨after, found, next⟩ := row_step entry.1 present
    refine ⟨after, found, ?_⟩
    rcases fence_step present next with ⟨supersedes, raised⟩ | ⟨keeps, same⟩
    · exact ⟨fun _ => raised, fun keeps => absurd supersedes keeps⟩
    · exact ⟨fun supersedes => absurd supersedes keeps, fun _ => same⟩
  · intro _ _ row now first second _ left right
    obtain ⟨owner, token, fence⟩ := holdsLease_fence left
    obtain ⟨owner', token', fence'⟩ := holdsLease_fence right
    cases first
    cases second
    simp_all
  · intro earlier issue between supersede later use rest input split issues supersedes sent
    have path := tasks_path moves start
    rw [split] at path
    obtain ⟨-, onward⟩ := path.through
    obtain ⟨toSupersede, onward⟩ := onward.through
    obtain ⟨toUse, -⟩ := onward.through
    have issued : ∃ row, issue.2.row taskId = some row := by
      obtain ⟨_, _, _, _, _, _, made, answered, -⟩ := issues
      cases found : issue.2.row taskId with
      | some row => exact ⟨row, rfl⟩
      | none => simp [answerOf, made, found] at answered
    obtain ⟨claimedFrom, present⟩ := issued
    obtain ⟨held, found, next⟩ := row_step issue.1 present
    have carried := issued_fence issues present next
    obtain ⟨reached, there, bound⟩ := fence_le toSupersede ⟨held, found, le_refl _⟩
    obtain ⟨raisedTo, beyond, following⟩ := row_step supersede.1 there
    have raised : held.task.fencingToken + 1 ≤ raisedTo.task.fencingToken := by
      rcases fence_step there following with ⟨-, raised⟩ | ⟨keeps, -⟩
      · omega
      · exact absurd supersedes keeps
    obtain ⟨row, here, above⟩ := fence_le toUse ⟨raisedTo, beyond, raised⟩
    apply unleased_step sent here
    intro now
    rw [Bool.eq_false_iff]
    intro holds
    obtain ⟨-, -, fence⟩ := holdsLease_fence holds
    rw [carried] at fence
    have same : row.task.fencingToken = held.task.fencingToken := toString_injective fence
    omega

def sampleRun : RunState :=
  .created "team" "task" "attempt" 600000 900000 none none
    { browser := some .wait
      retryPolicy := { maxAttempts := 2, retryOn := [.toolExecution] }
      deadline := .adaptive 120 60 30 true }

def openedBrowser : BrowserExecution :=
  { status := .active
    runtimeSession := some
      { status := .active
        leaseExpiresAt := 1000000
        executionPermitExpiresAt := some 1000000 } }

def firstLease : LeaseInput :=
  { workerId := "worker", leaseToken := "lease", fencingToken := "1" }

def firstClaim : TaskMove :=
  .on "task" (.claim 60 "worker" "lease" 1000 false none)

def recoveredLease : TaskMove :=
  .on "task" (.loseLease 100000 false 1)

theorem completion_named : "completion" ≠ "" := by
  decide

def lateOutcome : TaskMove :=
  .on "task" (.submitOutcome firstLease 100001
    { completionId := "completion"
      completedAt := 100000
      outcome := .verificationCompleted .passed "done" none
      named := completion_named })

theorem late_outcome_ignored :
    let moves := [.on "task" (.browserChanged (some openedBrowser)), firstClaim, recoveredLease]
    (TaskMove.step lateOutcome (arrival TaskMove.step moves sampleRun)).state =
      arrival TaskMove.step moves sampleRun := by
  intro moves
  have split : visits TaskMove.step (moves ++ [lateOutcome]) sampleRun =
      visits TaskMove.step (moves.take 1) sampleRun ++
        (firstClaim, arrival TaskMove.step (moves.take 1) sampleRun) ::
          ([] ++ (recoveredLease, arrival TaskMove.step (moves.take 2) sampleRun) ::
            ([] ++ [(lateOutcome, arrival TaskMove.step moves sampleRun)])) := rfl
  refine (older_leases_fenced sampleRun (moves ++ [lateOutcome]) "task").2.2 _ _ _ _ _ _ _
    firstLease split ?_ (Or.inr ?_) ⟨_, rfl, rfl⟩
  · exact ⟨60, 1000, false, none, 1, 61000, rfl, by decide, by decide⟩
  · exact ⟨100000, false, 1, _, rfl, rfl, by decide⟩

end Devproof
