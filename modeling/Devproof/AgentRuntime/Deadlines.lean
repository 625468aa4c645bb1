import Devproof.AgentRuntime.Leases

/-!
The deadline of a run while one attempt reports: only a live heartbeat moves it,
up to the hard deadline, and each extension names the progress it was granted for.
-/

namespace Devproof

open TaskService

def progressKeyOf (task : AgentRuntimeTask) : String :=
  task.lastMeaningfulProgressKey.getD "INITIAL_OBSERVATION"

/-- What a granted extension satisfies. -/
theorem decideAdaptiveDeadlineExtension_some {state : AdaptiveDeadlineState}
    {extension : AdaptiveDeadlineExtension}
    (granted : decideAdaptiveDeadlineExtension state = some extension) :
    state.deadlineAtMs < extension.deadlineAtMs ∧
      extension.deadlineAtMs ≤ state.hardDeadlineAtMs ∧
      (state.requireMeaningfulProgress = true →
        state.lastDeadlineExtensionProgressKey ≠ some state.progressKey ∧
        extension.progressKey = some state.progressKey) := by
  unfold decideAdaptiveDeadlineExtension at granted
  split at granted
  · cases granted
  · split at granted
    · cases granted
    · rename_i unrepeated
      split at granted
      · cases granted
      · simp only at granted
        split at granted
        · cases granted
        · split at granted
          · cases granted
          · split at granted
            · cases granted
            · split at granted
              · cases granted
              · rename_i later
                cases granted
                refine ⟨Int.not_le.mp later, min_le_right _ _, ?_⟩
                intro required
                simp only [required, Bool.true_and, beq_iff_eq] at unrepeated
                exact ⟨unrepeated, by simp [required]⟩

theorem heartbeat_cases {leaseSeconds : Nat} {taskId : String} {input : LeaseInput} {now : Int}
    {run : ExecutionRun} {row : AttemptRow} {commit : TaskCommit}
    (committed : heartbeat leaseSeconds taskId input now run row = .ok commit) :
    (commit.run = run ∧ ∃ directive deadlineAt hardDeadlineAt leaseExpiresAt,
        commit.answer = .heartbeat directive deadlineAt hardDeadlineAt leaseExpiresAt none) ∨
      ∃ extension, holdsLease row.task input now = true ∧ leaseWhere row.task input now = true ∧
        grantedExtension now run row.task = some extension ∧ commit.run = extendRun extension run ∧
        (∀ key, key ≠ "" → extension.progressKey = some key →
          commit.row.task.lastDeadlineExtensionProgressKey = some key) ∧
        ∃ deadlineAt hardDeadlineAt leaseExpiresAt,
          commit.answer = .heartbeat .proceed deadlineAt hardDeadlineAt leaseExpiresAt
            (some extension.extendedByMs) := by
  unfold heartbeat at committed
  simp only [requireLease, bind_ok, throwIf_ok] at committed
  obtain ⟨_, holds, committed⟩ := committed
  split at committed
  · cases committed
    exact Or.inl ⟨rfl, _, _, _, _, rfl⟩
  · simp only [bind_ok, throwIf_ok] at committed
    obtain ⟨_, _, _, current, committed⟩ := committed
    split at committed
    · cases committed
      exact Or.inl ⟨rfl, _, _, _, _, rfl⟩
    · rename_i extension granted
      cases committed
      refine Or.inr ⟨extension, by simpa using holds, by simpa using current, granted, rfl, ?_, _, _,
        _, rfl⟩
      intro key shown named
      have kept : truthy (some key) = some key := if_pos (by simpa using shown)
      simp only [extendTask, named, kept]

theorem heartbeat_progress {leaseSeconds : Nat} {taskId : String} {input : LeaseInput} {now : Int}
    {run : ExecutionRun} {row : AttemptRow} {commit : TaskCommit}
    (committed : heartbeat leaseSeconds taskId input now run row = .ok commit) :
    commit.row.task.lastMeaningfulProgressKey = row.task.lastMeaningfulProgressKey := by
  unfold heartbeat at committed
  simp only [requireLease, bind_ok, throwIf_ok] at committed
  obtain ⟨_, _, committed⟩ := committed
  split at committed
  · cases committed
    rfl
  · simp only [bind_ok, throwIf_ok] at committed
    obtain ⟨_, _, _, _, committed⟩ := committed
    split at committed
    · cases committed
      rfl
    · cases committed
      rfl

theorem traceKey_ne (segmentId : String) (number : Nat) : traceKey segmentId number ≠ "" := by
  intro empty
  have long := congrArg String.length empty
  simp [traceKey, String.length_append] at long

theorem noteProgress_named (segmentId : String) (progress : Option RuntimeProgress)
    {task : AgentRuntimeTask} (named : task.lastMeaningfulProgressKey ≠ some "") :
    (noteProgress (meaningfulKey segmentId progress) task).lastMeaningfulProgressKey ≠ some "" := by
  unfold meaningfulKey
  split
  · split
    · exact fun same => traceKey_ne _ _ (Option.some.inj same)
    · exact named
  · exact named

theorem recordRuntimeProgress_named {event : TraceEvent} {recordedAt : Int} {task : AgentRuntimeTask}
    (named : task.lastMeaningfulProgressKey ≠ some "") :
    (recordRuntimeProgress event recordedAt task).lastMeaningfulProgressKey ≠ some "" := by
  cases event with
  | modelStarted segmentId step progress =>
      exact noteProgress_named segmentId progress named
  | toolCompleted segmentId succeeded progress =>
      cases succeeded with
      | false => exact named
      | true => exact noteProgress_named segmentId progress named
  | modelCompleted | modelFailed | toolStarted | toolFailed | segmentCompleted | segmentStarted
  | other => exact named

theorem appendEvent_ok {taskId : String} {input : LeaseInput} {now : Int} {eventId : String}
    {event : Option TraceEvent} {refused : Option TaskError} {recordedAt : Int}
    {events : List (String × String)} {run : ExecutionRun} {row : AttemptRow} {commit : TaskCommit}
    (committed : appendEvent taskId input now eventId event refused recordedAt events run row
      = .ok commit) :
    commit.run = run ∧ commit.answer = .event ∧
      (commit.row.task = row.task ∨
        ∃ trace, commit.row.task = recordRuntimeProgress trace recordedAt row.task) := by
  unfold appendEvent at committed
  simp only [requireLease, lockCurrentLease, bind_ok, throwIf_ok] at committed
  obtain ⟨_, _, _, _, committed⟩ := committed
  split at committed
  · obtain ⟨_, _, returned⟩ := bind_ok.mp committed
    cases returned
    exact ⟨rfl, rfl, Or.inl rfl⟩
  · split at committed
    · simp at committed
    · cases committed
      cases event with
      | none => exact ⟨rfl, rfl, Or.inl rfl⟩
      | some trace => exact ⟨rfl, rfl, Or.inr ⟨trace, rfl⟩⟩

theorem grantedExtension_some {now : Int} {run : ExecutionRun} {task : AgentRuntimeTask}
    {extension : AdaptiveDeadlineExtension}
    (granted : grantedExtension now run task = some extension) :
    run.deadlineAt < extension.deadlineAtMs ∧ extension.deadlineAtMs ≤ run.hardDeadlineAt ∧
      (task.capability = "BROWSER_VERIFICATION" →
        task.lastDeadlineExtensionProgressKey ≠ some (progressKeyOf task) ∧
        extension.progressKey = some (progressKeyOf task)) := by
  obtain ⟨decided, -⟩ := Option.filter_eq_some_iff.mp granted
  obtain ⟨later, below, keyed⟩ := decideAdaptiveDeadlineExtension_some decided
  refine ⟨later, below, ?_⟩
  intro browser
  exact keyed (by simpa [adaptiveState] using browser)

def ProgressMove (taskId : String) (move : TaskMove) : Prop :=
  (∃ leaseSeconds input now, move = .on taskId (.heartbeat leaseSeconds input now)) ∨
    ∃ input now eventId event refused recordedAt,
      move = .on taskId (.appendEvent input now eventId event refused recordedAt)

def LiveHeartbeat (taskId : String) (entry : TaskMove × RunState) : Prop :=
  ∃ leaseSeconds input now row, entry.1 = .on taskId (.heartbeat leaseSeconds input now) ∧
    entry.2.row taskId = some row ∧ holdsLease row.task input now = true ∧
    leaseWhere row.task input now = true

def extendedOn (taskId : String) (entry : TaskMove × RunState) : Option String :=
  match answerOf entry with
  | some (.heartbeat _ _ _ _ (some _)) =>
      (entry.2.row taskId).map fun row => progressKeyOf row.task
  | _ => none

def extendedFor (taskId : String) (state : RunState) : Option String :=
  (state.row taskId).bind fun row => row.task.lastDeadlineExtensionProgressKey

/-- The heartbeat finds a progress key that the task was extended for before its latest
extension. -/
def returnsTo (taskId : String) (earlier : List (TaskMove × RunState))
    (entry : TaskMove × RunState) : Bool :=
  match entry.1, entry.2.row taskId with
  | .on target (.heartbeat ..), some row =>
      target == taskId &&
        (earlier.filterMap fun visited => extendedFor taskId visited.2).contains
          (progressKeyOf row.task) &&
        row.task.lastDeadlineExtensionProgressKey != some (progressKeyOf row.task)
  | _, _ => false

inductive DeadlineStep (taskId : String) (entry : TaskMove × RunState) : Prop where
  | quiet : (TaskMove.step entry.1 entry.2).state.run = entry.2.run →
      extendedOn taskId entry = none → DeadlineStep taskId entry
  | extended {leaseSeconds input now row extension} :
      entry.1 = .on taskId (.heartbeat leaseSeconds input now) →
      entry.2.row taskId = some row → holdsLease row.task input now = true →
      leaseWhere row.task input now = true →
      grantedExtension now entry.2.run row.task = some extension →
      (TaskMove.step entry.1 entry.2).state.run = extendRun extension entry.2.run →
      extendedOn taskId entry = some (progressKeyOf row.task) →
      (∀ key, key ≠ "" → extension.progressKey = some key →
        extendedFor taskId (TaskMove.step entry.1 entry.2).state = some key) →
      DeadlineStep taskId entry

theorem extendedOn_unchanged {taskId : String} {move : TaskMove} {state : RunState}
    (threw : (TaskMove.step move state).thrown ≠ none) : extendedOn taskId (move, state) = none := by
  have unanswered : answerOf (move, state) = none := by
    cases move with
    | cancel => rfl
    | on other request =>
        simp only [answerOf]
        cases state.row other with
        | none => rfl
        | some row =>
            simp only [Option.bind_some]
            split
            · rfl
            · exact if_neg threw
  simp [extendedOn, unanswered]

theorem commit_unscheduled (taskId : String) {commit : TaskCommit} (state : RunState)
    (unscheduled : commit.next = none) :
    (state.commit taskId commit).thrown = none ∧
      (state.commit taskId commit).state.run = commit.run := by
  simp only [RunState.commit, unscheduled]
  exact ⟨rfl, rfl⟩

theorem performed_row {taskId : String} {request : TaskRequest} {state : RunState} {row : AttemptRow}
    {commit : TaskCommit} (present : state.row taskId = some row)
    (performed : request.perform taskId state.events state.run row = .ok commit)
    (quiet : (TaskMove.step (.on taskId request) state).thrown = none) :
    (TaskMove.step (.on taskId request) state).state.row taskId = some commit.row := by
  obtain ⟨after, there, next⟩ := row_step (.on taskId request) present
  cases next with
  | same refused => exact absurd quiet (refused request commit rfl performed)
  | performed made again =>
      injection made with _ made
      subst made
      rw [performed] at again
      cases again
      exact there
  | cancelled made => cases made

theorem deadline_step {taskId : String} {move : TaskMove} (state : RunState)
    (sent : ProgressMove taskId move) : DeadlineStep taskId (move, state) := by
  obtain ⟨request, made, reports⟩ : ∃ request, move = .on taskId request ∧
      ((∃ leaseSeconds input now, request = .heartbeat leaseSeconds input now) ∨
        ∃ input now eventId event refused recordedAt,
          request = .appendEvent input now eventId event refused recordedAt) := by
    rcases sent with ⟨leaseSeconds, input, now, rfl⟩ |
      ⟨input, now, eventId, event, refused, recordedAt, rfl⟩
    · exact ⟨_, rfl, Or.inl ⟨_, _, _, rfl⟩⟩
    · exact ⟨_, rfl, Or.inr ⟨_, _, _, _, _, _, rfl⟩⟩
  subst made
  cases present : state.row taskId with
  | none =>
      have stepped := step_absent request present
      exact .quiet (by rw [stepped]; rfl) (extendedOn_unchanged (by rw [stepped]; simp))
  | some row =>
      have stepped := step_present request present
      cases performed : request.perform taskId state.events state.run row with
      | error failure =>
          rw [performed] at stepped
          exact .quiet (by rw [stepped]; rfl) (extendedOn_unchanged (by rw [stepped]; simp))
      | ok commit =>
          rw [performed] at stepped
          have unscheduled : commit.next = none := by
            rcases reports with ⟨leaseSeconds, input, now, rfl⟩ |
              ⟨input, now, eventId, event, refused, recordedAt, rfl⟩
            · cases (request_effect performed).2 with
              | kept _ _ _ _ unscheduled => exact unscheduled
            · cases (request_effect performed).2 with
              | kept _ _ _ _ unscheduled => exact unscheduled
          obtain ⟨quiet, run⟩ := commit_unscheduled taskId state unscheduled
          have answered := answerOf_performed present performed (by rw [stepped]; exact quiet)
          have ran : (TaskMove.step (.on taskId request) state).state.run = commit.run := by
            rw [stepped]
            exact run
          rcases reports with ⟨leaseSeconds, input, now, rfl⟩ |
            ⟨input, now, eventId, event, refused, recordedAt, rfl⟩
          · rcases heartbeat_cases performed with
              ⟨same, _, _, _, _, answer⟩ |
                ⟨extension, holds, current, granted, extended, named, _, _, _, answer⟩
            · refine .quiet (ran.trans same) ?_
              simp only [extendedOn, answered, answer]
            · refine .extended rfl present holds current granted (ran.trans extended) ?_ ?_
              · simp only [extendedOn, answered, answer, present, Option.map_some]
              · intro key shown asked
                have written := performed_row present performed (by rw [stepped]; exact quiet)
                rw [extendedFor, written, Option.bind_some, named key shown asked]
          · obtain ⟨same, answer, -⟩ := appendEvent_ok performed
            refine .quiet (ran.trans same) ?_
            simp only [extendedOn, answered, answer]

/-- The deadline only grows, within a hard deadline that stands still. -/
theorem deadline_bounds {taskId : String} {entry : TaskMove × RunState}
    (next : DeadlineStep taskId entry) :
    entry.2.run.deadlineAt ≤ (TaskMove.step entry.1 entry.2).state.run.deadlineAt ∧
      (entry.2.run.deadlineAt ≤ entry.2.run.hardDeadlineAt →
        (TaskMove.step entry.1 entry.2).state.run.deadlineAt ≤
          (TaskMove.step entry.1 entry.2).state.run.hardDeadlineAt) := by
  cases next with
  | quiet same =>
      rw [same]
      exact ⟨le_refl _, id⟩
  | extended _ _ _ _ granted extended _ _ =>
      obtain ⟨later, below, -⟩ := grantedExtension_some granted
      rw [extended]
      exact ⟨le_of_lt later, fun _ => below⟩

/-- A task of the browser; the progress it has reported, if any, is not the empty text, which no
trace event reports. -/
def InBrowser (taskId : String) (state : RunState) : Prop :=
  ∀ row, state.row taskId = some row → row.task.capability = "BROWSER_VERIFICATION" ∧
    row.task.lastMeaningfulProgressKey ≠ some ""

theorem progressKeyOf_ne {task : AgentRuntimeTask}
    (named : task.lastMeaningfulProgressKey ≠ some "") : progressKeyOf task ≠ "" := by
  unfold progressKeyOf
  cases reported : task.lastMeaningfulProgressKey with
  | none => decide
  | some key =>
      intro empty
      rw [reported, ← empty] at named
      exact named rfl

theorem inBrowser_step {taskId : String} {move : TaskMove} {state : RunState}
    (sent : ProgressMove taskId move) (browser : InBrowser taskId state) :
    InBrowser taskId (TaskMove.step move state).state := by
  intro row found
  cases present : state.row taskId with
  | none =>
      rcases sent with ⟨leaseSeconds, input, now, rfl⟩ |
        ⟨input, now, eventId, event, refused, recordedAt, rfl⟩
      · rw [step_absent _ present] at found
        exact browser row found
      · rw [step_absent _ present] at found
        exact browser row found
  | some before =>
      obtain ⟨after, there, next⟩ := row_step move present
      rw [found] at there
      cases there
      cases next with
      | same => exact browser row present
      | performed made performed =>
          obtain ⟨capability, named⟩ := browser before present
          refine ⟨(request_effect performed).1.capability.trans capability, ?_⟩
          rcases sent with ⟨_, _, _, rfl⟩ | ⟨_, _, _, _, _, _, rfl⟩
          · injection made with _ made
            subst made
            rw [heartbeat_progress performed]
            exact named
          · injection made with _ made
            subst made
            rcases (appendEvent_ok performed).2.2 with same | ⟨trace, same⟩
            · rw [same]
              exact named
            · rw [same]
              exact recordRuntimeProgress_named named
      | cancelled made =>
          subst made
          rcases sent with ⟨_, _, _, made⟩ | ⟨_, _, _, _, _, _, made⟩
          · cases made
          · cases made

theorem visits_moves {Move State Failure : Type} {step : Move → State → Outcome State Failure}
    {moves : List Move} {state : State} {entry : Move × State}
    (member : entry ∈ visits step moves state) : entry.1 ∈ moves := by
  induction moves generalizing state with
  | nil => simp [visits] at member
  | cons move rest ih =>
      rcases List.mem_cons.mp member with same | later
      · rw [same]
        exact List.mem_cons_self ..
      · exact List.mem_cons_of_mem _ (ih later)

/-- The extensions granted so far are for different progress, and each is still to be seen in a
state that was visited. -/
structure ExtendedOnce (taskId : String) (made : List (TaskMove × RunState)) (state : RunState) :
    Prop where
  distinct : (made.filterMap (extendedOn taskId)).Nodup
  browser : InBrowser taskId state
  seen : ∀ key ∈ made.filterMap (extendedOn taskId), extendedFor taskId state = some key ∨
    ∃ visited ∈ made, extendedFor taskId visited.2 = some key

theorem extendedOnce_step {taskId : String} {made : List (TaskMove × RunState)}
    {entry : TaskMove × RunState} (held : ExtendedOnce taskId made entry.2)
    (sent : ProgressMove taskId entry.1) (forward : returnsTo taskId made entry = false) :
    ExtendedOnce taskId (made ++ [entry]) (TaskMove.step entry.1 entry.2).state := by
  have still : ∀ key ∈ made.filterMap (extendedOn taskId), ∃ visited ∈ made ++ [entry],
      extendedFor taskId visited.2 = some key := by
    intro key granted
    rcases held.seen key granted with here | ⟨visited, member, earlier⟩
    · exact ⟨entry, by simp, here⟩
    · exact ⟨visited, List.mem_append_left _ member, earlier⟩
  have browser := inBrowser_step sent held.browser
  cases deadline_step entry.2 sent with
  | quiet _ silent =>
      have same : (made ++ [entry]).filterMap (extendedOn taskId) =
          made.filterMap (extendedOn taskId) := by simp [silent]
      exact ⟨same ▸ held.distinct, browser, fun key granted => Or.inr (still key (same ▸ granted))⟩
  | @extended leaseSeconds input now row extension beat present _ _ granted _ key written =>
      obtain ⟨-, -, keyed⟩ := grantedExtension_some granted
      obtain ⟨unrepeated, named⟩ := keyed (held.browser row present).1
      have shown := progressKeyOf_ne (held.browser row present).2
      have fresh : progressKeyOf row.task ∉ made.filterMap (extendedOn taskId) := by
        intro again
        rcases held.seen _ again with here | ⟨visited, member, earlier⟩
        · rw [extendedFor, present] at here
          exact unrepeated here
        · have listed : progressKeyOf row.task ∈
              made.filterMap fun visited => extendedFor taskId visited.2 :=
            List.mem_filterMap.mpr ⟨visited, member, earlier⟩
          unfold returnsTo at forward
          rw [beat, present] at forward
          simp only [beq_self_eq_true, Bool.true_and, Bool.and_eq_false_iff,
            bne_eq_false_iff_eq] at forward
          rcases forward with unseen | repeated
          · exact Bool.eq_false_iff.mp unseen (List.contains_iff_mem.mpr listed)
          · exact unrepeated repeated
      have grown : (made ++ [entry]).filterMap (extendedOn taskId) =
          made.filterMap (extendedOn taskId) ++ [progressKeyOf row.task] := by
        simp only [List.filterMap_append, List.filterMap_cons, key, List.filterMap_nil]
      refine ⟨?_, browser, ?_⟩
      · rw [grown]
        exact List.Nodup.append held.distinct (List.nodup_singleton _)
          (List.disjoint_singleton.mpr fresh)
      · intro other listed
        rw [grown] at listed
        rcases List.mem_append.mp listed with old | new
        · exact Or.inr (still other old)
        · rw [List.mem_singleton.mp new]
          exact Or.inl (written _ shown named)

/-- In every sequence of heartbeats and trace events of a task, the deadline of its run never
falls, stays within the hard deadline and moves only at a live heartbeat; and where no heartbeat
of a browser task returns to progress it was extended for before its latest extension, no two
extensions are granted for the same progress. -/
theorem extensions_granted_once {taskId : String} {start : RunState} {moves : List TaskMove}
    (sent : ∀ move ∈ moves, ProgressMove taskId move) :
    (statesOf (visits TaskMove.step moves start) (arrival TaskMove.step moves start)).Pairwise
      (fun earlier later => earlier.run.deadlineAt ≤ later.run.deadlineAt) ∧
    (start.run.deadlineAt ≤ start.run.hardDeadlineAt →
      ∀ state ∈ statesOf (visits TaskMove.step moves start) (arrival TaskMove.step moves start),
        state.run.deadlineAt ≤ state.run.hardDeadlineAt) ∧
    (∀ entry ∈ visits TaskMove.step moves start,
      (TaskMove.step entry.1 entry.2).state.run.deadlineAt ≠ entry.2.run.deadlineAt →
      LiveHeartbeat taskId entry) ∧
    (InBrowser taskId start →
      (∀ index entry, (visits TaskMove.step moves start)[index]? = some entry →
        returnsTo taskId ((visits TaskMove.step moves start).take index) entry = false) →
      ((visits TaskMove.step moves start).filterMap (extendedOn taskId)).Nodup) := by
  have path := tasks_path moves start
  have next (entry : TaskMove × RunState) (member : entry ∈ visits TaskMove.step moves start) :
      DeadlineStep taskId entry :=
    deadline_step entry.2 (sent entry.1 (visits_moves member))
  refine ⟨?_, ?_, ?_, ?_⟩
  · exact path.ordered (fun earlier later => earlier.run.deadlineAt ≤ later.run.deadlineAt)
      (fun _ _ _ => le_trans) fun entry member => (deadline_bounds (next entry member)).1
  · intro bounded
    have kept := path.invariant (fun state => state.run.deadlineAt ≤ state.run.hardDeadlineAt)
      bounded fun entry member => (deadline_bounds (next entry member)).2
    intro state member
    rcases List.mem_append.mp member with visited | final
    · obtain ⟨entry, there, rfl⟩ := List.mem_map.mp visited
      exact kept.2 entry there
    · rw [List.mem_singleton.mp final]
      exact kept.1
  · intro entry member moved
    cases next entry member with
    | quiet same => exact absurd (congrArg ExecutionRun.deadlineAt same) moved
    | extended made present holds current => exact ⟨_, _, _, _, made, present, holds, current⟩
  · intro browser onward
    have once : ExtendedOnce taskId ([] ++ visits TaskMove.step moves start)
        (arrival TaskMove.step moves start) :=
      path.history (ExtendedOnce taskId) ⟨List.nodup_nil, browser, by simp⟩ ?_
    · exact once.distinct
    · rintro before entry after split held
      rw [List.nil_append] at held ⊢
      have member : entry ∈ visits TaskMove.step moves start := by
        rw [split]
        exact List.mem_append_right _ (List.mem_cons_self ..)
      have forward := onward before.length entry (by simp [split])
      rw [split, List.take_left] at forward
      exact extendedOnce_step held (sent entry.1 (visits_moves member)) forward

/-- A report of meaningful progress, the model call it ends, and a heartbeat, shortly before the
deadline. -/
def reportAndBeat (first second : String) (sequence : Nat) (instant : Int) : List TaskMove :=
  [.on "task" (.appendEvent firstLease instant first
      (some (.toolCompleted "segment" true (some { meaningful := true, sequence }))) none instant),
    .on "task" (.appendEvent firstLease instant second
      (some (.modelCompleted second sequence 5000)) none instant),
    .on "task" (.heartbeat 1000 firstLease instant)]

def claimedRun : RunState :=
  arrival TaskMove.step
    [.on "task" (.browserChanged (some openedBrowser)),
      .on "task" (.claim 1000 "worker" "lease" 1000 false none)] sampleRun

/-- A report that comes back to the first progress is granted a second extension for it. -/
theorem returned_progress_extended :
    let moves := reportAndBeat "first" "call1" 1 500000 ++
      reportAndBeat "second" "call2" 2 620000 ++ reportAndBeat "third" "call3" 1 740000
    (visits TaskMove.step moves claimedRun).filterMap (extendedOn "task") =
        ["segment:1", "segment:2", "segment:1"] ∧
      ¬ ((visits TaskMove.step moves claimedRun).filterMap (extendedOn "task")).Nodup := by
  intro moves
  have keys : (visits TaskMove.step moves claimedRun).filterMap (extendedOn "task") =
      ["segment:1", "segment:2", "segment:1"] := by decide +kernel
  refine ⟨keys, ?_⟩
  rw [keys]
  decide

theorem reportAndBeat_sent (first second : String) (sequence : Nat) (instant : Int) :
    ∀ move ∈ reportAndBeat first second sequence instant, ProgressMove "task" move := by
  intro move member
  simp only [reportAndBeat, List.mem_cons, List.not_mem_nil, or_false] at member
  rcases member with rfl | rfl | rfl
  · exact Or.inr ⟨_, _, _, _, _, _, rfl⟩
  · exact Or.inr ⟨_, _, _, _, _, _, rfl⟩
  · exact Or.inl ⟨_, _, _, rfl⟩

theorem two_reports_extended :
    let moves := reportAndBeat "first" "call1" 1 500000 ++ reportAndBeat "second" "call2" 2 620000
    (visits TaskMove.step moves claimedRun).filterMap (extendedOn "task") =
        ["segment:1", "segment:2"] ∧
      ((visits TaskMove.step moves claimedRun).filterMap (extendedOn "task")).Nodup := by
  intro moves
  have keys : (visits TaskMove.step moves claimedRun).filterMap (extendedOn "task") =
      ["segment:1", "segment:2"] := by decide +kernel
  refine ⟨keys, (extensions_granted_once ?_).2.2.2 ?_ ?_⟩
  · intro move member
    rcases List.mem_append.mp member with early | late
    · exact reportAndBeat_sent _ _ _ _ move early
    · exact reportAndBeat_sent _ _ _ _ move late
  · intro row present
    have task : (claimedRun.row "task").map (fun row =>
        (row.task.capability, row.task.lastMeaningfulProgressKey)) =
          some ("BROWSER_VERIFICATION", none) := by decide
    simp only [present, Option.map_some, Option.some.injEq, Prod.mk.injEq] at task
    exact ⟨task.1, by simp [task.2]⟩
  · have checked : (List.range 6).all (fun index =>
        ((visits TaskMove.step moves claimedRun)[index]?).all fun entry =>
          !returnsTo "task" ((visits TaskMove.step moves claimedRun).take index) entry) = true := by
      decide
    intro index entry found
    have bound : index < 6 := (List.getElem?_eq_some_iff.mp found).1
    have forward := List.all_eq_true.mp checked index (List.mem_range.mpr bound)
    rw [found] at forward
    simpa using forward

end Devproof
