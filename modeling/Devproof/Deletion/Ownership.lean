import Devproof.Deletion.TaskDelete
import Mathlib.Data.List.Dedup

/-!
What deleting a task leaves: the rows of other runs, the sessions and artifacts that
something else refers to, and a queued deletion for every stored file it drops.
-/

namespace Devproof

namespace TaskDeletion

section References

variable (teamId id : String) (database : Database)

def Foreign (runId : String) : Prop :=
  runId ∉ runIds teamId id database

def ArtifactShared (artifactId : String) : Prop :=
  (∃ evidence ∈ database.evidences, evidence.runtimeArtifactId = some artifactId ∧
    Foreign teamId id database evidence.runId) ∨
  (∃ row ∈ database.testRunArtifacts, row.reference = some artifactId) ∨
  ∃ row ∈ database.verificationArtifacts, row.reference = some artifactId

/-- Another run's browser or agent task, a legacy run, a verification run or a shared
artifact refers to the session. -/
def SessionShared (session : SessionRow) : Prop :=
  (∃ browser ∈ database.browsers, browser.runtimeSessionId = some session.id ∧
    Foreign teamId id database browser.runId) ∨
  (∃ agent ∈ database.agents, session.ownerTaskId = some agent.id ∧
    Foreign teamId id database agent.runId) ∨
  (∃ artifact ∈ database.artifacts, artifact.sessionId = session.id ∧
    ArtifactShared teamId id database artifact.id) ∨
  (∃ row ∈ database.testRuns, row.reference = some session.id) ∨
  ∃ row ∈ database.verificationRuns, row.reference = some session.id

def OwnAttempt (runId attemptId : String) : Prop :=
  ∀ attempt ∈ database.attempts, attempt.id = attemptId → attempt.runId = runId

structure Kept (after : Database) : Prop where
  runs : ∀ run ∈ database.runs, Foreign teamId id database run.id →
    run.id ∈ after.runs.map RunRow.id
  agents : ∀ agent ∈ database.agents, Foreign teamId id database agent.runId →
    OwnAttempt database agent.runId agent.attemptId → agent ∈ after.agents
  evidences : ∀ evidence ∈ database.evidences, Foreign teamId id database evidence.runId →
    OwnAttempt database evidence.runId evidence.attemptId →
      evidence.id ∈ after.evidences.map EvidenceRow.id
  sessions : ∀ session ∈ database.sessions, SessionShared teamId id database session →
    session ∈ after.sessions
  artifacts : ∀ artifact ∈ database.artifacts, ArtifactShared teamId id database artifact.id →
    artifact ∈ after.artifacts
  closed : ∀ session ∈ database.sessions, session ∉ after.sessions →
    session.status = .closed ∧ session.closureVerifiedAt.isSome = true ∧
      holds database.slots session.id = false ∧ holds database.profileLeases session.id = false ∧
      holds database.humanControlLeases session.id = false ∧
      holds database.resourceLeases session.id = false
  queued : ∀ artifact ∈ database.artifacts, artifact ∉ after.artifacts →
    artifact.storageKey ∈ after.deletionTasks

end References

section Proofs

variable {teamId id : String} {database : Database}

theorem not_shared_of_owned {artifactId : String}
    (owned : artifactOwned database (runIds teamId id database) artifactId = true) :
    ¬ ArtifactShared teamId id database artifactId := by
  simp only [artifactOwned, refersTo, onlyEvidenced, Bool.and_eq_true, Bool.not_eq_true',
    List.any_eq_false, List.all_eq_true, beq_iff_eq, Bool.or_eq_true, bne_iff_ne,
    List.contains_iff_mem] at owned
  obtain ⟨⟨legacy, verification⟩, evidence⟩ := owned
  rintro (⟨row, member, refers, foreign⟩ | ⟨row, member, refers⟩ | ⟨row, member, refers⟩)
  · rcases evidence row member with other | own
    · exact other refers
    · exact foreign own
  · exact legacy row member refers
  · exact verification row member refers

theorem artifactsToDelete_owned {artifact : ArtifactRow}
    (member : artifact ∈ artifactsToDelete teamId id database) :
    artifact ∈ database.artifacts ∧
      artifactOwned database (runIds teamId id database) artifact.id = true := by
  obtain ⟨present, chosen⟩ := List.mem_filter.mp member
  exact ⟨present, (Bool.and_eq_true_iff.mp chosen).2⟩

theorem owned_session {session : SessionRow} (present : session ∈ database.sessions)
    (chosen : session.id ∈ ownedSessionIds teamId id database) :
    session ∈ sessionsOf teamId database (agentIds teamId id database)
        (runIds teamId id database) ∧ session.teamId = teamId ∧
      (∀ artifact ∈ database.artifacts, artifact.sessionId = session.id →
        artifactOwned database (runIds teamId id database) artifact.id = true) ∧
      ¬ SessionShared teamId id database session := by
  obtain ⟨other, owned, same⟩ := List.mem_map.mp chosen
  obtain ⟨present', conditions⟩ := List.mem_filter.mp owned
  obtain rfl : other = session :=
    List.inj_on_of_nodup_map database.sessionKeys present' present same
  simp only [Bool.and_eq_true, List.contains_iff_mem, beq_iff_eq, Bool.or_eq_true,
    List.all_eq_true, bne_iff_ne, Bool.not_eq_true', refersTo, List.any_eq_false] at conditions
  obtain ⟨⟨⟨⟨⟨⟨listed, team⟩, owner⟩, browsers⟩, tests⟩, verifications⟩, artifacts⟩ := conditions
  have own : ∀ artifact ∈ database.artifacts, artifact.sessionId = other.id →
      artifactOwned database (runIds teamId id database) artifact.id = true := by
    intro artifact member here
    rcases artifacts artifact member with elsewhere | owned
    · exact absurd here elsewhere
    · exact owned
  refine ⟨?_, team, own, ?_⟩
  · obtain ⟨found, member, same'⟩ := List.mem_map.mp listed
    have present'' := (List.mem_filter.mp member).1
    obtain rfl : found = other :=
      List.inj_on_of_nodup_map database.sessionKeys present'' present same'
    exact member
  · rintro (⟨browser, member, refers, foreign⟩ | ⟨agent, member, refers, foreign⟩ |
      ⟨artifact, member, here, shared⟩ | ⟨row, member, refers⟩ | ⟨row, member, refers⟩)
    · rcases browsers browser member with elsewhere | mine
      · exact elsewhere refers
      · exact foreign mine
    · rw [refers] at owner
      rcases owner with none | mine
      · cases none
      · obtain ⟨agent', tasks, same'⟩ := List.mem_map.mp (List.contains_iff_mem.mp mine)
        obtain ⟨present'', runs⟩ := List.mem_filter.mp tasks
        obtain rfl : agent' = agent :=
          List.inj_on_of_nodup_map database.agentKeys present'' member same'
        exact foreign (List.contains_iff_mem.mp runs)
    · exact not_shared_of_owned (own artifact member here) shared
    · exact tests row member refers
    · exact verifications row member refers

def takenRuns (teamId id : String) (database : Database) : List String :=
  (database.runs.filter fun run =>
    (runIds teamId id database).contains run.id && run.teamId == teamId).map RunRow.id

def takenAttempts (teamId id : String) (database : Database) : List String :=
  (database.attempts.filter fun attempt =>
    (takenRuns teamId id database).contains attempt.runId).map AttemptRow.id

def goes (teamId id : String) (database : Database) (session : SessionRow) : Bool :=
  (ownedSessionIds teamId id database).contains session.id && session.teamId == teamId

def listed (teamId id : String) (database : Database) : List String :=
  (artifactsToDelete teamId id database).map ArtifactRow.id

def takenSessions (teamId id : String) (database : Database) : List String :=
  (database.sessions.filter (goes teamId id database)).map SessionRow.id

theorem not_taken_of_foreign {runId : String} (foreign : Foreign teamId id database runId) :
    runId ∉ takenRuns teamId id database := by
  intro taken
  obtain ⟨run, member, rfl⟩ := List.mem_map.mp taken
  have chosen := (List.mem_filter.mp member).2
  rw [Bool.and_eq_true, List.contains_iff_mem] at chosen
  exact foreign chosen.1

theorem attempt_not_taken {runId attemptId : String}
    (foreign : Foreign teamId id database runId) (own : OwnAttempt database runId attemptId) :
    attemptId ∉ takenAttempts teamId id database := by
  intro taken
  obtain ⟨attempt, member, same⟩ := List.mem_map.mp taken
  obtain ⟨present, chosen⟩ := List.mem_filter.mp member
  have run := own attempt present same
  rw [List.contains_iff_mem, run] at chosen
  exact not_taken_of_foreign foreign chosen

theorem row_stays {runId attemptId : String}
    (foreign : Foreign teamId id database runId) (own : OwnAttempt database runId attemptId) :
    (!((takenRuns teamId id database).contains runId ||
      (takenAttempts teamId id database).contains attemptId)) = true := by
  rw [Bool.not_eq_true', Bool.or_eq_false_iff, ← Bool.not_eq_true, ← Bool.not_eq_true,
    List.contains_iff_mem, List.contains_iff_mem]
  exact ⟨not_taken_of_foreign foreign, attempt_not_taken foreign own⟩

theorem remove_runs_table : (remove teamId id database).runs =
    (database.runs.filter fun run =>
      !((runIds teamId id database).contains run.id && run.teamId == teamId)).map fun run =>
        { run with taskExecutionId := setNull [id] run.taskExecutionId } := by
  simp only [remove, Database.deleteTaskRow, Database.deleteRuns, Database.clearEvents,
    Database.deleteUsages, Database.deleteSessions, Database.deleteRecoveries,
    Database.deleteArtifacts, Database.queueDeletions]

theorem remove_agents_table : (remove teamId id database).agents =
    database.agents.filter fun agent =>
      !((takenRuns teamId id database).contains agent.runId ||
        (takenAttempts teamId id database).contains agent.attemptId) := by
  simp only [remove, Database.deleteTaskRow, Database.deleteRuns, Database.clearEvents,
    Database.deleteUsages, Database.deleteSessions, Database.deleteRecoveries,
    Database.deleteArtifacts, Database.queueDeletions,
    takenRuns, takenAttempts]

theorem remove_evidences_table : (remove teamId id database).evidences.map EvidenceRow.id =
    (database.evidences.filter fun evidence =>
      !((takenRuns teamId id database).contains evidence.runId ||
        (takenAttempts teamId id database).contains evidence.attemptId)).map EvidenceRow.id := by
  simp only [remove, Database.deleteTaskRow, Database.deleteRuns, Database.clearEvents,
    Database.deleteUsages, Database.deleteSessions, Database.deleteRecoveries,
    Database.deleteArtifacts, Database.queueDeletions,
    takenRuns, takenAttempts, List.filter_map, List.map_map]
  rfl

theorem remove_sessions_table : (remove teamId id database).sessions =
    database.sessions.filter fun session => !goes teamId id database session := by
  simp only [remove, Database.deleteTaskRow, Database.deleteRuns, Database.clearEvents,
    Database.deleteUsages, Database.deleteSessions, Database.deleteRecoveries,
    Database.deleteArtifacts, Database.queueDeletions,
    goes]

theorem remove_artifacts_table : (remove teamId id database).artifacts =
    (database.artifacts.filter fun artifact =>
      !(listed teamId id database).contains artifact.id).filter fun artifact =>
        !(((database.artifacts.filter fun artifact =>
          !(listed teamId id database).contains artifact.id).filter fun artifact =>
            (takenSessions teamId id database).contains artifact.sessionId).map
              ArtifactRow.id).contains artifact.id := by
  simp only [remove, Database.deleteTaskRow, Database.deleteRuns, Database.clearEvents,
    Database.deleteUsages, Database.deleteSessions, Database.deleteRecoveries,
    Database.deleteArtifacts, Database.queueDeletions,
    listed, takenSessions]
  rfl

theorem remove_deletionTasks : (remove teamId id database).deletionTasks =
    (database.queueDeletions
      ((artifactsToDelete teamId id database).map ArtifactRow.storageKey)).deletionTasks := by
  simp only [remove, Database.deleteTaskRow, Database.deleteRuns, Database.clearEvents,
    Database.deleteUsages, Database.deleteSessions, Database.deleteRecoveries,
    Database.deleteArtifacts, Database.queueDeletions]

theorem remove_runs {run : RunRow} (present : run ∈ database.runs)
    (foreign : Foreign teamId id database run.id) :
    run.id ∈ (remove teamId id database).runs.map RunRow.id := by
  have stays : (runIds teamId id database).contains run.id = false := by
    rw [← Bool.not_eq_true, List.contains_iff_mem]
    exact foreign
  rw [remove_runs_table, List.map_map]
  exact List.mem_map.mpr ⟨run, List.mem_filter.mpr ⟨present, by rw [stays]; rfl⟩, rfl⟩

theorem remove_agents {agent : AgentRow} (present : agent ∈ database.agents)
    (foreign : Foreign teamId id database agent.runId)
    (own : OwnAttempt database agent.runId agent.attemptId) :
    agent ∈ (remove teamId id database).agents := by
  rw [remove_agents_table]
  exact List.mem_filter.mpr ⟨present, row_stays foreign own⟩

theorem remove_evidences {evidence : EvidenceRow} (present : evidence ∈ database.evidences)
    (foreign : Foreign teamId id database evidence.runId)
    (own : OwnAttempt database evidence.runId evidence.attemptId) :
    evidence.id ∈ (remove teamId id database).evidences.map EvidenceRow.id := by
  rw [remove_evidences_table]
  exact List.mem_map.mpr ⟨evidence, List.mem_filter.mpr ⟨present, row_stays foreign own⟩, rfl⟩

theorem mem_remove_sessions {session : SessionRow} :
    session ∈ (remove teamId id database).sessions ↔
      session ∈ database.sessions ∧ goes teamId id database session = false := by
  rw [remove_sessions_table, List.mem_filter, Bool.not_eq_true']

theorem mem_remove_artifacts {artifact : ArtifactRow} :
    artifact ∈ (remove teamId id database).artifacts ↔
      artifact ∈ database.artifacts ∧ artifact.id ∉ listed teamId id database ∧
        artifact.sessionId ∉ takenSessions teamId id database := by
  rw [remove_artifacts_table, List.mem_filter, List.mem_filter, Bool.not_eq_true', Bool.not_eq_true',
    ← Bool.not_eq_true, ← Bool.not_eq_true, List.contains_iff_mem, List.contains_iff_mem]
  constructor
  · rintro ⟨⟨present, unlisted⟩, cascaded⟩
    refine ⟨present, unlisted, fun taken => cascaded (List.mem_map.mpr ⟨artifact, ?_, rfl⟩)⟩
    rw [List.mem_filter, List.mem_filter, List.contains_iff_mem, Bool.not_eq_true',
      ← Bool.not_eq_true, List.contains_iff_mem]
    exact ⟨⟨present, unlisted⟩, taken⟩
  · rintro ⟨present, unlisted, stays⟩
    refine ⟨⟨present, unlisted⟩, fun cascaded => ?_⟩
    obtain ⟨other, member, same⟩ := List.mem_map.mp cascaded
    obtain ⟨member, taken⟩ := List.mem_filter.mp member
    obtain rfl : other = artifact := List.inj_on_of_nodup_map database.artifactKeys
      (List.mem_filter.mp member).1 present same
    exact stays (List.contains_iff_mem.mp taken)

theorem taken_session {sessionId : String}
    (taken : sessionId ∈ takenSessions teamId id database) :
    ∃ session ∈ database.sessions, session.id = sessionId ∧ session.teamId = teamId ∧
      session.id ∈ ownedSessionIds teamId id database := by
  obtain ⟨session, member, same⟩ := List.mem_map.mp taken
  obtain ⟨present, chosen⟩ := List.mem_filter.mp member
  rw [goes, Bool.and_eq_true, List.contains_iff_mem, beq_iff_eq] at chosen
  exact ⟨session, present, same, chosen.2, chosen.1⟩

theorem remove_sessions {session : SessionRow} (present : session ∈ database.sessions)
    (shared : SessionShared teamId id database session) :
    session ∈ (remove teamId id database).sessions := by
  rw [mem_remove_sessions]
  refine ⟨present, ?_⟩
  by_contra chosen
  rw [Bool.not_eq_false, goes, Bool.and_eq_true, List.contains_iff_mem] at chosen
  exact (owned_session present chosen.1).2.2.2 shared

theorem remove_artifacts {artifact : ArtifactRow} (present : artifact ∈ database.artifacts)
    (shared : ArtifactShared teamId id database artifact.id) :
    artifact ∈ (remove teamId id database).artifacts := by
  rw [mem_remove_artifacts]
  refine ⟨present, fun unlisted => ?_, fun taken => ?_⟩
  · obtain ⟨other, member, same⟩ := List.mem_map.mp unlisted
    have owned := (artifactsToDelete_owned member).2
    rw [same] at owned
    exact not_shared_of_owned owned shared
  · obtain ⟨session, here, same, _, chosen⟩ := taken_session taken
    have owned := (owned_session here chosen).2.2.1 artifact present same.symm
    exact not_shared_of_owned owned shared

theorem remove_queued {artifact : ArtifactRow} (present : artifact ∈ database.artifacts)
    (removed : artifact ∉ (remove teamId id database).artifacts) :
    artifact ∈ artifactsToDelete teamId id database := by
  by_cases unlisted : artifact.id ∈ listed teamId id database
  · obtain ⟨other, member, same⟩ := List.mem_map.mp unlisted
    obtain rfl : other = artifact := List.inj_on_of_nodup_map database.artifactKeys
      (artifactsToDelete_owned member).1 present same
    exact member
  · have taken : artifact.sessionId ∈ takenSessions teamId id database := by
      by_contra stays
      exact removed (mem_remove_artifacts.mpr ⟨present, unlisted, stays⟩)
    -- an artifact that goes with its session is one the filter finds
    obtain ⟨session, here, same, team, chosen⟩ := taken_session taken
    have owned := (owned_session here chosen).2.2.1 artifact present same.symm
    rw [same] at chosen
    refine List.mem_filter.mpr ⟨present, ?_⟩
    rw [Bool.and_eq_true, Bool.and_eq_true, Bool.or_eq_true, List.any_eq_true]
    refine ⟨⟨⟨session, here, ?_⟩, Or.inl (List.contains_iff_mem.mpr chosen)⟩, owned⟩
    rw [same, team, beq_self_eq_true, beq_self_eq_true, Bool.and_self]

theorem queueDeletions_mem {keys : List String} {key : String} (member : key ∈ keys) :
    key ∈ (database.queueDeletions keys).deletionTasks := by
  simp only [Database.queueDeletions, List.mem_append, List.mem_filter, List.mem_dedup,
    Bool.not_eq_true', ← Bool.not_eq_true, List.contains_iff_mem]
  by_cases queued : key ∈ database.deletionTasks
  · exact Or.inl queued
  · exact Or.inr ⟨member, queued⟩

theorem closed_of_released {session : SessionRow} (free : released database session = true) :
    session.status = .closed ∧ session.closureVerifiedAt.isSome = true ∧
      holds database.slots session.id = false ∧ holds database.profileLeases session.id = false ∧
      holds database.humanControlLeases session.id = false ∧
      holds database.resourceLeases session.id = false := by
  simp only [released, Bool.and_eq_true, Bool.not_eq_true', beq_iff_eq] at free
  obtain ⟨⟨⟨⟨⟨⟨⟨closed, verified⟩, _⟩, _⟩, slot⟩, profile⟩, human⟩, resource⟩ := free
  exact ⟨closed, verified, slot, profile, human, resource⟩

theorem remove_kept
    (checked : ∀ session ∈ sessionsOf teamId database (agentIds teamId id database)
      (runIds teamId id database), released database session = true) :
    Kept teamId id database (remove teamId id database) where
  runs _ present foreign := remove_runs present foreign
  agents _ present foreign own := remove_agents present foreign own
  evidences _ present foreign own := remove_evidences present foreign own
  sessions _ present shared := remove_sessions present shared
  artifacts _ present shared := remove_artifacts present shared
  closed session present removed := by
    have chosen : session.id ∈ ownedSessionIds teamId id database := by
      by_contra unchosen
      refine removed (mem_remove_sessions.mpr ⟨present, ?_⟩)
      rw [goes, Bool.and_eq_false_iff, ← Bool.not_eq_true, List.contains_iff_mem]
      exact Or.inl unchosen
    exact closed_of_released (checked session (owned_session present chosen).1)
  queued artifact present removed := by
    rw [remove_deletionTasks]
    exact queueDeletions_mem (List.mem_map_of_mem (remove_queued present removed))

theorem deleteTask_ok {after : Database} {keys : List String}
    (deleted : deleteTask teamId id database = .ok (after, keys)) :
    after = remove teamId id database ∧
      ∀ session ∈ sessionsOf teamId database (agentIds teamId id database)
        (runIds teamId id database), released database session = true := by
  rw [deleteTask] at deleted
  split at deleted
  · cases deleted
  · obtain ⟨_, _, deleted⟩ := bind_ok.mp deleted
    obtain ⟨_, _, deleted⟩ := bind_ok.mp deleted
    obtain ⟨_, _, deleted⟩ := bind_ok.mp deleted
    obtain ⟨_, checked, deleted⟩ := bind_ok.mp deleted
    rw [throwIf_ok, List.any_eq_false] at checked
    cases deleted
    refine ⟨rfl, fun session member => ?_⟩
    rw [← Bool.not_eq_false, ← Bool.not_eq_true']
    exact checked session member

/-- A deletion throws and leaves every row as it was, or it keeps what is not the task's. -/
theorem deleteTask_keeps (teamId id : String) (database : Database) :
    ((perform teamId id database).thrown ≠ none ∧ (perform teamId id database).state = database) ∨
      Kept teamId id database (perform teamId id database).state := by
  rw [perform]
  cases deleted : deleteTask teamId id database with
  | error failure => exact Or.inl ⟨nofun, rfl⟩
  | ok result =>
    obtain ⟨after, keys⟩ := result
    obtain ⟨rfl, checked⟩ := deleteTask_ok deleted
    exact Or.inr (remove_kept checked)

end Proofs

/-! Evidence of one run may name an attempt of another one. -/

def crossed : Database :=
  { tasks := [⟨"task", "team", .completed⟩]
    runs := [⟨"run", "team", some "task", .completed⟩,
      ⟨"other-run", "team", some "other", .completed⟩]
    attempts := [⟨"attempt", "run"⟩]
    evidences := [⟨"evidence", "other-run", "attempt", none⟩] }

/-- The evidence of the other task's run goes with the attempt. -/
theorem crossed_evidence_lost :
    (perform "team" "task" crossed).thrown = none ∧
      (∃ evidence ∈ crossed.evidences, Foreign "team" "task" crossed evidence.runId ∧
        (∃ run ∈ crossed.runs, run.id = evidence.runId ∧ run.taskExecutionId = some "other") ∧
        evidence.id ∉ (perform "team" "task" crossed).state.evidences.map EvidenceRow.id) := by
  refine ⟨by decide, ⟨"evidence", "other-run", "attempt", none⟩, by decide, ?_, ?_, by decide⟩
  · show "other-run" ∉ runIds "team" "task" crossed
    decide
  · exact ⟨⟨"other-run", "team", some "other", .completed⟩, by decide, rfl, rfl⟩

end TaskDeletion

end Devproof
