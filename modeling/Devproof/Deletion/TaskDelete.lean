import Devproof.Acceptance.Report
import Devproof.AgentRuntime.Rows
import Devproof.Lib.Machine
import Devproof.Scheduling.CaseProgress

/-!
Deleting a finished task with the traces it owns (`task-delete.ts`).  Rows vanish by
the deletes of one transaction and by the cascades of the foreign keys.
-/

namespace Devproof

namespace TaskDeletion

/-! Rows, with the columns that the deletion reads. -/

structure TaskRow where
  id : String
  teamId : String
  lifecycle : Acceptance.TaskLifecycle
  deriving Repr, DecidableEq

inductive StageAttemptStatus where
  | pending
  | running
  | succeeded
  | failed
  | cancelled
  | timedOut
  deriving Repr, DecidableEq

structure StageRow where
  id : String
  taskExecutionId : String
  status : Acceptance.StageStatus
  attempts : List StageAttemptStatus
  deriving Repr, DecidableEq

structure CaseRow where
  id : String
  taskExecutionId : String
  runId : Option String
  dispatchStatus : DispatchStatus
  deriving Repr, DecidableEq

structure RunRow where
  id : String
  teamId : String
  taskExecutionId : Option String
  lifecycle : RunLifecycle
  deriving Repr, DecidableEq

structure AttemptRow where
  id : String
  runId : String
  deriving Repr, DecidableEq

structure AgentRow where
  id : String
  runId : String
  attemptId : String
  status : TaskStatus
  deriving Repr, DecidableEq

structure EvidenceRow where
  id : String
  runId : String
  attemptId : String
  runtimeArtifactId : Option String
  deriving Repr, DecidableEq

structure BrowserRow where
  id : String
  runId : String
  attemptId : String
  runtimeSessionId : Option String
  deriving Repr, DecidableEq

structure SessionRow where
  id : String
  teamId : String
  ownerTaskId : Option String
  status : SessionStatus
  closureVerifiedAt : Option Int
  closureEvidenceId : Option String
  identityPermit : Option Nat
  deriving Repr, DecidableEq

structure ArtifactRow where
  id : String
  sessionId : String
  storageKey : String
  deriving Repr, DecidableEq

structure LegacyRow where
  id : String
  reference : Option String
  deriving Repr, DecidableEq

structure OwnedRow where
  id : String
  owner : String
  deriving Repr, DecidableEq

structure RecoveryRow where
  id : String
  sessionId : String
  teamId : String
  deriving Repr, DecidableEq

structure UsageRow where
  id : String
  teamId : String
  taskExecutionId : Option String
  executionRunId : Option String
  deriving Repr, DecidableEq

structure EventRow where
  id : String
  teamId : String
  taskExecutionId : Option String
  inputs : Option String
  deriving Repr, DecidableEq

structure Database where
  tasks : List TaskRow := []
  stages : List StageRow := []
  cases : List CaseRow := []
  runs : List RunRow := []
  attempts : List AttemptRow := []
  agents : List AgentRow := []
  evidences : List EvidenceRow := []
  browsers : List BrowserRow := []
  sessions : List SessionRow := []
  artifacts : List ArtifactRow := []
  testRuns : List LegacyRow := []
  verificationRuns : List LegacyRow := []
  testRunArtifacts : List LegacyRow := []
  verificationArtifacts : List LegacyRow := []
  slots : List OwnedRow := []
  profileLeases : List OwnedRow := []
  humanControlLeases : List OwnedRow := []
  resourceLeases : List OwnedRow := []
  /-- The storage keys of the object-storage deletion outbox. -/
  deletionTasks : List String := []
  recoveries : List RecoveryRow := []
  recoveryOutbox : List OwnedRow := []
  closureEvidence : List OwnedRow := []
  usages : List UsageRow := []
  events : List EventRow := []
  snapshots : List OwnedRow := []
  agentKeys : (agents.map AgentRow.id).Nodup := by decide
  sessionKeys : (sessions.map SessionRow.id).Nodup := by decide
  artifactKeys : (artifacts.map ArtifactRow.id).Nodup := by decide

inductive DeleteFailure where
  | notFound (message : String)
  | conflict (message : String)
  deriving Repr, DecidableEq

def finishedTask (lifecycle : Acceptance.TaskLifecycle) : Bool :=
  [.completed, .cancelled, .timedOut].contains lifecycle

def finishedRun (lifecycle : RunLifecycle) : Bool :=
  [.completed, .cancelled, .timedOut].contains lifecycle

def among (reference : Option String) (ids : List String) : Bool :=
  reference.any ids.contains

def holds (rows : List OwnedRow) (id : String) : Bool :=
  rows.any fun row => row.owner == id

def refersTo (rows : List LegacyRow) (id : String) : Bool :=
  rows.any fun row => row.reference == some id

section Reads

variable (teamId id : String) (database : Database)

def executionRuns : List RunRow :=
  database.runs.filter fun run =>
    run.teamId == teamId &&
      (run.taskExecutionId == some id ||
        database.cases.any fun item =>
          item.taskExecutionId == id && item.runId == some run.id)

def runIds : List String :=
  (executionRuns teamId id database).map RunRow.id

def tasksOf (runIds : List String) : List AgentRow :=
  database.agents.filter fun agent => runIds.contains agent.runId

def agentIds : List String :=
  (tasksOf database (runIds teamId id database)).map AgentRow.id

def busy : Bool :=
  (executionRuns teamId id database).any (fun run => !finishedRun run.lifecycle) ||
    (tasksOf database (runIds teamId id database)).any (fun agent =>
      [TaskStatus.pending, .running, .waitingHuman].contains agent.status) ||
    (database.stages.filter fun stage => stage.taskExecutionId == id).any (fun stage =>
      stage.status == .running || stage.attempts.any [.pending, .running].contains) ||
    (database.cases.filter fun item => item.taskExecutionId == id).any fun item =>
      item.dispatchStatus == .dispatching

def evidenced (runIds : List String) (artifactId : String) : Bool :=
  database.evidences.any fun evidence =>
    evidence.runtimeArtifactId == some artifactId && runIds.contains evidence.runId

def onlyEvidenced (runIds : List String) (artifactId : String) : Bool :=
  database.evidences.all fun evidence =>
    evidence.runtimeArtifactId != some artifactId || runIds.contains evidence.runId

def artifactOwned (runIds : List String) (artifactId : String) : Bool :=
  !refersTo database.testRunArtifacts artifactId &&
    !refersTo database.verificationArtifacts artifactId && onlyEvidenced database runIds artifactId

def sessionsOf (agentIds runIds : List String) : List SessionRow :=
  database.sessions.filter fun session =>
    session.teamId == teamId &&
      (among session.ownerTaskId agentIds ||
        database.browsers.any (fun browser =>
          browser.runtimeSessionId == some session.id && runIds.contains browser.runId) ||
        database.artifacts.any fun artifact =>
          artifact.sessionId == session.id && evidenced database runIds artifact.id)

def released (session : SessionRow) : Bool :=
  session.status == .closed && session.closureVerifiedAt.isSome &&
    session.closureEvidenceId.any (· != "") && session.identityPermit.isNone &&
    !holds database.slots session.id && !holds database.profileLeases session.id &&
    !holds database.humanControlLeases session.id && !holds database.resourceLeases session.id

def ownedSessions (sessionIds agentIds runIds : List String) : List SessionRow :=
  database.sessions.filter fun session =>
    sessionIds.contains session.id && session.teamId == teamId &&
      (session.ownerTaskId.isNone || among session.ownerTaskId agentIds) &&
      database.browsers.all (fun browser =>
        browser.runtimeSessionId != some session.id || runIds.contains browser.runId) &&
      !refersTo database.testRuns session.id && !refersTo database.verificationRuns session.id &&
      database.artifacts.all fun artifact =>
        artifact.sessionId != session.id || artifactOwned database runIds artifact.id

def deletedArtifacts (ownedSessionIds runIds : List String) : List ArtifactRow :=
  database.artifacts.filter fun artifact =>
    database.sessions.any (fun session =>
        session.id == artifact.sessionId && session.teamId == teamId) &&
      (ownedSessionIds.contains artifact.sessionId || evidenced database runIds artifact.id) &&
      artifactOwned database runIds artifact.id

end Reads

def setNull (gone : List String) (reference : Option String) : Option String :=
  if among reference gone then none else reference

def unrefer (gone : List String) (rows : List LegacyRow) : List LegacyRow :=
  rows.map fun row => { row with reference := setNull gone row.reference }

namespace Database

def queueDeletions (storageKeys : List String) (database : Database) : Database :=
  { database with
    deletionTasks :=
      database.deletionTasks ++
        storageKeys.dedup.filter fun key => !database.deletionTasks.contains key }

def deleteArtifacts (gone : List String) (database : Database) : Database :=
  { database with
    artifacts := database.artifacts.filter fun artifact => !gone.contains artifact.id
    artifactKeys := database.artifactKeys.sublist (List.filter_sublist.map _)
    testRunArtifacts := unrefer gone database.testRunArtifacts
    verificationArtifacts := unrefer gone database.verificationArtifacts
    evidences := database.evidences.map fun evidence =>
      { evidence with runtimeArtifactId := setNull gone evidence.runtimeArtifactId } }

def deleteRecoveries (teamId : String) (sessionIds : List String) (database : Database) :
    Database :=
  let gone := (database.recoveries.filter fun recovery =>
    sessionIds.contains recovery.sessionId && recovery.teamId == teamId).map RecoveryRow.id
  { database with
    recoveryOutbox := database.recoveryOutbox.filter fun row => !gone.contains row.owner
    closureEvidence := database.closureEvidence.filter fun row => !sessionIds.contains row.owner
    recoveries := database.recoveries.filter fun recovery => !gone.contains recovery.id }

def deleteSessions (teamId : String) (ids : List String) (database : Database) : Database :=
  let deleted := fun session : SessionRow => ids.contains session.id && session.teamId == teamId
  let gone := (database.sessions.filter deleted).map SessionRow.id
  let cascaded := database.deleteArtifacts
    ((database.artifacts.filter fun artifact => gone.contains artifact.sessionId).map
      ArtifactRow.id)
  { cascaded with
    sessions := database.sessions.filter fun session => !deleted session
    sessionKeys := database.sessionKeys.sublist (List.filter_sublist.map _)
    agentKeys := database.agentKeys
    slots := database.slots.filter fun row => !gone.contains row.owner
    profileLeases := database.profileLeases.filter fun row => !gone.contains row.owner
    humanControlLeases := database.humanControlLeases.filter fun row => !gone.contains row.owner
    browsers := database.browsers.map fun browser =>
      { browser with runtimeSessionId := setNull gone browser.runtimeSessionId }
    testRuns := unrefer gone database.testRuns
    verificationRuns := unrefer gone database.verificationRuns }

def deleteUsages (teamId id : String) (runIds : List String) (database : Database) : Database :=
  { database with
    usages := database.usages.filter fun usage =>
      !(usage.teamId == teamId &&
        (usage.taskExecutionId == some id || among usage.executionRunId runIds)) }

def clearEvents (teamId id : String) (database : Database) : Database :=
  { database with
    events := database.events.map fun event =>
      if event.taskExecutionId == some id && event.teamId == teamId then
        { event with taskExecutionId := none, inputs := none }
      else event }

def deleteRuns (teamId : String) (ids : List String) (database : Database) : Database :=
  let deleted := fun run : RunRow => ids.contains run.id && run.teamId == teamId
  let gone := (database.runs.filter deleted).map RunRow.id
  let goneAttempts := (database.attempts.filter fun attempt =>
    gone.contains attempt.runId).map AttemptRow.id
  let stays := fun runId attemptId => !(gone.contains runId || goneAttempts.contains attemptId)
  { database with
    runs := database.runs.filter fun run => !deleted run
    attempts := database.attempts.filter fun attempt => !gone.contains attempt.runId
    agents := database.agents.filter fun agent => stays agent.runId agent.attemptId
    agentKeys := database.agentKeys.sublist (List.filter_sublist.map _)
    evidences := database.evidences.filter fun evidence => stays evidence.runId evidence.attemptId
    browsers := database.browsers.filter fun browser => stays browser.runId browser.attemptId
    cases := database.cases.map fun item => { item with runId := setNull gone item.runId }
    usages := database.usages.map fun usage =>
      { usage with executionRunId := setNull gone usage.executionRunId } }

def deleteTaskRow (teamId id : String) (database : Database) : Database :=
  { database with
    tasks := database.tasks.filter fun task => !(task.id == id && task.teamId == teamId)
    stages := database.stages.filter fun stage => stage.taskExecutionId != id
    cases := database.cases.filter fun item => item.taskExecutionId != id
    snapshots := database.snapshots.filter fun row => row.owner != id
    runs := database.runs.map fun run =>
      { run with taskExecutionId := setNull [id] run.taskExecutionId }
    usages := database.usages.map fun usage =>
      { usage with taskExecutionId := setNull [id] usage.taskExecutionId }
    events := database.events.map fun event =>
      { event with taskExecutionId := setNull [id] event.taskExecutionId } }

end Database

section Delete

variable (teamId id : String) (database : Database)

def ownedSessionIds : List String :=
  let runIds := runIds teamId id database
  let agentIds := agentIds teamId id database
  let sessionIds := (sessionsOf teamId database agentIds runIds).map SessionRow.id
  (ownedSessions teamId database sessionIds agentIds runIds).map SessionRow.id

def artifactsToDelete : List ArtifactRow :=
  deletedArtifacts teamId database (ownedSessionIds teamId id database) (runIds teamId id database)

def remove : Database :=
  let runIds := runIds teamId id database
  let sessionIds := ownedSessionIds teamId id database
  let artifacts := artifactsToDelete teamId id database
  ((((((database.queueDeletions (artifacts.map ArtifactRow.storageKey)).deleteArtifacts
    (artifacts.map ArtifactRow.id)).deleteRecoveries teamId sessionIds).deleteSessions teamId
      sessionIds).deleteUsages teamId id runIds).clearEvents teamId id).deleteRuns teamId runIds
        |>.deleteTaskRow teamId id

def deleteTask : Except DeleteFailure (Database × List String) := do
  match database.tasks.find? fun task => task.id == id && task.teamId == teamId with
  | none => throw (.notFound "任务不存在或已删除。")
  | some task => do
      let runs := executionRuns teamId id database
      throwIf (runs.any fun run => run.taskExecutionId.any (· != id))
        (.conflict "任务引用了其他任务的执行记录，请先修复关联后再删除。")
      throwIf (!finishedTask task.lifecycle)
        (.conflict "任务尚未结束，运行中或等待人工处理的任务不能删除。请先取消任务并等待执行结束。")
      throwIf (busy teamId id database)
        (.conflict "子执行仍在运行或收尾，请等待结束后再删除。")
      let sessions := sessionsOf teamId database (agentIds teamId id database)
        (runIds teamId id database)
      throwIf (sessions.any fun session => !released database session)
        (.conflict "浏览器尚未完成关闭或资源回收，请先在执行详情中完成会话恢复，再删除任务。")
      return (remove teamId id database,
        (artifactsToDelete teamId id database).map ArtifactRow.storageKey)

def perform : Outcome Database DeleteFailure :=
  match deleteTask teamId id database with
  | .ok (after, _) => .done after
  | .error failure => .failed database failure

end Delete

end TaskDeletion

end Devproof
