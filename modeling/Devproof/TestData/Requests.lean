import Mathlib.Algebra.Group.Int.Defs
import Devproof.Lib.Interleave
import Devproof.Lib.Table
import Devproof.Lib.Json

/-!
The test data of a team (`test-data.service.ts`): the published versions of test
cases, the runs that pin one of them, and what a run asks a human.  Requests run
at the same time, each as the reads and transactions it makes.
-/

namespace Devproof

namespace TestData

inductive TestProjectStatus where
  | active
  | archived
  deriving Repr, DecidableEq

inductive TestCaseStatus where
  | draft
  | active
  | archived
  deriving Repr, DecidableEq

inductive TestRunTrigger where
  | manual
  | ci
  | replay
  deriving Repr, DecidableEq

inductive TestRunCheckpointStatus where
  | pending
  | resolved
  | expired
  | cancelled
  deriving Repr, DecidableEq

structure TestProject where
  id : String
  teamId : String
  status : TestProjectStatus
  deriving Repr, DecidableEq

structure TestCase where
  id : String
  teamId : String
  projectId : String
  status : TestCaseStatus
  latestVersionNumber : Nat := 0
  deriving Repr, DecidableEq

structure TestCaseVersion where
  id : Nat
  teamId : String
  caseId : String
  version : Nat
  definition : Json
  definitionSha256 : String
  changeSummary : String
  createdByUserId : String

structure TestEnvironment where
  id : String
  teamId : String
  projectId : String
  enabled : Bool
  baseUrl : String
  name : String
  slug : String
  variableValues : Json
  secretKeys : List String

structure EnvironmentSnapshot where
  baseUrl : String
  environmentId : String
  name : String
  secretKeys : List String
  slug : String
  variableValues : Json

structure TestRun where
  id : Nat
  teamId : String
  projectId : String
  caseId : String
  caseVersionId : Nat
  environmentId : String
  requestedByUserId : String
  trigger : TestRunTrigger
  idempotencyKey : Option String
  definitionSnapshot : Json
  environmentSnapshot : EnvironmentSnapshot

structure TestRunTraceEvent where
  id : String
  runId : Nat
  teamId : String
  deriving Repr, DecidableEq

structure TestRunHumanCheckpoint where
  id : Nat
  teamId : String
  runId : Nat
  traceEventId : Option String
  stepId : String
  prompt : String
  context : Json
  expiresAt : Option Int
  status : TestRunCheckpointStatus := .pending
  response : Option Json := none
  resolvedByUserId : Option String := none
  resolvedAt : Option Int := none

structure AuditEvent where
  teamId : String
  actorUserId : String
  action : String
  entityType : String
  entityId : Nat
  deriving Repr, DecidableEq

structure TestTables where
  now : Int
  /-- The identifiers that were drawn so far. -/
  drawn : Nat
  /-- Whether the database aborts a transaction for a write conflict (`P2034`). -/
  conflicting : Bool
  projects : List TestProject
  cases : List TestCase
  environments : List TestEnvironment
  traceEvents : List TestRunTraceEvent
  versions : List TestCaseVersion := []
  runs : List TestRun := []
  checkpoints : List TestRunHumanCheckpoint := []
  audits : List AuditEvent := []

inductive Failure where
  | notFound (message : String)
  | conflict (message : String)
  | badRequest (message : String)
  /-- A unique index (`P2002`). -/
  | uniqueConstraint
  /-- A trigger of the database. -/
  | rejected (message : String)
  deriving Repr, DecidableEq

inductive Answer where
  | version (row : TestCaseVersion)
  | run (row : TestRun)
  | checkpoint (row : TestRunHumanCheckpoint)

abbrev Request := Program TestTables (Except Failure Answer)

structure AuthContext where
  teamId : String
  userId : String
  deriving Repr, DecidableEq

def refuse (failure : Failure) : Request := .answer (.error failure)

def record (current : AuthContext) (action entityType : String) (entityId : Nat)
    (rest : Request) : Request :=
  .commit (fun tables => .ok ({ tables with
      audits := tables.audits ++
        [{ teamId := current.teamId, actorUserId := current.userId, action, entityType,
           entityId }] }, ())) fun _ => rest

/-! `createCaseVersion`. -/

structure VersionInput where
  definition : Json
  changeSummary : String

def findCase (teamId caseId : String) (tables : TestTables) : Option TestCase :=
  tables.cases.find? fun row => row.id == caseId && row.teamId == teamId

def findVersion (caseId : String) (version : Nat) (tables : TestTables) :
    Option TestCaseVersion :=
  tables.versions.find? fun row => row.caseId == caseId && row.version == version

def findLatest (testCase : TestCase) (tables : TestTables) : Option TestCaseVersion :=
  if testCase.latestVersionNumber = 0 then none
  else findVersion testCase.id testCase.latestVersionNumber tables

def newVersion (current : AuthContext) (caseId : String) (input : VersionInput)
    (definitionHash : String) (nextVersion drawn : Nat) : TestCaseVersion :=
  { id := drawn
    teamId := current.teamId
    caseId
    version := nextVersion
    definition := input.definition
    definitionSha256 := definitionHash
    changeSummary := input.changeSummary
    createdByUserId := current.userId }

def claimable (current : AuthContext) (caseId : String) (latest : Nat) (row : TestCase) : Bool :=
  row.id == caseId && row.latestVersionNumber == latest && row.teamId == current.teamId

def claimed (nextVersion : Nat) (row : TestCase) : TestCase :=
  { row with latestVersionNumber := nextVersion }

/-- Claim the next number and save the version.  Without an answer nothing is saved, and the
    request tries again. -/
def publish (current : AuthContext) (caseId : String) (input : VersionInput)
    (definitionHash : String) (latest : Nat) (tables : TestTables) :
    Except Failure (TestTables × Option Nat) :=
  if tables.conflicting then .ok (tables, none)
  else if !tables.cases.any (claimable current caseId latest) then .ok (tables, none)
  else if tables.versions.any fun row => row.caseId == caseId && row.version == latest + 1 then
    .error .uniqueConstraint
  else
    .ok ({ tables with
        drawn := tables.drawn + 1
        cases := updateWhere (claimable current caseId latest) (claimed (latest + 1)) tables.cases
        versions := tables.versions ++
          [newVersion current caseId input definitionHash (latest + 1) tables.drawn] },
      some tables.drawn)

def findVersionById (id : Nat) (tables : TestTables) : Option TestCaseVersion :=
  tables.versions.find? fun row => row.id == id

def versionCreated (current : AuthContext) (id : Nat) : Request :=
  record current "test.case.version.created" "test_case_version" id <|
    .read (findVersionById id) fun found =>
      match found with
      | some row => .answer (.ok (.version row))
      | none => refuse (.notFound "No TestCaseVersion found")

section CaseVersions

-- The hash of the canonical text of a definition.
variable (sha256Json : Json → String)

def versionAttempts (current : AuthContext) (caseId : String) (input : VersionInput) :
    Nat → Request
  | 0 => refuse (.conflict "The case was updated concurrently; please retry.")
  | attempts + 1 =>
      .read (findCase current.teamId caseId) fun found =>
        match found with
        | none => refuse (.notFound "Test case was not found.")
        | some testCase =>
            if testCase.status = .archived then
              refuse (.conflict "Archived test cases cannot be versioned.")
            else
              .read (findLatest testCase) fun latest =>
                if latest.any fun row => row.definitionSha256 == sha256Json input.definition then
                  refuse (.conflict "The definition is identical to the latest case version.")
                else
                  .commit (publish current caseId input (sha256Json input.definition)
                      testCase.latestVersionNumber) fun created =>
                    match created with
                    | some id => versionCreated current id
                    | none => versionAttempts current caseId input attempts

def createCaseVersion (current : AuthContext) (caseId : String) (input : VersionInput) : Request :=
  versionAttempts sha256Json current caseId input 3

end CaseVersions

/-! `createRun`. -/

structure RunInput where
  caseId : String
  caseVersionId : Option Nat
  environmentId : String
  trigger : TestRunTrigger
  idempotencyKey : Option String
  deriving Repr, DecidableEq

def findByKey (teamId key : String) (tables : TestTables) : Option TestRun :=
  tables.runs.find? fun row => row.teamId == teamId && row.idempotencyKey == some key

def findRun (teamId : String) (runId : Nat) (tables : TestTables) : Option TestRun :=
  tables.runs.find? fun row => row.id == runId && row.teamId == teamId

def runDetail (current : AuthContext) (runId : Nat) : Request :=
  .read (findRun current.teamId runId) fun found =>
    match found with
    | some row => .answer (.ok (.run row))
    | none => refuse (.notFound "Test run was not found.")

def findCaseAndProject (teamId caseId : String) (tables : TestTables) :
    Option (TestCase × TestProject) := do
  let testCase ← findCase teamId caseId tables
  let project ← tables.projects.find? fun row => row.id == testCase.projectId
  return (testCase, project)

def selectVersion (current : AuthContext) (testCase : TestCase) (input : RunInput)
    (tables : TestTables) : Option TestCaseVersion :=
  match input.caseVersionId with
  | some id => tables.versions.find? fun row =>
      row.caseId == testCase.id && row.id == id && row.teamId == current.teamId
  | none => findVersion testCase.id testCase.latestVersionNumber tables

def selectEnvironment (current : AuthContext) (testCase : TestCase) (input : RunInput)
    (tables : TestTables) : Option TestEnvironment :=
  tables.environments.find? fun row =>
    row.enabled && row.id == input.environmentId && row.projectId == testCase.projectId &&
      row.teamId == current.teamId

def environmentSnapshot (environment : TestEnvironment) : EnvironmentSnapshot :=
  { baseUrl := environment.baseUrl
    environmentId := environment.id
    name := environment.name
    secretKeys := environment.secretKeys
    slug := environment.slug
    variableValues := environment.variableValues }

def newRun (current : AuthContext) (testCase : TestCase) (version : TestCaseVersion)
    (environment : TestEnvironment) (input : RunInput) (drawn : Nat) : TestRun :=
  { id := drawn
    teamId := current.teamId
    projectId := testCase.projectId
    caseId := testCase.id
    caseVersionId := version.id
    environmentId := environment.id
    requestedByUserId := current.userId
    trigger := input.trigger
    idempotencyKey := input.idempotencyKey
    definitionSnapshot := version.definition
    environmentSnapshot := environmentSnapshot environment }

def validateLineage (row : TestRun) (tables : TestTables) : Except Failure Unit := do
  throwIf (!tables.cases.any fun testCase => testCase.id == row.caseId &&
      testCase.projectId == row.projectId && testCase.teamId == row.teamId)
    (.rejected "test run case does not belong to its project")
  throwIf (!tables.versions.any fun version => version.id == row.caseVersionId &&
      version.caseId == row.caseId && version.teamId == row.teamId)
    (.rejected "test run version does not belong to its case")
  throwIf (!tables.environments.any fun environment => environment.id == row.environmentId &&
      environment.projectId == row.projectId && environment.teamId == row.teamId)
    (.rejected "test run environment does not belong to its project")

def insertRun (row : Nat → TestRun) (tables : TestTables) :
    Except Failure (TestTables × Option Nat) := do
  validateLineage (row tables.drawn) tables
  if (row tables.drawn).idempotencyKey.isSome && tables.runs.any fun other =>
      other.teamId == (row tables.drawn).teamId &&
        other.idempotencyKey == (row tables.drawn).idempotencyKey then
    return (tables, none)
  return ({ tables with
    drawn := tables.drawn + 1, runs := tables.runs ++ [row tables.drawn] }, some tables.drawn)

def alreadyRun (current : AuthContext) (key : Option String) : Request :=
  match key with
  | none => refuse .uniqueConstraint
  | some key =>
      .read (findByKey current.teamId key) fun found =>
        match found with
        | some row => runDetail current row.id
        | none => refuse .uniqueConstraint

def createNewRun (current : AuthContext) (input : RunInput) : Request :=
  .read (findCaseAndProject current.teamId input.caseId) fun found =>
    match found with
    | none => refuse (.notFound "Test case was not found.")
    | some (testCase, project) =>
        if testCase.status = .archived ∨ project.status = .archived then
          refuse (.conflict "Archived projects or cases cannot be run.")
        else if testCase.latestVersionNumber = 0 then
          refuse (.conflict "The test case has no published version.")
        else
          .read (selectVersion current testCase input) fun version =>
            match version with
            | none => refuse (.badRequest "The selected case version is invalid.")
            | some version =>
                .read (selectEnvironment current testCase input) fun environment =>
                  match environment with
                  | none => refuse (.badRequest "The selected environment is unavailable.")
                  | some environment =>
                      .commit (insertRun (newRun current testCase version environment input))
                        fun created =>
                          match created with
                          | none => alreadyRun current input.idempotencyKey
                          | some id =>
                              record current "test.run.queued" "test_run" id (runDetail current id)

def createRun (current : AuthContext) (input : RunInput) : Request :=
  match input.idempotencyKey with
  | none => createNewRun current input
  | some key =>
      .read (findByKey current.teamId key) fun found =>
        match found with
        | some row => runDetail current row.id
        | none => createNewRun current input

/-! `createCheckpoint` and `resolveCheckpoint`. -/

structure CheckpointInput where
  traceEventId : Option String
  stepId : String
  prompt : String
  context : Json
  expiresAt : Option Int

def newCheckpoint (teamId : String) (runId : Nat) (input : CheckpointInput) (drawn : Nat) :
    TestRunHumanCheckpoint :=
  { id := drawn
    teamId
    runId
    traceEventId := input.traceEventId
    stepId := input.stepId
    prompt := input.prompt
    context := input.context
    expiresAt := input.expiresAt }

def insertCheckpoint (row : Nat → TestRunHumanCheckpoint) : Request :=
  .commit (fun tables => .ok ({ tables with
      drawn := tables.drawn + 1
      checkpoints := tables.checkpoints ++ [row tables.drawn] }, tables.drawn)) fun id =>
    .answer (.ok (.checkpoint (row id)))

def createCheckpoint (teamId : String) (runId : Nat) (input : CheckpointInput) : Request :=
  .read (findRun teamId runId) fun found =>
    if found.isNone then refuse (.notFound "Test run was not found.")
    else
      match input.traceEventId with
      | none => insertCheckpoint (newCheckpoint teamId runId input)
      | some traceEventId =>
          .read (fun tables => tables.traceEvents.contains ⟨traceEventId, runId, teamId⟩)
            fun owned =>
              if owned then insertCheckpoint (newCheckpoint teamId runId input)
              else refuse (.badRequest "Trace event does not belong to this run.")

def findCheckpoint (teamId : String) (runId checkpointId : Nat) (tables : TestTables) :
    Option TestRunHumanCheckpoint :=
  tables.checkpoints.find? fun row =>
    row.id == checkpointId && row.runId == runId && row.teamId == teamId

def expired (row : TestRunHumanCheckpoint) : TestRunHumanCheckpoint :=
  { row with status := .expired }

def resolved (userId : String) (response : Json) (resolvedAt : Int)
    (row : TestRunHumanCheckpoint) : TestRunHumanCheckpoint :=
  { row with
    resolvedAt := some resolvedAt
    resolvedByUserId := some userId
    response := some response
    status := .resolved }

def resolvable (current : AuthContext) (checkpointId : Nat) (row : TestRunHumanCheckpoint) :
    Bool :=
  row.id == checkpointId && row.status == .pending && row.teamId == current.teamId

def expire (checkpointId : Nat) (tables : TestTables) : TestTables :=
  { tables with
    checkpoints := updateWhere (fun row => row.id == checkpointId && row.status == .pending)
      expired tables.checkpoints }

def resolve (current : AuthContext) (checkpointId : Nat) (response : Json) (resolvedAt : Int)
    (tables : TestTables) : TestTables × Bool :=
  ({ tables with
      checkpoints := updateWhere (resolvable current checkpointId)
        (resolved current.userId response resolvedAt) tables.checkpoints },
    tables.checkpoints.any (resolvable current checkpointId))

def findCheckpointById (id : Nat) (tables : TestTables) : Option TestRunHumanCheckpoint :=
  tables.checkpoints.find? fun row => row.id == id

def resolveCheckpoint (current : AuthContext) (runId checkpointId : Nat) (response : Json) :
    Request :=
  .read (fun tables => (findCheckpoint current.teamId runId checkpointId tables, tables.now))
    fun (found, now) =>
      match found with
      | none => refuse (.notFound "Human checkpoint was not found.")
      | some checkpoint =>
          if checkpoint.status ≠ .pending then
            refuse (.conflict "Human checkpoint is no longer pending.")
          else if checkpoint.expiresAt.any fun expiresAt => expiresAt ≤ now then
            .commit (fun tables => .ok (expire checkpointId tables, ())) fun _ =>
              refuse (.conflict "Human checkpoint has expired.")
          else
            .read TestTables.now fun resolvedAt =>
              .commit (fun tables => .ok (resolve current checkpointId response resolvedAt tables))
                fun updated =>
                  if !updated then refuse (.conflict "Human checkpoint was resolved concurrently.")
                  else
                    record current "test.run.checkpoint.resolved" "test_run_human_checkpoint"
                      checkpointId <|
                      .read (findCheckpointById checkpointId) fun found =>
                        match found with
                        | some row => .answer (.ok (.checkpoint row))
                        | none => refuse (.notFound "No TestRunHumanCheckpoint found")

inductive Call where
  | createCaseVersion (current : AuthContext) (caseId : String) (input : VersionInput)
  | createRun (current : AuthContext) (input : RunInput)
  | createCheckpoint (teamId : String) (runId : Nat) (input : CheckpointInput)
  | resolveCheckpoint (current : AuthContext) (runId checkpointId : Nat) (response : Json)

def serve (sha256Json : Json → String) : Call → Request
  | .createCaseVersion current caseId input => createCaseVersion sha256Json current caseId input
  | .createRun current input => createRun current input
  | .createCheckpoint teamId runId input => createCheckpoint teamId runId input
  | .resolveCheckpoint current runId checkpointId response =>
      resolveCheckpoint current runId checkpointId response

inductive Change where
  /-- A clock may also be behind another. -/
  | clock (now : Int) (conflicting : Bool)
  | surroundings (projects : List TestProject) (environments : List TestEnvironment)
      (traceEvents : List TestRunTraceEvent)
  | createCase (id teamId projectId : String) (status : TestCaseStatus)
  | updateCase (id teamId : String) (status : TestCaseStatus)

def changed (change : Change) (tables : TestTables) : TestTables :=
  match change with
  | .clock now conflicting => { tables with now, conflicting }
  | .surroundings projects environments traceEvents =>
      { tables with projects, environments, traceEvents }
  | .createCase id teamId projectId status =>
      if tables.cases.any fun row => row.id == id then tables
      else { tables with cases := tables.cases ++ [{ id, teamId, projectId, status }] }
  | .updateCase id teamId status =>
      { tables with
        cases := updateWhere (fun row => row.id == id && row.teamId == teamId)
          (fun row => { row with status }) tables.cases }

end TestData

end Devproof
