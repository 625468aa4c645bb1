import Devproof.Accounts.Plans
import Devproof.Lib.Interleave
import Devproof.Lib.Tally
import Devproof.Scheduling.CaseProgress

/-!
The three writers of a task's account plans (`task-test-accounts.ts`), over the
rows of that task.
-/

namespace Devproof

namespace TestAccounts

open Acceptance (TaskLifecycle)

structure Deployment where
  id : String
  name : String
  targetUrl : String
  enabled : Bool
  deriving Repr, DecidableEq

structure TestCase where
  name : String
  snapshotId : String
  definition : Json

structure AccountScheduling where
  state : CaseSchedulingState
  reason : Option String
  waitingSince : Option Int
  evaluatedAt : Int
  /-- The type of the resource the case waits for. -/
  blockedBy : Option String
  deriving Repr, DecidableEq

structure ExecutionPolicy where
  testAccounts : Option (List TestAccountBinding)
  deriving Repr, DecidableEq

structure TaskCaseExecution where
  id : String
  caseId : String
  deployment : Deployment
  testCase : TestCase
  executionOrdinal : Nat
  run : Option ExecutionPolicy
  dispatchStatus : DispatchStatus
  dispatchAttempts : Nat
  scheduling : Option AccountScheduling
  testAccountPlan : Option TestAccountPlan
  updatedAt : Int

structure HitlPolicy where
  enabled : Bool
  timeoutSeconds : Nat
  deriving Repr, DecidableEq

structure TaskExecution where
  id : String
  teamId : String
  cancelRequestedAt : Option Int
  lifecycle : TaskLifecycle
  /-- The latest of `specificationSnapshots`. -/
  snapshotId : Option String
  /-- From `inputSnapshot`. -/
  hitl : HitlPolicy
  deadlineSeconds : Nat
  deadlineAt : Int
  projectionNeededAt : Option Int
  deriving Repr, DecidableEq

structure AccountsAssigned where
  submissionId : String
  digest : String
  caseExecutionIds : List String
  assignmentCount : Nat
  deriving Repr, DecidableEq

structure TaskTables where
  now : Int
  task : TaskExecution
  caseExecutions : List TaskCaseExecution
  events : List AccountsAssigned

def terminal : TaskLifecycle → Bool
  | .completed | .cancelled | .timedOut => true
  | _ => false

def updateMany (allowed : TaskCaseExecution → Bool)
    (write : TaskCaseExecution → TaskCaseExecution) (tables : TaskTables) : TaskTables × Nat :=
  ({ tables with
      caseExecutions := tables.caseExecutions.map fun row =>
        if allowed row then { write row with updatedAt := tables.now } else row },
    tables.caseExecutions.countP allowed)

section Writers

variable (host : Host) (definitions : Definitions)

/-! `prepareTestAccountPlans`. -/

def unprepared (tables : TaskTables) : List TaskCaseExecution :=
  (tables.caseExecutions.filter fun row =>
    row.run.isNone && row.testAccountPlan.isNone && row.dispatchStatus == .pending &&
      tables.task.cancelRequestedAt.isNone && !terminal tables.task.lifecycle).take 500

def previousExecution (row : TaskCaseExecution) (tables : TaskTables) :
    Option TaskCaseExecution :=
  (sortDescending (fun other : TaskCaseExecution => (other.executionOrdinal : Int))
    (tables.caseExecutions.filter fun other =>
      other.caseId == row.caseId && other.deployment.id == row.deployment.id &&
        other.executionOrdinal < row.executionOrdinal)).head?

def retainedBinding (plan : TestAccountPlan) (previousPlan : Option TestAccountPlan)
    (bindings : List TestAccountBinding) (slot : AccountSlot) : Option TestAccountBinding := do
  let previousPlan ← previousPlan
  let oldRequirement ← previousPlan.requirements.items.find? fun item => item.role == slot.role
  let newRequirement ← plan.requirements.items.find? fun item => item.role == slot.role
  if definitions.requirementHash oldRequirement != definitions.requirementHash newRequirement then
    none
  else
    bindings.find? fun binding =>
      binding.slotId == slot.slotId && binding.usage == slot.usage &&
        definitions.typesHash binding.requiredTypes == definitions.typesHash slot.requiredTypes

def retainedBindings (plan : TestAccountPlan) (previousPlan : Option TestAccountPlan)
    (bindings : List TestAccountBinding) : List TestAccountBinding :=
  (testAccountSlots plan.requirements.items).filterMap
    (retainedBinding definitions plan previousPlan bindings)

def planAfter (row previous : TaskCaseExecution) (plan : TestAccountPlan) :
    Except Failure TestAccountPlan := do
  let previousPlan ← previous.testAccountPlan.mapM (readAccountPlan host)
  let plan ←
    match previousPlan.filter fun old => old.resolution.isSome with
    | some old => do
        resolveCaseExecutionDefinition host definitions row.testCase.definition old
        pure { old with
          revision := plan.revision
          requestedAt := plan.requestedAt
          expiresAt := plan.expiresAt
          bindings := [] }
    | none => pure plan
  let bindings ← parseBindings host <|
    ((previous.run.bind ExecutionPolicy.testAccounts).or
      (previousPlan.map TestAccountPlan.bindings)).getD []
  return { plan with bindings := retainedBindings definitions plan previousPlan bindings }

def prepared (hitl : HitlPolicy) (now : Int) (plan : TestAccountPlan) (row : TaskCaseExecution) :
    TaskCaseExecution :=
  if (missingAccountSlots plan).isEmpty then { row with testAccountPlan := some plan }
  else
    { row with
      testAccountPlan := some plan
      dispatchStatus := if hitl.enabled then row.dispatchStatus else .failed
      dispatchAttempts := if hitl.enabled then row.dispatchAttempts else 3
      scheduling := some {
        state := if hitl.enabled then .waiting else .terminal
        reason := some <|
          if hitl.enabled then "TEST_ACCOUNTS_REQUIRED" else "TEST_ACCOUNTS_HITL_DISABLED"
        waitingSince := some now
        evaluatedAt := now
        blockedBy := some "TEST_ACCOUNT" } }

def prepareRow (row : TaskCaseExecution) (hitl : HitlPolicy) (now : Int) (plan : TestAccountPlan)
    (tables : TaskTables) : Except Failure (TaskTables × Unit) := do
  let plan ←
    match previousExecution row tables with
    | some previous => planAfter host definitions row previous plan
    | none => pure plan
  let unwritten (other : TaskCaseExecution) : Bool :=
    other.id == row.id && other.run.isNone && other.dispatchStatus == .pending &&
      other.updatedAt == row.updatedAt && other.testAccountPlan.isNone
  return ((updateMany unwritten (prepared hitl now plan) tables).1, ())

def prepareRows (hitl : HitlPolicy) (revision : String → String) :
    List TaskCaseExecution → Program TaskTables (Except Failure Unit)
  | [] => .answer (.ok ())
  | row :: rest =>
      .read TaskTables.now fun now =>
        .check (unassignedTestAccountPlan host definitions row.testCase.definition
            hitl.timeoutSeconds now (revision row.id) none) fun plan =>
          .commit (prepareRow host definitions row hitl now plan) fun _ =>
            prepareRows hitl revision rest

def prepareTestAccountPlans (revision : String → String) :
    Program TaskTables (Except Failure Unit) :=
  .read (fun tables => (tables.task.hitl, unprepared tables)) fun (hitl, rows) =>
    prepareRows host definitions hitl revision rows

/-! `expireTestAccountPlans`. -/

def waitingForAccounts (tables : TaskTables) : List TaskCaseExecution :=
  (tables.caseExecutions.filter fun row =>
    row.run.isNone && row.dispatchStatus == .pending && row.testAccountPlan.isSome &&
      (row.scheduling.bind AccountScheduling.reason) == some "TEST_ACCOUNTS_REQUIRED").take 500

def expired (plan : TestAccountPlan) (now : Int) : Bool :=
  plan.expiresAt.any fun expiresAt => expiresAt ≤ now

def timedOut (now : Int) (row : TaskCaseExecution) : TaskCaseExecution :=
  { row with
    dispatchStatus := .failed
    dispatchAttempts := 3
    scheduling := some {
      state := .terminal
      reason := some "TEST_ACCOUNTS_TIMEOUT"
      waitingSince := none
      evaluatedAt := now
      blockedBy := none } }

def expireRow (row : TaskCaseExecution) (now : Int) (tables : TaskTables) : TaskTables :=
  (updateMany (fun other =>
    other.id == row.id && other.run.isNone && other.dispatchStatus == .pending &&
      other.updatedAt == row.updatedAt) (timedOut now) tables).1

def expireRows (now : Int) : List TaskCaseExecution → Program TaskTables (Except Failure Unit)
  | [] => .answer (.ok ())
  | row :: rest =>
      match row.testAccountPlan with
      | none => expireRows now rest
      | some plan =>
          .check (readAccountPlan host plan) fun plan =>
            if expired plan now && !(missingAccountSlots plan).isEmpty then
              .commit (fun tables => .ok (expireRow row now tables, ())) fun _ =>
                expireRows now rest
            else expireRows now rest

def expireTestAccountPlans : Program TaskTables (Except Failure Unit) :=
  .read TaskTables.now fun now =>
    .read waitingForAccounts fun rows => expireRows host now rows

/-! `taskAccountPreparation`. -/

structure AssignedSlot extends AccountSlot where
  account : Option String

structure PreparedCase where
  caseExecutionId : String
  caseName : String
  deployment : Deployment
  revision : String
  started : Bool
  slots : List AssignedSlot

structure TaskAccountPreparation where
  revision : String
  missingCount : Nat
  totalCount : Nat
  cases : List PreparedCase

def accountOf (bindings : List TestAccountBinding) (slotId : String) : Option String :=
  (bindings.find? fun binding => binding.slotId == slotId).map TestAccountBinding.account

def latestExecutions (snapshotId : Option String) (rows : List TaskCaseExecution) :
    List TaskCaseExecution :=
  (rows.filter fun row =>
      row.deployment.enabled && snapshotId.all fun id => row.testCase.snapshotId == id).filter
    fun row => !rows.any fun other =>
      other.caseId == row.caseId && other.deployment.id == row.deployment.id &&
        row.executionOrdinal < other.executionOrdinal

def preparedCase (row : TaskCaseExecution) : Except Failure (Option PreparedCase) :=
  match row.testAccountPlan with
  | none => return none
  | some plan => do
      let plan ← readAccountPlan host plan
      resolveCaseExecutionDefinition host definitions row.testCase.definition plan
      let bindings ←
        match row.run.bind ExecutionPolicy.testAccounts with
        | none => pure plan.bindings
        | some testAccounts => parseBindings host testAccounts
      return some {
        caseExecutionId := row.id
        caseName := row.testCase.name
        deployment := row.deployment
        revision := plan.revision
        started :=
          row.run.isSome || row.dispatchStatus == .cancelled || row.dispatchStatus == .failed
        slots := (testAccountSlots plan.requirements.items).map fun slot =>
          { slot with account := accountOf bindings slot.slotId } }

def sortText (prepared : PreparedCase) : String :=
  ",".intercalate [prepared.caseExecutionId, prepared.revision, prepared.deployment.targetUrl]

/-- The digest of what the assignment form shows; the ids, which differ, are plain ASCII. -/
def preparationRevision (cases : List PreparedCase) : String :=
  let sorted := cases.mergeSort fun left right => !decide (sortText right < sortText left)
  host.sha256 <| host.stringify <| .arr <| sorted.map fun prepared =>
    .arr [.str prepared.caseExecutionId, .str prepared.revision,
      .str prepared.deployment.targetUrl]

def taskAccountPreparation (rows : List TaskCaseExecution) (snapshotId : Option String) :
    Except Failure TaskAccountPreparation := do
  let found ← (latestExecutions snapshotId rows).mapM (preparedCase host definitions)
  let cases := found.reduceOption
  return {
    revision := preparationRevision host cases
    missingCount := (cases.map fun prepared =>
      if prepared.started then 0 else prepared.slots.countP fun slot => slot.account.isNone).sum
    totalCount := (cases.map fun prepared => prepared.slots.length).sum
    cases }

/-! `provideTaskTestAccounts`. -/

structure Assignment where
  caseExecutionId : String
  slotId : String
  account : String
  deriving Repr, DecidableEq

structure TaskTestAccountsInput where
  submissionId : String
  expectedRevision : String
  assignments : List Assignment
  deriving Repr, DecidableEq

def assignmentsDigest (assignments : List Assignment) : String :=
  host.sha256 <| host.stringify <| .arr <| assignments.map fun assignment =>
    .obj [("caseExecutionId", .str assignment.caseExecutionId),
      ("slotId", .str assignment.slotId), ("account", .str assignment.account)]

structure Updates where
  plans : List (String × TestAccountPlan)
  seen : List String

def assignmentKey (assignment : Assignment) : String :=
  assignment.caseExecutionId ++ ":" ++ assignment.slotId

def bind (slot : AssignedSlot) (account : String) (plan : TestAccountPlan) : TestAccountPlan :=
  { plan with
    bindings := plan.bindings.filter (fun binding => binding.slotId != slot.slotId) ++
      [{ slotId := slot.slotId, label := some slot.label, account, aliases := []
         usage := slot.usage, requiredTypes := slot.requiredTypes }] }

def assign (tables : TaskTables) (cases : List PreparedCase) (updates : Updates)
    (assignment : Assignment) : Except Failure Updates := do
  throwIf (updates.seen.contains (assignmentKey assignment))
    (.badRequest "同一账号角色不能重复提交。")
  let updates := { updates with seen := updates.seen ++ [assignmentKey assignment] }
  match cases.find? fun prepared => prepared.caseExecutionId == assignment.caseExecutionId,
      tables.caseExecutions.find? fun row => row.id == assignment.caseExecutionId with
  | some current, some row =>
      match current.slots.find? fun slot => slot.slotId == assignment.slotId with
      | none => throw (.badRequest "未知测试账号角色。")
      | some slot =>
          if slot.account == some assignment.account then return updates
          throwIf (row.run.isSome || row.dispatchStatus != .pending)
            (.conflict "Case 已开始调度，当前分配不能修改；请在重试 Case 时调整账号。")
          let plan ←
            match updates.plans.lookup row.id, row.testAccountPlan with
            | some plan, _ => pure plan
            | none, some plan => readAccountPlan host plan
            -- Not reached: only a row with a plan is shown in the form.
            | none, none => throw .schema
          throwIf (expired plan tables.now) (.conflict "账号准备已过期，请重试 Case 后重新分配。")
          return { updates with
            plans := setEntry row.id (bind slot assignment.account plan) updates.plans }
  | _, _ => throw (.conflict "账号分配不属于当前 Spec 或执行环境。")

def assigned (plan : TestAccountPlan) (now : Int) (row : TaskCaseExecution) : TaskCaseExecution :=
  let missing := !(missingAccountSlots plan).isEmpty
  { row with
    testAccountPlan := some plan
    scheduling := some {
      state := if missing then .waiting else .ready
      reason := if missing then some "TEST_ACCOUNTS_REQUIRED" else none
      waitingSince := if missing then some plan.requestedAt else none
      evaluatedAt := now
      blockedBy := none } }

def writePlan (read tables : TaskTables) (update : String × TestAccountPlan) :
    Except Failure TaskTables := do
  let (id, plan) := update
  match read.caseExecutions.find? fun row => row.id == id with
  -- Not reached: plans are updated for rows that were read.
  | none => throw .schema
  | some row =>
      let (written, count) :=
        updateMany (fun other =>
          other.id == id && other.run.isNone && other.dispatchStatus == .pending &&
            other.updatedAt == row.updatedAt) (assigned plan tables.now) tables
      throwIf (count != 1) (.conflict "Case 调度状态已变化，请刷新后重试。")
      return written

def refreshedTaskDeadline (task : TaskExecution) (resumedAt : Int) : Int :=
  resumedAt + task.deadlineSeconds * 1000

def submit (input : TaskTestAccountsInput) (tables : TaskTables) :
    Except Failure (TaskTables × Unit) := do
  throwIf (tables.task.cancelRequestedAt.isSome || terminal tables.task.lifecycle)
    (.conflict "任务已结束，不能再分配账号。")
  let preparation ←
    taskAccountPreparation host definitions tables.caseExecutions tables.task.snapshotId
  throwIf (preparation.revision != input.expectedRevision)
    (.conflict "Spec、环境或执行批次已变化，请刷新账号需求后再提交。")
  let updates ← input.assignments.foldlM (assign host tables preparation.cases)
    { plans := [], seen := [] }
  let written ← updates.plans.foldlM (writePlan tables) tables
  let task :=
    if updates.plans.isEmpty then written.task
    else
      { written.task with
        deadlineAt := refreshedTaskDeadline tables.task tables.now
        projectionNeededAt := some tables.now }
  return ({ written with
    task
    events := written.events ++ [{
      submissionId := input.submissionId
      digest := assignmentsDigest host input.assignments
      caseExecutionIds := updates.plans.map Prod.fst
      assignmentCount := input.assignments.length }] }, ())

def provide (teamId taskId : String) (input : TaskTestAccountsInput) (tables : TaskTables) :
    Except Failure (TaskTables × Unit) := do
  throwIf (tables.task.id != taskId || tables.task.teamId != teamId)
    (.notFound "Task not found.")
  match tables.events.find? fun event => event.submissionId == input.submissionId with
  | some duplicate =>
      throwIf (duplicate.digest != assignmentsDigest host input.assignments)
        (.conflict "同一提交编号不能用于不同的账号分配。")
      return (tables, ())
  | none => submit host definitions input tables

def provideTaskTestAccounts (teamId taskId : String) (input : TaskTestAccountsInput) :
    Program TaskTables (Except Failure Unit) :=
  .transaction (provide host definitions teamId taskId input)

inductive Call where
  /-- With the identifier that each row's plan gets. -/
  | prepare (revision : String → String)
  | provide (teamId taskId : String) (input : TaskTestAccountsInput)
  | expire

def serve : Call → Program TaskTables (Except Failure Unit)
  | .prepare revision => prepareTestAccountPlans host definitions revision
  | .provide teamId taskId input => provideTaskTestAccounts host definitions teamId taskId input
  | .expire => expireTestAccountPlans host

end Writers

def accountFailure (scheduling : Option AccountScheduling) : Bool :=
  let reason := scheduling.bind AccountScheduling.reason
  reason == some "TEST_ACCOUNTS_HITL_DISABLED" || reason == some "TEST_ACCOUNTS_TIMEOUT"

def failedForAccounts (row : TaskCaseExecution) : Bool :=
  row.dispatchStatus == .failed && accountFailure row.scheduling

inductive Change where
  /-- Time passes. -/
  | pass (milliseconds : Nat)
  /-- The task changes, and what its cases refer to. -/
  | task (task : TaskExecution) (deployments : String → Deployment) (cases : String → TestCase)
  /-- A case is added, or a batch of it: its plan, if it has one, has no assignments. -/
  | execution (row : TaskCaseExecution)
  /-- A run of a row starts with the accounts of its plan. -/
  | dispatch (id : String)
  /-- Other scheduling of a row. -/
  | schedule (id : String) (dispatchStatus : DispatchStatus) (dispatchAttempts : Nat)
      (scheduling : AccountScheduling)

def newExecution (row : TaskCaseExecution) (now : Int) : TaskCaseExecution :=
  { row with
    run := none
    dispatchStatus := .pending
    dispatchAttempts := 0
    scheduling := none
    testAccountPlan := row.testAccountPlan.map fun plan => { plan with bindings := [] }
    updatedAt := now }

def linked (row : TaskCaseExecution) : TaskCaseExecution :=
  { row with
    run := some { testAccounts := row.testAccountPlan.map TestAccountPlan.bindings }
    dispatchStatus := .linked }

def changed : Change → TaskTables → TaskTables
  | .pass milliseconds, tables => { tables with now := tables.now + milliseconds }
  | .task task deployments cases, tables =>
      { tables with
        task
        caseExecutions := tables.caseExecutions.map fun row =>
          { row with deployment := deployments row.id, testCase := cases row.id } }
  | .execution row, tables =>
      if tables.caseExecutions.any fun other => other.id == row.id then tables
      else { tables with caseExecutions := tables.caseExecutions ++ [newExecution row tables.now] }
  | .dispatch id, tables =>
      (updateMany (fun row => row.id == id && row.run.isNone && !failedForAccounts row) linked
        tables).1
  | .schedule id dispatchStatus dispatchAttempts scheduling, tables =>
      -- The functions above alone give a case up for its accounts.
      (updateMany (fun row => row.id == id && row.run.isNone && !failedForAccounts row &&
          !accountFailure (some scheduling))
        (fun row =>
          { row with dispatchStatus, dispatchAttempts, scheduling := some scheduling }) tables).1

def freshTask (task : TaskExecution) (now : Int) : TaskTables :=
  { now, task, caseExecutions := [], events := [] }

end TestAccounts

end Devproof
