import Devproof.AgentRuntime.Rows
import Devproof.Host

/-!
The acceptance report of a task (`task-acceptance-report.ts`), folded from
criterion, case, requirement and coverage checks over stored JSON.
-/

namespace Devproof.Acceptance

inductive AcceptanceVerdict where
  | passed
  | failed
  | inconclusive
  | pending
  deriving Repr, DecidableEq

inductive IssueCategory where
  | context
  | product
  | evidence
  | undetermined
  | coverage
  | precondition
  | execution
  | cancelled
  | timeout
  deriving Repr, DecidableEq

inductive TaskKind where
  | specTask
  | issueSpec
  | directRun
  | legacyRun
  deriving Repr, DecidableEq

inductive TaskLifecycle where
  | queued
  | running
  | waitingInput
  | waitingHuman
  | completed
  | cancelled
  | timedOut
  deriving Repr, DecidableEq

inductive StageStatus where
  | pending
  | running
  | waitingInput
  | succeeded
  | failed
  | cancelled
  | skipped
  deriving Repr, DecidableEq

inductive StageType where
  | specAnalysis
  | profileResolution
  | specExecution
  deriving Repr, DecidableEq

def StageType.name : StageType → String
  | .specAnalysis => "SPEC_ANALYSIS"
  | .profileResolution => "PROFILE_RESOLUTION"
  | .specExecution => "SPEC_EXECUTION"

inductive Scope where
  | requirement
  | case
  | direct
  deriving Repr, DecidableEq

structure AcceptanceIssue where
  category : IssueCategory
  code : String
  message : String
  nextStep : String
  deriving Repr, DecidableEq

structure ReportAttempt where
  id : String
  number : Int
  error : Option Json := none
  deriving Repr

structure ReportTask where
  attemptId : String
  error : Option Json := none
  recoveryStatus : Option RecoveryStatus := none
  result : Option Json := none
  deriving Repr

structure CriterionResult where
  attemptId : String
  criterionId : String
  status : ProductVerdict
  blockingReason : Option String := none
  summary : String
  evidenceRefs : List String
  deriving Repr, DecidableEq

structure ReportEvidence where
  id : String
  externalId : String
  kind : String
  attemptId : String
  runtimeArtifactId : Option String := none
  deriving Repr, DecidableEq

structure ReportRun where
  id : String
  goal : String
  lifecycle : RunLifecycle
  executionDisposition : Option ExecutionDisposition
  verdict : Option ProductVerdict
  criteriaSnapshot : Json
  environmentSnapshot : Json := .obj []
  currentAttemptNumber : Int
  attempts : List ReportAttempt
  tasks : List ReportTask
  criterionResults : List CriterionResult
  evidences : List ReportEvidence
  /-- The table's key: one result for an attempt and a criterion. -/
  oneResult : (criterionResults.map fun result => (result.attemptId, result.criterionId)).Nodup :=
    by decide

structure TestCase where
  id : String
  name : String
  definition : Json

structure TaskDeployment where
  id : String
  name : String
  targetUrl : Option String

structure CaseExecution where
  caseId : String
  deploymentId : String
  executionOrdinal : Int
  run : Option ReportRun
  dispatchLastError : Option Json := none

structure SpecificationSnapshot where
  context : Json
  completeness : String
  diagnostics : Json
  cases : List TestCase

structure ReportStage where
  type : StageType
  status : StageStatus
  lastError : Option Json := none

structure ReportRow where
  kind : TaskKind
  title : String
  lifecycle : TaskLifecycle
  environmentSnapshot : Json
  sourceSnapshotComplete : Bool
  specificationSnapshot : Option SpecificationSnapshot
  deployments : List TaskDeployment
  caseExecutions : List CaseExecution
  executionRuns : List ReportRun
  stages : List ReportStage

structure EvidenceLink where
  id : String
  ref : String
  kind : String
  downloadPath : Option String
  deriving Repr, DecidableEq

structure AcceptanceCriterion where
  id : String
  requirementId : Option String
  description : String
  required : Bool
  verdict : AcceptanceVerdict
  recordedVerdict : Option ProductVerdict
  summary : String
  evidence : List EvidenceLink
  issues : List AcceptanceIssue
  deriving Repr, DecidableEq

structure AcceptanceCase where
  caseId : String
  name : String
  deployment : String
  targetUrl : Option String
  executionOrdinal : Int
  /-- The note of a blocked cleanup. -/
  cleanup : Option String
  lifecycle : RunLifecycle
  executionDisposition : Option ExecutionDisposition
  runId : Option String
  attemptNumber : Option Int
  verdict : AcceptanceVerdict
  criteria : List AcceptanceCriterion
  issues : List AcceptanceIssue
  deriving Repr, DecidableEq

structure AcceptanceRequirement where
  id : String
  description : String
  sourceRef : Option String
  verdict : AcceptanceVerdict
  caseIds : List String
  reason : Option String
  deriving Repr, DecidableEq

structure VerdictCounts where
  total : Nat
  passed : Nat
  failed : Nat
  inconclusive : Nat
  pending : Nat
  deriving Repr, DecidableEq

structure TaskAcceptanceReport where
  scope : Scope
  final : Bool
  verdict : AcceptanceVerdict
  aiAccepted : Bool
  summary : String
  coverageComplete : Bool
  caseCounts : VerdictCounts
  criterionCounts : VerdictCounts
  requiredCriteria : Nat
  requirements : List AcceptanceRequirement
  cases : List AcceptanceCase
  issues : List AcceptanceIssue
  deriving Repr, DecidableEq

structure CaseInput where
  caseId : String
  name : String
  deployment : String
  targetUrl : Option String
  executionOrdinal : Int
  run : Option ReportRun
  definition : Json
  dispatchError : Option Json := none

def rows (value : Option Json) : List Members :=
  match value with
  | some (.arr items) => items.map fun item => object (some item)
  | _ => []

def strings (value : Option Json) : List String :=
  match value with
  | some (.arr items) => items.filterMap fun item => stringOf (some item)
  | _ => []

def TaskLifecycle.terminal : TaskLifecycle → Bool
  | .completed | .cancelled | .timedOut => true
  | _ => false

def terminal : RunLifecycle → Bool
  | .completed | .cancelled | .timedOut => true
  | _ => false

def orText (left right : String) : String :=
  if left = "" then right else left

def issue (category : IssueCategory) (code message nextStep : String) : AcceptanceIssue :=
  { category, code, message, nextStep }

def isSpecTask (row : ReportRow) : Bool :=
  row.kind = .issueSpec || row.kind = .specTask

def acceptanceOf : ProductVerdict → AcceptanceVerdict
  | .passed => .passed
  | .failed => .failed
  | .inconclusive => .inconclusive

def currentAttempt (run : ReportRun) : Option ReportAttempt :=
  run.attempts.find? fun attempt => attempt.number == run.currentAttemptNumber

def currentTask (run : ReportRun) : Option ReportTask :=
  (currentAttempt run).bind fun attempt => run.tasks.find? fun task => task.attemptId == attempt.id

section Report

variable (host : Host) (redactText : String → String)

def text (value : Option Json) : String :=
  match stringOf value with
  | some value => redactText value
  | none => ""

def executionCleanup (result : Option Json) : Option String :=
  let outcome := object result
  let cleanup := object (Members.get outcome "cleanup")
  if stringOf (Members.get outcome "kind") = some "VERIFICATION_COMPLETED" ∧
      stringOf (Members.get cleanup "status") = some "BLOCKED" then
    match stringOf (Members.get cleanup "note") with
    | some note =>
        if trim note ≠ "" then some (redactText note)
        else some "测试数据的清理、恢复或写入归属尚未完成核对。"
    | none => some "测试数据的清理、恢复或写入归属尚未完成核对。"
  else none

def verdictNamed (name : String) : Option ProductVerdict :=
  if name = "PASSED" then some .passed
  else if name = "FAILED" then some .failed
  else if name = "INCONCLUSIVE" then some .inconclusive
  else none

/-- The projected disposition and verdict.  A verdict that only prints as one is no verdict. -/
def executionVerification (run : ReportRun) :
    Option ExecutionDisposition × Option ProductVerdict :=
  let current := (run.executionDisposition, run.verdict)
  if run.lifecycle ≠ .completed ∨ run.executionDisposition ≠ some .blocked ∨
      run.verdict ≠ none then current
  else
    match currentTask run with
    | none => current
    | some task =>
        if isTruthy task.error || isTruthy ((currentAttempt run).bind (·.error)) ||
            (executionCleanup redactText task.result).isNone then current
        else
          let result := object task.result
          if isTruthy (Members.get result "termination") ||
              stringOf (Members.get result "executionDisposition") != some "EXECUTED" ||
              (verdictNamed (host.text (Members.get result "verdict"))).isNone then current
          else (some .executed, (stringOf (Members.get result "verdict")).bind verdictNamed)

def environmentMessage (code : String) : Option String :=
  if code = "RUNTIME_LEASE_LOST" then some "执行节点租约丢失，验证中断，未形成验收结论。"
  else if code = "WRITE_OUTCOME_UNKNOWN" then
    some "执行中断后无法确认业务写入结果；请先只读核对相关数据，再决定是否重试。"
  else none

def recoveryResolved (run : Option ReportRun) (storedFailure : Members) : Bool :=
  stringOf (Members.get storedFailure "code") == some "WRITE_OUTCOME_UNKNOWN" &&
    match run with
    | none => false
    | some run => run.tasks.any fun task =>
        some task.attemptId == (currentAttempt run).map (·.id) &&
          task.recoveryStatus == some .resolved

def presentedFailure (run : Option ReportRun) (storedFailure : Members) : Members :=
  let originalFailure :=
    object (Members.get (object (Members.get storedFailure "details")) "originalError")
  if recoveryResolved run storedFailure then
    if (stringOf (Members.get originalFailure "code")).isSome then originalFailure
    else
      [("code", .str "RUNTIME_EXECUTION_INTERRUPTED"),
        ("message", .str "执行已中断，写入核实已完成；未完成的验收点需重新验证。")]
  else storedFailure

def isPrerequisite (code : String) : Bool :=
  ["TEST_ACCOUNT", "AUTH_", "PROFILE_", "DEPLOYMENT_", "DATA_PRECONDITION", "ENVIRONMENT_"].any
    fun start => startsWith code start

def dispositionName : ExecutionDisposition → String
  | .executed => "EXECUTED"
  | .notRun => "NOT_RUN"
  | .blocked => "BLOCKED"
  | .agentError => "AGENT_ERROR"
  | .providerError => "PROVIDER_ERROR"
  | .browserUnavailable => "BROWSER_UNAVAILABLE"
  | .runtimeLost => "RUNTIME_LOST"

def failureMessage (failure : Members) : String :=
  let code := text redactText (Members.get failure "code")
  let original := object (Members.get (object (Members.get failure "details")) "originalError")
  let originalCode := text redactText (Members.get original "code")
  let parts :=
    [(environmentMessage code).getD (text redactText (Members.get failure "message")),
      if originalCode = "" then ""
      else originalCode ++ ": " ++ text redactText (Members.get original "message")]
  " · ".intercalate (parts.filter fun part => part != "")

def executionIssue (run : Option ReportRun) (lifecycle : RunLifecycle) (error : Option Json) :
    Option AcceptanceIssue :=
  let storedFailure := object error
  let failure := presentedFailure run storedFailure
  let code := text redactText (Members.get failure "code")
  let message := failureMessage redactText failure
  let disposition := run.bind (·.executionDisposition)
  match lifecycle with
  | .cancelled =>
      some (issue .cancelled "CANCELLED" "执行已取消，未完成部分不视为通过。"
        "保留已有发现，按需重新执行未完成部分。")
  | .timedOut =>
      some (issue .timeout (orText code "TIMEOUT") (orText message "执行超过时限，验证未完成。")
        "检查耗时步骤或模型响应，再执行未完成部分。")
  | _ =>
      if disposition = some .executed then none
      else
        some (issue (if isPrerequisite code then .precondition else .execution)
          (orText code ((disposition.map dispositionName).getD "NOT_RUN"))
          (orText message "执行未完成，当前没有足够的验收结论。")
          (if isPrerequisite code then "补齐说明中的账号、登录、环境或需求条件后重新验证。"
            else if recoveryResolved run storedFailure then
              "写入核实已完成；处理上述原始执行问题后重新验证。"
            else "查看执行记录并处理阻塞；存在未确认写入时先核对实际业务结果。"))

def resultOf (run : ReportRun) (id : String) : Option CriterionResult :=
  (currentAttempt run).bind fun attempt =>
    run.criterionResults.find? fun result =>
      result.attemptId == attempt.id && result.criterionId == id

def citedEvidence (run : ReportRun) (result : CriterionResult) : List ReportEvidence :=
  run.evidences.filter fun evidence =>
    some evidence.attemptId == (currentAttempt run).map (·.id) &&
      result.evidenceRefs.contains evidence.externalId

def requiredKinds (definition : Members) : List String :=
  strings (Members.get definition "requiredEvidenceKinds")

def citationsStored (run : ReportRun) (result : CriterionResult) : Bool :=
  result.evidenceRefs.all fun ref =>
    (citedEvidence run result).any fun evidence => evidence.externalId == ref

def hasProof (definition : Members) (run : ReportRun) (result : CriterionResult) : Bool :=
  result.evidenceRefs != [] && citationsStored run result &&
    (requiredKinds definition).all fun kind =>
      (citedEvidence run result).any fun evidence => evidence.kind == kind

def evidenceLink (run : ReportRun) (evidence : ReportEvidence) : EvidenceLink where
  id := evidence.id
  ref := evidence.externalId
  kind := evidence.kind
  downloadPath := (truthy evidence.runtimeArtifactId).map fun _ =>
    "/console/api/runs/" ++ run.id ++ "/evidences/" ++ evidence.id ++ "/download"

def isRequired (definition : Members) : Bool :=
  !isFalse (Members.get definition "required")

def criterionVerdict (definition : Members) (run : Option ReportRun)
    (result : Option CriterionResult) (final : Bool) : AcceptanceVerdict :=
  match run, result with
  | some run, some result =>
      if result.status ≠ .inconclusive ∧ hasProof definition run result = true then
        acceptanceOf result.status
      else .inconclusive
  | _, _ => if final then .inconclusive else .pending

def incompleteIssue (result : Option CriterionResult) : AcceptanceIssue :=
  let undetermined := result.map (·.status) == some .inconclusive
  issue (if undetermined then .undetermined else .evidence)
    (if undetermined then "INCONCLUSIVE" else "EVIDENCE_INCOMPLETE")
    (orText ((result.map fun result => redactText result.summary).getD "")
      "尚无当前执行尝试的完整判定与证据。")
    "根据记录的原因补齐前置条件或实际证据，再验证受影响的验收点。"

def preconditionIssue (run : ReportRun) (result : CriterionResult) : List AcceptanceIssue :=
  match result.blockingReason with
  | none => []
  | some reason =>
      if result.status = .inconclusive ∧
          (reason = "DATA_PRECONDITION" ∨ reason = "ENVIRONMENT_UNAVAILABLE") ∧
          citedEvidence run result ≠ [] ∧ citationsStored run result = true then
        [issue .precondition reason (redactText result.summary)
          "核对并准备符合前置条件的测试数据、权限或环境后重跑；既有数据需经授权处置，写入结果未确认时先只读核对。"]
      else []

def criterionIssues (run : Option ReportRun) (result : Option CriterionResult)
    (verdict : AcceptanceVerdict) (final : Bool) : List AcceptanceIssue :=
  match verdict with
  | .failed =>
      [issue .product "CRITERION_FAILED"
        (orText ((result.map fun result => redactText result.summary).getD "")
          "实际行为不满足验收要求。")
        "根据对应证据修复产品行为，再验证该验收点。"]
  | .inconclusive =>
      (if result.isSome || final then [incompleteIssue redactText result] else []) ++
        match run, result with
        | some run, some result => preconditionIssue redactText run result
        | _, _ => []
  | _ => []

def criterionReport (definition : Members) (run : Option ReportRun) (final : Bool) :
    AcceptanceCriterion :=
  let id := text redactText (Members.get definition "id")
  let result := run.bind fun run => resultOf run id
  let verdict := criterionVerdict definition run result final
  { id
    requirementId := truthy (some (text redactText (Members.get definition "requirementId")))
    description := orText (text redactText (Members.get definition "description")) id
    required := isRequired definition
    verdict
    recordedVerdict := result.map (·.status)
    summary := orText ((result.map fun result => redactText result.summary).getD "") "尚未形成判定"
    evidence :=
      match run, result with
      | some run, some result => (citedEvidence run result).map (evidenceLink run)
      | _, _ => []
    issues := criterionIssues redactText run result verdict final }

def aggregate (verdicts : List AcceptanceVerdict) (final : Bool) : AcceptanceVerdict :=
  if verdicts.contains .failed then .failed
  else if !final then .pending
  else if verdicts != [] && verdicts.all fun verdict => verdict == .passed then .passed
  else .inconclusive

def projectedRun (run : ReportRun) : ReportRun :=
  { run with
    executionDisposition := (executionVerification host redactText run).1
    verdict := (executionVerification host redactText run).2 }

def withRequirement (declared : List Members) (definition : Members) : Members :=
  let found := declared.find? fun other =>
    strictEqual (Members.get other "id") (Members.get definition "id")
  let others := definition.filter fun entry => entry.1 != "requirementId"
  match found.bind fun other => Members.get other "requirementId" with
  | some requirementId => others ++ [("requirementId", requirementId)]
  | none => others

def caseDefinitions (definition : Json) (run : Option ReportRun) : List Members :=
  let declared := rows (Members.get (object (some definition)) "criteria")
  match run with
  | none => declared
  | some run =>
      declared.foldl (fun definitions criterion =>
        if definitions.any fun other =>
            strictEqual (Members.get other "id") (Members.get criterion "id") then definitions
        else definitions ++ [criterion])
        ((rows (some run.criteriaSnapshot)).map (withRequirement declared))

def caseError (run : Option ReportRun) (dispatchError : Option Json) : Option Json :=
  nullish (run.bind fun run => (currentTask run).bind (·.error))
    (nullish (run.bind fun run => (currentAttempt run).bind (·.error)) dispatchError)

def caseLifecycle (run : Option ReportRun) (final : Bool) : RunLifecycle :=
  match run with
  | some run => run.lifecycle
  | none => if final then .completed else .queued

def caseCriteria (input : CaseInput) (final : Bool) : List AcceptanceCriterion :=
  let run := input.run.map (projectedRun host redactText)
  (caseDefinitions input.definition run).map fun definition =>
    criterionReport redactText definition run (final || terminal (caseLifecycle run final))

def runConfirms (run : Option ReportRun) : Bool :=
  match run with
  | some run =>
      run.executionDisposition == some .executed && run.verdict == some .passed &&
        run.lifecycle == .completed
  | none => false

def caseReport (input : CaseInput) (final : Bool) : AcceptanceCase :=
  let run := input.run.map (projectedRun host redactText)
  let lifecycle := caseLifecycle run final
  let ended := final || terminal lifecycle
  let criteria := caseCriteria host redactText input final
  let required := criteria.filter (·.required)
  let blocker := executionIssue redactText run lifecycle (caseError run input.dispatchError)
  let blockerIssues := if ended then blocker.toList else []
  let coverageIssues :=
    if required = [] then
      [issue .coverage "NO_REQUIRED_CRITERIA" "没有可追溯的必需验收点。"
        "补充有需求来源的验收标准后重新验证。"]
    else []
  let folded := aggregate (required.map (·.verdict)) ended
  let demoted := folded = .passed ∧ runConfirms run = false
  { caseId := input.caseId
    name := input.name
    deployment := input.deployment
    targetUrl := input.targetUrl
    executionOrdinal := input.executionOrdinal
    cleanup := run.bind fun run =>
      (currentTask run).bind fun task => executionCleanup redactText task.result
    lifecycle
    executionDisposition := run.bind (·.executionDisposition)
    runId := run.map (·.id)
    attemptNumber := run.map (·.currentAttemptNumber)
    verdict := if demoted then .inconclusive else folded
    criteria
    issues := blockerIssues ++ coverageIssues ++
      if demoted ∧ blocker = none then
        [issue .evidence "VERDICT_NOT_CONFIRMED" "验收点记录与执行最终判定尚未一致。"
          "核对执行最终结果，必要时重新验证。"]
      else [] }

def caseRerunSource (environment : Json) : Bool :=
  let source := object (Members.get (object (some environment)) "caseRerunSource")
  let isId (value : Option Json) : Bool :=
    match stringOf value with
    | some id => host.isUuid id
    | none => false
  isId (Members.get source "taskId") && isId (Members.get source "caseId") &&
    (stringOf (Members.get source "caseName")).isSome &&
    isId (Members.get source "snapshotId") &&
    match arrayOf (Members.get source "executionIds") with
    | some ids => !ids.isEmpty && ids.all fun id => isId (some id)
    | none => false

def scopeOf (row : ReportRow) : Scope :=
  if caseRerunSource host row.environmentSnapshot then .case
  else if isSpecTask row then .requirement
  else .direct

def latestExecution (row : ReportRow) (testCase : TestCase) (deployment : TaskDeployment) :
    Option CaseExecution :=
  (sortDescending (·.executionOrdinal) (row.caseExecutions.filter fun execution =>
    execution.caseId == testCase.id && execution.deploymentId == deployment.id)).head?

def plannedInput (row : ReportRow) (testCase : TestCase) (deployment : TaskDeployment) :
    CaseInput :=
  let execution := latestExecution row testCase deployment
  { caseId := testCase.id
    name := testCase.name
    deployment := deployment.name
    targetUrl := deployment.targetUrl
    executionOrdinal := (execution.map (·.executionOrdinal)).getD 1
    run := execution.bind (·.run)
    definition := testCase.definition
    dispatchError := execution.bind (·.dispatchLastError) }

def directInput (row : ReportRow) (run : ReportRun) : CaseInput where
  caseId := run.id
  name := orText (String.ofList (run.goal.toList.takeWhile fun char => char != '\n')) row.title
  deployment := "指定环境"
  targetUrl := truthy (some (text redactText
    (Members.get (object (some run.environmentSnapshot)) "targetUrl")))
  executionOrdinal := 1
  run := some run
  definition := .obj []

def reportedInputs (row : ReportRow) : List CaseInput :=
  if isSpecTask row then
    ((row.specificationSnapshot.map (·.cases)).getD []).flatMap fun testCase =>
      row.deployments.map (plannedInput row testCase)
  else row.executionRuns.map (directInput redactText row)

def reportedCases (row : ReportRow) : List AcceptanceCase :=
  (reportedInputs redactText row).map fun input =>
    caseReport host redactText input row.lifecycle.terminal

def specification (row : ReportRow) : Members :=
  object ((row.specificationSnapshot.map fun snapshot =>
    object (some snapshot.context)).bind fun context => Members.get context "specification")

def linkedCriteria (cases : List AcceptanceCase) (requirement : Members) :
    List (String × AcceptanceVerdict) :=
  cases.flatMap fun case =>
    (case.criteria.filter fun criterion =>
      criterion.required &&
        strictEqual (some ((criterion.requirementId.map Json.str).getD .null))
          (Members.get requirement "id")).map fun criterion => (case.caseId, criterion.verdict)

def missingEntry (row : ReportRow) (requirement : Members) : Option Members :=
  (rows (Members.get (specification row) "uncoveredRequirements")).find? fun entry =>
    strictEqual (Members.get entry "requirementId") (Members.get requirement "id")

def missingReason (row : ReportRow) (requirement : Members) : String :=
  text redactText ((missingEntry row requirement).bind fun entry => Members.get entry "reason")

def requirementReport (row : ReportRow) (cases : List AcceptanceCase) (requirement : Members) :
    AcceptanceRequirement :=
  let matching := linkedCriteria cases requirement
  { id := text redactText (Members.get requirement "id")
    description := text redactText (Members.get requirement "description")
    sourceRef := truthy (some (text redactText (Members.get requirement "sourceRef")))
    verdict :=
      if (missingEntry row requirement).isSome then .inconclusive
      else aggregate (matching.map Prod.snd) row.lifecycle.terminal
    caseIds := uniq (matching.map Prod.fst)
    reason :=
      if missingReason redactText row requirement ≠ "" then
        some (missingReason redactText row requirement)
      else if matching = [] then some "尚无关联的验收结果"
      else none }

def declaredRequirements (row : ReportRow) : List Members :=
  rows (Members.get (specification row) "requirements")

def requirementReports (row : ReportRow) (cases : List AcceptanceCase) :
    List AcceptanceRequirement :=
  (declaredRequirements row).map (requirementReport redactText row cases)

def diagnosticsOf (row : ReportRow) : List Members :=
  (rows (row.specificationSnapshot.map (·.diagnostics))).filter fun diagnostic =>
    stringOf (Members.get diagnostic "level") != some "INFO"

def supplemental (diagnostic : Members) : Bool :=
  stringOf (Members.get diagnostic "code") == some "GITHUB_CHECKS_UNAVAILABLE"

def onlySupplementalGaps (row : ReportRow) : Bool :=
  !(diagnosticsOf row).isEmpty && (diagnosticsOf row).all supplemental

def sourceComplete (row : ReportRow) : Bool :=
  (match row.specificationSnapshot with
    | some snapshot => snapshot.completeness == "COMPLETE" || onlySupplementalGaps row
    | none => false) && row.sourceSnapshotComplete

def strayCriterion (cases : List AcceptanceCase) (requirements : List AcceptanceRequirement) :
    Bool :=
  cases.any fun case => case.criteria.any fun criterion =>
    criterion.required &&
      !requirements.any fun requirement => some requirement.id == criterion.requirementId

def requirementIssues (row : ReportRow) (cases : List AcceptanceCase) : List AcceptanceIssue :=
  let requirements := requirementReports redactText row cases
  (if sourceComplete row then []
    else [issue .coverage "SOURCE_INCOMPLETE" "需求或变更来源不完整，不能据此认定整个需求通过。"
      "补齐需求与关联变更来源，重新确认测试范围。"]) ++
  (if requirements = [] then
      [issue .coverage "REQUIREMENT_MAPPING_MISSING" "历史规格缺少结构化的需求与验收点映射。"
        "重新分析需求并补齐可追溯的验收覆盖。"]
    else []) ++
  (if requirements.any fun requirement => requirement.reason.isSome then
      [issue .coverage "REQUIREMENT_UNCOVERED" "存在尚未覆盖的需求。"
        "查看需求覆盖表，补充缺失的用例或验证条件。"]
    else []) ++
  (if strayCriterion cases requirements then
      [issue .coverage "CRITERION_REQUIREMENT_MISSING" "部分必需验收点未关联到本次需求。"
        "核对规格来源和需求映射后重新验证。"]
    else []) ++
  (diagnosticsOf row).map fun diagnostic =>
    issue (if supplemental diagnostic then .context else .coverage)
      (orText (text redactText (Members.get diagnostic "code")) "SPEC_DIAGNOSTIC")
      (text redactText (Members.get diagnostic "message"))
      "检查 Spec 分析来源与覆盖说明。"

def legacyCleanupProjection (row : ReportRow) : Bool :=
  (row.executionRuns ++ row.caseExecutions.filterMap (·.run)).any fun run =>
    run.executionDisposition == some .blocked &&
      (executionVerification host redactText run).1 == some .executed

def excusedStage (row : ReportRow) (cases : List AcceptanceCase) (stage : ReportStage) : Bool :=
  stage.type == .specExecution && !isTruthy stage.lastError &&
    legacyCleanupProjection host redactText row && cases != [] &&
    cases.all fun case =>
      case.lifecycle == .completed && case.executionDisposition == some .executed

def stageIssues (row : ReportRow) (cases : List AcceptanceCase) : List AcceptanceIssue :=
  (row.stages.filter fun stage =>
    stage.status == .failed && !excusedStage host redactText row cases stage).map fun stage =>
      let error := object stage.lastError
      issue .execution (orText (text redactText (Members.get error "code")) "STAGE_FAILED")
        (orText (text redactText (Members.get error "message")) (stage.type.name ++ " 阶段未完成。"))
        "查看任务日志，处理对应阶段的问题。"

def lifecycleIssues (row : ReportRow) : List AcceptanceIssue :=
  match row.lifecycle with
  | .cancelled => (executionIssue redactText none .cancelled none).toList
  | .timedOut => (executionIssue redactText none .timedOut none).toList
  | _ => []

def taskIssues (row : ReportRow) (cases : List AcceptanceCase) : List AcceptanceIssue :=
  (if scopeOf host row = .requirement then requirementIssues redactText row cases else []) ++
  (if cases = [] then
      [issue .coverage "NO_EXECUTION_SCOPE" "当前没有完整的用例与执行环境范围。"
        "先完成 Spec 分析并指定验证环境。"]
    else []) ++
  stageIssues host redactText row cases ++ lifecycleIssues redactText row

def countVerdicts (verdicts : List AcceptanceVerdict) : VerdictCounts where
  total := verdicts.length
  passed := verdicts.count .passed
  failed := verdicts.count .failed
  inconclusive := verdicts.count .inconclusive
  pending := verdicts.count .pending

def coverageCompleteOf (cases : List AcceptanceCase) (issues : List AcceptanceIssue) : Bool :=
  cases != [] && !issues.any fun issue => issue.category == .coverage

def taskVerdict (row : ReportRow) (cases : List AcceptanceCase) (issues : List AcceptanceIssue) :
    AcceptanceVerdict :=
  let folded := aggregate (cases.map (·.verdict)) row.lifecycle.terminal
  let demoted :=
    if folded = .passed ∧ (coverageCompleteOf cases issues = false ∨ row.lifecycle ≠ .completed ∨
        (issues.any fun issue => issue.category != .context) = true) then .inconclusive
    else folded
  if row.lifecycle.terminal then demoted else .pending

def buildTaskAcceptanceReport (row : ReportRow) : TaskAcceptanceReport :=
  let final := row.lifecycle.terminal
  let scope := scopeOf host row
  let cases := reportedCases host redactText row
  let issues := taskIssues host redactText row cases
  let verdict := taskVerdict row cases issues
  let aiAccepted := verdict = .passed ∧ scope = .requirement
  let criteria := cases.flatMap (·.criteria)
  { scope
    final
    verdict
    aiAccepted
    summary :=
      if !final then "验证尚未结束；当前报告保留已确认的发现，暂不授予 AI 验收通过。"
      else if verdict = .failed then
        "已有必需验收点的证据表明产品不满足要求；同时保留其余未完成项。"
      else if aiAccepted then "本次需求范围已完整覆盖，所有必需验收点均有证据支持通过。"
      else if verdict = .passed then
        "本次选定范围的验收点已通过；该报告不代表整个需求已获 AI 验收通过。"
      else "现有覆盖、执行结果或证据不足，不能认定本次需求已通过 AI 验收。"
    coverageComplete := coverageCompleteOf cases issues
    caseCounts := countVerdicts (cases.map (·.verdict))
    criterionCounts := countVerdicts (criteria.map (·.verdict))
    requiredCriteria := (criteria.filter (·.required)).length
    requirements := requirementReports redactText row cases
    cases
    issues }

end Report

end Devproof.Acceptance
