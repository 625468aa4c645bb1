import Devproof.Lib.JsonReader
import Devproof.Lib.Tally
import Devproof.Lib.Refinement
import Devproof.Observation.BindingService
import Devproof.Observation.Criterion

/-!
What an attempt holds as evidence (`bound-evidence.ts`): the bindings and reviews the service
answered with, those a completed model request showed to the model, and what may be submitted.
Values that their schemas refuse throw before anything changes, and are left out of the calls.
-/

namespace Devproof

namespace BoundEvidence

open Parsing

structure Binding extends ObservationBindings.SavedBinding where
  runId : String
  attemptId : String
  observationId : String
  sourceCommandId : String
  capturedAt : String
  deriving DecidableEq

structure VersionedContract extends ObservationContract where
  version : Nat

structure RunCriterion where
  id : String
  observationContract : Option VersionedContract

structure Diagnostic where
  criterionId : String
  targetId : String
  observationId : String
  error : String
  candidates : Option (List String)
  deriving DecidableEq

structure ReferenceImage where
  bindingId : String
  dataBase64 : Text

structure ImageRead where
  deliveryId : String
  images : List ReferenceImage

structure BindingFailure where
  stateKey : String
  count : Nat

/-- What the evidence is for, and the digests and texts that the code takes from its libraries. -/
structure Setting where
  criteria : List RunCriterion
  runId : String
  attemptId : String
  /-- `observationDigest` of a contract. -/
  contractDigest : ObservationContract → String
  /-- `observationDigest` of a binding. -/
  bindingDigest : Binding → String
  /-- `observationBindingSchema.safeParse`. -/
  readBinding : Value → Option Binding
  /-- `JSON.stringify`. -/
  stringify : Value → Text

structure Evidence where
  bindingFailures : List (String × BindingFailure) := []
  bindings : List (String × Binding) := []
  reviews : List (String × VisualComparisonReview) := []
  delivered : List String := []
  diagnostics : List (String × Diagnostic) := []
  imageRead : Option ImageRead := none
  currentImageDelivered : Bool := false

structure BindingResponse where
  bindings : List Binding
  /-- The items of `coverage` that `diagnosticSchema` accepts. -/
  coverage : List Diagnostic
  error : Option String
  /-- `response.retryable === false`. -/
  terminal : Bool

structure BindingResult where
  accepted : Bool
  code : Option String := none
  targetId : Option String := none
  error : Option String := none
  retryable : Option Bool := none
  attempts : Option Nat := none
  nextAction : Option String := none

structure Response where
  bindings : List Binding
  coverage : List (Option Diagnostic)
  reviews : List (Option VisualComparisonReview)

namespace Setting

variable (setting : Setting)

def criterion (criterionId : String) : Option RunCriterion :=
  setting.criteria.find? fun criterion => criterion.id == criterionId

def contractOf (criterionId : String) : Option VersionedContract :=
  (setting.criterion criterionId).bind RunCriterion.observationContract

def hasTarget (criterionId targetId : String) : Bool :=
  setting.criteria.any fun criterion =>
    criterion.id == criterionId && criterion.observationContract.any fun contract =>
      contract.targets.any fun target => target.targetId == targetId

def reopens (targetId : String) : Bool :=
  setting.criteria.any fun criterion => criterion.observationContract.any fun contract =>
    contract.targets.any fun target => target.targetId == targetId && target.phase == .reopened

end Setting

def ready (binding : Binding) : Bool := binding.readiness == .ready

def nextBindingAction (terminal invalidStateType exhausted unprovenReopen : Bool) : String :=
  if terminal then
    "该证据请求不能通过重试修复。保留错误并将受影响标准记录为 INCONCLUSIVE，继续独立项或清理；不要重复提交。"
  else if invalidStateType then
    "Spec 的文本预期与实际开关类型不一致，重新截图不能修正契约。该项记录为 INCONCLUSIVE，继续独立项；重新生成 Spec 时使用布尔预期。"
  else if exhausted then
    "同一页面的对象绑定已失败三次，受影响标准将保存为 INCONCLUSIVE。继续独立验收项，不再反复截图或更换 ref；若后续得到有效证据，可更新该标准。"
  else if unprovenReopen then
    "尚未证明重新打开阶段。保持同一业务记录，不修改字段：关闭弹窗，完整观察页面确认弹窗已关闭，再打开该记录并取证。最多补做一次关闭/打开；仍无阶段证据则保存 INCONCLUSIVE，继续独立项或清理。不要反复截取同一已打开弹窗。"
  else
    "检查 coverage 中的候选控件与缺失关系；entityRef 必须指向真实控件。标签关联缺失时重新观察其完整表单区域；一致性失败时读取具体原因。不要重复相同绑定。"

namespace BindingResponse

variable (response : BindingResponse)

def own (targetId : String) : List Binding :=
  response.bindings.filter fun binding => binding.targetId == targetId

def anyReady (targetId : String) : Bool :=
  (response.own targetId).any ready

def invalidStateType (targetId : String) : Bool :=
  (response.own targetId).any fun binding =>
    binding.reasons.any fun reason => "STATE_TYPE_MISMATCH".toList.isPrefixOf reason.toList

def unprovenReopen (setting : Setting) (targetId : String) : Bool :=
  (response.own targetId).any fun binding =>
    binding.reasons.contains "PHASE_UNPROVEN" && setting.reopens targetId

def failure (targetId : String) : String :=
  if response.invalidStateType targetId then "STATE_TYPE_MISMATCH"
  else
    (((response.coverage.find? fun item => item.targetId == targetId).map Diagnostic.error).or
      (((response.own targetId).head?.map fun binding => ", ".intercalate binding.reasons).or
        response.error)).getD "OBSERVATION_NOT_AVAILABLE"

end BindingResponse

variable (setting : Setting)

namespace Evidence

variable (evidence : Evidence)

def attempts (targetId stateKey : String) : Nat :=
  match getEntry evidence.bindingFailures targetId with
  | some previous => if previous.stateKey = stateKey then previous.count + 1 else 1
  | none => 1

def bindingResult (targetId stateKey : String) (response : BindingResponse) :
    Evidence × BindingResult :=
  if response.anyReady targetId then
    ({ evidence with bindingFailures := deleteEntry targetId evidence.bindingFailures },
      { accepted := true })
  else
    let count := evidence.attempts targetId stateKey
    let invalidStateType := response.invalidStateType targetId
    let exhausted := response.terminal || invalidStateType || decide (3 ≤ count)
    ({ evidence with
        bindingFailures := setEntry targetId { stateKey, count } evidence.bindingFailures },
      { accepted := false
        code := some (if exhausted then "OBSERVATION_BINDING_EXHAUSTED"
          else "OBSERVATION_BINDING_FAILED")
        targetId := some targetId
        error := some (response.failure targetId)
        retryable := some !exhausted
        attempts := some count
        nextAction := some (nextBindingAction response.terminal invalidStateType exhausted
          (response.unprovenReopen setting targetId)) })

def addDiagnostic (diagnostic : Diagnostic) : Evidence :=
  if setting.hasTarget diagnostic.criterionId diagnostic.targetId then
    { evidence with
      diagnostics := setEntry (diagnostic.criterionId ++ ":" ++ diagnostic.targetId) diagnostic
        evidence.diagnostics }
  else evidence

def addBinding (binding : Binding) : Evidence :=
  if binding.runId = setting.runId ∧ binding.attemptId = setting.attemptId ∧
      (setting.contractOf binding.criterionId).any fun contract =>
        binding.contractDigest == setting.contractDigest contract.toObservationContract then
    { evidence with bindings := setEntry binding.id binding evidence.bindings }
  else evidence

def addReview (review : VisualComparisonReview) : Evidence :=
  if (setting.contractOf review.criterionId).any fun contract =>
      review.contractDigest == setting.contractDigest contract.toObservationContract then
    { evidence with reviews := setEntry review.id review evidence.reviews }
  else evidence

def ingest (response : Response) : Evidence :=
  let diagnosed := ((response.coverage.take 200).filterMap id).foldl
    (fun evidence diagnostic => evidence.addDiagnostic setting diagnostic) evidence
  let bound := response.bindings.foldl
    (fun evidence binding => evidence.addBinding setting binding) diagnosed
  (response.reviews.filterMap id).foldl
    (fun evidence review => evidence.addReview setting review) bound

def imageResponse (read : ImageRead) : Evidence :=
  { evidence with imageRead := some read, currentImageDelivered := false }

def review (review : VisualComparisonReview) : Evidence :=
  { evidence with reviews := setEntry review.id review evidence.reviews }

def clearImages : Evidence :=
  { evidence with imageRead := none }

def shown (value : Value) (members : List (Text × Value)) : Option String :=
  match members.lookup ("id".toList.map code) with
  | some (.str text) =>
      match evidence.bindings.find? fun entry => entry.1.toList.map code == text with
      | some (id, saved) =>
          match setting.readBinding value with
          | some parsed =>
              if setting.bindingDigest parsed = setting.bindingDigest saved then some id else none
          | none => none
      | none => none
  | _ => none

def opensJson (text : Text) : Bool :=
  text.head? == some (code '{') || text.head? == some (code '[')

def inspect : Nat → Value → List String
  | 0, _ => []
  | depth + 1, .str text =>
      if opensJson text then
        match parse text with
        | some value => inspect depth value
        | none => []
      else []
  | depth + 1, .arr items => items.flatMap (inspect depth)
  | depth + 1, .obj members =>
      (evidence.shown setting (.obj members) members).toList ++
        members.flatMap fun entry => inspect depth entry.2
  | _, _ => []

def deliveredRequest (messages : Value) (currentImage : Option Text) :
    Evidence × List String × Option String :=
  let text := setting.stringify messages
  let bindingIds := uniq (evidence.inspect setting 31 messages)
  let imageDeliveryId := (evidence.imageRead.filter fun read =>
    read.images.all fun image => decide (image.dataBase64 <:+: text)).map ImageRead.deliveryId
  ({ evidence with
      delivered := uniq (evidence.delivered ++ bindingIds)
      currentImageDelivered := currentImage.any fun dataBase64 =>
        imageDeliveryId.isNone && decide (dataBase64 <:+: text) },
    bindingIds, imageDeliveryId)

def enabled : Bool :=
  setting.criteria.any fun criterion => criterion.observationContract.isSome

def hasDelivered (ids : List String) : Bool :=
  ids.all fun id => evidence.delivered.contains id && (getEntry evidence.bindings id).isSome

def submissionRefs (criterionId : String) : Option Citation :=
  match setting.contractOf criterionId with
  | some contract =>
      if contract.version ≠ 3 then none
      else
        let bindingIds := ((evidence.bindings.map Prod.snd).filter fun binding =>
          binding.criterionId == criterionId && ready binding &&
            evidence.delivered.contains binding.id).map fun binding => binding.id
        let reviews := evidence.reviews.map Prod.snd
        let superseded := reviews.filterMap fun review => stamp review.supersedesReviewId
        let comparisonReviewIds := (reviews.filter fun review =>
          review.criterionId == criterionId && !superseded.contains review.id &&
            review.bindingIds.all bindingIds.contains).map fun review => review.id
        some { bindingIds, comparisonReviewIds }
  | none => none

def judged (contract : ObservationContract) (criterionId : String) : Criterion :=
  { contract
    contractDigest := setting.contractDigest contract
    criterionId
    bindings := evidence.bindings.map fun entry => entry.2.toObservationBinding
    reviews := evidence.reviews.map Prod.snd }

def resolve (criterionId status : String) (citation : Citation) : Except String (List String) :=
  match setting.contractOf criterionId with
  | none => .ok []
  | some contract =>
      if evidence.hasDelivered citation.bindingIds = false then
        .error "BINDING_NOT_DELIVERED: read the saved bindings before submitting."
      else
        match (evidence.judged setting contract.toObservationContract criterionId).boundCriterionError
            status citation with
        | some error => .error error
        | none => .ok (uniq (citation.bindingIds.flatMap fun id =>
            ((getEntry evidence.bindings id).map fun binding => binding.evidenceRefs).getD []))

end Evidence

inductive Call where
  | bindingResult (targetId stateKey : String) (response : BindingResponse)
  | ingest (response : Response)
  | imageResponse (read : ImageRead)
  | review (review : VisualComparisonReview)
  | clearImages
  | deliveredRequest (messages : Value) (currentImage : Option Text)

inductive CallReply where
  | bound (result : BindingResult)
  | shown (bindingIds : List String) (imageDeliveryId : Option String)
  | done

def serve (call : Call) (evidence : Evidence) : Evidence × CallReply :=
  match call with
  | .bindingResult targetId stateKey response =>
      let (next, result) := evidence.bindingResult setting targetId stateKey response
      (next, .bound result)
  | .ingest response => (evidence.ingest setting response, .done)
  | .imageResponse read => (evidence.imageResponse read, .done)
  | .review review => (evidence.review review, .done)
  | .clearImages => (evidence.clearImages, .done)
  | .deliveredRequest messages currentImage =>
      let (next, bindingIds, imageDeliveryId) :=
        evidence.deliveredRequest setting messages currentImage
      (next, .shown bindingIds imageDeliveryId)

def gathered (calls : List Call) : Evidence :=
  Refinement.final (serve setting) calls {}

end BoundEvidence

end Devproof
