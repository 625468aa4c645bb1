import Devproof.Lib.Interleave
import Devproof.Observation.Review

/-!
Handing images to the model and comparing them: `images`, `deliver` and `compare` of
`observation-binding.service.ts`, each as the reads and the transaction it makes.
-/

namespace Devproof

namespace ObservationBindings

structure ComparisonRequirement extends VisualComparison where
  dimensions : List String

structure ReviewContract where
  targets : List ObservationTarget
  comparisons : List ComparisonRequirement

structure SnapshotCriterion where
  id : String
  observationContract : Option ReviewContract := none

structure RuntimeTaskSnapshot where
  teamId : String
  criteria : List SnapshotCriterion
  /-- `executionPolicy.accountRevisionStartedAt`, where it is a date. -/
  accountRevisionStartedAt : Option Int := none

structure AgentRuntimeTask where
  id : String
  runId : String
  attemptId : String
  fencingToken : Nat
  leaseToken : Option String
  leaseOwner : Option String
  snapshot : RuntimeTaskSnapshot

structure LeaseRow where
  id : String
  attemptId : String
  fencingToken : Nat
  leaseToken : Option String
  leaseOwner : Option String
  leaseExpiresAt : Option Int
  status : TaskStatus
  runLifecycle : RunLifecycle
  deriving Repr, DecidableEq

structure SavedBinding extends ObservationBinding where
  captureId : String
  evidenceRefs : List String
  deriving Repr, DecidableEq

structure BindingRow where
  id : String
  runId : String
  attemptId : String
  createdAt : Int
  facts : SavedBinding
  deriving Repr, DecidableEq

def BindingRow.binding (row : BindingRow) : SavedBinding :=
  { row.facts with id := row.id }

structure VisualMetadata where
  observationId : String
  capturedAt : String
  width : Nat
  height : Nat
  deriving Repr, DecidableEq

structure RuntimeArtifact where
  id : String
  byteSize : Nat
  contentType : String
  sha256 : Option String
  storageKey : String
  captureId : Option String
  /-- `none` where the metadata does not parse. -/
  visualObservation : Option VisualMetadata
  deriving Repr, DecidableEq

structure RunEvidence where
  runId : String
  attemptId : String
  externalId : String
  kind : EvidenceKind
  runtimeArtifact : Option RuntimeArtifact
  deriving Repr, DecidableEq

structure StoredObject where
  dataBase64 : String
  byteLength : Nat
  sha256 : String
  deriving Repr, DecidableEq

inductive EventActor where
  | api
  | agentRuntime
  | other
  deriving Repr, DecidableEq

structure ImagesPrepared where
  bindingIds : List String
  fencingToken : String
  deriving Repr, DecidableEq

inductive EventBody where
  | imagesPrepared (payload : ImagesPrepared)
  | modelDelivered (payload : ModelDelivery)
  | visualReviewed (payload : ComparisonReview)
  | other
  deriving Repr, DecidableEq

structure RunEvent where
  id : String
  teamId : String
  runId : String
  attemptId : String
  taskId : String
  actor : EventActor
  body : EventBody
  deriving Repr, DecidableEq

structure Tables where
  now : Int
  tasks : List LeaseRow
  bindings : List BindingRow
  evidence : List RunEvidence
  objects : List (String × StoredObject)
  events : List RunEvent

section Reads

variable (task : AgentRuntimeTask)

def holdsLease (now : Int) (row : LeaseRow) : Bool :=
  row.id == task.id && row.attemptId == task.attemptId &&
    row.fencingToken == task.fencingToken && row.leaseToken == task.leaseToken &&
    row.leaseOwner == task.leaseOwner && (row.leaseExpiresAt.any fun expires => now < expires) &&
    row.status == .running && row.runLifecycle == .running

def assertLease (tables : Tables) : Except String Unit :=
  throwIf (!tables.tasks.any (holdsLease task tables.now)) "RUNTIME_LEASE_LOST"

def ofAttempt (runId attemptId : String) : Bool :=
  runId == task.runId && attemptId == task.attemptId

def ofTask (event : RunEvent) : Bool :=
  ofAttempt task event.runId event.attemptId && event.taskId == task.id

def ownBindings (ids : List String) (tables : Tables) : List BindingRow :=
  tables.bindings.filter fun row =>
    ofAttempt task row.runId row.attemptId && ids.any fun id => uuid id == row.id

def currentAccount (row : BindingRow) : Bool :=
  task.snapshot.accountRevisionStartedAt.all fun since => since ≤ row.createdAt

def bindingRows (ids : List String) (tables : Tables) : List BindingRow :=
  (((ownBindings task ids tables).filter (currentAccount task)).insertionSort
    fun left right => left.id ≤ right.id).take 21

def preparedBy (deliveryId : String) (event : RunEvent) : Option ImagesPrepared :=
  match event.body with
  | .imagesPrepared payload =>
      if event.id == uuid deliveryId && ofTask task event && event.actor == .api then some payload
      else none
  | _ => none

def imagesPrepared (deliveryId : String) (tables : Tables) : Option ImagesPrepared :=
  tables.events.findSome? (preparedBy task deliveryId)

def deliveredBy (event : RunEvent) : Option ModelDelivery :=
  match event.body with
  | .modelDelivered payload => if ofTask task event then some payload else none
  | _ => none

def imagesDelivered (deliveryId : String) (tables : Tables) : Bool :=
  tables.events.any fun event =>
    (deliveredBy task event).any fun payload => payload.imageDeliveryId == some deliveryId

def reviewBy (event : RunEvent) : Option ComparisonReview :=
  match event.body with
  | .visualReviewed review =>
      if ofAttempt task event.runId event.attemptId then some review else none
  | _ => none

def savedReview (reviewId : String) (tables : Tables) : Option ComparisonReview :=
  tables.events.findSome? fun event =>
    if event.id == uuid reviewId then reviewBy task event else none

def reviewOfDelivery (deliveryId : String) (tables : Tables) : Option ComparisonReview :=
  tables.events.findSome? fun event =>
    ((reviewBy task event).filter fun review => review.deliveryId == deliveryId).map
      fun review => { review with id := event.id }

end Reads

def create (event : RunEvent) (tables : Tables) : Except String Tables :=
  if tables.events.any fun other => other.id == event.id then .error "P2002"
  else .ok { tables with events := tables.events ++ [event] }

def createNew (event : RunEvent) (tables : Tables) : Tables :=
  if tables.events.any fun other => other.id == event.id then tables
  else { tables with events := tables.events ++ [event] }

structure Platform where
  sha256 : String → String
  /-- `observationDigest` of a contract. -/
  contractDigest : ReviewContract → String
  /-- `Buffer.byteLength(JSON.stringify(bindings))`. -/
  byteLength : List SavedBinding → Nat

structure EvidenceImage where
  bindingId : String
  artifactId : String
  contentType : String
  dataBase64 : String
  observation : VisualMetadata
  deriving Repr, DecidableEq

structure DeliverInput where
  modelRequestId : String
  bindingIds : List String
  imageDeliveryId : Option String
  deriving Repr, DecidableEq

inductive Call where
  /-- `deliveryId` is the `randomUUID()` of the call. -/
  | images (task : AgentRuntimeTask) (bindingIds : List String) (deliveryId : String)
  | deliver (task : AgentRuntimeTask) (input : DeliverInput)
  | compare (task : AgentRuntimeTask) (input : ComparisonInput)

inductive Answer where
  | images (deliveryId : String) (images : List EvidenceImage)
  | accepted
  | reviewed (review : ComparisonReview)
  deriving Repr, DecidableEq

abbrev Request := Program Tables (Except String Answer)

section Operations

variable (platform : Platform) (task : AgentRuntimeTask)

def withinBudget : List SavedBinding → List BindingRow → List SavedBinding
  | bindings, [] => bindings
  | bindings, row :: rest =>
      if 20 * 1024 < platform.byteLength (bindings ++ [row.binding]) then bindings
      else withinBudget (bindings ++ [row.binding]) rest

def readBindings (ids : List String) (rows : List BindingRow) :
    Except String (List SavedBinding) := do
  let bindings := withinBudget platform [] (rows.take 20)
  throwIf (rows.length != (uniq ids).length) "BINDING_NOT_AVAILABLE"
  throwIf (!rows.isEmpty && bindings.isEmpty) "BINDING_READ_BUDGET_EXCEEDED"
  return bindings

def screenshot (binding : SavedBinding) (tables : Tables) : Option RuntimeArtifact :=
  (tables.evidence.find? fun evidence =>
    ofAttempt task evidence.runId evidence.attemptId &&
      binding.evidenceRefs.contains evidence.externalId && evidence.kind == .screenshot).bind
    (·.runtimeArtifact)

def visualObservationMaxBytes : Nat := 1250 * 1024

def checkArtifact (binding : SavedBinding) (artifact : Option RuntimeArtifact) :
    Except String RuntimeArtifact :=
  match artifact with
  | some artifact =>
      if visualObservationMaxBytes < artifact.byteSize ||
          !(["image/png", "image/jpeg"].contains artifact.contentType) ||
          artifact.captureId != some binding.captureId then
        .error "EVIDENCE_UNAVAILABLE"
      else .ok artifact
  | none => .error "EVIDENCE_UNAVAILABLE"

def checkImage (bindingId : String) (artifact : RuntimeArtifact) (object : Option StoredObject) :
    Except String EvidenceImage := do
  let image ← object.elim (.error "NoSuchKey") .ok
  throwIf (image.byteLength != artifact.byteSize ||
    artifact.sha256.any fun sha256 => sha256 != "" && image.sha256 != sha256)
    "EVIDENCE_UNAVAILABLE"
  let observation ← artifact.visualObservation.elim (.error "ZodError") .ok
  return {
    bindingId, artifactId := artifact.id, contentType := artifact.contentType
    dataBase64 := image.dataBase64, observation }

def loadImages (bindings : List SavedBinding) (next : List EvidenceImage → Request) :
    List EvidenceImage → List String → Request
  | images, [] => next images
  | images, id :: rest =>
      .check ((bindings.find? fun binding => binding.id == id).elim (.error "TypeError") .ok)
        fun binding =>
      .read (screenshot task binding) fun found =>
      .check (checkArtifact binding found) fun artifact =>
      .read (fun tables => tables.objects.lookup artifact.storageKey) fun object =>
      .check (checkImage id artifact object) fun image =>
      loadImages bindings next (images ++ [image]) rest

def eventOf (id : String) (actor : EventActor) (body : EventBody) : RunEvent :=
  { id := uuid id, teamId := task.snapshot.teamId, runId := task.runId
    attemptId := task.attemptId, taskId := task.id, actor, body }

def fence : String := toString task.fencingToken

def prepareImages (bindingIds : List String) (deliveryId : String) (images : List EvidenceImage)
    (tables : Tables) : Except String (Tables × Answer) := do
  assertLease task tables
  let saved ← create (eventOf task deliveryId .api
    (.imagesPrepared { bindingIds, fencingToken := fence task })) tables
  return (saved, .images deliveryId images)

def images (bindingIds : List String) (deliveryId : String) : Request :=
  .read (bindingRows task bindingIds) fun rows =>
  .check (do
    let bindings ← readBindings platform bindingIds rows
    throwIf (bindings.length != (uniq bindingIds).length) "BINDING_NOT_AVAILABLE"
    return bindings) fun bindings =>
  loadImages task bindings
    (fun images => .transaction (prepareImages task bindingIds deliveryId images)) [] bindingIds

def deliveryOf (input : DeliverInput) : ModelDelivery :=
  { modelRequestId := input.modelRequestId, bindingIds := input.bindingIds
    imageDeliveryId := input.imageDeliveryId, fencingToken := fence task }

/-- The event saved under the id of the request, when it records a delivery of the task. -/
def savedDelivery (modelRequestId : String) (tables : Tables) : Option ModelDelivery :=
  tables.events.findSome? fun event =>
    if event.id == uuid modelRequestId then deliveredBy task event else none

def recordDelivery (input : DeliverInput) (tables : Tables) : Except String (Tables × Answer) := do
  assertLease task tables
  let event := eventOf task input.modelRequestId .agentRuntime
    (.modelDelivered (deliveryOf task input))
  let after := createNew event tables
  throwIf ((savedDelivery task input.modelRequestId after).all fun saved =>
    observationDigest platform.sha256 saved.document !=
      observationDigest platform.sha256 (deliveryOf task input).document) "MODEL_DELIVERY_CONFLICT"
  return (after, .accepted)

def deliver (input : DeliverInput) : Request :=
  .read (fun tables => (ownBindings task (uniq input.bindingIds) tables).length) fun own =>
  .check (throwIf (own != (uniq input.bindingIds).length) "BINDING_NOT_AVAILABLE") fun _ =>
  match input.imageDeliveryId with
  | none => .transaction (recordDelivery platform task input)
  | some deliveryId =>
      .read (imagesPrepared task deliveryId) fun prepared =>
      .check (throwIf (prepared.all fun payload => payload.fencingToken != fence task)
        "IMAGE_DELIVERY_UNAVAILABLE") fun _ =>
      .transaction (recordDelivery platform task input)

structure Requested where
  criterion : SnapshotCriterion
  contract : ReviewContract
  requirement : ComparisonRequirement

def requested (comparisonId : String) : Except String Requested :=
  let asks (requirement : ComparisonRequirement) := requirement.comparisonId == comparisonId
  match task.snapshot.criteria.find? fun criterion =>
      criterion.observationContract.any fun contract => contract.comparisons.any asks with
  | none => .error "COMPARISON_NOT_AVAILABLE"
  | some criterion =>
      match criterion.observationContract with
      | none => .error "COMPARISON_NOT_AVAILABLE"
      | some contract =>
          match contract.comparisons.find? asks with
          | none => .error "COMPARISON_NOT_AVAILABLE"
          | some requirement => .ok { criterion, contract, requirement }

def idsOf (input : ComparisonInput) : List String := [input.bindingIds.1, input.bindingIds.2]

def checkDelivered (input : ComparisonInput) (prepared : Option ImagesPrepared) (delivered : Bool) :
    Except String Unit :=
  throwIf (!delivered || prepared.all fun payload =>
    payload.fencingToken != fence task ||
      (idsOf input).any fun id => !payload.bindingIds.contains id)
    "COMPARISON_IMAGES_NOT_DELIVERED"

def checkSide (asked : Requested) (bindings : List SavedBinding) (targetId bindingId : String) :
    Except String Unit :=
  match bindings.find? fun binding => binding.id == bindingId with
  | none => .error "COMPARISON_BINDING_INVALID"
  | some binding =>
      if binding.targetId != targetId ||
          binding.contractDigest != platform.contractDigest asked.contract ||
          binding.criterionId != asked.criterion.id then
        .error "COMPARISON_BINDING_INVALID"
      else
        match asked.contract.targets.find? fun target => target.targetId == targetId with
        | none => .error "TypeError"
        | some target =>
            throwIf (binding.phase != target.phase || binding.readiness != .ready)
              "COMPARISON_BINDING_INVALID"

def checkBindings (asked : Requested) (input : ComparisonInput) (rows : List BindingRow) :
    Except String Unit := do
  let bindings ← readBindings platform (idsOf input) rows
  checkSide platform asked bindings asked.requirement.subjectTargetId input.bindingIds.1
  checkSide platform asked bindings asked.requirement.referenceTargetId input.bindingIds.2
  throwIf ((asked.requirement.dimensions.any fun name => !input.dimensions.contains name) ||
    input.dimensions.any fun name => !asked.requirement.dimensions.contains name)
    "COMPARISON_DIMENSIONS_REQUIRED"

def checkSuperseded (asked : Requested) (input : ComparisonInput)
    (previous : Option ComparisonReview) : Except String Unit :=
  throwIf (previous.all fun review =>
    review.comparisonId != input.comparisonId ||
      review.contractDigest != platform.contractDigest asked.contract ||
      review.bindingIds != input.bindingIds) "COMPARISON_SUPERSESSION_INVALID"

def between (text : String) (start stop : Nat) : String :=
  String.ofList ((text.toList.drop start).take (stop - start))

def reviewIdOf (deliveryId : String) : String :=
  let reviewKey := observationDigest platform.sha256 (textList [task.attemptId, deliveryId])
  between reviewKey 0 8 ++ "-" ++ between reviewKey 8 12 ++ "-4" ++ between reviewKey 13 16 ++
    "-a" ++ between reviewKey 17 20 ++ "-" ++ between reviewKey 20 32

def reviewFor (asked : Requested) (input : ComparisonInput) : ComparisonReview :=
  { toComparisonInput := input, id := reviewIdOf platform task input.deliveryId
    criterionId := asked.criterion.id, contractDigest := platform.contractDigest asked.contract }

def reviewConflict : String := "COMPARISON_REVIEW_CONFLICT: read images again for a new review."

def sameReview (left right : Shape) (review : ComparisonReview) : Except String Answer := do
  throwIf (observationDigest platform.sha256 left != observationDigest platform.sha256 right)
    reviewConflict
  return .reviewed review

def recordReview (asked : Requested) (input : ComparisonInput) (tables : Tables) :
    Except String (Tables × Answer) := do
  assertLease task tables
  match reviewOfDelivery task input.deliveryId tables with
  | some previous =>
      let answer ← sameReview platform previous.toComparisonInput.document input.document previous
      return (tables, answer)
  | none =>
      let review := reviewFor platform task asked input
      let after := createNew (eventOf task review.id .agentRuntime (.visualReviewed review)) tables
      match savedReview task review.id after with
      | none => .error reviewConflict
      | some saved =>
          let answer ← sameReview platform saved.document review.document saved
          return (after, answer)

def compare (input : ComparisonInput) : Request :=
  .check (requested task input.comparisonId) fun asked =>
  .read (imagesPrepared task input.deliveryId) fun prepared =>
  .read (imagesDelivered task input.deliveryId) fun delivered =>
  .check (checkDelivered task input prepared delivered) fun _ =>
  .read (bindingRows task (idsOf input)) fun rows =>
  .check (checkBindings platform asked input rows) fun _ =>
  match input.supersedesReviewId with
  | none => .transaction (recordReview platform task asked input)
  | some reviewId =>
      .read (savedReview task reviewId) fun previous =>
      .check (checkSuperseded platform asked input previous) fun _ =>
      .transaction (recordReview platform task asked input)

end Operations

end ObservationBindings

end Devproof
