import Devproof.Lib.Paging
import Devproof.Observation.BindingService
import Mathlib.Data.String.Basic

/-!
Reading the bindings and reviews of an attempt in pages: `read` of
`observation-binding.service.ts`.
-/

namespace Devproof.BindingPages

open ObservationBindings

structure TokenValue where
  attemptId : String
  kind : String
  after : Option String
  deriving Repr, DecidableEq

structure Platform extends ObservationBindings.Platform where
  /-- `Buffer.byteLength(JSON.stringify(reviews))`. -/
  reviewsLength : List ComparisonReview → Nat
  /-- `Buffer.from(JSON.stringify(value)).toString("base64url")`. -/
  encodeToken : TokenValue → String
  /-- `JSON.parse(Buffer.from(token, "base64url").toString("utf8"))`; `none` where it throws, or
  a member is no text. -/
  decodeToken : String → Option TokenValue
  /-- `z.string().uuid().safeParse(text).success`. -/
  isUuid : String → Bool

structure EventRow where
  event : RunEvent
  createdAt : Int

structure Stored where
  bindings : List BindingRow
  events : List EventRow
  evidence : List RunEvidence

structure ReadInput where
  bindingIds : Option (List String) := none
  continuationToken : Option String := none

inductive ReadKind where
  | binding
  | review
  deriving Repr, DecidableEq

inductive NextAction where
  | continuationToken (token : String)
  | bindingIds (ids : List String)
  deriving Repr, DecidableEq

structure Page where
  bindings : List SavedBinding
  /-- The artifacts of the bindings' evidence, with its kind. -/
  artifacts : List (String × EvidenceKind)
  reviews : List ComparisonReview
  continuationToken : Option String
  omittedBindingIds : List String
  nextAction : Option NextAction

section Reading

variable (platform : Platform) (task : ObservationBindings.AgentRuntimeTask)

def isCurrent (createdAt : Int) : Bool :=
  task.snapshot.accountRevisionStartedAt.all fun since => since ≤ createdAt

def storedBindings (stored : Stored) : List BindingRow :=
  (stored.bindings.filter fun row =>
    ofAttempt task row.runId row.attemptId && isCurrent task row.createdAt).insertionSort
      fun first second => first.id ≤ second.id

def reviewOf (row : EventRow) : Option ComparisonReview :=
  if isCurrent task row.createdAt then
    (reviewBy task row.event).map fun review => { review with id := row.event.id }
  else none

def storedReviews (stored : Stored) : List ComparisonReview :=
  (stored.events.filterMap (reviewOf task)).insertionSort fun first second => first.id ≤ second.id

def token (kind : String) (after : Option String) : String :=
  platform.encodeToken { attemptId := task.attemptId, kind, after }

def kindOf (kind : String) : Option ReadKind :=
  if kind = "BINDING" then some .binding else if kind = "REVIEW" then some .review else none

def nonempty (text : Option String) : Option String :=
  text.filter (· ≠ "")

def invalidToken : String :=
  "INVALID_CONTINUATION_TOKEN: restart observation-bindings/read without a token."

def position (input : ReadInput) : Except String (ReadKind × Option String) :=
  match nonempty input.continuationToken with
  | none => .ok (.binding, none)
  | some text =>
      match platform.decodeToken text with
      | none => .error invalidToken
      | some value =>
          match kindOf value.kind with
          | none => .error invalidToken
          | some kind =>
              if value.attemptId ≠ task.attemptId ∨
                  ((nonempty value.after).any fun after => !platform.isUuid after) then
                .error invalidToken
              else .ok (kind, nonempty value.after)

def reviewPage (stored : Stored) (after : Option String) : Page :=
  let rows := (itemsAfter ComparisonReview.id after (storedReviews task stored)).take 11
  let reviews := fitting (fun reviews => decide (24 * 1024 < platform.reviewsLength reviews)) []
    (rows.take 10)
  let continuationToken :=
    if rows.length > reviews.length ∧ reviews ≠ [] then
      some (token platform task "REVIEW" (reviews.getLast?.map (·.id)))
    else none
  { bindings := []
    artifacts := []
    reviews
    continuationToken
    omittedBindingIds := []
    nextAction := continuationToken.map .continuationToken }

def pageRows (stored : Stored) (bindingIds : Option (List String)) (after : Option String) :
    List BindingRow :=
  match bindingIds with
  | some ids =>
      ((storedBindings task stored).filter fun row => ids.any fun id => uuid id == row.id).take 21
  | none => (itemsAfter BindingRow.id after (storedBindings task stored)).take 21

def artifactsOf (stored : Stored) (bindings : List SavedBinding) : List (String × EvidenceKind) :=
  (stored.evidence.filter fun evidence =>
    ofAttempt task evidence.runId evidence.attemptId &&
      (bindings.flatMap (·.evidenceRefs)).contains evidence.externalId).filterMap fun evidence =>
    evidence.runtimeArtifact.map fun artifact => (artifact.id, evidence.kind)

def bindingPage (stored : Stored) (bindingIds : Option (List String)) (after : Option String) :
    Except String Page := do
  let rows := pageRows task stored bindingIds after
  let bindings := withinBudget platform.toPlatform [] (rows.take 20)
  let continuationToken :=
    if bindingIds.isSome then none
    else if rows.length > bindings.length ∧ bindings ≠ [] then
      some (token platform task "BINDING" (bindings.getLast?.map (·.id)))
    else some (token platform task "REVIEW" none)
  throwIf (bindingIds.any fun ids => rows.length != (uniq ids).length) "BINDING_NOT_AVAILABLE"
  throwIf (!rows.isEmpty && bindings.isEmpty) "BINDING_READ_BUDGET_EXCEEDED"
  let omittedBindingIds := (bindingIds.getD []).filter fun id =>
    !bindings.any fun binding => binding.id == id
  return {
    bindings
    artifacts := artifactsOf task stored bindings
    reviews := []
    continuationToken
    omittedBindingIds
    nextAction :=
      match continuationToken with
      | some text => some (.continuationToken text)
      | none => if omittedBindingIds = [] then none else some (.bindingIds omittedBindingIds) }

def read (stored : Stored) (input : ReadInput) : Except String Page := do
  let start ← position platform task input
  match start.1 with
  | .review => return reviewPage platform task stored start.2
  | .binding => bindingPage platform task stored input.bindingIds start.2

abbrev Collected :=
  Except String (List SavedBinding × List ComparisonReview)

def follow (stored : Stored) : Nat → Option String → Option Collected
  | 0, _ => none
  | fuel + 1, continuationToken =>
      match read platform task stored { continuationToken } with
      | .error failure => some (.error failure)
      | .ok page =>
          match page.continuationToken with
          | none => some (.ok (page.bindings, page.reviews))
          | some next => (follow stored fuel (some next)).map fun collected =>
              collected.map fun later => (page.bindings ++ later.1, page.reviews ++ later.2)

def readAll (stored : Stored) : Nat → List String → Option (Except String (List SavedBinding))
  | 0, _ => none
  | fuel + 1, ids =>
      match read platform task stored { bindingIds := some ids } with
      | .error failure => some (.error failure)
      | .ok page =>
          if page.omittedBindingIds = [] then some (.ok page.bindings)
          else (readAll stored fuel page.omittedBindingIds).map fun collected =>
            collected.map fun later => page.bindings ++ later

end Reading

end Devproof.BindingPages
