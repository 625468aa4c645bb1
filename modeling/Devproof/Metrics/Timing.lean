import Devproof.Lib.Double
import Devproof.Lib.Json
import Devproof.Lib.Tally

/-!
How a task's wall-clock time is split by activity and by runtime
(`task-metrics.ts`).  Times are integral milliseconds.
-/

namespace Devproof

inductive TaskActivity where
  | model
  | tool
  | platform
  | recovery
  | queue
  | human
  | dependency
  | backoff
  | concurrent
  | mixedWait
  | unknown
  deriving Repr, DecidableEq

def TaskActivity.name : TaskActivity → String
  | .model => "MODEL"
  | .tool => "TOOL"
  | .platform => "PLATFORM"
  | .recovery => "RECOVERY"
  | .queue => "QUEUE"
  | .human => "HUMAN"
  | .dependency => "DEPENDENCY"
  | .backoff => "BACKOFF"
  | .concurrent => "PARALLEL"
  | .mixedWait => "MIXED_WAIT"
  | .unknown => "UNKNOWN"

inductive TaskRuntimeKind where
  | specAnalysis
  | browser
  deriving Repr, DecidableEq

inductive RuntimeTag where
  | specAnalysis
  | browser
  | unassigned
  | overlap
  deriving Repr, DecidableEq

def TaskRuntimeKind.tag : TaskRuntimeKind → RuntimeTag
  | .specAnalysis => .specAnalysis
  | .browser => .browser

inductive RuntimeApplicability where
  | measured
  | partly
  | notApplicable
  | notStarted
  deriving Repr, DecidableEq

structure TimingSpan where
  activity : String
  lane : String
  startedAt : Int
  finishedAt : Option Int
  runtime : Option TaskRuntimeKind := none
  deriving Repr, DecidableEq

structure TaskTimingBucket where
  activity : TaskActivity
  durationMs : Int
  percentage : Option Rat
  deriving Repr, DecidableEq

def waits : List TaskActivity :=
  [.queue, .human, .dependency, .backoff, .mixedWait]

def work : List TaskActivity :=
  [.model, .tool, .platform, .recovery]

def activeActivities : List TaskActivity :=
  [.model, .tool, .platform, .recovery, .concurrent]

def activityIn (activities : List TaskActivity) (name : String) : Option TaskActivity :=
  activities.find? fun activity => activity.name == name

def isWait (name : String) : Bool :=
  (activityIn waits name).isSome

def isWork (name : String) : Bool :=
  (activityIn work name).isSome

def runtimeOrder : List RuntimeTag :=
  [.specAnalysis, .browser, .unassigned, .overlap]

/-! The exclusive activity of a set of spans. -/

/-- The kinds active in one lane, without the structural span around model and tool work. -/
def laneKinds (active : List TimingSpan) (lane : String) : List String :=
  let kinds := uniq ((active.filter fun span => span.lane == lane).map (·.activity))
  if kinds.contains "MODEL" || kinds.contains "TOOL" then
    kinds.filter fun kind => kind != "PLATFORM"
  else kinds

def activeKinds (active : List TimingSpan) : List String :=
  uniq ((uniq (active.map (·.lane))).flatMap (laneKinds active))

def exclusiveActivity (active : List TimingSpan) : TaskActivity :=
  let activities := activeKinds active
  let running := activities.filterMap (activityIn work)
  let waiting := activities.filterMap (activityIn waits)
  if activities.contains "UNKNOWN" then .unknown
  else if running.length > 1 then .concurrent
  else
    match running.head? with
    | some activity => activity
    | none =>
        if waiting.length > 1 then .mixedWait
        else waiting.head?.getD .unknown

def tenthsOf (part total : Int) : Int :=
  mathRound (double (double (part / total) * 1000))

def shareOut (total remaining : Int) : List (TaskActivity × Int) → List TaskTimingBucket
  | [] => []
  | (activity, durationMs) :: rest =>
      let tenths :=
        if ¬ total > 0 then 0
        else if rest = [] then remaining
        else min remaining (tenthsOf durationMs total)
      { activity, durationMs
        percentage := if total > 0 then some (double (tenths / 10)) else none } ::
        shareOut total (remaining - tenths) rest

def bucketShares (total : Int) (entries : List (TaskActivity × Int)) : List TaskTimingBucket :=
  shareOut total 1000 (entries.filter fun entry => entry.2 > 0)

/-! Events of the sweep.  A span is known by its place in the list. -/

def spanEvents (start stop : Int) (entry : TimingSpan × Nat) : List (Int × Nat × Int) :=
  let (span, key) := entry
  -- An unclosed worker span has no measured duration; a durable wait goes on.
  if span.finishedAt.isNone && !isWait span.activity then []
  else
    let opened := max start span.startedAt
    let closed := min stop (span.finishedAt.getD stop)
    if closed ≤ opened then [] else [(opened, key, 1), (closed, key, -1)]

def allSpanEvents (start stop : Int) (spans : List TimingSpan) : List (Int × Nat × Int) :=
  spans.zipIdx.flatMap (spanEvents start stop)

def sortedPoints (points : List Int) : List Int :=
  sortAscending id (uniq points)

def activeSpans (spans : List TimingSpan) (active : List (Nat × Int)) : List TimingSpan :=
  active.filterMap fun entry => spans[entry.1]?

def countSpan (active : List (Nat × Int)) (key : Nat) (delta : Int) : List (Nat × Int) :=
  let count := amount active key + delta
  if count ≠ 0 then setEntry key count active else deleteEntry key active

def countSpans (events : List (Int × Nat × Int)) (point : Int) (active : List (Nat × Int)) :
    List (Nat × Int) :=
  (events.filter fun event => event.1 == point).foldl
    (fun active event => countSpan active event.2.1 event.2.2) active

def bucketLoop (spans : List TimingSpan) (events : List (Int × Nat × Int)) :
    List Int → List (Nat × Int) → List (TaskActivity × Int) → List (TaskActivity × Int)
  | point :: next :: rest, active, totals =>
      let active := countSpans events point active
      let category := exclusiveActivity (activeSpans spans active)
      bucketLoop spans events (next :: rest) active
        (setEntry category (minus (plus (amount totals category) next) point) totals)
  | _, _, totals => totals

def timingBuckets (start stop : Int) (spans : List TimingSpan) : List TaskTimingBucket :=
  if stop < start then []
  else
    let events := allSpanEvents start stop spans
    let sorted := sortedPoints (start :: stop :: events.map Prod.fst)
    let totals := bucketLoop spans events sorted [] []
    if stop = start then [] else bucketShares (minus stop start) totals

structure RuntimeAttemptFact where
  id : String
  stageType : String
  executor : Option String
  createdAt : Int
  finishedAt : Option Int
  deriving Repr, DecidableEq

structure RuntimeRunFact where
  id : String
  createdAt : Int
  finishedAt : Option Int
  deriving Repr, DecidableEq

structure RuntimeSpanFact where
  id : String
  lane : String
  label : String
  activity : String
  scope : Option String
  startedAt : Int
  finishedAt : Option Int
  intervention : Bool := false
  deriving Repr, DecidableEq

structure RuntimeUsageFact where
  id : String
  ownerId : String
  stage : String
  scope : String
  runId : Option String
  deriving Repr, DecidableEq

structure RuntimeProjectionInput where
  taskId : String
  start : Int
  stop : Int
  analysisStageStatus : Option String
  attempts : List RuntimeAttemptFact
  runs : List RuntimeRunFact
  spans : List RuntimeSpanFact
  usages : List RuntimeUsageFact
  deriving Repr, DecidableEq

structure InferenceContext where
  taskId : String
  attemptIds : List String
  runIds : List String
  usages : List RuntimeUsageFact
  deterministicAnalysis : Bool
  deriving Repr, DecidableEq

def usageWith (usages : List RuntimeUsageFact) (id : String) : Option RuntimeUsageFact :=
  usages.reverse.find? fun usage => usage.id == id

/-- What the usage of a model call says about its runtime; `none` where it says nothing. -/
def inferModelRuntime (ctx : InferenceContext) (id : String) : Option (Option TaskRuntimeKind) :=
  if startsWith id "model:" then
    match usageWith ctx.usages (String.ofList (id.toList.drop 6)) with
    | none => none
    | some usage =>
        if usage.scope = "EXECUTION" ∧ usage.stage = "SPEC_ANALYSIS" then
          some (if ctx.deterministicAnalysis then none else some .specAnalysis)
        else if usage.runId.isSome ∨ usage.stage = "SPEC_EXECUTION" then some (some .browser)
        else none
  else none

def inferSpanRuntime (span : RuntimeSpanFact) (ctx : InferenceContext) : Option TaskRuntimeKind :=
  if span.scope = some "ACCEPTANCE_REVIEW" then none
  else if span.intervention then some .browser
  else if span.id = "initial" ∨ startsWith span.id "state:task_executions:" then none
  else if startsWith span.id "state:execution_runs:" ∨
      startsWith span.id "state:task_case_executions:" then some .browser
  else if span.label = "DEPLOYMENT_TARGET_REQUIRED" ∨ startsWith span.label "PROFILE_" then none
  else
    match inferModelRuntime ctx span.id with
    | some inferred => inferred
    | none =>
        if span.lane ≠ ctx.taskId ∧ span.lane ∈ ctx.attemptIds then
          if ctx.deterministicAnalysis then none else some .specAnalysis
        else if span.lane ≠ ctx.taskId ∧ span.lane ∈ ctx.runIds then some .browser
        else none

def analysisAttempts (input : RuntimeProjectionInput) : List RuntimeAttemptFact :=
  input.attempts.filter fun attempt => attempt.stageType == "SPEC_ANALYSIS"

def agentSpan (input : RuntimeProjectionInput) (attempt : RuntimeAttemptFact)
    (span : RuntimeSpanFact) : Bool :=
  span.lane == attempt.id && span.lane != input.taskId &&
    span.scope != some "ACCEPTANCE_REVIEW" &&
    (span.activity == "MODEL" || span.activity == "TOOL" || startsWith span.id "model:" ||
      startsWith span.id "tool:")

def historicalAgentIds (input : RuntimeProjectionInput) : List String :=
  uniq (((analysisAttempts input).filter fun attempt =>
    attempt.executor.isNone &&
      (input.spans.any (agentSpan input attempt) ||
        input.usages.any fun usage =>
          usage.ownerId == attempt.id && usage.stage == "SPEC_ANALYSIS" &&
            usage.scope == "EXECUTION")).map (·.id))

def analysisApplicability (input : RuntimeProjectionInput) (historical : List String) :
    RuntimeApplicability :=
  let attempts := analysisAttempts input
  if attempts.any fun attempt => attempt.executor == some "AGENT_RUNTIME" then .measured
  else if attempts.any fun attempt => historical.contains attempt.id then .partly
  else if attempts != [] && attempts.all fun attempt => attempt.executor == some "DETERMINISTIC" then
    .notApplicable
  else if input.analysisStageStatus = some "SKIPPED" ∨ input.analysisStageStatus = none then
    .notApplicable
  else .notStarted

def pausedByAgent (span : RuntimeSpanFact) (attempts : List RuntimeAttemptFact)
    (agentIds : List String) : Bool :=
  if span.label ≠ "ANALYSIS_INPUT_REQUIRED" then false
  else
    let ended := attempts.filter fun attempt =>
      match attempt.finishedAt with
      | some finishedAt => finishedAt ≤ span.startedAt
      | none => false
    let latest := (ended.filterMap (·.finishedAt)).max?
    ended.any fun attempt => attempt.finishedAt == latest && agentIds.contains attempt.id

structure RuntimeMask where
  runtime : TaskRuntimeKind
  opened : Int
  closed : Int
  deriving Repr, DecidableEq

def classifyRuntime (active : List TimingSpan) (masks : List TaskRuntimeKind) : RuntimeTag :=
  let working := uniq ((active.filter fun span => isWork span.activity).filterMap (·.runtime))
  let waiting := uniq ((active.filter fun span => !isWork span.activity).filterMap (·.runtime))
  let idle := uniq (waiting ++ uniq masks)
  match working with
  | [runtime] => if idle.any fun item => item != runtime then .overlap else runtime.tag
  | _ :: _ => .overlap
  | [] =>
      match idle with
      | [] => .unassigned
      | [runtime] => runtime.tag
      | _ :: _ => .overlap

structure RuntimeSegment where
  start : Int
  stop : Int
  activity : TaskActivity
  runtime : RuntimeTag
  deriving Repr, DecidableEq

def maskEvents (start stop : Int) (mask : RuntimeMask) : List (Int × TaskRuntimeKind × Int) :=
  let opened := max start mask.opened
  let closed := min stop mask.closed
  if closed ≤ opened then [] else [(opened, mask.runtime, 1), (closed, mask.runtime, -1)]

def countMask (covered : List (TaskRuntimeKind × Int)) (runtime : TaskRuntimeKind) (delta : Int) :
    List (TaskRuntimeKind × Int) :=
  let count := amount covered runtime + delta
  if count > 0 then setEntry runtime count covered else deleteEntry runtime covered

def countMasks (events : List (Int × TaskRuntimeKind × Int)) (point : Int)
    (covered : List (TaskRuntimeKind × Int)) : List (TaskRuntimeKind × Int) :=
  (events.filter fun event => event.1 == point).foldl
    (fun covered event => countMask covered event.2.1 event.2.2) covered

def segmentLoop (spans : List TimingSpan) (events : List (Int × Nat × Int))
    (maskEvents : List (Int × TaskRuntimeKind × Int)) :
    List Int → List (Nat × Int) → List (TaskRuntimeKind × Int) → List RuntimeSegment
  | point :: next :: rest, active, covered =>
      let active := countSpans events point active
      let covered := countMasks maskEvents point covered
      let later := segmentLoop spans events maskEvents (next :: rest) active covered
      if next ≤ point then later
      else
        { start := point
          stop := next
          activity := exclusiveActivity (activeSpans spans active)
          runtime := classifyRuntime (activeSpans spans active) (covered.map Prod.fst) } :: later
  | _, _, _ => []

def sweep (start stop : Int) (spans : List TimingSpan) (masks : List RuntimeMask) :
    List RuntimeSegment :=
  let events := allSpanEvents start stop spans
  let maskEvents := masks.flatMap (maskEvents start stop)
  let sorted :=
    sortedPoints (start :: stop :: (events.map Prod.fst ++ maskEvents.map Prod.fst))
  segmentLoop spans events maskEvents sorted [] []

def mergeFrom (last : RuntimeSegment) : List RuntimeSegment → List RuntimeSegment
  | [] => [last]
  | segment :: rest =>
      if last.stop = segment.start ∧ last.activity = segment.activity ∧
          last.runtime = segment.runtime then
        mergeFrom { last with stop := segment.stop } rest
      else last :: mergeFrom segment rest

def mergeSegments : List RuntimeSegment → List RuntimeSegment
  | [] => []
  | segment :: rest => mergeFrom segment rest

structure Partition where
  activeMs : Int := 0
  waitingMs : Int := 0
  unknownMs : Int := 0
  deriving Repr, DecidableEq

def Partition.add (part : Partition) (activity : TaskActivity) (dt : Int) : Partition :=
  if activeActivities.contains activity then { part with activeMs := plus part.activeMs dt }
  else if waits.contains activity then { part with waitingMs := plus part.waitingMs dt }
  else { part with unknownMs := plus part.unknownMs dt }

structure Tally where
  activityTotals : List (TaskActivity × Int) := []
  occupied : RuntimeTag → Int := fun _ => 0
  activities : RuntimeTag → List (TaskActivity × Int) := fun _ => []
  partition : RuntimeTag → Partition := fun _ => {}

def bump (totals : List (TaskActivity × Int)) (activity : TaskActivity) (dt : Int) :
    List (TaskActivity × Int) :=
  setEntry activity (plus (amount totals activity) dt) totals

def Tally.add (tally : Tally) (segment : RuntimeSegment) : Tally :=
  let dt := minus segment.stop segment.start
  let atTag {α : Type} (field : RuntimeTag → α) (change : α → α) : RuntimeTag → α :=
    fun tag => if tag = segment.runtime then change (field tag) else field tag
  { activityTotals := bump tally.activityTotals segment.activity dt
    occupied := atTag tally.occupied fun total => plus total dt
    activities := atTag tally.activities fun totals => bump totals segment.activity dt
    partition := atTag tally.partition fun part => part.add segment.activity dt }

structure TaskRuntimeResidual where
  occupiedMs : Int
  percentage : Option Rat
  activeMs : Int
  waitingMs : Int
  unknownMs : Int
  buckets : List TaskTimingBucket
  deriving Repr, DecidableEq

structure Cumulative where
  modelMs : Int := 0
  toolMs : Int := 0
  platformMs : Int := 0
  recoveryMs : Int := 0
  deriving Repr, DecidableEq

structure TaskRuntimeTiming extends TaskRuntimeResidual where
  runtime : TaskRuntimeKind
  applicability : RuntimeApplicability
  cumulative : Cumulative
  deriving Repr, DecidableEq

structure RuntimeProjection where
  elapsedMs : Option Int
  buckets : List TaskTimingBucket
  segments : List RuntimeSegment
  runtimes : List TaskRuntimeTiming
  unassigned : TaskRuntimeResidual
  overlap : TaskRuntimeResidual
  occupiedMs : Int
  ok : Bool
  deriving Repr, DecidableEq

def tagShareLoop (elapsed : Int) (occupied : RuntimeTag → Int) (last : Option RuntimeTag)
    (remaining : Int) : List RuntimeTag → List (RuntimeTag × Rat)
  | [] => []
  | tag :: rest =>
      if occupied tag ≤ 0 then (tag, 0) :: tagShareLoop elapsed occupied last remaining rest
      else
        let tenths :=
          if some tag = last then remaining
          else min remaining (tenthsOf (occupied tag) elapsed)
        (tag, double (tenths / 10)) ::
          tagShareLoop elapsed occupied last (remaining - tenths) rest

def tagShares (elapsed : Int) (occupied : RuntimeTag → Int) (tag : RuntimeTag) : Option Rat :=
  if ¬ elapsed > 0 then none
  else
    let positive := runtimeOrder.filter fun tag => occupied tag > 0
    (tagShareLoop elapsed occupied positive.getLast? 1000 runtimeOrder).lookup tag

def Cumulative.add (counts : Cumulative) (activity : TaskActivity) (dt : Int) : Cumulative :=
  match activity with
  | .model => { counts with modelMs := plus counts.modelMs dt }
  | .tool => { counts with toolMs := plus counts.toolMs dt }
  | .platform => { counts with platformMs := plus counts.platformMs dt }
  | .recovery => { counts with recoveryMs := plus counts.recoveryMs dt }
  | _ => counts

/-- Closed work spans of one runtime add up their time in the window, overlaps included. -/
def cumulativeOf (start stop : Int) (runtime : TaskRuntimeKind) (timed : List TimingSpan) :
    Cumulative :=
  timed.foldl (fun counts span =>
    match span.finishedAt, activityIn work span.activity with
    | some finishedAt, some activity =>
        let opened := max start span.startedAt
        let closed := min stop finishedAt
        if span.runtime = some runtime ∧ opened < closed then
          counts.add activity (minus closed opened)
        else counts
    | _, _ => counts) {}

def sumOf {α : Type} (value : α → Int) (items : List α) : Int :=
  items.foldl (fun sum item => plus sum (value item)) 0

def durationOf (buckets : List TaskTimingBucket) (activity : TaskActivity) : Int :=
  match buckets.find? fun bucket => bucket.activity == activity with
  | some bucket => bucket.durationMs
  | none => 0

def partHolds (part : TaskRuntimeResidual) : Bool :=
  sumOf (·.durationMs) part.buckets == part.occupiedMs &&
    plus (plus part.activeMs part.waitingMs) part.unknownMs == part.occupiedMs

def invariantHolds (elapsedMs : Option Int) (buckets : List TaskTimingBucket)
    (parts : List TaskRuntimeResidual) : Bool :=
  match elapsedMs with
  | none => true
  | some elapsed =>
      if ¬ elapsed > 0 then true
      else
        let names := uniq (buckets.map (·.activity) ++
          parts.flatMap fun part => part.buckets.map (·.activity))
        let globalBy (activities : List TaskActivity) :=
          sumOf (·.durationMs) (buckets.filter fun bucket => activities.contains bucket.activity)
        sumOf (·.durationMs) buckets == elapsed &&
          sumOf (·.occupiedMs) parts == elapsed &&
          parts.all partHolds &&
          names.all (fun activity =>
            durationOf buckets activity == sumOf (fun part => durationOf part.buckets activity) parts) &&
          sumOf (·.activeMs) parts == globalBy activeActivities &&
          sumOf (·.waitingMs) parts == globalBy waits &&
          sumOf (·.unknownMs) parts == globalBy [.unknown]

section Projection

variable (input : RuntimeProjectionInput)

def elapsedOf : Option Int :=
  if input.start ≤ input.stop then some (minus input.stop input.start) else none

def inferenceContext : InferenceContext where
  taskId := input.taskId
  attemptIds := (analysisAttempts input).map (·.id)
  runIds := input.runs.map (·.id)
  usages := input.usages
  deterministicAnalysis :=
    analysisAttempts input != [] &&
      (analysisAttempts input).all fun attempt => attempt.executor == some "DETERMINISTIC"

def executionSpans : List RuntimeSpanFact :=
  input.spans.filter fun span => span.scope != some "ACCEPTANCE_REVIEW"

def timedSpan (runtime : Option TaskRuntimeKind) (span : RuntimeSpanFact) : TimingSpan where
  activity := span.activity
  lane := span.lane
  startedAt := span.startedAt
  finishedAt := span.finishedAt
  runtime := runtime

def timedSpans : List TimingSpan :=
  (executionSpans input).map fun span => timedSpan (inferSpanRuntime span (inferenceContext input)) span

def caseWaits : List RuntimeSpanFact :=
  (executionSpans input).filter fun span =>
    startsWith span.id "state:task_case_executions:" &&
      !(input.runs.map (·.id)).contains span.lane

def agentAttempts : List RuntimeAttemptFact :=
  (analysisAttempts input).filter fun attempt =>
    attempt.executor == some "AGENT_RUNTIME" || (historicalAgentIds input).contains attempt.id

def runtimeMasks : List RuntimeMask :=
  let closing (finishedAt : Option Int) := finishedAt.getD input.stop
  let agentIds := (agentAttempts input).map (·.id)
  ((agentAttempts input).map fun attempt =>
    { runtime := .specAnalysis, opened := attempt.createdAt, closed := closing attempt.finishedAt }) ++
  (((executionSpans input).filter fun span =>
    pausedByAgent span (analysisAttempts input) agentIds).map fun span =>
      { runtime := .specAnalysis, opened := span.startedAt, closed := closing span.finishedAt }) ++
  (input.runs.map fun run =>
    { runtime := .browser, opened := run.createdAt, closed := closing run.finishedAt }) ++
  (caseWaits input).map fun span =>
    { runtime := .browser, opened := span.startedAt, closed := closing span.finishedAt }

def projectedSegments : List RuntimeSegment :=
  match elapsedOf input with
  | none => []
  | some _ => sweep input.start input.stop (timedSpans input) (runtimeMasks input)

def applicabilityOf : TaskRuntimeKind → RuntimeApplicability
  | .specAnalysis => analysisApplicability input (historicalAgentIds input)
  | .browser => if input.runs ≠ [] ∨ caseWaits input ≠ [] then .measured else .notStarted

def residual (tally : Tally) (tag : RuntimeTag) : TaskRuntimeResidual where
  occupiedMs := tally.occupied tag
  percentage := tagShares ((elapsedOf input).getD 0) tally.occupied tag
  activeMs := (tally.partition tag).activeMs
  waitingMs := (tally.partition tag).waitingMs
  unknownMs := (tally.partition tag).unknownMs
  buckets := bucketShares (tally.occupied tag) (tally.activities tag)

def runtimeTiming (tally : Tally) (runtime : TaskRuntimeKind) : TaskRuntimeTiming where
  toTaskRuntimeResidual := residual input tally runtime.tag
  runtime := runtime
  applicability := applicabilityOf input runtime
  cumulative :=
    match elapsedOf input with
    | none => {}
    | some _ => cumulativeOf input.start input.stop runtime (timedSpans input)

def projectRuntimeTiming : RuntimeProjection :=
  let segments := projectedSegments input
  let tally := segments.foldl Tally.add {}
  let buckets :=
    match elapsedOf input with
    | none => []
    | some elapsed => if elapsed = 0 then [] else bucketShares elapsed tally.activityTotals
  let runtimes := [runtimeTiming input tally .specAnalysis, runtimeTiming input tally .browser]
  let unassigned := residual input tally .unassigned
  let overlap := residual input tally .overlap
  { elapsedMs := elapsedOf input
    buckets
    segments := mergeSegments segments
    runtimes
    unassigned
    overlap
    occupiedMs := sumOf tally.occupied runtimeOrder
    ok := invariantHolds (elapsedOf input) buckets
      (runtimes.map (·.toTaskRuntimeResidual) ++ [unassigned, overlap]) }

end Projection

end Devproof
