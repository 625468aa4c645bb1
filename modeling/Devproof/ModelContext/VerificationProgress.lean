import Mathlib.Data.List.Dedup
import Devproof.Lib.JsonOrder

/-!
When a verification that repeats itself is stopped
(`verification-progress.ts`).
-/

namespace Devproof.VerificationProgress

open Parsing

def REPEATED_STEPS : Nat := 8
def POLLING_GRACE_MS : Rat := 60000
def MAX_REPEATED_STEPS : Nat := 24
def TEXT_ONLY_STEPS : Nat := 4

def word (literal : String) : Text :=
  literal.toList.map code

def VOLATILE_KEYS : List Text :=
  ["commandId", "call_id", "sessionId", "artifactId", "artifacts", "evidenceRefs", "createdAt",
    "updatedAt", "startedAt", "finishedAt", "timestamp", "durationMs", "latencyMs", "deadlineAt",
    "fencingToken", "leaseToken", "locatorRecoveryToken", "timeoutSeconds", "timeoutMs", "ref",
    "nodeId", "backendNodeId", "byteSize", "dataBase64", "visualObservationId", "observationId",
    "stepIntent"].map word

def OBSERVATION_KEYS : List Text :=
  ["content", "text", "url", "title", "values", "value", "entries", "tabs", "activeTabId", "hit",
    "policies", "checked", "selected"].map word

structure Platform where
  formatNumber : Rat → Text
  localeCompare : Text → Text → Int
  sha256 : Text → Text
  normalizeObservationContent : Text → Text
  /-- `/\[ref=(?:f\d+)?e\d+\]/u.test(content)`. -/
  hasRef : Text → Bool
  /-- A line without its margins, its box and a regenerated group name. -/
  plainLine : Text → Text
  /-- `String(value)`. -/
  stringOf : Option Value → Text
  /-- `Number(value)`. -/
  numberOf : Option Value → Number
  toUpperCase : Text → Text
  /-- The readings of the clock, one after another. -/
  now : Nat → Rat

def record : Value → List (Text × Value)
  | .obj members => members
  | _ => []

def member (value : Value) (key : String) : Option Value :=
  (record value).lookup (word key)

def recordAt (value : Value) (key : String) : Value :=
  .obj (((member value key).map record).getD [])

def textAt (value : Value) (key : String) : Option Text :=
  match member value key with
  | some (.str text) => some text
  | _ => none

def truthy : Value → Bool
  | .null => false
  | .bool value => value
  | .num number => number != .finite 0 && number != .negativeZero
  | .str text => text != []
  | _ => true

def defined (members : List (String × Option Value)) : Value :=
  .obj (members.filterMap fun entry => entry.2.map fun value => (word entry.1, value))

section Platform

variable (platform : Platform)

def Platform.before (left right : Text) : Prop :=
  platform.localeCompare left right ≤ 0

instance : DecidableRel platform.before := fun _ _ => inferInstanceAs (Decidable (_ ≤ _))

mutual
def stable : Value → Value
  | .str text => .str (platform.normalizeObservationContent text)
  | .arr items => .arr (stableItems items)
  | .obj members => .obj (ofMembers (byName platform.before (stableMembers members)))
  | value => value

def stableItems : List Value → List Value
  | [] => []
  | item :: rest => stable item :: stableItems rest

def stableMembers : List (Text × Value) → List (Text × Value)
  | [] => []
  | (key, child) :: rest =>
      if key ∈ VOLATILE_KEYS then stableMembers rest
      else (key, stable child) :: stableMembers rest
end

def fingerprint (value : Value) : Text :=
  platform.sha256 (stringify platform.formatNumber (stable platform value))

end Platform

theorem member_weight {value child : Value} {key : String} (found : member value key = some child) :
    child.weight < value.weight := by
  cases value with
  | obj members =>
      obtain ⟨before, after, rfl, -⟩ := List.lookup_eq_some_iff.mp found
      have inside : (word key, child) ∈ before ++ (word key, child) :: after := by simp
      exact Nat.lt_succ_of_le (weight_le_members inside)
  | null | bool | num | str | arr => simp [member, record] at found

def observed (members : List (Text × Value)) : List (Text × Value) :=
  members.filter fun entry => entry.1 ∈ OBSERVATION_KEYS

def artifactFacts (artifacts : List Value) : List Value :=
  artifacts.filterMap fun artifact =>
    match member artifact "kind", member artifact "sha256" with
    | some (.str kind), some (.str sha256) =>
        if kind = word "SCREENSHOT" ∨ kind = word "DOM_SNAPSHOT" then
          some (.obj [(word "kind", .str kind), (word "contentHash", .str sha256)])
        else none
    | _, _ => none

def pageObservations (includeVisual : Bool) (output : Value) : List Value :=
  let result := member output "result"
  let cached :=
    if (textAt output "content").isSome then [.obj (observed (record output))] else []
  let enveloped :=
    match result with
    | some (.obj inner) => if observed inner = [] then [] else [.obj (observed inner)]
    | _ => []
  let interacted := (result.bind fun result => member result "interaction").any truthy
  let visual :=
    match member output "artifacts" with
    | some (.arr artifacts) =>
        if includeVisual && !(cached ++ enveloped).any (fun value =>
            (textAt value "content").isSome) && !interacted then artifactFacts artifacts
        else []
    | _ => []
  let recovered :=
    match _recovery : member output "locatorRecovery" with
    | some recoveryValue =>
        match _snapshot : member recoveryValue "snapshot" with
        | some snapshotValue => pageObservations includeVisual snapshotValue
        | none => []
    | none => []
  cached ++ enveloped ++ visual ++ recovered
termination_by output.weight
decreasing_by exact (member_weight _snapshot).trans (member_weight _recovery)

section Platform

variable (platform : Platform)

def observationFacts (value : Value) : List Value :=
  match textAt value "content" with
  | some content =>
      if platform.hasRef content then
        let metadata := .obj ((record value).filter fun entry => entry.1 ≠ word "content")
        let lines := (platform.normalizeObservationContent content).splitOn (code '\n')
        metadata :: ((lines.map platform.plainLine).filter fun line =>
            (word "- ").isPrefixOf line).map fun line =>
          defined [("url", member value "url"), ("node", some (.str line))]
      else [value]
  | none => [value]

def progressFacts (output : Value) (includeVisual : Bool) : List Value :=
  (pageObservations includeVisual output).flatMap (observationFacts platform)

end Platform

structure Criterion where
  criterionId : Text
  status : Text
  evidenceKinds : List Text
  deriving Repr, DecidableEq

def Criterion.value (criterion : Criterion) : Value :=
  .obj [(word "criterionId", .str criterion.criterionId), (word "status", .str criterion.status),
    (word "evidenceKinds", .arr (criterion.evidenceKinds.map .str))]

structure ToolInput where
  name : Text
  arguments : Text
  output : Value
  criteria : List Criterion

structure FormAction where
  count : Nat
  startedAt : Rat
  deriving Repr, DecidableEq

structure Progress where
  operations : List Text := []
  observations : List Text := []
  criteria : List Text := []
  formActions : List (Text × FormAction) := []
  semanticObservations : List Text := []
  rejectedSubmissions : List (Text × Nat) := []
  observedRejections : List Text := []
  evidenceCorrections : List (Text × Nat) := []
  evidenceSubmissionCriterionId : Option Text := none
  evidenceSubmissionFailed : Bool := false
  evidenceSubmissionError : Option Text := none
  interactions : List (Text × Value) := []
  repeatedSteps : Nat := 0
  textOnlySteps : Nat := 0
  lastProgressAt : Rat
  semanticProgress : Bool := false
  progressSequence : Nat := 0
  reads : Nat

def withKey (key : Text) (keys : List Text) : List Text :=
  if key ∈ keys then keys else keys ++ [key]

def put {α : Type} (key : Text) (value : α) (entries : List (Text × α)) : List (Text × α) :=
  (key, value) :: entries.filter fun entry => entry.1 ≠ key

def remove {α : Type} (key : Text) (entries : List (Text × α)) : List (Text × α) :=
  entries.filter fun entry => entry.1 ≠ key

section Steps

variable (platform : Platform)

def started : Progress where
  lastProgressAt := platform.now 0
  reads := 1

def discover (state : Progress) (key : Text) : Progress :=
  if key ∈ state.semanticObservations then state
  else { state with
    semanticObservations := state.semanticObservations ++ [key]
    formActions := [] }

def semanticFacts (output : Value) : List Text :=
  (progressFacts platform output false).map (fingerprint platform)

def discoverObservations (state : Progress) (output : Value) : Progress :=
  (semanticFacts platform output).foldl discover state

def discovers (state : Progress) (output : Value) : Bool :=
  (semanticFacts platform output).any fun key => key ∉ state.semanticObservations

def observe (state : Progress) (output : Value) : Progress :=
  let next := discoverObservations platform state output
  if discovers platform state output then
    { next with
      semanticProgress := true
      progressSequence := state.progressSequence + 1
      repeatedSteps := 0
      lastProgressAt := platform.now state.reads
      reads := state.reads + 1 }
  else { next with semanticProgress := false }

def textOnly (state : Progress) : Bool × Progress :=
  (TEXT_ONLY_STEPS ≤ state.textOnlySteps + 1,
    { state with textOnlySteps := state.textOnlySteps + 1 })

def noteCriterion (state : Progress) (criterion : Criterion) : Progress :=
  let key := fingerprint platform criterion.value
  if key ∈ state.criteria then state
  else { state with
    criteria := state.criteria ++ [key]
    formActions := []
    semanticProgress := true }

def newCriterion (state : Progress) (input : ToolInput) : Bool :=
  input.criteria.any fun criterion => fingerprint platform criterion.value ∉ state.criteria

def visualFacts (output : Value) : List Text :=
  (progressFacts platform output true).map (fingerprint platform)

def makesProgress (state : Progress) (input : ToolInput) : Bool :=
  newCriterion platform state input ||
    (visualFacts platform input.output).any fun key => key ∉ state.observations

def noteFacts (state : Progress) (input : ToolInput) : Progress :=
  let opened := { state with
    textOnlySteps := 0
    evidenceSubmissionFailed := false
    evidenceSubmissionCriterionId := none
    semanticProgress := false }
  let noted := input.criteria.foldl (noteCriterion platform) opened
  let semantic := discovers platform noted input.output || noted.semanticProgress
  let discovered := discoverObservations platform noted input.output
  { discovered with
    semanticProgress := semantic
    progressSequence :=
      if semantic then discovered.progressSequence + 1 else discovered.progressSequence
    observations := (visualFacts platform input.output).foldl (fun keys key => withKey key keys)
      discovered.observations }

def argumentsValue (input : ToolInput) : Value :=
  (parse input.arguments).getD (.str input.arguments)

def isRejected (input : ToolInput) : Bool :=
  match member input.output "accepted" with
  | some (.bool false) => true
  | _ => false

def rejectedCriterion (input : ToolInput) : Option Text :=
  if isRejected input ∧ (input.name = word "record_criterion" ∨
      input.name = word "finish_verification") then
    textAt input.output "criterionId"
  else none

def correct (state : Progress) (input : ToolInput) : Bool × Progress :=
  match rejectedCriterion input with
  | none => (false, state)
  | some criterionId =>
      let count := (state.evidenceCorrections.lookup criterionId).getD 0 + 1
      let counted := { state with
        evidenceCorrections := put criterionId count state.evidenceCorrections }
      if 3 ≤ count then
        (true, { counted with
          evidenceSubmissionFailed := true
          evidenceSubmissionCriterionId := some criterionId
          evidenceSubmissionError := textAt input.output "error" })
      else (false, counted)

def criterionId (input : ToolInput) : Option Value :=
  member (argumentsValue input) "criterionId"

def settle (state : Progress) (input : ToolInput) : Progress :=
  match criterionId input with
  | some (.str criterionId) =>
      if !isRejected input ∧ input.name = word "record_criterion" then
        { state with evidenceCorrections := remove criterionId state.evidenceCorrections }
      else state
  | _ => state

def interaction (input : ToolInput) : Value :=
  recordAt (recordAt input.output "result") "interaction"

def feedback (input : ToolInput) : Value :=
  recordAt (recordAt input.output "result") "actionFeedback"

def hasTarget (input : ToolInput) : Bool :=
  (textAt (interaction input) "targetKey").isSome && (textAt (interaction input) "stateKey").isSome

def noteInteraction (state : Progress) (input : ToolInput) : Progress :=
  match textAt (feedback input) "commandId" with
  | some commandId =>
      if hasTarget input then
        { state with interactions := put commandId (interaction input) state.interactions }
      else state
  | none => state

def isRejectedRequest (request : Value) : Bool :=
  platform.numberOf (member (.obj (record request)) "status") ∈
      [Number.finite 400, .finite 409, .finite 422] &&
    platform.toUpperCase (platform.stringOf (member (.obj (record request)) "method")) ∈
      ["POST", "PUT", "PATCH", "DELETE"].map word

def hasRejectedRequest (input : ToolInput) : Bool :=
  match member (feedback input) "requests" with
  | some (.arr requests) => requests.any (isRejectedRequest platform)
  | _ => false

/-- A rejected submission counts once for its action; the third of a form stops the run. -/
def noteRejection (state : Progress) (input : ToolInput) : Bool × Progress :=
  match textAt (feedback input) "commandId" with
  | none => (false, state)
  | some commandId =>
      match state.interactions.lookup commandId with
      | none => (false, state)
      | some interaction =>
          if hasRejectedRequest platform input ∧ commandId ∉ state.observedRejections then
            let key := fingerprint platform interaction
            let count := (state.rejectedSubmissions.lookup key).getD 0 + 1
            (3 ≤ count, { state with
              observedRejections := state.observedRejections ++ [commandId]
              rejectedSubmissions := put key count state.rejectedSubmissions })
          else (false, state)

def noteForm (state : Progress) (input : ToolInput) : Bool × Progress :=
  if hasTarget input then
    let key := fingerprint platform (interaction input)
    let known := state.formActions.lookup key
    let action := known.getD { count := 0, startedAt := platform.now state.reads }
    let reads := if known.isSome then state.reads else state.reads + 1
    let counted := { action with count := action.count + 1 }
    let noted := { state with formActions := put key counted state.formActions, reads }
    if MAX_REPEATED_STEPS < counted.count then (true, noted)
    else if REPEATED_STEPS < counted.count then
      (POLLING_GRACE_MS ≤ platform.now noted.reads - counted.startedAt,
        { noted with reads := noted.reads + 1 })
    else (false, noted)
  else (false, state)

def commandType (input : ToolInput) : Option Value :=
  member (argumentsValue input) "commandType"

def operationArguments (input : ToolInput) : Option Value :=
  if input.name = word "record_criterion" then
    (input.criteria.find? fun criterion =>
      textAt (argumentsValue input) "criterionId" = some criterion.criterionId).map Criterion.value
  else if hasTarget input then
    some (defined [("commandType", commandType input), ("interaction", some (interaction input))])
  else if input.name = word "read_observation" then
    some (defined [("commandType", some (.str (word "read_observation")))])
  else if platform.stringOf (commandType input) ∈
      ["page.snapshot", "frame.snapshot", "page.screenshot"].map word then
    some (defined [("commandType", commandType input)])
  else some (argumentsValue input)

def operation (input : ToolInput) : Text :=
  fingerprint platform (defined
    (if isRejected input then [("name", some (.str input.name)), ("rejected", some (.bool true))]
    else [("name", some (.str input.name)), ("arguments", operationArguments platform input)]))

def count (progress : Bool) (state : Progress) (input : ToolInput) : Progress :=
  let key := operation platform input
  let known := { state with operations := withKey key state.operations }
  if progress then
    { known with
      repeatedSteps := 0, lastProgressAt := platform.now state.reads, reads := state.reads + 1 }
  else if key ∈ state.operations then { known with repeatedSteps := state.repeatedSteps + 1 }
  else known

def stops (state : Progress) : Bool × Progress :=
  if MAX_REPEATED_STEPS ≤ state.repeatedSteps then (true, state)
  else if REPEATED_STEPS ≤ state.repeatedSteps then
    (POLLING_GRACE_MS ≤ platform.now state.reads - state.lastProgressAt,
      { state with reads := state.reads + 1 })
  else (false, state)

def tool (state : Progress) (input : ToolInput) : Bool × Progress :=
  let noted := noteFacts platform state input
  let corrected := correct noted input
  if corrected.1 then corrected
  else
    let rejected := noteRejection platform (noteInteraction (settle corrected.2 input) input) input
    if rejected.1 then rejected
    else
      let formed := noteForm platform rejected.2 input
      if formed.1 then formed
      else stops platform (count platform (makesProgress platform state input) formed.2 input)

end Steps

/-! What the steps of a call leave alone. -/

structure Untouched (before after : Progress) : Prop where
  operations : after.operations = before.operations
  repeatedSteps : after.repeatedSteps = before.repeatedSteps

theorem Untouched.refl (state : Progress) : Untouched state state :=
  ⟨rfl, rfl⟩

theorem Untouched.trans {first second third : Progress} (here : Untouched first second)
    (later : Untouched second third) : Untouched first third :=
  ⟨later.operations.trans here.operations, later.repeatedSteps.trans here.repeatedSteps⟩

theorem foldl_untouched {α : Type} {step : Progress → α → Progress}
    (kept : ∀ state item, Untouched state (step state item)) (items : List α) (state : Progress) :
    Untouched state (items.foldl step state) := by
  induction items generalizing state with
  | nil => exact .refl state
  | cons item rest ih => exact (kept state item).trans (ih (step state item))

section Kept

variable {platform : Platform}

theorem discover_untouched (state : Progress) (key : Text) :
    Untouched state (discover state key) := by
  unfold discover
  split
  · exact .refl state
  · exact ⟨rfl, rfl⟩

theorem noteCriterion_untouched (state : Progress) (criterion : Criterion) :
    Untouched state (noteCriterion platform state criterion) := by
  unfold noteCriterion
  simp only
  split
  · exact .refl state
  · exact ⟨rfl, rfl⟩

theorem discoverObservations_untouched (state : Progress) (output : Value) :
    Untouched state (discoverObservations platform state output) :=
  foldl_untouched discover_untouched _ state

theorem noteFacts_untouched (state : Progress) (input : ToolInput) :
    Untouched state (noteFacts platform state input) := by
  have noted := foldl_untouched (@noteCriterion_untouched platform) input.criteria
    { state with
      textOnlySteps := 0
      evidenceSubmissionFailed := false
      evidenceSubmissionCriterionId := none
      semanticProgress := false }
  have discovered := noted.trans (@discoverObservations_untouched platform _ input.output)
  exact ⟨discovered.operations, discovered.repeatedSteps⟩

theorem correct_untouched (state : Progress) (input : ToolInput) :
    Untouched state (correct state input).2 := by
  unfold correct
  split
  · exact .refl state
  · simp only
    split <;> exact ⟨rfl, rfl⟩

theorem settle_untouched (state : Progress) (input : ToolInput) :
    Untouched state (settle state input) := by
  unfold settle
  split
  · split <;> exact ⟨rfl, rfl⟩
  · exact .refl state

theorem noteInteraction_untouched (state : Progress) (input : ToolInput) :
    Untouched state (noteInteraction state input) := by
  unfold noteInteraction
  split
  · split <;> exact ⟨rfl, rfl⟩
  · exact .refl state

theorem noteRejection_untouched (state : Progress) (input : ToolInput) :
    Untouched state (noteRejection platform state input).2 := by
  unfold noteRejection
  split
  · exact .refl state
  · split
    · exact .refl state
    · split <;> exact ⟨rfl, rfl⟩

theorem noteForm_untouched (state : Progress) (input : ToolInput) :
    Untouched state (noteForm platform state input).2 := by
  unfold noteForm
  split
  · simp only
    split
    · exact ⟨rfl, rfl⟩
    · split <;> exact ⟨rfl, rfl⟩
  · exact .refl state

theorem stops_untouched (state : Progress) : Untouched state (stops platform state).2 := by
  unfold stops
  split
  · exact .refl state
  · split <;> exact ⟨rfl, rfl⟩

theorem stops_false {state : Progress} (goesOn : (stops platform state).1 = false) :
    state.repeatedSteps < MAX_REPEATED_STEPS := by
  unfold stops at goesOn
  split at goesOn
  · cases goesOn
  · rename_i below
    exact Nat.lt_of_not_le below

theorem tool_goes_on {state : Progress} {input : ToolInput}
    (goesOn : (tool platform state input).1 = false) :
    ∃ before, Untouched state before ∧
      Untouched (count platform (makesProgress platform state input) before input)
        (tool platform state input).2 ∧
      (tool platform state input).2.repeatedSteps < MAX_REPEATED_STEPS := by
  unfold tool at goesOn ⊢
  simp only at goesOn ⊢
  split at goesOn <;> rename_i corrected
  · rw [corrected] at goesOn
    cases goesOn
  · rw [if_neg corrected]
    split at goesOn <;> rename_i rejected
    · rw [rejected] at goesOn
      cases goesOn
    · rw [if_neg rejected]
      split at goesOn <;> rename_i formed
      · rw [formed] at goesOn
        cases goesOn
      · rw [if_neg formed]
        have known := (@noteFacts_untouched platform state input).trans
          ((correct_untouched _ input).trans ((settle_untouched _ input).trans
            ((noteInteraction_untouched _ input).trans
              ((@noteRejection_untouched platform _ input).trans
                (@noteForm_untouched platform _ input)))))
        have stopped := @stops_untouched platform
          (count platform (makesProgress platform state input)
            (noteForm platform (noteRejection platform (noteInteraction (settle
              (correct (noteFacts platform state input) input).2 input) input) input).2 input).2
            input)
        refine ⟨_, known, stopped, ?_⟩
        rw [stopped.repeatedSteps]
        exact stops_false goesOn

end Kept

inductive Call where
  | tool (input : ToolInput)
  | observe (output : Value)
  | textOnly

section Runs

variable (platform : Platform)

def serve (state : Progress) : Call → Progress
  | .tool input => (tool platform state input).2
  | .observe output => observe platform state output
  | .textOnly => (textOnly state).2

def GoesOn (state : Progress) : List Call → Prop
  | [] => True
  | call :: rest =>
      (∀ input, call = .tool input → (tool platform state input).1 = false) ∧
        GoesOn (serve platform state call) rest

def toolInputs (calls : List Call) : List ToolInput :=
  calls.filterMap fun call =>
    match call with
    | .tool input => some input
    | _ => none

def reportsProgress (state : Progress) : Call → Bool
  | .tool input => makesProgress platform state input
  | .observe output => discovers platform state output
  | .textOnly => false

def progressCalls (state : Progress) : List Call → Nat
  | [] => 0
  | call :: rest =>
      progressCalls (serve platform state call) rest +
        (reportsProgress platform state call).toNat

def distinctOperations (calls : List Call) : List Text :=
  ((toolInputs calls).map (operation platform)).dedup

end Runs

section Bound

variable {platform : Platform}

theorem observe_keeps (state : Progress) (output : Value) :
    (observe platform state output).operations = state.operations ∧
      (observe platform state output).repeatedSteps =
        if discovers platform state output then 0 else state.repeatedSteps := by
  have kept := @discoverObservations_untouched platform state output
  unfold observe
  simp only
  split
  · exact ⟨kept.operations, rfl⟩
  · exact ⟨kept.operations, kept.repeatedSteps⟩

theorem tool_counts {state : Progress} {input : ToolInput}
    (goesOn : (tool platform state input).1 = false) :
    (tool platform state input).2.operations =
        withKey (operation platform input) state.operations ∧
      (tool platform state input).2.repeatedSteps =
        (if makesProgress platform state input then 0
        else if operation platform input ∈ state.operations then state.repeatedSteps + 1
        else state.repeatedSteps) ∧
      (tool platform state input).2.repeatedSteps < MAX_REPEATED_STEPS := by
  obtain ⟨before, known, counted, below⟩ := tool_goes_on goesOn
  refine ⟨?_, ?_, below⟩
  · rw [counted.operations, ← known.operations]
    unfold count
    simp only
    split
    · rfl
    · split <;> rfl
  · rw [counted.repeatedSteps, ← known.operations, ← known.repeatedSteps]
    unfold count
    simp only
    split
    · rfl
    · split <;> rfl

theorem withKey_length (key : Text) (keys : List Text) :
    (withKey key keys).length = keys.length + if key ∈ keys then 0 else 1 := by
  unfold withKey
  split
  · rfl
  · rw [List.length_append, List.length_singleton]

theorem serve_paid {state : Progress} {call : Call} (below : state.repeatedSteps < MAX_REPEATED_STEPS)
    (goesOn : ∀ input, call = .tool input → (tool platform state input).1 = false) :
    (serve platform state call).repeatedSteps < MAX_REPEATED_STEPS ∧
      (toolInputs [call]).length + state.operations.length + state.repeatedSteps ≤
        (serve platform state call).operations.length + (serve platform state call).repeatedSteps +
          MAX_REPEATED_STEPS * (reportsProgress platform state call).toNat := by
  have bound : MAX_REPEATED_STEPS = 24 := rfl
  cases call with
  | tool input =>
      obtain ⟨operations, repeated, less⟩ := tool_counts (goesOn input rfl)
      refine ⟨less, ?_⟩
      have single : (toolInputs [.tool input]).length = 1 := rfl
      simp only [serve, reportsProgress, operations, withKey_length, repeated, bound, single]
      rw [bound] at below
      by_cases progress : makesProgress platform state input = true
      · rw [if_pos progress, progress, Bool.toNat_true]
        omega
      · rw [if_neg progress, Bool.eq_false_of_not_eq_true progress, Bool.toNat_false]
        split_ifs <;> omega
  | observe output =>
      obtain ⟨operations, repeated⟩ := @observe_keeps platform state output
      have none : (toolInputs [.observe output]).length = 0 := rfl
      simp only [serve, reportsProgress, operations, repeated, bound, none]
      rw [bound] at below
      by_cases progress : discovers platform state output = true
      · rw [if_pos progress, progress, Bool.toNat_true]
        omega
      · rw [if_neg progress, Bool.eq_false_of_not_eq_true progress, Bool.toNat_false]
        omega
  | textOnly =>
      have none : (toolInputs [.textOnly]).length = 0 := rfl
      simp only [serve, textOnly, reportsProgress]
      exact ⟨below, by simp [none]⟩

theorem toolInputs_cons (call : Call) (rest : List Call) :
    toolInputs (call :: rest) = toolInputs [call] ++ toolInputs rest :=
  List.filterMap_append (l := [call])

theorem run_paid {state : Progress} {calls : List Call}
    (below : state.repeatedSteps < MAX_REPEATED_STEPS) (goesOn : GoesOn platform state calls) :
    (toolInputs calls).length + state.operations.length + state.repeatedSteps <
      (calls.foldl (serve platform) state).operations.length +
        MAX_REPEATED_STEPS * (progressCalls platform state calls + 1) := by
  induction calls generalizing state with
  | nil =>
      simp only [toolInputs, List.filterMap_nil, List.length_nil, List.foldl_nil, progressCalls]
      omega
  | cons call rest ih =>
      obtain ⟨here, later⟩ := goesOn
      obtain ⟨less, paid⟩ := serve_paid below here
      have others := ih less later
      rw [toolInputs_cons, List.length_append, List.foldl_cons, progressCalls]
      have bound : MAX_REPEATED_STEPS = 24 := rfl
      rw [bound] at others paid ⊢
      omega

theorem withKey_nodup {keys : List Text} (key : Text) (distinct : keys.Nodup) :
    (withKey key keys).Nodup := by
  unfold withKey
  split
  · exact distinct
  · rename_i fresh
    exact List.nodup_append.mpr ⟨distinct, List.nodup_singleton key, fun known inside other same => by
      rintro rfl
      exact fresh (List.mem_singleton.mp same ▸ inside)⟩

theorem run_operations {state : Progress} {calls : List Call}
    (goesOn : GoesOn platform state calls) (distinct : state.operations.Nodup) :
    (calls.foldl (serve platform) state).operations.Nodup ∧
      ∀ key ∈ (calls.foldl (serve platform) state).operations,
        key ∈ state.operations ∨ key ∈ (toolInputs calls).map (operation platform) := by
  induction calls generalizing state with
  | nil => exact ⟨distinct, fun key inside => .inl inside⟩
  | cons call rest ih =>
      obtain ⟨here, later⟩ := goesOn
      have served : (serve platform state call).operations.Nodup ∧
          ∀ key ∈ (serve platform state call).operations,
            key ∈ state.operations ∨ key ∈ (toolInputs [call]).map (operation platform) := by
        cases call with
        | tool input =>
            have operations := (tool_counts (here input rfl)).1
            simp only [serve, operations]
            refine ⟨withKey_nodup _ distinct, fun key inside => ?_⟩
            unfold withKey at inside
            split at inside
            · exact .inl inside
            · rcases List.mem_append.mp inside with known | new
              · exact .inl known
              · exact .inr new
        | observe output =>
            simp only [serve, (@observe_keeps platform state output).1]
            exact ⟨distinct, fun key inside => .inl inside⟩
        | textOnly => exact ⟨distinct, fun key inside => .inl inside⟩
      obtain ⟨nodup, known⟩ := ih later served.1
      refine ⟨nodup, fun key inside => ?_⟩
      rw [toolInputs_cons, List.map_append, List.mem_append]
      rcases known key inside with before | after
      · exact (served.2 key before).imp_right .inl
      · exact .inr (.inr after)

/-- A run that is never stopped is paid for by new operations and by progress. -/
theorem tool_calls_bounded (calls : List Call) (goesOn : GoesOn platform (started platform) calls) :
    (toolInputs calls).length ≤ (distinctOperations platform calls).length +
      MAX_REPEATED_STEPS * (progressCalls platform (started platform) calls + 1) := by
  have paid := run_paid (Nat.zero_lt_succ 23) goesOn
  obtain ⟨nodup, known⟩ := run_operations goesOn List.nodup_nil
  have used : (calls.foldl (serve platform) (started platform)).operations.length ≤
      (distinctOperations platform calls).length := by
    refine (List.subperm_of_subset nodup fun key inside => ?_).length_le
    exact List.mem_dedup.mpr ((known key inside).resolve_left List.not_mem_nil)
  have start : (started platform).operations.length = 0 := rfl
  omega

def asciiPlatform : Platform where
  formatNumber number := word (toString number.num)
  localeCompare left right := if left < right then -1 else if right < left then 1 else 0
  sha256 text := text
  normalizeObservationContent text := text
  hasRef _ := false
  plainLine line := line
  stringOf _ := word "undefined"
  numberOf _ := .finite 0
  toUpperCase text := text
  now reads := reads

def waited : ToolInput where
  name := word "wait"
  arguments := word "\x7b\x7d"
  output := .null
  criteria := []

theorem goesOn_replicate {input : ToolInput} (count : Nat) {state : Progress}
    (each : ∀ served < count, (tool platform
      ((List.replicate served (Call.tool input)).foldl (serve platform) state) input).1 = false) :
    GoesOn platform state (List.replicate count (.tool input)) := by
  induction count generalizing state with
  | zero => trivial
  | succ count ih =>
      refine ⟨fun other same => ?_, ih fun served below => ?_⟩
      · obtain rfl := Call.tool.inj same
        exact each 0 (Nat.zero_lt_succ count)
      · simpa [List.replicate_succ] using each (served + 1) (Nat.succ_lt_succ below)

def waits : List Call :=
  List.replicate MAX_REPEATED_STEPS (.tool waited)

/-- As many calls as may go on without progress, and the one after them is stopped. -/
theorem tool_calls_bounded_waited :
    (toolInputs waits).length ≤ (distinctOperations asciiPlatform waits).length +
        MAX_REPEATED_STEPS * (progressCalls asciiPlatform (started asciiPlatform) waits + 1) ∧
      (tool asciiPlatform (waits.foldl (serve asciiPlatform) (started asciiPlatform))
        waited).1 = true :=
  ⟨tool_calls_bounded waits (goesOn_replicate _ (by decide +kernel)), by decide +kernel⟩

end Bound

end Devproof.VerificationProgress
