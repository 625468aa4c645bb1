import Devproof.Lib.JsonWriter
import Devproof.Lib.Patterns
import Devproof.Lib.Tally

/-!
The cooldowns of models and credentials that concurrent runs of one executor share
(`model-health.ts`).  Every step may read the clock several times.
-/

namespace Devproof.ModelHealth

open Parsing Patterns

structure Candidate where
  baseUrl : Text
  apiKey : Text
  modelId : Text
  deriving DecidableEq

inductive Reason where
  | modelUnavailable
  | credentialUnavailable
  | modelTimeout
  | rateLimited
  | modelFailed
  deriving Repr, DecidableEq

structure Failure where
  runsUntil : ℚ
  failures : Number
  reason : Reason

/-- What the code takes from the language and from `node:crypto`. -/
structure Platform where
  /-- `createHash("sha256").update(text).digest("hex")`. -/
  sha256 : Text → Text
  /-- `String(number)`. -/
  formatNumber : Rat → Text
  /-- `Number(value)` of a member or of `undefined`; `none` for `NaN`. -/
  toNumber : Option Value → Option Number

structure Health where
  failures : List (Text × Failure)
  slowSuccesses : List (Text × Nat)

abbrev Readings :=
  Nat → ℚ

def maxModelAttempts : Nat :=
  5

def minute : ℚ :=
  60000

structure ModelError where
  code : Text
  message : Text
  status : Option Number

def fold (unit : UInt16) : UInt16 :=
  if code 'A' ≤ unit ∧ unit ≤ code 'Z' then unit + 32
  else if unit = 0x17F then code 's'
  else if unit = 0x212A then code 'k'
  else unit

def ModelError.subject (error : ModelError) : Text :=
  (error.code ++ Parsing.code ' ' :: error.message).map fold

def ModelError.hasStatus (error : ModelError) (statuses : List ℚ) : Bool :=
  statuses.any fun status => decide (error.status = some (.finite status))

def gap (next : Text → Bool) : Text → Bool
  | [] => false
  | unit :: rest => (unit == code '_' || unit == code ' ') && next rest

def line (next : Text → Bool) (text : Text) : Bool :=
  upTo text.length next text

def choice (choices : List String) : Text → Bool :=
  anyOf choices anything

def insufficientFunds : Text → Bool :=
  let what := choice ["quota", "funds", "balance"]
  fixed "insufficient" (gap fun rest => what rest || fixed "user" (gap what) rest)

def ModelError.credential (error : ModelError) : Bool :=
  error.hasStatus [401, 402] ||
    occurs (fun text =>
      insufficientFunds text || fixed "credit balance" anything text ||
        fixed "balance" (line (choice ["insufficient", "low"])) text ||
        fixed "余额不足" anything text) error.subject

def ModelError.unavailable (error : ModelError) : Bool :=
  error.hasStatus [403, 404] &&
    occurs (fun text =>
      fixed "model" (line fun rest =>
        fixed "not" (line (choice ["exist", "found", "available"])) rest ||
          choice ["access", "permission", "denied"] rest) text ||
        anyOf ["unknown", "invalid", "unsupported", "unavailable"]
          (line (fixed "model" anything)) text ||
        fixed "model_not_found" anything text) error.subject

def ModelError.timeout (error : ModelError) : Bool :=
  occurs (fun text =>
    fixed "模型响应超过" anything text ||
      anyOf ["timed", "time"] (fun rest =>
        fixed "out" anything rest || spaces (fixed "out" anything) rest) text ||
      fixed "timeout" anything text) error.subject

def ModelError.rateLimited (error : ModelError) : Bool :=
  error.hasStatus [429]

section Health

variable (platform : Platform)

def key (candidate : Candidate) (credential : Bool) : Text :=
  platform.sha256 (stringify platform.formatNumber (.arr
    [.str candidate.baseUrl, .str candidate.apiKey,
      if credential then .null else .str candidate.modelId]))

def cooldown (health : Health) (key : Text) : ℚ :=
  ((getEntry health.failures key).map (·.runsUntil)).getD 0

def available (health : Health) (candidate : Candidate) (now : Readings) : Bool :=
  decide (cooldown health (key platform candidate false) ≤ now 0) &&
    decide (cooldown health (key platform candidate true) ≤ now 1)

def bounded {α : Type} (entries : List (Text × α)) : List (Text × α) :=
  entries.drop (entries.length - 256)

def word (name : String) : Text :=
  name.toList.map code

/-- `/^[a-f0-9]{64}$/` -/
def isDigest (name : Text) : Bool :=
  name.length == 64 && name.all fun unit =>
    (code 'a' ≤ unit && unit ≤ code 'f') || Parsing.isDigit unit

def finiteNumber : Value → Option ℚ
  | .num (.finite value) => some value
  | .num .negativeZero => some 0
  | _ => none

def restoredReason : Value → Option Reason
  | .str text =>
      [(word "MODEL_UNAVAILABLE", Reason.modelUnavailable),
        (word "CREDENTIAL_UNAVAILABLE", .credentialUnavailable),
        (word "MODEL_TIMEOUT", .modelTimeout)].lookup text
  | _ => none

def restoredCount (failures : Option Value) : Number :=
  match platform.toNumber failures with
  | none | some .negativeZero => .finite 1
  | some (.finite value) => if value = 0 then .finite 1 else .finite value
  | some (.infinite negative) => .infinite negative

def restoredItem (entry : Text × Value) : Option (List (Text × Value) × ℚ × Reason) :=
  match entry.2 with
  | .obj item =>
      if isDigest entry.1 then
        ((item.lookup (word "until")).bind finiteNumber).bind fun runsUntil =>
          ((item.lookup (word "reason")).bind restoredReason).map fun reason =>
            (item, runsUntil, reason)
      else none
  | _ => none

def restoreEntry (now : Readings) (health : Health) (entry : Text × Value) : Health :=
  match restoredItem entry with
  | none => health
  | some (item, runsUntil, reason) =>
      if runsUntil ≤ now 0 ∨ runsUntil > now 1 + 30 * minute then health
      else if cooldown health entry.1 < runsUntil then
        let failures := restoredCount platform (item.lookup (word "failures"))
        { health with failures := setEntry entry.1 { runsUntil, failures, reason } health.failures }
      else health

def restoredEntries : Value → List (Text × Value)
  | .obj members => members.drop (members.length - 256)
  | _ => []

def restore (health : Health) (value : Value) (now : Readings) : Health :=
  (restoredEntries value).zipIdx.foldl (fun health entry =>
    restoreEntry platform (fun read => now (2 * entry.2 + read)) health entry.1) health

def success (health : Health) (candidate : Candidate) (durationMs : ℚ) : Health :=
  let key := key platform candidate false
  let slow :=
    if durationMs ≥ minute then (getEntry health.slowSuccesses key).getD 0 + 1 else 0
  { slowSuccesses := bounded (setEntry key slow health.slowSuccesses)
    failures := deleteEntry key health.failures }

def oneMore : Number → Number
  | .finite value => .finite (double (value + 1))
  | .negativeZero => .finite 1
  | .infinite negative => .infinite negative

def exhausted : Number → Bool
  | .finite value => decide ((maxModelAttempts : ℚ) ≤ value)
  | .negativeZero => false
  | .infinite negative => !negative

def failedKey (candidate : Candidate) (error : ModelError) : Text :=
  key platform candidate error.credential

def failureReason (error : ModelError) : Reason :=
  if error.credential then .credentialUnavailable
  else if error.unavailable then .modelUnavailable
  else if error.timeout then .modelTimeout
  else if error.rateLimited then .rateLimited
  else .modelFailed

def cooldownMs (previous : Option Failure) (error : ModelError) : ℚ :=
  let failures := oneMore ((previous.map (·.failures)).getD (.finite 0))
  if error.credential then 30 * minute
  else if error.unavailable then 30 * minute
  else if error.rateLimited then minute
  else if (error.timeout && (previous.map (·.reason)) == some .modelTimeout) ||
      exhausted failures then 5 * minute
  else 0

def failureEntry (previous : Option Failure) (error : ModelError) (now : ℚ) : Failure where
  failures := oneMore ((previous.map (·.failures)).getD (.finite 0))
  reason := failureReason error
  runsUntil := now + cooldownMs previous error

structure FailureReport where
  reason : Reason
  cooldownMs : ℚ
  consecutiveFailures : Number
  key : Text
  runsUntil : ℚ

def failure (health : Health) (candidate : Candidate) (error : ModelError) (now : Readings) :
    Health × FailureReport :=
  let key := failedKey platform candidate error
  let previous := getEntry health.failures key
  let entry := failureEntry previous error (now 0)
  ({ health with failures := bounded (setEntry key entry health.failures) },
    { reason := entry.reason
      cooldownMs := cooldownMs previous error
      consecutiveFailures := entry.failures
      key
      runsUntil := now 1 + cooldownMs previous error })

/-! Iterations of `attempts`. -/

structure Attempt where
  position : Nat
  candidate : Candidate
  modelAttempt : Nat

inductive Iteration where
  | fresh (candidates : List Candidate)
  | running (pending : List Attempt)

def admitted (health : Health) (candidates : List Candidate) (now : Readings) :
    List (Candidate × Nat) :=
  candidates.zipIdx.filter fun entry =>
    available platform health entry.1 fun read => now (2 * entry.2 + read)

def schedule (admitted : List (Candidate × Nat)) : List Attempt :=
  (List.range' 1 maxModelAttempts).flatMap fun modelAttempt =>
    admitted.map fun entry => { position := entry.2, candidate := entry.1, modelAttempt }

def skipped (health : Health) (candidate : Candidate) (now : Readings) : Bool :=
  decide (cooldown health (key platform candidate true) > now 0) ||
    ((getEntry health.failures (key platform candidate false)).any fun failure =>
      [Reason.modelUnavailable, .modelTimeout].contains failure.reason) &&
      !available platform health candidate fun read => now (1 + read)

def resume (health : Health) : Readings → List Attempt → Option Attempt × List Attempt
  | _, [] => (none, [])
  | now, attempt :: rest =>
      if skipped platform health attempt.candidate now then
        resume health (fun read => now (3 + read)) rest
      else (some attempt, rest)

def pendingOf (health : Health) (now : Readings) : Iteration → List Attempt
  | .fresh candidates => schedule (admitted platform health candidates now)
  | .running pending => pending

def afterAdmission (now : Readings) : Iteration → Readings
  | .fresh candidates => fun read => now (2 * candidates.length + read)
  | .running _ => now

inductive Action where
  | failure (candidate : Candidate) (error : ModelError)
  | success (candidate : Candidate) (durationMs : ℚ)
  | restore (value : Value)
  | attempts (candidates : List Candidate)
  | next (iteration : Nat)

structure Event where
  action : Action
  now : Readings
  /-- The time when the step is over. -/
  time : ℚ

structure State where
  health : Health
  iterations : List Iteration
  time : ℚ

def step (state : State) (event : Event) : State × Option (Nat × Attempt) :=
  match event.action with
  | .failure candidate error =>
      ({ state with
          health := (failure platform state.health candidate error event.now).1
          time := event.time }, none)
  | .success candidate durationMs =>
      ({ state with
          health := success platform state.health candidate durationMs
          time := event.time }, none)
  | .restore value =>
      ({ state with
          health := restore platform state.health value event.now
          time := event.time }, none)
  | .attempts candidates =>
      ({ state with
          iterations := state.iterations ++ [.fresh candidates]
          time := event.time }, none)
  | .next iteration =>
      match state.iterations[iteration]? with
      | none => ({ state with time := event.time }, none)
      | some current =>
          let (yielded, pending) := resume platform state.health (afterAdmission event.now current)
            (pendingOf platform state.health event.now current)
          ({ state with
              iterations := state.iterations.set iteration (.running pending)
              time := event.time }, yielded.map fun attempt => (iteration, attempt))

end Health

end Devproof.ModelHealth
