import Mathlib.Algebra.Group.Int.Defs
import Devproof.Lib.Interleave
import Devproof.Lib.Table

/-!
Deliveries of task events to webhooks (`task-webhook.service.ts`): rows that
workers claim with a lease, deliver and settle.
-/

namespace Devproof

namespace TaskWebhooks

inductive DeliveryStatus where
  | pending
  | delivered
  | failed
  | cancelled
  deriving Repr, DecidableEq

structure LeaseToken where
  serial : Nat
  worker : Nat
  deriving Repr, DecidableEq

structure TaskWebhookDelivery where
  id : Nat
  webhookId : String
  eventId : String
  status : DeliveryStatus := .pending
  attempts : Nat := 0
  nextAttemptAt : Int
  leaseToken : Option LeaseToken := none
  leaseExpiresAt : Option Int := none
  lastError : Option String := none
  deliveredAt : Option Int := none
  deriving Repr, DecidableEq

structure ToolCredential where
  revokedAt : Option Int
  expiresAt : Option Int
  deriving Repr, DecidableEq

structure TaskWebhook where
  id : String
  taskId : String
  credentialId : String
  url : String
  events : List String
  disabledAt : Option Int
  deriving Repr, DecidableEq

structure TaskExecutionEvent where
  id : String
  taskExecutionId : String
  kind : String
  deriving Repr, DecidableEq

structure WebhookTables where
  now : Int
  /-- The identifiers that were drawn so far. -/
  drawn : Nat
  /-- The tasks of each team. -/
  tasks : List (String × String)
  credentials : String → ToolCredential
  hooks : List TaskWebhook
  events : List TaskExecutionEvent
  deliveries : List TaskWebhookDelivery

/-! `poll`. -/

def usable (credential : ToolCredential) (now : Int) : Bool :=
  credential.revokedAt.isNone && credential.expiresAt.all fun expiresAt => now < expiresAt

def activeHooks (tables : WebhookTables) : List TaskWebhook :=
  tables.hooks.filter fun hook =>
    hook.disabledAt.isNone && usable (tables.credentials hook.credentialId) tables.now

def hookPage (cursor : Option String) (tables : WebhookTables) : List TaskWebhook :=
  (((activeHooks tables).filter fun hook => cursor.all fun id => decide (id < hook.id)).mergeSort
    fun left right => !decide (right.id < left.id)).take 100

def undelivered (hook : TaskWebhook) (tables : WebhookTables) : List String :=
  ((tables.events.filter fun event =>
    event.taskExecutionId == hook.taskId && hook.events.contains event.kind &&
      !tables.deliveries.any fun row => row.webhookId == hook.id && row.eventId == event.id).map
    TaskExecutionEvent.id).take 100

def createDelivery (webhookId : String) (tables : WebhookTables) (eventId : String) :
    WebhookTables :=
  if tables.deliveries.any fun row => row.webhookId == webhookId && row.eventId == eventId then
    tables
  else
    { tables with
      drawn := tables.drawn + 1
      deliveries := tables.deliveries ++
        [{ id := tables.drawn, webhookId, eventId, nextAttemptAt := tables.now }] }

def createMany (webhookId : String) (eventIds : List String) (tables : WebhookTables) :
    WebhookTables :=
  eventIds.foldl (createDelivery webhookId) tables

def claimable (now : Int) (row : TaskWebhookDelivery) : Bool :=
  row.status == .pending && row.nextAttemptAt ≤ now &&
    row.leaseExpiresAt.all fun leaseExpiresAt => leaseExpiresAt < now

def due (tables : WebhookTables) : List Nat :=
  (((tables.deliveries.filter fun row => claimable tables.now row &&
      (activeHooks tables).any fun hook => hook.id == row.webhookId).mergeSort
    fun left right => left.nextAttemptAt ≤ right.nextAttemptAt).map
      TaskWebhookDelivery.id).take 20

inductive Answer where
  | done
  /-- What to deliver. -/
  | due (ids : List Nat)
  deriving Repr, DecidableEq

abbrev Request := Program WebhookTables (Except String Answer)

def pollHooks (rest : Request) : List TaskWebhook → Request
  | [] => rest
  | hook :: hooks =>
      .read (undelivered hook) fun eventIds =>
        if eventIds.isEmpty then pollHooks rest hooks
        else
          .commit (fun tables => .ok (createMany hook.id eventIds tables, ())) fun _ =>
            pollHooks rest hooks

/-- A poll of at most so many pages; each row it answers with is delivered by a call of its
    own. -/
def poll : Nat → Option String → Request
  | 0, _ => .answer (.ok .done)
  | pages + 1, cursor =>
      .read (hookPage cursor) fun hooks =>
        pollHooks
          (if hooks.length < 100 then .read due fun ids => .answer (.ok (.due ids))
            else poll pages (hooks.getLast?.map TaskWebhook.id)) hooks

/-! `deliver`. -/

inductive Reply where
  | ok
  | status (code : Nat)
  /-- The network, a redirect or the timeout. -/
  | unreachable
  deriving Repr, DecidableEq

def claimed (token : LeaseToken) (now : Int) (row : TaskWebhookDelivery) : TaskWebhookDelivery :=
  { row with
    leaseToken := some token
    leaseExpiresAt := some (now + 60000)
    attempts := row.attempts + 1 }

/-- Claim the row with a new token; the token, and the time of the claim, when it succeeds. -/
def claim (worker id : Nat) (tables : WebhookTables) :
    WebhookTables × Option (LeaseToken × Int) :=
  let token : LeaseToken := { serial := tables.drawn, worker }
  let allowed (row : TaskWebhookDelivery) : Bool := row.id == id && claimable tables.now row
  ({ tables with
      drawn := tables.drawn + 1
      deliveries := updateWhere allowed (claimed token tables.now) tables.deliveries },
    if tables.deliveries.any allowed then some (token, tables.now) else none)

def readDelivery (id : Nat) (tables : WebhookTables) :
    Option (TaskWebhookDelivery × TaskWebhook × ToolCredential) := do
  let row ← tables.deliveries.find? fun row => row.id == id
  let hook ← tables.hooks.find? fun hook => hook.id == row.webhookId
  return (row, hook, tables.credentials hook.credentialId)

def fenced (id : Nat) (token : LeaseToken) (write : Int → TaskWebhookDelivery → TaskWebhookDelivery)
    (tables : WebhookTables) : WebhookTables :=
  { tables with
    deliveries := updateWhere (fun row => row.id == id && row.leaseToken == some token)
      (write tables.now) tables.deliveries }

def cancelled (_ : Int) (row : TaskWebhookDelivery) : TaskWebhookDelivery :=
  { row with status := .cancelled, leaseToken := none, leaseExpiresAt := none }

def delivered (now : Int) (row : TaskWebhookDelivery) : TaskWebhookDelivery :=
  { row with
    status := .delivered
    deliveredAt := some now
    lastError := none
    leaseToken := none
    leaseExpiresAt := none }

def retried (attempts : Nat) (message : String) (now : Int) (row : TaskWebhookDelivery) :
    TaskWebhookDelivery :=
  { row with
    status := if 8 ≤ attempts then .failed else .pending
    nextAttemptAt := now + min 3600000 (5000 * 2 ^ attempts)
    lastError := some message
    leaseToken := none
    leaseExpiresAt := none }

def failureMessage : Reply → String
  | .status code => "HTTP " ++ toString code
  | _ => "Delivery failed (network, timeout, or destination policy)."

section Deliver

-- `assertWebhookOrigin(url, env().TASK_WEBHOOK_ALLOWED_ORIGINS)` passes.
variable (allowedOrigin : String → Bool)

def settle (id : Nat) (token : LeaseToken)
    (write : Int → TaskWebhookDelivery → TaskWebhookDelivery) : Request :=
  .commit (fun tables => .ok (fenced id token write tables, ())) fun _ => .answer (.ok .done)

/-- After the claim.  `saved` is whether the database takes the final write; an error of it is
    handled like one of the request. -/
def attempt (id : Nat) (reply : Reply) (saved : Bool) (token : LeaseToken) (now : Int) : Request :=
  .read (readDelivery id) fun found =>
    match found with
    | none => .answer (.error "No TaskWebhookDelivery found")
    | some (row, hook, credential) =>
        if hook.disabledAt.isSome || !usable credential now then settle id token cancelled
        else if !allowedOrigin hook.url then
          settle id token (retried row.attempts (failureMessage .unreachable))
        else if reply = .ok ∧ saved = true then settle id token delivered
        else
          settle id token (retried row.attempts
            (failureMessage (if reply = .ok then .unreachable else reply)))

def deliver (worker id : Nat) (reply : Reply) (saved : Bool) : Request :=
  .commit (fun tables => .ok (claim worker id tables)) fun taken =>
    match taken with
    | none => .answer (.ok .done)
    | some (token, now) => attempt allowedOrigin id reply saved token now

end Deliver

/-! `retryDelivery`. -/

structure ToolAuthContext where
  teamId : String
  credentialId : String
  deriving Repr, DecidableEq

def reset (now : Int) (row : TaskWebhookDelivery) : TaskWebhookDelivery :=
  { row with
    status := .pending
    attempts := 0
    nextAttemptAt := now
    leaseToken := none
    leaseExpiresAt := none
    lastError := none }

def retryable (current : ToolAuthContext) (taskId webhookId : String) (deliveryId : Nat)
    (tables : WebhookTables) (row : TaskWebhookDelivery) : Bool :=
  row.id == deliveryId && row.webhookId == webhookId && row.status == .failed &&
    tables.hooks.any fun hook => hook.id == row.webhookId && hook.taskId == taskId &&
      hook.credentialId == current.credentialId && hook.disabledAt.isNone

def retryDelivery (current : ToolAuthContext) (taskId webhookId : String) (deliveryId : Nat) :
    Request :=
  .read (fun tables => tables.tasks.contains (taskId, current.teamId)) fun owned =>
    .check (throwIf (!owned) "Task was not found.") fun _ =>
      .commit (fun tables => .ok
        ({ tables with
            deliveries := updateWhere (retryable current taskId webhookId deliveryId tables)
              (reset tables.now) tables.deliveries },
          tables.deliveries.any (retryable current taskId webhookId deliveryId tables)))
        fun found => .answer <|
          if found then .ok .done
          else .error "No failed delivery for this active subscription was found."

inductive Call where
  | poll (pages : Nat)
  | deliver (worker id : Nat) (reply : Reply) (saved : Bool)
  | retryDelivery (current : ToolAuthContext) (taskId webhookId : String) (deliveryId : Nat)
  deriving Repr, DecidableEq

def serve (allowedOrigin : String → Bool) : Call → Request
  | .poll pages => poll pages none
  | .deliver worker id reply saved => deliver allowedOrigin worker id reply saved
  | .retryDelivery current taskId webhookId deliveryId =>
      retryDelivery current taskId webhookId deliveryId

structure Change where
  now : Int
  tasks : List (String × String)
  credentials : String → ToolCredential
  hooks : List TaskWebhook
  events : List TaskExecutionEvent

def changed (change : Change) (tables : WebhookTables) : WebhookTables :=
  { tables with
    now := change.now
    tasks := change.tasks
    credentials := change.credentials
    hooks := change.hooks
    events := change.events }

end TaskWebhooks

end Devproof
