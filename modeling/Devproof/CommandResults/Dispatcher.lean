import Devproof.Lib.Interleave
import Devproof.Lib.Table
import Mathlib.Algebra.Group.Int.Defs
import Mathlib.Data.List.Sort

/-!
Results of Runtime commands (`runtime-command-dispatcher.service.ts`) and the deletion of
stored objects (`retention-worker.service.ts`).  An object is stored outside any transaction,
so its deletion is queued before it is stored and taken off the queue when it is published.
-/

namespace Devproof

namespace CommandResults

inductive CommandStatus where
  | pending
  | dispatched
  | succeeded
  | failed
  | cancelled
  | timedOut
  deriving Repr, DecidableEq

inductive ArtifactKind where
  | screenshot
  | dom
  | console
  | network
  | video
  deriving Repr, DecidableEq

structure StorageKey where
  teamId : String
  sessionId : String
  commandId : String
  kind : ArtifactKind
  uuid : Nat
  deriving Repr, DecidableEq

structure RuntimeCommand where
  status : CommandStatus
  teamId : String
  sessionId : String
  runtimeId : String
  commandType : String
  leaseToken : String
  fencingToken : Nat
  sessionLeaseToken : String
  sessionFencingToken : Nat
  protocolMinor : Nat
  ownerTaskId : Option String := none
  ownerFencingToken : Option Nat := none
  error : Option String := none
  result : Option String := none
  completedAt : Option Int := none
  deriving Repr, DecidableEq

structure ArtifactRow where
  storageKey : StorageKey
  commandId : Option String
  kind : ArtifactKind
  deriving Repr, DecidableEq

structure DeletionTask where
  id : Nat
  storageKey : StorageKey
  attempts : Nat := 0
  nextAttemptAt : Int
  leaseToken : Option Nat := none
  leaseExpiresAt : Option Int := none
  deriving Repr, DecidableEq

structure OwnerTask where
  fencingToken : Nat
  running : Bool
  leaseExpiresAt : Option Int
  deriving Repr, DecidableEq

structure RuntimeContext where
  runtimeId : String
  connectionId : String
  connectionGeneration : Nat
  deriving Repr, DecidableEq

inductive StorageMode where
  | working
  | failing
  | lossy
  deriving Repr, DecidableEq

structure Store where
  now : Int
  /-- `randomUUID`. -/
  drawn : Nat
  commands : String → Option RuntimeCommand
  owners : String → Option OwnerTask
  /-- The current connections of enabled Runtimes. -/
  connections : List RuntimeContext := []
  artifacts : List ArtifactRow := []
  deletions : List DeletionTask := []
  objects : List StorageKey := []
  storage : StorageMode := .working

def terminal (status : CommandStatus) : Bool :=
  [.succeeded, .failed, .cancelled, .timedOut].contains status

def unsettled (status : CommandStatus) : Bool :=
  [.pending, .dispatched].contains status

structure ResultArtifact where
  kind : ArtifactKind
  byteSize : Nat
  deriving Repr, DecidableEq

structure RuntimeCommandResult where
  commandId : String
  sessionId : String
  leaseToken : String
  fencingToken : Nat
  ownerTaskId : Option String := none
  ownerFencingToken : Option Nat := none
  ok : Bool
  result : Option String := none
  error : Option String := none
  artifacts : List ResultArtifact
  deriving Repr, DecidableEq

inductive Failure where
  | notFound (message : String)
  | sizeLimit (commandId : String)
  | upload
  | conflict (message : String)
  deriving Repr, DecidableEq

def runtimeMaxArtifactBytes : Nat := 10 * 1024 * 1024

abbrev Service := Program Store (Except Failure Unit)

def finish : Service :=
  .answer (.ok ())

def write (update : Store → Store) (next : Service) : Service :=
  .step update fun _ => next

/-! `cancel` and the deadline. -/

def settle (commandId : String) (after : RuntimeCommand → RuntimeCommand) (store : Store) : Store :=
  match store.commands commandId with
  | some command =>
      if unsettled command.status then
        { store with
          commands := fun id => if id = commandId then some (after command) else store.commands id }
      else store
  | none => store

def cancelled (now : Int) (reason : String) (command : RuntimeCommand) : RuntimeCommand :=
  { command with completedAt := some now, error := some reason, status := .cancelled }

def timedOut (now : Int) (command : RuntimeCommand) : RuntimeCommand :=
  { command with
    completedAt := some now
    error := some "Runtime command exceeded its deadline."
    status := .timedOut }

def cancel (commandId reason : String) : Service :=
  .read (fun store => store.commands commandId) fun read =>
    match read with
    | none => .answer (.error (.notFound "Runtime command was not found."))
    | some command =>
        if terminal command.status then finish
        else write (fun store => settle commandId (cancelled store.now reason) store) finish

/-- The polls of the loop until the deadline; each tells whether the caller has given up. -/
def waitForCompletion (commandId : String) : List Bool → Service
  | [] => write (fun store => settle commandId (timedOut store.now) store) finish
  | aborted :: polls =>
      .read (fun store => store.commands commandId) fun read =>
        match read with
        | none => finish
        | some command =>
            if terminal command.status then finish
            else if aborted then cancel commandId "MCP caller cancelled the command."
            else waitForCompletion commandId polls

/-! `acceptResult`. -/

section Accept

variable (result : RuntimeCommandResult) (context : Option RuntimeContext)

def leaseMatches (command : RuntimeCommand) : Bool :=
  command.sessionId == result.sessionId && command.leaseToken == result.leaseToken &&
    command.fencingToken == result.fencingToken &&
    command.sessionLeaseToken == result.leaseToken &&
    command.sessionFencingToken == result.fencingToken &&
    (decide (command.protocolMinor < 13) || command.ownerTaskId.all (· == "") ||
      (command.ownerTaskId == result.ownerTaskId &&
        command.ownerFencingToken == result.ownerFencingToken))

def connected (store : Store) : Bool :=
  context.any store.connections.contains

def currentRuntime (runtimeId : String) (store : Store) : Bool :=
  connected context store && context.any fun connection => connection.runtimeId == runtimeId

def ownerHolds (command : RuntimeCommand) (store : Store) : Bool :=
  if command.ownerTaskId.all (· == "") || command.commandType == "session.close" then true
  else
    (command.ownerTaskId.bind store.owners).any fun owner =>
      command.ownerFencingToken == some owner.fencingToken && owner.running &&
        owner.leaseExpiresAt.any fun expires => decide (store.now < expires)

def enqueue (key : StorageKey) (nextAttemptAt : Int) (store : Store) : Store :=
  { store with
    drawn := store.drawn + 1
    deletions := store.deletions ++ [{ id := store.drawn, storageKey := key, nextAttemptAt }] }

def queueIntent (key : StorageKey) (store : Store) : Store :=
  enqueue key (store.now + 3600000) store

def keyOf (command : RuntimeCommand) (artifact : ResultArtifact) (store : Store) : StorageKey :=
  { teamId := command.teamId, sessionId := command.sessionId, commandId := result.commandId
    kind := artifact.kind, uuid := store.drawn }

def putObject (key : StorageKey) (store : Store) : Store :=
  if store.objects.contains key then store else { store with objects := store.objects ++ [key] }

def upload (key : StorageKey) (due : Int) (store : Store) : Store :=
  if store.now < due ∧ store.storage ≠ .failing then putObject key store else store

def uploaded (due : Int) (store : Store) : Bool :=
  decide (store.now < due) && store.storage == .working

def unclaimed (now : Int) (key : StorageKey) (task : DeletionTask) : Bool :=
  task.storageKey == key && task.attempts == 0 && task.leaseToken.isNone &&
    decide (now < task.nextAttemptAt)

def consume : List ArtifactRow → Store → Except Failure Store
  | [], store => .ok store
  | artifact :: rest, store => do
      let intents := store.deletions.filter (unclaimed store.now artifact.storageKey)
      throwIf (intents.length != 1)
        (.conflict "Artifact upload intent expired before publication.")
      consume rest { store with
        deletions := store.deletions.filter fun task =>
          !unclaimed store.now artifact.storageKey task }

def completed (now : Int) (command : RuntimeCommand) : RuntimeCommand :=
  { command with
    completedAt := some now
    error := result.error
    result := result.result
    status := if result.ok then .succeeded else .failed }

def publish (artifacts : List ArtifactRow) (store : Store) :
    Except Failure (Store × Unit) := do
  if !connected context store then
    return (store, ())
  else if !(store.commands result.commandId).any fun row => unsettled row.status then
    return (store, ())
  else
    let consumed ← consume artifacts (settle result.commandId (completed result store.now) store)
    return ({ consumed with artifacts := consumed.artifacts ++ artifacts }, ())

def uploadAll (command : RuntimeCommand) : List ResultArtifact → List ArtifactRow → Service
  | [], stored => .transaction (publish result context stored)
  | artifact :: rest, stored =>
      if runtimeMaxArtifactBytes < artifact.byteSize then
        .answer (.error (.sizeLimit result.commandId))
      else
        .step (fun store => queueIntent (keyOf result command artifact store) store) fun queued =>
          .step (upload (keyOf result command artifact queued) (queued.now + 3600000)) fun sent =>
            if uploaded (queued.now + 3600000) sent then
              uploadAll command rest (stored ++
                [{ storageKey := keyOf result command artifact queued
                   commandId := some result.commandId, kind := artifact.kind }])
            else .answer (.error .upload)

def acceptResult : Service :=
  .read (fun store => store.commands result.commandId) fun read =>
    match read with
    | none => finish
    | some command =>
        .read (currentRuntime context command.runtimeId) fun current =>
          if !current || !leaseMatches result command || terminal command.status then finish
          else
            .read (ownerHolds command) fun holds =>
              if holds then uploadAll result context command result.artifacts [] else finish

end Accept

def claimable (now : Int) (task : DeletionTask) : Bool :=
  decide (task.nextAttemptAt ≤ now) && task.leaseExpiresAt.all fun expires => decide (expires ≤ now)

def referenced (key : StorageKey) (store : Store) : Bool :=
  store.artifacts.any fun row => row.storageKey == key

def claimTask (token : Nat) (now : Int) (task : DeletionTask) : DeletionTask :=
  { task with
    attempts := task.attempts + 1
    leaseExpiresAt := some (now + 60000)
    leaseToken := some token }

def leased (id token : Nat) (task : DeletionTask) : Bool :=
  task.id == id && task.leaseToken == some token

def dropTask (id token : Nat) (store : Store) : Store :=
  { store with deletions := store.deletions.filter fun task => !leased id token task }

def claims (id : Nat) (store : Store) (task : DeletionTask) : Bool :=
  task.id == id && claimable store.now task

/-- Claim the task with the next lease token, and drop it when something refers to its object. -/
def claim (task : DeletionTask) (store : Store) : Store :=
  let token := store.drawn
  let claimed := { store with
    drawn := store.drawn + 1
    deletions := updateWhere (claims task.id store) (claimTask token store.now) store.deletions }
  if store.deletions.any (claims task.id store) && referenced task.storageKey store then
    dropTask task.id token claimed
  else claimed

def claimed (task : DeletionTask) (store : Store) : Bool :=
  store.deletions.any (claims task.id store) && !referenced task.storageKey store

def deleteObject (key : StorageKey) (store : Store) : Store :=
  if store.storage = .failing then store
  else { store with objects := store.objects.filter fun other => other != key }

def retryDelay (attempt : Nat) : Int :=
  min 3600 (2 ^ attempt * 5) * 1000

def reschedule (id token attempt : Nat) (store : Store) : Store :=
  { store with
    deletions := updateWhere (leased id token)
      (fun task => { task with
        leaseExpiresAt := none
        leaseToken := none
        nextAttemptAt := store.now + retryDelay attempt })
      store.deletions }

def purgeTasks : List DeletionTask → Service
  | [] => finish
  | task :: rest =>
      .step (claim task) fun before =>
        if claimed task before then
          .step (deleteObject task.storageKey) fun store =>
            if store.storage = .working then
              write (dropTask task.id before.drawn) (purgeTasks rest)
            else
              write (reschedule task.id before.drawn (task.attempts + 1)) (purgeTasks rest)
        else purgeTasks rest

def dueTasks (storageKeys : Option (List StorageKey)) (store : Store) : List DeletionTask :=
  ((store.deletions.filter fun task =>
    storageKeys.all (fun keys => keys.contains task.storageKey) &&
      claimable store.now task).mergeSort fun task other =>
        decide (task.nextAttemptAt ≤ other.nextAttemptAt)).take 100

def purgeObjectStorageDeletions (storageKeys : Option (List StorageKey)) : Service :=
  .read (dueTasks storageKeys) purgeTasks

inductive Call where
  | acceptResult (result : RuntimeCommandResult) (context : Option RuntimeContext)
  | cancel (commandId reason : String)
  | waitForCompletion (commandId : String) (polls : List Bool)
  | purge (storageKeys : Option (List StorageKey))
  deriving Repr, DecidableEq

def serve : Call → Service
  | .acceptResult result context => acceptResult result context
  | .cancel commandId reason => cancel commandId reason
  | .waitForCompletion commandId polls => waitForCompletion commandId polls
  | .purge storageKeys => purgeObjectStorageDeletions storageKeys

inductive Change where
  | pass (ms : Nat)
  /-- A command is created, unless it exists. -/
  | command (commandId : String) (command : RuntimeCommand)
  | dispatch (commandId : String)
  | owner (id : String) (owner : Option OwnerTask)
  /-- Runtimes connect, reconnect or are disabled. -/
  | connect (connections : List RuntimeContext)
  | storage (mode : StorageMode)
  /-- Something else stores an object, with its row or with its deletion queued. -/
  | object (teamId sessionId : String) (kind : ArtifactKind) (queued : Bool)
  deriving Repr, DecidableEq

def addRow (row : ArtifactRow) (store : Store) : Store :=
  { store with drawn := store.drawn + 1, artifacts := store.artifacts ++ [row] }

def changed : Change → Store → Store
  | .pass ms, store => { store with now := store.now + ms }
  | .command commandId command, store =>
      if (store.commands commandId).isSome then store
      else
        { store with
          commands := fun id =>
            if id = commandId then some { command with status := .pending } else store.commands id }
  | .dispatch commandId, store =>
      settle commandId (fun command => { command with status := .dispatched }) store
  | .owner id owner, store =>
      { store with owners := fun other => if other = id then owner else store.owners other }
  | .connect connections, store => { store with connections }
  | .storage mode, store => { store with storage := mode }
  | .object teamId sessionId kind queued, store =>
      let key : StorageKey := { teamId, sessionId, commandId := "", kind, uuid := store.drawn }
      if queued then putObject key (enqueue key store.now store)
      else putObject key (addRow { storageKey := key, commandId := none, kind } store)

end CommandResults

end Devproof
