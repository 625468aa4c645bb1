import Devproof.Acceptance.Report
import Devproof.Lib.Interleave
import Devproof.Lib.Table
import Mathlib.Data.String.Basic

/-!
Reservations of browser profiles (`profile-reservation.service.ts`): a task takes a profile
for itself before its cases run, and others queue for it.
-/

namespace Devproof

namespace ProfileReservations

inductive ReservationStatus where
  | queued
  | active
  | released
  | cancelled
  | expired
  deriving Repr, DecidableEq

structure Reservation where
  id : String
  teamId : String
  profileId : String
  taskExecutionId : String
  status : ReservationStatus := .queued
  leaseOwner : Option String := none
  leaseToken : Option String := none
  leaseExpiresAt : Option Int := none
  queuedAt : Int
  activatedAt : Option Int := none
  releasedAt : Option Int := none
  deriving Repr, DecidableEq

inductive ResolutionStatus where
  | pending
  | resolved
  | waitingInput
  | rejected
  deriving Repr, DecidableEq

inductive TriggerSource where
  | console
  | feishu
  | issueAssignee
  deriving Repr, DecidableEq

structure TaskProfileBinding where
  status : ResolutionStatus
  requestedProfileId : Option String := none
  resolvedProfileId : Option String
  triggerSource : Option TriggerSource
  failureCode : Option String := none
  failureMessage : Option String := none
  resolvedAt : Option Int := none
  version : Nat := 1
  deriving Repr, DecidableEq

structure Deployment where
  id : String
  targetUrl : String
  enabled : Bool
  deriving Repr, DecidableEq

structure DeploymentProfile where
  deploymentId : String
  profileId : String
  deriving Repr, DecidableEq

structure TaskExecution where
  id : String
  teamId : String
  lifecycle : Acceptance.TaskLifecycle
  updatedAt : Int
  waitingReason : Option String := none
  environmentUrl : Option String := none
  deployments : List Deployment := []
  deploymentProfileBindings : List DeploymentProfile := []
  profileBinding : Option TaskProfileBinding := none
  deriving Repr, DecidableEq

structure Grant where
  triggerSource : TriggerSource
  hostnamePattern : String
  deriving Repr, DecidableEq

structure UserBrowserProfile where
  id : String
  ready : Bool
  inactivityExpiresAt : Option Int
  executionMode : String
  ownerActive : Bool
  ownerTeams : List String
  grants : List Grant
  deriving Repr, DecidableEq

structure Database where
  now : Int
  tasks : String → Option TaskExecution
  profiles : String → Option UserBrowserProfile
  /-- The tasks of the runs that have not ended. -/
  openRuns : List String := []
  reservations : List Reservation := []

structure Host where
  /-- `new URL(url).hostname`, unless it throws. -/
  hostname : String → Option String
  hostnameMatchesPattern : String → String → Bool
  /-- `orderBy: updatedAt`. -/
  oldestFirst : List Reservation → List Reservation

def reservationLeaseMs : Int := 5 * 60 * 1000

def terminalTaskLifecycle (lifecycle : Acceptance.TaskLifecycle) : Bool :=
  [.completed, .cancelled, .timedOut].contains lifecycle

def live (status : ReservationStatus) : Bool :=
  [.active, .queued, .expired].contains status

structure BlockedBy where
  resourceId : String
  taskId : Option String := none
  deriving Repr, DecidableEq

structure QueuePosition where
  position : Nat
  snapshotAt : Int
  deriving Repr, DecidableEq

inductive Answer where
  | acquired (profile : Option UserBrowserProfile)
  | blocked (profile : UserBrowserProfile) (reason : String) (blockedBy : Option BlockedBy)
      (queue : Option QueuePosition)
  | done
  deriving Repr, DecidableEq

inductive Failure where
  /-- The primary key of reservations. -/
  | duplicateId
  deriving Repr, DecidableEq

namespace Database

def updateReservations (allowed : Reservation → Bool) (write : Reservation → Reservation)
    (database : Database) : Database :=
  { database with reservations := updateWhere allowed write database.reservations }

def put (row : Reservation) (database : Database) : Database :=
  { database with
    reservations :=
      if database.reservations.any fun other => other.id == row.id then
        updateWhere (fun other => other.id == row.id) (fun _ => row) database.reservations
      else database.reservations ++ [row] }

def setTask (taskId : String) (task : TaskExecution) (database : Database) : Database :=
  { database with tasks := fun id => if id = taskId then some task else database.tasks id }

end Database

/-! `invalidateBinding`. -/

structure Invalidation where
  code : String := "PROFILE_AUTHORIZATION_CHANGED"
  message : String :=
    "The Profile owner, hostname, or trigger authorization changed before dispatch."
  deriving Repr, DecidableEq

def inactivityExpired : Invalidation where
  code := "PROFILE_INACTIVITY_EXPIRED"
  message :=
    "The resolved browser profile expired before task dispatch and must be prepared again."

/-- The binding is resolved to this profile, for the task or for one of its deployments. -/
def resolvedTo (profileId : String) (task : TaskExecution) : Option TaskProfileBinding :=
  task.profileBinding.filter fun binding =>
    (binding.resolvedProfileId == some profileId ||
      task.deploymentProfileBindings.any fun deployment => deployment.profileId == profileId) &&
    binding.status == .resolved

def invalidatedBinding (profileId : String) (reason : Invalidation)
    (binding : TaskProfileBinding) : TaskProfileBinding :=
  { binding with
    failureCode := some reason.code
    failureMessage := some reason.message
    requestedProfileId := some profileId
    resolvedAt := none
    resolvedProfileId := none
    status := .waitingInput
    version := binding.version + 1 }

def cancelled (now : Int) (row : Reservation) : Reservation :=
  { row with
    leaseExpiresAt := none, leaseOwner := none, leaseToken := none
    releasedAt := some now
    status := .cancelled }

def waitForProfile (now : Int) (code : String) (task : TaskExecution) : TaskExecution :=
  if [.queued, .running, .waitingInput].contains task.lifecycle then
    { task with lifecycle := .waitingInput, waitingReason := some code, updatedAt := now }
  else task

def invalidate (taskId profileId : String) (reason : Invalidation) (now : Int)
    (database : Database) : Database :=
  match database.tasks taskId with
  | none => database
  | some task =>
      match resolvedTo profileId task with
      | none => database
      | some binding =>
          let unbound := { task with
            profileBinding := some (invalidatedBinding profileId reason binding)
            deploymentProfileBindings := [] }
          (database.setTask taskId
            (waitForProfile database.now reason.code unbound)).updateReservations
            (fun row => row.profileId == profileId && live row.status &&
              row.taskExecutionId == taskId) (cancelled now)

/-! `releaseTask`, `renew`. -/

def ended (taskId : String) (database : Database) : Bool :=
  (database.tasks taskId).any fun task => terminalTaskLifecycle task.lifecycle

def released (now : Int) (row : Reservation) : Reservation :=
  { row with
    leaseExpiresAt := none, leaseOwner := none, leaseToken := none
    releasedAt := some now
    status := .released }

def releaseReservations (taskId : String) (database : Database) : Database :=
  if ended taskId database then
    database.updateReservations
      (fun row => live row.status && row.taskExecutionId == taskId) (released database.now)
  else database

def renewReservation (id : String) (now : Int) (database : Database) : Database :=
  database.updateReservations (fun row => row.id == id && row.status == .active)
    fun row => { row with leaseExpiresAt := some (now + reservationLeaseMs) }

/-! The transaction of `acquire`. -/

section Reserve

def locks (task : TaskExecution) (database : Database) : Bool :=
  (database.tasks task.id).any fun row =>
    row.updatedAt == task.updatedAt && !terminalTaskLifecycle row.lifecycle

variable (task : TaskExecution) (profile : UserBrowserProfile) (now : Int)
  (reservationId leaseToken : String)

def precedes (row other : Reservation) : Bool :=
  decide (row.queuedAt < other.queuedAt) ||
    (row.queuedAt == other.queuedAt && decide (row.id < other.id))

def queuedFor (profileId : String) (rows : List Reservation) : List Reservation :=
  rows.filter fun row => row.profileId == profileId && row.status == .queued

def activeFor (profileId : String) (rows : List Reservation) : Option Reservation :=
  rows.find? fun row => row.profileId == profileId && row.status == .active

def first (rows : List Reservation) : Option Reservation :=
  rows.find? fun row => rows.all fun other => !precedes other row

def reservationOf (profileId taskId : String) (rows : List Reservation) : Option Reservation :=
  rows.find? fun row => row.profileId == profileId && row.taskExecutionId == taskId

def enter (database : Database) : Except Failure Reservation :=
  match reservationOf profile.id task.id database.reservations with
  | some current => .ok current
  | none => do
      throwIf (database.reservations.any fun row => row.id == reservationId) .duplicateId
      return { id := reservationId, teamId := task.teamId, profileId := profile.id
               taskExecutionId := task.id, queuedAt := database.now }

def requeued (current : Reservation) : Reservation :=
  if [.released, .cancelled].contains current.status then
    { current with
      status := .queued
      queuedAt := now
      activatedAt := none, releasedAt := none
      leaseToken := none, leaseOwner := none, leaseExpiresAt := none }
  else current

def activated (current : Reservation) : Reservation :=
  { current with
    activatedAt := some (current.activatedAt.getD now)
    leaseExpiresAt := some (now + reservationLeaseMs)
    leaseOwner := some ("task:" ++ task.id)
    leaseToken := some leaseToken
    releasedAt := none
    status := .active }

def queuePosition (current : Reservation) (rows : List Reservation) : QueuePosition where
  position := 1 + ((queuedFor profile.id rows).filter fun row => precedes row current).length
  snapshotAt := now

def takeTurn (current : Reservation) (database : Database) : Database × Answer :=
  let rows := database.reservations
  match activeFor profile.id rows with
  | some active =>
      (database, .blocked profile "PROFILE_RESERVED"
        (some { resourceId := profile.id, taskId := some active.taskExecutionId })
        (some (queuePosition profile now current rows)))
  | none =>
      if (first (queuedFor profile.id rows)).map Reservation.id = some current.id then
        (database.put (activated task now leaseToken current), .acquired (some profile))
      else
        (database, .blocked profile "PROFILE_RESERVED" (some { resourceId := profile.id })
          (some (queuePosition profile now current rows)))

def reserve (database : Database) : Except Failure (Database × Answer) := do
  if !locks task database then
    return (database, .blocked profile "PROFILE_RESERVED" none none)
  else
    let read ← enter task profile reservationId database
    let current := requeued now read
    let entered := database.put current
    if current.status = .active then
      let renewed := { current with leaseExpiresAt := some (now + reservationLeaseMs) }
      return (entered.put renewed, .acquired (some profile))
    else
      let waiting := { current with status := .queued }
      return takeTurn task profile now leaseToken waiting (entered.put waiting)

end Reserve

inductive Call where
  /-- `acquire`, with the identifiers it would draw. -/
  | acquire (taskId : String) (deploymentId : Option String) (reservationId leaseToken : String)
  | releaseTask (taskId : String)
  | reconcile (limit : Nat)
  | invalidateBinding (taskId profileId : String) (reason : Invalidation)
  deriving Repr, DecidableEq

abbrev Service := Program Database (Except Failure Answer)

def write (update : Database → Database) (next : Service) : Service :=
  .step update fun _ => next

def answer (result : Answer) : Service :=
  .answer (.ok result)

section Acquire

variable (host : Host)

structure Read where
  task : TaskExecution
  profile : UserBrowserProfile
  urls : List String

def readTask (taskId : String) (deploymentId : Option String) (database : Database) :
    Option Read := do
  let task ← database.tasks taskId
  let chosen := fun id => deploymentId.all (· == id)
  let bound := task.deploymentProfileBindings.filter fun binding => chosen binding.deploymentId
  let deployments := task.deployments.filter fun deployment =>
    deployment.enabled && chosen deployment.id
  let profileId ← (bound.head?.map DeploymentProfile.profileId).or
    (task.profileBinding.bind TaskProfileBinding.resolvedProfileId)
  let profile ← database.profiles profileId
  return {
    task := { task with id := taskId }
    profile := { profile with id := profileId }
    urls := if deployments.isEmpty then task.environmentUrl.toList
      else deployments.map Deployment.targetUrl }

def environmentHostnames (urls : List String) : List String :=
  (urls.filterMap host.hostname).dedup

def prepared (read : Read) : Bool :=
  (read.task.profileBinding.any fun binding => binding.status == .resolved) &&
    read.profile.ready && !terminalTaskLifecycle read.task.lifecycle

def authorized (read : Read) : Bool :=
  let hostnames := environmentHostnames host read.urls
  read.profile.ownerActive && read.profile.ownerTeams.contains read.task.teamId &&
    (read.task.profileBinding.bind TaskProfileBinding.triggerSource).any fun source =>
      !hostnames.isEmpty && hostnames.all fun hostname =>
        read.profile.grants.any fun grant =>
          grant.triggerSource == source && host.hostnameMatchesPattern hostname grant.hostnamePattern

def invalidateBinding (taskId profileId : String) (reason : Invalidation) (next : Service) :
    Service :=
  .read Database.now fun now => write (invalidate taskId profileId reason now) next

def releaseStale (now : Int) : List (Reservation × Bool) → Service → Service
  | [], next => next
  | (row, busy) :: rest, next =>
      if busy then write (renewReservation row.id now) (releaseStale now rest next)
      else write (releaseReservations row.taskExecutionId) (releaseStale now rest next)

/-- The active reservations of the profile whose lease has passed, and whether it is renewed. -/
def stale (profileId : String) (now : Int) (database : Database) : List (Reservation × Bool) :=
  (database.reservations.filter fun row =>
    row.profileId == profileId && row.status == .active &&
      row.leaseExpiresAt.any fun expires => decide (expires < now)).map fun row =>
        (row, database.openRuns.contains row.taskExecutionId ||
          !ended row.taskExecutionId database)

def acquireProfile (read : Read) (reservationId leaseToken : String) (now : Int) : Service :=
  if !prepared read then
    answer (.blocked read.profile "AUTH_REQUIRED" none none)
  else if !(read.profile.inactivityExpiresAt.any fun expires => decide (now < expires)) then
    invalidateBinding read.task.id read.profile.id inactivityExpired
      (answer (.blocked read.profile "PROFILE_INACTIVITY_EXPIRED" none none))
  else if !authorized host read then
    invalidateBinding read.task.id read.profile.id {}
      (answer (.blocked read.profile "PROFILE_AUTHORIZATION_CHANGED" none none))
  else if read.profile.executionMode = "ISOLATED_AUTH" then
    answer (.acquired (some read.profile))
  else
    .read (stale read.profile.id now) fun rows =>
      releaseStale now rows (.transaction
        (reserve read.task read.profile now reservationId leaseToken))

def acquire (taskId : String) (deploymentId : Option String) (reservationId leaseToken : String) :
    Service :=
  .read (readTask taskId deploymentId) fun read =>
    match read with
    | none => answer (.acquired none)
    | some read => .read Database.now fun now =>
        acquireProfile host read reservationId leaseToken now

def activeReservations (limit : Nat) (database : Database) : List (Reservation × Bool) :=
  ((host.oldestFirst (database.reservations.filter fun row => row.status == .active)).take
    limit).map fun row => (row, !ended row.taskExecutionId database)

def reconcile (limit : Nat) : Service :=
  .read Database.now fun now => .read (activeReservations host limit) fun rows =>
    releaseStale now rows (answer .done)

def serve : Call → Service
  | .acquire taskId deploymentId reservationId leaseToken =>
      acquire host taskId deploymentId reservationId leaseToken
  | .releaseTask taskId => write (releaseReservations taskId) (answer .done)
  | .reconcile limit => reconcile host limit
  | .invalidateBinding taskId profileId reason =>
      invalidateBinding taskId profileId reason (answer .done)

end Acquire

inductive Change where
  | pass (ms : Nat)
  /-- A task is created, unless it exists. -/
  | create (task : TaskExecution)
  /-- The task moves on, is cancelled or reopened. -/
  | move (taskId : String) (lifecycle : Acceptance.TaskLifecycle)
  /-- The profile of the task is resolved. -/
  | resolve (taskId : String) (binding : TaskProfileBinding)
      (deployments : List DeploymentProfile)
  | profile (id : String) (profile : UserBrowserProfile)
  | runs (openRuns : List String)
  deriving Repr, DecidableEq

def changed : Change → Database → Database
  | .pass ms, database => { database with now := database.now + ms }
  | .create task, database =>
      if (database.tasks task.id).isSome then database
      else database.setTask task.id { task with updatedAt := database.now }
  | .move taskId lifecycle, database =>
      match database.tasks taskId with
      | some task =>
          database.setTask taskId { task with lifecycle, updatedAt := database.now }
      | none => database
  | .resolve taskId binding deployments, database =>
      match database.tasks taskId with
      | some task =>
          database.setTask taskId { task with
            profileBinding := some { binding with status := .resolved }
            deploymentProfileBindings := deployments
            updatedAt := database.now }
      | none => database
  | .profile id profile, database =>
      { database with
        profiles := fun other => if other = id then some profile else database.profiles other }
  | .runs openRuns, database => { database with openRuns }

end ProfileReservations

end Devproof
