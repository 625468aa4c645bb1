import Devproof.Lib.Reliance
import Devproof.Profiles.Reservation

/-!
What one step of the reservation service does: who is active, who waits, and what becomes of
a task while its updates are told apart by their time.
-/

namespace Devproof

namespace ProfileReservations

def Ended (task : TaskExecution) : Prop :=
  terminalTaskLifecycle task.lifecycle = true

def Resolved (task : TaskExecution) : Prop :=
  ∃ binding, task.profileBinding = some binding ∧ binding.status = .resolved

def interruptible (lifecycle : Acceptance.TaskLifecycle) : Bool :=
  [.queued, .running, .waitingInput].contains lifecycle

def TaskStep (now : Int) (task next : TaskExecution) : Prop :=
  next.updatedAt = now ∨
    (next.updatedAt = task.updatedAt ∧ next.lifecycle = task.lifecycle ∧
      (Resolved task → Resolved next ∨ interruptible task.lifecycle = false))

/-- A task that has the same update is not reopened, nor is its binding lost while it runs. -/
def TaskLater (task next : TaskExecution) : Prop :=
  task.updatedAt ≤ next.updatedAt ∧
    (next.updatedAt = task.updatedAt →
      (Ended task → Ended next) ∧ (Resolved task → Resolved next ∨ Ended next))

def TasksFollow (follows : TaskExecution → TaskExecution → Prop) (before after : Database) :
    Prop :=
  ∀ id task, before.tasks id = some task →
    ∃ next, after.tasks id = some next ∧ follows task next

structure Later (before after : Database) : Prop where
  now : before.now ≤ after.now
  tasks : TasksFollow TaskLater before after

def Invalidated (taskId : String) (before after : Database) : Prop :=
  ∃ task next, before.tasks taskId = some task ∧ after.tasks taskId = some next ∧
    Resolved task ∧ ¬ Resolved next

structure Lawful (database : Database) : Prop where
  clock : ∀ id task, database.tasks id = some task → task.updatedAt ≤ database.now
  ids : (database.reservations.map Reservation.id).Nodup
  oneActive : ∀ row ∈ database.reservations, ∀ other ∈ database.reservations,
    row.status = .active → other.status = .active → row.profileId = other.profileId → row = other

def SameReservation (row next : Reservation) : Prop :=
  next.id = row.id ∧ next.profileId = row.profileId ∧ next.taskExecutionId = row.taskExecutionId

def WasActive (before : Database) (next : Reservation) : Prop :=
  ∃ row ∈ before.reservations, row.id = next.id ∧ row.status = .active

structure RowsStep (before after : Database) : Prop where
  rows : ∀ row ∈ before.reservations, ∃ next ∈ after.reservations, SameReservation row next ∧
    (row.status = .queued → next.status = .queued ∨ next.status = .active →
      next.queuedAt = row.queuedAt)
  kept : ∀ row ∈ before.reservations, row.status = .active →
    (∃ next ∈ after.reservations, SameReservation row next ∧ next.status = .active) ∨
      ended row.taskExecutionId before = true ∨ Invalidated row.taskExecutionId before after
  turn : ∀ next ∈ after.reservations, next.status = .active → ¬ WasActive before next →
    ∀ other ∈ before.reservations, other.profileId = next.profileId → other.status = .queued →
      other.id ≠ next.id → precedes other next = false

def Grants (rest : Service) (profile : UserBrowserProfile) : Prop :=
  rest = .answer (.ok (.acquired (some profile))) ∧ profile.executionMode ≠ "ISOLATED_AUTH"

def Holds (taskId profileId : String) (database : Database) : Prop :=
  (∃ row ∈ database.reservations, row.profileId = profileId ∧ row.taskExecutionId = taskId ∧
    row.status = .active) ∧
  ∃ task, database.tasks taskId = some task ∧ Resolved task

structure Behaves (call : Call) (before after : Database) (rest : Service) : Prop where
  lawful : Lawful after
  now : after.now = before.now
  tasks : TasksFollow (TaskStep before.now) before after
  rows : RowsStep before after
  answer : ∀ profile, Grants rest profile → ∃ taskId deploymentId reservationId leaseToken,
    call = .acquire taskId deploymentId reservationId leaseToken ∧ Holds taskId profile.id after

section Tasks

variable {task middle next : TaskExecution} {now : Int} {before after final : Database}

theorem TaskStep.refl (now : Int) (task : TaskExecution) : TaskStep now task task :=
  .inr ⟨rfl, rfl, .inl⟩

theorem TaskLater.refl (task : TaskExecution) : TaskLater task task :=
  ⟨le_refl _, fun _ => ⟨id, .inl⟩⟩

theorem TaskLater.trans (first : TaskLater task middle) (second : TaskLater middle next) :
    TaskLater task next := by
  refine ⟨first.1.trans second.1, fun same => ?_⟩
  have middleSame : middle.updatedAt = task.updatedAt := by
    have onward := second.1
    rw [same] at onward
    exact le_antisymm onward first.1
  have nextSame : next.updatedAt = middle.updatedAt := same.trans middleSame.symm
  obtain ⟨ended, resolved⟩ := first.2 middleSame
  obtain ⟨ended', resolved'⟩ := second.2 nextSame
  refine ⟨fun here => ended' (ended here), fun here => ?_⟩
  rcases resolved here with still | isOver
  · exact resolved' still
  · exact .inr (ended' isOver)

theorem TasksFollow.refl {follows : TaskExecution → TaskExecution → Prop}
    (same : ∀ task, follows task task) (database : Database) :
    TasksFollow follows database database :=
  fun _ task here => ⟨task, here, same task⟩

theorem Later.refl (database : Database) : Later database database :=
  ⟨le_refl _, TasksFollow.refl TaskLater.refl database⟩

theorem Later.trans (first : Later before after) (second : Later after final) :
    Later before final := by
  refine ⟨first.now.trans second.now, fun id task here => ?_⟩
  obtain ⟨middle, there, onward⟩ := first.tasks id task here
  obtain ⟨next, last, further⟩ := second.tasks id middle there
  exact ⟨next, last, onward.trans further⟩

theorem tasksFollow_setTask {follows : TaskExecution → TaskExecution → Prop} {taskId : String}
    (same : ∀ task, follows task task)
    (written : ∀ task, before.tasks taskId = some task → follows task next) :
    TasksFollow follows before (before.setTask taskId next) := by
  intro id task here
  by_cases target : id = taskId
  · subst target
    exact ⟨next, by simp [Database.setTask], written task here⟩
  · exact ⟨task, by simp [Database.setTask, target, here], same task⟩

theorem clock_setTask {taskId : String} (lawful : Lawful before)
    (bounded : next.updatedAt ≤ before.now) :
    ∀ id task, (before.setTask taskId next).tasks id = some task →
      task.updatedAt ≤ before.now := by
  intro id task here
  simp only [Database.setTask] at here
  split at here
  · cases here
    exact bounded
  · exact lawful.clock id task here

end Tasks

/-! Steps that leave the reservations, or only end or renew some of them. -/

section Updates

variable {before after : Database} {allowed : Reservation → Bool}
  {write : Reservation → Reservation}

theorem RowsStep.refl (database : Database) : RowsStep database database where
  rows row member := ⟨row, member, ⟨rfl, rfl, rfl⟩, fun _ _ => rfl⟩
  kept row member active := .inl ⟨row, member, ⟨rfl, rfl, rfl⟩, active⟩
  turn next member active fresh := absurd ⟨next, member, rfl, active⟩ fresh

theorem behaves_same {call : Call} {rest : Service} (lawful : Lawful before)
    (quiet : ∀ profile, ¬ Grants rest profile) : Behaves call before before rest where
  lawful := lawful
  now := rfl
  tasks := TasksFollow.refl (TaskStep.refl _) before
  rows := RowsStep.refl before
  answer profile grants := absurd grants (quiet profile)

structure Mild (write : Reservation → Reservation) : Prop where
  same : ∀ row, SameReservation row (write row)
  queuedAt : ∀ row, (write row).queuedAt = row.queuedAt
  status : ∀ row, (write row).status = .active ∨ (write row).status = .queued →
    (write row).status = row.status

theorem mem_update (rows : after.reservations = updateWhere allowed write before.reservations)
    {next : Reservation} (member : next ∈ after.reservations) :
    ∃ row ∈ before.reservations, (allowed row = true ∧ next = write row) ∨ next = row := by
  rw [rows] at member
  obtain ⟨row, present, rfl⟩ := List.mem_map.mp member
  refine ⟨row, present, ?_⟩
  split
  · exact .inl ⟨‹_›, rfl⟩
  · exact .inr rfl

theorem active_update (mild : Mild write)
    (rows : after.reservations = updateWhere allowed write before.reservations)
    {next : Reservation} (member : next ∈ after.reservations) (active : next.status = .active) :
    ∃ row ∈ before.reservations, row.status = .active ∧ SameReservation row next := by
  obtain ⟨row, present, ⟨-, rfl⟩ | rfl⟩ := mem_update rows member
  · exact ⟨row, present, (mild.status row (.inl active)).symm.trans active, mild.same row⟩
  · exact ⟨next, present, active, rfl, rfl, rfl⟩

theorem ids_update (mild : Mild write)
    (rows : after.reservations = updateWhere allowed write before.reservations) :
    after.reservations.map Reservation.id = before.reservations.map Reservation.id := by
  rw [rows]
  exact keys_updateWhere fun row => (mild.same row).1

theorem rowsStep_update (mild : Mild write)
    (rows : after.reservations = updateWhere allowed write before.reservations)
    (reason : ∀ row ∈ before.reservations, allowed row = true → row.status = .active →
      (write row).status = .active ∨ ended row.taskExecutionId before = true ∨
        Invalidated row.taskExecutionId before after) : RowsStep before after where
  rows row member := by
    rw [rows]
    refine ⟨_, List.mem_map_of_mem member, ?_⟩
    split
    · exact ⟨mild.same row, fun _ _ => mild.queuedAt row⟩
    · exact ⟨⟨rfl, rfl, rfl⟩, fun _ _ => rfl⟩
  kept row member active := by
    by_cases chosen : allowed row = true
    · rcases reason row member chosen active with still | isOver
      · refine .inl ⟨write row, ?_, mild.same row, still⟩
        rw [rows]
        exact List.mem_map.mpr ⟨row, member, if_pos chosen⟩
      · exact .inr isOver
    · refine .inl ⟨row, ?_, ⟨rfl, rfl, rfl⟩, active⟩
      rw [rows]
      exact List.mem_map.mpr ⟨row, member, if_neg chosen⟩
  turn next member active fresh := by
    obtain ⟨row, present, was, same⟩ := active_update mild rows member active
    exact absurd ⟨row, present, same.1.symm, was⟩ fresh

theorem lawful_update (lawful : Lawful before) (mild : Mild write)
    (rows : after.reservations = updateWhere allowed write before.reservations)
    (clock : ∀ id task, after.tasks id = some task → task.updatedAt ≤ after.now) :
    Lawful after where
  clock := clock
  ids := by
    rw [ids_update mild rows]
    exact lawful.ids
  oneActive row member other member' active active' profile := by
    obtain ⟨first, present, was, same⟩ := active_update mild rows member active
    obtain ⟨second, present', was', same'⟩ := active_update mild rows member' active'
    have one := lawful.oneActive first present second present' was was'
      (same.2.1.symm.trans (profile.trans same'.2.1))
    have nodup : (after.reservations.map Reservation.id).Nodup := by
      rw [ids_update mild rows]
      exact lawful.ids
    refine List.inj_on_of_nodup_map nodup member member' ?_
    rw [same.1, same'.1, one]

theorem mild_released (now : Int) : Mild (released now) where
  same _ := ⟨rfl, rfl, rfl⟩
  queuedAt _ := rfl
  status _ live := by rcases live with here | here <;> cases here

theorem mild_cancelled (now : Int) : Mild (cancelled now) where
  same _ := ⟨rfl, rfl, rfl⟩
  queuedAt _ := rfl
  status _ live := by rcases live with here | here <;> cases here

theorem mild_renewed (expires : Option Int) :
    Mild fun row => { row with leaseExpiresAt := expires } where
  same _ := ⟨rfl, rfl, rfl⟩
  queuedAt _ := rfl
  status _ _ := rfl

end Updates

section Writes

variable {database : Database} {call : Call} {rest : Service}

theorem renew_behaves (lawful : Lawful database) (quiet : ∀ profile, ¬ Grants rest profile)
    (id : String) (now : Int) :
    Behaves call database (renewReservation id now database) rest where
  lawful := lawful_update lawful (mild_renewed _) rfl lawful.clock
  now := rfl
  tasks := TasksFollow.refl (TaskStep.refl _) database
  rows := rowsStep_update (mild_renewed _) rfl fun _ _ _ active => .inl active
  answer profile grants := absurd grants (quiet profile)

theorem release_behaves (lawful : Lawful database) (quiet : ∀ profile, ¬ Grants rest profile)
    (taskId : String) :
    Behaves call database (releaseReservations taskId database) rest := by
  rw [releaseReservations]
  split
  · rename_i isOver
    refine ⟨lawful_update lawful (mild_released _) rfl lawful.clock, rfl,
      TasksFollow.refl (TaskStep.refl _) database, ?_, fun profile grants =>
        absurd grants (quiet profile)⟩
    refine rowsStep_update (mild_released _) rfl fun row _ chosen _ => .inr (.inl ?_)
    rw [Bool.and_eq_true, beq_iff_eq] at chosen
    rw [chosen.2]
    exact isOver
  · exact behaves_same lawful quiet

theorem resolvedTo_some {profileId : String} {task : TaskExecution} {binding : TaskProfileBinding}
    (found : resolvedTo profileId task = some binding) : Resolved task := by
  obtain ⟨present, chosen⟩ := Option.filter_eq_some_iff.mp found
  rw [Bool.and_eq_true, beq_iff_eq] at chosen
  exact ⟨binding, present, chosen.2⟩

theorem waitForProfile_binding (now : Int) (code : String) (task : TaskExecution) :
    (waitForProfile now code task).profileBinding = task.profileBinding := by
  rw [waitForProfile]
  split <;> rfl

theorem waitForProfile_step (now : Int) (code : String) (task unbound : TaskExecution)
    (update : unbound.updatedAt = task.updatedAt)
    (lifecycle : unbound.lifecycle = task.lifecycle) :
    TaskStep now task (waitForProfile now code unbound) := by
  rw [waitForProfile]
  split
  · exact .inl rfl
  · rename_i idle
    rw [lifecycle, Bool.not_eq_true] at idle
    exact .inr ⟨update, lifecycle, fun _ => .inr idle⟩

theorem waitForProfile_clock {now : Int} {code : String} {task : TaskExecution}
    (bounded : task.updatedAt ≤ now) : (waitForProfile now code task).updatedAt ≤ now := by
  rw [waitForProfile]
  split
  · exact le_refl now
  · exact bounded

theorem invalidate_behaves (lawful : Lawful database) (quiet : ∀ profile, ¬ Grants rest profile)
    (taskId profileId : String) (reason : Invalidation) (now : Int) :
    Behaves call database (invalidate taskId profileId reason now database) rest := by
  rw [invalidate]
  split
  · exact behaves_same lawful quiet
  · rename_i task here
    split
    · exact behaves_same lawful quiet
    · rename_i binding found
      have clock := @clock_setTask _ _ taskId lawful
        (@waitForProfile_clock database.now reason.code
          { task with
            profileBinding := some (invalidatedBinding profileId reason binding)
            deploymentProfileBindings := [] } (lawful.clock taskId task here))
      refine ⟨lawful_update lawful (mild_cancelled now) rfl clock, rfl, ?_, ?_,
        fun profile grants => absurd grants (quiet profile)⟩
      · refine tasksFollow_setTask (TaskStep.refl _) fun other there => ?_
        obtain rfl : other = task := Option.some.inj (there.symm.trans here)
        exact waitForProfile_step _ _ _ _ rfl rfl
      · refine rowsStep_update (mild_cancelled now) rfl fun row _ chosen _ => .inr (.inr ?_)
        rw [Bool.and_eq_true, beq_iff_eq] at chosen
        rw [chosen.2]
        refine ⟨task, _, here, if_pos rfl, resolvedTo_some found, ?_⟩
        rintro ⟨other, present, resolved⟩
        rw [waitForProfile_binding] at present
        cases present
        cases resolved

end Writes

end ProfileReservations

end Devproof
