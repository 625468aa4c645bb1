import Devproof.Profiles.Turns

/-!
The transaction in which a task queues for a profile and takes it in its turn.
-/

namespace Devproof

namespace ProfileReservations

structure Placed (row : Reservation) (before after : Database) : Prop where
  members : ∀ other, other ∈ after.reservations ↔
    other = row ∨ (other ∈ before.reservations ∧ other.id ≠ row.id)
  ids : (before.reservations.map Reservation.id).Nodup →
    (after.reservations.map Reservation.id).Nodup
  tasks : after.tasks = before.tasks
  now : after.now = before.now

section Placing

variable {before middle after database : Database} {row earlier : Reservation}

theorem placed_put (row : Reservation) (database : Database) :
    Placed row database (database.put row) := by
  rcases known : database.reservations.any fun other => other.id == row.id with _ | _
  · have absent : ∀ other ∈ database.reservations, other.id ≠ row.id := by
      intro other member same
      rw [List.any_eq_false] at known
      exact known other member (beq_iff_eq.mpr same)
    have rows : (database.put row).reservations = database.reservations ++ [row] := by
      simp [Database.put, known]
    refine ⟨fun other => ?_, fun nodup => ?_, rfl, rfl⟩
    · rw [rows, List.mem_append, List.mem_singleton]
      constructor
      · rintro (member | rfl)
        · exact .inr ⟨member, absent other member⟩
        · exact .inl rfl
      · rintro (rfl | ⟨member, -⟩)
        · exact .inr rfl
        · exact .inl member
    · rw [rows, List.map_append, List.map_singleton]
      refine List.Nodup.append nodup (List.nodup_singleton _) ?_
      intro id member last
      obtain ⟨other, present, same⟩ := List.mem_map.mp member
      exact absent other present (same.trans (List.mem_singleton.mp last))
  · have rows : (database.put row).reservations =
        updateWhere (fun other => other.id == row.id) (fun _ => row) database.reservations := by
      simp [Database.put, known]
    refine ⟨fun other => ?_, fun nodup => ?_, rfl, rfl⟩
    · rw [rows, updateWhere, List.mem_map]
      constructor
      · rintro ⟨old, member, rfl⟩
        split
        · exact .inl rfl
        · rename_i distinct
          rw [beq_iff_eq] at distinct
          exact .inr ⟨member, distinct⟩
      · rintro (rfl | ⟨member, distinct⟩)
        · obtain ⟨old, member, same⟩ := List.any_eq_true.mp known
          exact ⟨old, member, if_pos same⟩
        · refine ⟨other, member, if_neg ?_⟩
          rw [beq_iff_eq]
          exact distinct
    · have same : (database.put row).reservations.map Reservation.id =
          database.reservations.map Reservation.id := by
        rw [rows, updateWhere, List.map_map]
        apply List.map_congr_left
        intro old _
        simp only [Function.comp_apply]
        split
        · rename_i here
          exact (beq_iff_eq.mp here).symm
        · rfl
      rw [same]
      exact nodup

theorem Placed.trans (first : Placed earlier before middle) (second : Placed row middle after)
    (same : earlier.id = row.id) : Placed row before after := by
  refine ⟨fun other => ?_, fun nodup => second.ids (first.ids nodup),
    second.tasks.trans first.tasks, second.now.trans first.now⟩
  rw [second.members, first.members]
  constructor
  · rintro (here | ⟨rfl | ⟨member, -⟩, distinct⟩)
    · exact .inl here
    · exact absurd same distinct
    · exact .inr ⟨member, distinct⟩
  · rintro (here | ⟨member, distinct⟩)
    · exact .inl here
    · exact .inr ⟨.inr ⟨member, same ▸ distinct⟩, distinct⟩

end Placing

/-! The reservation that the task enters with. -/

section Entering

variable {task : TaskExecution} {profile : UserBrowserProfile} {now : Int}
  {reservationId leaseToken : String} {database after : Database} {current row : Reservation}
  {answer : Answer}

structure Continues (task : TaskExecution) (profile : UserBrowserProfile) (database : Database)
    (row : Reservation) : Prop where
  profileId : row.profileId = profile.id
  taskId : row.taskExecutionId = task.id
  known : ∀ old ∈ database.reservations, old.id = row.id →
    old.profileId = row.profileId ∧ old.taskExecutionId = row.taskExecutionId ∧
      (old.status = .queued → row.queuedAt = old.queuedAt)

theorem enter_continues (lawful : Lawful database)
    (entered : enter task profile reservationId database = .ok current) :
    Continues task profile database current ∧
      (∀ old ∈ database.reservations, old.id = current.id → old = current) ∧
      (current.status = .active → current ∈ database.reservations) := by
  rw [enter] at entered
  split at entered
  · rename_i found
    cases entered
    have present := List.mem_of_find?_eq_some found
    have keys := List.find?_some found
    rw [Bool.and_eq_true, beq_iff_eq, beq_iff_eq] at keys
    have one : ∀ old ∈ database.reservations, old.id = current.id → old = current :=
      fun old member same => List.inj_on_of_nodup_map lawful.ids member present same
    refine ⟨⟨keys.1, keys.2, fun old member same => ?_⟩, one, fun _ => present⟩
    rw [one old member same]
    exact ⟨rfl, rfl, fun _ => rfl⟩
  · obtain ⟨_, fresh, made⟩ := bind_ok.mp entered
    rw [throwIf_ok, List.any_eq_false] at fresh
    cases made
    have none : ∀ old ∈ database.reservations, old.id ≠ reservationId := by
      intro old member same
      exact fresh old member (beq_iff_eq.mpr same)
    refine ⟨⟨rfl, rfl, fun old member same => absurd same (none old member)⟩,
      fun old member same => absurd same (none old member), ?_⟩
    intro active
    cases active

/-- What is written keeps the row's place, unless it had left the queue. -/
theorem Continues.write {next : Reservation} (continues : Continues task profile database current)
    (one : ∀ old ∈ database.reservations, old.id = current.id → old = current)
    (same : SameReservation current next)
    (place : current.status = .queued → next.queuedAt = current.queuedAt) :
    Continues task profile database next where
  profileId := same.2.1.trans continues.profileId
  taskId := same.2.2.trans continues.taskId
  known old member here := by
    obtain rfl := one old member (here.trans same.1)
    exact ⟨same.2.1.symm, same.2.2.symm, place⟩

theorem requeued_same (now : Int) (current : Reservation) :
    SameReservation current (requeued now current) ∧
      (current.status = .queued → (requeued now current).queuedAt = current.queuedAt) ∧
      ((requeued now current).status = .active → current.status = .active) := by
  rw [requeued]
  split
  · rename_i isOver
    refine ⟨⟨rfl, rfl, rfl⟩, fun queued => ?_, fun active => ?_⟩
    · rw [queued] at isOver
      cases isOver
    · cases active
  · exact ⟨⟨rfl, rfl, rfl⟩, fun _ => rfl, id⟩

def InTurn (database : Database) (row : Reservation) : Prop :=
  (∀ other ∈ database.reservations, other.id ≠ row.id → other.status = .active →
    other.profileId ≠ row.profileId) ∧
  ∀ other ∈ database.reservations, other.id ≠ row.id → other.status = .queued →
    other.profileId = row.profileId → precedes other row = false

structure Reserved (task : TaskExecution) (profile : UserBrowserProfile) (database : Database)
    (answer : Answer) (after : Database) (row : Reservation) : Prop where
  placed : Placed row database after
  continues : Continues task profile database row
  status : row.status = .active ∧ answer = .acquired (some profile) ∧
      (WasActive database row ∨ InTurn database row) ∨
    row.status = .queued ∧ (∀ profile, answer ≠ .acquired profile) ∧ ¬ WasActive database row

theorem first_precedes {rows : List Reservation} (found : first rows = some row) :
    row ∈ rows ∧ ∀ other ∈ rows, precedes other row = false := by
  refine ⟨List.mem_of_find?_eq_some found, ?_⟩
  have ahead := List.find?_some found
  rw [List.all_eq_true] at ahead
  intro other member
  exact Bool.not_eq_true' _ ▸ ahead other member

theorem takeTurn_reserved {written : Database} (placed : Placed current database written)
    (waiting : current.status = .queued) (continues : Continues task profile database current)
    (idle : ¬ WasActive database current)
    (took : takeTurn task profile now leaseToken current written = (after, answer)) :
    ∃ row, Reserved task profile database answer after row := by
  rw [takeTurn] at took
  split at took
  · cases took
    exact ⟨current, placed, continues, .inr ⟨waiting, nofun, idle⟩⟩
  · rename_i free
    split at took
    · rename_i turn
      cases took
      obtain ⟨head, found, same⟩ := Option.map_eq_some_iff.mp turn
      obtain ⟨member, ahead⟩ := first_precedes found
      have present := (List.mem_filter.mp member).1
      -- the first of the queue is the row that was just written
      obtain rfl : head = current := by
        rcases (placed.members head).mp present with here | ⟨_, distinct⟩
        · exact here
        · exact absurd same distinct
      refine ⟨activated task now leaseToken head, ?_, ?_, .inl ⟨rfl, rfl, .inr ⟨?_, ?_⟩⟩⟩
      · exact placed.trans (placed_put _ _) rfl
      · exact ⟨continues.profileId, continues.taskId, continues.known⟩
      · intro other here distinct active profile
        refine List.find?_eq_none.mp free other ((placed.members other).mpr
          (.inr ⟨here, distinct⟩)) ?_
        rw [Bool.and_eq_true, beq_iff_eq, beq_iff_eq]
        exact ⟨profile.trans continues.profileId, active⟩
      · intro other here distinct queued profile
        refine ahead other (List.mem_filter.mpr ⟨(placed.members other).mpr
          (.inr ⟨here, distinct⟩), ?_⟩)
        rw [Bool.and_eq_true, beq_iff_eq, beq_iff_eq]
        exact ⟨profile.trans continues.profileId, queued⟩
    · cases took
      exact ⟨current, placed, continues, .inr ⟨waiting, nofun, idle⟩⟩

theorem reserve_cases (lawful : Lawful database)
    (reserves : reserve task profile now reservationId leaseToken database = .ok (after, answer)) :
    (after = database ∧ ∀ profile, answer ≠ .acquired profile) ∨
      (locks task database = true ∧
        ∃ row, Reserved task profile database answer after row) := by
  rw [reserve] at reserves
  split at reserves
  · cases reserves
    exact .inl ⟨rfl, nofun⟩
  · rename_i locked
    rw [Bool.not_eq_true', Bool.not_eq_false] at locked
    refine .inr ⟨locked, ?_⟩
    obtain ⟨read, entered, reserves⟩ := bind_ok.mp reserves
    obtain ⟨continues, one, present⟩ := enter_continues lawful entered
    obtain ⟨same, place, active⟩ := requeued_same now read
    have placed := placed_put (requeued now read) database
    dsimp only at reserves
    split at reserves
    · rename_i holds
      cases reserves
      refine ⟨_, placed.trans (placed_put _ _) rfl, continues.write one same place,
        .inl ⟨holds, rfl, .inl ⟨read, present (active holds), same.1.symm, active holds⟩⟩⟩
    · rename_i idle
      have was : ¬ WasActive database { requeued now read with status := .queued } := by
        rintro ⟨old, member, here, running⟩
        obtain rfl := one old member (here.trans same.1)
        refine idle ?_
        rw [requeued, running]
        exact running
      have waits := placed.trans
        (placed_put { requeued now read with status := .queued } _) rfl
      have took : takeTurn task profile now leaseToken
          { requeued now read with status := .queued } _ = (after, answer) :=
        Except.ok.inj reserves
      exact takeTurn_reserved waits rfl (continues.write one same place) was took

theorem reserved_lawful (lawful : Lawful database)
    (reserved : Reserved task profile database answer after row) : Lawful after where
  clock id task here := by
    rw [reserved.placed.tasks] at here
    rw [reserved.placed.now]
    exact lawful.clock id task here
  ids := reserved.placed.ids lawful.ids
  oneActive first member second member' active active' same := by
    -- the row that is written, if it is active, is the only one of its profile
    have alone : row.status = .active → ∀ other ∈ database.reservations, other.id ≠ row.id →
        other.status = .active → other.profileId ≠ row.profileId := by
      intro running other present distinct busy profile
      rcases reserved.status with ⟨_, _, ⟨old, known, here, was⟩ | turn⟩ | ⟨queued, -⟩
      · have keeps := (reserved.continues.known old known here).1
        have one := lawful.oneActive other present old known busy was (profile.trans keeps.symm)
        exact distinct (one ▸ here)
      · exact turn.1 other present distinct busy profile
      · rw [queued] at running
        cases running
    rcases (reserved.placed.members first).mp member with rfl | ⟨present, distinct⟩
    · rcases (reserved.placed.members second).mp member' with rfl | ⟨present, distinct⟩
      · rfl
      · exact absurd same.symm (alone active second present distinct active')
    · rcases (reserved.placed.members second).mp member' with rfl | ⟨present', -⟩
      · exact absurd same (alone active' first present distinct active)
      · exact lawful.oneActive first present second present' active active' same

theorem reserved_rows
    (reserved : Reserved task profile database answer after row) : RowsStep database after where
  rows old member := by
    by_cases here : old.id = row.id
    · obtain ⟨profileId, taskId, place⟩ := reserved.continues.known old member here
      exact ⟨row, (reserved.placed.members row).mpr (.inl rfl),
        ⟨here.symm, profileId.symm, taskId.symm⟩, fun queued _ => place queued⟩
    · exact ⟨old, (reserved.placed.members old).mpr (.inr ⟨member, here⟩), ⟨rfl, rfl, rfl⟩,
        fun _ _ => rfl⟩
  kept old member active := by
    left
    by_cases here : old.id = row.id
    · obtain ⟨profileId, taskId, -⟩ := reserved.continues.known old member here
      refine ⟨row, (reserved.placed.members row).mpr (.inl rfl),
        ⟨here.symm, profileId.symm, taskId.symm⟩, ?_⟩
      rcases reserved.status with ⟨running, -⟩ | ⟨_, _, idle⟩
      · exact running
      · exact absurd ⟨old, member, here, active⟩ idle
    · exact ⟨old, (reserved.placed.members old).mpr (.inr ⟨member, here⟩), ⟨rfl, rfl, rfl⟩,
        active⟩
  turn next member active fresh other present profile queued distinct := by
    rcases (reserved.placed.members next).mp member with rfl | ⟨known, -⟩
    · rcases reserved.status with ⟨_, _, was | turn⟩ | ⟨waiting, -⟩
      · exact absurd was fresh
      · exact turn.2 other present distinct queued profile
      · rw [waiting] at active
        cases active
    · exact absurd ⟨next, known, rfl, active⟩ fresh

theorem reserve_behaves {taskId : String} {deploymentId : Option String} {drawn token : String}
    (lawful : Lawful database) (target : task.id = taskId)
    (stands : locks task database = true →
      ∃ row, database.tasks taskId = some row ∧ Resolved row)
    (reserves : reserve task profile now reservationId leaseToken database = .ok (after, answer)) :
    Behaves (.acquire taskId deploymentId drawn token) database after (.answer (.ok answer)) := by
  rcases reserve_cases lawful reserves with ⟨rfl, refused⟩ | ⟨locked, row, reserved⟩
  · refine behaves_same lawful ?_
    rintro profile ⟨same, -⟩
    cases same
    exact refused _ rfl
  · refine ⟨reserved_lawful lawful reserved, reserved.placed.now, ?_,
      reserved_rows reserved, ?_⟩
    · intro id task here
      exact ⟨task, reserved.placed.tasks ▸ here, TaskStep.refl _ task⟩
    · rintro granted ⟨same, -⟩
      cases same
      refine ⟨taskId, deploymentId, drawn, token, rfl, ?_, ?_⟩
      · rcases reserved.status with ⟨running, answers, -⟩ | ⟨_, refused, -⟩
        · cases answers
          exact ⟨row, (reserved.placed.members row).mpr (.inl rfl), reserved.continues.profileId,
            reserved.continues.taskId.trans target, running⟩
        · exact absurd rfl (refused (some granted))
      · rw [reserved.placed.tasks]
        exact stands locked

end Entering

end ProfileReservations

end Devproof
