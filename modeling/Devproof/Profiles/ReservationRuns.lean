import Devproof.Profiles.Taking

/-!
Reservations over whole runs of the service.
-/

namespace Devproof

namespace ProfileReservations

section Calls

variable {host : Host} {call : Call} {database : Database} {next : Service} {now : Int}

def Silent (rest : Service) : Prop :=
  ∀ profile, ¬ Grants rest profile

theorem silent_step {update : Database → Database} {next : Database → Service} :
    Silent (.step update next) := by
  rintro profile ⟨same, -⟩
  cases same

theorem silent_blocked {profile : UserBrowserProfile} {reason : String}
    {blockedBy : Option BlockedBy} {queue : Option QueuePosition} :
    Silent (answer (.blocked profile reason blockedBy queue)) := by
  rintro profile ⟨same, -⟩
  cases same

theorem silent_done : Silent (answer .done) := by
  rintro profile ⟨same, -⟩
  cases same

theorem silent_unbound : Silent (answer (.acquired none)) := by
  rintro profile ⟨same, -⟩
  cases same

theorem silent_releaseStale (silent : Silent next) (rows : List (Reservation × Bool)) :
    Silent (releaseStale now rows next) := by
  cases rows with
  | nil => exact silent
  | cons entry rest =>
      rw [releaseStale]
      split
      · exact silent_step
      · exact silent_step

theorem releaseStale_relies {start : Database} (silent : Silent next)
    (rest : ∀ state, Later start state → next.Relies Lawful Later (Behaves call) state)
    (rows : List (Reservation × Bool)) {state : Database} (onward : Later start state) :
    (releaseStale now rows next).Relies Lawful Later (Behaves call) state := by
  induction rows generalizing state with
  | nil => exact rest state onward
  | cons entry others ih =>
      have quiet : Silent (releaseStale now others next) := silent_releaseStale silent others
      rw [releaseStale]
      split
      · intro current further lawful
        refine ⟨renew_behaves lawful quiet _ _, fun forwards => ?_⟩
        exact ih ((onward.trans further).trans forwards)
      · intro current further lawful
        refine ⟨release_behaves lawful quiet _, fun forwards => ?_⟩
        exact ih ((onward.trans further).trans forwards)

theorem invalidateBinding_relies {result : Answer} (silent : Silent (answer result))
    (taskId profileId : String) (reason : Invalidation) (state : Database) :
    (invalidateBinding taskId profileId reason (answer result)).Relies Lawful Later
      (Behaves call) state := by
  refine Program.relies_read (fun _ _ lawful => behaves_same lawful silent_step) fun _ _ _ => ?_
  intro current _ lawful
  exact ⟨invalidate_behaves lawful silent _ _ _ _, fun _ => trivial⟩

/-! `acquire`. -/

theorem readTask_some {taskId : String} {deploymentId : Option String} {read : Read}
    (found : readTask taskId deploymentId database = some read) :
    ∃ task, database.tasks taskId = some task ∧ read.task = { task with id := taskId } := by
  rw [readTask] at found
  obtain ⟨task, here, found⟩ := Option.bind_eq_some_iff.mp found
  obtain ⟨profileId, _, found⟩ := Option.bind_eq_some_iff.mp found
  obtain ⟨profile, _, found⟩ := Option.bind_eq_some_iff.mp found
  cases found
  exact ⟨task, here, rfl⟩

theorem prepared_resolved {read : Read} (ready : prepared read = true) : Resolved read.task := by
  rw [prepared, Bool.and_eq_true, Bool.and_eq_true, Option.any_eq_true] at ready
  obtain ⟨⟨⟨binding, present, resolved⟩, _⟩, _⟩ := ready
  exact ⟨binding, present, beq_iff_eq.mp resolved⟩

theorem locks_resolved {taskId : String} {start state : Database} {task : TaskExecution}
    (here : start.tasks taskId = some task) (resolved : Resolved task)
    (onward : Later start state) (locked : locks { task with id := taskId } state = true) :
    ∃ row, state.tasks taskId = some row ∧ Resolved row := by
  obtain ⟨row, there, -, same⟩ := onward.tasks taskId task here
  rw [locks, Option.any_eq_true] at locked
  obtain ⟨found, present, unchanged⟩ := locked
  obtain rfl : found = row := Option.some.inj (present.symm.trans there)
  rw [Bool.and_eq_true, beq_iff_eq, Bool.not_eq_true'] at unchanged
  refine ⟨found, there, ?_⟩
  rcases (same unchanged.1).2 resolved with still | isOver
  · exact still
  · rw [Ended, unchanged.2] at isOver
    cases isOver

theorem silent_acquireProfile {read : Read} {reservationId leaseToken : String} :
    Silent (acquireProfile host read reservationId leaseToken now) := by
  rw [acquireProfile]
  split
  · exact silent_blocked
  · split
    · exact silent_step
    · split
      · exact silent_step
      · split
        · rename_i isolated
          rintro profile ⟨same, shared⟩
          cases same
          exact shared isolated
        · exact silent_step

theorem acquireProfile_relies {taskId : String} {deploymentId : Option String}
    {reservationId leaseToken : String} {start state : Database} {read : Read}
    (found : readTask taskId deploymentId start = some read) (onward : Later start state) :
    (acquireProfile host read reservationId leaseToken now).Relies Lawful Later
      (Behaves (.acquire taskId deploymentId reservationId leaseToken)) state := by
  obtain ⟨task, here, same⟩ := readTask_some found
  rw [acquireProfile]
  split
  · trivial
  · rename_i ready
    rw [Bool.not_eq_true', Bool.not_eq_false] at ready
    have resolved : Resolved task := by
      have standing := prepared_resolved ready
      rw [same] at standing
      exact standing
    split
    · exact invalidateBinding_relies silent_blocked _ _ _ _
    · split
      · exact invalidateBinding_relies silent_blocked _ _ _ _
      · split
        · trivial
        · refine Program.relies_read
            (fun _ _ lawful => behaves_same lawful (silent_releaseStale silent_step _))
            fun current further _ => ?_
          refine releaseStale_relies silent_step ?_ _ (onward.trans further)
          intro later after
          refine Program.relies_transaction (fun final _ _ beyond lawful reserves => ?_)
            fun final failure _ lawful _ => behaves_same lawful (by
              rintro profile ⟨failed, -⟩
              cases failed)
          refine reserve_behaves lawful (by rw [same]) (fun locked => ?_) reserves
          rw [same] at locked
          exact locks_resolved here resolved (after.trans beyond) locked

theorem serve_relies (call : Call) (state : Database) :
    (serve host call).Relies Lawful Later (Behaves call) state := by
  cases call with
  | acquire taskId deploymentId reservationId leaseToken =>
      rw [serve, acquire]
      refine Program.relies_read (fun current _ lawful => behaves_same lawful ?_)
        fun start _ _ => ?_
      · cases readTask taskId deploymentId current with
        | none => exact silent_unbound
        | some read => exact silent_step
      · cases found : readTask taskId deploymentId start with
        | none => trivial
        | some read =>
            exact Program.relies_read
              (fun _ _ lawful => behaves_same lawful silent_acquireProfile)
              fun _ onward _ => acquireProfile_relies found onward
  | releaseTask taskId =>
      intro current _ lawful
      exact ⟨release_behaves lawful silent_done taskId, fun _ => trivial⟩
  | reconcile limit =>
      rw [serve, reconcile]
      refine Program.relies_read (fun _ _ lawful => behaves_same lawful silent_step) fun _ _ _ => ?_
      refine Program.relies_read (fun _ _ lawful => behaves_same lawful
        (silent_releaseStale silent_done _)) fun start _ _ => ?_
      exact releaseStale_relies silent_done (fun _ _ => trivial) _ (Later.refl start)
  | invalidateBinding taskId profileId reason =>
      exact invalidateBinding_relies silent_done taskId profileId reason state

end Calls

section Surroundings

variable {database : Database}

theorem changed_tasks (what : Change) (database : Database) :
    TasksFollow (TaskStep database.now) database (changed what database) := by
  cases what with
  | pass ms => exact TasksFollow.refl (TaskStep.refl _) database
  | create task =>
      rw [changed]
      split
      · exact TasksFollow.refl (TaskStep.refl _) database
      · exact tasksFollow_setTask (TaskStep.refl _) fun _ _ => .inl rfl
  | move taskId lifecycle =>
      rw [changed]
      split
      · exact tasksFollow_setTask (TaskStep.refl _) fun _ _ => .inl rfl
      · exact TasksFollow.refl (TaskStep.refl _) database
  | resolve taskId binding deployments =>
      rw [changed]
      split
      · exact tasksFollow_setTask (TaskStep.refl _) fun _ _ => .inl rfl
      · exact TasksFollow.refl (TaskStep.refl _) database
  | profile id profile => exact TasksFollow.refl (TaskStep.refl _) database
  | runs openRuns => exact TasksFollow.refl (TaskStep.refl _) database

theorem changed_reservations (what : Change) (database : Database) :
    (changed what database).reservations = database.reservations ∧
      database.now ≤ (changed what database).now := by
  cases what with
  | pass ms => exact ⟨rfl, Int.le_add_of_nonneg_right (Int.natCast_nonneg ms)⟩
  | create task =>
      rw [changed]
      split <;> exact ⟨rfl, le_refl _⟩
  | move taskId lifecycle =>
      rw [changed]
      split <;> exact ⟨rfl, le_refl _⟩
  | resolve taskId binding deployments =>
      rw [changed]
      split <;> exact ⟨rfl, le_refl _⟩
  | profile id profile => exact ⟨rfl, le_refl _⟩
  | runs openRuns => exact ⟨rfl, le_refl _⟩

theorem changed_clock (what : Change) (lawful : Lawful database) :
    ∀ id task, (changed what database).tasks id = some task →
      task.updatedAt ≤ (changed what database).now := by
  cases what with
  | pass ms =>
      intro id task here
      exact (lawful.clock id task here).trans
        (Int.le_add_of_nonneg_right (Int.natCast_nonneg ms))
  | create task =>
      rw [changed]
      split
      · exact lawful.clock
      · exact clock_setTask lawful (le_refl _)
  | move taskId lifecycle =>
      rw [changed]
      split
      · exact clock_setTask lawful (le_refl _)
      · exact lawful.clock
  | resolve taskId binding deployments =>
      rw [changed]
      split
      · exact clock_setTask lawful (le_refl _)
      · exact lawful.clock
  | profile id profile => exact lawful.clock
  | runs openRuns => exact lawful.clock

theorem changed_lawful (what : Change) (lawful : Lawful database) :
    Lawful (changed what database) where
  clock := changed_clock what lawful
  ids := by
    rw [(changed_reservations what database).1]
    exact lawful.ids
  oneActive := by
    rw [(changed_reservations what database).1]
    exact lawful.oneActive

theorem rowsStep_same {after : Database} (same : after.reservations = database.reservations) :
    RowsStep database after where
  rows row member := ⟨row, same ▸ member, ⟨rfl, rfl, rfl⟩, fun _ _ => rfl⟩
  kept row member active := .inl ⟨row, same ▸ member, ⟨rfl, rfl, rfl⟩, active⟩
  turn next member active fresh := absurd ⟨next, same ▸ member, rfl, active⟩ fresh

end Surroundings

abbrev Reservations := System Database Call (Except Failure Answer)

section Runs

variable (host : Host)

def steps : SystemMove Call Change → Reservations → Outcome Reservations Empty :=
  System.step (serve host) changed

def opened (now : Int) : Reservations :=
  { shared := { now, tasks := fun _ => none, profiles := fun _ => none }, running := [] }

def InQueue (row : Reservation) : Prop :=
  row.status = .queued ∨ row.status = .active

/-- The updates of a step can be told from those before: a task that is invalidated before its
end, or reopened, is updated at a later time than before, and a reservation that joins the
queue joins it behind those that wait. -/
structure Timely (before after : Database) : Prop where
  invalidated : ∀ id task next, before.tasks id = some task → after.tasks id = some next →
    Resolved task → ¬ Resolved next →
      Ended task ∨ (interruptible task.lifecycle = true ∧ task.updatedAt < before.now)
  reopened : ∀ id task next, before.tasks id = some task → after.tasks id = some next →
    Ended task → ¬ Ended next → task.updatedAt < before.now
  joined : ∀ next ∈ after.reservations, InQueue next →
    (∀ row ∈ before.reservations, row.id = next.id → ¬ InQueue row) →
    ∀ other ∈ before.reservations, other.profileId = next.profileId → other.status = .queued →
      other.id ≠ next.id → precedes other next = true

def AllTimely (moves : List (SystemMove Call Change)) (system : Reservations) : Prop :=
  ∀ entry ∈ visits (steps host) moves system,
    Timely entry.2.shared (steps host entry.1 entry.2).state.shared

abbrev Reliable (system : Reservations) : Prop :=
  system.Relying Lawful Later Behaves

end Runs

section Runs

variable {host : Host} {system : Reservations} {before after : Database}

theorem reliance : System.Reliance (serve host) changed Lawful Later Behaves where
  transitive := Later.trans
  starts := serve_relies
  kept _ behaves := behaves.lawful
  changes what _ lawful := changed_lawful what lawful

theorem taskLater_of_step {now : Int} {task next : TaskExecution} (bounded : task.updatedAt ≤ now)
    (stepped : TaskStep now task next)
    (invalidated : Resolved task → ¬ Resolved next →
      Ended task ∨ (interruptible task.lifecycle = true ∧ task.updatedAt < now))
    (reopened : Ended task → ¬ Ended next → task.updatedAt < now) : TaskLater task next := by
  rcases stepped with update | ⟨update, lifecycle, binding⟩
  · refine ⟨update ▸ bounded, fun same => ?_⟩
    have current : ¬ task.updatedAt < now := by
      rw [← same, update]
      exact lt_irrefl now
    have ends : Ended task → Ended next := by
      intro isOver
      by_contra running
      exact current (reopened isOver running)
    refine ⟨ends, fun resolved => ?_⟩
    by_cases still : Resolved next
    · exact .inl still
    · rcases invalidated resolved still with isOver | ⟨_, late⟩
      · exact .inr (ends isOver)
      · exact absurd late current
  · have ends : Ended task → Ended next := by
      intro isOver
      rw [Ended, lifecycle]
      exact isOver
    refine ⟨le_of_eq update.symm, fun _ => ⟨ends, fun resolved => ?_⟩⟩
    by_cases still : Resolved next
    · exact .inl still
    · rcases invalidated resolved still with isOver | ⟨running, _⟩
      · exact .inr (ends isOver)
      · rcases binding resolved with stands | idle
        · exact absurd stands still
        · rw [idle] at running
          cases running

variable (host) in
/-- What every step does, whoever makes it. -/
theorem move_step (reliable : Reliable system) (move : SystemMove Call Change) :
    TasksFollow (TaskStep system.shared.now) system.shared (steps host move system).state.shared ∧
      RowsStep system.shared (steps host move system).state.shared ∧
      system.shared.now ≤ (steps host move system).state.shared.now := by
  have idle : TasksFollow (TaskStep system.shared.now) system.shared system.shared ∧
      RowsStep system.shared system.shared ∧ system.shared.now ≤ system.shared.now :=
    ⟨TasksFollow.refl (TaskStep.refl _) _, RowsStep.refl _, le_refl _⟩
  cases move with
  | start call => exact idle
  | change what =>
      obtain ⟨same, later⟩ := changed_reservations what system.shared
      exact ⟨changed_tasks what system.shared, rowsStep_same same, later⟩
  | tick place =>
      cases here : system.running[place]? with
      | none => simpa [steps, System.step, here] using idle
      | some running =>
          rcases @System.tick_relying _ _ _ _ (serve host) changed _ _ _ system Later.refl reliable
            place running.call running.program here with same | ⟨_, _, behaves⟩
          · rw [steps, same]
            exact idle
          · exact ⟨behaves.tasks, behaves.rows, le_of_eq behaves.now.symm⟩

theorem timely_later (reliable : Reliable system) {move : SystemMove Call Change}
    (timely : Timely system.shared (steps host move system).state.shared) :
    Later system.shared (steps host move system).state.shared := by
  obtain ⟨tasks, -, now⟩ := move_step host reliable move
  refine ⟨now, fun id task here => ?_⟩
  obtain ⟨next, there, stepped⟩ := tasks id task here
  exact ⟨next, there, taskLater_of_step (reliable.shared.clock id task here) stepped
    (timely.invalidated id task next here there) (timely.reopened id task next here there)⟩

theorem opened_reliable (now : Int) : Reliable (opened now) := by
  refine ⟨⟨fun _ _ here => ?_, List.nodup_nil, fun row member => ?_⟩, fun running member => ?_⟩
  · cases here
  · cases member
  · cases member

theorem reliable_step (reliable : Reliable system) {move : SystemMove Call Change}
    (timely : Timely system.shared (steps host move system).state.shared) :
    Reliable (steps host move system).state :=
  System.relying_step reliance Later.refl reliable (timely_later reliable timely)

theorem reliable_run (reliable : Reliable system) {moves : List (SystemMove Call Change)}
    (timely : AllTimely host moves system) :
    Reliable (arrival (steps host) moves system) :=
  System.relying_run reliance Later.refl reliable fun entry member here =>
    timely_later here (timely entry member)

def Waits (id : String) (database : Database) : Prop :=
  ∃ row ∈ database.reservations, row.id = id ∧ row.status = .queued

def Behind (first : Reservation) (id : String) (database : Database) : Prop :=
  ∀ row ∈ database.reservations, row.id = id → row.profileId = first.profileId →
    row.status ≠ .active ∧
    ∀ ahead ∈ database.reservations, SameReservation first ahead → ahead.status = .queued →
      row.status = .queued → precedes ahead row = true

theorem precedes_congr {row other row' other' : Reservation} (id : row'.id = row.id)
    (queuedAt : row'.queuedAt = row.queuedAt) (otherId : other'.id = other.id)
    (otherAt : other'.queuedAt = other.queuedAt) :
    precedes row' other' = precedes row other := by
  rw [precedes, precedes, id, queuedAt, otherId, otherAt]

theorem behind_step {first : Reservation} {id : String} (distinct : first.id ≠ id)
    (lawful : Lawful after) (rows : RowsStep before after) (timely : Timely before after)
    (waits : ∃ ahead ∈ before.reservations, SameReservation first ahead ∧ ahead.status = .queued)
    (behind : Behind first id before) : Behind first id after := by
  obtain ⟨ahead, present, same, queued⟩ := waits
  have unique : ∀ {row other}, row ∈ after.reservations → other ∈ after.reservations →
      row.id = other.id → row = other :=
    fun member member' here => List.inj_on_of_nodup_map lawful.ids member member' here
  intro row member target profile
  have ahead_ne : ahead.id ≠ row.id := by
    rw [same.1, target]
    exact distinct
  -- whoever is in the queue after the step comes after the one that waits
  have order : InQueue row → precedes ahead row = true := by
    intro joined
    by_cases old : ∃ earlier ∈ before.reservations, earlier.id = row.id ∧ InQueue earlier
    · obtain ⟨earlier, known, here, standing⟩ := old
      obtain ⟨next, there, follows, place⟩ := rows.rows earlier known
      obtain rfl : next = row := unique there member (follows.1.trans here)
      obtain ⟨idle, ranks⟩ := behind earlier known (here.trans target)
        (follows.2.1.symm.trans profile)
      have waiting : earlier.status = .queued := standing.resolve_right idle
      have ranked := ranks ahead present same queued waiting
      rw [precedes_congr rfl rfl follows.1 (place waiting joined)]
      exact ranked
    · refine timely.joined row member joined (fun earlier known here standing => ?_) ahead present
        (same.2.1.trans profile.symm) queued ahead_ne
      exact old ⟨earlier, known, here, standing⟩
  refine ⟨fun active => ?_, fun next there follows waiting joined => ?_⟩
  · have fresh : ¬ WasActive before row := by
      rintro ⟨earlier, known, here, running⟩
      obtain ⟨next, there, follows, -⟩ := rows.rows earlier known
      obtain rfl : next = row := unique there member (follows.1.trans here)
      exact (behind earlier known (here.trans target) (follows.2.1.symm.trans profile)).1 running
    have unranked := rows.turn row member active fresh ahead present
      (same.2.1.trans profile.symm) queued ahead_ne
    rw [order (.inr active)] at unranked
    cases unranked
  · obtain ⟨ahead', there', follows', place⟩ := rows.rows ahead present
    obtain rfl : ahead' = next :=
      unique there' there (follows'.1.trans (same.1.trans follows.1.symm))
    rw [precedes_congr follows'.1 (place queued (.inl waiting)) rfl rfl]
    exact order (.inl joined)

theorem behind_run {first : Reservation} {id : String} (distinct : first.id ≠ id)
    (reliable : Reliable system) {moves : List (SystemMove Call Change)}
    (timely : AllTimely host moves system)
    (known : ∃ row ∈ system.shared.reservations, SameReservation first row)
    (waits : ∀ entry ∈ visits (steps host) moves system, Waits first.id entry.2.shared)
    (behind : Behind first id system.shared) :
    Behind first id (arrival (steps host) moves system).shared := by
  induction moves generalizing system with
  | nil => exact behind
  | cons move rest ih =>
      have now : Timely system.shared (steps host move system).state.shared :=
        timely (move, system) (List.mem_cons_self ..)
      have onward : Reliable (steps host move system).state := reliable_step reliable now
      obtain ⟨-, rows, -⟩ := move_step host reliable move
      obtain ⟨row, member, same⟩ := known
      refine ih onward (fun entry later => timely entry (List.mem_cons_of_mem _ later)) ?_
        (fun entry later => waits entry (List.mem_cons_of_mem _ later)) ?_
      · obtain ⟨next, there, follows, -⟩ := rows.rows row member
        exact ⟨next, there, follows.1.trans same.1, follows.2.1.trans same.2.1,
          follows.2.2.trans same.2.2⟩
      · refine behind_step distinct onward.shared rows now ?_ behind
        obtain ⟨waiting, present, here, queued⟩ := waits (move, system) (List.mem_cons_self ..)
        obtain rfl : waiting = row := List.inj_on_of_nodup_map reliable.shared.ids present member
          (here.trans same.1.symm)
        exact ⟨waiting, present, same, queued⟩

def Acquires (host : Host) (system : Reservations) (place : Nat) (taskId : String)
    (profile : UserBrowserProfile) : Prop :=
  ∃ deploymentId reservationId leaseToken update next,
    system.running[place]? = some
        { call := .acquire taskId deploymentId reservationId leaseToken
          program := .step update next } ∧
      (steps host (.tick place) system).state.Answered place
        (.acquire taskId deploymentId reservationId leaseToken) (.ok (.acquired (some profile)))

theorem acquires_holds (reliable : Reliable system) {place : Nat} {taskId : String}
    {profile : UserBrowserProfile} (shared : profile.executionMode ≠ "ISOLATED_AUTH")
    (acquires : Acquires host system place taskId profile) :
    Holds taskId profile.id (steps host (.tick place) system).state.shared := by
  obtain ⟨deploymentId, reservationId, leaseToken, update, next, here, answered⟩ := acquires
  rw [System.Answered, steps] at answered
  rcases System.tick_relying Later.refl reliable here with same | ⟨left, there, behaves⟩
  · rw [same, here] at answered
    cases answered
  · rw [there] at answered
    have answers : left = .answer (.ok (.acquired (some profile))) :=
      congrArg Running.program (Option.some.inj answered)
    obtain ⟨_, _, _, _, call, holds⟩ := behaves.answer profile ⟨answers, shared⟩
    cases call
    exact holds

/-- Whatever acquires, releases, renews and invalidates at the same time, in a timely run: a
profile has one active reservation at most; who acquires it holds it with a binding that stands;
no reservation is overtaken while it waits, neither in the order of the queue nor by one that
joined later; and only an invalidation ends the reservation of a task that has not ended. -/
theorem reservations_kept (host : Host) (now : Int) (moves : List (SystemMove Call Change))
    (timely : AllTimely host moves (opened now)) :
    let system := arrival (steps host) moves (opened now)
    (∀ row ∈ system.shared.reservations, ∀ other ∈ system.shared.reservations,
      row.status = .active → other.status = .active → row.profileId = other.profileId →
        row = other) ∧
    (∀ place taskId profile, profile.executionMode ≠ "ISOLATED_AUTH" →
      Acquires host system place taskId profile →
        Holds taskId profile.id (steps host (.tick place) system).state.shared) ∧
    (∀ move, ∀ next ∈ (steps host move system).state.shared.reservations,
      next.status = .active → ¬ WasActive system.shared next →
        ∀ other ∈ system.shared.reservations, other.profileId = next.profileId →
          other.status = .queued → other.id ≠ next.id → precedes other next = false) ∧
    (∀ first ∈ system.shared.reservations, ∀ id, first.id ≠ id →
      (∀ row ∈ system.shared.reservations, row.id = id → ¬ InQueue row) →
      ∀ later, AllTimely host later system →
        (∀ entry ∈ visits (steps host) later system, Waits first.id entry.2.shared) →
        ∀ row ∈ (arrival (steps host) later system).shared.reservations, row.id = id →
          row.profileId = first.profileId → row.status ≠ .active) ∧
    ∀ move, ∀ row ∈ system.shared.reservations, row.status = .active →
      ended row.taskExecutionId system.shared = false →
        (∃ next ∈ (steps host move system).state.shared.reservations,
          SameReservation row next ∧ next.status = .active) ∨
        Invalidated row.taskExecutionId system.shared (steps host move system).state.shared := by
  intro system
  have reliable : Reliable system := reliable_run (opened_reliable now) timely
  refine ⟨reliable.shared.oneActive, fun place taskId profile shared acquires =>
    acquires_holds reliable shared acquires, fun move => (move_step host reliable move).2.1.turn, ?_, ?_⟩
  · intro first member id distinct absent later timely' waits row present target profile
    have behind : Behind first id system.shared := by
      intro row member target _
      refine ⟨fun active => absent row member target (.inr active), ?_⟩
      intro _ _ _ _ queued
      exact absurd (.inl queued) (absent row member target)
    exact (behind_run distinct reliable timely' ⟨first, member, rfl, rfl, rfl⟩ waits behind row
      present target profile).1
  · intro move row member active running
    rcases (move_step host reliable move).2.1.kept row member active with
      still | isOver | lost
    · exact .inl still
    · rw [running] at isOver
      cases isOver
    · exact .inr lost

end Runs

/-! A task that waits for a person is not updated by an invalidation. -/

section Examples

def exampleHost : Host where
  hostname url := if url = "https://app.example.com" then some "app.example.com" else none
  hostnameMatchesPattern := fun hostname pattern => hostname == pattern
  oldestFirst := id

def exampleProfile : UserBrowserProfile :=
  { id := "profile", ready := true, inactivityExpiresAt := some 1000
    executionMode := "SERIAL_PERSISTENT", ownerActive := true, ownerTeams := ["team"]
    grants := [⟨.console, "app.example.com"⟩] }

def exampleTask : TaskExecution :=
  { id := "task", teamId := "team", lifecycle := .running, updatedAt := 0
    environmentUrl := some "https://app.example.com"
    profileBinding := some
      { status := .resolved, resolvedProfileId := some "profile", triggerSource := some .console } }

theorem timely_quiet {before after : Database}
    (tasks : ∀ id task, before.tasks id = some task → after.tasks id = some task)
    (same : after.reservations = before.reservations) : Timely before after where
  invalidated id task next here there resolved lost := by
    obtain rfl : task = next := Option.some.inj ((tasks id task here).symm.trans there)
    exact absurd resolved lost
  reopened id task next here there isOver running := by
    obtain rfl : task = next := Option.some.inj ((tasks id task here).symm.trans there)
    exact absurd isOver running
  joined next member joined absent := by
    rw [same] at member
    exact absurd joined (absent next member rfl)

def acquiringRun : List (SystemMove Call Change) :=
  [.change (.profile "profile" exampleProfile), .change (.create exampleTask),
    .start (.acquire "task" none "reservation" "token"), .tick 0, .tick 0, .tick 0]

theorem acquiringRun_timely : AllTimely exampleHost acquiringRun (opened 0) := by
  have quiet : ∀ database : Database, Timely database database :=
    fun _ => timely_quiet (fun _ _ here => here) rfl
  refine List.forall_mem_cons.mpr ⟨timely_quiet (fun _ _ here => here) rfl, ?_⟩
  refine List.forall_mem_cons.mpr ⟨timely_quiet (fun _ _ here => ?_) rfl, ?_⟩
  · cases here
  · refine List.forall_mem_cons.mpr ⟨quiet _, List.forall_mem_cons.mpr ⟨quiet _,
      List.forall_mem_cons.mpr ⟨quiet _, List.forall_mem_cons.mpr ⟨quiet _, ?_⟩⟩⟩⟩
    intro entry member
    cases member

theorem reservations_kept_acquired :
    Holds "task" "profile" (steps exampleHost (.tick 0)
      (arrival (steps exampleHost) acquiringRun (opened 0))).state.shared :=
  (reservations_kept exampleHost 0 acquiringRun acquiringRun_timely).2.1 0 "task" exampleProfile
    (by decide) ⟨none, "reservation", "token", _, _, rfl, rfl⟩

/-- The binding is invalidated after `acquire` has read the task and before it locks it. -/
def staleRun : List (SystemMove Call Change) :=
  [.change (.profile "profile" exampleProfile), .change (.create exampleTask),
    .change (.pass 10), .change (.move "task" .waitingHuman), .change (.pass 10),
    .start (.acquire "task" none "reservation" "token"), .tick 0, .tick 0,
    .start (.invalidateBinding "task" "profile" {}), .tick 1, .tick 1, .tick 0]

theorem stale_acquired :
    Acquires exampleHost (arrival (steps exampleHost) staleRun (opened 0)) 0 "task"
        exampleProfile ∧
      exampleProfile.executionMode ≠ "ISOLATED_AUTH" ∧
      ¬ Holds "task" "profile" (steps exampleHost (.tick 0)
        (arrival (steps exampleHost) staleRun (opened 0))).state.shared := by
  refine ⟨⟨none, "reservation", "token", _, _, rfl, rfl⟩, by decide, ?_⟩
  rintro ⟨-, task, here, binding, present, resolved⟩
  have lifecycle : (steps exampleHost (.tick 0)
      (arrival (steps exampleHost) staleRun (opened 0))).state.shared.tasks "task" |>.any
        (fun task => task.profileBinding.all fun binding => binding.status == .waitingInput) := by
    decide
  rw [here, Option.any_some, present, Option.all_some, resolved] at lifecycle
  cases lifecycle

end Examples

end ProfileReservations

end Devproof
