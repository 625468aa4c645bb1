import Devproof.CommandResults.Evidence

/-!
Results, cancellations, deadlines and purges over whole runs.
-/

namespace Devproof

namespace CommandResults

section Calls

variable {call : Call}

theorem relies_write {update : Store → Store} {next : Service} {start : Store}
    (here : ∀ store, Later start store → Lawful store → Behaves call store (update store) next)
    (onward : ∀ store, Later start store → Lawful store →
      next.Relies Lawful Later (Behaves call) (update store)) :
    (write update next).Relies Lawful Later (Behaves call) start :=
  fun store later lawful => ⟨here store later lawful, fun _ => onward store later lawful⟩

theorem relies_settle {commandId : String} {after : Store → RuntimeCommand → RuntimeCommand}
    (start : Store) :
    (write (fun store => settle commandId (after store) store) finish).Relies Lawful Later
      (Behaves call) start :=
  relies_write (fun _ _ lawful => settle_behaves lawful commandId _) fun _ _ _ => trivial

theorem cancel_relies (commandId reason : String) (start : Store) :
    (cancel commandId reason).Relies Lawful Later (Behaves call) start := by
  refine Program.relies_read (fun _ _ lawful => behaves_same lawful) fun store _ _ => ?_
  split
  · trivial
  · split
    · trivial
    · exact relies_settle store

theorem waitForCompletion_relies (commandId : String) (polls : List Bool) (start : Store) :
    (waitForCompletion commandId polls).Relies Lawful Later (Behaves call) start := by
  induction polls generalizing start with
  | nil => exact relies_settle start
  | cons aborted polls ih =>
      refine Program.relies_read (fun _ _ lawful => behaves_same lawful) fun store _ _ => ?_
      split
      · trivial
      · split
        · trivial
        · split
          · exact cancel_relies commandId _ store
          · exact ih store

/-! `acceptResult`. -/

theorem uploadAll_relies {result : RuntimeCommandResult} {context : Option RuntimeContext}
    {command : RuntimeCommand} (artifacts : List ResultArtifact) {stored : List ArtifactRow}
    (own : ∀ row ∈ stored, row.commandId = some result.commandId) (start : Store) :
    (uploadAll result context command artifacts stored).Relies Lawful Later
      (Behaves (.acceptResult result context)) start := by
  induction artifacts generalizing stored start with
  | nil =>
      refine Program.relies_transaction (fun _ _ _ _ lawful published => ?_)
        fun _ _ _ lawful _ => behaves_same lawful
      exact publish_behaves lawful own published
  | cons artifact rest ih =>
      rw [uploadAll]
      split
      · trivial
      · intro queued _ lawful
        have fresh : Fresh (keyOf result command artifact queued) queued := rfl
        refine ⟨queueIntent_behaves lawful fresh, fun _ => ?_⟩
        intro sent onward lawful'
        refine ⟨upload_behaves lawful' (queueIntent_awaited fresh) onward, fun _ => ?_⟩
        dsimp only
        split
        · refine ih (fun row member => ?_) _
          rcases List.mem_append.mp member with known | added
          · exact own row known
          · rw [List.mem_singleton.mp added]
        · trivial

theorem acceptResult_relies (result : RuntimeCommandResult) (context : Option RuntimeContext)
    (start : Store) : (acceptResult result context).Relies Lawful Later
      (Behaves (.acceptResult result context)) start := by
  refine Program.relies_read (fun _ _ lawful => behaves_same lawful) fun store _ _ => ?_
  split
  · trivial
  · refine Program.relies_read (fun _ _ lawful => behaves_same lawful) fun current _ _ => ?_
    split
    · trivial
    · refine Program.relies_read (fun _ _ lawful => behaves_same lawful) fun owned _ _ => ?_
      split
      · exact uploadAll_relies result.artifacts (fun _ none => absurd none List.not_mem_nil) owned
      · trivial

theorem purgeTasks_relies (tasks : List DeletionTask) {start : Store}
    (known : ∀ task ∈ tasks, Known task start) :
    (purgeTasks tasks).Relies Lawful Later (Behaves call) start := by
  induction tasks generalizing start with
  | nil => trivial
  | cons task rest ih =>
      have others : ∀ {store}, Later start store →
          (purgeTasks rest).Relies Lawful Later (Behaves call) store := by
        intro store onward
        exact ih fun other member => (known other (List.mem_cons_of_mem _ member)).onward onward
      intro store onward lawful
      have own := (known task (List.mem_cons_self ..)).onward onward
      refine ⟨claim_behaves lawful own, fun claimed => ?_⟩
      dsimp only
      split
      · rename_i taken
        have doomed := claim_doomed lawful own taken
        intro found further lawful'
        have condemned := doomed.onward further
        refine ⟨deleteObject_behaves lawful' condemned, fun removed => ?_⟩
        dsimp only
        split
        · rename_i working
          have gone := deleteObject_gone condemned working
          intro final last lawful''
          have path := ((onward.trans claimed).trans further).trans (removed.trans last)
          refine ⟨dropTask_behaves lawful'' ((known task (List.mem_cons_self ..)).onward path)
            (.inr (gone.onward last).2), fun dropped => others (path.trans dropped)⟩
        · intro final last lawful''
          have path := ((onward.trans claimed).trans further).trans (removed.trans last)
          exact ⟨reschedule_behaves lawful'', fun moved => others (path.trans moved)⟩
      · exact others (onward.trans claimed)

theorem purge_relies (storageKeys : Option (List StorageKey)) (start : Store) :
    (purgeObjectStorageDeletions storageKeys).Relies Lawful Later (Behaves call) start := by
  refine Program.relies_read (fun _ _ lawful => behaves_same lawful) fun store _ lawful => ?_
  refine purgeTasks_relies _ fun task member => known_of_mem lawful ?_
  exact List.mem_of_mem_filter (List.mem_mergeSort.mp (List.mem_of_mem_take member))

theorem serve_relies (call : Call) (start : Store) :
    (serve call).Relies Lawful Later (Behaves call) start := by
  cases call with
  | acceptResult result context => exact acceptResult_relies result context start
  | cancel commandId reason => exact cancel_relies commandId reason start
  | waitForCompletion commandId polls => exact waitForCompletion_relies commandId polls start
  | purge storageKeys => exact purge_relies storageKeys start

end Calls

section Surroundings

variable {store : Store}

theorem object_later (lawful : Lawful store) (teamId sessionId : String) (kind : ArtifactKind)
    (queued : Bool) :
    Lawful (changed (.object teamId sessionId kind queued) store) ∧
      Later store (changed (.object teamId sessionId kind queued) store) := by
  let key : StorageKey := { teamId, sessionId, commandId := "", kind, uuid := store.drawn }
  have fresh : Fresh key store := rfl
  cases queued with
  | true =>
      obtain ⟨kept, later⟩ := enqueue_later lawful fresh store.now
      obtain ⟨kept', later'⟩ := putObject_later kept (Nat.lt_succ_self _)
        (.inr ⟨_, List.mem_append_right _ (List.mem_singleton_self _), rfl, rfl⟩)
      exact ⟨kept', later.trans later'⟩
  | false =>
      let row : ArtifactRow := { storageKey := key, commandId := none, kind }
      obtain ⟨kept, later⟩ := @addRow_later _ row lawful fresh
      obtain ⟨kept', later'⟩ := putObject_later kept (Nat.lt_succ_self _)
        (.inl ⟨row, List.mem_append_right _ (List.mem_singleton_self _), rfl⟩)
      exact ⟨kept', later.trans later'⟩

theorem changed_later (what : Change) (lawful : Lawful store) :
    Lawful (changed what store) ∧ Later store (changed what store) := by
  have same := (Later.refl store).commands
  cases what with
  | pass ms =>
      exact later_idle (Int.le_add_of_nonneg_right (Int.natCast_nonneg ms)) rfl same rfl rfl rfl
        lawful
  | command commandId command =>
      rw [changed]
      split
      · exact ⟨lawful, Later.refl store⟩
      · rename_i absent
        refine later_idle (le_refl _) rfl (fun id old here => ?_) rfl rfl rfl lawful
        by_cases target : id = commandId
        · subst target
          rw [here] at absent
          exact absurd rfl absent
        · exact ⟨old, (if_neg target).trans here, fun _ => rfl⟩
  | dispatch commandId =>
      rw [changed, settle_same]
      exact later_idle (le_refl _) rfl (settle_commands commandId _ store) rfl rfl rfl lawful
  | owner id owner => exact later_idle (le_refl _) rfl same rfl rfl rfl lawful
  | connect connections => exact later_idle (le_refl _) rfl same rfl rfl rfl lawful
  | storage mode => exact later_idle (le_refl _) rfl same rfl rfl rfl lawful
  | object teamId sessionId kind queued => exact object_later lawful teamId sessionId kind queued

theorem changed_rows (what : Change) (store : Store) :
    (∀ row ∈ (changed what store).artifacts, row ∈ store.artifacts ∨ row.commandId = none) ∧
      ∀ key ∈ store.objects, key ∈ (changed what store).objects := by
  have stored : ∀ (key other : StorageKey) (store : Store), other ∈ store.objects →
      other ∈ (putObject key store).objects := by
    intro key other store member
    rw [putObject]
    split
    · exact member
    · exact List.mem_append_left _ member
  have rows : ∀ (key : StorageKey) (store : Store),
      (putObject key store).artifacts = store.artifacts := by
    intro key store
    rw [putObject]
    split <;> rfl
  cases what with
  | pass ms => exact ⟨fun _ member => .inl member, fun _ member => member⟩
  | command commandId command =>
      rw [changed]
      split <;> exact ⟨fun _ member => .inl member, fun _ member => member⟩
  | dispatch commandId =>
      rw [changed, settle_same]
      exact ⟨fun _ member => .inl member, fun _ member => member⟩
  | owner id owner => exact ⟨fun _ member => .inl member, fun _ member => member⟩
  | connect connections => exact ⟨fun _ member => .inl member, fun _ member => member⟩
  | storage mode => exact ⟨fun _ member => .inl member, fun _ member => member⟩
  | object teamId sessionId kind queued =>
      rw [changed]
      split
      · refine ⟨fun row member => .inl ?_, fun other member => stored _ other _ member⟩
        rw [rows] at member
        exact member
      · refine ⟨fun row member => ?_, fun other member => stored _ other _ member⟩
        rw [rows] at member
        rcases List.mem_append.mp member with known | added
        · exact .inl known
        · rw [List.mem_singleton.mp added]
          exact .inr rfl

end Surroundings

abbrev Dispatchers := System Store Call (Except Failure Unit)

def steps : SystemMove Call Change → Dispatchers → Outcome Dispatchers Empty :=
  System.step serve changed

def opened (now : Int) : Dispatchers :=
  { shared := { now, drawn := 0, commands := fun _ => none, owners := fun _ => none }
    running := [] }

abbrev Reliable (system : Dispatchers) : Prop :=
  system.Relying Lawful Later Behaves

section Runs

variable {system : Dispatchers}

theorem reliance : System.Reliance serve changed Lawful Later Behaves where
  transitive := Later.trans
  starts := serve_relies
  kept _ behaves := behaves.lawful
  changes what _ lawful := (changed_later what lawful).1

theorem opened_reliable (now : Int) : Reliable (opened now) := by
  refine ⟨⟨List.nodup_nil, List.nodup_nil, ?_, ?_, ?_⟩, ?_⟩
  · intro task member
    cases member
  · rintro key ((⟨row, member, _⟩ | ⟨task, member, _⟩) | member)
    · cases member
    · cases member
    · cases member
  · intro key member
    cases member
  · intro running member
    cases member

theorem step_later (reliable : Reliable system) (move : SystemMove Call Change) :
    Later system.shared (steps move system).state.shared := by
  cases move with
  | start call => exact Later.refl _
  | change what => exact (changed_later what reliable.shared).2
  | tick place =>
      cases here : system.running[place]? with
      | none => simpa [steps, System.step, here] using Later.refl system.shared
      | some running =>
          rcases @System.tick_relying _ _ _ _ serve changed _ _ _ system Later.refl reliable
            place running.call running.program here with same | ⟨_, _, behaves⟩
          · rw [steps, same]
            exact Later.refl _
          · exact behaves.later

theorem reliable_run (reliable : Reliable system) (moves : List (SystemMove Call Change)) :
    Reliable (arrival steps moves system) :=
  System.relying_run reliance Later.refl reliable fun entry _ here => step_later here entry.1

theorem step_rows (reliable : Reliable system) (move : SystemMove Call Change)
    {row : ArtifactRow} (created : row ∈ (steps move system).state.shared.artifacts)
    (fresh : row ∉ system.shared.artifacts) {id : String} (own : row.commandId = some id) :
    ∃ place result context program, move = .tick place ∧
      system.running[place]? = some { call := .acceptResult result context, program } ∧
      result.commandId = id ∧ Wins result system.shared (steps move system).state.shared := by
  cases move with
  | start call => exact absurd created fresh
  | change what =>
      rcases (changed_rows what system.shared).1 row created with known | other
      · exact absurd known fresh
      · rw [own] at other
        cases other
  | tick place =>
      cases here : system.running[place]? with
      | none =>
          have same : (steps (.tick place) system).state = system := by
            simp [steps, System.step, here]
          rw [same] at created
          exact absurd created fresh
      | some running =>
          obtain ⟨call, program⟩ := running
          rcases System.tick_relying Later.refl reliable here with same | ⟨_, _, behaves⟩
          · rw [steps, same] at created
            exact absurd created fresh
          · rcases behaves.rows row created with known | ⟨result, context, rfl, target, wins⟩
            · exact absurd known fresh
            · rw [own] at target
              exact ⟨place, result, context, program, rfl, here, (Option.some.inj target).symm, wins⟩

theorem step_objects (reliable : Reliable system) (move : SystemMove Call Change)
    {key : StorageKey} (stored : key ∈ system.shared.objects)
    (deleted : key ∉ (steps move system).state.shared.objects) :
    ¬ Referenced key system.shared := by
  cases move with
  | start call => exact absurd stored deleted
  | change what => exact absurd ((changed_rows what system.shared).2 key stored) deleted
  | tick place =>
      cases here : system.running[place]? with
      | none =>
          have same : (steps (.tick place) system).state = system := by
            simp [steps, System.step, here]
          rw [same] at deleted
          exact absurd stored deleted
      | some running =>
          obtain ⟨call, program⟩ := running
          rcases System.tick_relying Later.refl reliable here with same | ⟨_, _, behaves⟩
          · rw [steps, same] at deleted
            exact absurd stored deleted
          · exact behaves.kept key stored deleted

/-- Whatever results, cancellations, deadlines and purges run at the same time: every stored
object has a row or a deletion task, a terminal status stays, the rows of a command come from the
one result that makes it terminal, and no object that a row refers to is deleted. -/
theorem results_kept (now : Int) (moves : List (SystemMove Call Change)) :
    let system := arrival steps moves (opened now)
    (∀ key ∈ system.shared.objects, Tracked key system.shared) ∧
    ∀ move, let after := (steps move system).state.shared
      (∀ id command, system.shared.commands id = some command → terminal command.status = true →
        ∃ next, after.commands id = some next ∧ next.status = command.status) ∧
      (∀ row ∈ after.artifacts, row ∉ system.shared.artifacts → ∀ id, row.commandId = some id →
        ∃ place result context program, move = .tick place ∧
          system.running[place]? = some { call := .acceptResult result context, program } ∧
          result.commandId = id ∧ Wins result system.shared after) ∧
      ∀ key ∈ system.shared.objects, key ∉ after.objects → ¬ Referenced key system.shared := by
  intro system
  have reliable : Reliable system := reliable_run (opened_reliable now) moves
  refine ⟨reliable.shared.tracked, fun move => ⟨?_, ?_, ?_⟩⟩
  · intro id command here isOver
    obtain ⟨next, there, same⟩ := (step_later reliable move).commands id command here
    exact ⟨next, there, same isOver⟩
  · intro row created fresh id own
    exact step_rows reliable move created fresh own
  · intro key stored deleted
    exact step_objects reliable move stored deleted

end Runs

end CommandResults

end Devproof
