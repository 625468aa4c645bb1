import Devproof.CommandResults.Dispatcher
import Devproof.Lib.Reliance

/-!
No stored object is lost track of, and none that a row refers to is deleted.
-/

namespace Devproof

namespace CommandResults

def Referenced (key : StorageKey) (store : Store) : Prop :=
  ∃ row ∈ store.artifacts, row.storageKey = key

def Alive (key : StorageKey) (store : Store) : Prop :=
  Referenced key store ∨ ∃ task ∈ store.deletions, task.storageKey = key ∧ task.attempts = 0

def Tracked (key : StorageKey) (store : Store) : Prop :=
  Referenced key store ∨ ∃ task ∈ store.deletions, task.storageKey = key

structure Lawful (store : Store) : Prop where
  ids : (store.deletions.map DeletionTask.id).Nodup
  keys : (store.deletions.map DeletionTask.storageKey).Nodup
  drawnIds : ∀ task ∈ store.deletions, task.id < store.drawn
  drawnKeys : ∀ key, Tracked key store ∨ key ∈ store.objects → key.uuid < store.drawn
  tracked : ∀ key ∈ store.objects, Tracked key store

def Unclaimed (now : Int) (task : DeletionTask) : Prop :=
  task.attempts = 0 ∧ task.leaseToken = none ∧ now < task.nextAttemptAt

structure Later (before after : Store) : Prop where
  now : before.now ≤ after.now
  drawn : before.drawn ≤ after.drawn
  commands : ∀ id command, before.commands id = some command →
    ∃ next, after.commands id = some next ∧
      (terminal command.status = true → next.status = command.status)
  rows : ∀ row ∈ before.artifacts, row ∈ after.artifacts
  tasks : ∀ task ∈ after.deletions, task.id < before.drawn →
    ∃ old ∈ before.deletions, old.id = task.id ∧ old.storageKey = task.storageKey
  unclaimed : ∀ task ∈ before.deletions, Unclaimed after.now task →
    task ∈ after.deletions ∨ Referenced task.storageKey after
  alive : ∀ key : StorageKey, key.uuid < before.drawn → Alive key after → Alive key before
  objects : ∀ key ∈ after.objects, key.uuid < before.drawn →
    key ∈ before.objects ∨ Alive key before

def Wins (result : RuntimeCommandResult) (before after : Store) : Prop :=
  ∃ command next, before.commands result.commandId = some command ∧
    unsettled command.status = true ∧ after.commands result.commandId = some next ∧
      next.status = if result.ok then .succeeded else .failed

structure Behaves (call : Call) (before after : Store) (_rest : Service) : Prop where
  lawful : Lawful after
  later : Later before after
  rows : ∀ row ∈ after.artifacts, row ∈ before.artifacts ∨
    ∃ result context, call = .acceptResult result context ∧
      row.commandId = some result.commandId ∧ Wins result before after
  kept : ∀ key ∈ before.objects, key ∉ after.objects → ¬ Referenced key before

section Relations

variable {before middle after : Store} {call : Call} {rest : Service}

theorem Alive.tracked {key : StorageKey} (alive : Alive key before) : Tracked key before := by
  rcases alive with row | ⟨task, member, same, _⟩
  · exact .inl row
  · exact .inr ⟨task, member, same⟩

theorem Referenced.onward {key : StorageKey} (rows : ∀ row ∈ before.artifacts, row ∈ after.artifacts)
    (here : Referenced key before) : Referenced key after := by
  obtain ⟨row, member, same⟩ := here
  exact ⟨row, rows row member, same⟩

theorem Later.refl (store : Store) : Later store store where
  now := le_refl _
  drawn := le_refl _
  commands _ command here := ⟨command, here, fun _ => rfl⟩
  rows _ member := member
  tasks task member _ := ⟨task, member, rfl, rfl⟩
  unclaimed _ member _ := .inl member
  alive _ _ alive := alive
  objects _ member _ := .inl member

theorem Later.trans (first : Later before middle) (second : Later middle after) :
    Later before after where
  now := first.now.trans second.now
  drawn := first.drawn.trans second.drawn
  commands id command here := by
    obtain ⟨next, there, same⟩ := first.commands id command here
    obtain ⟨last, finally', same'⟩ := second.commands id next there
    refine ⟨last, finally', fun isOver => ?_⟩
    rw [same' (by rw [same isOver]; exact isOver), same isOver]
  rows row member := second.rows row (first.rows row member)
  tasks task member drawn := by
    obtain ⟨old, there, id, key⟩ := second.tasks task member (drawn.trans_le first.drawn)
    obtain ⟨older, here, id', key'⟩ := first.tasks old there (id ▸ drawn)
    exact ⟨older, here, id'.trans id, key'.trans key⟩
  unclaimed task member unclaimed := by
    have sooner : Unclaimed middle.now task :=
      ⟨unclaimed.1, unclaimed.2.1, second.now.trans_lt unclaimed.2.2⟩
    rcases first.unclaimed task member sooner with there | published
    · exact second.unclaimed task there unclaimed
    · exact .inr (published.onward second.rows)
  alive key drawn alive :=
    first.alive key drawn (second.alive key (drawn.trans_le first.drawn) alive)
  objects key member drawn := by
    rcases second.objects key member (drawn.trans_le first.drawn) with there | alive
    · exact first.objects key there drawn
    · exact .inr (first.alive key drawn alive)

theorem behaves_same (lawful : Lawful before) :
    Behaves call before before rest where
  lawful := lawful
  later := Later.refl before
  rows _ member := .inl member
  kept _ member absent := absurd member absent

end Relations

/-! Steps that leave rows, tasks and objects. -/

section Commands

variable {store after : Store} {call : Call} {rest : Service}

theorem later_idle (now : store.now ≤ after.now) (drawn : after.drawn = store.drawn)
    (commands : ∀ id command, store.commands id = some command →
      ∃ next, after.commands id = some next ∧
        (terminal command.status = true → next.status = command.status))
    (artifacts : after.artifacts = store.artifacts) (deletions : after.deletions = store.deletions)
    (objects : after.objects = store.objects) (lawful : Lawful store) :
    Lawful after ∧ Later store after := by
  refine ⟨⟨deletions ▸ lawful.ids, deletions ▸ lawful.keys, ?_, ?_, ?_⟩,
    ⟨now, le_of_eq drawn.symm, commands, ?_, ?_, ?_, ?_, ?_⟩⟩
  · rw [deletions, drawn]
    exact lawful.drawnIds
  · unfold Tracked Referenced
    rw [artifacts, deletions, objects, drawn]
    exact lawful.drawnKeys
  · unfold Tracked Referenced
    rw [artifacts, deletions, objects]
    exact lawful.tracked
  · rw [artifacts]
    exact fun _ member => member
  · rw [deletions]
    exact (Later.refl store).tasks
  · intro task member _
    exact .inl (deletions ▸ member)
  · unfold Alive Referenced
    rw [artifacts, deletions]
    exact fun _ _ alive => alive
  · intro key stored _
    exact .inl (objects ▸ stored)

theorem behaves_commands (lawful : Lawful store)
    (same : after = { store with commands := after.commands })
    (commands : ∀ id command, store.commands id = some command →
      ∃ next, after.commands id = some next ∧
        (terminal command.status = true → next.status = command.status)) :
    Behaves call store after rest := by
  have artifacts : after.artifacts = store.artifacts := by rw [same]
  have objects : after.objects = store.objects := by rw [same]
  obtain ⟨kept, later⟩ := later_idle (by rw [same]) (by rw [same]) commands artifacts
    (by rw [same]) objects lawful
  refine ⟨kept, later, fun row member => .inl (artifacts ▸ member), fun key member absent => ?_⟩
  rw [objects] at absent
  exact absurd member absent

theorem open_not_terminal {status : CommandStatus} (opened : unsettled status = true) :
    terminal status = false := by
  cases status <;> first | rfl | cases opened

theorem settle_commands (commandId : String) (write : RuntimeCommand → RuntimeCommand)
    (store : Store) : ∀ id command, store.commands id = some command →
      ∃ next, (settle commandId write store).commands id = some next ∧
        (terminal command.status = true → next.status = command.status) := by
  intro id command here
  rw [settle]
  split
  · rename_i found there
    split
    · rename_i opened
      by_cases target : id = commandId
      · subst target
        obtain rfl : found = command := Option.some.inj (there.symm.trans here)
        refine ⟨write found, if_pos rfl, fun isOver => ?_⟩
        rw [open_not_terminal opened] at isOver
        cases isOver
      · exact ⟨command, (if_neg target).trans here, fun _ => rfl⟩
    · exact ⟨command, here, fun _ => rfl⟩
  · exact ⟨command, here, fun _ => rfl⟩

theorem settle_same (commandId : String) (write : RuntimeCommand → RuntimeCommand)
    (store : Store) :
    settle commandId write store =
      { store with commands := (settle commandId write store).commands } := by
  rw [settle]
  split
  · split <;> rfl
  · rfl

theorem settle_behaves (lawful : Lawful store) (commandId : String)
    (write : RuntimeCommand → RuntimeCommand) :
    Behaves call store (settle commandId write store) rest :=
  behaves_commands lawful (settle_same commandId write store)
    (settle_commands commandId write store)

end Commands

section Uploads

variable {store after : Store} {call : Call} {rest : Service} {key : StorageKey}

def Fresh (key : StorageKey) (store : Store) : Prop :=
  key.uuid = store.drawn

theorem enqueue_later (lawful : Lawful store) (fresh : Fresh key store) (due : Int) :
    Lawful (enqueue key due store) ∧ Later store (enqueue key due store) := by
  have unknown : ∀ task ∈ store.deletions, task.storageKey ≠ key := by
    intro task member same
    have drawn := lawful.drawnKeys key (.inl (.inr ⟨task, member, same⟩))
    rw [fresh] at drawn
    exact lt_irrefl _ drawn
  have tracked : ∀ {other}, Tracked other (enqueue key due store) →
      Tracked other store ∨ other = key := by
    rintro other (row | ⟨task, member, same⟩)
    · exact .inl (.inl row)
    · rcases List.mem_append.mp member with known | added
      · exact .inl (.inr ⟨task, known, same⟩)
      · rw [List.mem_singleton.mp added] at same
        exact .inr same.symm
  refine ⟨⟨?_, ?_, ?_, ?_, ?_⟩, ⟨le_refl _, Nat.le_succ _, ?_, fun _ member => member, ?_, ?_,
    ?_, fun _ member _ => .inl member⟩⟩
  · show ((store.deletions ++ _).map _).Nodup
    rw [List.map_append]
    refine List.Nodup.append lawful.ids (List.nodup_singleton _) ?_
    intro id member last
    obtain ⟨task, known, rfl⟩ := List.mem_map.mp member
    have drawn := lawful.drawnIds task known
    rw [List.mem_singleton.mp last] at drawn
    exact lt_irrefl _ drawn
  · show ((store.deletions ++ _).map _).Nodup
    rw [List.map_append]
    refine List.Nodup.append lawful.keys (List.nodup_singleton _) ?_
    intro other member last
    obtain ⟨task, known, rfl⟩ := List.mem_map.mp member
    exact unknown task known (List.mem_singleton.mp last)
  · intro task member
    rcases List.mem_append.mp member with known | added
    · exact (lawful.drawnIds task known).trans (Nat.lt_succ_self _)
    · rw [List.mem_singleton.mp added]
      exact Nat.lt_succ_self _
  · rintro other (known | stored)
    · rcases tracked known with before | rfl
      · exact (lawful.drawnKeys other (.inl before)).trans (Nat.lt_succ_self _)
      · exact Nat.lt_succ_of_le (le_of_eq fresh)
    · exact (lawful.drawnKeys other (.inr stored)).trans (Nat.lt_succ_self _)
  · intro other stored
    rcases lawful.tracked other stored with row | ⟨task, member, same⟩
    · exact .inl row
    · exact .inr ⟨task, List.mem_append_left _ member, same⟩
  · intro id command here
    exact ⟨command, here, fun _ => rfl⟩
  · intro task member drawn
    rcases List.mem_append.mp member with known | added
    · exact ⟨task, known, rfl, rfl⟩
    · rw [List.mem_singleton.mp added] at drawn
      exact absurd drawn (lt_irrefl _)
  · intro task member _
    exact .inl (List.mem_append_left _ member)
  · rintro other drawn (row | ⟨task, member, same, unclaimed⟩)
    · exact .inl row
    · rcases List.mem_append.mp member with known | added
      · exact .inr ⟨task, known, same, unclaimed⟩
      · rw [List.mem_singleton.mp added] at same
        rw [← same, fresh] at drawn
        exact absurd drawn (lt_irrefl _)

theorem addRow_later {row : ArtifactRow} (lawful : Lawful store)
    (fresh : Fresh row.storageKey store) :
    Lawful (addRow row store) ∧ Later store (addRow row store) := by
  have referenced : ∀ {other}, Referenced other (addRow row store) →
      Referenced other store ∨ other = row.storageKey := by
    rintro other ⟨entry, member, same⟩
    rcases List.mem_append.mp member with known | added
    · exact .inl ⟨entry, known, same⟩
    · rw [List.mem_singleton.mp added] at same
      exact .inr same.symm
  refine ⟨⟨lawful.ids, lawful.keys, ?_, ?_, ?_⟩, ⟨le_refl _, Nat.le_succ _,
    (Later.refl store).commands, fun _ member => List.mem_append_left _ member, ?_,
    fun _ member _ => .inl member, ?_, fun _ member _ => .inl member⟩⟩
  · intro task member
    exact (lawful.drawnIds task member).trans (Nat.lt_succ_self _)
  · rintro other ((row | task) | stored)
    · rcases referenced row with known | rfl
      · exact (lawful.drawnKeys other (.inl (.inl known))).trans (Nat.lt_succ_self _)
      · exact Nat.lt_succ_of_le (le_of_eq fresh)
    · exact (lawful.drawnKeys other (.inl (.inr task))).trans (Nat.lt_succ_self _)
    · exact (lawful.drawnKeys other (.inr stored)).trans (Nat.lt_succ_self _)
  · intro other stored
    exact (lawful.tracked other stored).imp_left
      (Referenced.onward fun _ member => List.mem_append_left _ member)
  · intro task member _
    exact ⟨task, member, rfl, rfl⟩
  · rintro other drawn (row | task)
    · rcases referenced row with known | rfl
      · exact .inl known
      · rw [fresh] at drawn
        exact absurd drawn (lt_irrefl _)
    · exact .inr task

theorem behaves_grow (steps : Lawful after ∧ Later store after)
    (artifacts : after.artifacts = store.artifacts)
    (objects : ∀ key ∈ store.objects, key ∈ after.objects) : Behaves call store after rest where
  lawful := steps.1
  later := steps.2
  rows _ member := .inl (artifacts ▸ member)
  kept key member absent := absurd (objects key member) absent

theorem queueIntent_behaves (lawful : Lawful store) (fresh : Fresh key store) :
    Behaves call store (queueIntent key store) rest :=
  behaves_grow (enqueue_later lawful fresh _) rfl fun _ member => member

def Awaited (key : StorageKey) (due : Int) (store : Store) : Prop :=
  key.uuid < store.drawn ∧ (Referenced key store ∨
    ∃ task ∈ store.deletions, task.storageKey = key ∧ task.attempts = 0 ∧
      task.leaseToken = none ∧ task.nextAttemptAt = due)

theorem queueIntent_awaited (fresh : Fresh key store) :
    Awaited key (store.now + 3600000) (queueIntent key store) :=
  ⟨Nat.lt_succ_of_le (le_of_eq fresh), .inr ⟨_, List.mem_append_right _ (List.mem_singleton_self _),
    rfl, rfl, rfl, rfl⟩⟩

theorem Awaited.onward {due : Int} (awaited : Awaited key due store) (onward : Later store after)
    (early : after.now < due) : Awaited key due after := by
  obtain ⟨drawn, known⟩ := awaited
  refine ⟨drawn.trans_le onward.drawn, ?_⟩
  rcases known with row | ⟨task, member, same, attempts, lease, next⟩
  · exact .inl (row.onward onward.rows)
  · rcases onward.unclaimed task member ⟨attempts, lease, next ▸ early⟩ with there | published
    · exact .inr ⟨task, there, same, attempts, lease, next⟩
    · exact .inl (same ▸ published)

theorem Awaited.alive {due : Int} (awaited : Awaited key due store) : Alive key store := by
  rcases awaited.2 with row | ⟨task, member, same, attempts, -⟩
  · exact .inl row
  · exact .inr ⟨task, member, same, attempts⟩

theorem putObject_later (lawful : Lawful store) (drawn : key.uuid < store.drawn)
    (alive : Alive key store) :
    Lawful (putObject key store) ∧ Later store (putObject key store) := by
  rw [putObject]
  split
  · exact ⟨lawful, Later.refl store⟩
  · refine ⟨⟨lawful.ids, lawful.keys, lawful.drawnIds, ?_, ?_⟩, ⟨le_refl _, le_refl _,
      (Later.refl store).commands, fun _ member => member, (Later.refl store).tasks,
      (Later.refl store).unclaimed, fun _ _ alive => alive, ?_⟩⟩
    · rintro other (known | stored)
      · exact lawful.drawnKeys other (.inl known)
      · rcases List.mem_append.mp stored with known | added
        · exact lawful.drawnKeys other (.inr known)
        · rw [List.mem_singleton.mp added]
          exact drawn
    · intro other stored
      rcases List.mem_append.mp stored with known | added
      · exact lawful.tracked other known
      · rw [List.mem_singleton.mp added]
        exact alive.tracked
    · intro other stored _
      rcases List.mem_append.mp stored with known | added
      · exact .inl known
      · rw [List.mem_singleton.mp added]
        exact .inr alive

theorem putObject_behaves (lawful : Lawful store) (drawn : key.uuid < store.drawn)
    (alive : Alive key store) : Behaves call store (putObject key store) rest := by
  refine behaves_grow (putObject_later lawful drawn alive) ?_ fun other member => ?_
  · rw [putObject]
    split <;> rfl
  · rw [putObject]
    split
    · exact member
    · exact List.mem_append_left _ member

theorem upload_behaves {due : Int} {start : Store} (lawful : Lawful store)
    (awaited : Awaited key due start) (onward : Later start store) :
    Behaves call store (upload key due store) rest := by
  rw [upload]
  split
  · rename_i early
    have waiting := awaited.onward onward early.1
    exact putObject_behaves lawful waiting.1 waiting.alive
  · exact behaves_same lawful

end Uploads

theorem mem_spared {α : Type} {items : List α} {item : α} {chosen : α → Bool}
    (member : item ∈ items) (spared : ¬ chosen item = true) :
    item ∈ items.filter fun item => !chosen item := by
  refine List.mem_filter.mpr ⟨member, ?_⟩
  rw [Bool.not_eq_true']
  exact Bool.eq_false_of_not_eq_true spared

section Tasks

variable {before middle after store : Store} {call : Call} {rest : Service} {key : StorageKey}

theorem behaves_fewer (lawful : Lawful before) (now : after.now = before.now)
    (drawn : after.drawn = before.drawn) (objects : after.objects = before.objects)
    (commands : ∀ id command, before.commands id = some command →
      ∃ next, after.commands id = some next ∧
        (terminal command.status = true → next.status = command.status))
    (grow : ∀ row ∈ before.artifacts, row ∈ after.artifacts)
    (fewer : after.deletions.Sublist before.deletions)
    (gone : ∀ task ∈ before.deletions, task ∈ after.deletions ∨
      Referenced task.storageKey after ∨
        (task.storageKey ∉ before.objects ∧ ¬ Unclaimed before.now task))
    (added : ∀ row ∈ after.artifacts, row ∈ before.artifacts ∨
      (Alive row.storageKey before ∧ ∃ result context, call = .acceptResult result context ∧
        row.commandId = some result.commandId ∧ Wins result before after)) :
    Behaves call before after rest := by
  have alive : ∀ {key}, Alive key after → Alive key before := by
    rintro key (⟨row, member, same⟩ | ⟨task, member, same, attempts⟩)
    · rcases added row member with known | ⟨living, _⟩
      · exact .inl ⟨row, known, same⟩
      · exact same ▸ living
    · exact .inr ⟨task, fewer.subset member, same, attempts⟩
  have tracked : ∀ {key}, Tracked key after → Tracked key before := by
    rintro key (row | ⟨task, member, same⟩)
    · exact (alive (.inl row)).tracked
    · exact .inr ⟨task, fewer.subset member, same⟩
  refine ⟨⟨lawful.ids.sublist (fewer.map _), lawful.keys.sublist (fewer.map _), ?_, ?_, ?_⟩,
    ⟨le_of_eq now.symm, le_of_eq drawn.symm, commands, grow, ?_, ?_, fun _ _ => alive, ?_⟩, ?_, ?_⟩
  · intro task member
    rw [drawn]
    exact lawful.drawnIds task (fewer.subset member)
  · intro key known
    rw [drawn]
    rw [objects] at known
    exact lawful.drawnKeys key (known.imp_left tracked)
  · intro key stored
    rw [objects] at stored
    rcases lawful.tracked key stored with row | ⟨task, member, same⟩
    · exact .inl (row.onward grow)
    · rcases gone task member with still | published | ⟨absent, _⟩
      · exact .inr ⟨task, still, same⟩
      · exact .inl (same ▸ published)
      · exact absurd (same ▸ stored) absent
  · intro task member _
    exact ⟨task, fewer.subset member, rfl, rfl⟩
  · intro task member unclaimed
    rw [now] at unclaimed
    rcases gone task member with still | published | ⟨_, taken⟩
    · exact .inl still
    · exact .inr published
    · exact absurd unclaimed taken
  · intro key stored _
    exact .inl (objects ▸ stored)
  · intro row member
    exact (added row member).imp_right And.right
  · intro key stored absent
    rw [objects] at absent
    exact absurd stored absent

theorem behaves_update {allowed : DeletionTask → Bool} {write : DeletionTask → DeletionTask}
    {drawn : Nat} (lawful : Lawful store) (more : store.drawn ≤ drawn)
    (same : ∀ task, (write task).id = task.id ∧ (write task).storageKey = task.storageKey)
    (attempts : ∀ task, (write task).attempts = 0 → task.attempts = 0)
    (taken : ∀ task ∈ store.deletions, allowed task = true → ¬ Unclaimed store.now task) :
    Behaves call store
      { store with drawn, deletions := updateWhere allowed write store.deletions } rest := by
  have origin : ∀ task ∈ updateWhere allowed write store.deletions, ∃ old ∈ store.deletions,
      old.id = task.id ∧ old.storageKey = task.storageKey ∧
        (task.attempts = 0 → old.attempts = 0) := by
    intro task member
    obtain ⟨old, known, rfl⟩ := List.mem_map.mp member
    refine ⟨old, known, ?_⟩
    split
    · exact ⟨(same old).1.symm, (same old).2.symm, attempts old⟩
    · exact ⟨rfl, rfl, id⟩
  have tracked : ∀ {key}, Tracked key
      { store with drawn, deletions := updateWhere allowed write store.deletions } →
        Tracked key store := by
    rintro key (row | ⟨task, member, here⟩)
    · exact .inl row
    · obtain ⟨old, known, _, key, _⟩ := origin task member
      exact .inr ⟨old, known, key.trans here⟩
  refine ⟨⟨?_, ?_, ?_, ?_, ?_⟩, ⟨le_refl _, more, (Later.refl store).commands,
    fun _ member => member, ?_, ?_, ?_, fun _ member _ => .inl member⟩,
    fun _ member => .inl member, fun _ member absent => absurd member absent⟩
  · rw [keys_updateWhere fun task => (same task).1]
    exact lawful.ids
  · rw [keys_updateWhere fun task => (same task).2]
    exact lawful.keys
  · intro task member
    obtain ⟨old, known, id, _⟩ := origin task member
    exact id ▸ (lawful.drawnIds old known).trans_le more
  · intro key known
    exact (lawful.drawnKeys key (known.imp_left tracked)).trans_le more
  · intro key stored
    rcases lawful.tracked key stored with row | ⟨task, member, here⟩
    · exact .inl row
    · refine .inr ⟨_, List.mem_map_of_mem member, ?_⟩
      split
      · exact (same task).2.trans here
      · exact here
  · intro task member _
    obtain ⟨old, known, id, key, _⟩ := origin task member
    exact ⟨old, known, id, key⟩
  · intro task member unclaimed
    left
    refine List.mem_map.mpr ⟨task, member, if_neg ?_⟩
    intro chosen
    exact taken task member chosen unclaimed
  · rintro key _ (row | ⟨task, member, here, unclaimed⟩)
    · exact .inl row
    · obtain ⟨old, known, _, key, living⟩ := origin task member
      exact .inr ⟨old, known, key.trans here, living unclaimed⟩

/-! `publish`. -/

structure Consumed (artifacts : List ArtifactRow) (before after : Store) : Prop where
  same : after = { before with deletions := after.deletions }
  fewer : after.deletions.Sublist before.deletions
  gone : ∀ task ∈ before.deletions, task ∈ after.deletions ∨
    ∃ row ∈ artifacts, row.storageKey = task.storageKey
  intents : ∀ row ∈ artifacts, ∃ task ∈ before.deletions,
    task.storageKey = row.storageKey ∧ task.attempts = 0

theorem unclaimed_key {now : Int} {task : DeletionTask} (chosen : unclaimed now key task = true) :
    task.storageKey = key ∧ task.attempts = 0 := by
  simp only [unclaimed, Bool.and_eq_true, beq_iff_eq] at chosen
  exact ⟨chosen.1.1.1, chosen.1.1.2⟩

theorem consume_consumed {artifacts : List ArtifactRow}
    (ran : consume artifacts store = .ok after) : Consumed artifacts store after := by
  induction artifacts generalizing store with
  | nil =>
      cases ran
      exact ⟨rfl, List.Sublist.refl _, fun task member => .inl member, nofun⟩
  | cons artifact rest ih =>
      rw [consume] at ran
      obtain ⟨_, single, ran⟩ := bind_ok.mp ran
      rw [throwIf_ok, bne_eq_false_iff_eq] at single
      obtain ⟨same, fewer, gone, intents⟩ := ih ran
      refine ⟨same, fewer.trans List.filter_sublist, fun task member => ?_, ?_⟩
      · by_cases chosen : unclaimed store.now artifact.storageKey task = true
        · exact .inr ⟨artifact, List.mem_cons_self .., (unclaimed_key chosen).1.symm⟩
        · rcases gone task (mem_spared member chosen) with still | ⟨row, later, here⟩
          · exact .inl still
          · exact .inr ⟨row, List.mem_cons_of_mem _ later, here⟩
      · intro row member
        rcases List.mem_cons.mp member with rfl | later
        · obtain ⟨task, found⟩ := List.exists_mem_of_length_pos (single ▸ Nat.one_pos)
          obtain ⟨known, chosen⟩ := List.mem_filter.mp found
          exact ⟨task, known, unclaimed_key chosen⟩
        · obtain ⟨task, known, here⟩ := intents row later
          exact ⟨task, (List.mem_filter.mp known).1, here⟩

theorem publish_behaves {result : RuntimeCommandResult} {context connection : Option RuntimeContext}
    {artifacts : List ArtifactRow} (lawful : Lawful store)
    (own : ∀ row ∈ artifacts, row.commandId = some result.commandId) {value : Unit}
    (published : publish result connection artifacts store = .ok (after, value)) :
    Behaves (.acceptResult result context) store after rest := by
  rw [publish] at published
  split at published
  · cases published
    exact behaves_same lawful
  · split at published
    · cases published
      exact behaves_same lawful
    · rename_i opened
      rw [Bool.not_eq_true', Bool.not_eq_false, Option.any_eq_true] at opened
      obtain ⟨command, here, opened⟩ := opened
      obtain ⟨consumed, ran, published⟩ := bind_ok.mp published
      cases published
      obtain ⟨same, fewer, gone, intents⟩ := consume_consumed ran
      let settled := settle result.commandId (completed result store.now) store
      have settledSame : settled = { store with commands := settled.commands } :=
        settle_same _ _ _
      have commands : consumed.commands = settled.commands := by rw [same]
      have deletions : settled.deletions = store.deletions := by rw [settledSame]
      have artifactsSame : consumed.artifacts = store.artifacts := by
        rw [same]
        show settled.artifacts = _
        rw [settledSame]
      have wins : Wins result store
          { consumed with artifacts := consumed.artifacts ++ artifacts } := by
        refine ⟨command, completed result store.now command, here, opened, ?_, rfl⟩
        show consumed.commands result.commandId = _
        rw [commands]
        show (settle _ _ _).commands _ = _
        rw [settle, here]
        simp [opened]
      refine behaves_fewer lawful ?_ ?_ ?_ ?_ ?_ ?_ ?_ ?_
      · show consumed.now = _
        rw [same]
        show settled.now = _
        rw [settledSame]
      · show consumed.drawn = _
        rw [same]
        show settled.drawn = _
        rw [settledSame]
      · show consumed.objects = _
        rw [same]
        show settled.objects = _
        rw [settledSame]
      · show ∀ id command, store.commands id = some command →
          ∃ next, consumed.commands id = some next ∧ _
        rw [commands]
        exact settle_commands _ _ _
      · intro row member
        exact List.mem_append_left _ (artifactsSame ▸ member)
      · exact deletions ▸ fewer
      · intro task member
        rcases gone task (deletions ▸ member) with still | ⟨row, added, key⟩
        · exact .inl still
        · exact .inr (.inl ⟨row, List.mem_append_right _ added, key⟩)
      · intro row member
        rcases List.mem_append.mp member with known | added
        · exact .inl (artifactsSame ▸ known)
        · obtain ⟨task, known, key, attempts⟩ := intents row added
          exact .inr ⟨.inr ⟨task, deletions ▸ known, key, attempts⟩, result, context, rfl,
            own row added, wins⟩

def Known (task : DeletionTask) (store : Store) : Prop :=
  task.id < store.drawn ∧
    ∀ other ∈ store.deletions, other.id = task.id → other.storageKey = task.storageKey

def Doomed (key : StorageKey) (store : Store) : Prop :=
  key.uuid < store.drawn ∧ ¬ Alive key store

def Gone (key : StorageKey) (store : Store) : Prop :=
  Doomed key store ∧ key ∉ store.objects

variable {task : DeletionTask}

theorem Known.onward (known : Known task before) (onward : Later before after) :
    Known task after := by
  refine ⟨known.1.trans_le onward.drawn, fun other member same => ?_⟩
  obtain ⟨old, there, id, key⟩ := onward.tasks other member (same ▸ known.1)
  exact key.symm.trans (known.2 old there (id.trans same))

theorem Doomed.onward (doomed : Doomed key before) (onward : Later before after) :
    Doomed key after :=
  ⟨doomed.1.trans_le onward.drawn, fun alive => doomed.2 (onward.alive key doomed.1 alive)⟩

theorem Gone.onward (gone : Gone key before) (onward : Later before after) : Gone key after := by
  refine ⟨gone.1.onward onward, fun stored => ?_⟩
  rcases onward.objects key stored gone.1.1 with before | alive
  · exact gone.2 before
  · exact gone.1.2 alive

theorem known_of_mem (lawful : Lawful store) (member : task ∈ store.deletions) :
    Known task store := by
  refine ⟨lawful.drawnIds task member, fun other present same => ?_⟩
  rw [List.inj_on_of_nodup_map lawful.ids present member same]

theorem leased_taken {id token : Nat} {now : Int} (chosen : leased id token task = true) :
    task.id = id ∧ ¬ Unclaimed now task := by
  simp only [leased, Bool.and_eq_true, beq_iff_eq] at chosen
  refine ⟨chosen.1, fun unclaimed => ?_⟩
  rw [unclaimed.2.1] at chosen
  cases chosen.2

theorem dropTask_behaves {token : Nat} (lawful : Lawful store) (known : Known task store)
    (reason : Referenced task.storageKey store ∨ task.storageKey ∉ store.objects) :
    Behaves call store (dropTask task.id token store) rest := by
  refine behaves_fewer lawful rfl rfl rfl (Later.refl store).commands (fun _ member => member)
    List.filter_sublist (fun other member => ?_) fun _ member => .inl member
  by_cases chosen : leased task.id token other = true
  · obtain ⟨same, taken⟩ := @leased_taken _ _ _ store.now chosen
    right
    rw [known.2 other member same]
    exact reason.imp id fun absent => ⟨absent, taken⟩
  · exact .inl (mem_spared member chosen)

theorem reschedule_behaves {id token attempt : Nat} (lawful : Lawful store) :
    Behaves call store (reschedule id token attempt store) rest :=
  behaves_update lawful (le_refl _) (fun _ => ⟨rfl, rfl⟩) (fun _ zero => zero)
    fun _ _ chosen => (leased_taken chosen).2

theorem referenced_iff : referenced key store = true ↔ Referenced key store := by
  simp [referenced, Referenced]

def markClaimed (task : DeletionTask) (store : Store) : Store :=
  { store with
    drawn := store.drawn + 1
    deletions :=
      updateWhere (claims task.id store) (claimTask store.drawn store.now) store.deletions }

theorem markClaimed_behaves (lawful : Lawful store) (task : DeletionTask) :
    Behaves call store (markClaimed task store) rest := by
  refine behaves_update lawful (Nat.le_succ _) (fun _ => ⟨rfl, rfl⟩) nofun
    fun other _ chosen unclaimed => ?_
  simp only [claims, claimable, Bool.and_eq_true, decide_eq_true_eq] at chosen
  exact absurd chosen.2.1 (not_le_of_gt unclaimed.2.2)

theorem claim_behaves (lawful : Lawful store) (known : Known task store) :
    Behaves call store (claim task store) rest := by
  have marked : Behaves call store (markClaimed task store) rest := markClaimed_behaves lawful task
  rw [claim]
  split
  · rename_i both
    rw [Bool.and_eq_true, referenced_iff] at both
    have dropped : Behaves call (markClaimed task store)
        (dropTask task.id store.drawn (markClaimed task store)) rest :=
      dropTask_behaves marked.lawful (known.onward marked.later) (.inl both.2)
    exact ⟨dropped.lawful, marked.later.trans dropped.later, fun _ member => .inl member,
      fun _ member absent => absurd member absent⟩
  · exact marked

theorem claim_doomed (lawful : Lawful store) (known : Known task store)
    (taken : claimed task store = true) : Doomed task.storageKey (claim task store) := by
  rw [claimed, Bool.and_eq_true, List.any_eq_true, Bool.not_eq_true'] at taken
  obtain ⟨⟨own, member, chosen⟩, free⟩ := taken
  have same : claim task store = markClaimed task store := by
    rw [claim, free, Bool.and_false]
    rfl
  have target : own.id = task.id := by
    rw [claims, Bool.and_eq_true, beq_iff_eq] at chosen
    exact chosen.1
  have key := known.2 own member target
  rw [same]
  refine ⟨(lawful.drawnKeys _ (.inl (.inr ⟨own, member, key⟩))).trans (Nat.lt_succ_self _), ?_⟩
  rintro (row | ⟨other, present, here, attempts⟩)
  · rw [← Bool.not_eq_true, referenced_iff] at free
    exact free row
  · obtain ⟨old, there, rfl⟩ := List.mem_map.mp present
    split at here
    · rename_i picked
      rw [if_pos picked] at attempts
      cases attempts
    · rename_i spared
      obtain rfl : old = own :=
        List.inj_on_of_nodup_map lawful.keys there member (here.trans key.symm)
      exact spared chosen

theorem deleteObject_behaves (lawful : Lawful store) (doomed : Doomed key store) :
    Behaves call store (deleteObject key store) rest := by
  rw [deleteObject]
  split
  · exact behaves_same lawful
  · refine ⟨⟨lawful.ids, lawful.keys, lawful.drawnIds, ?_, ?_⟩, ⟨le_refl _, le_refl _,
      (Later.refl store).commands, fun _ member => member, (Later.refl store).tasks,
      (Later.refl store).unclaimed, fun _ _ alive => alive, ?_⟩, fun _ member => .inl member, ?_⟩
    · rintro other (tracked | stored)
      · exact lawful.drawnKeys other (.inl tracked)
      · exact lawful.drawnKeys other (.inr (List.mem_filter.mp stored).1)
    · intro other stored
      exact lawful.tracked other (List.mem_filter.mp stored).1
    · intro other stored _
      exact .inl (List.mem_filter.mp stored).1
    · intro other stored absent
      by_cases target : other = key
      · intro row
        exact doomed.2 (.inl (target ▸ row))
      · refine absurd ?_ absent
        exact List.mem_filter.mpr ⟨stored, bne_iff_ne.mpr target⟩

theorem deleteObject_gone (doomed : Doomed key store) (working : store.storage = .working) :
    Gone key (deleteObject key store) := by
  rw [deleteObject, working]
  refine ⟨doomed, fun stored => ?_⟩
  have other := (List.mem_filter.mp stored).2
  rw [bne_self_eq_false] at other
  cases other

end Tasks

end CommandResults

end Devproof
