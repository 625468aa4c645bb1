import Devproof.Accounts.Preparation

/-!
What stays true of the rows of a task while the three writers overlap with each
other and with the scheduling of its cases.
-/

namespace Devproof

namespace TestAccounts

def currentBindings (row : TaskCaseExecution) : List TestAccountBinding :=
  ((row.run.bind ExecutionPolicy.testAccounts).or
    (row.testAccountPlan.map TestAccountPlan.bindings)).getD []

structure Sound (row : TaskCaseExecution) : Prop where
  bindings : ∀ plan, row.testAccountPlan = some plan →
    (plan.bindings.map TestAccountBinding.slotId).Nodup
  policy : ∀ policy, row.run = some policy →
    policy.testAccounts = row.testAccountPlan.map TestAccountPlan.bindings
  failure : accountFailure row.scheduling = true → row.dispatchStatus = .failed ∧
    ∃ plan, row.testAccountPlan = some plan ∧ missingAccountSlots plan ≠ []

structure Lawful (tables : TaskTables) : Prop where
  distinct : (tables.caseExecutions.map TaskCaseExecution.id).Nodup
  sound : ∀ row ∈ tables.caseExecutions, Sound row

structure Follows (now : Int) (earlier row : TaskCaseExecution) : Prop where
  id : row.id = earlier.id
  plan : ∀ plan, earlier.testAccountPlan = some plan → expired plan now = true →
    row.testAccountPlan = some plan

structure Later (earlier tables : TaskTables) : Prop where
  clock : earlier.now ≤ tables.now
  rows : ∀ row ∈ earlier.caseExecutions, ∃ next ∈ tables.caseExecutions,
    Follows earlier.now row next
  events : earlier.events <+: tables.events

theorem Sound.current {row : TaskCaseExecution} (sound : Sound row) :
    currentBindings row = (row.testAccountPlan.map TestAccountPlan.bindings).getD [] := by
  unfold currentBindings
  cases run : row.run with
  | none => rfl
  | some policy =>
      rw [Option.bind_some, sound.policy policy run, Option.or_self]

theorem Sound.distinct {row : TaskCaseExecution} (sound : Sound row) :
    ((currentBindings row).map TestAccountBinding.slotId).Nodup := by
  rw [sound.current]
  cases plan : row.testAccountPlan with
  | none => exact List.nodup_nil
  | some plan => exact sound.bindings _ plan

theorem expired_later {plan : TestAccountPlan} {now next : Int} (ended : expired plan now = true)
    (later : now ≤ next) : expired plan next = true := by
  unfold expired at ended ⊢
  cases bound : plan.expiresAt with
  | none => simp [bound] at ended
  | some expiresAt =>
      simp only [bound, Option.any_some, decide_eq_true_eq] at ended ⊢
      omega

theorem Follows.refl (now : Int) (row : TaskCaseExecution) : Follows now row row :=
  ⟨rfl, fun _ plan _ => plan⟩

theorem Follows.trans {now later : Int} {first second third : TaskCaseExecution}
    (here : Follows now first second) (there : Follows later second third) (onward : now ≤ later) :
    Follows now first third := by
  refine ⟨there.id.trans here.id, ?_⟩
  intro plan stored ended
  exact there.plan plan (here.plan plan stored ended) (expired_later ended onward)

theorem Later.refl (tables : TaskTables) : Later tables tables :=
  ⟨le_refl _, fun row member => ⟨row, member, Follows.refl _ row⟩, List.prefix_refl _⟩

theorem Later.trans {first second third : TaskTables} (here : Later first second)
    (there : Later second third) : Later first third := by
  refine ⟨le_trans here.clock there.clock, ?_, here.events.trans there.events⟩
  intro row member
  obtain ⟨middle, present, follows⟩ := here.rows row member
  obtain ⟨last, final, onward⟩ := there.rows middle present
  exact ⟨last, final, follows.trans onward here.clock⟩

theorem Lawful.same {tables : TaskTables} (lawful : Lawful tables)
    {row other : TaskCaseExecution} (member : row ∈ tables.caseExecutions)
    (member' : other ∈ tables.caseExecutions) (same : row.id = other.id) : row = other :=
  List.inj_on_of_nodup_map lawful.distinct member member' same

theorem Lawful.find {tables : TaskTables} (lawful : Lawful tables) {row : TaskCaseExecution}
    (member : row ∈ tables.caseExecutions) :
    tables.caseExecutions.find? (fun other => other.id == row.id) = some row := by
  cases found : tables.caseExecutions.find? fun other => other.id == row.id with
  | none => simpa using List.find?_eq_none.mp found row member
  | some other =>
      have same : other.id = row.id := by simpa using List.find?_some found
      rw [lawful.same (List.mem_of_find?_eq_some found) member same]

/-! Rewriting the rows of a task one by one. -/

section Rewrites

variable {tables : TaskTables} {write : TaskCaseExecution → TaskCaseExecution}

theorem lawful_map (lawful : Lawful tables) (ids : ∀ row, (write row).id = row.id)
    (kept : ∀ row ∈ tables.caseExecutions, Sound row → Sound (write row)) :
    Lawful { tables with caseExecutions := tables.caseExecutions.map write } := by
  constructor
  · have same : (tables.caseExecutions.map write).map TaskCaseExecution.id =
        tables.caseExecutions.map TaskCaseExecution.id := by
      rw [List.map_map]
      exact List.map_congr_left fun row _ => ids row
    exact same ▸ lawful.distinct
  · intro row member
    obtain ⟨old, present, rfl⟩ := List.mem_map.mp member
    exact kept old present (lawful.sound old present)

theorem later_map (kept : ∀ row ∈ tables.caseExecutions, Follows tables.now row (write row)) :
    Later tables { tables with caseExecutions := tables.caseExecutions.map write } := by
  refine ⟨le_refl _, ?_, List.prefix_refl _⟩
  intro row member
  exact ⟨write row, List.mem_map_of_mem member, kept row member⟩

theorem lawful_updateMany {allowed : TaskCaseExecution → Bool} (lawful : Lawful tables)
    (ids : ∀ row, (write row).id = row.id)
    (kept : ∀ row ∈ tables.caseExecutions, allowed row = true → Sound row → Sound (write row)) :
    Lawful (updateMany allowed write tables).1 := by
  refine lawful_map lawful ?_ ?_
  · intro row
    dsimp only
    split
    · exact ids row
    · rfl
  · intro row member sound
    dsimp only
    split
    · rename_i here
      obtain ⟨bindings, policy, failure⟩ := kept row member here sound
      exact ⟨bindings, policy, failure⟩
    · exact sound

theorem later_updateMany {allowed : TaskCaseExecution → Bool}
    (kept : ∀ row ∈ tables.caseExecutions, allowed row = true →
      Follows tables.now row (write row)) :
    Later tables (updateMany allowed write tables).1 := by
  refine later_map ?_
  intro row member
  split
  · rename_i here
    obtain ⟨id, plan⟩ := kept row member here
    exact ⟨id, plan⟩
  · exact Follows.refl _ row

end Rewrites

def HasAccount (tables : TaskTables) (id slotId account : String) : Prop :=
  ∃ row ∈ tables.caseExecutions, row.id = id ∧
    accountOf (currentBindings row) slotId = some account

def KeepsAccounts (assignments : List Assignment) (tables after : TaskTables) : Prop :=
  ∀ id slotId account, HasAccount tables id slotId account →
    (∀ assignment ∈ assignments, assignment.caseExecutionId = id → assignment.slotId ≠ slotId) →
    HasAccount after id slotId account

theorem KeepsAccounts.refl (assignments : List Assignment) (tables : TaskTables) :
    KeepsAccounts assignments tables tables :=
  fun _ _ _ has _ => has

theorem keepsAccounts_map {tables after : TaskTables}
    {write : TaskCaseExecution → TaskCaseExecution}
    (rows : after.caseExecutions = tables.caseExecutions.map write)
    (ids : ∀ row, (write row).id = row.id)
    (kept : ∀ row ∈ tables.caseExecutions, ∀ slotId account,
      accountOf (currentBindings row) slotId = some account →
      accountOf (currentBindings (write row)) slotId = some account) :
    KeepsAccounts [] tables after := by
  rintro id slotId account ⟨row, member, same, has⟩ -
  refine ⟨write row, ?_, (ids row).trans same, kept row member slotId account has⟩
  rw [rows]
  exact List.mem_map_of_mem member

theorem keepsAccounts_updateMany {tables : TaskTables} {allowed : TaskCaseExecution → Bool}
    {write : TaskCaseExecution → TaskCaseExecution} (ids : ∀ row, (write row).id = row.id)
    (kept : ∀ row ∈ tables.caseExecutions, allowed row = true → ∀ slotId account,
      accountOf (currentBindings row) slotId = some account →
      accountOf (currentBindings (write row)) slotId = some account) :
    KeepsAccounts [] tables (updateMany allowed write tables).1 := by
  refine keepsAccounts_map rfl ?_ ?_
  · intro row
    dsimp only
    split
    · exact ids row
    · rfl
  · intro row member slotId account has
    dsimp only
    split
    · exact kept row member ‹_› slotId account has
    · exact has

theorem accountOf_bind {slot : AssignedSlot} {account : String} {plan : TestAccountPlan}
    (slotId : String) :
    accountOf (bind slot account plan).bindings slotId =
      if slotId = slot.slotId then some account else accountOf plan.bindings slotId := by
  unfold accountOf bind
  rw [List.find?_append, List.find?_filter]
  split
  · rename_i same
    subst same
    have none : (plan.bindings.find? fun binding =>
        decide ((binding.slotId != slot.slotId) = true ∧
          (binding.slotId == slot.slotId) = true)) = none := by
      rw [List.find?_eq_none]
      intro binding _
      simp
    rw [none]
    simp
  · rename_i other
    have here : (fun binding : TestAccountBinding =>
        decide ((binding.slotId != slot.slotId) = true ∧ (binding.slotId == slotId) = true)) =
        fun binding => binding.slotId == slotId := by
      funext binding
      by_cases same : binding.slotId = slotId
      · simp [same, other]
      · simp [same]
    have last : (slot.slotId == slotId) = false := beq_false_of_ne (Ne.symm other)
    rw [here]
    simp [last]

theorem bind_distinct {slot : AssignedSlot} {account : String} {plan : TestAccountPlan}
    (distinct : (plan.bindings.map TestAccountBinding.slotId).Nodup) :
    ((bind slot account plan).bindings.map TestAccountBinding.slotId).Nodup := by
  unfold bind
  rw [List.map_append]
  refine List.nodup_append'.mpr ⟨?_, List.nodup_singleton _, ?_⟩
  · exact distinct.sublist (List.filter_sublist.map _)
  · intro slotId member last
    obtain ⟨binding, kept, rfl⟩ := List.mem_map.mp member
    have other := (List.mem_filter.mp kept).2
    simp only [List.map_cons, List.map_nil, List.mem_singleton] at last
    simp [last] at other

end TestAccounts

end Devproof
