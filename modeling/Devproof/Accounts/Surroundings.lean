import Devproof.Accounts.Rows

/-!
Preparation, expiry and everything else that happens to a task keep the
invariant and the accounts of all slots.
-/

namespace Devproof

namespace TestAccounts

structure Quiet (tables after : TaskTables) : Prop where
  lawful : Lawful after
  later : Later tables after
  kept : KeepsAccounts [] tables after
  events : after.events = tables.events

theorem quiet_refl {tables : TaskTables} (lawful : Lawful tables) : Quiet tables tables :=
  ⟨lawful, Later.refl tables, KeepsAccounts.refl [] tables, rfl⟩

/-- A rewrite of some rows is quiet when it keeps their identity and soundness, the plans that
    have expired and the accounts. -/
theorem quiet_updateMany {tables : TaskTables} {allowed : TaskCaseExecution → Bool}
    {write : TaskCaseExecution → TaskCaseExecution} (lawful : Lawful tables)
    (ids : ∀ row, (write row).id = row.id)
    (kept : ∀ row ∈ tables.caseExecutions, allowed row = true → Sound row → Sound (write row) ∧
      (∀ plan, row.testAccountPlan = some plan → (write row).testAccountPlan = some plan)) :
    Quiet tables (updateMany allowed write tables).1 := by
  refine ⟨lawful_updateMany lawful ids fun row member here sound => (kept row member here sound).1,
    later_updateMany ?_, keepsAccounts_updateMany ids ?_, rfl⟩
  · intro row member here
    exact ⟨ids row, fun plan stored _ =>
      (kept row member here (lawful.sound row member)).2 plan stored⟩
  · intro row member here slotId account has
    have sound := lawful.sound row member
    obtain ⟨sound', plans⟩ := kept row member here sound
    rw [sound.current] at has
    rw [sound'.current]
    cases stored : row.testAccountPlan with
    | none => simp [stored, accountOf] at has
    | some plan => rwa [plans plan stored, ← stored]

section Preparation

variable {host : Host} {definitions : Definitions}

theorem unassigned_bindings {definition : Json} {timeoutSeconds : Nat} {now : Int}
    {revision : String} {plan : TestAccountPlan}
    (made : unassignedTestAccountPlan host definitions definition timeoutSeconds now revision none =
      .ok plan) : plan.bindings = [] := by
  simp only [unassignedTestAccountPlan, Option.mapM_none, pure_bind] at made
  obtain ⟨requirements, -, made⟩ := bind_ok.mp made
  cases made
  rfl

theorem retainedBinding_slotId {plan : TestAccountPlan} {previousPlan : Option TestAccountPlan}
    {bindings : List TestAccountBinding} {slot : AccountSlot} {binding : TestAccountBinding}
    (retained : retainedBinding definitions plan previousPlan bindings slot = some binding) :
    binding.slotId = slot.slotId := by
  simp only [retainedBinding, Option.bind_eq_bind, Option.bind_eq_some_iff] at retained
  obtain ⟨previousPlan, -, oldRequirement, -, newRequirement, -, found⟩ := retained
  split at found
  · cases found
  · have matched := List.find?_some found
    simp only [Bool.and_eq_true, beq_iff_eq] at matched
    exact matched.1.1

theorem retainedBindings_distinct {plan : TestAccountPlan} {previousPlan : Option TestAccountPlan}
    {bindings : List TestAccountBinding} :
    ((retainedBindings definitions plan previousPlan bindings).map
      TestAccountBinding.slotId).Nodup := by
  refine (slotIds_distinct plan.requirements).sublist ?_
  unfold retainedBindings
  induction testAccountSlots plan.requirements.items with
  | nil => exact List.Sublist.refl _
  | cons slot rest ih =>
      rw [List.filterMap_cons]
      split
      · exact ih.cons _
      · rename_i binding retained
        rw [List.map_cons, List.map_cons, retainedBinding_slotId retained]
        exact ih.cons_cons _

theorem planAfter_distinct {row previous : TaskCaseExecution} {plan next : TestAccountPlan}
    (made : planAfter host definitions row previous plan = .ok next) :
    (next.bindings.map TestAccountBinding.slotId).Nodup := by
  unfold planAfter at made
  obtain ⟨previousPlan, -, made⟩ := bind_ok.mp made
  dsimp only at made
  split at made
  · obtain ⟨_, -, made⟩ := bind_ok.mp made
    obtain ⟨plan, -, made⟩ := bind_ok.mp made
    obtain ⟨bindings, -, made⟩ := bind_ok.mp made
    cases made
    exact retainedBindings_distinct
  · obtain ⟨plan, -, made⟩ := bind_ok.mp made
    obtain ⟨bindings, -, made⟩ := bind_ok.mp made
    cases made
    exact retainedBindings_distinct

@[simp] theorem prepared_id (hitl : HitlPolicy) (now : Int) (plan : TestAccountPlan)
    (row : TaskCaseExecution) : (prepared hitl now plan row).id = row.id := by
  unfold prepared
  split <;> rfl

theorem prepared_sound {hitl : HitlPolicy} {now : Int} {plan : TestAccountPlan}
    {row : TaskCaseExecution} (distinct : (plan.bindings.map TestAccountBinding.slotId).Nodup)
    (fresh : row.run = none) (empty : row.testAccountPlan = none) (sound : Sound row) :
    Sound (prepared hitl now plan row) := by
  unfold prepared
  split
  · refine ⟨?_, ?_, ?_⟩
    · rintro _ ⟨⟩
      exact distinct
    · intro policy run
      rw [fresh] at run
      cases run
    · intro failure
      obtain ⟨-, old, stored, -⟩ := sound.failure failure
      rw [empty] at stored
      cases stored
  · rename_i missing
    refine ⟨?_, ?_, ?_⟩
    · rintro _ ⟨⟩
      exact distinct
    · intro policy run
      rw [fresh] at run
      cases run
    · intro failure
      cases enabled : hitl.enabled with
      | true => simp [enabled, accountFailure] at failure
      | false => exact ⟨rfl, plan, rfl, fun none => missing (by rw [none]; rfl)⟩

theorem prepareRow_writes {row : TaskCaseExecution} {hitl : HitlPolicy} {now : Int}
    {plan : TestAccountPlan} {tables after : TaskTables}
    (written : prepareRow host definitions row hitl now plan tables = .ok (after, ())) :
    ∃ next : TestAccountPlan,
      (plan.bindings = [] → (next.bindings.map TestAccountBinding.slotId).Nodup) ∧
      after = (updateMany (fun other => other.id == row.id && other.run.isNone &&
        other.dispatchStatus == .pending && other.updatedAt == row.updatedAt &&
        other.testAccountPlan.isNone) (prepared hitl now next) tables).1 := by
  unfold prepareRow at written
  dsimp only at written
  split at written
  · obtain ⟨next, made, written⟩ := bind_ok.mp written
    cases written
    exact ⟨next, fun _ => planAfter_distinct made, rfl⟩
  · cases written
    refine ⟨plan, ?_, rfl⟩
    intro unassigned
    rw [unassigned]
    exact List.nodup_nil

theorem prepareRow_quiet {row : TaskCaseExecution} {hitl : HitlPolicy} {now : Int}
    {plan : TestAccountPlan} {tables after : TaskTables} (unassigned : plan.bindings = [])
    (lawful : Lawful tables)
    (written : prepareRow host definitions row hitl now plan tables = .ok (after, ())) :
    Quiet tables after := by
  obtain ⟨next, distinct, rfl⟩ := prepareRow_writes written
  refine quiet_updateMany lawful (prepared_id hitl now next) ?_
  intro other _ here sound
  simp only [Bool.and_eq_true, Option.isNone_iff_eq_none] at here
  obtain ⟨⟨⟨⟨-, fresh⟩, -⟩, -⟩, empty⟩ := here
  refine ⟨prepared_sound (distinct unassigned) fresh empty sound, ?_⟩
  intro plan stored
  rw [empty] at stored
  cases stored

theorem prepareRow_kept {row : TaskCaseExecution} {hitl : HitlPolicy} {now : Int}
    {plan : TestAccountPlan} {tables after : TaskTables}
    (written : prepareRow host definitions row hitl now plan tables = .ok (after, ())) :
    KeepsAccounts [] tables after ∧ after.events = tables.events := by
  obtain ⟨next, -, rfl⟩ := prepareRow_writes written
  refine ⟨keepsAccounts_updateMany (prepared_id hitl now next) ?_, rfl⟩
  intro other _ here slotId account has
  simp only [Bool.and_eq_true, Option.isNone_iff_eq_none] at here
  obtain ⟨⟨⟨⟨-, fresh⟩, -⟩, -⟩, empty⟩ := here
  simp [currentBindings, fresh, empty, accountOf] at has

end Preparation

theorem expireRow_quiet {read tables : TaskTables} {row : TaskCaseExecution}
    {plan : TestAccountPlan} {now : Int} (later : Later read tables) (lawful : Lawful tables)
    (member : row ∈ read.caseExecutions) (stored : row.testAccountPlan = some plan)
    (ended : expired plan now = true) (passed : now ≤ read.now)
    (missing : missingAccountSlots plan ≠ []) : Quiet tables (expireRow row now tables) := by
  refine quiet_updateMany lawful (fun _ => rfl) ?_
  intro other present here sound
  simp only [Bool.and_eq_true, beq_iff_eq] at here
  obtain ⟨next, found, follows⟩ := later.rows row member
  have same : next = other := lawful.same found present (follows.id.trans here.1.1.1.symm)
  have still : other.testAccountPlan = some plan :=
    same ▸ follows.plan plan stored (expired_later ended passed)
  refine ⟨⟨sound.bindings, sound.policy, fun _ => ⟨rfl, plan, still, missing⟩⟩, ?_⟩
  intro plan' stored'
  exact stored'

theorem newExecution_sound (row : TaskCaseExecution) (now : Int) : Sound (newExecution row now) := by
  refine ⟨?_, ?_, ?_⟩
  · intro plan stored
    obtain ⟨old, -, same⟩ := Option.map_eq_some_iff.mp stored
    rw [← same]
    exact List.nodup_nil
  · intro policy run
    cases run
  · intro failure
    simp [newExecution, accountFailure] at failure

/-- A sound row that is not given up for its accounts carries no such reason. -/
theorem Sound.blameless {row : TaskCaseExecution} (sound : Sound row)
    (running : failedForAccounts row = false) : accountFailure row.scheduling = false := by
  cases failure : accountFailure row.scheduling with
  | false => rfl
  | true => simp [failedForAccounts, (sound.failure failure).1, failure] at running

theorem changed_quiet (what : Change) {tables : TaskTables} (lawful : Lawful tables) :
    Quiet tables (changed what tables) := by
  cases what with
  | pass milliseconds =>
      refine ⟨⟨lawful.distinct, lawful.sound⟩, ⟨by simp [changed], ?_, List.prefix_refl _⟩,
        fun _ _ _ has _ => has, rfl⟩
      intro row member
      exact ⟨row, member, Follows.refl _ row⟩
  | task task deployments cases =>
      let move (row : TaskCaseExecution) : TaskCaseExecution :=
        { row with deployment := deployments row.id, testCase := cases row.id }
      have moved := @lawful_map tables move lawful (fun _ => rfl) fun row _ sound =>
        ⟨sound.bindings, sound.policy, sound.failure⟩
      refine ⟨⟨moved.distinct, moved.sound⟩, ⟨le_refl _, ?_, List.prefix_refl _⟩,
        keepsAccounts_map rfl (fun _ => rfl) fun _ _ _ _ has => has, rfl⟩
      intro row member
      exact ⟨_, List.mem_map_of_mem member, rfl, fun _ plan _ => plan⟩
  | execution row =>
      simp only [changed]
      split
      · exact quiet_refl lawful
      · rename_i fresh
        have new : ∀ other ∈ tables.caseExecutions, other.id ≠ row.id := by
          intro other member same
          exact fresh (List.any_eq_true.mpr ⟨other, member, by simp [same]⟩)
        refine ⟨⟨?_, ?_⟩, ⟨le_refl _, ?_, List.prefix_refl _⟩, ?_, rfl⟩
        · rw [List.map_append]
          refine List.nodup_append'.mpr ⟨lawful.distinct, List.nodup_singleton _, ?_⟩
          intro id member last
          obtain ⟨other, present, rfl⟩ := List.mem_map.mp member
          exact new other present (List.mem_singleton.mp last)
        · intro other member
          rcases List.mem_append.mp member with known | added
          · exact lawful.sound other known
          · rw [List.mem_singleton.mp added]
            exact newExecution_sound row tables.now
        · intro other member
          exact ⟨other, List.mem_append_left _ member, Follows.refl _ other⟩
        · rintro id slotId account ⟨other, member, same, has⟩ -
          exact ⟨other, List.mem_append_left _ member, same, has⟩
  | dispatch id =>
      refine quiet_updateMany lawful (fun _ => rfl) ?_
      intro row _ here sound
      simp only [Bool.and_eq_true, Bool.not_eq_true'] at here
      have blameless := sound.blameless here.2
      refine ⟨⟨sound.bindings, ?_, ?_⟩, fun _ stored => stored⟩
      · rintro _ ⟨⟩
        rfl
      · intro failure
        rw [linked, blameless] at failure
        cases failure
  | schedule id dispatchStatus dispatchAttempts scheduling =>
      refine quiet_updateMany lawful (fun _ => rfl) ?_
      intro row _ here sound
      simp only [Bool.and_eq_true, Bool.not_eq_true'] at here
      refine ⟨⟨sound.bindings, sound.policy, ?_⟩, fun _ stored => stored⟩
      intro failure
      rw [here.2] at failure
      cases failure

end TestAccounts

end Devproof
