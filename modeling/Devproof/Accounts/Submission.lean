import Mathlib.Data.List.ReduceOption
import Devproof.Accounts.Surroundings

/-!
One submission of the assignment form: what it assigns, and what it leaves as
it is.
-/

namespace Devproof

namespace TestAccounts

section Submission

variable {host : Host} {definitions : Definitions} {tables : TaskTables}

structure Shows (row : TaskCaseExecution) (shown : PreparedCase) : Prop where
  id : shown.caseExecutionId = row.id
  slots : ∀ slot ∈ shown.slots, slot.account = accountOf (currentBindings row) slot.slotId

theorem readAccountPlan_ok {plan read : TestAccountPlan}
    (parsed : readAccountPlan host plan = .ok read) : read = plan := by
  unfold readAccountPlan at parsed
  split at parsed
  · exact (Except.ok.inj parsed).symm
  · cases parsed

theorem parseBindings_ok {bindings read : List TestAccountBinding}
    (parsed : parseBindings host bindings = .ok read) : read = bindings := by
  unfold parseBindings at parsed
  split at parsed
  · exact (Except.ok.inj parsed).symm
  · cases parsed

theorem preparedCase_shows {row : TaskCaseExecution} {shown : PreparedCase}
    (made : preparedCase host definitions row = .ok (some shown)) : Shows row shown := by
  unfold preparedCase at made
  split at made
  · cases made
  · rename_i plan stored
    obtain ⟨read, parsed, prepared⟩ := bind_ok.mp made
    rw [readAccountPlan_ok parsed] at prepared
    obtain ⟨_, -, prepared⟩ := bind_ok.mp prepared
    dsimp only at prepared
    split at prepared
    · rename_i unread
      cases prepared
      refine ⟨rfl, ?_⟩
      intro slot member
      obtain ⟨_, -, rfl⟩ := List.mem_map.mp member
      simp [currentBindings, unread, stored]
    · rename_i testAccounts started
      obtain ⟨bindings, parsed, prepared⟩ := bind_ok.mp prepared
      cases prepared
      refine ⟨rfl, ?_⟩
      intro slot member
      obtain ⟨_, -, rfl⟩ := List.mem_map.mp member
      simp [currentBindings, started, parseBindings_ok parsed]

theorem taskAccountPreparation_shows {snapshotId : Option String}
    {rows : List TaskCaseExecution} {preparation : TaskAccountPreparation}
    (made : taskAccountPreparation host definitions rows snapshotId = .ok preparation)
    {shown : PreparedCase} (member : shown ∈ preparation.cases) :
    ∃ row ∈ rows, Shows row shown := by
  unfold taskAccountPreparation at made
  obtain ⟨found, each, made⟩ := bind_ok.mp made
  cases made
  obtain ⟨row, latest, prepared⟩ := mapM_ok_mem each (List.reduceOption_mem_iff.mp member)
  refine ⟨row, ?_, preparedCase_shows prepared⟩
  exact List.mem_of_mem_filter (List.mem_of_mem_filter latest)

/-! The plans that a submission drafts. -/

def planned (plans : List (String × TestAccountPlan)) (row : TaskCaseExecution) :
    List TestAccountBinding :=
  match plans.lookup row.id with
  | some plan => plan.bindings
  | none => currentBindings row

structure DraftOf (tables : TaskTables) (plan : TestAccountPlan) (row : TaskCaseExecution) :
    Prop where
  fresh : row.run = none
  pending : row.dispatchStatus = .pending
  distinct : (plan.bindings.map TestAccountBinding.slotId).Nodup
  open' : ∃ old, row.testAccountPlan = some old ∧ expired old tables.now = false ∧
    plan.expiresAt = old.expiresAt

structure Drafted (tables : TaskTables) (plans : List (String × TestAccountPlan)) : Prop where
  keys : (plans.map Prod.fst).Nodup
  rows : ∀ id plan, plans.lookup id = some plan →
    ∃ row ∈ tables.caseExecutions, row.id = id ∧ DraftOf tables plan row

def Assigns (assignments : List Assignment) (id slotId : String) : Prop :=
  ∃ assignment ∈ assignments, assignment.caseExecutionId = id ∧ assignment.slotId = slotId

structure Passed (tables : TaskTables) (made : List Assignment) (updates : Updates) : Prop where
  drafted : Drafted tables updates.plans
  seen : ∀ assignment ∈ made, assignmentKey assignment ∈ updates.seen
  kept : ∀ row ∈ tables.caseExecutions, ∀ slotId, ¬Assigns made row.id slotId →
    accountOf (planned updates.plans row) slotId = accountOf (currentBindings row) slotId
  given : ∀ assignment ∈ made, ∃ row ∈ tables.caseExecutions,
    row.id = assignment.caseExecutionId ∧
      accountOf (planned updates.plans row) assignment.slotId = some assignment.account

theorem passed_nothing : Passed tables [] { plans := [], seen := [] } := by
  refine ⟨⟨List.nodup_nil, ?_⟩, ?_, ?_, ?_⟩
  · intro id plan found
    cases found
  · intro assignment member
    cases member
  · intro row _ slotId _
    rfl
  · intro assignment member
    cases member

theorem assigns_append {made : List Assignment} {assignment : Assignment} {id slotId : String} :
    Assigns (made ++ [assignment]) id slotId ↔ Assigns made id slotId ∨
      (assignment.caseExecutionId = id ∧ assignment.slotId = slotId) := by
  simp [Assigns, or_and_right, exists_or]

theorem unseen_unassigned {made : List Assignment} {updates : Updates} {assignment : Assignment}
    (passed : Passed tables made updates)
    (unseen : updates.seen.contains (assignmentKey assignment) = false) :
    ¬Assigns made assignment.caseExecutionId assignment.slotId := by
  rintro ⟨other, member, case, slot⟩
  have key : assignmentKey other = assignmentKey assignment := by
    rw [assignmentKey, assignmentKey, case, slot]
  have seen := passed.seen other member
  rw [key] at seen
  simp [seen] at unseen

/-- The slot has the account already. -/
theorem passed_same {made : List Assignment} {updates : Updates} {assignment : Assignment}
    (passed : Passed tables made updates) {row : TaskCaseExecution}
    (member : row ∈ tables.caseExecutions) (id : row.id = assignment.caseExecutionId)
    (unassigned : ¬Assigns made assignment.caseExecutionId assignment.slotId)
    (has : accountOf (currentBindings row) assignment.slotId = some assignment.account) :
    Passed tables (made ++ [assignment])
      { updates with seen := updates.seen ++ [assignmentKey assignment] } := by
  refine ⟨passed.drafted, ?_, ?_, ?_⟩
  · intro other here
    rcases List.mem_append.mp here with known | added
    · exact List.mem_append_left _ (passed.seen other known)
    · rw [List.mem_singleton.mp added]
      exact List.mem_append_right _ (List.mem_singleton_self _)
  · intro other here slotId without
    exact passed.kept other here slotId fun before => without (assigns_append.mpr (.inl before))
  · intro other here
    rcases List.mem_append.mp here with known | added
    · exact passed.given other known
    · rw [List.mem_singleton.mp added]
      refine ⟨row, member, id, ?_⟩
      rw [← has, ← id] at *
      exact passed.kept row member _ unassigned

theorem passed_bind {made : List Assignment} {updates : Updates} {assignment : Assignment}
    (lawful : Lawful tables) (passed : Passed tables made updates) {row : TaskCaseExecution}
    (member : row ∈ tables.caseExecutions) (id : row.id = assignment.caseExecutionId)
    {slot : AssignedSlot} (shown : slot.slotId = assignment.slotId) {plan : TestAccountPlan}
    (draft : DraftOf tables plan row) (current : plan.bindings = planned updates.plans row)
    (unassigned : ¬Assigns made assignment.caseExecutionId assignment.slotId) :
    Passed tables (made ++ [assignment])
      { plans := setEntry row.id (bind slot assignment.account plan) updates.plans
        seen := updates.seen ++ [assignmentKey assignment] } := by
  have after : ∀ other ∈ tables.caseExecutions, ∀ slotId,
      accountOf (planned (setEntry row.id (bind slot assignment.account plan) updates.plans)
        other) slotId =
      if other.id = row.id ∧ slotId = slot.slotId then some assignment.account
      else accountOf (planned updates.plans other) slotId := by
    intro other here slotId
    unfold planned
    rw [lookup_setEntry]
    by_cases same : other.id = row.id
    · rw [lawful.same here member same]
      simp only [if_true, true_and]
      rw [accountOf_bind, current]
      rfl
    · simp [same]
  refine ⟨⟨keys_setEntry passed.drafted.keys _ _, ?_⟩, ?_, ?_, ?_⟩
  · intro other next found
    rw [lookup_setEntry] at found
    split at found
    · rename_i same
      obtain rfl := Option.some.inj found
      exact ⟨row, member, same.symm, draft.fresh, draft.pending, bind_distinct draft.distinct,
        draft.open'⟩
    · exact passed.drafted.rows other next found
  · intro other here
    rcases List.mem_append.mp here with known | added
    · exact List.mem_append_left _ (passed.seen other known)
    · rw [List.mem_singleton.mp added]
      exact List.mem_append_right _ (List.mem_singleton_self _)
  · intro other here slotId without
    rw [after other here, if_neg, passed.kept other here slotId fun before =>
      without (assigns_append.mpr (.inl before))]
    rintro ⟨same, rfl⟩
    exact without (assigns_append.mpr (.inr ⟨by rw [← id, same], shown.symm⟩))
  · intro other here
    rcases List.mem_append.mp here with known | added
    · obtain ⟨owner, present, owns, has⟩ := passed.given other known
      refine ⟨owner, present, owns, ?_⟩
      rw [after owner present, if_neg, has]
      rintro ⟨same, slots⟩
      exact unassigned ⟨other, known, by rw [← owns, same, id], slots.trans shown⟩
    · rw [List.mem_singleton.mp added]
      exact ⟨row, member, id, by rw [after row member, if_pos ⟨rfl, shown.symm⟩]⟩

theorem assign_passed {made : List Assignment} {updates next : Updates} {assignment : Assignment}
    {cases : List PreparedCase} (lawful : Lawful tables)
    (shows : ∀ shown ∈ cases, ∃ row ∈ tables.caseExecutions, Shows row shown)
    (passed : Passed tables made updates)
    (ran : assign host tables cases updates assignment = .ok next) :
    Passed tables (made ++ [assignment]) next := by
  unfold assign at ran
  obtain ⟨_, unseen, ran⟩ := bind_ok.mp ran
  have unassigned := unseen_unassigned passed (throwIf_ok.mp unseen)
  dsimp only at ran
  split at ran
  · rename_i current row foundCase foundRow
    have member := List.mem_of_find?_eq_some foundRow
    have id : row.id = assignment.caseExecutionId := by simpa using List.find?_some foundRow
    have case : current.caseExecutionId = assignment.caseExecutionId := by
      simpa using List.find?_some foundCase
    obtain ⟨other, present, shown⟩ := shows current (List.mem_of_find?_eq_some foundCase)
    have same : other = row :=
      lawful.same present member (by rw [← shown.id, case, id])
    rw [same] at shown
    split at ran
    · simp at ran
    · rename_i slot foundSlot
      have slotId : slot.slotId = assignment.slotId := by simpa using List.find?_some foundSlot
      have account := shown.slots slot (List.mem_of_find?_eq_some foundSlot)
      rw [slotId] at account
      split at ran
      · rename_i equal
        cases ran
        have has : slot.account = some assignment.account := by simpa using equal
        exact passed_same passed member id unassigned (account.symm.trans has)
      · obtain ⟨_, waiting, ran⟩ := bind_ok.mp ran
        have idle := throwIf_ok.mp waiting
        simp only [Bool.or_eq_false_iff, Option.isSome_eq_false_iff, Option.isNone_iff_eq_none,
          bne_eq_false_iff_eq] at idle
        obtain ⟨fresh, pending⟩ := idle
        have sound := lawful.sound row member
        split at ran
        · rename_i plan drafted
          rw [pure_bind] at ran
          obtain ⟨_, -, bound⟩ := bind_ok.mp ran
          cases bound
          obtain ⟨owner, owned, owns, draft⟩ := passed.drafted.rows _ _ drafted
          rw [lawful.same owned member owns] at draft
          refine passed_bind lawful passed member id slotId draft ?_ unassigned
          simp [planned, drafted]
        · rename_i plan undrafted stored
          obtain ⟨read, parsed, bound⟩ := bind_ok.mp ran
          rw [readAccountPlan_ok parsed] at bound
          obtain ⟨_, current, bound⟩ := bind_ok.mp bound
          cases bound
          have draft : DraftOf tables plan row :=
            ⟨fresh, pending, sound.bindings plan stored, plan, stored, throwIf_ok.mp current, rfl⟩
          refine passed_bind lawful passed member id slotId draft ?_ unassigned
          simp [planned, undrafted, currentBindings, fresh, stored]
        · obtain ⟨_, none, _⟩ := bind_ok.mp ran
          cases none
  · simp at ran

def written (plans : List (String × TestAccountPlan)) (now : Int) (row : TaskCaseExecution) :
    TaskCaseExecution :=
  match plans.lookup row.id with
  | some plan => { assigned plan now row with updatedAt := now }
  | none => row

@[simp] theorem written_id (plans : List (String × TestAccountPlan)) (now : Int)
    (row : TaskCaseExecution) : (written plans now row).id = row.id := by
  unfold written
  split <;> rfl

theorem lookup_absent {plans : List (String × TestAccountPlan)} {id : String}
    (absent : id ∉ plans.map Prod.fst) : plans.lookup id = none := by
  refine List.lookup_eq_none_iff.mpr ?_
  intro entry member
  simp only [bne_iff_ne, ne_eq]
  rintro rfl
  exact absent (List.mem_map_of_mem member)

theorem writePlan_written {plans before after : List (String × TestAccountPlan)} {id : String}
    {plan : TestAccountPlan} {next : TaskTables} (lawful : Lawful tables)
    (drafted : Drafted tables plans) (split : plans = before ++ (id, plan) :: after)
    (ran : writePlan tables
      { tables with caseExecutions := tables.caseExecutions.map (written before tables.now) }
      (id, plan) = .ok next) :
    next = { tables with
      caseExecutions := tables.caseExecutions.map (written (before ++ [(id, plan)]) tables.now) } := by
  have keys := drafted.keys
  rw [split, List.map_append, List.map_cons] at keys
  have absent : before.lookup id = none :=
    lookup_absent fun member => (List.nodup_append.mp keys).2.2 id member id
      (List.mem_cons_self ..) rfl
  have found : plans.lookup id = some plan := by
    rw [split, List.lookup_append, absent]
    simp
  obtain ⟨row, member, rowId, draft⟩ := drafted.rows id plan found
  unfold writePlan at ran
  dsimp only at ran
  rw [← rowId, lawful.find member] at ran
  obtain ⟨_, -, wrote⟩ := bind_ok.mp ran
  cases wrote
  simp only [updateMany, List.map_map, TaskTables.mk.injEq, true_and, and_true]
  apply List.map_congr_left
  intro other present
  by_cases same : other.id = row.id
  · obtain rfl := lawful.same present member same
    have first : written before tables.now other = other := by
      rw [written, rowId, absent]
    simp only [Function.comp_apply, first]
    simp [written, rowId, List.lookup_append, absent, draft.fresh, draft.pending]
  · have last : (before ++ [(id, plan)]).lookup other.id = before.lookup other.id := by
      rw [List.lookup_append, lookup_entry, ← rowId, if_neg same]
      simp
    have kept : written (before ++ [(id, plan)]) tables.now other =
        written before tables.now other := by
      rw [written, last, written]
    simp [kept, same]

theorem plans_written {plans : List (String × TestAccountPlan)} {after : TaskTables}
    (lawful : Lawful tables) (drafted : Drafted tables plans)
    (ran : plans.foldlM (writePlan tables) tables = .ok after) :
    after = { tables with
      caseExecutions := tables.caseExecutions.map (written plans tables.now) } := by
  refine foldlM_history (fun made reached => reached = { tables with
    caseExecutions := tables.caseExecutions.map (written made tables.now) }) ?_ ?_ ran
  · have same : tables.caseExecutions.map (written [] tables.now) = tables.caseExecutions := by
      refine (List.map_congr_left fun row _ => ?_).trans (List.map_id _)
      rfl
    rw [same]
  · rintro before ⟨id, plan⟩ rest state next split rfl stepped
    exact writePlan_written lawful drafted split stepped

structure Accepted (input : TaskTestAccountsInput) (tables after : TaskTables) : Prop where
  lawful : Lawful after
  later : Later tables after
  fresh : ∀ event ∈ tables.events, event.submissionId ≠ input.submissionId
  recorded : ∃ event, after.events = tables.events ++ [event] ∧
    event.submissionId = input.submissionId
  given : ∀ assignment ∈ input.assignments,
    HasAccount after assignment.caseExecutionId assignment.slotId assignment.account
  kept : ∀ id slotId account, HasAccount tables id slotId account →
    ¬Assigns input.assignments id slotId → HasAccount after id slotId account

theorem written_sound {plans : List (String × TestAccountPlan)} (lawful : Lawful tables)
    (drafted : Drafted tables plans) {row : TaskCaseExecution}
    (member : row ∈ tables.caseExecutions) (sound : Sound row) :
    Sound (written plans tables.now row) := by
  unfold written
  split
  · rename_i plan found
    obtain ⟨owner, owned, owns, draft⟩ := drafted.rows _ _ found
    rw [lawful.same owned member owns] at draft
    refine ⟨?_, ?_, ?_⟩
    · rintro _ ⟨⟩
      exact draft.distinct
    · intro policy run
      rw [assigned, draft.fresh] at run
      cases run
    · intro failure
      simp only [assigned, accountFailure] at failure
      split at failure <;> simp at failure
  · exact sound

theorem written_follows {plans : List (String × TestAccountPlan)} (lawful : Lawful tables)
    (drafted : Drafted tables plans) {row : TaskCaseExecution}
    (member : row ∈ tables.caseExecutions) :
    Follows tables.now row (written plans tables.now row) := by
  refine ⟨written_id .., ?_⟩
  intro plan stored ended
  unfold written
  split
  · rename_i next found
    obtain ⟨owner, owned, owns, draft⟩ := drafted.rows _ _ found
    rw [lawful.same owned member owns] at draft
    obtain ⟨old, before, unexpired, -⟩ := draft.open'
    rw [stored] at before
    cases before
    rw [unexpired] at ended
    cases ended
  · exact stored

theorem currentBindings_written {plans : List (String × TestAccountPlan)} (lawful : Lawful tables)
    (drafted : Drafted tables plans) {row : TaskCaseExecution}
    (member : row ∈ tables.caseExecutions) :
    currentBindings (written plans tables.now row) = planned plans row := by
  unfold written planned
  split
  · rename_i plan found
    obtain ⟨owner, owned, owns, draft⟩ := drafted.rows _ _ found
    rw [lawful.same owned member owns] at draft
    simp [currentBindings, assigned, draft.fresh]
  · rfl

theorem submit_accepted {input : TaskTestAccountsInput} {after : TaskTables}
    (lawful : Lawful tables)
    (fresh : ∀ event ∈ tables.events, event.submissionId ≠ input.submissionId)
    (ran : submit host definitions input tables = .ok (after, ())) :
    Accepted input tables after := by
  unfold submit at ran
  obtain ⟨_, -, ran⟩ := bind_ok.mp ran
  obtain ⟨preparation, prepares, ran⟩ := bind_ok.mp ran
  obtain ⟨_, -, ran⟩ := bind_ok.mp ran
  obtain ⟨updates, assigns, ran⟩ := bind_ok.mp ran
  obtain ⟨wrote, writes, ran⟩ := bind_ok.mp ran
  have passed : Passed tables input.assignments updates :=
    foldlM_history (Passed tables) passed_nothing
      (fun _ _ _ _ _ _ passed stepped => assign_passed lawful
        (fun _ member => taskAccountPreparation_shows prepares member) passed stepped) assigns
  have drafted := passed.drafted
  rw [plans_written lawful drafted writes] at ran
  cases ran
  have moved := lawful_map lawful (written_id updates.plans tables.now)
    fun row member sound => written_sound lawful drafted member sound
  refine ⟨⟨moved.distinct, moved.sound⟩, ⟨le_refl _, ?_, List.prefix_append _ _⟩, fresh,
    ⟨_, rfl, rfl⟩, ?_, ?_⟩
  · intro row member
    exact ⟨_, List.mem_map_of_mem member, written_follows lawful drafted member⟩
  · intro assignment member
    obtain ⟨row, present, id, has⟩ := passed.given assignment member
    refine ⟨_, List.mem_map_of_mem present, (written_id ..).trans id, ?_⟩
    rw [currentBindings_written lawful drafted present, has]
  · rintro id slotId account ⟨row, member, rfl, has⟩ without
    refine ⟨_, List.mem_map_of_mem member, written_id .., ?_⟩
    rw [currentBindings_written lawful drafted member, passed.kept row member slotId without, has]

theorem provide_cases {teamId taskId : String} {input : TaskTestAccountsInput}
    {after : TaskTables} (lawful : Lawful tables)
    (ran : provide host definitions teamId taskId input tables = .ok (after, ())) :
    Accepted input tables after ∨
      (after = tables ∧ ∃ event ∈ tables.events, event.submissionId = input.submissionId) := by
  unfold provide at ran
  obtain ⟨_, -, ran⟩ := bind_ok.mp ran
  split at ran
  · rename_i duplicate found
    obtain ⟨_, -, ran⟩ := bind_ok.mp ran
    cases ran
    exact .inr ⟨rfl, duplicate, List.mem_of_find?_eq_some found, by simpa using List.find?_some found⟩
  · rename_i none
    left
    refine submit_accepted lawful ?_ ran
    intro event member
    simpa using List.find?_eq_none.mp none event member

end Submission

end TestAccounts

end Devproof
