import Devproof.Accounts.Submission

/-!
Runs of the three writers: what an accepted submission assigns, stays.
-/

namespace Devproof

namespace TestAccounts

section Runs

variable {host : Host} {definitions : Definitions}

/-! The writers obey the rules of the tables. -/

theorem prepareRows_obeys {hitl : HitlPolicy} {revision : String → String}
    (rows : List TaskCaseExecution) (tables : TaskTables) :
    (prepareRows host definitions hitl revision rows).Obeys Lawful Later (fun _ _ => True)
      tables := by
  induction rows generalizing tables with
  | nil => trivial
  | cons row rest ih =>
      refine Program.obeys_read Later.refl fun read _ _ => ?_
      refine Program.obeys_check (fun plan made => ?_) fun _ _ => trivial
      refine Program.obeys_commit Later.refl (fun now after _ _ lawful written => ?_)
        fun _ _ _ _ _ => trivial
      have quiet := prepareRow_quiet (unassigned_bindings made) lawful written
      exact ⟨quiet.lawful, quiet.later, ih after⟩

theorem expireRows_obeys {read : TaskTables} {now : Int} (passed : now ≤ read.now)
    {rows : List TaskCaseExecution} (members : ∀ row ∈ rows, row ∈ read.caseExecutions)
    {tables : TaskTables} (later : Later read tables) :
    (expireRows host now rows).Obeys Lawful Later (fun _ _ => True) tables := by
  induction rows generalizing tables with
  | nil => trivial
  | cons row rest ih =>
      have members' : ∀ other ∈ rest, other ∈ read.caseExecutions :=
        fun other member => members other (List.mem_cons_of_mem _ member)
      unfold expireRows
      split
      · exact ih members' later
      · rename_i plan stored
        refine Program.obeys_check (fun parsed reads => ?_) fun _ _ => trivial
        rw [readAccountPlan_ok reads]
        split
        · rename_i due
          simp only [Bool.and_eq_true, Bool.not_eq_true', List.isEmpty_eq_false_iff] at due
          refine Program.obeys_commit Later.refl (fun here after _ onward lawful written => ?_)
            fun _ _ _ _ _ => trivial
          cases written
          have since := later.trans onward
          have quiet := expireRow_quiet since lawful (members row (List.mem_cons_self ..)) stored
            due.1 passed due.2
          exact ⟨quiet.lawful, quiet.later, ih members' (since.trans quiet.later)⟩
        · exact ih members' later

theorem provide_obeys {teamId taskId : String} {input : TaskTestAccountsInput}
    (tables : TaskTables) :
    (provideTaskTestAccounts host definitions teamId taskId input).Obeys Lawful Later
      (fun _ _ => True) tables := by
  refine Program.obeys_transaction Later.refl (fun now after _ _ lawful ran => ?_)
    fun _ _ _ _ _ => trivial
  rcases provide_cases lawful ran with accepted | ⟨same, -⟩
  · exact ⟨accepted.lawful, accepted.later, trivial⟩
  · rw [same]
    exact ⟨lawful, Later.refl now, trivial⟩

theorem serve_obeys (call : Call) (tables : TaskTables) :
    (serve host definitions call).Obeys Lawful Later (fun _ _ => True) tables := by
  cases call with
  | prepare revision =>
      simp only [serve, prepareTestAccountPlans]
      exact Program.obeys_read Later.refl fun now _ _ => prepareRows_obeys _ now
  | provide teamId taskId input => exact provide_obeys tables
  | expire =>
      refine Program.obeys_read Later.refl fun first _ _ => ?_
      refine Program.obeys_read Later.refl fun second onward _ => ?_
      refine expireRows_obeys onward.clock ?_ (Later.refl second)
      intro row member
      exact List.mem_of_mem_filter (List.mem_of_mem_take member)

theorem rules : System.Rules (serve host definitions) changed (fun _ => True) Lawful Later
    fun _ _ _ => True where
  refl := Later.refl
  transitive := Later.trans
  stable _ _ _ := trivial
  starts call _ := serve_obeys call
  changes what _ lawful := ⟨(changed_quiet what lawful).lawful, (changed_quiet what lawful).later⟩

/-! What one step of a call does to the accounts. -/

/-- A submission is accepted as a whole or changes nothing; the other calls keep all accounts. -/
def Behaves (call : Call) (tables after : TaskTables)
    (rest : Program TaskTables (Except Failure Unit)) : Prop :=
  Lawful tables →
    match call with
    | .provide _ _ input =>
        (rest = .answer (.ok ()) ∧ Accepted input tables after) ∨
          (after = tables ∧ (rest = .answer (.ok ()) →
            ∃ event ∈ tables.events, event.submissionId = input.submissionId))
    | _ => KeepsAccounts [] tables after ∧ after.events = tables.events

theorem kept_refl (tables : TaskTables) :
    KeepsAccounts [] tables tables ∧ tables.events = tables.events :=
  ⟨KeepsAccounts.refl [] tables, rfl⟩

theorem prepareRows_behaves {hitl : HitlPolicy} {revision : String → String}
    (rows : List TaskCaseExecution) :
    (prepareRows host definitions hitl revision rows).Every (Behaves (.prepare revision)) := by
  induction rows with
  | nil => trivial
  | cons row rest ih =>
      refine Program.every_read (fun tables _ => kept_refl tables) fun read => ?_
      refine Program.every_check fun plan => ?_
      exact Program.every_commit (fun _ _ _ written _ => prepareRow_kept written)
        (fun tables _ _ _ => kept_refl tables) fun _ _ _ _ => ih

theorem expireRows_behaves {now : Int} (rows : List TaskCaseExecution) :
    (expireRows host now rows).Every (Behaves .expire) := by
  induction rows with
  | nil => trivial
  | cons row rest ih =>
      unfold expireRows
      split
      · exact ih
      · refine Program.every_check fun plan => ?_
        split
        · refine Program.every_commit (fun tables after _ written _ => ?_)
            (fun tables _ _ _ => kept_refl tables) fun _ _ _ _ => ih
          cases written
          exact ⟨keepsAccounts_updateMany (fun _ => rfl) fun _ _ _ _ _ has => has, rfl⟩
        · exact ih

theorem serve_behaves (call : Call) : (serve host definitions call).Every (Behaves call) := by
  cases call with
  | prepare revision =>
      simp only [serve, prepareTestAccountPlans]
      exact Program.every_read (fun tables _ => kept_refl tables) fun _ => prepareRows_behaves _
  | expire =>
      simp only [serve, expireTestAccountPlans]
      refine Program.every_read (fun tables _ => kept_refl tables) fun _ => ?_
      exact Program.every_read (fun tables _ => kept_refl tables) fun _ => expireRows_behaves _
  | provide teamId taskId input =>
      refine Program.every_commit (fun tables after _ ran lawful => ?_)
        (fun tables _ _ _ => .inr ⟨rfl, fun refused => by cases refused⟩) fun _ _ _ _ => trivial
      rcases provide_cases lawful ran with accepted | ⟨same, known⟩
      · exact .inl ⟨rfl, accepted⟩
      · exact .inr ⟨same, fun _ => known⟩

variable (host definitions) in
def steps : SystemMove Call Change → System TaskTables Call (Except Failure Unit) →
    Outcome (System TaskTables Call (Except Failure Unit)) Empty :=
  System.step (serve host definitions) changed

def opened (task : TaskExecution) (now : Int) : System TaskTables Call (Except Failure Unit) :=
  { shared := freshTask task now, running := [] }

variable (host definitions) in
/-- The next step of the call at this place returns from a submission that is not a repetition. -/
def Accepts (system : System TaskTables Call (Except Failure Unit)) (place : Nat)
    (input : TaskTestAccountsInput) : Prop :=
  (∃ teamId taskId update next,
    system.running[place]? =
        some { call := .provide teamId taskId input, program := .step update next } ∧
      (steps host definitions (.tick place) system).state.Answered place
        (.provide teamId taskId input) (.ok ())) ∧
    ∀ event ∈ system.shared.events, event.submissionId ≠ input.submissionId

structure Reliable (system : System TaskTables Call (Except Failure Unit)) : Prop where
  orderly : system.Orderly Lawful Later fun _ _ _ => True
  careful : system.Careful Behaves

theorem reliable_run {system : System TaskTables Call (Except Failure Unit)}
    (reliable : Reliable system) (moves : List (SystemMove Call Change)) :
    Reliable (arrival (steps host definitions) moves system) ∧
      Later system.shared (arrival (steps host definitions) moves system).shared := by
  obtain ⟨orderly, later⟩ := System.orderly_run rules reliable.orderly fun _ _ => trivial
  exact ⟨⟨orderly, System.careful_run serve_behaves reliable.careful moves⟩, later⟩

theorem opened_reliable (task : TaskExecution) (now : Int) : Reliable (opened task now) := by
  refine ⟨⟨⟨List.nodup_nil, ?_⟩, ?_⟩, ?_⟩
  · intro row member
    cases member
  · intro running member
    cases member
  · intro running member
    cases member

/-- A step of a submission that is accepted. -/
theorem accepts_accepted {system : System TaskTables Call (Except Failure Unit)}
    (reliable : Reliable system) {place : Nat} {input : TaskTestAccountsInput}
    (accepts : Accepts host definitions system place input) :
    Accepted input system.shared (steps host definitions (.tick place) system).state.shared := by
  obtain ⟨⟨teamId, taskId, update, next, here, answered⟩, fresh⟩ := accepts
  rcases System.tick_careful reliable.careful here with same | ⟨left, there, behaves⟩
  · unfold System.Answered steps at answered
    rw [same, here] at answered
    cases answered
  · have answers : left = .answer (.ok ()) := by
      unfold System.Answered steps at answered
      rw [there] at answered
      exact congrArg Running.program (Option.some.inj answered)
    rcases behaves reliable.orderly.shared with ⟨-, accepted⟩ | ⟨-, known⟩
    · exact accepted
    · obtain ⟨event, member, same⟩ := known answers
      exact absurd same (fresh event member)

theorem step_accounts {system : System TaskTables Call (Except Failure Unit)}
    (reliable : Reliable system) (move : SystemMove Call Change) :
    (KeepsAccounts [] system.shared (steps host definitions move system).state.shared ∧
      (steps host definitions move system).state.shared.events = system.shared.events) ∨
    ∃ place input, move = .tick place ∧ Accepts host definitions system place input := by
  cases move with
  | start call => exact .inl (kept_refl system.shared)
  | change what =>
      have quiet := changed_quiet what reliable.orderly.shared
      exact .inl ⟨quiet.kept, quiet.events⟩
  | tick place =>
      cases here : system.running[place]? with
      | none => exact .inl (by simpa [steps, System.step, here] using kept_refl system.shared)
      | some running =>
          obtain ⟨call, program⟩ := running
          rcases System.tick_careful reliable.careful here with same | ⟨left, there, behaves⟩
          · left
            unfold steps
            rw [same]
            exact kept_refl system.shared
          · have behaves := behaves reliable.orderly.shared
            cases call with
            | prepare revision => exact .inl behaves
            | expire => exact .inl behaves
            | provide teamId taskId input =>
                rcases behaves with ⟨answers, accepted⟩ | ⟨same, -⟩
                · cases program with
                  | answer result =>
                      left
                      simpa [steps, System.step, here, System.advance] using
                        kept_refl system.shared
                  | step update next =>
                      right
                      rw [answers] at there
                      exact ⟨place, input, rfl, ⟨teamId, taskId, update, next, here, there⟩,
                        accepted.fresh⟩
                · left
                  unfold steps
                  rw [same]
                  exact kept_refl system.shared

theorem account_kept {system : System TaskTables Call (Except Failure Unit)}
    (reliable : Reliable system) {id slotId account : String}
    (has : HasAccount system.shared id slotId account)
    {moves : List (SystemMove Call Change)}
    (without : ∀ before place after input, moves = before ++ .tick place :: after →
      Accepts host definitions (arrival (steps host definitions) before system) place input →
      ¬Assigns input.assignments id slotId) :
    HasAccount (arrival (steps host definitions) moves system).shared id slotId account := by
  induction moves generalizing system with
  | nil => exact has
  | cons move rest ih =>
      have onward : Reliable (steps host definitions move system).state :=
        (reliable_run reliable [move]).1
      refine ih onward ?_ ?_
      · rcases step_accounts reliable move with ⟨kept, -⟩ | ⟨place, input, rfl, accepts⟩
        · exact kept id slotId account has fun _ member => by cases member
        · exact (accepts_accepted reliable accepts).kept id slotId account has
            (without [] place rest input rfl accepts)
      · intro before place after input split accepts
        exact without (move :: before) place after input (by rw [split]; rfl) accepts

/-- A call that repeats a recorded submission changes nothing. -/
theorem repeated_unchanged {system : System TaskTables Call (Except Failure Unit)}
    (reliable : Reliable system) {place : Nat} {teamId taskId : String}
    {input : TaskTestAccountsInput} {program : Program TaskTables (Except Failure Unit)}
    (here : system.running[place]? = some { call := .provide teamId taskId input, program })
    {event : AccountsAssigned} (member : event ∈ system.shared.events)
    (repeats : event.submissionId = input.submissionId) :
    (steps host definitions (.tick place) system).state.shared = system.shared := by
  rcases System.tick_careful reliable.careful here with same | ⟨left, -, behaves⟩
  · exact congrArg System.shared same
  · rcases behaves reliable.orderly.shared with ⟨-, accepted⟩ | ⟨same, -⟩
    · exact absurd repeats (accepted.fresh event member)
    · exact same

/-- Whatever prepares, assigns, expires and dispatches at the same time: slots are bound at most
    once, a case is given up for its accounts while one is missing, an accepted submission's
    assignments stay until another one assigns their slots, and repeating it changes nothing. -/
theorem assignments_kept (task : TaskExecution) (now : Int)
    (moves : List (SystemMove Call Change)) :
    let system := arrival (steps host definitions) moves (opened task now)
    (system.shared.caseExecutions.map TaskCaseExecution.id).Nodup ∧
    (∀ row ∈ system.shared.caseExecutions,
      ((currentBindings row).map TestAccountBinding.slotId).Nodup ∧
      (∀ plan, row.testAccountPlan = some plan →
        (plan.bindings.map TestAccountBinding.slotId).Nodup) ∧
      (failedForAccounts row = true →
        ∃ plan, row.testAccountPlan = some plan ∧ missingAccountSlots plan ≠ [])) ∧
    ∀ place input, Accepts host definitions system place input →
      let accepted := (steps host definitions (.tick place) system).state
      (∀ assignment ∈ input.assignments, ∀ later,
        (∀ before place' after input', later = before ++ .tick place' :: after →
          Accepts host definitions (arrival (steps host definitions) before accepted) place'
            input' →
          ¬Assigns input'.assignments assignment.caseExecutionId assignment.slotId) →
        HasAccount (arrival (steps host definitions) later accepted).shared
          assignment.caseExecutionId assignment.slotId assignment.account) ∧
      ∀ later place' teamId taskId input' program, input'.submissionId = input.submissionId →
        (arrival (steps host definitions) later accepted).running[place']? =
          some { call := .provide teamId taskId input', program } →
        (steps host definitions (.tick place')
            (arrival (steps host definitions) later accepted)).state.shared =
          (arrival (steps host definitions) later accepted).shared := by
  intro system
  have reliable : Reliable system := (reliable_run (opened_reliable task now) moves).1
  have lawful := reliable.orderly.shared
  refine ⟨lawful.distinct, ?_, ?_⟩
  · intro row member
    have sound := lawful.sound row member
    refine ⟨sound.distinct, sound.bindings, ?_⟩
    intro failed
    simp only [failedForAccounts, Bool.and_eq_true] at failed
    exact (sound.failure failed.2).2
  · intro place input accepts accepted
    have result : Accepted input system.shared accepted.shared :=
      accepts_accepted reliable accepts
    have onward : Reliable accepted := (reliable_run reliable [.tick place]).1
    refine ⟨?_, ?_⟩
    · intro assignment member later without
      exact account_kept onward (result.given assignment member) without
    · intro later place' teamId taskId input' program same here
      obtain ⟨event, recorded, id⟩ := result.recorded
      obtain ⟨kept, forwards⟩ := @reliable_run host definitions _ onward later
      refine repeated_unchanged kept here (forwards.events.subset ?_) (id.trans same.symm)
      rw [recorded]
      exact List.mem_append_right _ (List.mem_singleton_self event)

end Runs

end TestAccounts

end Devproof
