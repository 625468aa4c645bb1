import Devproof.Lib.Machine

/-!
Calls that run at the same time on one shared state.  A call is a program of
atomic steps; between two of its steps the other calls and the surroundings
may change the state, but only forwards along a relation that every step
guarantees and every call may rely on.
-/

namespace Devproof

inductive Program (State Answer : Type) where
  | answer (result : Answer)
  | step (update : State → State) (next : State → Program State Answer)

namespace Program

variable {State Answer Value Failure : Type}

def read (view : State → Value) (next : Value → Program State Answer) : Program State Answer :=
  .step id fun state => next (view state)

/-- One transaction: it commits and the call goes on, or it rolls back and its error is the
    answer. -/
def commit (body : State → Except Failure (State × Value))
    (next : Value → Program State (Except Failure Answer)) :
    Program State (Except Failure Answer) :=
  .step (fun state =>
      match body state with
      | .ok (after, _) => after
      | .error _ => state)
    fun state =>
      match body state with
      | .ok (_, value) => next value
      | .error failure => .answer (.error failure)

def transaction (body : State → Except Failure (State × Value)) :
    Program State (Except Failure Value) :=
  commit body fun value => .answer (.ok value)

def check (checked : Except Failure Value) (next : Value → Program State (Except Failure Answer)) :
    Program State (Except Failure Answer) :=
  match checked with
  | .ok value => next value
  | .error failure => .answer (.error failure)

def alone : Nat → Program State Answer → State → State × Program State Answer
  | 0, program, state => (state, program)
  | _ + 1, .answer result, state => (state, .answer result)
  | count + 1, .step update next, state => alone count (next state) (update state)

theorem alone_read (count : Nat) (view : State → Value) (next : Value → Program State Answer)
    (state : State) :
    (read view next).alone (count + 1) state = (next (view state)).alone count state := rfl

theorem check_ok {checked : Except Failure Value} {value : Value} (passed : checked = .ok value)
    (next : Value → Program State (Except Failure Answer)) : check checked next = next value := by
  rw [passed, check]

theorem alone_transaction {body : State → Except Failure (State × Value)} {state after : State}
    {value : Value} (commits : body state = .ok (after, value)) :
    (transaction body).alone 1 state = (after, .answer (.ok value)) := by
  simp [transaction, commit, alone, commits]

section Rules

variable (holds : State → Prop) (later : State → State → Prop)

/-- From `state` on, every step keeps the invariant and goes forwards, whatever the others did
    in between, and the answer is as `done` says. -/
def Obeys (done : Answer → State → Prop) : Program State Answer → State → Prop
  | .answer result, state => done result state
  | .step update next, state => ∀ now, later state now → holds now →
      holds (update now) ∧ later now (update now) ∧ (next now).Obeys done (update now)

/-- Every step the program may take is as `good` says of the state before it, the state after it
    and what is left to do. -/
def Every (good : State → State → Program State Answer → Prop) : Program State Answer → Prop
  | .answer _ => True
  | .step update next => ∀ state, good state (update state) (next state) ∧ (next state).Every good

def ChangesWith (accepts : Answer → Prop) : Program State Answer → Prop :=
  Every fun state after rest => after ≠ state → ∃ result, rest = .answer result ∧ accepts result

variable {holds later} {done : Answer → State → Prop}

theorem Obeys.onward {program : Program State Answer} {state now : State}
    (transitive : ∀ {first second third}, later first second → later second third →
      later first third)
    (stable : ∀ {result first second}, later first second → holds second → done result first →
      done result second)
    (obeys : program.Obeys holds later done state) (forwards : later state now)
    (held : holds now) : program.Obeys holds later done now := by
  cases program with
  | answer result => exact stable forwards held obeys
  | step update next =>
      intro final further still
      exact obeys final (transitive forwards further) still

theorem obeys_read {view : State → Value} {next : Value → Program State Answer} {state : State}
    (refl : ∀ state, later state state)
    (rest : ∀ now, later state now → holds now → (next (view now)).Obeys holds later done now) :
    (read view next).Obeys holds later done state := by
  intro now onward held
  exact ⟨held, refl now, rest now onward held⟩

theorem obeys_commit {done : Except Failure Answer → State → Prop}
    {body : State → Except Failure (State × Value)}
    {next : Value → Program State (Except Failure Answer)} {state : State}
    (refl : ∀ state, later state state)
    (commits : ∀ now after value, later state now → holds now → body now = .ok (after, value) →
      holds after ∧ later now after ∧ (next value).Obeys holds later done after)
    (fails : ∀ now failure, later state now → holds now → body now = .error failure →
      done (.error failure) now) :
    (commit body next).Obeys holds later done state := by
  intro now onward held
  cases result : body now with
  | ok pair =>
      obtain ⟨after, value⟩ := pair
      simpa only [result] using commits now after value onward held result
  | error failure =>
      simp only [result]
      exact ⟨held, refl now, fails now failure onward held result⟩

theorem obeys_transaction {done : Except Failure Value → State → Prop}
    {body : State → Except Failure (State × Value)} {state : State}
    (refl : ∀ state, later state state)
    (commits : ∀ now after value, later state now → holds now → body now = .ok (after, value) →
      holds after ∧ later now after ∧ done (.ok value) after)
    (fails : ∀ now failure, later state now → holds now → body now = .error failure →
      done (.error failure) now) :
    (transaction body).Obeys holds later done state :=
  obeys_commit refl commits fails

theorem obeys_check {done : Except Failure Answer → State → Prop} {checked : Except Failure Value}
    {next : Value → Program State (Except Failure Answer)} {state : State}
    (passes : ∀ value, checked = .ok value → (next value).Obeys holds later done state)
    (fails : ∀ failure, checked = .error failure → done (.error failure) state) :
    (check checked next).Obeys holds later done state := by
  cases checked with
  | ok value => exact passes value rfl
  | error failure => exact fails failure rfl

theorem every_read {good : State → State → Program State Answer → Prop} {view : State → Value}
    {next : Value → Program State Answer}
    (here : ∀ state, good state state (next (view state)))
    (rest : ∀ value, (next value).Every good) : (read view next).Every good :=
  fun state => ⟨here state, rest _⟩

theorem every_commit {good : State → State → Program State (Except Failure Answer) → Prop}
    {body : State → Except Failure (State × Value)}
    {next : Value → Program State (Except Failure Answer)}
    (commits : ∀ state after value, body state = .ok (after, value) → good state after (next value))
    (fails : ∀ state failure, body state = .error failure →
      good state state (.answer (.error failure)))
    (rest : ∀ state after value, body state = .ok (after, value) → (next value).Every good) :
    (commit body next).Every good := by
  intro state
  cases result : body state with
  | ok pair =>
      simp only [result]
      exact ⟨commits state _ _ result, rest state _ _ result⟩
  | error failure =>
      simp only [result]
      exact ⟨fails state failure result, trivial⟩

theorem every_check {good : State → State → Program State (Except Failure Answer) → Prop}
    {checked : Except Failure Value} {next : Value → Program State (Except Failure Answer)}
    (rest : ∀ value, (next value).Every good) : (check checked next).Every good := by
  cases checked with
  | ok value => exact rest value
  | error failure => trivial

theorem changesWith_read {accepts : Answer → Prop} {view : State → Value}
    {next : Value → Program State Answer} (rest : ∀ value, (next value).ChangesWith accepts) :
    (read view next).ChangesWith accepts :=
  every_read (fun _ changed => absurd rfl changed) rest

theorem changesWith_transaction {body : State → Except Failure (State × Value)} :
    (transaction body).ChangesWith fun result => ∃ value, result = .ok value :=
  every_commit (fun _ _ value _ _ => ⟨_, rfl, value, rfl⟩)
    (fun _ _ _ changed => absurd rfl changed) fun _ _ _ _ => trivial

end Rules

end Program

structure Running (State Call Answer : Type) where
  call : Call
  program : Program State Answer

structure System (State Call Answer : Type) where
  shared : State
  running : List (Running State Call Answer)

inductive SystemMove (Call Change : Type) where
  /-- A call arrives. -/
  | start (call : Call)
  /-- The call at this place makes its next step. -/
  | tick (place : Nat)
  /-- Something else changes the state. -/
  | change (what : Change)
  deriving Repr, DecidableEq

namespace System

variable {State Call Answer Change : Type}

def advance (running : Running State Call Answer) (state : State) :
    State × Running State Call Answer :=
  match running.program with
  | .answer _ => (state, running)
  | .step update next => (update state, { running with program := next state })

section Steps

variable (program : Call → Program State Answer) (changed : Change → State → State)

def step (move : SystemMove Call Change) (system : System State Call Answer) :
    Outcome (System State Call Answer) Empty :=
  .done <|
    match move with
    | .start call =>
        { system with running := system.running ++ [{ call, program := program call }] }
    | .tick place =>
        match system.running[place]? with
        | some running =>
            { shared := (advance running system.shared).1
              running := system.running.set place (advance running system.shared).2 }
        | none => system
    | .change what => { system with shared := changed what system.shared }

end Steps

def Answered (system : System State Call Answer) (place : Nat) (call : Call) (result : Answer) :
    Prop :=
  system.running[place]? = some { call, program := .answer result }

/-- The rules of a shared state on which the calls rely, and which the calls that may arrive and
    the surroundings keep. -/
structure Rules (program : Call → Program State Answer) (changed : Change → State → State)
    (arrives : Call → Prop) (holds : State → Prop) (later : State → State → Prop)
    (done : Call → Answer → State → Prop) : Prop where
  refl : ∀ state, later state state
  transitive : ∀ {first second third}, later first second → later second third →
    later first third
  stable : ∀ {call result first second}, later first second → holds second →
    done call result first → done call result second
  starts : ∀ call, arrives call → ∀ state, (program call).Obeys holds later (done call) state
  changes : ∀ what state, holds state →
    holds (changed what state) ∧ later state (changed what state)

structure Orderly (holds : State → Prop) (later : State → State → Prop)
    (done : Call → Answer → State → Prop) (system : System State Call Answer) : Prop where
  shared : holds system.shared
  running : ∀ running ∈ system.running,
    running.program.Obeys holds later (done running.call) system.shared

section Runs

variable {program : Call → Program State Answer} {changed : Change → State → State}
  {arrives : Call → Prop} {holds : State → Prop} {later : State → State → Prop}
  {done : Call → Answer → State → Prop}

theorem advance_obeys {running : Running State Call Answer} {state : State}
    {done : Answer → State → Prop} (refl : ∀ state, later state state) (held : holds state)
    (obeys : running.program.Obeys holds later done state) :
    holds (advance running state).1 ∧ later state (advance running state).1 ∧
      (advance running state).2.program.Obeys holds later done (advance running state).1 := by
  obtain ⟨call, program⟩ := running
  cases program with
  | answer result => exact ⟨held, refl state, obeys⟩
  | step update next => exact obeys state (refl state) held

@[simp] theorem advance_call (running : Running State Call Answer) (state : State) :
    (advance running state).2.call = running.call := by
  unfold advance
  split <;> rfl

theorem orderly_step (rules : Rules program changed arrives holds later done)
    {system : System State Call Answer} (orderly : Orderly holds later done system)
    {move : SystemMove Call Change} (arrived : ∀ call, move = .start call → arrives call) :
    Orderly holds later done (step program changed move system).state ∧
      later system.shared (step program changed move system).state.shared := by
  have onwards : ∀ {now}, later system.shared now → holds now → ∀ running ∈ system.running,
      running.program.Obeys holds later (done running.call) now := by
    intro now onward held running member
    exact (orderly.running running member).onward rules.transitive rules.stable onward held
  cases move with
  | start call =>
      refine ⟨⟨orderly.shared, fun running member => ?_⟩, rules.refl _⟩
      rcases List.mem_append.mp member with known | added
      · exact orderly.running running known
      · rw [List.mem_singleton.mp added]
        exact rules.starts call (arrived call rfl) _
  | tick place =>
      simp only [step, Outcome.done_state]
      cases here : system.running[place]? with
      | none => exact ⟨orderly, rules.refl _⟩
      | some running =>
          have obeys := orderly.running running (List.mem_of_getElem? here)
          obtain ⟨held, onward, goes⟩ := advance_obeys rules.refl orderly.shared obeys
          refine ⟨⟨held, fun other member => ?_⟩, onward⟩
          rcases List.mem_or_eq_of_mem_set member with known | same
          · exact onwards onward held other known
          · rw [same, advance_call]
            exact goes
  | change what =>
      obtain ⟨held, onward⟩ := rules.changes what system.shared orderly.shared
      exact ⟨⟨held, onwards onward held⟩, onward⟩

theorem orderly_run (rules : Rules program changed arrives holds later done)
    {system : System State Call Answer} (orderly : Orderly holds later done system)
    {moves : List (SystemMove Call Change)}
    (arrived : ∀ call, SystemMove.start call ∈ moves → arrives call) :
    Orderly holds later done (arrival (step program changed) moves system) ∧
      later system.shared (arrival (step program changed) moves system).shared := by
  induction moves generalizing system with
  | nil => exact ⟨orderly, rules.refl _⟩
  | cons move rest ih =>
      have here : ∀ call, move = .start call → arrives call := by
        rintro call rfl
        exact arrived call (List.mem_cons_self ..)
      obtain ⟨kept, onward⟩ := orderly_step rules orderly here
      obtain ⟨final, further⟩ := ih kept fun call member =>
        arrived call (List.mem_cons_of_mem _ member)
      exact ⟨final, rules.transitive onward further⟩

/-- The answer of a call is as `done` says. -/
theorem Orderly.answered {system : System State Call Answer}
    (orderly : Orderly holds later done system) {place : Nat} {call : Call} {result : Answer}
    (answered : system.Answered place call result) : done call result system.shared :=
  orderly.running _ (List.mem_of_getElem? answered)

theorem ticks_alone {system : System State Call Answer} {place : Nat} {call : Call}
    {rest : Program State Answer} (here : system.running[place]? = some { call, program := rest })
    (count : Nat) :
    arrival (step program changed) (List.replicate count (.tick place)) system =
      { shared := (rest.alone count system.shared).1
        running := system.running.set place
          { call, program := (rest.alone count system.shared).2 } } := by
  have bound : place < system.running.length := (List.getElem?_eq_some_iff.mp here).1
  induction count generalizing system rest with
  | zero =>
      have same : system.running[place] = { call, program := rest } :=
        (List.getElem?_eq_some_iff.mp here).2
      simp [arrival, Program.alone, ← same]
  | succ count ih =>
      rw [List.replicate_succ]
      simp only [arrival, List.foldl_cons]
      have next : (step program changed (.tick place) system).state =
          { shared := (advance { call, program := rest } system.shared).1
            running := system.running.set place
              (advance { call, program := rest } system.shared).2 } := by
        simp only [step, Outcome.done_state, here]
      rw [next]
      cases rest with
      | answer result =>
          refine (@ih _ (.answer result) ?_ ?_).trans ?_
          · simp [advance, bound]
          · simpa [advance] using bound
          · cases count <;> simp [advance, Program.alone]
      | step update after =>
          refine (@ih _ (after system.shared) ?_ ?_).trans ?_
          · simp [advance, bound]
          · simpa [advance] using bound
          · simp [advance, Program.alone]

/-- A call that arrives and runs for a while. -/
theorem start_alone (system : System State Call Answer) (call : Call) (count : Nat) :
    arrival (step program changed)
        (.start call :: List.replicate count (.tick system.running.length)) system =
      { shared := ((program call).alone count system.shared).1
        running := system.running ++
          [{ call, program := ((program call).alone count system.shared).2 }] } := by
  have here : (step program changed (.start call) system).state.running[system.running.length]? =
      some { call, program := program call } := by
    simp [step]
  refine (ticks_alone here count).trans ?_
  simp [step]

theorem place_step (rules : Rules program changed arrives holds later done)
    {wanted : Answer → State → Prop}
    (stable : ∀ result first second, later first second → holds second → wanted result first →
      wanted result second)
    {system : System State Call Answer} (orderly : Orderly holds later done system) {place : Nat}
    {call : Call} (obeys : ∃ program, system.running[place]? = some { call, program } ∧
      program.Obeys holds later wanted system.shared) {move : SystemMove Call Change}
    (arrived : ∀ call, move = .start call → arrives call) :
    ∃ rest, (step program changed move system).state.running[place]? =
        some { call, program := rest } ∧
      rest.Obeys holds later wanted (step program changed move system).state.shared := by
  obtain ⟨rest, here, goes⟩ := obeys
  obtain ⟨⟨held, -⟩, onward⟩ := orderly_step rules orderly arrived
  have bound : place < system.running.length := (List.getElem?_eq_some_iff.mp here).1
  cases move with
  | start other =>
      refine ⟨rest, ?_, goes.onward rules.transitive (stable _ _ _) onward held⟩
      simp only [step, Outcome.done_state]
      rw [List.getElem?_append_left bound, here]
  | change what => exact ⟨rest, here, goes.onward rules.transitive (stable _ _ _) onward held⟩
  | tick other =>
      by_cases same : other = place
      · subst same
        simp only [step, Outcome.done_state, here]
        let running : Running State Call Answer := { call, program := rest }
        refine ⟨(advance running system.shared).2.program, ?_,
          (@advance_obeys _ _ _ _ _ running _ _ rules.refl orderly.shared goes).2.2⟩
        rw [List.getElem?_set_self bound]
        cases rest <;> rfl
      · refine ⟨rest, ?_, goes.onward rules.transitive (stable _ _ _) onward held⟩
        simp only [step, Outcome.done_state]
        split
        · rw [List.getElem?_set_ne same, here]
        · exact here

theorem place_run (rules : Rules program changed arrives holds later done)
    {wanted : Answer → State → Prop}
    (stable : ∀ result first second, later first second → holds second → wanted result first →
      wanted result second)
    {system : System State Call Answer} (orderly : Orderly holds later done system) {place : Nat}
    {call : Call} (obeys : ∃ program, system.running[place]? = some { call, program } ∧
      program.Obeys holds later wanted system.shared) {moves : List (SystemMove Call Change)}
    (arrived : ∀ call, SystemMove.start call ∈ moves → arrives call) :
    ∃ rest, (arrival (step program changed) moves system).running[place]? =
        some { call, program := rest } ∧
      rest.Obeys holds later wanted (arrival (step program changed) moves system).shared := by
  induction moves generalizing system with
  | nil => exact obeys
  | cons move rest ih =>
      have here : ∀ call, move = .start call → arrives call := by
        rintro call rfl
        exact arrived call (List.mem_cons_self ..)
      exact ih (orderly_step rules orderly here).1 (place_step rules stable orderly obeys here)
        fun call member => arrived call (List.mem_cons_of_mem _ member)

theorem answered_step {system : System State Call Answer} {place : Nat} {call : Call}
    {result : Answer} (answered : system.Answered place call result)
    (move : SystemMove Call Change) :
    (step program changed move system).state.Answered place call result := by
  have bound : place < system.running.length := (List.getElem?_eq_some_iff.mp answered).1
  unfold Answered at answered ⊢
  cases move with
  | start other =>
      simp only [step, Outcome.done_state]
      rw [List.getElem?_append_left bound, answered]
  | change what => exact answered
  | tick other =>
      simp only [step, Outcome.done_state]
      by_cases same : other = place
      · subst same
        simp only [answered, advance]
        rw [List.getElem?_set_self bound]
      · split
        · rw [List.getElem?_set_ne same, answered]
        · exact answered

/-- An answer is final. -/
theorem answered_run {system : System State Call Answer} {place : Nat} {call : Call}
    {result : Answer} (answered : system.Answered place call result)
    (moves : List (SystemMove Call Change)) :
    (arrival (step program changed) moves system).Answered place call result := by
  induction moves generalizing system with
  | nil => exact answered
  | cons move rest ih => exact ih (answered_step answered move)

/-! What the steps of the calls may do. -/

def Careful (good : Call → State → State → Program State Answer → Prop)
    (system : System State Call Answer) : Prop :=
  ∀ running ∈ system.running, running.program.Every (good running.call)

theorem careful_step {good : Call → State → State → Program State Answer → Prop}
    (starts : ∀ call, (program call).Every (good call))
    {system : System State Call Answer} (careful : system.Careful good)
    (move : SystemMove Call Change) :
    (step program changed move system).state.Careful good := by
  cases move with
  | start call =>
      intro running member
      rcases List.mem_append.mp member with known | added
      · exact careful running known
      · rw [List.mem_singleton.mp added]
        exact starts call
  | change what => exact careful
  | tick place =>
      simp only [step, Outcome.done_state]
      cases here : system.running[place]? with
      | none => exact careful
      | some running =>
          intro other member
          rcases List.mem_or_eq_of_mem_set member with known | same
          · exact careful other known
          · have kept := careful running (List.mem_of_getElem? here)
            rw [same, advance_call]
            unfold advance
            split
            · exact kept
            · rename_i update next left
              rw [left] at kept
              exact (kept system.shared).2

theorem careful_run {good : Call → State → State → Program State Answer → Prop}
    (starts : ∀ call, (program call).Every (good call))
    {system : System State Call Answer} (careful : system.Careful good)
    (moves : List (SystemMove Call Change)) :
    (arrival (step program changed) moves system).Careful good := by
  induction moves generalizing system with
  | nil => exact careful
  | cons move rest ih => exact ih (careful_step starts careful move)

theorem place_every_step {good : State → State → Program State Answer → Prop}
    {system : System State Call Answer} {place : Nat} {call : Call}
    (every : ∃ program, system.running[place]? = some { call, program } ∧ program.Every good)
    (move : SystemMove Call Change) :
    ∃ rest, (step program changed move system).state.running[place]? =
      some { call, program := rest } ∧ rest.Every good := by
  obtain ⟨rest, here, kept⟩ := every
  have bound : place < system.running.length := (List.getElem?_eq_some_iff.mp here).1
  cases move with
  | start other => exact ⟨rest, (List.getElem?_append_left bound).trans here, kept⟩
  | change what => exact ⟨rest, here, kept⟩
  | tick other =>
      simp only [step, Outcome.done_state]
      by_cases same : other = place
      · subst same
        simp only [here]
        rw [List.getElem?_set_self bound]
        cases rest with
        | answer result => exact ⟨_, rfl, trivial⟩
        | step update next => exact ⟨_, rfl, (kept system.shared).2⟩
      · refine ⟨rest, ?_, kept⟩
        split
        · rw [List.getElem?_set_ne same, here]
        · exact here

theorem place_every_run {good : State → State → Program State Answer → Prop}
    {system : System State Call Answer} {place : Nat} {call : Call}
    (every : ∃ program, system.running[place]? = some { call, program } ∧ program.Every good)
    (moves : List (SystemMove Call Change)) :
    ∃ rest, (arrival (step program changed) moves system).running[place]? =
      some { call, program := rest } ∧ rest.Every good := by
  induction moves generalizing system with
  | nil => exact every
  | cons move rest ih => exact ih (place_every_step every move)

theorem tick_careful {good : Call → State → State → Program State Answer → Prop}
    {system : System State Call Answer} (careful : system.Careful good) {place : Nat}
    {call : Call} {rest : Program State Answer}
    (here : system.running[place]? = some { call, program := rest }) :
    (step program changed (.tick place) system).state = system ∨
      ∃ left, (step program changed (.tick place) system).state.running[place]? =
          some { call, program := left } ∧
        good call system.shared (step program changed (.tick place) system).state.shared left := by
  have kept := careful _ (List.mem_of_getElem? here)
  have bound : place < system.running.length := (List.getElem?_eq_some_iff.mp here).1
  simp only [step, Outcome.done_state, here]
  cases rest with
  | answer result =>
      left
      have same : system.running[place] = { call, program := .answer result } :=
        (List.getElem?_eq_some_iff.mp here).2
      simp [advance, ← same]
  | step update next =>
      right
      exact ⟨next system.shared, by simp [advance, bound], (kept system.shared).1⟩

/-- A step of a call that is refused in the end changes nothing. -/
theorem refused_changes_nothing {accepts : Call → Answer → Prop}
    {system : System State Call Answer}
    (careful : system.Careful fun call state after rest =>
      after ≠ state → ∃ result, rest = .answer result ∧ accepts call result) {place : Nat}
    {call : Call} {result : Answer} {later : List (SystemMove Call Change)}
    (refused : ¬accepts call result)
    (answered : (arrival (step program changed) later
      (step program changed (.tick place) system).state).Answered place call result) :
    (step program changed (.tick place) system).state.shared = system.shared := by
  by_contra changes
  cases here : system.running[place]? with
  | none => simp [step, here] at changes
  | some running =>
      obtain ⟨other, rest⟩ := running
      rcases tick_careful careful here with same | ⟨left, there, answers⟩
      · rw [same] at changes
        exact changes rfl
      · obtain ⟨early, now, accepted⟩ := answers changes
        rw [now] at there
        have final : (arrival (step program changed) later
            (step program changed (.tick place) system).state).Answered place other early :=
          answered_run there later
        unfold Answered at final answered
        rw [final] at answered
        cases answered
        exact refused accepted

end Runs

end System

end Devproof
