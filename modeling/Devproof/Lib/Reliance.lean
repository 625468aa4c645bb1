import Devproof.Lib.Interleave

/-!
Calls that rely on the others only in the runs that go forwards.  A step may go
backwards; then nothing is promised of the calls that were under way.
-/

namespace Devproof

namespace Program

variable {State Answer Value Failure : Type} (holds : State → Prop) (later : State → State → Prop)
  (good : State → State → Program State Answer → Prop)

/-- From `state` on, as long as everything goes forwards, every step is as `good` says of the
    state before it, the state after it and what is left to do. -/
def Relies : Program State Answer → State → Prop
  | .answer _, _ => True
  | .step update next, state => ∀ now, later state now → holds now →
      good now (update now) (next now) ∧
        (later now (update now) → (next now).Relies (update now))

variable {holds later good}

theorem Relies.onward {program : Program State Answer} {state now : State}
    (transitive : ∀ {first second third}, later first second → later second third →
      later first third)
    (relies : program.Relies holds later good state) (forwards : later state now) :
    program.Relies holds later good now := by
  cases program with
  | answer result => trivial
  | step update next =>
      intro final further held
      exact relies final (transitive forwards further) held

theorem relies_read {view : State → Value} {next : Value → Program State Answer} {state : State}
    (here : ∀ now, later state now → holds now → good now now (next (view now)))
    (rest : ∀ now, later state now → holds now → (next (view now)).Relies holds later good now) :
    (read view next).Relies holds later good state :=
  fun now onward held => ⟨here now onward held, fun _ => rest now onward held⟩

theorem relies_transaction {good : State → State → Program State (Except Failure Answer) → Prop}
    {body : State → Except Failure (State × Answer)} {state : State}
    (commits : ∀ now after value, later state now → holds now → body now = .ok (after, value) →
      good now after (.answer (.ok value)))
    (fails : ∀ now failure, later state now → holds now → body now = .error failure →
      good now now (.answer (.error failure))) :
    (transaction body).Relies holds later good state := by
  intro now onward held
  cases result : body now with
  | ok pair =>
      simp only [result]
      exact ⟨commits now _ _ onward held result, fun _ => trivial⟩
  | error failure =>
      simp only [result]
      exact ⟨fails now failure onward held result, fun _ => trivial⟩

end Program

namespace System

variable {State Call Answer Change : Type}

structure Relying (holds : State → Prop) (later : State → State → Prop)
    (good : Call → State → State → Program State Answer → Prop)
    (system : System State Call Answer) : Prop where
  shared : holds system.shared
  running : ∀ running ∈ system.running,
    running.program.Relies holds later (good running.call) system.shared

structure Reliance (program : Call → Program State Answer) (changed : Change → State → State)
    (holds : State → Prop) (later : State → State → Prop)
    (good : Call → State → State → Program State Answer → Prop) : Prop where
  transitive : ∀ {first second third}, later first second → later second third →
    later first third
  starts : ∀ call state, (program call).Relies holds later (good call) state
  kept : ∀ {call before after rest}, holds before → good call before after rest → holds after
  changes : ∀ what {state}, holds state → holds (changed what state)

variable {program : Call → Program State Answer} {changed : Change → State → State}
  {holds : State → Prop} {later : State → State → Prop}
  {good : Call → State → State → Program State Answer → Prop}

/-- A step of a call does nothing, or it is as it should be. -/
theorem tick_relying {system : System State Call Answer} (refl : ∀ state, later state state)
    (relying : system.Relying holds later good) {place : Nat} {call : Call}
    {rest : Program State Answer}
    (here : system.running[place]? = some { call, program := rest }) :
    (step program changed (.tick place) system).state = system ∨
      ∃ left, (step program changed (.tick place) system).state.running[place]? =
          some { call, program := left } ∧
        good call system.shared (step program changed (.tick place) system).state.shared left := by
  have kept := relying.running _ (List.mem_of_getElem? here)
  have bound : place < system.running.length := (List.getElem?_eq_some_iff.mp here).1
  simp only [step, Outcome.done_state, here]
  cases rest with
  | answer result =>
      left
      have same : system.running[place] = { call, program := .answer result } :=
        (List.getElem?_eq_some_iff.mp here).2
      simp [advance, ← same]
  | step update next =>
      right
      exact ⟨next system.shared, by simp [advance, bound],
        (kept system.shared (refl _) relying.shared).1⟩

/-- The invariant survives every step. -/
theorem step_holds (reliance : Reliance program changed holds later good)
    (refl : ∀ state, later state state) {system : System State Call Answer}
    (relying : system.Relying holds later good) (move : SystemMove Call Change) :
    holds (step program changed move system).state.shared := by
  cases move with
  | start call => exact relying.shared
  | change what => exact reliance.changes what relying.shared
  | tick place =>
      cases here : system.running[place]? with
      | none => simpa [step, here] using relying.shared
      | some running =>
          rcases @tick_relying _ _ _ _ program changed _ _ _ system refl relying place running.call
            running.program here with same | ⟨_, _, behaves⟩
          · rw [same]
            exact relying.shared
          · exact reliance.kept relying.shared behaves

theorem relying_step (reliance : Reliance program changed holds later good)
    (refl : ∀ state, later state state) {system : System State Call Answer}
    (relying : system.Relying holds later good) {move : SystemMove Call Change}
    (forwards : later system.shared (step program changed move system).state.shared) :
    (step program changed move system).state.Relying holds later good := by
  refine ⟨step_holds reliance refl relying move, ?_⟩
  have onwards : ∀ running ∈ system.running, running.program.Relies holds later
      (good running.call) (step program changed move system).state.shared :=
    fun running member => (relying.running running member).onward reliance.transitive forwards
  cases move with
  | start call =>
      intro running member
      rcases List.mem_append.mp member with known | added
      · exact relying.running running known
      · rw [List.mem_singleton.mp added]
        exact reliance.starts call _
  | change what => exact onwards
  | tick place =>
      cases here : system.running[place]? with
      | none => simpa [step, here] using relying.running
      | some running =>
          have relies := relying.running running (List.mem_of_getElem? here)
          simp only [step, Outcome.done_state, here] at forwards onwards ⊢
          intro other member
          rcases List.mem_or_eq_of_mem_set member with known | same
          · exact onwards other known
          · rw [same, advance_call]
            unfold advance at forwards ⊢
            split
            · rename_i result left
              rw [left]
              trivial
            · rename_i update next left
              rw [left] at relies forwards
              exact (relies system.shared (refl _) relying.shared).2 forwards

/-- A run whose steps all go forwards. -/
theorem relying_run (reliance : Reliance program changed holds later good)
    (refl : ∀ state, later state state) {system : System State Call Answer}
    (relying : system.Relying holds later good) {moves : List (SystemMove Call Change)}
    (forwards : ∀ entry ∈ visits (step program changed) moves system,
      entry.2.Relying holds later good →
      later entry.2.shared (step program changed entry.1 entry.2).state.shared) :
    (arrival (step program changed) moves system).Relying holds later good := by
  refine ((visits_path moves system).invariant (fun state => state.Relying holds later good)
    relying ?_).1
  intro entry member here
  exact relying_step reliance refl here (forwards entry member here)

end System

end Devproof
