import Mathlib.Data.List.Basic

/-!
Machines whose steps may throw.  A step that throws keeps the assignments made
before the exception, and an exception ends the block of moves it happens in.
-/

namespace Devproof

structure Outcome (State Failure : Type) where
  state : State
  thrown : Option Failure
  deriving Repr, DecidableEq

namespace Outcome

variable {State Failure : Type}

def done (state : State) : Outcome State Failure :=
  { state, thrown := none }

def failed (state : State) (failure : Failure) : Outcome State Failure :=
  { state, thrown := some failure }

def andThen (first : Outcome State Failure) (next : State → Outcome State Failure) :
    Outcome State Failure :=
  match first.thrown with
  | some _ => first
  | none => next first.state

@[simp] theorem done_state (state : State) :
    (done state : Outcome State Failure).state = state := rfl

@[simp] theorem done_thrown (state : State) :
    (done state : Outcome State Failure).thrown = none := rfl

@[simp] theorem failed_state (state : State) (failure : Failure) :
    (failed state failure).state = state := rfl

@[simp] theorem failed_thrown (state : State) (failure : Failure) :
    (failed state failure).thrown = some failure := rfl

@[simp] theorem done_andThen (state : State) (next : State → Outcome State Failure) :
    (done state).andThen next = next state := rfl

@[simp] theorem failed_andThen (state : State) (failure : Failure)
    (next : State → Outcome State Failure) :
    (failed state failure).andThen next = failed state failure := rfl

theorem andThen_state {kept : State → Prop} {first : Outcome State Failure}
    {next : State → Outcome State Failure} (holds : kept first.state)
    (step : ∀ state, kept state → kept (next state).state) :
    kept (first.andThen next).state := by
  unfold andThen
  split
  · exact holds
  · exact step _ holds

theorem andThen_thrown_none {first : Outcome State Failure}
    {next : State → Outcome State Failure} (returned : (first.andThen next).thrown = none) :
    first.thrown = none ∧ (next first.state).thrown = none ∧
      (first.andThen next).state = (next first.state).state := by
  unfold andThen at returned ⊢
  split at returned
  · rename_i failure threw
    simp [threw] at returned
  · rename_i quiet
    exact ⟨quiet, returned, by simp⟩

end Outcome

section Checks

variable {Failure : Type}

def throwIf (condition : Bool) (failure : Failure) : Except Failure Unit :=
  if condition then .error failure else .ok ()

@[simp] theorem throwIf_ok {condition : Bool} {failure : Failure} {result : Unit} :
    throwIf condition failure = .ok result ↔ condition = false := by
  cases condition <;> simp [throwIf]

theorem bind_ok {α β : Type} {first : Except Failure α} {next : α → Except Failure β}
    {result : β} : (first >>= next) = .ok result ↔
      ∃ value, first = .ok value ∧ next value = .ok result := by
  cases first <;> simp [bind, Except.bind]

@[simp] theorem throw_ok {α : Type} {failure : Failure} {result : α} :
    (throw failure : Except Failure α) = .ok result ↔ False := by
  simp [throw, throwThe, MonadExceptOf.throw]

end Checks

theorem foldl_invariant {α β : Type} {step : β → α → β} {items : List α} {start : β}
    (holds : β → Prop) (initially : holds start)
    (kept : ∀ state, ∀ item ∈ items, holds state → holds (step state item)) :
    holds (items.foldl step start) := by
  induction items generalizing start with
  | nil => exact initially
  | cons first rest ih =>
      apply ih
      · exact kept start first (List.mem_cons_self ..) initially
      · intro state item member
        exact kept state item (List.mem_cons_of_mem _ member)

theorem foldlM_history {α β Failure : Type} {step : β → α → Except Failure β} {items : List α}
    {start result : β} (holds : List α → β → Prop) (initially : holds [] start)
    (kept : ∀ before item after state next, items = before ++ item :: after →
      holds before state → step state item = .ok next → holds (before ++ [item]) next)
    (ran : items.foldlM step start = .ok result) : holds items result := by
  suffices general : ∀ before rest state, items = before ++ rest → holds before state →
      rest.foldlM step state = .ok result → holds items result from
    general [] items start rfl initially ran
  intro before rest
  induction rest generalizing before with
  | nil =>
      intro state whole held finished
      simp only [List.foldlM_nil] at finished
      cases finished
      rwa [whole, List.append_nil]
  | cons item rest ih =>
      intro state whole held finished
      rw [List.foldlM_cons] at finished
      obtain ⟨next, stepped, onward⟩ := bind_ok.mp finished
      refine ih (before ++ [item]) next (by simp [whole]) ?_ onward
      exact kept before item rest state next whole held stepped

theorem mapM_ok_mem {α β Failure : Type} {view : α → Except Failure β} {items : List α}
    {results : List β} (ran : items.mapM view = .ok results) {result : β}
    (member : result ∈ results) : ∃ item ∈ items, view item = .ok result := by
  induction items generalizing results with
  | nil =>
      cases ran
      cases member
  | cons first rest ih =>
      rw [List.mapM_cons] at ran
      obtain ⟨head, here, ran⟩ := bind_ok.mp ran
      obtain ⟨tail, later, ran⟩ := bind_ok.mp ran
      cases ran
      rcases List.mem_cons.mp member with same | further
      · exact ⟨first, List.mem_cons_self .., same ▸ here⟩
      · obtain ⟨item, present, found⟩ := ih later further
        exact ⟨item, List.mem_cons_of_mem _ present, found⟩

section Runs

variable {Move State Failure : Type} (step : Move → State → Outcome State Failure)

def runMoves : List Move → State → Outcome State Failure
  | [], state => .done state
  | move :: rest, state => (step move state).andThen (runMoves rest)

def movesMade : List Move → State → List (Move × State)
  | [], _ => []
  | move :: rest, state =>
      (move, state) ::
        match (step move state).thrown with
        | some _ => []
        | none => movesMade rest (step move state).state

inductive Path : State → List (Move × State) → State → Prop where
  | stop (state) : Path state [] state
  | move {start finish made} (move) : Path (step move start).state made finish →
      Path start ((move, start) :: made) finish

/-- The moves of a run that goes on after an exception, each with the state it starts from. -/
def visits : List Move → State → List (Move × State)
  | [], _ => []
  | move :: rest, state => (move, state) :: visits rest (step move state).state

def arrival (moves : List Move) (state : State) : State :=
  moves.foldl (fun current move => (step move current).state) state

variable {step}

theorem visits_path (moves : List Move) (state : State) :
    Path step state (visits step moves state) (arrival step moves state) := by
  induction moves generalizing state with
  | nil => exact Path.stop state
  | cons move rest ih => exact Path.move move (ih _)

theorem visits_append (first second : List Move) (state : State) :
    visits step (first ++ second) state =
      visits step first state ++ visits step second (arrival step first state) := by
  induction first generalizing state with
  | nil => rfl
  | cons move rest ih =>
      simp only [List.cons_append, visits, arrival, List.foldl_cons, ih]

theorem Path.append {start middle finish : State} {first second : List (Move × State)}
    (left : Path step start first middle) (right : Path step middle second finish) :
    Path step start (first ++ second) finish := by
  induction left with
  | stop => exact right
  | move move _ ih => exact Path.move move (ih right)

theorem Path.split {start finish : State} {first second : List (Move × State)}
    (path : Path step start (first ++ second) finish) :
    ∃ middle, Path step start first middle ∧ Path step middle second finish := by
  induction first generalizing start with
  | nil => exact ⟨start, Path.stop start, path⟩
  | cons entry rest ih =>
      cases path with
      | move move tail =>
          obtain ⟨middle, left, right⟩ := ih tail
          exact ⟨middle, Path.move move left, right⟩

/-- A path goes through the state each of its moves starts from, and on from the one it leads to. -/
theorem Path.through {start finish : State} {first second : List (Move × State)}
    {entry : Move × State} (path : Path step start (first ++ entry :: second) finish) :
    Path step start first entry.2 ∧ Path step (step entry.1 entry.2).state second finish := by
  obtain ⟨middle, left, right⟩ := path.split
  cases right with
  | move move tail => exact ⟨left, tail⟩

theorem runMoves_path (moves : List Move) (state : State) :
    Path step state (movesMade step moves state) (runMoves step moves state).state := by
  induction moves generalizing state with
  | nil => exact Path.stop state
  | cons move rest ih =>
      simp only [movesMade, runMoves, Outcome.andThen]
      cases (step move state).thrown with
      | some _ => exact Path.move move (Path.stop _)
      | none => exact Path.move move (ih _)

theorem runMoves_append (first second : List Move) (state : State) :
    runMoves step (first ++ second) state =
      (runMoves step first state).andThen (runMoves step second) := by
  induction first generalizing state with
  | nil => rfl
  | cons move rest ih =>
      simp only [List.cons_append, runMoves, Outcome.andThen]
      cases threw : (step move state).thrown with
      | some _ => simp [threw]
      | none => exact ih _

theorem movesMade_mem {moves : List Move} {state : State} {entry : Move × State}
    (member : entry ∈ movesMade step moves state) : entry.1 ∈ moves := by
  induction moves generalizing state with
  | nil => simp [movesMade] at member
  | cons move rest ih =>
      simp only [movesMade] at member
      rcases List.mem_cons.mp member with here | later
      · rw [here]
        exact List.mem_cons_self ..
      · split at later
        · simp at later
        · exact List.mem_cons_of_mem _ (ih later)

theorem movesMade_append {first : List Move} {state : State} (second : List Move)
    (quiet : (runMoves step first state).thrown = none) :
    movesMade step (first ++ second) state =
      movesMade step first state ++ movesMade step second (runMoves step first state).state := by
  induction first generalizing state with
  | nil => rfl
  | cons move rest ih =>
      obtain ⟨silent, later, same⟩ := Outcome.andThen_thrown_none quiet
      simp only [List.cons_append, movesMade, silent, List.cons.injEq, true_and]
      rw [ih later, runMoves, same]

theorem movesMade_initial (first second : List Move) (state : State) :
    movesMade step first state <+: movesMade step (first ++ second) state := by
  induction first generalizing state with
  | nil => exact List.nil_prefix
  | cons move rest ih =>
      simp only [List.cons_append, movesMade, List.prefix_cons_inj]
      split
      · exact List.prefix_refl _
      · exact ih _

theorem runMoves_quiet {moves : List Move} {state : State}
    (silent : ∀ entry ∈ movesMade step moves state, (step entry.1 entry.2).thrown = none) :
    (runMoves step moves state).thrown = none := by
  induction moves generalizing state with
  | nil => rfl
  | cons move rest ih =>
      have here : (step move state).thrown = none := silent (move, state) (by simp [movesMade])
      simp only [runMoves, Outcome.andThen, here]
      apply ih
      intro entry member
      exact silent entry (by simp [movesMade, here, member])

theorem Path.invariant (holds : State → Prop) {start finish : State}
    {made : List (Move × State)} (path : Path step start made finish) (initially : holds start)
    (kept : ∀ entry ∈ made, holds entry.2 → holds (step entry.1 entry.2).state) :
    holds finish ∧ ∀ entry ∈ made, holds entry.2 := by
  induction path with
  | stop => exact ⟨initially, by simp⟩
  | move move _ ih =>
      have after := kept _ (List.mem_cons_self ..) initially
      obtain ⟨final, before⟩ := ih after fun entry member => kept entry (List.mem_cons_of_mem _ member)
      refine ⟨final, ?_⟩
      intro entry member
      rcases List.mem_cons.mp member with same | later
      · subst same
        exact initially
      · exact before entry later

/-- An invariant of the state and the moves made so far holds at the end of a path. -/
theorem Path.history (holds : List (Move × State) → State → Prop) {start finish : State}
    {earlier made : List (Move × State)} (path : Path step start made finish)
    (initially : holds earlier start)
    (kept : ∀ before entry after, made = before ++ entry :: after →
      holds (earlier ++ before) entry.2 →
      holds (earlier ++ before ++ [entry]) (step entry.1 entry.2).state) :
    holds (earlier ++ made) finish := by
  induction path generalizing earlier with
  | stop => simpa using initially
  | move move _ ih =>
      rw [List.append_cons]
      apply ih
      · simpa using kept [] _ _ rfl (by simpa using initially)
      · intro before entry after split held
        rw [List.append_assoc earlier, List.singleton_append] at held ⊢
        exact kept (_ :: before) entry after (by rw [split]; rfl) held

def statesOf (made : List (Move × State)) (finish : State) : List State :=
  made.map Prod.snd ++ [finish]

theorem Path.ordered (relation : State → State → Prop)
    (transitive : ∀ first second third, relation first second → relation second third →
      relation first third) {start finish : State} {made : List (Move × State)}
    (path : Path step start made finish)
    (next : ∀ entry ∈ made, relation entry.2 (step entry.1 entry.2).state) :
    (statesOf made finish).Pairwise relation := by
  induction path with
  | stop state => exact List.pairwise_singleton _ _
  | move move rest ih =>
      have here := next _ (List.mem_cons_self ..)
      have onward := ih fun entry member => next entry (List.mem_cons_of_mem _ member)
      simp only [statesOf, List.map_cons, List.cons_append] at onward ⊢
      refine List.pairwise_cons.mpr ⟨?_, onward⟩
      intro state member
      cases rest with
      | stop =>
          rw [List.mem_singleton.mp member]
          exact here
      | move following tail =>
          rcases List.mem_cons.mp member with same | later
          · rw [same]
            exact here
          · exact transitive _ _ _ here ((List.pairwise_cons.mp onward).1 state later)

/-- From any visited state, the rest of a path leads to the state its last move starts from. -/
theorem Path.visited {start finish : State} {made first later : List (Move × State)}
    {entry last : Move × State} (path : Path step start (made ++ [last]) finish)
    (split : made ++ [last] = first ++ entry :: later) :
    ∃ middle, entry :: later = middle ++ [last] ∧ Path step entry.2 middle last.2 := by
  obtain ⟨middle, final, same⟩ : ∃ middle final, entry :: later = middle ++ [final] :=
    ⟨_, _, (List.dropLast_append_getLast (List.cons_ne_nil entry later)).symm⟩
  rw [same, ← List.append_assoc] at split
  obtain ⟨-, final_eq⟩ := List.append_inj' split rfl
  simp only [List.cons.injEq, and_true] at final_eq
  subst final_eq
  refine ⟨middle, same, ?_⟩
  rw [split, List.append_assoc] at path
  obtain ⟨here, -, onward⟩ := path.split
  have starts : here = entry.2 := by
    rw [← same] at onward
    cases onward
    rfl
  obtain ⟨there, between, ending⟩ := onward.split
  have stops : there = last.2 := by
    cases ending
    rfl
  rw [← starts, ← stops]
  exact between

end Runs

end Devproof
