import Devproof.AgentRuntime.ModelHealth
import Devproof.Lib.Machine
import Mathlib.Algebra.Order.BigOperators.Group.List
import Mathlib.Data.List.Sigma

/-!
Runs of the shared cooldowns: what no step shortens, and whom an iteration yields.
-/

namespace Devproof.ModelHealth

open Parsing

theorem cooldown_found {health : Health} {key : Text} {entry : Failure}
    (found : getEntry health.failures key = some entry) :
    cooldown health key = entry.runsUntil := by
  rw [cooldown, found]
  rfl

structure Kept (used : List Text) (time : ℚ) (failures : List (Text × Failure)) : Prop where
  distinct : (failures.map Prod.fst).Nodup
  within : ∀ entry ∈ failures, entry.1 ∈ used
  recent : ∀ entry ∈ failures, entry.2.runsUntil ≤ time + 30 * minute

section Kept

variable {used : List Text} {time : ℚ} {failures : List (Text × Failure)}

theorem Kept.mono (kept : Kept used time failures) {later : ℚ} (after : time ≤ later) :
    Kept used later failures where
  distinct := kept.distinct
  within := kept.within
  recent entry member := by linarith [kept.recent entry member]

theorem Kept.set (kept : Kept used time failures) {key : Text} (known : key ∈ used)
    {entry : Failure} (soon : entry.runsUntil ≤ time + 30 * minute) :
    Kept used time (setEntry key entry failures) where
  distinct := keys_setEntry kept.distinct key entry
  within other member := by
    rcases mem_setEntry member with rfl | old
    · exact known
    · exact kept.within other old
  recent other member := by
    rcases mem_setEntry member with rfl | old
    · exact soon
    · exact kept.recent other old

theorem Kept.delete (kept : Kept used time failures) (key : Text) :
    Kept used time (deleteEntry key failures) where
  distinct := kept.distinct.sublist (List.Sublist.map Prod.fst List.filter_sublist)
  within entry member := kept.within entry (List.mem_filter.mp member).1
  recent entry member := kept.recent entry (List.mem_filter.mp member).1

/-- With at most 256 keys in use, none is dropped. -/
theorem Kept.bounded (kept : Kept used time failures) (few : used.length ≤ 256) :
    ModelHealth.bounded failures = failures := by
  have inside : failures.map Prod.fst ⊆ used := by
    intro key member
    obtain ⟨entry, found, rfl⟩ := List.mem_map.mp member
    exact kept.within entry found
  have short := (List.subperm_of_subset kept.distinct inside).length_le
  rw [List.length_map] at short
  rw [ModelHealth.bounded, Nat.sub_eq_zero_of_le (short.trans few), List.drop_zero]

end Kept

def Grown (failures later : List (Text × Failure)) : Prop :=
  ∀ key entry, getEntry failures key = some entry →
    ∃ longer, getEntry later key = some longer ∧ entry.runsUntil ≤ longer.runsUntil

theorem Grown.refl (failures : List (Text × Failure)) : Grown failures failures :=
  fun _ entry found => ⟨entry, found, le_refl _⟩

theorem Grown.trans {first second third : List (Text × Failure)} (grown : Grown first second)
    (further : Grown second third) : Grown first third := by
  intro key entry found
  obtain ⟨longer, found, least⟩ := grown key entry found
  obtain ⟨longest, found, most⟩ := further key longer found
  exact ⟨longest, found, least.trans most⟩

theorem Grown.set {failures : List (Text × Failure)} {key : Text} {entry : Failure}
    (longer : ∀ old, getEntry failures key = some old → old.runsUntil ≤ entry.runsUntil) :
    Grown failures (setEntry key entry failures) := by
  intro other old found
  rw [getEntry_setEntry]
  by_cases same : other = key
  · rw [if_pos same]
    exact ⟨entry, rfl, longer old (same ▸ found)⟩
  · rw [if_neg same]
    exact ⟨old, found, le_refl _⟩

section Steps

variable (platform : Platform)

def keysSet : Action → List Text
  | .failure candidate error => [failedKey platform candidate error]
  | .restore value => (restoredEntries value).map Prod.fst
  | _ => []

structure Fits (used : List Text) (state : State) (event : Event) : Prop where
  clock : ∀ read, state.time ≤ event.now read ∧ event.now read ≤ event.time
  keys : ∀ key ∈ keysSet platform event.action, key ∈ used

/-- A failure recorded while the cooldown of its key still runs does not run out before it. -/
def NotMilder (state : State) (event : Event) : Prop :=
  ∀ candidate error, event.action = .failure candidate error →
    ∀ previous,
      getEntry state.health.failures (failedKey platform candidate error) = some previous →
      event.now 0 < previous.runsUntil →
        error.credential = true ∨ error.unavailable = true ∨
          (error.rateLimited = true ∧ previous.runsUntil ≤ event.now 0 + minute) ∨
          (error.rateLimited = false ∧
            (error.timeout = true ∧ previous.reason = .modelTimeout ∨
              exhausted (oneMore previous.failures) = true) ∧
            previous.runsUntil ≤ event.now 0 + 5 * minute)

variable {platform}

theorem cooldownMs_le (previous : Option Failure) (error : ModelError) :
    0 ≤ cooldownMs previous error ∧ cooldownMs previous error ≤ 30 * minute := by
  unfold cooldownMs minute
  dsimp only
  split_ifs <;> norm_num

/-- What the condition is for. -/
theorem longer_iff {previous : Failure} {error : ModelError} {now : ℚ}
    (soon : previous.runsUntil ≤ now + 30 * minute) (runs : now < previous.runsUntil) :
    previous.runsUntil ≤ now + cooldownMs (some previous) error ↔
      error.credential = true ∨ error.unavailable = true ∨
        (error.rateLimited = true ∧ previous.runsUntil ≤ now + minute) ∨
        (error.rateLimited = false ∧
          (error.timeout = true ∧ previous.reason = .modelTimeout ∨
            exhausted (oneMore previous.failures) = true) ∧
          previous.runsUntil ≤ now + 5 * minute) := by
  unfold cooldownMs
  dsimp only
  split_ifs with credential unavailable limited strikes
  · simp [soon, credential]
  · simp [soon, unavailable]
  · simp [credential, unavailable, limited]
  · simp only [Option.map_some, Option.getD_some, Bool.or_eq_true, Bool.and_eq_true, beq_iff_eq,
      Option.some_inj] at strikes
    simp [credential, unavailable, limited, strikes]
  · simp only [Option.map_some, Option.getD_some, Bool.or_eq_true, Bool.and_eq_true, beq_iff_eq,
      Option.some_inj] at strikes
    simp [credential, unavailable, limited, strikes, runs]

theorem restoreEntry_spec {used : List Text} {time : ℚ} {health : Health} {now : Readings}
    {entry : Text × Value} (known : entry.1 ∈ used) (clock : ∀ read, now read ≤ time)
    (kept : Kept used time health.failures) :
    Kept used time (restoreEntry platform now health entry).failures ∧
      Grown health.failures (restoreEntry platform now health entry).failures := by
  unfold restoreEntry
  split
  next => exact ⟨kept, Grown.refl _⟩
  next item runsUntil reason shape =>
    split
    next => exact ⟨kept, Grown.refl _⟩
    next bounds =>
      split
      next longer =>
        rw [not_or, not_le, not_lt] at bounds
        refine ⟨kept.set known (by linarith [bounds.2, clock 1]), Grown.set fun old found => ?_⟩
        rw [cooldown_found found] at longer
        exact longer.le
      next => exact ⟨kept, Grown.refl _⟩

theorem restore_spec {used : List Text} {time : ℚ} {health : Health} {now : Readings}
    {value : Value} (known : ∀ entry ∈ restoredEntries value, entry.1 ∈ used)
    (clock : ∀ read, now read ≤ time) (kept : Kept used time health.failures) :
    Kept used time (restore platform health value now).failures ∧
      Grown health.failures (restore platform health value now).failures := by
  refine foldl_invariant
    (fun current : Health =>
      Kept used time current.failures ∧ Grown health.failures current.failures)
    ⟨kept, Grown.refl _⟩ fun current entry member held => ?_
  have inside : entry.1 ∈ restoredEntries value := by
    have place := List.mem_zipIdx_iff_getElem?.mp member
    exact List.mem_of_getElem? place
  obtain ⟨next, grown⟩ := restoreEntry_spec (known entry.1 inside) (fun read => clock _) held.1
  exact ⟨next, held.2.trans grown⟩

theorem failure_kept {used : List Text} {time : ℚ} {health : Health} {now : Readings}
    {candidate : Candidate} {error : ModelError} (few : used.length ≤ 256)
    (known : failedKey platform candidate error ∈ used) (clock : now 0 ≤ time)
    (kept : Kept used time health.failures) :
    (failure platform health candidate error now).1.failures =
        setEntry (failedKey platform candidate error)
          (failureEntry (getEntry health.failures (failedKey platform candidate error)) error
            (now 0)) health.failures ∧
      Kept used time (failure platform health candidate error now).1.failures := by
  set key := failedKey platform candidate error
  set previous := getEntry health.failures key with previous_eq
  have soon : (failureEntry previous error (now 0)).runsUntil ≤ time + 30 * minute := by
    change now 0 + cooldownMs previous error ≤ time + 30 * minute
    linarith [(cooldownMs_le previous error).2]
  have set := kept.set known soon
  have shape : (failure platform health candidate error now).1.failures =
      ModelHealth.bounded (setEntry key (failureEntry previous error (now 0)) health.failures) := by
    simp only [failure, key, previous]
  rw [shape, set.bounded few]
  exact ⟨rfl, set⟩

/-- What a `next` yields comes from the pending attempts, the ones before it are skipped. -/
theorem resume_spec {health : Health} {now : Readings} {pending rest : List Attempt}
    {yielded : Option Attempt} (ran : resume platform health now pending = (yielded, rest)) :
    (yielded.toList ++ rest).Sublist pending ∧
      ∀ attempt, yielded = some attempt →
        ∃ shift, skipped platform health attempt.candidate
          (fun read => now (shift + read)) = false := by
  induction pending generalizing now with
  | nil =>
      obtain ⟨rfl, rfl⟩ := Prod.mk.inj ran
      exact ⟨List.Sublist.refl _, by simp⟩
  | cons first later ih =>
      rw [resume] at ran
      split at ran
      next =>
        obtain ⟨sub, free⟩ := ih ran
        refine ⟨sub.cons first, fun attempt here => ?_⟩
        obtain ⟨shift, held⟩ := free attempt here
        exact ⟨3 + shift, by simpa [Nat.add_assoc] using held⟩
      next free =>
        obtain ⟨rfl, rfl⟩ := Prod.mk.inj ran
        refine ⟨List.Sublist.refl _, fun attempt here => ?_⟩
        obtain rfl := Option.some.inj here
        exact ⟨0, by simpa using free⟩

theorem not_skipped {health : Health} {candidate : Candidate} {now : Readings} {time : ℚ}
    (free : skipped platform health candidate now = false) (clock : ∀ read, now read ≤ time) :
    (∀ entry, getEntry health.failures (key platform candidate true) = some entry →
      entry.runsUntil ≤ time) ∧
    ∀ entry, getEntry health.failures (key platform candidate false) = some entry →
      entry.reason = .modelUnavailable ∨ entry.reason = .modelTimeout → entry.runsUntil ≤ time := by
  simp only [skipped, Bool.or_eq_false_iff, decide_eq_false_iff_not, not_lt,
    Bool.and_eq_false_iff, Bool.not_eq_false'] at free
  obtain ⟨credential, model⟩ := free
  constructor
  · intro entry found
    rw [cooldown_found found] at credential
    exact credential.trans (clock 0)
  · intro entry found reason
    rcases model with other | healthy
    · simp only [found, Option.any_some] at other
      rcases reason with same | same <;> simp [same] at other
    · simp only [available, Bool.and_eq_true, decide_eq_true_eq, cooldown_found found] at healthy
      exact healthy.1.trans (clock _)

theorem admitted_available {health : Health} {candidates : List Candidate} {now : Readings}
    {time : ℚ} {candidate : Candidate} {position : Nat} (clock : ∀ read, now read ≤ time)
    (member : (candidate, position) ∈ admitted platform health candidates now) :
    candidates[position]? = some candidate ∧
      ∀ credential entry,
        getEntry health.failures (key platform candidate credential) = some entry →
          entry.runsUntil ≤ time := by
  obtain ⟨place, healthy⟩ := List.mem_filter.mp member
  refine ⟨List.mem_zipIdx_iff_getElem?.mp place, ?_⟩
  simp only [available, Bool.and_eq_true, decide_eq_true_eq] at healthy
  intro credential entry found
  cases credential with
  | false =>
      rw [cooldown_found found] at healthy
      exact healthy.1.trans (clock _)
  | true =>
      rw [cooldown_found found] at healthy
      exact healthy.2.trans (clock _)

theorem mem_schedule {entries : List (Candidate × Nat)} {attempt : Attempt}
    (member : attempt ∈ schedule entries) : (attempt.candidate, attempt.position) ∈ entries := by
  obtain ⟨modelAttempt, -, inside⟩ := List.mem_flatMap.mp member
  obtain ⟨entry, found, rfl⟩ := List.mem_map.mp inside
  exact found

theorem schedule_count {entries : List (Candidate × Nat)} (distinct : (entries.map Prod.snd).Nodup)
    (position : Nat) :
    (schedule entries).countP (fun attempt => attempt.position == position) ≤ maxModelAttempts := by
  have once : entries.countP (fun entry => entry.2 == position) ≤ 1 := by
    have counted := List.nodup_iff_count_le_one.mp distinct position
    rwa [List.count, List.countP_map] at counted
  have rounds : ∀ modelAttempt, (entries.map fun entry =>
      ({ position := entry.2, candidate := entry.1, modelAttempt } : Attempt)).countP
        (fun attempt => attempt.position == position) ≤ 1 := by
    intro modelAttempt
    rwa [List.countP_map]
  rw [schedule, List.countP_flatMap]
  refine (List.sum_le_card_nsmul _ 1 ?_).trans (by simp)
  intro count member
  obtain ⟨modelAttempt, -, rfl⟩ := List.mem_map.mp member
  exact rounds modelAttempt

theorem admitted_distinct (health : Health) (candidates : List Candidate) (now : Readings) :
    ((admitted platform health candidates now).map Prod.snd).Nodup :=
  (List.nodup_zipIdx_map_snd candidates).sublist (List.Sublist.map Prod.snd List.filter_sublist)

def Unshortened (platform : Platform) (state : State) (event : Event) : Prop :=
  ∀ name found, getEntry state.health.failures name = some found → event.now 0 < found.runsUntil →
    (∀ candidate durationMs, event.action = .success candidate durationMs →
      name ≠ key platform candidate false) →
    ∃ longer, getEntry (step platform state event).1.health.failures name = some longer ∧
      found.runsUntil ≤ longer.runsUntil

theorem unshortened_of_grown {state : State} {event : Event}
    (grown : Grown state.health.failures (step platform state event).1.health.failures) :
    Unshortened platform state event :=
  fun name found here _ _ => grown name found here

theorem step_health {state : State} {event : Event}
    (quiet : (∃ candidates, event.action = .attempts candidates) ∨
      ∃ iteration, event.action = .next iteration) :
    (step platform state event).1.health = state.health := by
  rcases quiet with ⟨candidates, action⟩ | ⟨iteration, action⟩
  · rw [step, action]
  · rw [step, action]
    dsimp only
    cases state.iterations[iteration]? <;> rfl

/-- What is kept of the map, and exactly when nothing in it is shortened. -/
theorem step_failures {used : List Text} {state : State} {event : Event} (few : used.length ≤ 256)
    (fits : Fits platform used state event) (kept : Kept used state.time state.health.failures) :
    Kept used event.time (step platform state event).1.health.failures ∧
      (NotMilder platform state event ↔ Unshortened platform state event) := by
  have later := kept.mono ((fits.clock 0).1.trans (fits.clock 0).2)
  cases action : event.action with
  | failure candidate error =>
      have known := fits.keys (failedKey platform candidate error) (by simp [action, keysSet])
      obtain ⟨shape, held⟩ := failure_kept few known (fits.clock 0).2 later
      have health : (step platform state event).1.health =
          (failure platform state.health candidate error event.now).1 := by
        rw [step, action]
      rw [health]
      refine ⟨held, ?_⟩
      have soon : ∀ previous,
          getEntry state.health.failures (failedKey platform candidate error) = some previous →
            previous.runsUntil ≤ event.now 0 + 30 * minute := by
        intro previous found
        linarith [kept.recent _ (mem_of_getEntry found), (fits.clock 0).1]
      constructor
      · intro milder name found here runs _
        rw [health, shape, getEntry_setEntry]
        by_cases same : name = failedKey platform candidate error
        · rw [same] at here
          rw [if_pos same, here]
          refine ⟨_, rfl, (longer_iff (soon found here) runs).mpr ?_⟩
          exact milder candidate error action found here runs
        · rw [if_neg same]
          exact ⟨found, here, le_refl _⟩
      · intro unshortened other fault same previous here runs
        obtain ⟨rfl, rfl⟩ := Action.failure.inj (action.symm.trans same)
        obtain ⟨longer, entry, least⟩ := unshortened _ previous here runs
          (fun _ _ success => absurd (action.symm.trans success) (by simp))
        rw [health, shape, getEntry_setEntry, if_pos rfl, here] at entry
        rw [← Option.some.inj entry] at least
        exact (longer_iff (soon previous here) runs).mp least
  | success candidate durationMs =>
      have health : (step platform state event).1.health =
          success platform state.health candidate durationMs := by
        rw [step, action]
      rw [health]
      refine ⟨later.delete (key platform candidate false), ?_⟩
      refine iff_of_true (fun _ _ same => absurd (action.symm.trans same) (by simp)) ?_
      intro name found here _ other
      refine ⟨found, ?_, le_refl _⟩
      rw [health, success, getEntry_deleteEntry, if_neg (other candidate durationMs action)]
      exact here
  | restore value =>
      have health : (step platform state event).1.health =
          restore platform state.health value event.now := by
        rw [step, action]
      have known : ∀ entry ∈ restoredEntries value, entry.1 ∈ used := fun entry member =>
        fits.keys entry.1 (by
          rw [action]
          exact List.mem_map_of_mem member)
      obtain ⟨held, grown⟩ := @restore_spec platform _ _ _ event.now _ known
        (fun read => (fits.clock read).2) later
      rw [health]
      refine ⟨held, iff_of_true (fun _ _ same => absurd (action.symm.trans same) (by simp)) ?_⟩
      exact unshortened_of_grown (health ▸ grown)
  | attempts candidates =>
      have health := @step_health platform state event (Or.inl ⟨candidates, action⟩)
      rw [health]
      refine ⟨later, iff_of_true (fun _ _ same => absurd (action.symm.trans same) (by simp)) ?_⟩
      exact unshortened_of_grown (health ▸ Grown.refl _)
  | next iteration =>
      have health := @step_health platform state event (Or.inr ⟨iteration, action⟩)
      rw [health]
      refine ⟨later, iff_of_true (fun _ _ same => absurd (action.symm.trans same) (by simp)) ?_⟩
      exact unshortened_of_grown (health ▸ Grown.refl _)

theorem step_time (state : State) (event : Event) :
    (step platform state event).1.time = event.time := by
  rw [step]
  cases event.action with
  | next iteration =>
      dsimp only
      cases state.iterations[iteration]? <;> rfl
  | failure candidate error => rfl
  | success candidate durationMs => rfl
  | restore value => rfl
  | attempts candidates => rfl

end Steps

section Runs

variable (platform : Platform)

inductive Run (used : List Text) : List (Event × State) → State → Prop where
  | start (time : ℚ) : Run used []
      { health := { failures := [], slowSuccesses := [] }, iterations := [], time }
  | step {made : List (Event × State)} {state : State} (run : Run used made state) (event : Event)
      (fits : Fits platform used state event) :
      Run used (made ++ [(event, state)]) (step platform state event).1

def yieldsOf (iteration : Nat) (made : List (Event × State)) : List Attempt :=
  made.filterMap fun entry => (step platform entry.2 entry.1).2.bind fun yielded =>
    if yielded.1 = iteration then some yielded.2 else none

def Begun (made : List (Event × State)) (iteration : Nat) (entries : List (Candidate × Nat)) :
    Prop :=
  ∃ first ∈ made, ∃ candidates, first.1.action = .next iteration ∧
    first.2.iterations[iteration]? = some (.fresh candidates) ∧
    entries = admitted platform first.2.health candidates first.1.now ∧
    ∀ read, first.1.now read ≤ first.1.time

structure Tracked (made : List (Event × State)) (iterations : List Iteration) : Prop where
  running : ∀ iteration pending, iterations[iteration]? = some (.running pending) →
    ∃ entries, Begun platform made iteration entries ∧
      (yieldsOf platform iteration made ++ pending).Sublist (schedule entries)
  waiting : ∀ iteration, (∀ pending, iterations[iteration]? ≠ some (.running pending)) →
    yieldsOf platform iteration made = []

variable {platform}

theorem yieldsOf_append (iteration : Nat) (made : List (Event × State)) (event : Event)
    (state : State) :
    yieldsOf platform iteration (made ++ [(event, state)]) =
      yieldsOf platform iteration made ++ ((step platform state event).2.bind fun yielded =>
        if yielded.1 = iteration then some yielded.2 else none).toList := by
  rw [yieldsOf, List.filterMap_append, ← yieldsOf]
  cases kept : (step platform state event).2.bind fun yielded =>
    if yielded.1 = iteration then some yielded.2 else none with
  | none => simp [kept]
  | some attempt => simp [kept]

theorem Begun.append {made : List (Event × State)} {iteration : Nat}
    {entries : List (Candidate × Nat)} (begun : Begun platform made iteration entries)
    (entry : Event × State) : Begun platform (made ++ [entry]) iteration entries := by
  obtain ⟨first, member, candidates, facts⟩ := begun
  exact ⟨first, List.mem_append_left _ member, candidates, facts⟩

/-- A step that yields nothing and starts no iteration leaves the tracking as it is. -/
theorem Tracked.quiet {made : List (Event × State)} {state : State} {event : Event}
    (tracked : Tracked platform made state.iterations)
    (silent : (step platform state event).2 = none)
    (same : ∀ (iteration : Nat) (pending : List Attempt),
      (step platform state event).1.iterations[iteration]? = some (.running pending) ↔
        state.iterations[iteration]? = some (.running pending)) :
    Tracked platform (made ++ [(event, state)]) (step platform state event).1.iterations where
  running iteration pending here := by
    obtain ⟨entries, begun, sub⟩ :=
      tracked.running iteration pending ((same iteration pending).mp here)
    refine ⟨entries, begun.append _, ?_⟩
    rw [yieldsOf_append, silent]
    simpa using sub
  waiting iteration idle := by
    have earlier := tracked.waiting iteration fun pending here =>
      idle pending ((same iteration pending).mpr here)
    rw [yieldsOf_append, silent, earlier]
    rfl

/-- A step of an iteration, first or not, yields from the schedule it began with. -/
theorem Tracked.next {made : List (Event × State)} {state : State} {event : Event} {iteration : Nat}
    {current : Iteration} (tracked : Tracked platform made state.iterations)
    (clock : ∀ read, event.now read ≤ event.time) (action : event.action = .next iteration)
    (present : state.iterations[iteration]? = some current) :
    Tracked platform (made ++ [(event, state)]) (step platform state event).1.iterations := by
  obtain ⟨yielded, pending, ran⟩ : ∃ yielded pending,
      resume platform state.health (afterAdmission event.now current)
        (pendingOf platform state.health event.now current) = (yielded, pending) :=
    ⟨_, _, rfl⟩
  have result : step platform state event =
      ({ state with
          iterations := state.iterations.set iteration (.running pending)
          time := event.time }, yielded.map fun attempt => (iteration, attempt)) := by
    rw [step, action]
    simp only [present, ran]
  have bound : iteration < state.iterations.length := (List.getElem?_eq_some_iff.mp present).1
  -- what was yielded before, followed by what the loops had yet to come to
  have before : ∃ entries, Begun platform (made ++ [(event, state)]) iteration entries ∧
      (yieldsOf platform iteration made ++
        pendingOf platform state.health event.now current).Sublist (schedule entries) := by
    cases current with
    | fresh candidates =>
        refine ⟨_, ⟨(event, state), List.mem_append_right _ (List.mem_singleton_self _), candidates,
          action, present, rfl, clock⟩, ?_⟩
        rw [tracked.waiting iteration fun pending here => by simp [present] at here]
        exact List.Sublist.refl _
    | running pending =>
        obtain ⟨entries, begun, sub⟩ := tracked.running iteration pending present
        exact ⟨entries, begun.append _, sub⟩
  rw [result]
  constructor
  · intro other left here
    rw [List.getElem?_set] at here
    by_cases same : iteration = other
    · subst same
      rw [if_pos rfl, if_pos bound] at here
      obtain rfl : pending = left := Iteration.running.inj (Option.some.inj here)
      obtain ⟨entries, begun, sub⟩ := before
      refine ⟨entries, begun, ?_⟩
      rw [yieldsOf_append, result]
      have further := (resume_spec ran).1
      have moved : (Option.bind (yielded.map fun attempt => (iteration, attempt)) fun made =>
          if made.1 = iteration then some made.2 else none) = yielded := by
        cases yielded <;> simp
      rw [moved, List.append_assoc]
      exact (List.Sublist.append_left further _).trans sub
    · rw [if_neg same] at here
      obtain ⟨entries, begun, sub⟩ := tracked.running other left here
      refine ⟨entries, begun.append _, ?_⟩
      rw [yieldsOf_append, result]
      have moved : (Option.bind (yielded.map fun attempt => (iteration, attempt)) fun made =>
          if made.1 = other then some made.2 else none) = none := by
        cases yielded <;> simp [same]
      rw [moved]
      simpa using sub
  · intro other idle
    have different : iteration ≠ other := by
      rintro rfl
      exact idle pending (by rw [List.getElem?_set, if_pos rfl, if_pos bound])
    have earlier := tracked.waiting other fun left here =>
      idle left (by rw [List.getElem?_set, if_neg different, here])
    have moved : (Option.bind (yielded.map fun attempt => (iteration, attempt)) fun made =>
        if made.1 = other then some made.2 else none) = none := by
      cases yielded <;> simp [different]
    rw [yieldsOf_append, result, earlier, moved]
    rfl

theorem run_kept {used : List Text} {made : List (Event × State)} {state : State}
    (few : used.length ≤ 256) (run : Run platform used made state) :
    Kept used state.time state.health.failures ∧ Tracked platform made state.iterations := by
  induction run with
  | start time =>
      refine ⟨⟨List.nodup_nil, by simp, by simp⟩, ⟨by simp, fun _ _ => rfl⟩⟩
  | @step made state run event fits ih =>
      obtain ⟨kept, tracked⟩ := ih
      refine ⟨?_, ?_⟩
      · rw [step_time]
        exact (step_failures few fits kept).1
      · cases action : event.action with
        | failure candidate error =>
            exact tracked.quiet (by rw [step, action]) (by rw [step, action]; simp)
        | success candidate durationMs =>
            exact tracked.quiet (by rw [step, action]) (by rw [step, action]; simp)
        | restore value => exact tracked.quiet (by rw [step, action]) (by rw [step, action]; simp)
        | attempts candidates =>
            refine tracked.quiet (by rw [step, action]) fun iteration pending => ?_
            rw [step, action]
            dsimp only
            rcases lt_or_ge iteration state.iterations.length with inside | beyond
            · rw [List.getElem?_append_left inside]
            · rw [List.getElem?_append_right beyond, List.getElem?_eq_none beyond]
              cases iteration - state.iterations.length <;> simp
        | next iteration =>
            cases present : state.iterations[iteration]? with
            | none =>
                exact tracked.quiet (by rw [step, action]; simp [present])
                  (by rw [step, action]; simp [present])
            | some current =>
                exact tracked.next (fun read => (fits.clock read).2) action present

theorem run_split {used : List Text} {made earlier later : List (Event × State)} {state : State}
    {entry : Event × State} (run : Run platform used made state)
    (split : made = earlier ++ entry :: later) :
    Run platform used earlier entry.2 ∧ Fits platform used entry.2 entry.1 := by
  induction run generalizing later with
  | start time => simp at split
  | @step made state run event fits ih =>
      rcases List.eq_nil_or_concat later with rfl | ⟨front, last, rfl⟩
      · obtain ⟨rfl, same⟩ := List.append_inj' split rfl
        rw [← (List.cons.inj same).1]
        exact ⟨run, fits⟩
      · rw [List.concat_eq_append, ← List.cons_append, ← List.append_assoc] at split
        exact ih (List.append_inj' split rfl).1

structure Honoured (platform : Platform) (made : List (Event × State)) (entry : Event × State)
    (iteration : Nat) (attempt : Attempt) : Prop where
  /-- No cooldown of the credential runs, whatever the model. -/
  credential : ∀ other : Candidate, other.baseUrl = attempt.candidate.baseUrl →
    other.apiKey = attempt.candidate.apiKey →
    ∀ found, getEntry entry.2.health.failures (key platform other true) = some found →
      found.runsUntil ≤ entry.1.time
  /-- The model is not unavailable, nor after a timeout. -/
  model : ∀ found, getEntry entry.2.health.failures (key platform attempt.candidate false) =
    some found → found.reason = .modelUnavailable ∨ found.reason = .modelTimeout →
      found.runsUntil ≤ entry.1.time
  /-- No cooldown ran when the iteration began. -/
  begun : ∃ first ∈ made, ∃ candidates, first.1.action = .next iteration ∧
    first.2.iterations[iteration]? = some (.fresh candidates) ∧
    candidates[attempt.position]? = some attempt.candidate ∧
    ∀ credential found,
      getEntry first.2.health.failures (key platform attempt.candidate credential) = some found →
        found.runsUntil ≤ first.1.time

theorem step_yields {state : State} {event : Event} {iteration : Nat} {attempt : Attempt}
    (yielded : (step platform state event).2 = some (iteration, attempt)) :
    ∃ shift, skipped platform state.health attempt.candidate
      (fun read => event.now (shift + read)) = false := by
  rw [step] at yielded
  cases action : event.action with
  | next place =>
      rw [action] at yielded
      dsimp only at yielded
      cases present : state.iterations[place]? with
      | none => simp [present] at yielded
      | some current =>
          simp only [present, Option.map_eq_some_iff, Prod.mk.injEq] at yielded
          obtain ⟨same, ran, -, rfl⟩ := yielded
          obtain ⟨shift, free⟩ := (resume_spec rfl).2 same ran
          cases current with
          | fresh candidates => exact ⟨2 * candidates.length + shift, by
              simpa [afterAdmission, Nat.add_assoc] using free⟩
          | running pending => exact ⟨shift, free⟩
  | failure candidate error => simp [action] at yielded
  | success candidate durationMs => simp [action] at yielded
  | restore value => simp [action] at yielded
  | attempts candidates => simp [action] at yielded

theorem run_honoured {used : List Text} {made : List (Event × State)} {state : State}
    {event : Event} {iteration : Nat} {attempt : Attempt} (few : used.length ≤ 256)
    (run : Run platform used made state) (fits : Fits platform used state event)
    (yielded : (step platform state event).2 = some (iteration, attempt)) :
    Honoured platform (made ++ [(event, state)]) (event, state) iteration attempt := by
  have clock : ∀ read, event.now read ≤ event.time := fun read => (fits.clock read).2
  obtain ⟨shift, free⟩ := step_yields yielded
  obtain ⟨credential, model⟩ := not_skipped free fun read => clock _
  refine ⟨?_, model, ?_⟩
  · intro other base api found here
    have same : key platform other true = key platform attempt.candidate true := by
      simp only [key, base, api, if_true]
    exact credential found (same ▸ here)
  · have onward : Run platform used (made ++ [(event, state)]) (step platform state event).1 :=
      .step run event fits
    have tracked := (run_kept few onward).2
    have inside : attempt ∈ yieldsOf platform iteration (made ++ [(event, state)]) := by
      rw [yieldsOf_append, yielded]
      simp
    by_cases live : ∃ pending,
        (step platform state event).1.iterations[iteration]? = some (.running pending)
    · obtain ⟨pending, here⟩ := live
      obtain ⟨entries, ⟨first, member, candidates, action, fresh, rfl, bound⟩, sub⟩ :=
        tracked.running iteration pending here
      have place := mem_schedule (sub.subset (List.mem_append_left _ inside))
      obtain ⟨listed, clear⟩ := admitted_available bound place
      exact ⟨first, member, candidates, action, fresh, listed, clear⟩
    · rw [tracked.waiting iteration fun pending here => live ⟨pending, here⟩] at inside
      simp at inside

/-- Cooldowns are shortened exactly by milder failures; the iterations keep to them in every run. -/
theorem cooldowns_honoured {used : List Text} {made : List (Event × State)} {state : State}
    (few : used.length ≤ 256) (run : Run platform used made state) :
    ((∀ entry ∈ made, NotMilder platform entry.2 entry.1) ↔
      ∀ entry ∈ made, Unshortened platform entry.2 entry.1) ∧
    (∀ earlier entry later, made = earlier ++ entry :: later →
      ∀ iteration attempt, (step platform entry.2 entry.1).2 = some (iteration, attempt) →
        Honoured platform (earlier ++ [entry]) entry iteration attempt) ∧
    ∀ iteration position, (yieldsOf platform iteration made).countP
      (fun attempt => attempt.position == position) ≤ maxModelAttempts := by
  refine ⟨?_, ?_, ?_⟩
  · refine forall_congr' fun entry => forall_congr' fun member => ?_
    obtain ⟨earlier, later, split⟩ := List.append_of_mem member
    obtain ⟨before, fits⟩ := run_split run split
    exact (step_failures few fits (run_kept few before).1).2
  · intro earlier entry later split iteration attempt yielded
    obtain ⟨before, fits⟩ := run_split run split
    exact run_honoured few before fits yielded
  · intro iteration position
    have tracked := (run_kept few run).2
    by_cases live : ∃ pending, state.iterations[iteration]? = some (.running pending)
    · obtain ⟨pending, here⟩ := live
      obtain ⟨entries, ⟨first, -, candidates, -, -, rfl, -⟩, sub⟩ :=
        tracked.running iteration pending here
      have within := (List.sublist_append_left _ pending).trans sub
      exact (within.countP_le).trans
        (schedule_count (admitted_distinct first.2.health candidates first.1.now) position)
    · rw [tracked.waiting iteration fun pending here => live ⟨pending, here⟩]
      simp [maxModelAttempts]

end Runs

def sampleCandidate : Candidate where
  baseUrl := word "https://m.example"
  apiKey := word "sk-1"
  modelId := word "m-1"

def samplePlatform : Platform where
  sha256 text :=
    if text = word "[\"https://m.example\",\"sk-1\",\"m-1\"]" then
      word "beb53249963341012448b86d96ccb07ca26eac5c991fde7527596be4c85c3c78"
    else if text = word "[\"https://m.example\",\"sk-1\",null]" then
      word "2695b2f81121569e4972dc7b5fcc408aacca50c7e295a85a0da174bbc83b41a2"
    else text
  formatNumber _ := []
  toNumber value :=
    match value with
    | some (.num number) => some number
    | _ => none

def sampleLimit : ModelError where
  code := []
  message := word "Too many requests"
  status := some (.finite 429)

def sampleCrash : ModelError where
  code := []
  message := word "socket hang up"
  status := none

def sampleKey : Text :=
  key samplePlatform sampleCandidate false

def sampleStart : State where
  health := { failures := [], slowSuccesses := [] }
  iterations := []
  time := 0

def eventAt (action : Action) (time : ℚ) : Event where
  action
  now _ := time
  time

theorem sampleLimit_kind : sampleLimit.credential = false ∧ sampleLimit.unavailable = false ∧
    sampleLimit.rateLimited = true := by
  decide

theorem sampleCrash_kind : sampleCrash.credential = false ∧ sampleCrash.unavailable = false ∧
    sampleCrash.rateLimited = false ∧ sampleCrash.timeout = false := by
  decide

def sampleLimited : Event :=
  eventAt (.failure sampleCandidate sampleLimit) 0

def sampleCrashed : Event :=
  eventAt (.failure sampleCandidate sampleCrash) 1000

def sampleAfter : State :=
  (step samplePlatform sampleStart sampleLimited).1

theorem sampleLimited_fits : Fits samplePlatform [sampleKey] sampleStart sampleLimited where
  clock _ := ⟨le_refl _, le_refl _⟩
  keys name member := by
    rw [List.mem_singleton.mp member, failedKey, sampleLimit_kind.1]
    exact List.mem_singleton_self _

theorem sampleCrashed_fits : Fits samplePlatform [sampleKey] sampleAfter sampleCrashed where
  clock _ :=
    ⟨by norm_num [sampleAfter, step_time, sampleLimited, sampleCrashed, eventAt], le_refl _⟩
  keys name member := by
    rw [List.mem_singleton.mp member, failedKey, sampleCrash_kind.1]
    exact List.mem_singleton_self _

theorem sampleRun : Run samplePlatform [sampleKey]
    [(sampleLimited, sampleStart), (sampleCrashed, sampleAfter)]
    (step samplePlatform sampleAfter sampleCrashed).1 :=
  ((Run.start 0).step sampleLimited sampleLimited_fits).step sampleCrashed sampleCrashed_fits

theorem sampleAfter_failures (name : Text) : getEntry sampleAfter.health.failures name =
    if name = sampleKey then some (failureEntry none sampleLimit 0) else none := by
  have kept : Kept [sampleKey] 0 sampleStart.health.failures :=
    ⟨List.nodup_nil, by simp [sampleStart], by simp [sampleStart]⟩
  have named : failedKey samplePlatform sampleCandidate sampleLimit = sampleKey := by
    rw [failedKey, sampleLimit_kind.1, sampleKey]
  have shape := (@failure_kept samplePlatform [sampleKey] 0 _ sampleLimited.now sampleCandidate
    sampleLimit (by simp) (named ▸ List.mem_singleton_self _) (le_refl _) kept).1
  rw [named] at shape
  have health : sampleAfter.health.failures =
      (failure samplePlatform sampleStart.health sampleCandidate sampleLimit
        sampleLimited.now).1.failures := rfl
  rw [health, shape, getEntry_setEntry]
  rfl

theorem sampleAfter_entry :
    getEntry sampleAfter.health.failures sampleKey = some (failureEntry none sampleLimit 0) := by
  rw [sampleAfter_failures, if_pos rfl]

/-- A failure without a cooldown ends the minute after too many requests. -/
theorem cooldown_shortened :
    ∃ made state, Run samplePlatform [sampleKey] made state ∧
      ∃ entry ∈ made, ¬ Unshortened samplePlatform entry.2 entry.1 := by
  refine ⟨_, _, sampleRun, (sampleCrashed, sampleAfter), by simp, fun unshortened => ?_⟩
  have kept := (run_kept (by simp)
    ((Run.start 0).step sampleLimited sampleLimited_fits)).1
  have milder := (step_failures (by simp) sampleCrashed_fits kept).2.mpr unshortened
  have named : failedKey samplePlatform sampleCandidate sampleCrash = sampleKey := by
    rw [failedKey, sampleCrash_kind.1, sampleKey]
  have still : sampleCrashed.now 0 < (failureEntry none sampleLimit 0).runsUntil := by
    obtain ⟨credential, unavailable, limited⟩ := sampleLimit_kind
    norm_num [failureEntry, cooldownMs, credential, unavailable, limited, minute, sampleCrashed,
      eventAt]
  obtain ⟨credential, unavailable, limited, timeout⟩ := sampleCrash_kind
  have outcome := milder sampleCandidate sampleCrash rfl _ (named ▸ sampleAfter_entry) still
  rw [credential, unavailable, limited, timeout] at outcome
  have one : double 1 = 1 := by
    exact_mod_cast (double_int (by norm_num) : double ((1 : Int) : Rat) = ((1 : Int) : Rat))
  have two : double 2 = 2 := by
    exact_mod_cast (double_int (by norm_num) : double ((2 : Int) : Rat) = ((2 : Int) : Rat))
  norm_num [failureEntry, oneMore, exhausted, maxModelAttempts, one, two] at outcome

/-! The model is asked again when the minute is over. -/

def sampleOpened : Event :=
  eventAt (.attempts [sampleCandidate]) minute

def sampleAsked : Event :=
  eventAt (.next 0) minute

def sampleReady : State :=
  (step samplePlatform sampleAfter sampleOpened).1

theorem sampleReady_cooled (name : Text) : cooldown sampleReady.health name ≤ minute := by
  have kept : cooldown sampleReady.health name = cooldown sampleAfter.health name := rfl
  rw [kept]
  have entry := sampleAfter_failures name
  by_cases same : name = sampleKey
  · rw [if_pos same] at entry
    obtain ⟨credential, unavailable, limited⟩ := sampleLimit_kind
    rw [cooldown_found entry]
    norm_num [failureEntry, cooldownMs, credential, unavailable, limited]
  · rw [if_neg same] at entry
    rw [cooldown, entry]
    norm_num [minute]

theorem sampleYielded : (step samplePlatform sampleReady sampleAsked).2 =
    some (0, { position := 0, candidate := sampleCandidate, modelAttempt := 1 }) := by
  have ready : sampleReady.iterations[0]? = some (.fresh [sampleCandidate]) := rfl
  have listed : admitted samplePlatform sampleReady.health [sampleCandidate] sampleAsked.now =
      [(sampleCandidate, 0)] := by
    simp [admitted, available, sampleReady_cooled, sampleAsked, eventAt]
  have resumed : ∀ now : Readings, (∀ read, now read = minute) →
      skipped samplePlatform sampleReady.health sampleCandidate now = false := by
    intro now clock
    simp [skipped, available, clock, sampleReady_cooled]
  simp only [step, sampleAsked, eventAt, ready, pendingOf, afterAdmission, schedule,
    maxModelAttempts] at listed ⊢
  simp [listed, List.range', resume, resumed]

/-- The model is yielded a minute after too many requests, and the cooldown is honoured. -/
theorem cooldowns_honoured_later :
    Honoured samplePlatform
        [(sampleLimited, sampleStart), (sampleOpened, sampleAfter), (sampleAsked, sampleReady)]
        (sampleAsked, sampleReady) 0
        { position := 0, candidate := sampleCandidate, modelAttempt := 1 } ∧
      Unshortened samplePlatform sampleAfter sampleOpened := by
  have opened : Fits samplePlatform [sampleKey] sampleAfter sampleOpened :=
    ⟨fun _ => ⟨by norm_num [sampleAfter, step_time, sampleLimited, sampleOpened, eventAt, minute],
      le_refl _⟩, by simp [sampleOpened, eventAt, keysSet]⟩
  have asked : Fits samplePlatform [sampleKey] sampleReady sampleAsked :=
    ⟨fun _ => ⟨le_refl _, le_refl _⟩, by simp [sampleAsked, eventAt, keysSet]⟩
  have run : Run samplePlatform [sampleKey]
      [(sampleLimited, sampleStart), (sampleOpened, sampleAfter), (sampleAsked, sampleReady)]
      (step samplePlatform sampleReady sampleAsked).1 :=
    (((Run.start 0).step sampleLimited sampleLimited_fits).step sampleOpened opened).step
      sampleAsked asked
  have honoured := cooldowns_honoured (by simp) run
  refine ⟨honoured.2.1 [(sampleLimited, sampleStart), (sampleOpened, sampleAfter)]
    (sampleAsked, sampleReady) [] rfl 0 _ sampleYielded,
    honoured.1.mp ?_ (sampleOpened, sampleAfter) (by simp)⟩
  intro entry member candidate error action previous found
  simp only [List.mem_cons, List.not_mem_nil, or_false] at member
  rcases member with rfl | rfl | rfl
  · cases found
  · exact absurd action (by simp [sampleOpened, eventAt])
  · exact absurd action (by simp [sampleAsked, eventAt])

end Devproof.ModelHealth
