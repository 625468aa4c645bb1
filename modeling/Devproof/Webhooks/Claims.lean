import Devproof.Webhooks.DeliveryRuns

/-!
Deliveries over whole runs of the workers.
-/

namespace Devproof

namespace TaskWebhooks

abbrev Workers := System WebhookTables Call (Except String Answer)

section Runs

variable (allowedOrigin : String → Bool)

def steps : SystemMove Call Change → Workers → Outcome Workers Empty :=
  System.step (serve allowedOrigin) changed

def opened (start : Change) : Workers :=
  { shared := { start with drawn := 0, deliveries := [] }, running := [] }

def rowOf (id : Nat) (tables : WebhookTables) : Option TaskWebhookDelivery :=
  tables.deliveries.find? fun row => row.id == id

def countClaim (id : Nat) (before after : WebhookTables) (count : Nat) : Nat :=
  match rowOf id before, rowOf id after with
  | some row, some next =>
      if row.status = .failed ∧ next.status = .pending then 0
      else if next.leaseToken ≠ none ∧ next.leaseToken ≠ row.leaseToken then count + 1
      else count
  | _, _ => 0

def claimsOf (id : Nat) : List (SystemMove Call Change) → Workers → Nat → Nat
  | [], _, count => count
  | move :: rest, system, count =>
      claimsOf id rest (steps allowedOrigin move system).state
        (countClaim id system.shared (steps allowedOrigin move system).state.shared count)

end Runs

section Runs

variable {allowedOrigin : String → Bool}

structure Reliable (system : Workers) : Prop where
  orderly : system.Orderly Lawful Later fun _ _ _ => True
  careful : system.Careful Behaves

theorem opened_reliable (start : Change) : Reliable (opened start) := by
  refine ⟨⟨⟨List.nodup_nil, List.nodup_nil, ?_⟩, ?_⟩, ?_⟩
  · intro row member
    cases member
  · intro running member
    cases member
  · intro running member
    cases member

theorem reliable_run {system : Workers} (reliable : Reliable system)
    (moves : List (SystemMove Call Change)) :
    Reliable (arrival (steps allowedOrigin) moves system) :=
  ⟨(System.orderly_run rules reliable.orderly fun _ _ => trivial).1,
    System.careful_run serve_behaves reliable.careful moves⟩

theorem reliable_step {system : Workers} (reliable : Reliable system)
    (move : SystemMove Call Change) : Reliable (steps allowedOrigin move system).state :=
  reliable_run reliable [move]

def StepOf (system : Workers) (move : SystemMove Call Change) (call : Call) : Prop :=
  ∃ place program, move = .tick place ∧ system.running[place]? = some { call, program }

structure MoveRows (system after : Workers) (move : SystemMove Call Change) : Prop where
  old : Persists TaskWebhookDelivery.id
    (fun row next => next = row ∨ ∃ call, StepOf system move call ∧ RowStep call row next)
    system.shared.deliveries after.shared.deliveries
  new : ∀ next ∈ after.shared.deliveries,
    (∃ row ∈ system.shared.deliveries, row.id = next.id) ∨
      (next.attempts = 0 ∧ next.leaseToken = none ∧ next.status = .pending)

theorem moveRows_same {system after : Workers} (move : SystemMove Call Change)
    (same : after.shared.deliveries = system.shared.deliveries) :
    MoveRows system after move := by
  refine ⟨?_, ?_⟩
  · rw [same]
    exact persists_refl fun _ _ => .inl rfl
  · intro next member
    rw [same] at member
    exact .inl ⟨next, member, rfl⟩

theorem move_rows {system : Workers} (reliable : Reliable system)
    (move : SystemMove Call Change) :
    MoveRows system (steps allowedOrigin move system).state move := by
  cases move with
  | start call => exact moveRows_same _ rfl
  | change what => exact moveRows_same _ rfl
  | tick place =>
      cases here : system.running[place]? with
      | none => exact moveRows_same _ (by simp [steps, System.step, here])
      | some running =>
          obtain ⟨call, program⟩ := running
          rcases System.tick_careful reliable.careful here with same | ⟨left, -, behaves⟩
          · exact moveRows_same _ (congrArg (fun reached : Workers => reached.shared.deliveries) same)
          · obtain ⟨step, -⟩ := behaves reliable.orderly.shared
            refine ⟨step.old.trans (persists_refl fun _ _ => rfl) ?_, step.new⟩
            rintro row next _ (rfl | stepped) rfl
            · exact .inl rfl
            · exact .inr ⟨call, ⟨place, program, rfl, here⟩, stepped⟩

theorem rowOf_mem {tables : WebhookTables} {row : TaskWebhookDelivery}
    (distinct : (tables.deliveries.map TaskWebhookDelivery.id).Nodup)
    (member : row ∈ tables.deliveries) : rowOf row.id tables = some row := by
  unfold rowOf
  cases found : tables.deliveries.find? fun other => other.id == row.id with
  | none => simpa using List.find?_eq_none.mp found row member
  | some other =>
      have same : other.id = row.id := by simpa using List.find?_some found
      rw [row_unique distinct (List.mem_of_find?_eq_some found) member same]

theorem rowOf_none {id : Nat} {tables : WebhookTables}
    (absent : ∀ row ∈ tables.deliveries, row.id ≠ id) : rowOf id tables = none := by
  refine List.find?_eq_none.mpr ?_
  intro row member
  simpa using absent row member

theorem countClaim_attempts {system : Workers} (reliable : Reliable system)
    (move : SystemMove Call Change) {id count : Nat}
    (counted : ∀ row ∈ system.shared.deliveries, row.id = id → row.attempts = count) :
    ∀ next ∈ (steps allowedOrigin move system).state.shared.deliveries, next.id = id →
      next.attempts =
        countClaim id system.shared (steps allowedOrigin move system).state.shared count := by
  intro next member ident
  have rows := @move_rows allowedOrigin _ reliable move
  have after := (@reliable_step allowedOrigin _ reliable move).orderly.shared.ids
  have before := reliable.orderly.shared
  have found := rowOf_mem after member
  rw [ident] at found
  unfold countClaim
  by_cases known : ∃ row ∈ system.shared.deliveries, row.id = id
  · obtain ⟨row, present, same⟩ := known
    have here := rowOf_mem before.ids present
    rw [same] at here
    rw [here, found]
    have attempts := counted row present same
    rcases rows.old.found after present member (ident.trans same.symm) with rfl | ⟨call, -, step⟩
    · simp only [ne_eq, not_true_eq_false, and_false, if_false]
      rw [if_neg, attempts]
      rintro ⟨failed, pending⟩
      rw [failed] at pending
      cases pending
    · cases step with
      | claimed _ pending _ other =>
          dsimp only
          rw [if_neg fun both => absurd (pending.symm.trans both.1) (by decide), if_pos]
          · exact congrArg (· + 1) attempts
          · exact ⟨Option.some_ne_none _, fun same => other same.symm⟩
      | settled _ _ _ pending _ idle kept =>
          dsimp only
          rw [if_neg fun both => absurd (pending.symm.trans both.1) (by decide),
            if_neg fun both => both.1 idle, kept, attempts]
      | reset failed =>
          dsimp only
          rw [if_pos ⟨failed, rfl⟩]
          rfl
  · rw [rowOf_none fun row present same => known ⟨row, present, same⟩]
    rcases rows.new next member with ⟨row, present, same⟩ | ⟨none, -, -⟩
    · exact absurd ⟨row, present, same.trans ident⟩ known
    · exact none

theorem attempts_counted {system : Workers} (reliable : Reliable system)
    (moves : List (SystemMove Call Change)) {id count : Nat}
    (counted : ∀ row ∈ system.shared.deliveries, row.id = id → row.attempts = count) :
    ∀ row ∈ (arrival (steps allowedOrigin) moves system).shared.deliveries, row.id = id →
      row.attempts = claimsOf allowedOrigin id moves system count := by
  induction moves generalizing system count with
  | nil => exact counted
  | cons move rest ih =>
      exact ih (reliable_step reliable move) (countClaim_attempts reliable move counted)

theorem ended_kept {system : Workers} (reliable : Reliable system) {row : TaskWebhookDelivery}
    (member : row ∈ system.shared.deliveries)
    (ended : row.status = .delivered ∨ row.status = .cancelled)
    (moves : List (SystemMove Call Change)) :
    row ∈ (arrival (steps allowedOrigin) moves system).shared.deliveries := by
  induction moves generalizing system with
  | nil => exact member
  | cons move rest ih =>
      refine ih (reliable_step reliable move) ?_
      obtain ⟨next, present, -, same | ⟨call, -, step⟩⟩ :=
        (@move_rows allowedOrigin _ reliable move).old row member
      · exact same ▸ present
      · cases step with
        | claimed _ pending => rw [pending] at ended; simp at ended
        | settled _ _ _ pending => rw [pending] at ended; simp at ended
        | reset failed => rw [failed] at ended; simp at ended

/-- Who takes a lease goes on holding it. -/
theorem taken_holding {system : Workers} (reliable : Reliable system) {place : Nat} {call : Call}
    {program : Request} (here : system.running[place]? = some { call, program })
    {row next : TaskWebhookDelivery} (member : row ∈ system.shared.deliveries)
    (present : next ∈ (steps allowedOrigin (.tick place) system).state.shared.deliveries)
    (same : next.id = row.id) {token : LeaseToken} (held : next.leaseToken = some token)
    (other : row.leaseToken ≠ some token) :
    ∃ rest, (steps allowedOrigin (.tick place) system).state.running[place]? =
      some { call, program := rest } ∧ rest.Every (Holding token) := by
  rcases System.tick_careful reliable.careful here with unchanged | ⟨left, there, behaves⟩
  · unfold steps at present
    rw [unchanged] at present
    rw [row_unique reliable.orderly.shared.ids present member same] at held
    exact absurd held other
  · exact ⟨left, there,
      (behaves reliable.orderly.shared).2 row member next present same token held other⟩

theorem lost_lease_unchanged {system : Workers} {place : Nat} {call : Call} {token : LeaseToken}
    (holding : ∃ rest, system.running[place]? = some { call, program := rest } ∧
      rest.Every (Holding token))
    (lost : ∀ row ∈ system.shared.deliveries, row.leaseToken ≠ some token) :
    (steps allowedOrigin (.tick place) system).state.shared.deliveries =
      system.shared.deliveries := by
  obtain ⟨rest, here, every⟩ := holding
  simp only [steps, System.step, Outcome.done_state, here]
  cases rest with
  | answer result => rfl
  | step update next => exact (every system.shared).1 lost

/-- At every moment of every run: an event has one delivery for a webhook; a row changes only by a
    claim or the end of its lease, both of the worker with that lease, or by a retry of a failed
    one; a row that is delivered or cancelled stays as it is; a failed one was claimed eight times
    since it was created or retried; and a worker whose lease was taken over changes nothing. -/
theorem deliveries_fenced (start : Change) (moves : List (SystemMove Call Change)) :
    let system := arrival (steps allowedOrigin) moves (opened start)
    (system.shared.deliveries.map fun row => (row.webhookId, row.eventId)).Nodup ∧
    (∀ move, MoveRows system (steps allowedOrigin move system).state move) ∧
    (∀ row ∈ system.shared.deliveries, row.status = .delivered ∨ row.status = .cancelled →
      ∀ later, row ∈ (arrival (steps allowedOrigin) later system).shared.deliveries) ∧
    (∀ row ∈ system.shared.deliveries,
      row.attempts = claimsOf allowedOrigin row.id moves (opened start) 0 ∧
      (row.status = .failed → 8 ≤ claimsOf allowedOrigin row.id moves (opened start) 0)) ∧
    ∀ place call program, system.running[place]? = some { call, program } →
      ∀ row ∈ system.shared.deliveries,
      ∀ next ∈ (steps allowedOrigin (.tick place) system).state.shared.deliveries,
      ∀ token, next.id = row.id → next.leaseToken = some token → row.leaseToken ≠ some token →
      ∀ later taken,
        taken = arrival (steps allowedOrigin) later
          (steps allowedOrigin (.tick place) system).state →
        (∀ row ∈ taken.shared.deliveries, row.leaseToken ≠ some token) →
        (steps allowedOrigin (.tick place) taken).state.shared.deliveries =
          taken.shared.deliveries := by
  intro system
  have reliable : Reliable system := reliable_run (opened_reliable start) moves
  refine ⟨reliable.orderly.shared.once, move_rows reliable, ?_, ?_, ?_⟩
  · intro row member ended later
    exact ended_kept reliable member ended later
  · intro row member
    have attempts : row.attempts = claimsOf allowedOrigin row.id moves (opened start) 0 :=
      attempts_counted (opened_reliable start) moves
        (fun _ none => by cases none) row member rfl
    refine ⟨attempts, ?_⟩
    intro failed
    rw [← attempts]
    exact (reliable.orderly.shared.sound row member).failed failed
  · intro place call program here row member next present token same held other later taken reached lost
    subst reached
    exact lost_lease_unchanged
      (System.place_every_run (taken_holding reliable here member present same held other) later)
      lost

end Runs

end TaskWebhooks

end Devproof
