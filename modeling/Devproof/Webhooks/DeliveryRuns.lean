import Devproof.Webhooks.Deliveries

/-!
Runs of the webhook workers: who changes a delivery, and how often it was
claimed.
-/

namespace Devproof

namespace TaskWebhooks

structure Sound (drawn : Nat) (row : TaskWebhookDelivery) : Prop where
  known : row.id < drawn
  token : ∀ token, row.leaseToken = some token → token.serial < drawn ∧ row.status = .pending
  failed : row.status = .failed → 8 ≤ row.attempts

structure Lawful (tables : WebhookTables) : Prop where
  ids : (tables.deliveries.map TaskWebhookDelivery.id).Nodup
  once : (tables.deliveries.map fun row => (row.webhookId, row.eventId)).Nodup
  sound : ∀ row ∈ tables.deliveries, Sound tables.drawn row

def Follows (drawn : Nat) (row next : TaskWebhookDelivery) : Prop :=
  ∀ token, token.serial < drawn → next.leaseToken = some token →
    row.leaseToken = some token ∧ next.attempts = row.attempts

structure Later (earlier tables : WebhookTables) : Prop where
  drawn : earlier.drawn ≤ tables.drawn
  rows : Persists TaskWebhookDelivery.id (Follows earlier.drawn) earlier.deliveries
    tables.deliveries

theorem follows_refl (drawn : Nat) (row : TaskWebhookDelivery) : Follows drawn row row :=
  fun _ _ here => ⟨here, rfl⟩

theorem Later.refl (tables : WebhookTables) : Later tables tables :=
  ⟨Nat.le_refl _, persists_refl fun row _ => follows_refl _ row⟩

theorem Later.trans {first second third : WebhookTables} (here : Later first second)
    (there : Later second third) : Later first third := by
  refine ⟨Nat.le_trans here.drawn there.drawn, here.rows.trans there.rows ?_⟩
  intro row middle next step further token bound held
  obtain ⟨before, same⟩ := further token (Nat.lt_of_lt_of_le bound here.drawn) held
  obtain ⟨early, same'⟩ := step token bound before
  exact ⟨early, same.trans same'⟩

theorem Sound.mono {drawn later : Nat} {row : TaskWebhookDelivery} (sound : Sound drawn row)
    (onward : drawn ≤ later) : Sound later row := by
  refine ⟨Nat.lt_of_lt_of_le sound.known onward, ?_, sound.failed⟩
  intro token held
  obtain ⟨bound, pending⟩ := sound.token token held
  exact ⟨Nat.lt_of_lt_of_le bound onward, pending⟩

inductive RowStep : Call → TaskWebhookDelivery → TaskWebhookDelivery → Prop where
  /-- A worker claims a pending row with a token of its own. -/
  | claimed {worker id reply saved row token now} : row.id = id → row.status = .pending →
      token.worker = worker → row.leaseToken ≠ some token →
      RowStep (.deliver worker id reply saved) row (claimed token now row)
  /-- The worker that holds the lease ends it. -/
  | settled {worker id reply saved row next token} : row.id = id →
      row.leaseToken = some token → token.worker = worker → row.status = .pending →
      next.id = row.id → next.leaseToken = none → next.attempts = row.attempts →
      RowStep (.deliver worker id reply saved) row next
  /-- A failed row starts again. -/
  | reset {current taskId webhookId row now} : row.status = .failed → row.leaseToken = none →
      RowStep (.retryDelivery current taskId webhookId row.id) row (reset now row)

structure RowsStep (call : Call) (tables after : WebhookTables) : Prop where
  old : Persists TaskWebhookDelivery.id (fun row next => next = row ∨ RowStep call row next)
    tables.deliveries after.deliveries
  new : ∀ next ∈ after.deliveries, (∃ row ∈ tables.deliveries, row.id = next.id) ∨
    (next.attempts = 0 ∧ next.leaseToken = none ∧ next.status = .pending)

theorem rowsStep_refl (call : Call) (tables : WebhookTables) : RowsStep call tables tables :=
  ⟨persists_refl fun _ _ => .inl rfl, fun next member => .inl ⟨next, member, rfl⟩⟩

theorem rowsStep_updateWhere {call : Call} {tables after : WebhookTables}
    {allowed : TaskWebhookDelivery → Bool} {write : TaskWebhookDelivery → TaskWebhookDelivery}
    (rows : after.deliveries = updateWhere allowed write tables.deliveries)
    (keeps : ∀ row, (write row).id = row.id)
    (steps : ∀ row ∈ tables.deliveries, allowed row = true → RowStep call row (write row)) :
    RowsStep call tables after := by
  refine ⟨?_, ?_⟩
  · rw [rows]
    exact persists_updateWhere keeps (fun _ _ => .inl rfl) fun row member here =>
      .inr (steps row member here)
  · intro next member
    rw [rows] at member
    obtain ⟨row, present, rfl⟩ := List.mem_map.mp member
    refine .inl ⟨row, present, ?_⟩
    split
    · exact (keeps row).symm
    · rfl

theorem lawful_updateWhere {tables : WebhookTables} {drawn : Nat}
    {allowed : TaskWebhookDelivery → Bool} {write : TaskWebhookDelivery → TaskWebhookDelivery}
    (lawful : Lawful tables) (onward : tables.drawn ≤ drawn)
    (keeps : ∀ row, (write row).id = row.id ∧ (write row).webhookId = row.webhookId ∧
      (write row).eventId = row.eventId)
    (kept : ∀ row ∈ tables.deliveries, allowed row = true → Sound tables.drawn row →
      Sound drawn (write row)) :
    Lawful { tables with
      drawn, deliveries := updateWhere allowed write tables.deliveries } := by
  refine ⟨?_, ?_, ?_⟩
  · rw [keys_updateWhere fun row => (keeps row).1]
    exact lawful.ids
  · rw [keys_updateWhere fun row => by rw [(keeps row).2.1, (keeps row).2.2]]
    exact lawful.once
  · intro row member
    obtain ⟨old, present, rfl⟩ := List.mem_map.mp member
    have sound := lawful.sound old present
    dsimp only
    split
    · exact kept old present ‹_› sound
    · exact sound.mono onward

theorem claim_lawful {worker id : Nat} {tables : WebhookTables} (lawful : Lawful tables) :
    Lawful (claim worker id tables).1 ∧ Later tables (claim worker id tables).1 := by
  refine ⟨lawful_updateWhere lawful (Nat.le_succ _) (fun _ => ⟨rfl, rfl, rfl⟩) ?_, ?_⟩
  · intro row _ here sound
    simp only [claimable, Bool.and_eq_true, beq_iff_eq] at here
    have pending := here.2.1.1
    refine ⟨Nat.lt_succ_of_lt sound.known, ?_, ?_⟩
    · rintro _ ⟨⟩
      exact ⟨Nat.lt_succ_self _, pending⟩
    · intro failed
      rw [claimed, pending] at failed
      cases failed
  · refine ⟨Nat.le_succ _, persists_updateWhere (fun _ => rfl)
      (fun row _ => follows_refl _ row) ?_⟩
    rintro row - - token bound ⟨⟩
    exact absurd bound (Nat.lt_irrefl _)

structure Settles (write : TaskWebhookDelivery → TaskWebhookDelivery) : Prop where
  id : ∀ row, (write row).id = row.id
  webhookId : ∀ row, (write row).webhookId = row.webhookId
  eventId : ∀ row, (write row).eventId = row.eventId
  token : ∀ row, (write row).leaseToken = none
  attempts : ∀ row, (write row).attempts = row.attempts

theorem cancelled_settles (now : Int) : Settles (cancelled now) :=
  ⟨fun _ => rfl, fun _ => rfl, fun _ => rfl, fun _ => rfl, fun _ => rfl⟩

theorem delivered_settles (now : Int) : Settles (delivered now) :=
  ⟨fun _ => rfl, fun _ => rfl, fun _ => rfl, fun _ => rfl, fun _ => rfl⟩

theorem retried_settles (attempts : Nat) (message : String) (now : Int) :
    Settles (retried attempts message now) :=
  ⟨fun _ => rfl, fun _ => rfl, fun _ => rfl, fun _ => rfl, fun _ => rfl⟩

theorem fenced_lawful {id : Nat} {token : LeaseToken}
    {write : Int → TaskWebhookDelivery → TaskWebhookDelivery} {tables : WebhookTables}
    (lawful : Lawful tables) (settles : Settles (write tables.now))
    (fails : ∀ row ∈ tables.deliveries, row.id = id → row.leaseToken = some token →
      (write tables.now row).status = .failed → 8 ≤ row.attempts) :
    Lawful (fenced id token write tables) ∧ Later tables (fenced id token write tables) := by
  refine ⟨lawful_updateWhere lawful (Nat.le_refl _)
    (fun row => ⟨settles.id row, settles.webhookId row, settles.eventId row⟩) ?_, ?_⟩
  · intro row member here sound
    simp only [Bool.and_eq_true, beq_iff_eq] at here
    refine ⟨by rw [settles.id]; exact sound.known, ?_, ?_⟩
    · intro other held
      rw [settles.token] at held
      cases held
    · intro failed
      rw [settles.attempts]
      exact fails row member here.1 here.2 failed
  · refine ⟨Nat.le_refl _, persists_updateWhere settles.id (fun row _ => follows_refl _ row) ?_⟩
    intro row _ _ other _ held
    rw [settles.token] at held
    cases held

theorem reset_lawful {allowed : TaskWebhookDelivery → Bool} {now : Int} {tables : WebhookTables}
    (lawful : Lawful tables) :
    Lawful { tables with deliveries := updateWhere allowed (reset now) tables.deliveries } ∧
      Later tables
        { tables with deliveries := updateWhere allowed (reset now) tables.deliveries } := by
  refine ⟨lawful_updateWhere lawful (Nat.le_refl _) (fun _ => ⟨rfl, rfl, rfl⟩) ?_, Nat.le_refl _,
    persists_updateWhere (fun _ => rfl) (fun row _ => follows_refl _ row) ?_⟩
  · intro row _ _ sound
    refine ⟨sound.known, ?_, ?_⟩
    · intro token held
      cases held
    · intro failed
      cases failed
  · intro row _ _ token _ held
    cases held

theorem createDelivery_lawful {webhookId eventId : String} {tables : WebhookTables}
    (lawful : Lawful tables) :
    Lawful (createDelivery webhookId tables eventId) ∧
      Later tables (createDelivery webhookId tables eventId) := by
  unfold createDelivery
  split
  · exact ⟨lawful, Later.refl tables⟩
  · rename_i absent
    refine ⟨⟨?_, ?_, ?_⟩, Nat.le_succ _, persists_append (fun row _ => follows_refl _ row) _⟩
    · rw [List.map_append]
      refine List.nodup_append'.mpr ⟨lawful.ids, List.nodup_singleton _, ?_⟩
      intro id member last
      obtain ⟨row, present, rfl⟩ := List.mem_map.mp member
      have known := (lawful.sound row present).known
      rw [List.mem_singleton.mp last] at known
      exact Nat.lt_irrefl _ known
    · rw [List.map_append]
      refine List.nodup_append'.mpr ⟨lawful.once, List.nodup_singleton _, ?_⟩
      intro pair member last
      obtain ⟨row, present, rfl⟩ := List.mem_map.mp member
      have same := List.mem_singleton.mp last
      simp only [Prod.mk.injEq] at same
      exact absent (List.any_eq_true.mpr ⟨row, present, by simp [same.1, same.2]⟩)
    · intro row member
      rcases List.mem_append.mp member with known | added
      · exact (lawful.sound row known).mono (Nat.le_succ _)
      · rw [List.mem_singleton.mp added]
        refine ⟨Nat.lt_succ_self _, ?_, ?_⟩
        · intro token held
          cases held
        · intro failed
          cases failed

theorem createMany_lawful {webhookId : String} {eventIds : List String} {tables : WebhookTables}
    (lawful : Lawful tables) :
    Lawful (createMany webhookId eventIds tables) ∧
      Later tables (createMany webhookId eventIds tables) := by
  refine foldl_invariant (fun reached => Lawful reached ∧ Later tables reached)
    ⟨lawful, Later.refl tables⟩ ?_
  rintro state eventId - ⟨kept, later⟩
  obtain ⟨next, onward⟩ := createDelivery_lawful kept
  exact ⟨next, later.trans onward⟩

theorem createMany_rows (call : Call) {webhookId : String} {eventIds : List String}
    {tables : WebhookTables} : RowsStep call tables (createMany webhookId eventIds tables) := by
  refine foldl_invariant (RowsStep call tables) (rowsStep_refl call tables) ?_
  intro state eventId _ step
  unfold createDelivery
  split
  · exact step
  · refine ⟨step.old.trans (persists_append (fun _ _ => rfl) _)
      fun row middle next here same => same ▸ here, ?_⟩
    intro next member
    rcases List.mem_append.mp member with known | added
    · exact step.new next known
    · rw [List.mem_singleton.mp added]
      exact .inr ⟨rfl, rfl, rfl⟩

section Calls

variable {allowedOrigin : String → Bool}

theorem readDelivery_row {id : Nat} {tables : WebhookTables} {row : TaskWebhookDelivery}
    {hook : TaskWebhook} {credential : ToolCredential}
    (found : readDelivery id tables = some (row, hook, credential)) :
    row ∈ tables.deliveries ∧ row.id = id := by
  simp only [readDelivery, Option.bind_eq_bind, Option.bind_eq_some_iff, Option.pure_def,
    Option.some.injEq] at found
  obtain ⟨other, here, _, -, same⟩ := found
  cases same
  exact ⟨List.mem_of_find?_eq_some here, by simpa using List.find?_some here⟩

theorem settle_obeys {id : Nat} {token : LeaseToken}
    {write : Int → TaskWebhookDelivery → TaskWebhookDelivery} (settles : ∀ now, Settles (write now))
    {tables : WebhookTables}
    (fails : ∀ now, Later tables now → Lawful now → ∀ row ∈ now.deliveries, row.id = id →
      row.leaseToken = some token → (write now.now row).status = .failed → 8 ≤ row.attempts) :
    (settle id token write).Obeys Lawful Later (fun _ _ => True) tables := by
  refine Program.obeys_commit Later.refl (fun now after _ onward lawful wrote => ?_)
    fun _ _ _ _ _ => trivial
  cases wrote
  obtain ⟨kept, later⟩ := fenced_lawful lawful (settles now.now) (fails now onward lawful)
  exact ⟨kept, later, trivial⟩

theorem retried_fails {id : Nat} {token : LeaseToken} {message : String} {read : WebhookTables}
    {row : TaskWebhookDelivery} (member : row ∈ read.deliveries) (ident : row.id = id)
    (drawn : token.serial < read.drawn) (now : WebhookTables) (later : Later read now)
    (lawful : Lawful now) :
    ∀ next ∈ now.deliveries, next.id = id → next.leaseToken = some token →
      (retried row.attempts message now.now next).status = .failed → 8 ≤ next.attempts := by
  intro next present same held failed
  obtain ⟨-, attempts⟩ :=
    later.rows.found lawful.ids member present (same.trans ident.symm) token drawn held
  rw [attempts]
  by_contra few
  simp [retried, few] at failed

theorem attempt_obeys {id : Nat} {reply : Reply} {saved : Bool} {token : LeaseToken} {now : Int}
    {tables : WebhookTables} (drawn : token.serial < tables.drawn) :
    (attempt allowedOrigin id reply saved token now).Obeys Lawful Later (fun _ _ => True)
      tables := by
  refine Program.obeys_read Later.refl fun read onward lawful => ?_
  have bound := Nat.lt_of_lt_of_le drawn onward.drawn
  split
  · trivial
  · rename_i row hook credential found
    obtain ⟨member, ident⟩ := readDelivery_row found
    split
    · exact settle_obeys cancelled_settles fun _ _ _ _ _ _ _ failed => by cases failed
    · split
      · exact settle_obeys (retried_settles _ _) (retried_fails member ident bound)
      · split
        · exact settle_obeys delivered_settles fun _ _ _ _ _ _ _ failed => by cases failed
        · exact settle_obeys (retried_settles _ _) (retried_fails member ident bound)

theorem claim_token {worker id : Nat} {tables : WebhookTables} {token : LeaseToken} {now : Int}
    (taken : (claim worker id tables).2 = some (token, now)) :
    token = { serial := tables.drawn, worker } ∧ (claim worker id tables).1.drawn =
      tables.drawn + 1 := by
  unfold claim at taken
  dsimp only at taken
  split at taken
  · cases taken
    exact ⟨rfl, rfl⟩
  · cases taken

theorem pollHooks_obeys {rest : Request}
    (obeys : ∀ tables, rest.Obeys Lawful Later (fun _ _ => True) tables)
    (hooks : List TaskWebhook) (tables : WebhookTables) :
    (pollHooks rest hooks).Obeys Lawful Later (fun _ _ => True) tables := by
  induction hooks generalizing tables with
  | nil => exact obeys tables
  | cons hook hooks ih =>
      refine Program.obeys_read Later.refl fun read _ _ => ?_
      split
      · exact ih read
      · refine Program.obeys_commit Later.refl (fun now after _ _ lawful wrote => ?_)
          fun _ _ _ _ _ => trivial
        cases wrote
        obtain ⟨kept, later⟩ := createMany_lawful lawful
        exact ⟨kept, later, ih _⟩

theorem poll_obeys (pages : Nat) (cursor : Option String) (tables : WebhookTables) :
    (poll pages cursor).Obeys Lawful Later (fun _ _ => True) tables := by
  induction pages generalizing cursor tables with
  | zero => trivial
  | succ pages ih =>
      refine Program.obeys_read Later.refl fun read _ _ => ?_
      refine pollHooks_obeys (fun now => ?_) _ read
      split
      · exact Program.obeys_read Later.refl fun _ _ _ => trivial
      · exact ih _ now

theorem serve_obeys (call : Call) (tables : WebhookTables) :
    (serve allowedOrigin call).Obeys Lawful Later (fun _ _ => True) tables := by
  cases call with
  | poll pages => exact poll_obeys pages none tables
  | deliver worker id reply saved =>
      simp only [serve, deliver]
      refine Program.obeys_commit Later.refl (fun now after taken _ lawful wrote => ?_)
        fun _ _ _ _ _ => trivial
      have wrote := Except.ok.inj wrote
      obtain ⟨kept, later⟩ := @claim_lawful worker id now lawful
      rw [wrote] at kept later
      refine ⟨kept, later, ?_⟩
      cases taken with
      | none => trivial
      | some pair =>
          obtain ⟨token, time⟩ := pair
          obtain ⟨same, drawn⟩ := claim_token (congrArg Prod.snd wrote)
          rw [wrote] at drawn
          refine attempt_obeys ?_
          rw [drawn, same]
          exact Nat.lt_succ_self _
  | retryDelivery current taskId webhookId deliveryId =>
      simp only [serve, retryDelivery]
      refine Program.obeys_read Later.refl fun read _ _ => ?_
      refine Program.obeys_check (fun _ _ => ?_) fun _ _ => trivial
      refine Program.obeys_commit Later.refl (fun now after _ _ lawful wrote => ?_)
        fun _ _ _ _ _ => trivial
      cases wrote
      obtain ⟨kept, later⟩ := reset_lawful lawful
      exact ⟨kept, later, trivial⟩

theorem rules : System.Rules (serve allowedOrigin) changed (fun _ => True) Lawful Later
    fun _ _ _ => True where
  refl := Later.refl
  transitive := Later.trans
  stable _ _ _ := trivial
  starts call _ := serve_obeys call
  changes _ tables lawful := ⟨⟨lawful.ids, lawful.once, lawful.sound⟩,
    ⟨Nat.le_refl _, (Later.refl tables).rows⟩⟩

/-! What one step of a call does to the rows. -/

def Holding (token : LeaseToken) (tables after : WebhookTables) (_ : Request) : Prop :=
  (∀ row ∈ tables.deliveries, row.leaseToken ≠ some token) → after.deliveries = tables.deliveries

def Behaves (call : Call) (tables after : WebhookTables) (rest : Request) : Prop :=
  Lawful tables → RowsStep call tables after ∧
    ∀ row ∈ tables.deliveries, ∀ next ∈ after.deliveries, next.id = row.id → ∀ token,
      next.leaseToken = some token → row.leaseToken ≠ some token → rest.Every (Holding token)

theorem holding_every {id : Nat} {token : LeaseToken}
    {write : Int → TaskWebhookDelivery → TaskWebhookDelivery} :
    (settle id token write).Every (Holding token) := by
  refine Program.every_commit (fun tables after _ wrote without => ?_)
    (fun _ _ _ _ => rfl) fun _ _ _ _ => trivial
  cases wrote
  unfold fenced updateWhere
  refine (List.map_congr_left fun row member => ?_).trans (List.map_id _)
  rw [if_neg]
  · rfl
  · simp only [Bool.and_eq_true, beq_iff_eq, not_and]
    exact fun _ => without row member

theorem attempt_holding {id : Nat} {reply : Reply} {saved : Bool} {token : LeaseToken}
    {now : Int} : (attempt allowedOrigin id reply saved token now).Every (Holding token) := by
  refine Program.every_read (fun _ _ => rfl) fun found => ?_
  split
  · trivial
  · split
    · exact holding_every
    · split
      · exact holding_every
      · split
        · exact holding_every
        · exact holding_every

/-- A step that gives no token. -/
theorem behaves_plain {call : Call} {tables after : WebhookTables} {rest : Request}
    (step : RowsStep call tables after) (lawful : Lawful after)
    (plain : ∀ row next, RowStep call row next → next.leaseToken = none) :
    RowsStep call tables after ∧ ∀ row ∈ tables.deliveries, ∀ next ∈ after.deliveries,
      next.id = row.id → ∀ token, next.leaseToken = some token →
        row.leaseToken ≠ some token → rest.Every (Holding token) := by
  refine ⟨step, ?_⟩
  intro row member next present same token held other
  rcases step.old.found lawful.ids member present same with rfl | stepped
  · exact absurd held other
  · rw [plain row next stepped] at held
    cases held

theorem behaves_refl (call : Call) (tables : WebhookTables) (rest : Request) :
    Behaves call tables tables rest := by
  intro lawful
  refine ⟨rowsStep_refl call tables, ?_⟩
  intro row member next present same token held other
  rw [row_unique lawful.ids present member same] at held
  exact absurd held other

theorem settle_behaves {worker id : Nat} {reply : Reply} {saved : Bool} {token : LeaseToken}
    (owner : token.worker = worker) {write : Int → TaskWebhookDelivery → TaskWebhookDelivery}
    (settles : ∀ now, Settles (write now)) :
    (settle id token write).Every (Behaves (.deliver worker id reply saved)) := by
  refine Program.every_commit (fun tables after _ wrote lawful => ?_)
    (fun tables _ _ => behaves_refl _ tables _) fun _ _ _ _ => trivial
  cases wrote
  have ends := settles tables.now
  have step : RowsStep (.deliver worker id reply saved) tables (fenced id token write tables) := by
    refine rowsStep_updateWhere rfl ends.id ?_
    intro row member here
    simp only [Bool.and_eq_true, beq_iff_eq] at here
    exact .settled here.1 here.2 owner ((lawful.sound row member).token token here.2).2
      (ends.id row) (ends.token row) (ends.attempts row)
  refine ⟨step, ?_⟩
  intro row member next present same other held differs
  obtain ⟨old, before, rfl⟩ := List.mem_map.mp present
  split at held
  · rw [ends.token] at held
    cases held
  · rename_i untouched
    rw [if_neg untouched] at same
    rw [row_unique lawful.ids before member same] at held
    exact absurd held differs

theorem attempt_behaves {worker id : Nat} {reply : Reply} {saved : Bool} {token : LeaseToken}
    {now : Int} (owner : token.worker = worker) :
    (attempt allowedOrigin id reply saved token now).Every
      (Behaves (.deliver worker id reply saved)) := by
  refine Program.every_read (fun tables => behaves_refl _ tables _) fun found => ?_
  split
  · trivial
  · split
    · exact settle_behaves owner cancelled_settles
    · split
      · exact settle_behaves owner (retried_settles _ _)
      · split
        · exact settle_behaves owner delivered_settles
        · exact settle_behaves owner (retried_settles _ _)

theorem claim_behaves {worker id : Nat} {reply : Reply} {saved : Bool} :
    (deliver allowedOrigin worker id reply saved).Every
      (Behaves (.deliver worker id reply saved)) := by
  refine Program.every_commit (fun tables after taken wrote lawful => ?_)
    (fun tables _ _ => behaves_refl _ tables _) fun tables after taken wrote => ?_
  · have wrote := Except.ok.inj wrote
    have rows : after = (claim worker id tables).1 := (congrArg Prod.fst wrote).symm
    let token : LeaseToken := { serial := tables.drawn, worker }
    let allowed (row : TaskWebhookDelivery) : Bool := row.id == id && claimable tables.now row
    have unused : ∀ row ∈ tables.deliveries, row.leaseToken ≠ some token := by
      intro row member held
      exact Nat.lt_irrefl _ ((lawful.sound row member).token token held).1
    refine ⟨?_, ?_⟩
    · refine rowsStep_updateWhere (congrArg WebhookTables.deliveries rows) (fun _ => rfl) ?_
      intro row member here
      simp only [claimable, Bool.and_eq_true, beq_iff_eq] at here
      exact .claimed here.1 here.2.1.1 rfl (unused row member)
    · intro row member next present same other held differs
      rw [rows] at present
      obtain ⟨old, before, rfl⟩ := List.mem_map.mp present
      split at held
      · rename_i here
        obtain rfl : token = other := Option.some.inj held
        have found : tables.deliveries.any allowed = true :=
          List.any_eq_true.mpr ⟨old, before, here⟩
        have second : taken = some (token, tables.now) :=
          (congrArg Prod.snd wrote).symm.trans (if_pos found)
        rw [second]
        exact attempt_holding
      · rename_i untouched
        rw [if_neg untouched] at same
        rw [row_unique lawful.ids before member same] at held
        exact absurd held differs
  · cases taken with
    | none => trivial
    | some pair =>
        obtain ⟨token, time⟩ := pair
        have same := (claim_token (congrArg Prod.snd (Except.ok.inj wrote))).1
        exact attempt_behaves (by rw [same])

theorem pollHooks_behaves {pages : Nat} {rest : Request}
    (every : rest.Every (Behaves (.poll pages))) (hooks : List TaskWebhook) :
    (pollHooks rest hooks).Every (Behaves (.poll pages)) := by
  induction hooks with
  | nil => exact every
  | cons hook hooks ih =>
      refine Program.every_read (fun tables => behaves_refl _ tables _) fun eventIds => ?_
      split
      · exact ih
      · refine Program.every_commit (fun tables after _ wrote lawful => ?_)
          (fun tables _ _ => behaves_refl _ tables _) fun _ _ _ _ => ih
        cases wrote
        exact behaves_plain (createMany_rows _) (createMany_lawful lawful).1
          fun row next stepped => by cases stepped

theorem poll_behaves (total pages : Nat) (cursor : Option String) :
    (poll pages cursor).Every (Behaves (.poll total)) := by
  induction pages generalizing cursor with
  | zero => trivial
  | succ pages ih =>
      refine Program.every_read (fun tables => behaves_refl _ tables _) fun hooks => ?_
      refine pollHooks_behaves ?_ hooks
      split
      · exact Program.every_read (fun tables => behaves_refl _ tables _) fun _ => trivial
      · exact ih _

theorem serve_behaves (call : Call) : (serve allowedOrigin call).Every (Behaves call) := by
  cases call with
  | poll pages => exact poll_behaves pages pages none
  | deliver worker id reply saved => exact claim_behaves
  | retryDelivery current taskId webhookId deliveryId =>
      simp only [serve, retryDelivery]
      refine Program.every_read (fun tables => behaves_refl _ tables _) fun owned => ?_
      refine Program.every_check fun _ => ?_
      refine Program.every_commit (fun tables after _ wrote lawful => ?_)
        (fun tables _ _ => behaves_refl _ tables _) fun _ _ _ _ => trivial
      cases wrote
      refine behaves_plain (rowsStep_updateWhere rfl (fun _ => rfl) ?_) (reset_lawful lawful).1
        fun row next stepped => ?_
      · intro row member here
        simp only [retryable, Bool.and_eq_true, beq_iff_eq] at here
        obtain ⟨⟨⟨ident, -⟩, failed⟩, -⟩ := here
        have idle : row.leaseToken = none := by
          cases held : row.leaseToken with
          | none => rfl
          | some token =>
              have pending := ((lawful.sound row member).token token held).2
              rw [failed] at pending
              cases pending
        subst ident
        exact .reset failed idle
      · cases stepped
        rfl

end Calls

end TaskWebhooks

end Devproof
