import Devproof.Journal.Conclusions
import Devproof.Journal.Quiet
import Devproof.Journal.Settlement

/-!
Completed cleanups over whole runs.  Recomputing the cleanup statuses
establishes the proofs of the completed records wherever their references are
distinct, and what follows it inside a call keeps them.
-/

namespace Devproof

section Host

variable (host : Host)

structure Sound (state : ExecutionState) : Prop where
  records : ∀ record ∈ state.records, Named record
  observed : ∀ record ∈ state.observedRecords, Named record
  reads : ∀ read ∈ state.readReceipts, (host.parseUrl read.url).isSome = true

theorem Sound.of_core {before after : ExecutionState} (sound : Sound host before)
    (records : after.records.map ExecutionRecord.core = before.records.map ExecutionRecord.core)
    (observed : after.observedRecords.map ExecutionRecord.core =
      before.observedRecords.map ExecutionRecord.core)
    (reads : after.readReceipts = before.readReceipts) : Sound host after where
  records := named_of_map records sound.records
  observed := named_of_map observed sound.observed
  reads := by
    rw [reads]
    exact sound.reads

theorem requestEdit_sound {traffic : Traffic} {label : Option Json → Option String}
    {request : Request} {sequence : Int} {before after : ExecutionState}
    (parses : (host.parseUrl (request.urlText host)).isSome = true)
    (edit : RequestEdit host traffic label request sequence before after)
    (sound : Sound host before) : Sound host after := by
  obtain ⟨records, observed, reads⟩ := requestEdit_frame host edit
  refine ⟨named_of_map records sound.records, ?_, ?_⟩
  · rcases observed with same | ⟨baseline, same⟩
    · rw [same]
      exact sound.observed
    · rw [same]
      intro record member
      rcases List.mem_append.mp member with old | new
      · exact sound.observed record old
      · rw [List.mem_singleton.mp new]
        exact ⟨_, rfl, stableRef_ne host _ _ _ _⟩
  · intro read member
    rcases reads read member with old | ⟨complete, new⟩
    · exact sound.reads read old
    · rw [new]
      exact parses

theorem conclusionEdit_sound {start before after : ExecutionState}
    (edit : ConclusionEdit host start before after) (sound : Sound host before) :
    Sound host after := by
  have reads : after.readReceipts = before.readReceipts :=
    congrArg Receipts.readReceipts (conclusionEdit_receipts edit)
  have appended : ∀ record, Named record → ∀ other ∈ before.records ++ [record], Named other := by
    intro record named other member
    rcases List.mem_append.mp member with old | new
    · exact sound.records other old
    · rw [List.mem_singleton.mp new]
      exact named
  cases edit with
  | release => exact ⟨sound.records, sound.observed, sound.reads⟩
  | keep pending => exact ⟨sound.records, sound.observed, sound.reads⟩
  | dismiss pending =>
      obtain ⟨keys, same⟩ := addExistingKey_frame (pending.key host) before
      rw [same]
      exact ⟨sound.records, sound.observed, sound.reads⟩
  | claim pending creation =>
      exact ⟨appended _ ⟨_, rfl, stableRef_ne host _ _ _ _⟩, sound.observed, sound.reads⟩
  | refresh read item existing stored listed here =>
      refine ⟨?_, sound.observed, sound.reads⟩
      intro record member
      rcases mem_replaceFirst member with new | old
      · obtain ⟨ref, named, present⟩ := sound.records existing (List.mem_of_find?_eq_some here)
        refine ⟨ref, ?_, present⟩
        rw [new]
        simp only
        split
        · exact named
        · exact named
      · exact sound.records record old
  | bind read item creation =>
      exact ⟨appended _ ⟨_, rfl, stableRef_ne host _ _ _ _⟩, sound.observed, sound.reads⟩
  | observe read item shown =>
      rcases observeNamed_frame read item shown before with same | ⟨keys, same⟩
      · rw [same]
        exact sound
      · rw [same]
        refine ⟨sound.records, ?_, sound.reads⟩
        intro record member
        rcases List.mem_append.mp member with old | new
        · exact sound.observed record old
        · rw [List.mem_singleton.mp new]
          exact ⟨_, rfl, stableRef_ne host _ _ _ _⟩
  | mutate write baseline stored selected =>
      have known : baseline ∈ before.observedRecords := by
        have chosen : baseline ∈ baselinesChangedBy host before write := by simp [selected]
        exact (List.mem_filter.mp chosen).1
      exact ⟨appended _ (sound.observed baseline known), sound.observed, sound.reads⟩

theorem observeUi_sound {observation : StructuredObservation} {evidenceRefs : List String}
    {freshRead : Bool} {state : ExecutionState} (sound : Sound host state) :
    Sound host (observeUi host observation evidenceRefs freshRead state) := by
  obtain ⟨records, observed⟩ := observeUi_records host observation evidenceRefs freshRead state
  obtain ⟨_, _, _, same⟩ := observeUi_frame host observation evidenceRefs freshRead state
  exact sound.of_core host records observed (by rw [same])

theorem pageCreation_named {merging : Merging} {change : RecordDelta} {record : ExecutionRecord}
    (found : pageCreation host merging change = some record) : Named record := by
  obtain ⟨proof⟩ := pageCreation_proof host found
  rw [proof.record]
  exact ⟨_, rfl, stableRef_ne host _ _ _ _⟩

theorem registrations_named (next : Members) (journal : Journal) :
    ∀ record ∈ registrations host next journal, Named record := by
  unfold registrations
  split
  · simp
  · split
    · simp
    · exact pageCreations_all host Named (fun _ _ _ => pageCreation_named host) _ _

theorem registrations_open (next : Members) (journal : Journal) :
    ∀ record ∈ registrations host next journal, isCompleted record = false := by
  unfold registrations
  split
  · simp
  · split
    · simp
    · refine pageCreations_all host (fun record => isCompleted record = false) ?_ _ _
      intro merging change record found
      obtain ⟨proof⟩ := pageCreation_proof host found
      rw [proof.record]
      rfl

theorem parse_named {value result : ExecutionRecord}
    (parsed : (executionRecordSchema host).parse value = some result)
    (referred : value.recordRef.isSome = true) : Named result := by
  obtain ⟨ref, here⟩ := Option.isSome_iff_exists.mp referred
  have field := (executionRecordSchema_parse.mp parsed).1
  rw [Slot.optional_parse_eq_some, here] at field
  obtain ⟨kept, same, accepted⟩ := field
  exact ⟨kept, same, text_parse_ne accepted⟩

theorem progress_sound {next : Members} {journal : Journal} (sound : Sound host journal.state) :
    Sound host (progress host next journal).state.state := by
  cases threw : (progress host next journal).thrown with
  | some failure =>
      rw [progress_rejected host threw]
      refine ⟨?_, sound.observed, sound.reads⟩
      intro record member
      rcases List.mem_append.mp member with old | new
      · exact sound.records record old
      · exact registrations_named host next journal record new
  | none =>
      obtain ⟨accepted⟩ := progress_accepted host threw
      have kept := accepted.journal
      rw [accepted.becomes]
      refine ⟨?_, ?_, ?_⟩
      · apply accepted.records_all host (fun record => record.recordRef.isSome = true) Named
        · intro merging change record found
          obtain ⟨ref, here, -⟩ := pageCreation_named host found
          simp [here]
        · intro state locked overlaid parsed record _ _
          unfold withRef
          split
          · rename_i named
            simp [named]
          · rfl
        · intro record member
          obtain ⟨ref, here, -⟩ := sound.records record member
          simp [here]
        · intro baseline member change
          obtain ⟨ref, here, -⟩ := sound.observed baseline member
          unfold relabelled
          split
          · split <;> simp [here]
          · simp [here]
        · intro value result
          exact parse_named host
      · intro record member
        apply sound.observed record
        rw [kept] at member
        exact member
      · intro read member
        obtain ⟨source, present, parse⟩ := forall₂_source accepted.reads_parse member
        rw [(bounded_parse.mp (readReceiptSchema_parse.mp parse).2.1).1]
        rw [kept] at present
        exact sound.reads source present

/-- What each move of a run has to meet: a request whose URL parses, and cleanup statuses
recomputed over records that no two share a reference. -/
def Regular (entry : Move × Journal) : Prop :=
  match entry.1 with
  | .request _ request =>
      request.urlText host = "" ∨ (host.parseUrl (request.urlText host)).isSome = true
  | .settleCleanup => (cleanedRefs entry.2.state.records).Nodup
  | _ => True

theorem move_sound {entry : Move × Journal} (regular : Regular host entry)
    (sound : Sound host entry.2.state) :
    Sound host (Move.step host entry.1 entry.2).state.state := by
  obtain ⟨move, journal⟩ := entry
  cases move with
  | begin input =>
      change Sound host (begin input journal).state
      rcases begin_state input journal with same | same
      · rw [same]
        exact sound
      · rw [same]
        exact sound.of_core host (invalidate_records_core none journal.state) rfl rfl
  | request traffic request =>
      change Sound host (observeRequest host traffic _ request journal.state).state
      rcases regular with empty | parses
      · unfold observeRequest
        rw [if_pos empty]
        exact sound
      · exact edits_kept (Sound host) (observeRequest_edits host journal.state) sound
          fun _ _ edit => requestEdit_sound host parses edit
  | confirmPending =>
      exact edits_kept (Sound host) (confirmPending_edits journal.state) sound
        fun _ _ edit => conclusionEdit_sound host edit
  | bindNamed =>
      exact edits_kept (Sound host) (reconcileNamedResources_edits journal.state) sound
        fun _ _ edit => conclusionEdit_sound host edit
  | registerMutations =>
      exact edits_kept (Sound host) (registerObservedMutations_edits journal.state) sound
        fun _ _ edit => conclusionEdit_sound host edit
  | settleCleanup =>
      exact sound.of_core host (settleRecords_core host _ _ _) rfl rfl
  | readPage page evidenceRefs => exact observeUi_sound host sound
  | progress next => exact progress_sound host sound
  | rereadPage =>
      change Sound host (rereadPage host journal).state
      rcases rereadPage_state host journal with same | ⟨observation, same⟩
      · rw [same]
        exact sound
      · rw [same]
        exact observeUi_sound host sound
  | review =>
      change Sound host (reconcileReview host journal.state)
      obtain ⟨review, same⟩ := reconcileReview_frame host journal.state
      rw [same]
      exact ⟨sound.records, sound.observed, sound.reads⟩
  | blockCleanup note =>
      change Sound host (blockCleanup host note journal.state)
      obtain ⟨review, same⟩ := blockCleanup_frame host note journal.state
      rw [same]
      exact sound.of_core host (by simp) rfl rfl

theorem move_quiet {entry : Move × Journal} (regular : Regular host entry)
    (sound : Sound host entry.2.state) (report : ∀ next, entry.1 ≠ .progress next) :
    (Move.step host entry.1 entry.2).thrown = none := by
  obtain ⟨move, journal⟩ := entry
  cases move with
  | request traffic request =>
      change (observeRequest host traffic _ request journal.state).thrown = none
      exact observeRequest_quiet host sound.reads (regular.imp_right (decidesList_of_absolute host))
  | progress next => exact absurd rfl (report next)
  | begin | confirmPending | bindNamed | registerMutations | settleCleanup | readPage
  | rereadPage | review | blockCleanup => rfl

def Follows (move : Move) : Prop :=
  match move with
  | .readPage _ _ | .review | .blockCleanup _ => True
  | _ => False

theorem observeUi_proven {observation : StructuredObservation} {evidenceRefs : List String}
    {freshRead : Bool} {state : ExecutionState} (sound : Sound host state)
    (proven : CompletionsProven host state) :
    CompletionsProven host (observeUi host observation evidenceRefs freshRead state) := by
  have both : (∀ record ∈ (observeUi host observation evidenceRefs freshRead state).records,
      Named record) ∧
        CompletionsProven host (observeUi host observation evidenceRefs freshRead state) := by
    refine edits_kept
      (fun after => (∀ record ∈ after.records, Named record) ∧ CompletionsProven host after)
      (observeUi_edits host state) ⟨sound.records, proven⟩ ?_
    rintro before after edit ⟨named, standing⟩
    exact ⟨named_of_map (pageEdit_records host edit).1 named, pageEdit_proven host edit named standing⟩
  exact both.2

theorem blockRecord_completed {note : String} {record : ExecutionRecord}
    (completed : isCompleted (blockRecord note record) = true) : isCompleted record = true := by
  cases cleanup : record.cleanup with
  | none => simp [isCompleted, blockRecord, cleanup] at completed
  | some value =>
      simp only [isCompleted, blockRecord, cleanup, Option.map_some, Option.any_some] at completed ⊢
      split at completed
      · simp at completed
      · exact completed

theorem follows_proven {entry : Move × Journal} (follows : Follows entry.1)
    (sound : Sound host entry.2.state) (proven : CompletionsProven host entry.2.state) :
    CompletionsProven host (Move.step host entry.1 entry.2).state.state := by
  obtain ⟨move, journal⟩ := entry
  cases move with
  | readPage page evidenceRefs => exact observeUi_proven host sound proven
  | review =>
      change CompletionsProven host (reconcileReview host journal.state)
      obtain ⟨review, same⟩ := reconcileReview_frame host journal.state
      rw [same]
      intro record member
      exact (proven record member).of_state host rfl rfl
  | blockCleanup note =>
      change CompletionsProven host (blockCleanup host note journal.state)
      obtain ⟨review, same⟩ := blockCleanup_frame host note journal.state
      rw [same]
      intro after member
      obtain ⟨record, present, made⟩ := List.mem_map.mp member
      rw [← made]
      have standing : Proven host journal.state journal.state.cleanupConfirmations
          (blockRecord note record) :=
        (proven record present).of_core host (blockRecord_core note record) blockRecord_completed
      exact standing.of_state host rfl rfl
  | begin | request | confirmPending | bindNamed | registerMutations | settleCleanup
  | progress | rereadPage => exact absurd follows id

theorem block_sound {moves : List Move} {journal : Journal} (sound : Sound host journal.state)
    (regular : ∀ entry ∈ movesMade (Move.step host) moves journal, Regular host entry) :
    Sound host (runMoves (Move.step host) moves journal).state.state ∧
      ∀ entry ∈ movesMade (Move.step host) moves journal, Sound host entry.2.state :=
  (runMoves_path moves journal).invariant (fun journal => Sound host journal.state) sound
    fun entry member held => move_sound host (regular entry member) held

theorem block_quiet {moves : List Move} {journal : Journal} (sound : Sound host journal.state)
    (regular : ∀ entry ∈ movesMade (Move.step host) moves journal, Regular host entry)
    (reports : ∀ next, .progress next ∉ moves) :
    (runMoves (Move.step host) moves journal).thrown = none := by
  apply runMoves_quiet
  intro entry member
  refine move_quiet host (regular entry member) ((block_sound host sound regular).2 entry member) ?_
  intro next report
  exact reports next (report ▸ movesMade_mem member)

theorem block_proven {before after : List Move} {journal : Journal}
    (sound : Sound host journal.state)
    (regular : ∀ entry ∈ movesMade (Move.step host) (before ++ .settleCleanup :: after) journal,
      Regular host entry)
    (quiet : (runMoves (Move.step host) before journal).thrown = none)
    (follows : ∀ move ∈ after, Follows move) :
    CompletionsProven host
      (runMoves (Move.step host) (before ++ .settleCleanup :: after) journal).state.state := by
  rw [movesMade_append _ quiet] at regular
  rw [runMoves_append]
  simp only [Outcome.andThen, quiet]
  generalize finish : (runMoves (Move.step host) before journal).state = middle at regular ⊢
  have reached : Sound host middle.state := by
    rw [← finish]
    exact (block_sound host sound fun entry member =>
      regular entry (List.mem_append_left _ member)).1
  have distinct : (cleanedRefs middle.state.records).Nodup :=
    regular (.settleCleanup, middle) (List.mem_append_right _ (List.mem_cons_self ..))
  have settled : CompletionsProven host (reconcileCleanup host middle.state) :=
    reconcileCleanup_proven host reached.records distinct
  have settledSound : Sound host (reconcileCleanup host middle.state) :=
    @move_sound host (Move.settleCleanup, middle) distinct reached
  have path : Path (Move.step host) { middle with state := reconcileCleanup host middle.state } _ _ :=
    runMoves_path after _
  have rest := path.invariant
      (fun journal => Sound host journal.state ∧ CompletionsProven host journal.state)
      ⟨settledSound, settled⟩ ?_
  · exact rest.1.2
  · rintro entry member ⟨held, proven⟩
    have later := regular entry (List.mem_append_right _ (List.mem_cons_of_mem _ member))
    exact ⟨move_sound host later held,
      follows_proven host (follows entry.1 (movesMade_mem member)) held proven⟩

theorem observe_proven {input : ObserveInput} {journal : Journal}
    (sound : Sound host journal.state)
    (regular : ∀ entry ∈ (Call.observe input).trace host journal, Regular host entry) :
    CompletionsProven host (observe host input journal).state.state := by
  have split : observeMoves host input =
      (.begin input :: (input.requests host).map (.request input.traffic) ++
        [.confirmPending, .bindNamed, .registerMutations]) ++
        .settleCleanup ::
          ((input.page host).elim [] (fun page => [.readPage page input.evidenceRefs]) ++
            [.review]) := by
    cases shown : input.page host with
    | none => simp [observeMoves, shown]
    | some page => simp [observeMoves, shown]
  unfold Call.trace at regular
  simp only [observe] at regular ⊢
  rw [split] at regular ⊢
  refine block_proven host sound regular ?_ ?_
  · refine block_quiet host sound
      (fun entry member => regular entry ((movesMade_initial _ _ journal).subset member)) ?_
    intro next member
    simp at member
  · intro move member
    rcases List.mem_append.mp member with page | last
    · cases shown : input.page host with
      | none => simp [shown] at page
      | some known =>
          rw [shown] at page
          rw [List.mem_singleton.mp page]
          trivial
    · rw [List.mem_singleton.mp last]
      trivial

theorem update_proven {next : Members} {journal : Journal} (sound : Sound host journal.state)
    (proven : CompletionsProven host journal.state)
    (regular : ∀ entry ∈ updateTrace host next journal, Regular host entry) :
    CompletionsProven host (update host next journal).state.state := by
  cases threw : (update host next journal).thrown with
  | some failure =>
      rw [rejected_update_state host threw]
      intro record member
      rcases List.mem_append.mp member with old | new
      · exact (proven record old).of_state host rfl rfl
      · intro completed
        rw [registrations_open host next journal record new] at completed
        simp at completed
  | none =>
      have split : updateMoves next = [.progress next, .rereadPage] ++ .settleCleanup :: [.review] :=
        rfl
      unfold updateTrace at regular
      unfold update at threw ⊢
      rw [split] at regular threw ⊢
      rw [runMoves_append] at threw
      refine block_proven host sound regular (Outcome.andThen_thrown_none threw).1 ?_
      intro move member
      rw [List.mem_singleton.mp member]
      trivial

theorem updates_proven {records : List Json} {updated : Updated}
    (sound : Sound host updated.journal.state) (proven : CompletionsProven host updated.journal.state)
    (regular : ∀ entry ∈ recordsTrace host records updated.journal, Regular host entry) :
    CompletionsProven host (records.foldl (updateOne host) updated).journal.state := by
  induction records generalizing updated with
  | nil => exact proven
  | cons record rest ih =>
      have first : ∀ entry ∈ updateTrace host (singleRecord record) updated.journal,
          Regular host entry := fun entry member => regular entry (List.mem_append_left _ member)
      apply ih
      · exact (block_sound host sound first).1
      · exact update_proven host sound proven first
      · intro entry member
        exact regular entry (List.mem_append_right _ member)

theorem call_proven {call : Call} {journal : Journal} (sound : Sound host journal.state)
    (proven : CompletionsProven host journal.state)
    (regular : ∀ entry ∈ call.trace host journal, Regular host entry) :
    CompletionsProven host (call.perform host journal).state := by
  cases call with
  | observe input => exact observe_proven host sound regular
  | update next => exact update_proven host sound proven regular
  | updatePartial next =>
      simp only [Call.trace] at regular
      simp only [Call.perform, updatePartial]
      have first : ∀ entry ∈ updateTrace host (withoutRecords next) journal, Regular host entry :=
        fun entry member => regular entry (List.mem_append_left _ member)
      have started := update_proven host sound proven first
      split
      · exact started
      · rename_i quiet
        rw [quiet] at regular
        exact @updates_proven host _ ⟨_, []⟩ (block_sound host sound first).1 started
          fun entry member => regular entry (List.mem_append_right _ member)
  | blockCleanup note =>
      exact @follows_proven host (Move.blockCleanup note, journal) trivial sound proven

theorem call_sound {call : Call} {journal : Journal} (sound : Sound host journal.state)
    (regular : ∀ entry ∈ call.trace host journal, Regular host entry) :
    Sound host (call.perform host journal).state :=
  ((call.path host journal).invariant (fun journal => Sound host journal.state) sound
    fun entry member held => move_sound host (regular entry member) held).1

theorem run_proven {calls : List Call} {journal : Journal} (sound : Sound host journal.state)
    (proven : CompletionsProven host journal.state)
    (regular : ∀ entry ∈ runTrace host calls journal, Regular host entry) :
    CompletionsProven host (run host calls journal).state := by
  induction calls generalizing journal with
  | nil => exact proven
  | cons call rest ih =>
      have first : ∀ entry ∈ call.trace host journal, Regular host entry :=
        fun entry member => regular entry (List.mem_append_left _ member)
      exact ih (call_sound host sound first) (call_proven host sound proven first)
        fun entry member => regular entry (List.mem_append_right _ member)

/-- After each call of a run whose moves are regular, every completed record that a write
touched is confirmed. -/
theorem completed_records_confirmed (calls : List Call)
    (regular : ∀ entry ∈ runTrace host calls (restore host []), Regular host entry) :
    ∀ earlier, earlier <+: calls →
      CompletionsProven host (run host earlier (restore host [])).state := by
  rintro earlier ⟨later, split⟩
  subst split
  rw [runTrace_append] at regular
  refine run_proven host ?_ ?_ fun entry member => regular entry (List.mem_append_left _ member)
  · rw [restore_nil]
    exact ⟨by simp, by simp, by simp⟩
  · rw [restore_nil]
    simp [CompletionsProven]

instance (entry : Move × Journal) : Decidable (Regular host entry) :=
  match entry with
  | (.request _ request, _) =>
      inferInstanceAs (Decidable (request.urlText host = "" ∨
        (host.parseUrl (request.urlText host)).isSome = true))
  | (.settleCleanup, journal) => inferInstanceAs (Decidable (cleanedRefs journal.state.records).Nodup)
  | (.begin _, _) | (.confirmPending, _) | (.bindNamed, _) | (.registerMutations, _)
  | (.readPage _ _, _) | (.progress _, _) | (.rereadPage, _) | (.review, _)
  | (.blockCleanup _, _) => .isTrue trivial

end Host

def adoptedRow : Json :=
  .obj [("id", .str "35"), ("type", .str "MODEL"), ("resourceUrl", .str whitelistUrl),
    ("account", .str "alice"), ("ownership", .str "EXISTING"),
    ("initialState", .str "\x7b\"enabled\":true\x7d"), ("evidenceRefs", .arr [.str "artifact://list"]),
    ("cleanup", .obj [("instruction", .str "restore"), ("status", .str "PENDING")])]

def adoptedCalls : List Call := [
  .observed "query" [whitelistRead "r1" []] none,
  .observed "list" [whitelistPost "r2" none, whitelistRead "r3" [whitelistRow "35"]] none,
  .update [("records", .arr [adoptedRow])],
  .observed "receipt" [whitelistPost "r2" (some acceptedBody)] none]

def restoredCalls : List Call := adoptedCalls ++ [
  .observed "restore" [
    requestJson "r4" "PUT" (whitelistUrl ++ "/35") 200 none (some (whitelistRow "35"))
      (some acceptedBody),
    whitelistRead "r5" [whitelistRow "35"]] none]

def restoredState : ExecutionState :=
  (run whitelistHost restoredCalls (restore whitelistHost [])).state

/-- The created record takes the confirmation of the restored one away. -/
theorem shared_reference_unconfirmed :
    (∃ record ∈ restoredState.records, isCompleted record = true ∧
        mutationsOf whitelistHost restoredState record ≠ []) ∧
      restoredState.cleanupConfirmations = [] ∧
      ¬CompletionsProven whitelistHost restoredState := by
  have reached : (∃ record ∈ restoredState.records, isCompleted record = true ∧
      mutationsOf whitelistHost restoredState record ≠ []) ∧
        restoredState.cleanupConfirmations = [] := by decide +kernel
  obtain ⟨found, none_left⟩ := reached
  refine ⟨found, none_left, ?_⟩
  intro proven
  obtain ⟨record, member, completed, touched⟩ := found
  obtain ⟨ref, -, ⟨proof, listed, -⟩, -⟩ := proven record member completed touched
  rw [none_left] at listed
  simp at listed

def deletedCalls : List Call := [
  .observed "query" [whitelistRead "r1" []] none,
  .observed "create" [whitelistPost "r2" (some acceptedBody),
    whitelistRead "r3" [whitelistRow "35"]] none,
  .observed "delete" [
    requestJson "r4" "DELETE" (whitelistUrl ++ "/35") 200 none none (some acceptedBody),
    whitelistRead "r5" []] none]

theorem deleted_row_confirmed :
    (run whitelistHost deletedCalls (restore whitelistHost [])).state.records.map isCompleted =
        [true] ∧
      CompletionsProven whitelistHost
        (run whitelistHost deletedCalls (restore whitelistHost [])).state :=
  have reached : (run whitelistHost deletedCalls (restore whitelistHost [])).state.records.map
      isCompleted = [true] ∧ ∀ entry ∈ runTrace whitelistHost deletedCalls
        (restore whitelistHost []), Regular whitelistHost entry := by decide +kernel
  ⟨reached.1, completed_records_confirmed whitelistHost deletedCalls reached.2 deletedCalls
    (List.prefix_refl _)⟩

end Devproof
