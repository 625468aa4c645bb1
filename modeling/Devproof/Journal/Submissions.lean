import Devproof.Journal.Conclusions
import Devproof.Journal.Merging
import Devproof.Journal.Quiet

/-!
The business writes of the observed traffic and their entries in the write
history.  An entry is found by the key of its request, so two requests with one
key share an entry.
-/

namespace Devproof

structure Submission where
  key : String
  method : WriteMethod
  url : String
  deriving Repr, DecidableEq

def Write.submission (write : Write) : Submission :=
  { key := write.key, method := write.method, url := write.url }

section Host

variable (host : Host)

def submissionOf (traffic : Traffic) (request : Request) : Option Submission :=
  match writeMethodOf (request.methodText host) with
  | none => none
  | some method =>
      if isAuthUrl (request.urlText host) then none
      else some { key := request.key host traffic, method, url := request.urlText host }

def Call.submissions : Call → List Submission
  | .observe input => (input.requests host).filterMap (submissionOf host input.traffic)
  | .update _ | .updatePartial _ | .blockCleanup _ => []

def observedSubmissions (calls : List Call) (journal : Journal) : List Submission :=
  journal.state.writes.map Write.submission ++ calls.flatMap (Call.submissions host)

def ExecutionState.writeKeys (state : ExecutionState) : List String := state.writes.map (·.key)

def HasEntry (key : String) (state : ExecutionState) : Prop :=
  state.writeHistoryTruncated = true ∨ key ∈ state.writeKeys

theorem mergeWrite_key {previous receipt : Write} (same : previous.key = receipt.key) :
    (mergeWrite previous receipt).key = previous.key := by
  unfold mergeWrite
  split
  · rfl
  · exact same.symm

theorem storeWrite_keys (receipt : Write) (state : ExecutionState) :
    (∀ key ∈ state.writeKeys, key ∈ (storeWrite receipt state).state.writeKeys) ∧
      receipt.key ∈ (storeWrite receipt state).state.writeKeys := by
  unfold storeWrite
  split
  · rename_i previous found
    have same : previous.key = receipt.key := by simpa using List.find?_some found
    have keys : (replaceFirst (fun write => write.key == receipt.key) (mergeWrite previous receipt)
        state.writes).map (·.key) = state.writes.map (·.key) := by
      apply replaceFirst_map
      intro old here
      rw [found] at here
      obtain rfl := Option.some.inj here
      exact mergeWrite_key same
    have present : receipt.key ∈ state.writeKeys := by
      rw [← same]
      exact List.mem_map_of_mem (List.mem_of_find?_eq_some found)
    simp only
    split
    · unfold ExecutionState.writeKeys at present ⊢
      simp only [invalidateUiConfirmations, keys]
      exact ⟨fun _ member => member, present⟩
    · unfold ExecutionState.writeKeys at present ⊢
      simp only [keys]
      exact ⟨fun _ member => member, present⟩
  · unfold ExecutionState.writeKeys
    simp only [invalidateUiConfirmations, List.map_append, List.map_cons, List.map_nil]
    constructor
    · intro key member
      exact List.mem_append_left _ member
    · simp

theorem mergeWrite_submission (previous receipt : Write) :
    (mergeWrite previous receipt).submission = previous.submission ∨
      (mergeWrite previous receipt).submission = receipt.submission := by
  unfold mergeWrite
  split
  · exact Or.inl rfl
  · exact Or.inr rfl

theorem storeWrite_submissions {receipt : Write} {state : ExecutionState} {write : Write}
    (member : write ∈ (storeWrite receipt state).state.writes) :
    (∃ old ∈ state.writes, write.submission = old.submission) ∨
      write.submission = receipt.submission := by
  unfold storeWrite at member
  split at member
  · rename_i previous found
    have listed : write ∈ replaceFirst (fun write => write.key == receipt.key)
        (mergeWrite previous receipt) state.writes := by
      simp only at member
      split at member
      · exact member
      · exact member
    rcases mem_replaceFirst listed with merged | old
    · rw [merged]
      rcases mergeWrite_submission previous receipt with kept | replaced
      · exact Or.inl ⟨previous, List.mem_of_find?_eq_some found, kept⟩
      · exact Or.inr replaced
    · exact Or.inl ⟨write, old, rfl⟩
  · simp only [invalidateUiConfirmations] at member
    rcases List.mem_append.mp member with old | new
    · exact Or.inl ⟨write, old, rfl⟩
    · rw [List.mem_singleton.mp new]
      exact Or.inr rfl

section Request

variable {traffic : Traffic} {label : Option Json → Option String} {request : Request}

def ExecutionState.history (state : ExecutionState) : List Write × Bool :=
  (state.writes, state.writeHistoryTruncated)

theorem requestEdit_history {sequence : Int} {before after : ExecutionState}
    (edit : RequestEdit host traffic label request sequence before after) :
    after.history = before.history ∨ after = boundWrites before ∨
      ∃ method receipt, writeMethodOf (request.methodText host) = some method ∧
        isAuthUrl (request.urlText host) = false ∧
        receipt = writeReceipt traffic request method (request.key host traffic)
          (request.urlText host) sequence (submittedLabel host label request method) ∧
        after = (storeWrite receipt before).state := by
  cases edit with
  | note =>
      obtain ⟨order, truncated, same⟩ := noteRequest_frame (request.key host traffic) before
      rw [same]
      exact Or.inl rfl
  | prove => exact Or.inl rfl
  | store method submits business delivered =>
      exact Or.inr (Or.inr ⟨method, _, submits, business, rfl, rfl⟩)
  | infer next write stored inferred =>
      rcases inferCreationAbsence_some host inferred with same | ⟨proof, same⟩
      · rw [same]
        exact Or.inl rfl
      · rw [same]
        exact Or.inl rfl
  | bound => exact Or.inr (Or.inl rfl)
  | verify =>
      obtain ⟨phase, step, same⟩ := enterVerifying_frame before
      rw [same]
      exact Or.inl rfl
  | withdraw =>
      obtain ⟨absences, same, -⟩ := withdrawAbsence_frame host request (request.urlText host) before
      rw [same]
      exact Or.inl rfl
  | read complete delivered placed succeeded decided =>
      obtain ⟨records, confirmations, reads, same, -, -⟩ := storeRead_frame host
        (readReceipt host traffic request (request.key host traffic) (request.urlText host)
          sequence complete) before
      rw [same]
      exact Or.inl rfl
  | aliases => exact Or.inl rfl
  | showState row existing here =>
      obtain ⟨records, same, -⟩ := showCurrentState_frame host row here
      rw [same]
      exact Or.inl rfl
  | baseline row listed offered =>
      rcases observeBaseline_frame host _ (rowKey host row (request.urlText host)) before with
        same | same
      · rw [same]
        exact Or.inl rfl
      · rw [same]
        exact Or.inl rfl
  | pending row listed claimed =>
      obtain ⟨waiting, same⟩ := storePending_frame host
        (rowPending host traffic (request.urlText host) row)
        (rowKey host row (request.urlText host)) before
      rw [same]
      exact Or.inl rfl
  | existing row listed =>
      obtain ⟨keys, same⟩ := addExistingKey_frame (rowKey host row (request.urlText host)) before
      rw [same]
      exact Or.inl rfl

theorem HasEntry.of_history {key : String} {before after : ExecutionState}
    (same : after.history = before.history) (present : HasEntry key before) :
    HasEntry key after := by
  obtain ⟨writes, truncated⟩ := Prod.mk.inj same
  unfold HasEntry ExecutionState.writeKeys at present ⊢
  rw [writes, truncated]
  exact present

theorem boundWrites_entry {key : String} {state : ExecutionState} (present : HasEntry key state) :
    HasEntry key (boundWrites state) := by
  unfold boundWrites
  split
  · exact Or.inl rfl
  · exact present

theorem boundWrites_mem {state : ExecutionState} {write : Write}
    (member : write ∈ (boundWrites state).writes) : write ∈ state.writes := by
  unfold boundWrites at member
  split at member
  · dsimp only at member
    exact mem_lastN member
  · exact member

theorem storeWrite_entry {receipt : Write} {key : String} {state : ExecutionState}
    (present : HasEntry key state) : HasEntry key (storeWrite receipt state).state := by
  obtain ⟨records, confirmations, writes, same, -⟩ := storeWrite_frame receipt state
  rcases present with truncated | listed
  · left
    rw [same]
    exact truncated
  · exact Or.inr ((storeWrite_keys receipt state).1 key listed)

theorem requestEdit_entry {sequence : Int} {before after : ExecutionState} {key : String}
    (edit : RequestEdit host traffic label request sequence before after)
    (present : HasEntry key before) : HasEntry key after := by
  rcases requestEdit_history host edit with same | rfl | ⟨method, receipt, -, -, -, rfl⟩
  · exact present.of_history same
  · exact boundWrites_entry present
  · exact storeWrite_entry present

def Shows (seen : List Submission) (state : ExecutionState) : Prop :=
  ∀ write ∈ state.writes, write.submission ∈ seen

theorem Shows.of_history {seen : List Submission} {before after : ExecutionState}
    (same : after.history = before.history) (shows_ : Shows seen before) : Shows seen after := by
  obtain ⟨writes, -⟩ := Prod.mk.inj same
  intro write member
  rw [writes] at member
  exact shows_ write member

theorem requestEdit_shows {sequence : Int} {before after : ExecutionState}
    {seen : List Submission} (edit : RequestEdit host traffic label request sequence before after)
    (observed : ∀ submission, submissionOf host traffic request = some submission →
      submission ∈ seen)
    (shows_ : Shows seen before) : Shows seen after := by
  intro write member
  rcases requestEdit_history host edit with
    same | same | ⟨method, receipt, submits, business, made, same⟩
  · exact shows_.of_history same write member
  · rw [same] at member
    exact shows_ write (boundWrites_mem member)
  · rw [same] at member
    rcases storeWrite_submissions member with ⟨old, listed, kept⟩ | new
    · rw [kept]
      exact shows_ old listed
    · apply observed
      rw [new, made]
      simp [submissionOf, submits, business, Write.submission, writeReceipt]

theorem observeWrite_entry {submission : Submission} {sequence : Int} {state : ExecutionState}
    (submits : submissionOf host traffic request = some submission)
    (delivered : traffic.evidenceRefs ≠ []) :
    HasEntry submission.key (observeWrite host traffic label request (request.key host traffic)
      (request.urlText host) sequence state).state := by
  unfold submissionOf at submits
  unfold observeWrite
  cases writes : writeMethodOf (request.methodText host) with
  | none =>
      rw [writes] at submits
      cases submits
  | some method =>
      simp only [writes] at submits
      split at submits
      · simp at submits
      · rename_i business
        obtain rfl := Option.some.inj submits
        simp only [Bool.not_eq_true] at business
        have evidence : traffic.evidenceRefs.isEmpty = false := by
          simpa using delivered
        simp only [business, evidence, Bool.or_self, Bool.false_eq_true, if_false]
        generalize uiLabel : ((if method = WriteMethod.post then
          label ((object (host.parse request.requestSummary)).get "account") else none).filter
            (· != "")) = shown
        have stored : HasEntry (request.key host traffic) (storeWrite (writeReceipt traffic request
            method (request.key host traffic) (request.urlText host) sequence shown) state).state :=
          Or.inr (storeWrite_keys _ state).2
        unfold recordWrite
        simp only
        split
        · exact stored
        · rename_i inferred found
          simp only [Outcome.done_state]
          obtain ⟨phase, step, same⟩ := enterVerifying_frame (boundWrites inferred)
          rw [same]
          apply HasEntry.of_history rfl
          apply boundWrites_entry
          rcases inferCreationAbsence_some host found with unchanged | ⟨proof, proven⟩
          · rw [unchanged]
            exact stored
          · rw [proven]
            exact stored

theorem observeRequest_entry {submission : Submission} {state : ExecutionState}
    (submits : submissionOf host traffic request = some submission)
    (delivered : traffic.evidenceRefs ≠ []) (addressed : request.urlText host ≠ "")
    (decides : decidesList host request = true) :
    HasEntry submission.key (observeRequest host traffic label request state).state := by
  unfold observeRequest
  simp only
  generalize indexOf (noteRequest (request.key host traffic) state).requestOrder
    (request.key host traffic) = sequence
  rw [if_neg addressed]
  split
  · rename_i threw
    exfalso
    unfold isEmptyRead at threw
    split at threw
    · rename_i asked
      simp [decidesList, asked.1, asked.2.1, asked.2.2.1, threw] at decides
    · simp at threw
  · apply Outcome.andThen_state
    · exact observeWrite_entry host submits delivered
    · intro middle present
      have edits := @observeResponse_edits host traffic label request sequence middle
      exact edits_kept (HasEntry submission.key) edits present
        fun _ _ edit held => requestEdit_entry host edit held

end Request

theorem progress_history (next : Members) (journal : Journal) :
    (progress host next journal).state.state.history = journal.state.history := by
  cases threw : (progress host next journal).thrown with
  | some failure =>
      rw [progress_rejected host threw]
      rfl
  | none =>
      obtain ⟨accepted⟩ := progress_accepted host threw
      rw [accepted.becomes, accepted.journal]
      rfl

theorem conclusions_history {start before after : ExecutionState}
    (edits : Relation.ReflTransGen (ConclusionEdit host start) before after) :
    after.history = before.history := by
  refine edits_kept (fun state => state.history = before.history) edits rfl ?_
  intro middle last edit same
  have receipts := conclusionEdit_receipts edit
  have writes : last.writes = middle.writes := congrArg Receipts.writes receipts
  have truncated : last.writeHistoryTruncated = middle.writeHistoryTruncated :=
    congrArg Receipts.writeHistoryTruncated receipts
  rw [← same]
  simp only [ExecutionState.history, writes, truncated]

/-- Only requests touch the write history. -/
theorem move_history {move : Move} {journal : Journal}
    (other : ∀ traffic request, move ≠ .request traffic request) :
    (Move.step host move journal).state.state.history = journal.state.history := by
  cases move with
  | begin input =>
      change (begin input journal).state.history = journal.state.history
      rcases begin_state input journal with same | same
      · rw [same]
      · rw [same]
        rfl
  | request traffic request => exact absurd rfl (other traffic request)
  | confirmPending => exact conclusions_history host (confirmPending_edits journal.state)
  | bindNamed => exact conclusions_history host (reconcileNamedResources_edits journal.state)
  | registerMutations =>
      exact conclusions_history host (registerObservedMutations_edits journal.state)
  | settleCleanup => rfl
  | readPage page evidenceRefs =>
      change (observeUi host page evidenceRefs journal.pendingUiRead journal.state).history =
        journal.state.history
      obtain ⟨records, observed, confirmations, same⟩ :=
        observeUi_frame host page evidenceRefs journal.pendingUiRead journal.state
      rw [same]
      rfl
  | progress next => exact progress_history host next journal
  | rereadPage =>
      change (rereadPage host journal).state.history = journal.state.history
      rcases rereadPage_state host journal with same | ⟨observation, same⟩
      · rw [same]
      · rw [same]
        obtain ⟨records, observed, confirmations, read⟩ :=
          observeUi_frame host observation journal.lastUiEvidenceRefs false journal.state
        rw [read]
        rfl
  | review =>
      change (reconcileReview host journal.state).history = journal.state.history
      obtain ⟨review, same⟩ := reconcileReview_frame host journal.state
      rw [same]
      rfl
  | blockCleanup note =>
      change (blockCleanup host note journal.state).history = journal.state.history
      obtain ⟨review, same⟩ := blockCleanup_frame host note journal.state
      rw [same]
      rfl

theorem move_entry {key : String} {entry : Move × Journal}
    (present : HasEntry key entry.2.state) :
    HasEntry key (Move.step host entry.1 entry.2).state.state := by
  obtain ⟨move, journal⟩ := entry
  cases move with
  | request traffic request =>
      change HasEntry key (observeRequest host traffic _ request journal.state).state
      exact edits_kept (HasEntry key) (observeRequest_edits host journal.state) present
        fun _ _ edit held => requestEdit_entry host edit held
  | begin | confirmPending | bindNamed | registerMutations | settleCleanup | readPage | progress
  | rereadPage | review | blockCleanup => exact present.of_history (move_history host (by simp))

def ObservesOnly (seen : List Submission) (entry : Move × Journal) : Prop :=
  ∀ traffic request submission, entry.1 = .request traffic request →
    submissionOf host traffic request = some submission → submission ∈ seen

theorem move_shows {seen : List Submission} {entry : Move × Journal}
    (observed : ObservesOnly host seen entry) (shows_ : Shows seen entry.2.state) :
    Shows seen (Move.step host entry.1 entry.2).state.state := by
  obtain ⟨move, journal⟩ := entry
  cases move with
  | request traffic request =>
      change Shows seen (observeRequest host traffic _ request journal.state).state
      exact edits_kept (Shows seen) (observeRequest_edits host journal.state) shows_
        fun _ _ edit held =>
          requestEdit_shows host edit (fun submission => observed traffic request submission rfl) held
  | begin | confirmPending | bindNamed | registerMutations | settleCleanup | readPage | progress
  | rereadPage | review | blockCleanup => exact shows_.of_history (move_history host (by simp))

/-- What each request of a run has to meet: it does not make `new URL` throw, and a business
write has an address and comes with evidence. -/
def Receivable (entry : Move × Journal) : Prop :=
  match entry.1 with
  | .request traffic request =>
      (request.urlText host = "" ∨ decidesList host request = true) ∧
        (∀ read ∈ entry.2.state.readReceipts, (host.parseUrl read.url).isSome = true) ∧
        ((submissionOf host traffic request).isSome = true →
          traffic.evidenceRefs ≠ [] ∧ request.urlText host ≠ "")
  | _ => True

theorem receivable_quiet {entry : Move × Journal} (receivable : Receivable host entry)
    (report : ∀ next, entry.1 ≠ .progress next) :
    (Move.step host entry.1 entry.2).thrown = none := by
  obtain ⟨move, journal⟩ := entry
  cases move with
  | request traffic request =>
      obtain ⟨decides, reads, -⟩ := receivable
      change (observeRequest host traffic _ request journal.state).thrown = none
      exact observeRequest_quiet host reads decides
  | progress next => exact absurd rfl (report next)
  | begin | confirmPending | bindNamed | registerMutations | settleCleanup | readPage
  | rereadPage | review | blockCleanup => rfl

theorem receivable_entry {traffic : Traffic} {request : Request} {journal : Journal}
    {submission : Submission} (receivable : Receivable host (.request traffic request, journal))
    (submits : submissionOf host traffic request = some submission) :
    HasEntry submission.key (Move.step host (.request traffic request) journal).state.state := by
  obtain ⟨decides, -, delivery⟩ := receivable
  obtain ⟨delivered, addressed⟩ := delivery (by simp [submits])
  change HasEntry submission.key (observeRequest host traffic _ request journal.state).state
  exact observeRequest_entry host submits delivered addressed (decides.resolve_left addressed)

theorem path_entry {key : String} {start finish : Journal} {made : Trace}
    (path : Path (Move.step host) start made finish) (present : HasEntry key start.state) :
    HasEntry key finish.state :=
  (path.invariant (fun journal => HasEntry key journal.state) present
    fun _ _ held => move_entry host held).1

theorem block_entries {moves : List Move} {journal : Journal}
    (reports : ∀ next, .progress next ∉ moves)
    (receivable : ∀ entry ∈ movesMade (Move.step host) moves journal, Receivable host entry)
    {traffic : Traffic} {request : Request} {submission : Submission}
    (received : .request traffic request ∈ moves)
    (submits : submissionOf host traffic request = some submission) :
    HasEntry submission.key (runMoves (Move.step host) moves journal).state.state := by
  induction moves generalizing journal with
  | nil => simp at received
  | cons move rest ih =>
      have here : Receivable host (move, journal) :=
        receivable (move, journal) (by simp [movesMade])
      have quiet : (Move.step host move journal).thrown = none := by
        apply receivable_quiet host here
        intro next report
        exact reports next (report ▸ List.mem_cons_self ..)
      simp only [runMoves, Outcome.andThen, quiet]
      rcases List.mem_cons.mp received with first | later
      · subst first
        exact path_entry host (runMoves_path rest _) (receivable_entry host here submits)
      · refine ih (fun next member => reports next (List.mem_cons_of_mem _ member)) ?_ later
        intro entry member
        exact receivable entry (by simp [movesMade, quiet, member])

theorem call_entries {call : Call} {journal : Journal}
    (receivable : ∀ entry ∈ call.trace host journal, Receivable host entry)
    {submission : Submission} (observed : submission ∈ call.submissions host) :
    HasEntry submission.key (call.perform host journal).state := by
  cases call with
  | observe input =>
      obtain ⟨request, received, submits⟩ := List.mem_filterMap.mp observed
      have listed : Move.request input.traffic request ∈ observeMoves host input := by
        simp [observeMoves, received]
      refine block_entries host ?_ receivable listed submits
      intro next member
      unfold observeMoves at member
      split at member
      · simp at member
      · simp at member
  | update next => simp [Call.submissions] at observed
  | updatePartial next => simp [Call.submissions] at observed
  | blockCleanup note => simp [Call.submissions] at observed

theorem updateTrace_reports {next : Members} {journal : Journal} {entry : Move × Journal}
    (member : entry ∈ updateTrace host next journal) (traffic : Traffic) (request : Request) :
    entry.1 ≠ .request traffic request := by
  have listed : entry.1 ∈ updateMoves next := movesMade_mem member
  intro same
  rw [same] at listed
  simp [updateMoves] at listed

theorem recordsTrace_reports {records : List Json} {journal : Journal} {entry : Move × Journal}
    (member : entry ∈ recordsTrace host records journal) (traffic : Traffic)
    (request : Request) : entry.1 ≠ .request traffic request := by
  induction records generalizing journal with
  | nil => simp [recordsTrace] at member
  | cons record rest ih =>
      rcases List.mem_append.mp member with here | later
      · exact updateTrace_reports host here traffic request
      · exact ih later

theorem call_observes {call : Call} {journal : Journal} {entry : Move × Journal}
    (member : entry ∈ call.trace host journal) : ObservesOnly host (call.submissions host) entry := by
  intro traffic request submission received submits
  cases call with
  | observe input =>
      have listed : entry.1 ∈ observeMoves host input := by
        unfold Call.trace at member
        exact movesMade_mem member
      rw [received] at listed
      have delivered : request ∈ input.requests host ∧ traffic = input.traffic := by
        unfold observeMoves at listed
        split at listed
        · simp at listed
          exact ⟨listed.1, listed.2.symm⟩
        · simp at listed
          exact ⟨listed.1, listed.2.symm⟩
      obtain ⟨present, rfl⟩ := delivered
      exact List.mem_filterMap.mpr ⟨request, present, submits⟩
  | update next => exact absurd received (updateTrace_reports host member traffic request)
  | updatePartial next =>
      rcases List.mem_append.mp member with first | rest
      · exact absurd received (updateTrace_reports host first traffic request)
      · split at rest
        · simp at rest
        · exact absurd received (recordsTrace_reports host rest traffic request)
  | blockCleanup note =>
      rw [List.mem_singleton.mp member] at received
      simp at received

theorem run_entries {calls : List Call} {journal : Journal}
    (receivable : ∀ entry ∈ runTrace host calls journal, Receivable host entry)
    {submission : Submission} (observed : submission ∈ observedSubmissions host calls journal) :
    HasEntry submission.key (run host calls journal).state := by
  rcases List.mem_append.mp observed with before | during
  · obtain ⟨write, stored, same⟩ := List.mem_map.mp before
    subst same
    exact path_entry host (run_path host calls journal) (Or.inr (List.mem_map_of_mem stored))
  · induction calls generalizing journal with
    | nil => simp at during
    | cons call rest ih =>
        rw [List.flatMap_cons] at during
        rcases List.mem_append.mp during with here | later
        · have present := call_entries host
            (fun entry member => receivable entry (List.mem_append_left _ member)) here
          exact path_entry host (run_path host rest (call.perform host journal)) present
        · refine ih (fun entry member => receivable entry (List.mem_append_right _ member)) ?_ later
          exact List.mem_append_right _ later

theorem trace_observes {calls : List Call} {journal : Journal} {entry : Move × Journal}
    (member : entry ∈ runTrace host calls journal) :
    ObservesOnly host (calls.flatMap (Call.submissions host)) entry := by
  intro traffic request submission received submits
  induction calls generalizing journal with
  | nil => simp [runTrace] at member
  | cons call rest ih =>
      rw [List.flatMap_cons]
      rcases List.mem_append.mp member with here | later
      · exact List.mem_append_left _
          (call_observes host here traffic request submission received submits)
      · exact List.mem_append_right _ (ih later)

theorem run_shows (calls : List Call) (journal : Journal) :
    Shows (observedSubmissions host calls journal) (run host calls journal).state := by
  refine ((run_path host calls journal).invariant
    (fun journal' => Shows (observedSubmissions host calls journal) journal'.state) ?_ ?_).1
  · intro write member
    exact List.mem_append_left _ (List.mem_map_of_mem member)
  · intro entry member held
    refine move_shows host ?_ held
    intro traffic request submission received submits
    exact List.mem_append_right _
      (trace_observes host member traffic request submission received submits)

def isClosed (record : ExecutionRecord) : Bool :=
  record.cleanup.any fun cleanup => cleanup.status == .completed || cleanup.status == .retained

/-- Where nothing is left to say, a closed record answers for every write. -/
theorem cleanupNotice_none {state : ExecutionState} (silent : cleanupNotice host state = none)
    {write : Write} (stored : write ∈ state.writes)
    (standing : rejectedWrite host write = false) :
    ∃ record ∈ state.records, writeMatchesRecord host write record = true ∧
      isClosed record = true := by
  unfold cleanupNotice at silent
  simp only at silent
  split at silent
  · rename_i quiet
    simp only [Bool.and_eq_true, List.isEmpty_iff] at quiet
    obtain ⟨⟨⟨pending, unresolved⟩, -⟩, -⟩ := quiet
    have answered : state.records.any (answersFor host write) = true := by
      by_contra unanswered
      have listed : write ∈ unresolvedWrites host state := by
        simp only [unresolvedWrites, List.mem_filter]
        exact ⟨stored, by simp [standing, unanswered]⟩
      rw [unresolved] at listed
      simp at listed
    obtain ⟨record, registered, answers⟩ := List.any_eq_true.mp answered
    simp only [answersFor, Bool.and_eq_true] at answers
    obtain ⟨⟨⟨⟨cleaned, -⟩, -⟩, -⟩, fits⟩ := answers
    refine ⟨record, registered, fits, ?_⟩
    obtain ⟨cleanup, given⟩ := Option.isSome_iff_exists.mp cleaned
    by_contra isStillOpen
    have listed : record ∈ pendingCleanup state := by
      simp only [pendingCleanup, List.mem_filter]
      refine ⟨registered, ?_⟩
      simpa [isClosed, isOpen, given] using isStillOpen
    rw [pending] at listed
    simp at listed
  · simp at silent

variable {Origin : Type}

def Distinguished (origin : Nat → Origin) (seen : List Submission) : Prop :=
  ∀ i, i < seen.length → ∀ j, j < seen.length →
    seen[i]?.map Submission.key = seen[j]?.map Submission.key → origin i = origin j

/-- An entry that shows an observation of the browser request behind submission `index`. -/
def StandsFor (origin : Nat → Origin) (seen : List Submission) (index : Nat) (write : Write) :
    Prop :=
  ∃ other, seen[other]? = some write.submission ∧ origin other = origin index

/-- Every browser request has an entry of its own, unless entries have been evicted, and
where the notice is silent a closed record answers for every entry. -/
structure Accounted (origin : Nat → Origin) (seen : List Submission)
    (state : ExecutionState) : Prop where
  entries : state.writeHistoryTruncated = false →
    ∀ index, index < seen.length → ∃ write ∈ state.writes, StandsFor origin seen index write
  apart : ∀ write ∈ state.writes, ∀ i j, StandsFor origin seen i write →
    StandsFor origin seen j write → origin i = origin j
  settled : cleanupNotice host state = none →
    ∀ write ∈ state.writes, rejectedWrite host write = false →
      ∃ record ∈ state.records, writeMatchesRecord host write record = true ∧
        isClosed record = true

theorem run_accounted {calls : List Call} {journal : Journal} {origin : Nat → Origin}
    (receivable : ∀ entry ∈ runTrace host calls journal, Receivable host entry)
    (distinguished : Distinguished origin (observedSubmissions host calls journal)) :
    Accounted host origin (observedSubmissions host calls journal)
      (run host calls journal).state := by
  have shown := run_shows host calls journal
  have present : ∀ submission ∈ observedSubmissions host calls journal,
      HasEntry submission.key (run host calls journal).state :=
    fun submission observed => run_entries host receivable observed
  generalize observedSubmissions host calls journal = seen at distinguished shown present ⊢
  have same : ∀ (i j : Nat) (first second : Submission), seen[i]? = some first →
      seen[j]? = some second → first.key = second.key → origin i = origin j := by
    intro i j first second here there shared
    refine distinguished i (List.getElem?_eq_some_iff.mp here).1 j
      (List.getElem?_eq_some_iff.mp there).1 ?_
    rw [here, there]
    exact congrArg some shared
  refine ⟨?_, ?_, fun silent write stored standing =>
    cleanupNotice_none host silent stored standing⟩
  · intro whole index inside
    have here : seen[index]? = some seen[index] := List.getElem?_eq_getElem inside
    rcases present seen[index] (List.getElem_mem inside) with truncated | listed
    · rw [whole] at truncated
      simp at truncated
    · obtain ⟨write, stored, key⟩ := List.mem_map.mp listed
      obtain ⟨other, there⟩ := List.mem_iff_getElem?.mp (shown write stored)
      exact ⟨write, stored, other, there, same other index _ _ there here key⟩
  · rintro write - i j ⟨first, here, isFirst⟩ ⟨second, there, isSecond⟩
    rw [← isFirst, ← isSecond]
    exact same first second _ _ here there rfl

/-- In a run of receivable requests whose keys tell the browser requests apart, every state
reached between two calls accounts for every submission. -/
theorem submissions_accounted (calls : List Call) (journal : Journal) (origin : Nat → Origin)
    (receivable : ∀ entry ∈ runTrace host calls journal, Receivable host entry)
    (distinguished : Distinguished origin (observedSubmissions host calls journal)) :
    ∀ earlier, earlier <+: calls →
      Accounted host origin (observedSubmissions host earlier journal)
        (run host earlier journal).state := by
  rintro earlier ⟨later, rfl⟩
  rw [runTrace_append] at receivable
  refine run_accounted host
    (fun entry member => receivable entry (List.mem_append_left _ member)) ?_
  intro i insideFirst j insideSecond shared
  have whole : observedSubmissions host (earlier ++ later) journal =
      observedSubmissions host earlier journal ++ later.flatMap (Call.submissions host) := by
    simp [observedSubmissions]
  rw [whole] at distinguished
  refine distinguished i (by simp; omega) j (by simp; omega) ?_
  rw [List.getElem?_append_left insideFirst, List.getElem?_append_left insideSecond]
  exact shared

instance (entry : Move × Journal) : Decidable (Receivable host entry) :=
  match entry with
  | (.request traffic request, journal) =>
      inferInstanceAs (Decidable ((request.urlText host = "" ∨ decidesList host request = true) ∧
        (∀ read ∈ journal.state.readReceipts, (host.parseUrl read.url).isSome = true) ∧
        ((submissionOf host traffic request).isSome = true →
          traffic.evidenceRefs ≠ [] ∧ request.urlText host ≠ "")))
  | (.begin _, _) | (.confirmPending, _) | (.bindNamed, _) | (.registerMutations, _)
  | (.settleCleanup, _) | (.readPage _ _, _) | (.progress _, _) | (.rereadPage, _)
  | (.review, _) | (.blockCleanup _, _) => .isTrue trivial

instance [DecidableEq Origin] (origin : Nat → Origin) (seen : List Submission) :
    Decidable (Distinguished origin seen) :=
  inferInstanceAs (Decidable (∀ i, i < seen.length → ∀ j, j < seen.length →
    seen[i]?.map Submission.key = seen[j]?.map Submission.key → origin i = origin j))

end Host

def loggedWrite (method url : String) : Json :=
  .obj [("method", .str method), ("url", .str url), ("status", .num 200),
    ("timestamp", .str "2026-01-01T00:00:00.000Z")]

def writeLog : Json :=
  .arr [loggedWrite "POST" "https://a.b/w", loggedWrite "DELETE" "https://a.b/w/7"]

def writeHost : Host :=
  .ofTables
    { values := [writeLog, .obj []]
      urls := [
        ("https://a.b/w", { origin := "https://a.b", pathname := "/w", searchParams := [] }),
        ("https://a.b/w/7", { origin := "https://a.b", pathname := "/w/7", searchParams := [] })] }

def loggedCall : Call :=
  .observe
    { output := .obj [("id", .str "l"), ("status", .str "SUCCEEDED"),
        ("result", .obj [("content", .str (String.ofList (render writeLog)))])]
      evidence := ["artifact://l"]
      command := none }

theorem simultaneous_writes_merged :
    ¬Accounted writeHost id (observedSubmissions writeHost [loggedCall] (restore writeHost []))
      (run writeHost [loggedCall] (restore writeHost [])).state := by
  intro accounted
  have whole : (run writeHost [loggedCall]
      (restore writeHost [])).state.writeHistoryTruncated = false := by decide +kernel
  have created : (observedSubmissions writeHost [loggedCall] (restore writeHost []))[0]?.map
      Submission.method = some .post := by decide +kernel
  have deleted : (run writeHost [loggedCall] (restore writeHost [])).state.writes.map Write.method =
      [.delete] := by decide +kernel
  obtain ⟨write, stored, other, shown, first⟩ := accounted.entries whole 0 (by decide +kernel)
  obtain rfl : other = 0 := first
  rw [shown] at created
  have shows_ : write.method = .post := by simpa [Write.submission] using created
  have listed : write.method ∈ [WriteMethod.delete] := by
    rw [← deleted]
    exact List.mem_map_of_mem stored
  rw [shows_] at listed
  simp at listed

def twoWrites : List Call := [
  .observed "l" [requestJson "1" "POST" "https://a.b/w" 200 none none (some (.obj [])),
    requestJson "2" "DELETE" "https://a.b/w/7" 200 none none (some (.obj []))] none]

theorem identified_writes_accounted :
    Accounted writeHost id (observedSubmissions writeHost twoWrites (restore writeHost []))
      (run writeHost twoWrites (restore writeHost [])).state :=
  submissions_accounted writeHost twoWrites (restore writeHost []) id (by decide +kernel)
    (by decide +kernel) twoWrites (List.prefix_refl _)

end Devproof
