import Mathlib.Logic.Relation
import Devproof.Journal.Run

/-!
What a move can do.  Reading a request or a page is a chain of edits of the
execution state, each with the guards the code passes before it makes it.
-/

namespace Devproof

theorem foldl_edits {α State : Type} {edit : State → State → Prop} {step : State → α → State}
    {items : List α} {start : State}
    (steps : ∀ state, ∀ item ∈ items, Relation.ReflTransGen edit state (step state item)) :
    Relation.ReflTransGen edit start (items.foldl step start) :=
  foldl_invariant (Relation.ReflTransGen edit start) Relation.ReflTransGen.refl fun state item member reached =>
    reached.trans (steps state item member)

theorem edits_kept {State : Type} {edit : State → State → Prop} {start finish : State}
    (kept : State → Prop) (edits : Relation.ReflTransGen edit start finish)
    (initially : kept start)
    (each : ∀ before after, edit before after → kept before → kept after) : kept finish := by
  induction edits with
  | refl => exact initially
  | tail _ last ih => exact each _ _ last ih

/-! The parts of a record that only progress and a rename change. -/

def ExecutionRecord.core (record : ExecutionRecord) : ExecutionRecord :=
  { record with currentState := none, uiBaseline := none, evidenceRefs := [], cleanup := none }

structure RecordIdentity where
  recordRef : Option String
  id : String
  type : Option String
  resourceUrl : Option String
  account : Option String
  creationWriteKey : Option String
  deriving Repr, DecidableEq

def ExecutionRecord.identity (record : ExecutionRecord) : RecordIdentity where
  recordRef := record.recordRef
  id := record.id
  type := record.type
  resourceUrl := record.resourceUrl
  account := record.account
  creationWriteKey := record.creationWriteKey

theorem recordRef_of_core {left right : ExecutionRecord} (same : left.core = right.core) :
    left.recordRef = right.recordRef := by
  have cores : left.core.recordRef = right.core.recordRef := congrArg ExecutionRecord.recordRef same
  exact cores

theorem initialState_of_core {left right : ExecutionRecord} (same : left.core = right.core) :
    left.initialState = right.initialState := by
  have cores : left.core.initialState = right.core.initialState :=
    congrArg ExecutionRecord.initialState same
  exact cores

theorem mem_core {left right : List ExecutionRecord}
    (same : left.map ExecutionRecord.core = right.map ExecutionRecord.core)
    {record : ExecutionRecord} (member : record ∈ left) :
    ∃ other ∈ right, other.core = record.core := by
  have found : record.core ∈ right.map ExecutionRecord.core := same ▸ List.mem_map_of_mem member
  obtain ⟨other, present, equal⟩ := List.mem_map.mp found
  exact ⟨other, present, equal⟩

@[simp] theorem invalidateRecord_core (refs : List String) (record : ExecutionRecord) :
    (invalidateRecord refs record).core = record.core := by
  unfold invalidateRecord
  split
  · split <;> rfl
  · rfl

@[simp] theorem invalidate_records_core (wanted : Option String) (state : ExecutionState) :
    (invalidateUiConfirmations wanted state).records.map ExecutionRecord.core =
      state.records.map ExecutionRecord.core := by
  simp [invalidateUiConfirmations]

theorem setKnown_records_core {state : ExecutionState} {slot : KnownSlot}
    {old record : ExecutionRecord} (here : knownRecord state slot = some old)
    (same : record.core = old.core) :
    (setKnown state record slot).records.map ExecutionRecord.core =
      state.records.map ExecutionRecord.core := by
  cases slot with
  | observed index => rfl
  | registered index => exact set_map here same

theorem setKnown_observed_core {state : ExecutionState} {slot : KnownSlot}
    {old record : ExecutionRecord} (here : knownRecord state slot = some old)
    (same : record.core = old.core) :
    (setKnown state record slot).observedRecords.map ExecutionRecord.core =
      state.observedRecords.map ExecutionRecord.core := by
  cases slot with
  | observed index => exact set_map here same
  | registered index => rfl

theorem knownRecord_core {left right : ExecutionState} {slot : KnownSlot}
    (records : left.records.map ExecutionRecord.core = right.records.map ExecutionRecord.core)
    (observed : left.observedRecords.map ExecutionRecord.core =
      right.observedRecords.map ExecutionRecord.core)
    {record : ExecutionRecord} (here : knownRecord left slot = some record) :
    ∃ other, knownRecord right slot = some other ∧ other.core = record.core := by
  cases slot with
  | observed index =>
      have same := congrArg (fun items => items[index]?) observed
      simp only [List.getElem?_map, knownRecord] at same here ⊢
      rw [here] at same
      obtain ⟨other, found, equal⟩ := Option.map_eq_some_iff.mp same.symm
      exact ⟨other, found, equal⟩
  | registered index =>
      have same := congrArg (fun items => items[index]?) records
      simp only [List.getElem?_map, knownRecord] at same here ⊢
      rw [here] at same
      obtain ⟨other, found, equal⟩ := Option.map_eq_some_iff.mp same.symm
      exact ⟨other, found, equal⟩

section Host

variable (host : Host)

section Page

variable (observation : StructuredObservation) (evidenceRefs : List String) (freshRead : Bool)

inductive PageEdit : ExecutionState → ExecutionState → Prop where
  | withdraw (state : ExecutionState) (ref : String) (named : ref ≠ "") :
      PageEdit state (invalidateUiConfirmations (some ref) state)
  | baseline (state : ExecutionState) (slot : KnownSlot) (record : ExecutionRecord)
      (candidates : List (List String)) (read : UiBaseline)
      (here : knownRecord state slot = some record)
      (found : uiBaselineOf observation evidenceRefs candidates record = some read) :
      PageEdit state (setKnown state { record with uiBaseline := some read } slot)
  | confirm (state : ExecutionState) (slot : KnownSlot) (record : ExecutionRecord) (ref : String)
      (candidates : List (List String)) (baseline : UiBaseline)
      (here : knownRecord state slot = some record) (named : record.recordRef = some ref)
      (before : record.uiBaseline = some baseline)
      (restored : pageRestores host observation freshRead candidates record baseline = true)
      (allowed : mutationAllows host state record = true) :
      PageEdit state (confirmOnPage host observation evidenceRefs slot record ref baseline state)

variable {observation evidenceRefs freshRead}

theorem readBaseline_edits {candidates : List (List String)} {slot : KnownSlot}
    {record : ExecutionRecord} {state : ExecutionState}
    (here : knownRecord state slot = some record) :
    Relation.ReflTransGen (PageEdit host observation evidenceRefs freshRead) state
      (readBaseline host observation evidenceRefs candidates slot record state) := by
  unfold readBaseline
  split
  · split
    · rename_i read found
      exact Relation.ReflTransGen.single (PageEdit.baseline _ _ _ candidates _ here found)
    · exact Relation.ReflTransGen.refl
  · exact Relation.ReflTransGen.refl

theorem readRestoration_edits {candidates : List (List String)} {slot : KnownSlot}
    {record : ExecutionRecord} {ref : String} {state : ExecutionState}
    (here : knownRecord state slot = some record) (named : record.recordRef = some ref) :
    Relation.ReflTransGen (PageEdit host observation evidenceRefs freshRead) state
      (readRestoration host observation evidenceRefs freshRead candidates slot record ref state) := by
  unfold readRestoration
  split
  · exact Relation.ReflTransGen.refl
  · rename_i baseline before
    split
    · rename_i accepted
      obtain ⟨restored, allowed⟩ := Bool.and_eq_true_iff.mp accepted
      exact Relation.ReflTransGen.single
        (PageEdit.confirm _ _ _ _ candidates _ here named before restored allowed)
    · exact Relation.ReflTransGen.refl

theorem readBaseline_core (observation : StructuredObservation) (evidenceRefs : List String)
    (candidates : List (List String)) {slot : KnownSlot} {record : ExecutionRecord}
    {state : ExecutionState} (here : knownRecord state slot = some record) :
    (readBaseline host observation evidenceRefs candidates slot record state).records.map
        ExecutionRecord.core = state.records.map ExecutionRecord.core ∧
      (readBaseline host observation evidenceRefs candidates slot record
        state).observedRecords.map ExecutionRecord.core =
          state.observedRecords.map ExecutionRecord.core := by
  unfold readBaseline
  split
  · split
    · exact ⟨setKnown_records_core here rfl, setKnown_observed_core here rfl⟩
    · exact ⟨rfl, rfl⟩
  · exact ⟨rfl, rfl⟩

theorem observeKnown_edits (known : List ExecutionRecord) (state : ExecutionState)
    (slot : KnownSlot) :
    Relation.ReflTransGen (PageEdit host observation evidenceRefs freshRead) state
      (observeKnown host observation evidenceRefs freshRead known state slot) := by
  unfold observeKnown
  split
  · exact Relation.ReflTransGen.refl
  · rename_i record here
    split
    · exact Relation.ReflTransGen.refl
    · rename_i ref named
      by_cases skipped : ((recordAliases record).isEmpty || ref == "" ||
          isAmbiguous known record) = true
      · simp only [skipped, if_true]
        exact Relation.ReflTransGen.refl
      · simp only [skipped, Bool.false_eq_true, if_false]
        simp only [Bool.or_eq_true, not_or, beq_iff_eq, Bool.not_eq_true] at skipped
        generalize (observedRows observation).filter _ = candidates
        generalize reading : (if pageContradicts observation candidates record = true then
          invalidateUiConfirmations (some ref) state else state) = checked
        have first : Relation.ReflTransGen (PageEdit host observation evidenceRefs freshRead)
            state checked ∧
            checked.records.map ExecutionRecord.core = state.records.map ExecutionRecord.core ∧
            checked.observedRecords = state.observedRecords := by
          subst reading
          split
          · exact ⟨Relation.ReflTransGen.single (PageEdit.withdraw _ _ skipped.1.2),
              invalidate_records_core _ _, rfl⟩
          · exact ⟨Relation.ReflTransGen.refl, rfl, rfl⟩
        obtain ⟨withdrawn, recordsSame, observedSame⟩ := first
        cases second : knownRecord checked slot with
        | none => exact withdrawn
        | some current =>
            simp only
            have based : Relation.ReflTransGen (PageEdit host observation evidenceRefs freshRead)
                checked (readBaseline host observation evidenceRefs candidates slot current checked) :=
              readBaseline_edits host second
            have kept := readBaseline_core host observation evidenceRefs candidates second
            obtain ⟨recordsKept, observedKept⟩ := kept
            cases third : knownRecord (readBaseline host observation evidenceRefs candidates slot
                current checked) slot with
            | none => exact withdrawn.trans based
            | some last =>
                obtain ⟨middle, there, sameLast⟩ := knownRecord_core recordsKept observedKept third
                obtain ⟨original, back, sameMiddle⟩ := knownRecord_core recordsSame
                  (congrArg _ observedSame) there
                have same : original = record := by
                  rw [here] at back
                  exact (Option.some.inj back).symm
                have lastNamed : last.recordRef = some ref := by
                  rw [← recordRef_of_core sameLast, ← recordRef_of_core sameMiddle, same]
                  exact named
                exact (withdrawn.trans based).trans (readRestoration_edits host third lastNamed)

theorem observeUi_edits (state : ExecutionState) :
    Relation.ReflTransGen (PageEdit host observation evidenceRefs freshRead) state
      (observeUi host observation evidenceRefs freshRead state) := by
  unfold observeUi
  split
  · exact Relation.ReflTransGen.refl
  · exact foldl_edits fun state slot _ => observeKnown_edits host _ state slot

end Page

section Request

variable (traffic : Traffic) (label : Option Json → Option String) (request : Request)

def submittedLabel (method : WriteMethod) : Option String :=
  let submitted := object (host.parse request.requestSummary)
  (if method = .post then label (submitted.get "account") else none).filter (· != "")

def requestSequence (state : ExecutionState) : Int :=
  indexOf (noteRequest (request.key host traffic) state).requestOrder (request.key host traffic)

inductive RequestEdit (sequence : Int) : ExecutionState → ExecutionState → Prop where
  | note (state : ExecutionState) : RequestEdit sequence state (noteRequest (request.key host traffic) state)
  | prove (state : ExecutionState) (scope : ExactScope)
      (empty : isEmptyRead host request (request.urlText host) = some true)
      (asked : exactScope host (request.urlText host) = some scope)
      (delivered : traffic.evidenceRefs.isEmpty = false)
      (first : state.writes.any
        (forestalls host (request.urlText host) scope.type scope.account) = false) :
      RequestEdit sequence state
        (addAbsence (absenceKey (resource host (request.urlText host)) scope.type scope.account) state)
  | store (state : ExecutionState) (method : WriteMethod)
      (submits : writeMethodOf (request.methodText host) = some method)
      (business : isAuthUrl (request.urlText host) = false)
      (delivered : traffic.evidenceRefs.isEmpty = false) :
      RequestEdit sequence state
        (storeWrite (writeReceipt traffic request method (request.key host traffic)
          (request.urlText host) sequence (submittedLabel host label request method)) state).state
  | infer (state after : ExecutionState) (write : Write) (stored : write ∈ state.writes)
      (inferred : inferCreationAbsence host write state = some after) :
      RequestEdit sequence state after
  | bound (state : ExecutionState) : RequestEdit sequence state (boundWrites state)
  | verify (state : ExecutionState) : RequestEdit sequence state (enterVerifying state)
  | withdraw (state : ExecutionState) :
      RequestEdit sequence state (withdrawAbsence host request (request.urlText host) state)
  | read (state : ExecutionState) (complete : Bool)
      (delivered : traffic.evidenceRefs.isEmpty = false) (placed : 0 ≤ sequence)
      (succeeded : request.succeeded host = true)
      (decided : completeList host (request.body host) (request.urlText host) = some complete) :
      RequestEdit sequence state
        (storeRead host (readReceipt host traffic request (request.key host traffic)
          (request.urlText host) sequence complete) state)
  | aliases (state : ExecutionState) (row : Members) (listed : row ∈ recordsOf host (request.body host)) :
      RequestEdit sequence state (extendAliases (rowAliases host row) state)
  | showState (state : ExecutionState) (row : Members) (existing : ExecutionRecord)
      (here : state.records.find? (fun record =>
        record.key host == rowKey host row (request.urlText host)) = some existing) :
      RequestEdit sequence state
        (showCurrentState host (rowKey host row (request.urlText host)) row existing state)
  | baseline (state : ExecutionState) (row : Members)
      (listed : row ∈ recordsOf host (request.body host))
      (offered : offersBaseline host request sequence row state = true) :
      RequestEdit sequence state
        (observeBaseline host (rowBaseline host traffic request (request.key host traffic)
          (request.urlText host) sequence row) (rowKey host row (request.urlText host)) state)
  | pending (state : ExecutionState) (row : Members)
      (listed : row ∈ recordsOf host (request.body host))
      (claimed : (claimingCreation host (recordsOf host (request.body host))
        (rowPending host traffic (request.urlText host) row) state).isSome = true) :
      RequestEdit sequence state
        (storePending host (rowPending host traffic (request.urlText host) row)
          (rowKey host row (request.urlText host)) state)
  | existing (state : ExecutionState) (row : Members)
      (listed : row ∈ recordsOf host (request.body host)) :
      RequestEdit sequence state (addExistingKey (rowKey host row (request.urlText host)) state)

variable {traffic label request}

theorem storeWrite_mem (receipt : Write) (state : ExecutionState) :
    (storeWrite receipt state).write ∈ (storeWrite receipt state).state.writes := by
  unfold storeWrite
  split
  · rename_i previous found
    have present : mergeWrite previous receipt ∈
        replaceFirst (fun write => write.key == receipt.key) (mergeWrite previous receipt)
          state.writes := mem_replaceFirst_self (by rw [found]; rfl)
    simp only
    split
    · exact present
    · exact present
  · simp [invalidateUiConfirmations]

theorem storeWrite_frame (receipt : Write) (state : ExecutionState) :
    ∃ records confirmations writes,
      (storeWrite receipt state).state =
        { state with records, cleanupConfirmations := confirmations, writes } ∧
      records.map ExecutionRecord.core = state.records.map ExecutionRecord.core := by
  unfold storeWrite
  split
  · simp only
    split
    · exact ⟨_, _, _, rfl, invalidate_records_core none state⟩
    · exact ⟨_, _, _, rfl, rfl⟩
  · exact ⟨_, _, _, rfl, invalidate_records_core none state⟩

theorem storeWrite_reads (receipt : Write) (state : ExecutionState) :
    (storeWrite receipt state).state.readReceipts = state.readReceipts := by
  obtain ⟨records, confirmations, writes, same, -⟩ := storeWrite_frame receipt state
  rw [same]

theorem observeRow_edits {sequence : Int} (state : ExecutionState) (row : Members)
    (listed : row ∈ recordsOf host (request.body host)) :
    Relation.ReflTransGen (RequestEdit host traffic label request sequence) state
      (observeRow host traffic request (request.key host traffic) (request.urlText host) sequence
        (recordsOf host (request.body host)) state row) := by
  unfold observeRow
  split
  · exact Relation.ReflTransGen.refl
  · simp only
    have known : Relation.ReflTransGen (RequestEdit host traffic label request sequence) state
        (extendAliases (rowAliases host row) state) :=
      Relation.ReflTransGen.single (RequestEdit.aliases state row listed)
    generalize extendAliases (rowAliases host row) state = current at known ⊢
    split
    · rename_i existing here
      exact known.tail (RequestEdit.showState current row existing here)
    · generalize reading : (if offersBaseline host request sequence row current = true then
        observeBaseline host (rowBaseline host traffic request (request.key host traffic)
          (request.urlText host) sequence row) (rowKey host row (request.urlText host)) current
        else current) = based
      have read : Relation.ReflTransGen (RequestEdit host traffic label request sequence)
          state based := by
        subst reading
        split
        · rename_i offered
          exact known.tail (RequestEdit.baseline current row listed offered)
        · exact known
      split
      · exact read
      · split
        · rename_i creation claimed
          exact read.tail (RequestEdit.pending based row listed (by simp [claimed]))
        · exact read.tail (RequestEdit.existing based row listed)

theorem recordWrite_edits {sequence : Int} {method : WriteMethod} (state : ExecutionState)
    (submits : writeMethodOf (request.methodText host) = some method)
    (business : isAuthUrl (request.urlText host) = false)
    (delivered : traffic.evidenceRefs.isEmpty = false) :
    Relation.ReflTransGen (RequestEdit host traffic label request sequence) state
      (recordWrite host (writeReceipt traffic request method (request.key host traffic)
        (request.urlText host) sequence (submittedLabel host label request method)) state).state := by
  have stored : Relation.ReflTransGen (RequestEdit host traffic label request sequence) state _ :=
    Relation.ReflTransGen.single (RequestEdit.store state method submits business delivered)
  unfold recordWrite
  simp only
  split
  · exact stored
  · rename_i inferred found
    have proven := stored.tail
      (RequestEdit.infer _ inferred _ (storeWrite_mem _ _) found)
    exact (proven.tail (RequestEdit.bound _)).tail (RequestEdit.verify _)

theorem observeWrite_edits {sequence : Int} (state : ExecutionState) :
    Relation.ReflTransGen (RequestEdit host traffic label request sequence) state
      (observeWrite host traffic label request (request.key host traffic) (request.urlText host)
        sequence state).state := by
  unfold observeWrite
  split
  · exact Relation.ReflTransGen.refl
  · rename_i method submits
    split
    · exact Relation.ReflTransGen.refl
    · rename_i accepted
      simp only [Bool.or_eq_true, not_or, Bool.not_eq_true] at accepted
      exact recordWrite_edits host state submits accepted.1 accepted.2

theorem observeResponse_edits {sequence : Int} (state : ExecutionState) :
    Relation.ReflTransGen (RequestEdit host traffic label request sequence) state
      (observeResponse host traffic request (request.key host traffic) (request.urlText host)
        sequence state).state := by
  unfold observeResponse
  split
  · exact Relation.ReflTransGen.single (RequestEdit.withdraw state)
  · rename_i accepted
    simp only [Bool.or_eq_true, not_or, Bool.not_eq_true'] at accepted
    apply Outcome.andThen_state
    · unfold recordRead
      split
      · rename_i reads
        split
        · exact Relation.ReflTransGen.refl
        · rename_i complete decided
          exact Relation.ReflTransGen.single (RequestEdit.read state complete
            (by simpa using reads.2.1) reads.2.2 (by simpa using accepted.2) decided)
      · exact Relation.ReflTransGen.refl
    · intro middle reached
      exact reached.trans (foldl_edits fun state row listed =>
        observeRow_edits host state row listed)

theorem observeRequest_edits (state : ExecutionState) :
    Relation.ReflTransGen
      (RequestEdit host traffic label request (requestSequence host traffic request state)) state
      (observeRequest host traffic label request state).state := by
  unfold observeRequest requestSequence
  simp only
  generalize indexOf (noteRequest (request.key host traffic) state).requestOrder
    (request.key host traffic) = sequence
  split
  · exact Relation.ReflTransGen.refl
  · have noted : Relation.ReflTransGen (RequestEdit host traffic label request sequence) state
        (noteRequest (request.key host traffic) state) :=
      Relation.ReflTransGen.single (RequestEdit.note state)
    generalize noteRequest (request.key host traffic) state = current at noted ⊢
    split
    · exact noted
    · rename_i empty decided
      have proven : Relation.ReflTransGen (RequestEdit host traffic label request sequence) state
          (if empty = true then exactAbsence host traffic (request.urlText host) current
            else current) := by
        split
        · rename_i isEmpty
          unfold exactAbsence
          split
          · exact noted
          · rename_i scope asked
            split
            · exact noted
            · rename_i accepted
              simp only [Bool.or_eq_true, not_or, Bool.not_eq_true] at accepted
              exact noted.tail (RequestEdit.prove current scope (by rw [decided, isEmpty]) asked
                accepted.1 accepted.2)
        · exact noted
      apply Outcome.andThen_state
      · exact proven.trans (observeWrite_edits host _)
      · intro middle reached
        exact reached.trans (observeResponse_edits host middle)

end Request

/-! An absence inferred from an account-wide read. -/

structure InferredAbsence (write : Write) (state : ExecutionState) where
  sequence : Int
  account : String
  type : String
  read : ReadReceipt
  placed : write.sequence = some sequence
  submitsAccount : stringOf ((writeRequest host write).get "account") = some account
  submitsType : stringOf ((writeRequest host write).get "type") = some type
  creates : write.method = .post
  first : state.writes.any (precedesCreation host write sequence type account) = false
  stored : read ∈ state.readReceipts
  sameResource : resource host read.url = resource host write.url
  earlier : read.sequence < sequence
  stamped : whenStamped read.timestamp write.timestamp host.before = true
  asks : ∃ parsed, host.parseUrl read.url = some parsed ∧ accountScope parsed type account = true
  proves : provesTypeAbsent type account read = true

theorem scopedReadBefore_some {write : Write} {sequence : Int} {type account : String}
    {reads : List ReadReceipt} {read : ReadReceipt}
    (found : scopedReadBefore host write sequence type account reads = some (some read)) :
    read ∈ reads ∧ resource host read.url = resource host write.url ∧ read.sequence < sequence ∧
      whenStamped read.timestamp write.timestamp host.before = true ∧
      ∃ parsed, host.parseUrl read.url = some parsed ∧ accountScope parsed type account = true := by
  induction reads with
  | nil => simp [scopedReadBefore] at found
  | cons first rest ih =>
      simp only [scopedReadBefore] at found
      split at found
      · obtain ⟨member, others⟩ := ih found
        exact ⟨List.mem_cons_of_mem _ member, others⟩
      · rename_i chosen
        simp only [not_or, ne_eq, not_not, Int.not_le] at chosen
        split at found
        · simp at found
        · rename_i parsed parses
          split at found
          · rename_i asks
            obtain rfl := Option.some.inj (Option.some.inj found)
            exact ⟨List.mem_cons_self .., chosen.1, chosen.2.1, chosen.2.2, parsed, parses, asks⟩
          · obtain ⟨member, others⟩ := ih found
            exact ⟨List.mem_cons_of_mem _ member, others⟩

theorem inferCreationAbsence_some {write : Write} {state after : ExecutionState}
    (inferred : inferCreationAbsence host write state = some after) :
    after = state ∨
      ∃ proof : InferredAbsence host write state,
        after = addAbsence (absenceKey (resource host write.url) proof.type proof.account) state := by
  unfold inferCreationAbsence at inferred
  simp only at inferred
  split at inferred
  · rename_i sequence account type placed submitsAccount submitsType
    split at inferred
    · exact Or.inl (Option.some.inj inferred).symm
    · rename_i fresh
      simp only [not_or, ne_eq, not_not, Bool.not_eq_true] at fresh
      split at inferred
      · simp at inferred
      · exact Or.inl (Option.some.inj inferred).symm
      · rename_i read found
        split at inferred
        · rename_i proves
          obtain ⟨member, sameResource, earlier, stamped, asks⟩ := scopedReadBefore_some host found
          exact Or.inr ⟨
            { sequence, account, type, read, placed, submitsAccount, submitsType
              creates := fresh.1
              first := fresh.2.2.2
              stored := (mem_sortDescending _ _ _).mp member
              sameResource, earlier, stamped, asks, proves }, (Option.some.inj inferred).symm⟩
        · exact Or.inl (Option.some.inj inferred).symm
  · exact Or.inl (Option.some.inj inferred).symm

/-! What reading a request leaves alone. -/

theorem noteRequest_frame (key : String) (state : ExecutionState) :
    ∃ order truncated, noteRequest key state =
      { state with requestOrder := order, requestOrderTruncated := truncated } := by
  unfold noteRequest
  split
  · exact ⟨_, _, rfl⟩
  · split <;> exact ⟨_, _, rfl⟩

theorem withdrawAbsence_frame (request : Request) (url : String) (state : ExecutionState) :
    ∃ absences, withdrawAbsence host request url state =
      { state with preflightAbsences := absences } ∧ absences ⊆ state.preflightAbsences := by
  unfold withdrawAbsence
  split
  · exact ⟨_, rfl, fun _ member => (List.mem_filter.mp member).1⟩
  · exact ⟨_, rfl, List.Subset.refl _⟩

theorem boundWrites_frame (state : ExecutionState) :
    ∃ truncated, boundWrites state =
      { state with writeHistoryTruncated := truncated, writes := lastN 200 state.writes } := by
  unfold boundWrites
  split
  · exact ⟨true, rfl⟩
  · rename_i room
    refine ⟨state.writeHistoryTruncated, ?_⟩
    rw [lastN, Nat.sub_eq_zero_of_le (by omega), List.drop_zero]

theorem enterVerifying_frame (state : ExecutionState) :
    ∃ phase step, enterVerifying state = { state with phase, step } := by
  unfold enterVerifying
  split <;> exact ⟨_, _, rfl⟩

theorem invalidateContradicted_frame (read : ReadReceipt) (state : ExecutionState) :
    ∃ records confirmations, invalidateContradicted host read state =
      { state with records, cleanupConfirmations := confirmations } ∧
      records.map ExecutionRecord.core = state.records.map ExecutionRecord.core := by
  unfold invalidateContradicted
  simp only
  split
  · exact ⟨_, _, rfl, rfl⟩
  · refine foldl_invariant
      (fun after => ∃ records confirmations,
        after = { state with records, cleanupConfirmations := confirmations } ∧
          records.map ExecutionRecord.core = state.records.map ExecutionRecord.core)
      ⟨state.records, state.cleanupConfirmations, rfl, rfl⟩ ?_
    rintro current record _ ⟨records, confirmations, rfl, same⟩
    exact ⟨_, _, rfl, (invalidate_records_core record.recordRef _).trans same⟩

theorem storeRead_frame (read : ReadReceipt) (state : ExecutionState) :
    ∃ records confirmations reads, storeRead host read state =
      { state with records, cleanupConfirmations := confirmations, readReceipts := reads } ∧
      records.map ExecutionRecord.core = state.records.map ExecutionRecord.core ∧
      reads = lastN 200 ((state.readReceipts.filter fun old => old.key != read.key) ++ [read]) := by
  obtain ⟨records, confirmations, same, kept⟩ := invalidateContradicted_frame host read state
  refine ⟨records, confirmations, _, ?_, kept, rfl⟩
  unfold storeRead
  simp only [same]

theorem storeRead_mem {read other : ReadReceipt} {state : ExecutionState}
    (member : other ∈ (storeRead host read state).readReceipts) :
    other ∈ state.readReceipts ∨ other = read := by
  obtain ⟨records, confirmations, reads, same, -, stored⟩ := storeRead_frame host read state
  have listed : other ∈ reads := by
    rw [same] at member
    exact member
  rw [stored] at listed
  rcases List.mem_append.mp (mem_lastN listed) with old | new
  · exact Or.inl (List.mem_filter.mp old).1
  · exact Or.inr (List.mem_singleton.mp new)

theorem showCurrentState_frame {key : String} (row : Members) {existing : ExecutionRecord}
    {state : ExecutionState}
    (here : state.records.find? (fun record => record.key host == key) = some existing) :
    ∃ records, showCurrentState host key row existing state = { state with records } ∧
      records.map ExecutionRecord.core = state.records.map ExecutionRecord.core := by
  unfold showCurrentState
  split
  · exact ⟨_, rfl, rfl⟩
  · refine ⟨_, rfl, replaceFirst_map ?_⟩
    intro old found
    rw [here] at found
    rw [← Option.some.inj found]
    rfl

theorem observeBaseline_frame (baseline : ExecutionRecord) (key : String) (state : ExecutionState) :
    observeBaseline host baseline key state = state ∨
      observeBaseline host baseline key state =
        { state with
          observedRecords := state.observedRecords ++
            [{ baseline with recordRef := some (baseline.stableRef host) }] } := by
  unfold observeBaseline
  split
  · exact Or.inr rfl
  · exact Or.inl rfl

theorem addExistingKey_frame (key : String) (state : ExecutionState) :
    ∃ keys, addExistingKey key state = { state with existingRecordKeys := keys } :=
  ⟨_, rfl⟩

theorem storePending_frame (pending : PendingRecord) (key : String) (state : ExecutionState) :
    ∃ waiting, storePending host pending key state = { state with pendingRecords := waiting } := by
  unfold storePending
  split
  · exact ⟨_, rfl⟩
  · split <;> exact ⟨_, rfl⟩

/-- Of the ledger a request changes neither the records nor their order; it adds at most
one observed baseline and one read receipt at a time. -/
theorem requestEdit_frame {traffic : Traffic} {label : Option Json → Option String}
    {request : Request} {sequence : Int} {before after : ExecutionState}
    (edit : RequestEdit host traffic label request sequence before after) :
    after.records.map ExecutionRecord.core = before.records.map ExecutionRecord.core ∧
      (after.observedRecords = before.observedRecords ∨
        ∃ baseline : ExecutionRecord, after.observedRecords =
          before.observedRecords ++
            [{ baseline with recordRef := some (baseline.stableRef host) }]) ∧
      ∀ read ∈ after.readReceipts, read ∈ before.readReceipts ∨
        ∃ complete, read = readReceipt host traffic request (request.key host traffic)
          (request.urlText host) sequence complete := by
  cases edit with
  | note =>
      obtain ⟨order, truncated, same⟩ := noteRequest_frame (request.key host traffic) before
      rw [same]
      exact ⟨rfl, Or.inl rfl, fun _ => Or.inl⟩
  | prove => exact ⟨rfl, Or.inl rfl, fun _ => Or.inl⟩
  | store method submits business delivered =>
      obtain ⟨records, confirmations, writes, same, kept⟩ := storeWrite_frame _ before
      rw [same]
      exact ⟨kept, Or.inl rfl, fun _ => Or.inl⟩
  | infer next write stored inferred =>
      rcases inferCreationAbsence_some host inferred with same | ⟨proof, same⟩
      · rw [same]
        exact ⟨rfl, Or.inl rfl, fun _ => Or.inl⟩
      · rw [same]
        exact ⟨rfl, Or.inl rfl, fun _ => Or.inl⟩
  | bound =>
      obtain ⟨truncated, same⟩ := boundWrites_frame before
      rw [same]
      exact ⟨rfl, Or.inl rfl, fun _ => Or.inl⟩
  | verify =>
      obtain ⟨phase, step, same⟩ := enterVerifying_frame before
      rw [same]
      exact ⟨rfl, Or.inl rfl, fun _ => Or.inl⟩
  | withdraw =>
      obtain ⟨absences, same, -⟩ := withdrawAbsence_frame host request (request.urlText host) before
      rw [same]
      exact ⟨rfl, Or.inl rfl, fun _ => Or.inl⟩
  | read complete delivered placed succeeded decided =>
      refine ⟨?_, ?_, fun read member => (storeRead_mem host member).imp_right (⟨complete, ·⟩)⟩
      · obtain ⟨records, confirmations, reads, same, kept, -⟩ := storeRead_frame host
          (readReceipt host traffic request (request.key host traffic) (request.urlText host)
            sequence complete) before
        rw [same]
        exact kept
      · obtain ⟨records, confirmations, reads, same, -, -⟩ := storeRead_frame host
          (readReceipt host traffic request (request.key host traffic) (request.urlText host)
            sequence complete) before
        rw [same]
        exact Or.inl rfl
  | aliases => exact ⟨rfl, Or.inl rfl, fun _ => Or.inl⟩
  | showState row existing here =>
      obtain ⟨records, same, kept⟩ := showCurrentState_frame host row here
      rw [same]
      exact ⟨kept, Or.inl rfl, fun _ => Or.inl⟩
  | baseline row listed offered =>
      rcases observeBaseline_frame host _ (rowKey host row (request.urlText host)) before with
        same | same
      · rw [same]
        exact ⟨rfl, Or.inl rfl, fun _ => Or.inl⟩
      · rw [same]
        exact ⟨rfl, Or.inr ⟨_, rfl⟩, fun _ => Or.inl⟩
  | pending row listed claimed =>
      obtain ⟨waiting, same⟩ := storePending_frame host
        (rowPending host traffic (request.urlText host) row)
        (rowKey host row (request.urlText host)) before
      rw [same]
      exact ⟨rfl, Or.inl rfl, fun _ => Or.inl⟩
  | existing row listed =>
      obtain ⟨keys, same⟩ := addExistingKey_frame (rowKey host row (request.urlText host)) before
      rw [same]
      exact ⟨rfl, Or.inl rfl, fun _ => Or.inl⟩

theorem observeRequest_records {traffic : Traffic} {label : Option Json → Option String}
    {request : Request} (state : ExecutionState) :
    (observeRequest host traffic label request state).state.records.map ExecutionRecord.core =
      state.records.map ExecutionRecord.core :=
  edits_kept (fun after => after.records.map ExecutionRecord.core =
      state.records.map ExecutionRecord.core) (observeRequest_edits host state) rfl
    fun _ _ edit same => (requestEdit_frame host edit).1.trans same

theorem pageEdit_records {observation : StructuredObservation} {evidenceRefs : List String}
    {freshRead : Bool} {before after : ExecutionState}
    (edit : PageEdit host observation evidenceRefs freshRead before after) :
    after.records.map ExecutionRecord.core = before.records.map ExecutionRecord.core ∧
      after.observedRecords.map ExecutionRecord.core =
        before.observedRecords.map ExecutionRecord.core := by
  cases edit with
  | withdraw => exact ⟨invalidate_records_core _ _, rfl⟩
  | baseline slot record candidates read here found =>
      exact ⟨setKnown_records_core here rfl, setKnown_observed_core here rfl⟩
  | confirm slot record ref candidates baseline here named known restored allowed =>
      unfold confirmOnPage
      simp only
      cases slot with
      | observed index =>
          have there : before.observedRecords[index]? = some record := here
          exact ⟨rfl, set_map there rfl⟩
      | registered index =>
          have there : before.records[index]? = some record := here
          exact ⟨set_map there rfl, rfl⟩

theorem observeUi_records (observation : StructuredObservation) (evidenceRefs : List String)
    (freshRead : Bool) (state : ExecutionState) :
    (observeUi host observation evidenceRefs freshRead state).records.map ExecutionRecord.core =
        state.records.map ExecutionRecord.core ∧
      (observeUi host observation evidenceRefs freshRead state).observedRecords.map
          ExecutionRecord.core = state.observedRecords.map ExecutionRecord.core := by
  refine edits_kept
    (fun after => after.records.map ExecutionRecord.core = state.records.map ExecutionRecord.core ∧
      after.observedRecords.map ExecutionRecord.core =
        state.observedRecords.map ExecutionRecord.core)
    (observeUi_edits host state) ⟨rfl, rfl⟩ ?_
  rintro before after edit ⟨records, observed⟩
  rw [← records, ← observed]
  exact pageEdit_records host edit

/-- Reading a page rewrites the ledger and the confirmations only. -/
theorem observeUi_frame (observation : StructuredObservation) (evidenceRefs : List String)
    (freshRead : Bool) (state : ExecutionState) :
    ∃ records observed confirmations,
      observeUi host observation evidenceRefs freshRead state =
        { state with
          records, observedRecords := observed, cleanupConfirmations := confirmations } := by
  refine edits_kept
    (fun after => ∃ records observed confirmations, after =
      { state with
        records, observedRecords := observed, cleanupConfirmations := confirmations })
    (observeUi_edits host state) ⟨_, _, _, rfl⟩ ?_
  rintro before after edit ⟨records, observed, confirmations, rfl⟩
  cases edit with
  | withdraw => exact ⟨_, _, _, rfl⟩
  | baseline slot => cases slot <;> exact ⟨_, _, _, rfl⟩
  | confirm slot => cases slot <;> exact ⟨_, _, _, rfl⟩

theorem begin_state (input : ObserveInput) (journal : Journal) :
    (begin input journal).state = journal.state ∨
      (begin input journal).state = invalidateUiConfirmations none journal.state := by
  unfold begin
  simp only
  split
  · exact Or.inr rfl
  · exact Or.inl rfl

theorem rereadPage_state (journal : Journal) :
    (rereadPage host journal).state = journal.state ∨
      ∃ observation, (rereadPage host journal).state =
        observeUi host observation journal.lastUiEvidenceRefs false journal.state := by
  unfold rereadPage
  split
  · exact Or.inl rfl
  · exact Or.inr ⟨_, rfl⟩

theorem reconcileReview_frame (state : ExecutionState) :
    ∃ review, reconcileReview host state = { state with cleanupReview := review } := by
  unfold reconcileReview
  split
  · exact ⟨_, rfl⟩
  · exact ⟨_, rfl⟩

theorem reconcileCleanup_eq (state : ExecutionState) :
    reconcileCleanup host state =
      { state with
        records := (settleRecords host state state.records state.cleanupConfirmations).1
        cleanupConfirmations :=
          (settleRecords host state state.records state.cleanupConfirmations).2 } := rfl

@[simp] theorem settleRecord_core (state : ExecutionState)
    (confirmations : List CleanupConfirmation) (record : ExecutionRecord) :
    (settleRecord host state confirmations record).record.core = record.core := by
  unfold settleRecord
  split
  · split
    · rfl
    · simp only
      split
      · rfl
      · split <;> rfl
  · rfl

theorem settleRecords_core (state : ExecutionState) (records : List ExecutionRecord)
    (confirmations : List CleanupConfirmation) :
    (settleRecords host state records confirmations).1.map ExecutionRecord.core =
      records.map ExecutionRecord.core := by
  induction records generalizing confirmations with
  | nil => rfl
  | cons record rest ih => simp [settleRecords, ih]

@[simp] theorem blockRecord_core (note : String) (record : ExecutionRecord) :
    (blockRecord note record).core = record.core := rfl

theorem blockCleanup_frame (note : String) (state : ExecutionState) :
    ∃ review, blockCleanup host note state =
      { state with
        phase := .cleanup
        records := state.records.map (blockRecord note)
        cleanupReview := review } := by
  unfold blockCleanup
  simp only
  split
  · exact ⟨_, rfl⟩
  · exact ⟨_, rfl⟩

end Host

end Devproof
