import Devproof.Journal.Merging

/-!
Completed cleanups.  After every call each completed record that a write
touched has a confirmation, and one read from the network is about the latest
of its writes and a later read that shows the outcome.
-/

namespace Devproof

section Host

variable (host : Host)

def ShowsOutcome (record : ExecutionRecord) (mutation : Write) (read : ReadReceipt) : Prop :=
  match mutation.method with
  | .delete =>
      completeReadCoversRecord host read record = true ∧
        read.recordKeys.contains (record.key host) = false
  | .put | .patch =>
      ∃ initial actual, record.initialState = some initial ∧
        read.recordStates.lookup (record.key host) = some actual ∧
        sameState host actual initial = true
  | .post => False

structure Confirms (state : ExecutionState) (record : ExecutionRecord)
    (proof : CleanupConfirmation) (mutation : Write) (read : ReadReceipt) : Prop where
  matching : mutation ∈ mutationsOf host state record
  latest : ∀ other ∈ mutationsOf host state record, other.order ≤ mutation.order
  writeKey : proof.writeKey = mutation.key
  success : confirmedSuccess host mutation = true
  stored : read ∈ state.readReceipts
  readKey : proof.readKey = read.key
  later : mutation.order < read.sequence
  outcome : ShowsOutcome host record mutation read

/-- A completed record that a write touched has a confirmation, and those it has from
the network confirm its outcome. -/
def Proven (state : ExecutionState) (confirmations : List CleanupConfirmation)
    (record : ExecutionRecord) : Prop :=
  isCompleted record = true → mutationsOf host state record ≠ [] →
    ∃ ref, record.recordRef = some ref ∧
      (∃ proof ∈ confirmations, proof.recordRef = ref) ∧
      ∀ proof ∈ confirmations, proof.recordRef = ref → isUi proof = false →
        ∃ mutation read, Confirms host state record proof mutation read

def CompletionsProven (state : ExecutionState) : Prop :=
  ∀ record ∈ state.records, Proven host state state.cleanupConfirmations record

def Named (record : ExecutionRecord) : Prop :=
  ∃ ref, record.recordRef = some ref ∧ ref ≠ ""

theorem named_of_core {left right : ExecutionRecord} (same : left.core = right.core)
    (named : Named right) : Named left := by
  obtain ⟨ref, here, present⟩ := named
  exact ⟨ref, (recordRef_of_core same).trans here, present⟩

theorem named_of_map {left right : List ExecutionRecord}
    (same : left.map ExecutionRecord.core = right.map ExecutionRecord.core)
    (named : ∀ record ∈ right, Named record) : ∀ record ∈ left, Named record := by
  intro record member
  obtain ⟨other, present, equal⟩ := mem_core same member
  exact named_of_core equal.symm (named other present)

/-! Recomputing the cleanup of one record. -/

theorem mutationsOf_core {state : ExecutionState} {left right : ExecutionRecord}
    (same : left.core = right.core) :
    mutationsOf host state left = mutationsOf host state right := by
  have cores : mutationsOf host state left.core = mutationsOf host state right.core := by rw [same]
  exact cores

theorem showsOutcome_core {left right : ExecutionRecord} (same : left.core = right.core)
    {mutation : Write} {read : ReadReceipt} (shows : ShowsOutcome host right mutation read) :
    ShowsOutcome host left mutation read := by
  have cores : ShowsOutcome host left.core mutation read := by
    rw [same]
    exact shows
  exact cores

theorem Confirms.of_core {state : ExecutionState} {left right : ExecutionRecord}
    {proof : CleanupConfirmation} {mutation : Write} {read : ReadReceipt}
    (same : left.core = right.core) (confirms : Confirms host state right proof mutation read) :
    Confirms host state left proof mutation read where
  matching := by rw [mutationsOf_core host same]; exact confirms.matching
  latest := by rw [mutationsOf_core host same]; exact confirms.latest
  writeKey := confirms.writeKey
  success := confirms.success
  stored := confirms.stored
  readKey := confirms.readKey
  later := confirms.later
  outcome := showsOutcome_core host same confirms.outcome

theorem Proven.of_core {state : ExecutionState} {confirmations : List CleanupConfirmation}
    {left right : ExecutionRecord} (proven : Proven host state confirmations right)
    (same : left.core = right.core)
    (completed : isCompleted left = true → isCompleted right = true) :
    Proven host state confirmations left := by
  intro done touched
  rw [mutationsOf_core host same] at touched
  obtain ⟨ref, named, present, each⟩ := proven (completed done) touched
  refine ⟨ref, (recordRef_of_core same).trans named, present, ?_⟩
  intro proof member about network
  obtain ⟨mutation, read, confirms⟩ := each proof member about network
  exact ⟨mutation, read, confirms.of_core host same⟩

theorem Proven.of_state {before after : ExecutionState} {record : ExecutionRecord}
    {confirmations : List CleanupConfirmation} (proven : Proven host before confirmations record)
    (writes : after.writes = before.writes) (reads : after.readReceipts = before.readReceipts) :
    Proven host after confirmations record := by
  have sameMutations : mutationsOf host after record = mutationsOf host before record := by
    unfold mutationsOf
    rw [writes]
  intro done touched
  rw [sameMutations] at touched
  obtain ⟨ref, named, present, each⟩ := proven done touched
  refine ⟨ref, named, present, ?_⟩
  intro proof member about network
  obtain ⟨mutation, read, confirms⟩ := each proof member about network
  exact ⟨mutation, read,
    { confirms with
      matching := sameMutations ▸ confirms.matching
      latest := sameMutations ▸ confirms.latest
      stored := reads ▸ confirms.stored }⟩

theorem latestMutation_mem {state : ExecutionState} {record : ExecutionRecord} {mutation : Write}
    (latest : latestMutation host state record = some mutation) :
    mutation ∈ mutationsOf host state record :=
  (mem_sortAscending _ _ _).mp (List.mem_of_getLast? latest)

theorem latestMutation_max {state : ExecutionState} {record : ExecutionRecord} {mutation : Write}
    (latest : latestMutation host state record = some mutation) :
    ∀ other ∈ mutationsOf host state record, other.order ≤ mutation.order := by
  intro other member
  have sorted : (sortAscending Write.order (mutationsOf host state record)).Pairwise
      fun left right => left.order ≤ right.order := by
    have ordered := List.pairwise_insertionSort
      (fun left right : Write => left.order ≤ right.order) (mutationsOf host state record)
    exact ordered
  obtain ⟨front, split⟩ := List.getLast?_eq_some_iff.mp latest
  have placed := (mem_sortAscending Write.order _ other).mpr member
  rw [split] at sorted placed
  rcases List.mem_append.mp placed with earlier | last
  · exact (List.pairwise_append.mp sorted).2.2 other earlier mutation (List.mem_singleton_self _)
  · rw [List.mem_singleton.mp last]

theorem latestMutation_isSome {state : ExecutionState} {record : ExecutionRecord}
    (touched : mutationsOf host state record ≠ []) :
    (latestMutation host state record).isSome = true := by
  unfold latestMutation
  rw [List.getLast?_isSome]
  intro empty
  obtain ⟨first, member⟩ := List.exists_mem_of_ne_nil _ touched
  have placed := (mem_sortAscending Write.order _ first).mpr member
  rw [empty] at placed
  simp at placed

theorem laterReads_mem {state : ExecutionState} {mutation : Write} {sequence : Int}
    {read : ReadReceipt} (member : read ∈ laterReads host state mutation sequence) :
    read ∈ state.readReceipts ∧ sequence < read.sequence := by
  have kept := List.mem_filter.mp ((mem_sortDescending _ _ _).mp member)
  simp only [Bool.and_eq_true, decide_eq_true_eq] at kept
  exact ⟨kept.1, kept.2.1⟩

theorem deletionRead_shows {state : ExecutionState} {record : ExecutionRecord} {mutation : Write}
    {sequence : Int} {read : ReadReceipt}
    (found : deletionRead host state record mutation sequence = some read) :
    read ∈ laterReads host state mutation sequence ∧
      completeReadCoversRecord host read record = true ∧
      read.recordKeys.contains (record.key host) = false := by
  unfold deletionRead at found
  obtain ⟨first, unlisted⟩ := Option.filter_eq_some_iff.mp found
  have speaks := List.find?_some first
  simp only [Bool.not_eq_true'] at unlisted
  simp only [listsOrCovers, unlisted, Bool.false_or] at speaks
  exact ⟨List.mem_of_find?_eq_some first, speaks, unlisted⟩

theorem restorationRead_shows {state : ExecutionState} {record : ExecutionRecord}
    {mutation : Write} {sequence : Int} {initial : String} {read : ReadReceipt}
    (found : restorationRead host state record mutation sequence initial = some read) :
    read ∈ laterReads host state mutation sequence ∧
      ∃ actual, read.recordStates.lookup (record.key host) = some actual ∧
        sameState host actual initial = true := by
  unfold restorationRead at found
  split at found
  · obtain ⟨first, shown⟩ := Option.filter_eq_some_iff.mp found
    exact ⟨List.mem_of_find?_eq_some first, by simpa only [Option.any_eq_true] using shown⟩
  · simp at found

theorem confirmingRead_shows {state : ExecutionState} {record : ExecutionRecord}
    {mutation : Write} {sequence : Int} {read : ReadReceipt}
    (found : confirmingRead host state record mutation sequence = some read) :
    read ∈ laterReads host state mutation sequence ∧ ShowsOutcome host record mutation read := by
  unfold confirmingRead at found
  unfold ShowsOutcome
  split at found
  · rename_i deletes
    obtain ⟨later, covers, unlisted⟩ := deletionRead_shows host found
    rw [deletes.1]
    exact ⟨later, covers, unlisted⟩
  · split at found
    · rename_i restores
      obtain ⟨initial, saved, read⟩ := Option.bind_eq_some_iff.mp found
      obtain ⟨later, actual, shown, same⟩ := restorationRead_shows host read
      rcases restores.2 with put | patch
      · rw [put]
        exact ⟨later, initial, actual, saved, shown, same⟩
      · rw [patch]
        exact ⟨later, initial, actual, saved, shown, same⟩
    · simp at found

theorem settlement_confirms {state : ExecutionState} {record : ExecutionRecord}
    {settled : Settlement} (found : settlement host state record = some settled) (ref : String) :
    Confirms host state record (settled.confirmation ref) settled.mutation settled.read := by
  unfold settlement at found
  split at found
  · simp at found
  · rename_i mutation latest
    split at found
    · simp at found
    · rename_i sequence placed
      split at found
      · rename_i accepted
        obtain ⟨read, confirming, same⟩ := Option.map_eq_some_iff.mp found
        subst same
        obtain ⟨later, shows⟩ := confirmingRead_shows host confirming
        obtain ⟨stored, after⟩ := laterReads_mem host later
        simp only [Bool.and_eq_true] at accepted
        exact
          { matching := latestMutation_mem host latest
            latest := latestMutation_max host latest
            writeKey := rfl
            success := accepted.2
            stored
            readKey := rfl
            later := by
              simp only [Write.order, placed, Option.getD_some]
              exact after
            outcome := shows }
      · simp at found

theorem settleRecord_proven {state : ExecutionState} {confirmations : List CleanupConfirmation}
    {record : ExecutionRecord} (named : Named record) :
    Proven host state (settleRecord host state confirmations record).confirmations
      (settleRecord host state confirmations record).record := by
  obtain ⟨ref, here, present⟩ := named
  unfold settleRecord
  split
  · rename_i other cleanup known tracked
    rw [here] at known
    obtain rfl := Option.some.inj known
    rw [if_neg present]
    simp only
    split
    · rename_i settled found
      intro _ _
      refine ⟨ref, here, ⟨settled.confirmation ref, by simp, rfl⟩, ?_⟩
      intro proof member about _
      rcases List.mem_append.mp member with kept | new
      · simp [withoutConfirmation, found, about] at kept
      · obtain rfl := List.mem_singleton.mp new
        have confirms := settlement_confirms host found ref
        exact ⟨settled.mutation, settled.read,
          { confirms with outcome := showsOutcome_core host (by rfl) confirms.outcome }⟩
    · rename_i missing
      split
      · intro done
        simp [isCompleted, reopened] at done
      · rename_i standing
        intro done touched
        have found : (latestMutation host state record).isSome = true :=
          latestMutation_isSome host touched
        simp only [isCompleted, Option.any_some] at done
        simp only [found, done, Bool.true_and, Bool.not_eq_true', Bool.not_eq_false,
          List.any_eq_true, beq_iff_eq] at standing
        refine ⟨ref, here, by simpa using standing, ?_⟩
        intro proof member about network
        simp [withoutConfirmation, missing, about, network] at member
  · rename_i absent
    intro done
    cases cleanup : record.cleanup with
    | none => simp [isCompleted, cleanup] at done
    | some value => exact absurd cleanup (absent ref value here)

theorem settleRecord_other {state : ExecutionState} {confirmations : List CleanupConfirmation}
    {record : ExecutionRecord} {proof : CleanupConfirmation}
    (apart : record.cleanup.isSome = true → record.recordRef ≠ some proof.recordRef) :
    proof ∈ (settleRecord host state confirmations record).confirmations ↔
      proof ∈ confirmations := by
  unfold settleRecord
  split
  · rename_i ref cleanup named known
    have different : proof.recordRef ≠ ref := by
      intro same
      exact apart (by simp [known]) (by rw [named, same])
    have kept : ∀ replaced, proof ∈ withoutConfirmation ref replaced confirmations ↔
        proof ∈ confirmations := by
      intro replaced
      simp [withoutConfirmation, different]
    split
    · rfl
    · simp only
      split
      · simp only [List.mem_append, kept, List.mem_singleton]
        constructor
        · rintro (old | new)
          · exact old
          · exact absurd (congrArg CleanupConfirmation.recordRef new) different
        · exact Or.inl
      · split <;> exact kept _
  · rfl

theorem settleRecords_other {state : ExecutionState} {records : List ExecutionRecord}
    {confirmations : List CleanupConfirmation} {proof : CleanupConfirmation}
    (apart : ∀ record ∈ records, record.cleanup.isSome = true →
      record.recordRef ≠ some proof.recordRef) :
    proof ∈ (settleRecords host state records confirmations).2 ↔ proof ∈ confirmations := by
  induction records generalizing confirmations with
  | nil => rfl
  | cons record rest ih =>
      simp only [settleRecords]
      rw [ih fun other member => apart other (List.mem_cons_of_mem _ member)]
      exact settleRecord_other host (apart record (List.mem_cons_self ..))

def cleanedRefs (records : List ExecutionRecord) : List (Option String) :=
  (records.filter fun record => record.cleanup.isSome).map (·.recordRef)

theorem settleRecords_proven {state : ExecutionState} {records : List ExecutionRecord}
    {confirmations : List CleanupConfirmation} (named : ∀ record ∈ records, Named record)
    (distinct : (cleanedRefs records).Nodup) :
    ∀ record ∈ (settleRecords host state records confirmations).1,
      Proven host state (settleRecords host state records confirmations).2 record := by
  induction records generalizing confirmations with
  | nil => simp [settleRecords]
  | cons record rest ih =>
      have restNamed : ∀ other ∈ rest, Named other := fun other member =>
        named other (List.mem_cons_of_mem _ member)
      have restDistinct : (cleanedRefs rest).Nodup := by
        unfold cleanedRefs at distinct ⊢
        rw [List.filter_cons] at distinct
        split at distinct
        · exact (List.nodup_cons.mp distinct).2
        · exact distinct
      have here : Proven host state (settleRecord host state confirmations record).confirmations
          (settleRecord host state confirmations record).record :=
        settleRecord_proven host (named record (List.mem_cons_self ..))
      intro other member
      simp only [settleRecords] at member ⊢
      rcases List.mem_cons.mp member with first | later
      · subst first
        intro done touched
        obtain ⟨ref, refHere, proven, each⟩ := here done touched
        have kept : ∀ proof : CleanupConfirmation, proof.recordRef = ref →
            (proof ∈ (settleRecords host state rest
                (settleRecord host state confirmations record).confirmations).2 ↔
              proof ∈ (settleRecord host state confirmations record).confirmations) := by
          intro proof about
          apply settleRecords_other
          intro later present tracked same
          have cleaned : record.cleanup.isSome = true := by
            cases cleanup : record.cleanup with
            | some _ => rfl
            | none => simp [settleRecord, isCompleted, cleanup] at done
          have recordRef : record.recordRef = some ref := by
            rw [← recordRef_of_core (settleRecord_core host state confirmations record)]
            exact refHere
          unfold cleanedRefs at distinct
          rw [List.filter_cons_of_pos (by simpa using cleaned), List.map_cons,
            List.nodup_cons] at distinct
          apply distinct.1
          rw [recordRef, ← about, ← same]
          exact List.mem_map_of_mem (List.mem_filter.mpr ⟨present, tracked⟩)
        refine ⟨ref, refHere, ?_, ?_⟩
        · obtain ⟨proof, present, about⟩ := proven
          exact ⟨proof, (kept proof about).mpr present, about⟩
        · intro proof present about network
          exact each proof ((kept proof about).mp present) about network
      · exact ih restNamed restDistinct other later

theorem reconcileCleanup_proven {state : ExecutionState}
    (named : ∀ record ∈ state.records, Named record)
    (distinct : (cleanedRefs state.records).Nodup) :
    CompletionsProven host (reconcileCleanup host state) := by
  rw [reconcileCleanup_eq]
  intro record member
  have settled := settleRecords_proven host named distinct record member
  exact settled.of_state host rfl rfl

/-! Reading a page keeps completions proven. -/

theorem invalidateRecord_completed {refs : List String} {record : ExecutionRecord} {ref : String}
    (here : record.recordRef = some ref) (present : ref ≠ "")
    (completed : isCompleted (invalidateRecord refs record) = true) :
    isCompleted record = true ∧ ref ∉ refs := by
  unfold invalidateRecord at completed
  split at completed
  · rename_i other cleanup named tracked
    rw [here] at named
    obtain rfl := Option.some.inj named
    split at completed
    · simp [isCompleted, reopened] at completed
    · rename_i kept
      refine ⟨completed, ?_⟩
      intro withdrawn
      apply kept
      simp only [isCompleted, tracked, Option.any_some] at completed
      simp [present, withdrawn, completed]
  · rename_i absent
    cases cleanup : record.cleanup with
    | none => simp [isCompleted, cleanup] at completed
    | some value => exact absurd cleanup (absent ref value here)

theorem invalidate_proven {state : ExecutionState} (wanted : Option String)
    (named : ∀ record ∈ state.records, Named record) (proven : CompletionsProven host state) :
    CompletionsProven host (invalidateUiConfirmations wanted state) := by
  intro after member completed touched
  obtain ⟨record, present, same⟩ := List.mem_map.mp member
  subst same
  obtain ⟨ref, here, notEmpty⟩ := named record present
  obtain ⟨done, kept⟩ := invalidateRecord_completed here notEmpty completed
  have core := invalidateRecord_core
    ((state.cleanupConfirmations.filter fun proof =>
      isUi proof && namesRef wanted proof.recordRef).map (·.recordRef)) record
  have standing : Proven host (invalidateUiConfirmations wanted state)
      state.cleanupConfirmations (invalidateRecord _ record) :=
    ((proven record present).of_core host core fun _ => done).of_state host rfl rfl
  obtain ⟨known, named, ⟨proof, listed, about⟩, each⟩ := standing completed touched
  have sameRef : known = ref := by
    rw [recordRef_of_core core, here] at named
    exact (Option.some.inj named).symm
  refine ⟨known, named, ⟨proof, ?_, about⟩, ?_⟩
  · refine List.mem_filter.mpr ⟨listed, ?_⟩
    by_cases withdrawn : (isUi proof && namesRef wanted proof.recordRef) = true
    · refine absurd (List.mem_map.mpr ⟨proof, List.mem_filter.mpr ⟨listed, withdrawn⟩, ?_⟩) kept
      rw [about, sameRef]
    · cases page : isUi proof with
      | false => rfl
      | true => simpa [page] using withdrawn
  · intro other remains
    exact each other (List.mem_filter.mp remains).1

theorem mem_set {α : Type} {items : List α} {index : Nat} {item other : α}
    (member : other ∈ items.set index item) : other = item ∨ other ∈ items :=
  (List.mem_or_eq_of_mem_set member).symm

theorem confirmOnPage_proven {observation : StructuredObservation} {evidenceRefs : List String}
    {slot : KnownSlot} {record : ExecutionRecord} {ref : String} {baseline : UiBaseline}
    {state : ExecutionState} (named : record.recordRef = some ref)
    (proven : CompletionsProven host state) :
    CompletionsProven host
      (confirmOnPage host observation evidenceRefs slot record ref baseline state) := by
  generalize after_ : confirmOnPage host observation evidenceRefs slot record ref baseline state =
    after
  have members : ∀ other ∈ after.records, other.recordRef = some ref ∨ other ∈ state.records := by
    intro other member
    subst after_
    cases slot with
    | observed index => exact Or.inr member
    | registered index =>
        rcases mem_set member with new | old
        · rw [new]
          exact Or.inl named
        · exact Or.inr old
  have frame : after.writes = state.writes ∧ after.readReceipts = state.readReceipts ∧
      ∃ proof, isUi proof = true ∧ proof.recordRef = ref ∧
        after.cleanupConfirmations =
          (state.cleanupConfirmations.filter fun proof => proof.recordRef != ref) ++ [proof] := by
    subst after_
    cases slot <;> exact ⟨rfl, rfl, _, rfl, rfl, rfl⟩
  obtain ⟨writes, reads, new, ui, about, confirmations⟩ := frame
  have replaced : ∀ proof ∈ after.cleanupConfirmations, proof.recordRef = ref → proof = new := by
    intro proof member same
    rw [confirmations] at member
    rcases List.mem_append.mp member with old | last
    · simp [same] at old
    · exact List.mem_singleton.mp last
  have here : new ∈ after.cleanupConfirmations := by simp [confirmations]
  intro other member completed touched
  by_cases restored : other.recordRef = some ref
  · refine ⟨ref, restored, ⟨new, here, about⟩, ?_⟩
    intro proof listed same network
    rw [replaced proof listed same, ui] at network
    simp at network
  · have old : other ∈ state.records := (members other member).resolve_left restored
    have standing : Proven host after state.cleanupConfirmations other :=
      (proven other old).of_state host writes reads
    obtain ⟨otherRef, otherNamed, ⟨proof, listed, same⟩, each⟩ := standing completed touched
    have different : otherRef ≠ ref := by
      intro equal
      exact restored (equal ▸ otherNamed)
    refine ⟨otherRef, otherNamed, ⟨proof, ?_, same⟩, ?_⟩
    · rw [confirmations]
      exact List.mem_append_left _ (List.mem_filter.mpr ⟨listed, by simpa [same] using different⟩)
    · intro proof remains sameRef
      rw [confirmations] at remains
      rcases List.mem_append.mp remains with kept | last
      · exact each proof (List.mem_filter.mp kept).1 sameRef
      · rw [List.mem_singleton.mp last, about] at sameRef
        exact absurd sameRef.symm different

theorem pageEdit_proven {observation : StructuredObservation} {evidenceRefs : List String}
    {freshRead : Bool} {before after : ExecutionState}
    (edit : PageEdit host observation evidenceRefs freshRead before after)
    (named : ∀ record ∈ before.records, Named record) (proven : CompletionsProven host before) :
    CompletionsProven host after := by
  cases edit with
  | withdraw ref present => exact invalidate_proven host (some ref) named proven
  | baseline slot record candidates read here found =>
      intro other member
      cases slot with
      | observed index => exact (proven other member).of_state host rfl rfl
      | registered index =>
          rcases mem_set member with new | old
          · have known : record ∈ before.records := List.mem_of_getElem? here
            rw [new]
            have standing : Proven host before before.cleanupConfirmations
                { record with uiBaseline := some read } :=
              (proven record known).of_core host rfl id
            exact standing.of_state host rfl rfl
          · exact (proven other old).of_state host rfl rfl
  | confirm slot record ref candidates baseline here refHere known restored allowed =>
      exact confirmOnPage_proven host refHere proven

end Host

end Devproof
