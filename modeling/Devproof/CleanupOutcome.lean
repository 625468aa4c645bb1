import Mathlib.Data.Fintype.Prod
import Mathlib.Data.Fintype.EquivFin
import Mathlib.Data.Rat.Lemmas
import Devproof.Journal.Run

/-!
The API side of a finished cleanup (`session-cleanup-outcome.ts`): the evidence
it accepts from a checkpoint, and that the journal restored from the same
checkpoint has nothing left open.
-/

namespace Devproof

def isComposite : Json → Bool
  | .arr _ => true
  | .obj _ => true
  | _ => false

section Host

variable (host : Host)

def responseBody (value : Option String) : Option Json :=
  match stamp value with
  | none => none
  | some text => (host.parseJson text).filter isComposite

structure RemovalProof where
  proof : CleanupConfirmation
  creation : Write
  deletion : Write
  read : ReadReceipt

def isRemoved (record : ExecutionRecord) : Bool :=
  record.ownership == .createdThisRun && record.recordRef.getD "" != "" &&
    record.resourceUrl.getD "" != "" && record.resourceName.getD "" != "" &&
    record.creationWriteKey.getD "" != "" &&
    record.cleanup.any fun cleanup =>
      cleanup.status == .completed && cleanup.resolution == some .deleted

def removalReceipts (state : ExecutionState) (record : ExecutionRecord) : Option RemovalProof := do
  let proof ← state.cleanupConfirmations.find? fun confirmation =>
    some confirmation.recordRef == record.recordRef && !isUi confirmation
  let creation ← state.writes.find? fun write => some write.key == record.creationWriteKey
  let deletion ← state.writes.find? fun write => write.key == proof.writeKey
  let read ← state.readReceipts.find? fun item => item.key == proof.readKey
  pure { proof, creation, deletion, read }

def sequencesAscend (receipts : RemovalProof) : Bool :=
  match receipts.creation.sequence, receipts.deletion.sequence with
  | some created, some deleted => created < deleted && deleted < receipts.read.sequence
  | _, _ => false

def isConfirmedWrite (write : Write) : Bool :=
  write.confirmed && (responseBody host write.response).isSome &&
    successfulExecutionWrite write.status (responseBody host write.response)

def provesRemoval (state : ExecutionState) (record : ExecutionRecord) (receipts : RemovalProof) :
    Bool :=
  receipts.creation.method == .post && receipts.deletion.method == .delete &&
    sequencesAscend receipts && isConfirmedWrite host receipts.creation &&
    isConfirmedWrite host receipts.deletion && writeMatchesRecord host receipts.creation record &&
    writeMatchesRecord host receipts.deletion record &&
    completeReadCoversRecord host receipts.read record &&
    !receipts.read.recordKeys.contains (record.key host) &&
    !state.readReceipts.any fun later =>
      receipts.read.sequence < later.sequence && listsOrCovers host record later

def removalProof (state : ExecutionState) (record : ExecutionRecord) : Option RemovalProof :=
  if isRemoved record then
    (removalReceipts state record).filter (provesRemoval host state record)
  else none

structure Gathered where
  used : List String := []
  refs : List String := []

def gatherWrite (gathered : Gathered) (write : Write) : Option Gathered :=
  if gathered.used.contains write.key || write.evidenceRefs.isEmpty then none
  else some { used := gathered.used ++ [write.key], refs := gathered.refs ++ write.evidenceRefs }

def gatherRecord (state : ExecutionState) (gathered : Gathered) (record : ExecutionRecord) :
    Option Gathered := do
  let receipts ← removalProof host state record
  let created ← gatherWrite gathered receipts.creation
  let deleted ← gatherWrite created receipts.deletion
  if receipts.read.evidenceRefs.isEmpty || receipts.proof.evidenceRefs.isEmpty then none
  else
    some { deleted with
      refs := deleted.refs ++ receipts.read.evidenceRefs ++ receipts.proof.evidenceRefs }

def isCheckpointClean (state : ExecutionState) : Bool :=
  state.phase == .cleanup && !state.writeHistoryTruncated && !state.requestOrderTruncated &&
    state.pendingRecords.isEmpty && state.cleanupReview.isNone && !state.records.isEmpty &&
    state.writes.length == state.records.length * 2

def stateCleanupEvidence (state : ExecutionState) : List String :=
  if isCheckpointClean state then
    match state.records.foldlM (gatherRecord host state) {} with
    | some gathered =>
        if gathered.used.length = state.writes.length then uniq gathered.refs else []
    | none => []
  else []

def completedCleanupEvidence (value : Json) : List String :=
  match (executionStateSchema host).read value with
  | some state => stateCleanupEvidence host state
  | none => []

def RemovalProof.keys (receipts : RemovalProof) : List String :=
  [receipts.creation.key, receipts.deletion.key]

theorem gatherWrite_used {gathered result : Gathered} {write : Write}
    (taken : gatherWrite gathered write = some result) :
    write.key ∉ gathered.used ∧ result.used = gathered.used ++ [write.key] := by
  unfold gatherWrite at taken
  split at taken
  · simp at taken
  · rename_i free
    simp only [Bool.or_eq_true, List.contains_iff_mem, not_or] at free
    simp only [Option.some.injEq] at taken
    subst taken
    exact ⟨free.1, rfl⟩

theorem gatherRecord_used {state : ExecutionState} {gathered result : Gathered}
    {record : ExecutionRecord} (taken : gatherRecord host state gathered record = some result) :
    ∃ receipts, removalProof host state record = some receipts ∧
      result.used = gathered.used ++ receipts.keys ∧
      (gathered.used.Nodup → result.used.Nodup) := by
  simp only [gatherRecord, Option.bind_eq_bind, Option.bind_eq_some_iff] at taken
  obtain ⟨receipts, proved, created, first, deleted, second, kept⟩ := taken
  obtain ⟨freshCreation, usedCreation⟩ := gatherWrite_used first
  obtain ⟨freshDeletion, usedDeletion⟩ := gatherWrite_used second
  split at kept
  · simp at kept
  · simp only [Option.some.injEq] at kept
    subst kept
    refine ⟨receipts, proved, ?_, ?_⟩
    · simp [usedDeletion, usedCreation, RemovalProof.keys]
    · intro distinct
      have middle : created.used.Nodup := by
        rw [usedCreation, ← List.concat_eq_append]
        exact distinct.concat freshCreation
      simp only
      rw [usedDeletion, ← List.concat_eq_append]
      exact middle.concat freshDeletion

theorem gatherRecords_used {state : ExecutionState} {records : List ExecutionRecord}
    {gathered result : Gathered}
    (taken : records.foldlM (gatherRecord host state) gathered = some result) :
    ∃ proofs, List.Forall₂ (fun record receipts =>
        removalProof host state record = some receipts) records proofs ∧
      result.used = gathered.used ++ proofs.flatMap RemovalProof.keys ∧
      (gathered.used.Nodup → result.used.Nodup) := by
  induction records generalizing gathered with
  | nil =>
      simp only [List.foldlM_nil, Option.pure_def, Option.some.injEq] at taken
      subst taken
      exact ⟨[], List.Forall₂.nil, by simp, id⟩
  | cons record rest ih =>
      simp only [List.foldlM_cons, Option.bind_eq_bind, Option.bind_eq_some_iff] at taken
      obtain ⟨middle, first, others⟩ := taken
      obtain ⟨receipts, proved, usedFirst, keptFirst⟩ := gatherRecord_used host first
      obtain ⟨proofs, provedRest, usedRest, keptRest⟩ := ih others
      refine ⟨receipts :: proofs, List.Forall₂.cons proved provedRest, ?_, ?_⟩
      · rw [usedRest, usedFirst]
        simp
      · exact fun distinct => keptRest (keptFirst distinct)

inductive WriteRole where
  | creation
  | deletion
  deriving Repr, DecidableEq

instance : Fintype WriteRole :=
  ⟨{.creation, .deletion}, by intro role; cases role <;> simp⟩

def RemovalProof.write (receipts : RemovalProof) : WriteRole → Write
  | .creation => receipts.creation
  | .deletion => receipts.deletion

theorem distinct_write_keys {proofs : List RemovalProof}
    (distinct : (proofs.flatMap RemovalProof.keys).Nodup) {left right : Nat}
    (leftBound : left < proofs.length) (rightBound : right < proofs.length)
    {leftRole rightRole : WriteRole}
    (same : (proofs[left].write leftRole).key = (proofs[right].write rightRole).key) :
    left = right ∧ leftRole = rightRole := by
  obtain ⟨within, across⟩ := List.nodup_flatMap.mp distinct
  have listed (index : Nat) (bound : index < proofs.length) (role : WriteRole) :
      (proofs[index].write role).key ∈ proofs[index].keys := by
    cases role <;> simp [RemovalProof.write, RemovalProof.keys]
  have apart := List.pairwise_iff_getElem.mp across
  rcases Nat.lt_trichotomy left right with before | together | after
  · exact absurd (same ▸ listed right rightBound rightRole)
      (List.disjoint_left.mp (apart left right leftBound rightBound before)
        (listed left leftBound leftRole))
  · subst together
    refine ⟨rfl, ?_⟩
    have unequal : proofs[left].creation.key ≠ proofs[left].deletion.key := by
      simpa [RemovalProof.keys] using within proofs[left] (List.getElem_mem leftBound)
    cases leftRole <;> cases rightRole <;>
      simp_all [RemovalProof.write]
  · exact absurd (same ▸ listed left leftBound leftRole)
      (List.disjoint_left.mp (apart right left rightBound leftBound after)
        (listed right rightBound rightRole))

theorem removalProof_receipts {state : ExecutionState} {record : ExecutionRecord}
    {receipts : RemovalProof} (proved : removalProof host state record = some receipts) :
    isRemoved record = true ∧ removalReceipts state record = some receipts ∧
      provesRemoval host state record receipts = true := by
  unfold removalProof at proved
  split at proved
  · rename_i removed
    obtain ⟨found, checked⟩ := Option.filter_eq_some_iff.mp proved
    exact ⟨removed, found, checked⟩
  · simp at proved

theorem removalReceipts_found {state : ExecutionState} {record : ExecutionRecord}
    {receipts : RemovalProof} (found : removalReceipts state record = some receipts) :
    (receipts.proof ∈ state.cleanupConfirmations ∧
      some receipts.proof.recordRef = record.recordRef ∧ isUi receipts.proof = false) ∧
    (receipts.creation ∈ state.writes ∧ some receipts.creation.key = record.creationWriteKey) ∧
    (receipts.deletion ∈ state.writes ∧ receipts.deletion.key = receipts.proof.writeKey) ∧
    receipts.read ∈ state.readReceipts ∧ receipts.read.key = receipts.proof.readKey := by
  simp only [removalReceipts, Option.bind_eq_bind, Option.bind_eq_some_iff, Option.pure_def,
    Option.some.injEq] at found
  obtain ⟨proof, foundProof, creation, foundCreation, deletion, foundDeletion, read, foundRead,
    same⟩ := found
  subst same
  have checkedProof := List.find?_some foundProof
  have checkedCreation := List.find?_some foundCreation
  have checkedDeletion := List.find?_some foundDeletion
  have checkedRead := List.find?_some foundRead
  simp only [Bool.and_eq_true, beq_iff_eq, Bool.not_eq_true'] at checkedProof
  simp only [beq_iff_eq] at checkedCreation checkedDeletion checkedRead
  exact ⟨⟨List.mem_of_find?_eq_some foundProof, checkedProof⟩,
    ⟨List.mem_of_find?_eq_some foundCreation, checkedCreation⟩,
    ⟨List.mem_of_find?_eq_some foundDeletion, checkedDeletion⟩,
    List.mem_of_find?_eq_some foundRead, checkedRead⟩

theorem RemovalProof.write_mem {state : ExecutionState} {record : ExecutionRecord}
    {receipts : RemovalProof} (proved : removalProof host state record = some receipts)
    (role : WriteRole) : receipts.write role ∈ state.writes := by
  obtain ⟨_, found, _⟩ := removalProof_receipts host proved
  obtain ⟨_, creation, deletion, _⟩ := removalReceipts_found found
  cases role with
  | creation => exact creation.1
  | deletion => exact deletion.1

theorem isConfirmedWrite_success {write : Write} (checked : isConfirmedWrite host write = true) :
    confirmedSuccess host write = true := by
  simp only [isConfirmedWrite, Bool.and_eq_true] at checked
  obtain ⟨⟨confirmed, readable⟩, successful⟩ := checked
  have same : responseBody host write.response = host.parseText write.response := by
    unfold responseBody at readable ⊢
    cases response : write.response with
    | none => simp [response, stamp] at readable
    | some text =>
        simp only [response] at readable
        by_cases empty : text = ""
        · simp [empty, stamp, Option.filter] at readable
        · have kept : stamp (some text) = some text := by simp [stamp, empty]
          simp only [kept, Host.parseText, Option.bind_some] at readable ⊢
          cases parsed : host.parseJson text with
          | none => rfl
          | some json =>
              by_cases composite : isComposite json = true
              · simp [Option.filter, composite]
              · simp [parsed, Option.filter, composite] at readable
  simp only [confirmedSuccess, writeSuccessful, Bool.and_eq_true]
  exact ⟨confirmed, same ▸ successful⟩

/-! What an accepted checkpoint proves. -/

structure Removal (state : ExecutionState) (record : ExecutionRecord) (creation deletion : Write)
    (read : ReadReceipt) : Prop where
  created : creation.method = .post ∧ some creation.key = record.creationWriteKey ∧
    writeMatchesRecord host creation record = true
  deleted : deletion.method = .delete ∧ writeMatchesRecord host deletion record = true
  ascending : ∃ first second, creation.sequence = some first ∧ deletion.sequence = some second ∧
    first < second ∧ second < read.sequence
  confirming : ∃ proof ∈ state.cleanupConfirmations, some proof.recordRef = record.recordRef ∧
    proof.source ≠ some .ui ∧ proof.writeKey = deletion.key ∧ proof.readKey = read.key
  gone : read ∈ state.readReceipts ∧ completeReadCoversRecord host read record = true ∧
    record.key host ∉ read.recordKeys
  final : ∀ later ∈ state.readReceipts, read.sequence < later.sequence →
    record.key host ∉ later.recordKeys ∧ completeReadCoversRecord host later record = false

structure Cleaned (state : ExecutionState) : Prop where
  paired : ∃ place : Fin state.records.length × WriteRole → Fin state.writes.length,
    Function.Bijective place ∧
      ∀ index, ∃ read,
        Removal host state state.records[index] state.writes[place (index, .creation)]
          state.writes[place (index, .deletion)] read
  successful : ∀ write ∈ state.writes, confirmedSuccess host write = true
  untruncated : state.writeHistoryTruncated = false ∧ state.requestOrderTruncated = false

theorem removalProof_removal {state : ExecutionState} {record : ExecutionRecord}
    {receipts : RemovalProof} (proved : removalProof host state record = some receipts) :
    Removal host state record receipts.creation receipts.deletion receipts.read := by
  obtain ⟨_, found, checked⟩ := removalProof_receipts host proved
  obtain ⟨proof, creation, deletion, read⟩ := removalReceipts_found found
  simp only [provesRemoval, Bool.and_eq_true, beq_iff_eq, Bool.not_eq_true',
    List.contains_eq_mem, decide_eq_false_iff_not, List.any_eq_false] at checked
  obtain ⟨⟨⟨⟨⟨⟨⟨⟨⟨post, delete⟩, ascend⟩, _⟩, _⟩, fitsCreation⟩, fitsDeletion⟩, covers⟩, absent⟩,
    last⟩ := checked
  refine
    { created := ⟨post, creation.2, fitsCreation⟩
      deleted := ⟨delete, fitsDeletion⟩
      ascending := ?_
      confirming := ?_
      gone := ⟨read.1, covers, absent⟩
      final := ?_ }
  · unfold sequencesAscend at ascend
    cases first : receipts.creation.sequence with
    | none => simp [first] at ascend
    | some created =>
        cases second : receipts.deletion.sequence with
        | none => simp [first, second] at ascend
        | some deleted =>
            simp only [first, second, Bool.and_eq_true, decide_eq_true_eq] at ascend
            exact ⟨created, deleted, rfl, rfl, ascend.1, ascend.2⟩
  · refine ⟨receipts.proof, proof.1, proof.2.1, ?_, deletion.2.symm, read.2.symm⟩
    simpa [isUi] using proof.2.2
  · intro later member after
    have silent := last later member
    simpa [after, listsOrCovers] using silent

theorem removalProof_successful {state : ExecutionState} {record : ExecutionRecord}
    {receipts : RemovalProof} (proved : removalProof host state record = some receipts)
    (role : WriteRole) : confirmedSuccess host (receipts.write role) = true := by
  obtain ⟨_, _, checked⟩ := removalProof_receipts host proved
  simp only [provesRemoval, Bool.and_eq_true] at checked
  obtain ⟨⟨⟨⟨⟨⟨⟨_, creation⟩, deletion⟩, _⟩, _⟩, _⟩, _⟩, _⟩ := checked
  cases role with
  | creation => exact isConfirmedWrite_success host creation
  | deletion => exact isConfirmedWrite_success host deletion

theorem stateCleanupEvidence_proofs {state : ExecutionState}
    (found : stateCleanupEvidence host state ≠ []) :
    isCheckpointClean state = true ∧
      ∃ proofs, List.Forall₂ (fun record receipts =>
          removalProof host state record = some receipts) state.records proofs ∧
        (proofs.flatMap RemovalProof.keys).Nodup := by
  unfold stateCleanupEvidence at found
  split at found
  · rename_i clean
    refine ⟨clean, ?_⟩
    split at found
    · rename_i gathered taken
      obtain ⟨proofs, proved, used, distinct⟩ := gatherRecords_used host taken
      refine ⟨proofs, proved, ?_⟩
      have nodup := distinct List.nodup_nil
      simpa [used] using nodup
    · simp at found
  · simp at found

theorem writes_placed {state : ExecutionState} {proofs : List RemovalProof}
    (proved : List.Forall₂ (fun record receipts =>
      removalProof host state record = some receipts) state.records proofs)
    (distinct : (proofs.flatMap RemovalProof.keys).Nodup)
    (counted : state.writes.length = state.records.length * 2) :
    ∃ place : Fin state.records.length × WriteRole → Fin state.writes.length,
      Function.Bijective place ∧
        ∀ index, ∃ receipts, removalProof host state state.records[index] = some receipts ∧
          ∀ role, state.writes[place (index, role)] = receipts.write role := by
  have sameLength : state.records.length = proofs.length := proved.length_eq
  have receiptsAt (index : Fin state.records.length) :
      removalProof host state state.records[index] = some (proofs.get (index.cast sameLength)) :=
    proved.get index.isLt (index.cast sameLength).isLt
  have listed (entry : Fin state.records.length × WriteRole) :
      ∃ position : Fin state.writes.length, state.writes[position] =
        (proofs.get (entry.1.cast sameLength)).write entry.2 := by
    have member := RemovalProof.write_mem host (receiptsAt entry.1) entry.2
    obtain ⟨position, bound, here⟩ := List.mem_iff_getElem.mp member
    exact ⟨⟨position, bound⟩, here⟩
  choose place here using listed
  refine ⟨place, ?_, ?_⟩
  · refine (Fintype.bijective_iff_injective_and_card place).mpr ⟨?_, ?_⟩
    · intro left right same
      have sameWrite : (proofs.get (left.1.cast sameLength)).write left.2 =
          (proofs.get (right.1.cast sameLength)).write right.2 := by
        rw [← here left, ← here right, same]
      obtain ⟨sameIndex, sameRole⟩ := distinct_write_keys distinct
        (left.1.cast sameLength).isLt (right.1.cast sameLength).isLt (congrArg Write.key sameWrite)
      exact Prod.ext (Fin.ext sameIndex) sameRole
    · simp only [Fintype.card_prod, Fintype.card_fin, counted]
      rfl
  · intro index
    exact ⟨_, receiptsAt index, fun role => here (index, role)⟩

theorem stateCleanupEvidence_cleaned {state : ExecutionState}
    (found : stateCleanupEvidence host state ≠ []) : Cleaned host state := by
  obtain ⟨clean, proofs, proved, distinct⟩ := stateCleanupEvidence_proofs host found
  simp only [isCheckpointClean, Bool.and_eq_true, beq_iff_eq, Bool.not_eq_true'] at clean
  obtain ⟨⟨⟨⟨⟨⟨_, history⟩, order⟩, _⟩, _⟩, _⟩, counted⟩ := clean
  obtain ⟨place, bijective, placed⟩ := writes_placed host proved distinct counted
  refine { paired := ⟨place, bijective, ?_⟩, successful := ?_, untruncated := ⟨history, order⟩ }
  · intro index
    obtain ⟨receipts, found, here⟩ := placed index
    have removal := removalProof_removal host found
    refine ⟨receipts.read, ?_⟩
    rw [here .creation, here .deletion]
    exact removal
  · intro write member
    obtain ⟨position, bound, same⟩ := List.mem_iff_getElem.mp member
    obtain ⟨⟨index, role⟩, there⟩ := bijective.surjective ⟨position, bound⟩
    obtain ⟨receipts, found, here⟩ := placed index
    have written := here role
    simp only [there] at written
    rw [← same, show state.writes[position] = receipts.write role from written]
    exact removalProof_successful host found role

/-! Nothing is left open in the journal. -/

theorem withRef_of_some {record : ExecutionRecord} (named : record.recordRef.isSome = true) :
    withRef host record = record := by
  unfold withRef
  cases found : record.recordRef with
  | none => simp [found] at named
  | some _ => rfl

theorem isRemoved_record {record : ExecutionRecord} (removed : isRemoved record = true) :
    record.ownership = .createdThisRun ∧ record.recordRef.isSome = true ∧
      record.resourceUrl.any (· != "") = true ∧
      ∃ cleanup, record.cleanup = some cleanup ∧ cleanup.status = .completed := by
  simp only [isRemoved, Bool.and_eq_true, beq_iff_eq, bne_iff_ne, Option.any_eq_true] at removed
  obtain ⟨⟨⟨⟨⟨owned, referenced⟩, located⟩, _⟩, _⟩, cleanup, present, completed⟩ := removed
  refine ⟨owned, ?_, ?_, cleanup, present, completed.1⟩
  · cases ref : record.recordRef with
    | none => simp [ref] at referenced
    | some _ => rfl
  · cases url : record.resourceUrl with
    | none => simp [url] at located
    | some value => simpa [url] using located

theorem answersFor_of_matches {write : Write} {record : ExecutionRecord}
    (removed : isRemoved record = true) (fits : writeMatchesRecord host write record = true) :
    answersFor host write record = true := by
  obtain ⟨owned, _, located, cleanup, present, _⟩ := isRemoved_record removed
  have sameResource : resource host write.url = resource host (record.resourceUrl.getD "") := by
    cases url : record.resourceUrl with
    | none => simp [url] at located
    | some value =>
        unfold writeMatchesRecord at fits
        simp only [url] at fits
        split at fits
        · simp at fits
        · rename_i close
          simp only [not_or, not_not] at close
          simpa using close.2
  simp [answersFor, present, located, sameResource, owned, fits]

theorem cleaned_unresolved {state : ExecutionState}
    (found : stateCleanupEvidence host state ≠ []) : unresolvedWrites host state = [] := by
  obtain ⟨clean, proofs, proved, distinct⟩ := stateCleanupEvidence_proofs host found
  simp only [isCheckpointClean, Bool.and_eq_true, beq_iff_eq] at clean
  obtain ⟨place, bijective, placed⟩ := writes_placed host proved distinct clean.2
  simp only [unresolvedWrites, List.filter_eq_nil_iff, Bool.and_eq_true, Bool.not_eq_true',
    not_and, Bool.not_eq_false]
  intro write member _
  obtain ⟨position, bound, same⟩ := List.mem_iff_getElem.mp member
  obtain ⟨⟨index, role⟩, there⟩ := bijective.surjective ⟨position, bound⟩
  obtain ⟨receipts, found, here⟩ := placed index
  obtain ⟨removed, _, _⟩ := removalProof_receipts host found
  have removal := removalProof_removal host found
  have fits : writeMatchesRecord host (receipts.write role) state.records[index] = true := by
    cases role with
    | creation => exact removal.created.2.2
    | deletion => exact removal.deleted.2
  have written := here role
  simp only [there] at written
  rw [← same, show state.writes[position] = receipts.write role from written]
  exact List.any_eq_true.mpr
    ⟨state.records[index], List.getElem_mem _, answersFor_of_matches host removed fits⟩

theorem cleaned_records {state : ExecutionState} (found : stateCleanupEvidence host state ≠ []) :
    ∀ record ∈ state.records, isRemoved record = true := by
  obtain ⟨_, proofs, proved, _⟩ := stateCleanupEvidence_proofs host found
  intro record member
  obtain ⟨position, bound, same⟩ := List.mem_iff_getElem.mp member
  have accepted := proved.get bound (proved.length_eq ▸ bound)
  simp only [List.get_eq_getElem, same] at accepted
  exact (removalProof_receipts host accepted).1

theorem cleaned_notice {state : ExecutionState} (found : stateCleanupEvidence host state ≠ []) :
    cleanupNotice host state = none := by
  have unresolved := cleaned_unresolved host found
  have records := cleaned_records host found
  obtain ⟨clean, _⟩ := stateCleanupEvidence_proofs host found
  simp only [isCheckpointClean, Bool.and_eq_true, beq_iff_eq, Bool.not_eq_true'] at clean
  obtain ⟨⟨⟨⟨⟨⟨_, history⟩, _⟩, pendingRecords⟩, _⟩, _⟩, _⟩ := clean
  have settled : pendingCleanup state = [] := by
    simp only [pendingCleanup, List.filter_eq_nil_iff]
    intro record member
    obtain ⟨_, _, _, cleanup, present, completed⟩ := isRemoved_record (records record member)
    simp [isOpen, present, completed]
  simp [cleanupNotice, settled, unresolved, pendingRecords, history]

theorem cleanupNotice_assignBindings (state : ExecutionState) (bindings : List TestAccountBinding) :
    cleanupNotice host (assignBindings state bindings) = cleanupNotice host state := rfl

theorem restore_notice {policy : Members} {state : ExecutionState}
    (saved : readExecutionState host policy = state)
    (found : stateCleanupEvidence host state ≠ []) :
    cleanupNotice host (restore host policy).state = none := by
  have records := cleaned_records host found
  have unchanged : state.records.map (withRef host) = state.records := by
    conv_rhs => rw [← List.map_id state.records]
    exact List.map_congr_left fun record member =>
      withRef_of_some host (isRemoved_record (records record member)).2.1
  have notice := cleaned_notice host found
  simp only [restore, saved, unchanged]
  split
  · rw [cleanupNotice_assignBindings]
    exact notice
  · exact notice

/-- A cleanup the API accepts is complete, and the journal restored from the same
checkpoint has nothing left open. -/
theorem completed_cleanup_settled (value : Json)
    (found : completedCleanupEvidence host value ≠ []) :
    ∃ state, (executionStateSchema host).read value = some state ∧ Cleaned host state ∧
      ∀ policy : Members, policy.get "executionState" = some value →
        cleanupNotice host (restore host policy).state = none := by
  unfold completedCleanupEvidence at found
  split at found
  · rename_i state read
    refine ⟨state, read, stateCleanupEvidence_cleaned host found, ?_⟩
    intro policy saved
    refine restore_notice host ?_ found
    simp [readExecutionState, saved, read]
  · simp at found

end Host

/-! A named resource created, deleted and queried. -/

def discountHost : Host :=
  .ofTables
    { values := [.obj [("code", .num 0)]]
      urls := [
        ("https://fixture.test/discount",
          { origin := "https://fixture.test", pathname := "/discount", searchParams := [] }),
        ("https://fixture.test/discount?id=557",
          { origin := "https://fixture.test", pathname := "/discount",
            searchParams := [("id", "557")] }),
        ("https://fixture.test/discount/list?name=unique-case",
          { origin := "https://fixture.test", pathname := "/discount/list",
            searchParams := [("name", "unique-case")] })] }

def discountRecord : Json :=
  .obj [("id", .str "557"), ("recordRef", .str "record"),
    ("resourceUrl", .str "https://fixture.test/discount"), ("resourceName", .str "unique-case"),
    ("creationWriteKey", .str "create"), ("ownership", .str "CREATED_THIS_RUN"),
    ("evidenceRefs", .arr [.str "created"]),
    ("cleanup", .obj [("status", .str "COMPLETED"), ("resolution", .str "DELETED"),
      ("instruction", .str "Delete our test record")])]

def discountWrite (key method url : String) (sequence : Rat) (evidence : String) : Json :=
  .obj [("key", .str key), ("sequence", .num sequence), ("method", .str method),
    ("url", .str url), ("status", .num 200), ("confirmed", .bool true),
    ("response", .str "\x7b\"code\":0\x7d"), ("evidenceRefs", .arr [.str evidence])]

def discountRead : Json :=
  .obj [("key", .str "read"), ("sequence", .num 3),
    ("url", .str "https://fixture.test/discount/list?name=unique-case"), ("complete", .bool true),
    ("identitiesComplete", .bool true), ("empty", .bool true), ("recordKeys", .arr []),
    ("evidenceRefs", .arr [.str "queried"])]

def discountCheckpoint : Json :=
  .obj [("phase", .str "CLEANUP"), ("pendingRecords", .arr []),
    ("records", .arr [discountRecord]),
    ("writes", .arr [
      discountWrite "create" "POST" "https://fixture.test/discount" 1 "created",
      discountWrite "delete" "DELETE" "https://fixture.test/discount?id=557" 2 "deleted"]),
    ("readReceipts", .arr [discountRead]),
    ("cleanupConfirmations", .arr [.obj [("recordRef", .str "record"),
      ("writeKey", .str "delete"), ("readKey", .str "read"), ("source", .str "NETWORK"),
      ("evidenceRefs", .arr [.str "deleted", .str "queried"])]])]

theorem discount_cleanup_settled :
    completedCleanupEvidence discountHost discountCheckpoint = ["created", "deleted", "queried"] ∧
      ∃ state, (executionStateSchema discountHost).read discountCheckpoint = some state ∧
        Cleaned discountHost state ∧
        ∀ policy : Members, policy.get "executionState" = some discountCheckpoint →
          cleanupNotice discountHost (restore discountHost policy).state = none := by
  have evidence : completedCleanupEvidence discountHost discountCheckpoint =
      ["created", "deleted", "queried"] := by decide
  exact ⟨evidence, completed_cleanup_settled discountHost discountCheckpoint (by simp [evidence])⟩

end Devproof
