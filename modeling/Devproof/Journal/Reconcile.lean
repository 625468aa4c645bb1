import Devproof.Journal.Requests

/-!
What the journal concludes from the receipts once the requests of an output are
in: pending creations, resources known by name, observed records a write
changed, and the cleanup status of every record.
-/

namespace Devproof

section Host

variable (host : Host)

def createdInstruction : String := "核对本次创建证据与当前状态后，执行 Spec 约定的清理。"

def claimedRecord (pending : PendingRecord) (creation : Write) : ExecutionRecord :=
  let account := host.text ((writeRequest host creation).get "account")
  { recordRef := some (stableRecordRef host pending.resourceUrl pending.type pending.id
      (some account))
    id := pending.id
    type := pending.type
    resourceUrl := pending.resourceUrl
    account := some account
    accountAliases := pending.accountAliases
    ownership := .createdThisRun
    currentState := pending.currentState
    evidenceRefs := lastN 20 (uniq (creation.evidenceRefs ++ pending.evidenceRefs))
    cleanup := some { instruction := createdInstruction, status := .pending } }

def settlePending (state : ExecutionState) (pending : PendingRecord) : ExecutionState :=
  let kept := { state with pendingRecords := state.pendingRecords ++ [pending] }
  match matchingCreation host state pending false with
  | none => kept
  | some creation =>
      if !creation.confirmed then kept
      else if !writeSuccessful host creation then addExistingKey (pending.key host) state
      else if 50 ≤ state.records.length then kept
      else { state with records := state.records ++ [claimedRecord host pending creation] }

def confirmPending (state : ExecutionState) : ExecutionState :=
  state.pendingRecords.foldl (settlePending host) { state with pendingRecords := [] }

def namedIdentity (read : ReadReceipt) (item : NamedResource) : ExecutionRecord :=
  { id := item.id
    type := some "NAMED_RESOURCE"
    resourceUrl := some (resource host read.url)
    resourceName := some item.name
    ownership := .existing
    evidenceRefs := [] }

def namedKey (read : ReadReceipt) (item : NamedResource) : String :=
  (namedIdentity host read item).key host

def shownState (read : ReadReceipt) (key : String) : Option String :=
  (read.recordStates.lookup key).filter (· != "")

def requestName (write : Write) : Option Json := (writeRequest host write).get "name"

def namesItem (item : NamedResource) (name : Option Json) : Bool :=
  stringOf name == some item.name

def renamesTo (read : ReadReceipt) (item : NamedResource) (existing : ExecutionRecord)
    (write : Write) : Bool :=
  (write.method == .put || write.method == .patch) && confirmedSuccess host write &&
    writeMatchesRecord host write existing && write.sequence.any (· < read.sequence) &&
    namesItem item (requestName host write)

def confusesName (read prior : ReadReceipt) (item : NamedResource) (creation other : Write) :
    Bool :=
  other.key != creation.key && !rejectedWrite host other &&
    resource host other.url == resource host read.url &&
    other.sequence.any (fun sequence => prior.sequence < sequence && sequence < read.sequence) &&
    (namesItem item (requestName host other) ||
      ((requestName host other).isNone &&
        (requestedRecordId host other.url (writeRequest host other)).id.isNone))

def priorRead (state : ExecutionState) (identity : ExecutionRecord) (creation : Write)
    (sequence : Int) : Option ReadReceipt :=
  (sortDescending ReadReceipt.sequence (state.readReceipts.filter fun prior =>
    prior.sequence < sequence && completeReadCoversRecord host prior identity &&
      whenStamped prior.timestamp creation.timestamp host.before)).head?

def submitsName (read : ReadReceipt) (item : NamedResource) (write : Write) : Bool :=
  let request := writeRequest host write
  let responseId := responseRecordId host (host.parseText write.response)
  write.method == .post && write.confirmed && (host.parseText write.response).isSome &&
    writeSuccessful host write && resource host write.url == resource host read.url &&
    write.sequence.any (· < read.sequence) &&
    whenStamped write.timestamp read.timestamp
      (fun writtenAt readAt => !host.notBefore writtenAt readAt) &&
    namesItem item (request.get "name") && (request.get "account").isNone &&
    (request.get "id").isNone && (responseId == none || responseId == some item.id)

def createsName (state : ExecutionState) (read : ReadReceipt) (item : NamedResource)
    (write : Write) : Bool :=
  submitsName host read item write &&
    match write.sequence with
    | none => false
    | some sequence =>
        match priorRead host state (namedIdentity host read item) write sequence with
        | none => false
        | some prior =>
            !prior.namedResources.any (fun other => other.id == item.id || other.name == item.name) &&
              !state.writes.any (confusesName host read prior item write)

def namedCreations (state : ExecutionState) (read : ReadReceipt) (item : NamedResource) :
    List Write :=
  state.writes.filter (createsName host state read item)

def namedCreation (state : ExecutionState) (read : ReadReceipt) (item : NamedResource) :
    Option Write :=
  match namedCreations host state read item with
  | [creation] =>
      if read.identitiesComplete &&
          (read.namedResources.filter fun other => other.name == item.name).length == 1 &&
          !state.records.any (fun record => record.creationWriteKey == some creation.key) &&
          !state.existingRecordKeys.contains (namedKey host read item) &&
          state.records.length < 50 then
        some creation
      else none
  | _ => none

def namedInstruction : String := "按 Spec 清理本次创建的资源，并按 ID 或唯一名称重新查询确认。"

def namedRecord (read : ReadReceipt) (item : NamedResource) (creation : Write) :
    ExecutionRecord :=
  let identity := namedIdentity host read item
  { identity with
    recordRef := some (identity.stableRef host)
    creationWriteKey := some creation.key
    ownership := .createdThisRun
    currentState := shownState read (namedKey host read item)
    evidenceRefs := lastN 20 (uniq (creation.evidenceRefs ++ read.evidenceRefs))
    cleanup := some { instruction := namedInstruction, status := .pending } }

def namedBaseline (read : ReadReceipt) (item : NamedResource) (shown : String) :
    ExecutionRecord :=
  let identity := namedIdentity host read item
  { identity with
    recordRef := some (identity.stableRef host)
    ownership := .existing
    initialState := some shown
    currentState := some shown
    baselineObservation :=
      some
        { readKey := read.key
          sequence := read.sequence
          timestamp := stamp read.timestamp }
    evidenceRefs := read.evidenceRefs }

def refreshNamed (state : ExecutionState) (read : ReadReceipt) (item : NamedResource)
    (existing : ExecutionRecord) : ExecutionState :=
  let key := namedKey host read item
  let renamed :=
    if (state.writes.find? (renamesTo host read item existing)).isSome then
      { existing with resourceName := some item.name }
    else existing
  { state with
    records :=
      replaceFirst (fun record => record.key host == key)
        { renamed with currentState := shownState read key <|> renamed.currentState }
        state.records }

def observeNamed (read : ReadReceipt) (item : NamedResource) (shown : String)
    (state : ExecutionState) : ExecutionState :=
  let baseline := namedBaseline host read item shown
  if baselinePrecedesWrites host state baseline && state.observedRecords.length < 100 &&
      !state.observedRecords.any (fun record => record.recordRef == baseline.recordRef) then
    addExistingKey (namedKey host read item)
      { state with observedRecords := state.observedRecords ++ [baseline] }
  else state

def bindNamed (state : ExecutionState) (entry : ReadReceipt × NamedResource) : ExecutionState :=
  let (read, item) := entry
  match state.records.find? fun record => record.key host == namedKey host read item with
  | some existing => refreshNamed host state read item existing
  | none =>
      match namedCreation host state read item with
      | some creation =>
          { state with records := state.records ++ [namedRecord host read item creation] }
      | none =>
          match shownState read (namedKey host read item) with
          | some shown => observeNamed host read item shown state
          | none => state

def namedEntries (state : ExecutionState) : List (ReadReceipt × NamedResource) :=
  (sortAscending ReadReceipt.sequence state.readReceipts).flatMap fun read =>
    read.namedResources.map fun item => (read, item)

def reconcileNamedResources (state : ExecutionState) : ExecutionState :=
  if state.requestOrderTruncated || state.writeHistoryTruncated then state
  else (namedEntries state).foldl (bindNamed host) state

/-! Observed records that a write changed. -/

def restoreInstruction : String := "按修改前观察到的状态恢复既有记录，并重新读取核对。"

def baselinesChangedBy (state : ExecutionState) (write : Write) : List ExecutionRecord :=
  state.observedRecords.filter fun record =>
    writeMatchesRecord host write record && baselinePrecedesWrites host state record

def registerMutation (state : ExecutionState) (write : Write) : ExecutionState :=
  if write.method = .post ∨ rejectedWrite host write then state
  else
    match baselinesChangedBy host state write with
    | [baseline] =>
        if 50 ≤ state.records.length ∨
            state.records.any (fun record => record.recordRef == baseline.recordRef) then
          state
        else
          { state with
            records := state.records ++
              [{ baseline with
                 cleanup := some { instruction := restoreInstruction, status := .pending } }] }
    | _ => state

def registerObservedMutations (state : ExecutionState) : ExecutionState :=
  state.writes.foldl (registerMutation host) state

def checkRetention (state : ExecutionState) (record : ExecutionRecord) (cleanup : Cleanup) :
    Cleanup :=
  if cleanup.status = .retained then
    match retentionRead host state record with
    | some proof =>
        if some proof.mutation.key = cleanup.retainedAtWriteKey then cleanup
        else { cleanup with status := .pending, retainedAtWriteKey := none }
    | none => { cleanup with status := .pending, retainedAtWriteKey := none }
  else cleanup

def laterReads (state : ExecutionState) (mutation : Write) (sequence : Int) : List ReadReceipt :=
  sortDescending ReadReceipt.sequence (state.readReceipts.filter fun read =>
    sequence < read.sequence &&
      whenStamped read.timestamp mutation.timestamp
        (fun readAt writtenAt => host.before writtenAt readAt))

def deletionRead (state : ExecutionState) (record : ExecutionRecord) (mutation : Write)
    (sequence : Int) : Option ReadReceipt :=
  ((laterReads host state mutation sequence).find? (listsOrCovers host record)).filter fun read =>
    !read.recordKeys.contains (record.key host)

def submitsState (mutation : Write) (expected : Json) : Bool :=
  match (writeRequest host mutation).get "config" with
  | some config => (host.parsedOr config).deepEqual expected
  | none => false

def restorationRead (state : ExecutionState) (record : ExecutionRecord) (mutation : Write)
    (sequence : Int) (initial : String) : Option ReadReceipt :=
  if record.resourceName.isSome || submitsState host mutation (host.parsedText initial) then
    ((laterReads host state mutation sequence).find? fun read =>
      read.recordKeys.contains (record.key host)).filter fun read =>
        (read.recordStates.lookup (record.key host)).any fun actual => sameState host actual initial
  else none

def confirmingRead (state : ExecutionState) (record : ExecutionRecord) (mutation : Write)
    (sequence : Int) : Option ReadReceipt :=
  if mutation.method = .delete ∧ record.ownership = .createdThisRun then
    deletionRead host state record mutation sequence
  else if record.ownership = .existing ∧ (mutation.method = .put ∨ mutation.method = .patch) then
    record.initialState.bind (restorationRead host state record mutation sequence)
  else none

structure Settlement where
  mutation : Write
  read : ReadReceipt

def settlement (state : ExecutionState) (record : ExecutionRecord) : Option Settlement :=
  match latestMutation host state record with
  | none => none
  | some mutation =>
      match mutation.sequence with
      | none => none
      | some sequence =>
          if !state.requestOrderTruncated && confirmedSuccess host mutation then
            (confirmingRead host state record mutation sequence).map fun read => { mutation, read }
          else none

def Settlement.confirmation (settled : Settlement) (ref : String) : CleanupConfirmation :=
  { recordRef := ref
    writeKey := settled.mutation.key
    readKey := settled.read.key
    source := none
    evidenceRefs := lastN 20 (uniq (settled.mutation.evidenceRefs ++ settled.read.evidenceRefs)) }

def deletedNote : String := "已核对删除回执及后续查询，记录已不存在。"

def rereadNote : String := "已重新读取并确认恢复到修改前状态。"

def supersededNote : String := "最新写入或查询与原收尾结果不一致，需要重新核对。"

def Settlement.cleanup (settled : Settlement) (cleanup : Cleanup) : Cleanup :=
  { cleanup with
    status := .completed
    resolution := if settled.mutation.method = .delete then some .deleted else some .restored
    retainedAtWriteKey := none
    note := some (if settled.mutation.method = .delete then deletedNote else rereadNote) }

/-- The confirmations of the other records, and this record's own page reading if
no receipt replaces it. -/
def withoutConfirmation (ref : String) (replaced : Bool) (proofs : List CleanupConfirmation) :
    List CleanupConfirmation :=
  proofs.filter fun proof => proof.recordRef != ref || (!replaced && isUi proof)

structure Settled where
  record : ExecutionRecord
  confirmations : List CleanupConfirmation

/-- Recompute one record from the latest mutation and read, so that replaying an old
empty response cannot re-establish a proof invalidated by later activity. -/
def settleRecord (state : ExecutionState) (confirmations : List CleanupConfirmation)
    (record : ExecutionRecord) : Settled :=
  match record.recordRef, record.cleanup with
  | some ref, some cleanup =>
      if ref = "" then { record, confirmations }
      else
        let checked := checkRetention host state record cleanup
        let settled := settlement host state record
        let remaining := withoutConfirmation ref settled.isSome confirmations
        match settled with
        | some settled =>
            let confirmation := settled.confirmation ref
            { record := { record with
                cleanup := some (settled.cleanup checked)
                evidenceRefs := lastN 20 (uniq (record.evidenceRefs ++ confirmation.evidenceRefs)) }
              confirmations := remaining ++ [confirmation] }
        | none =>
            if (latestMutation host state record).isSome && checked.status == .completed &&
                !remaining.any (fun proof => proof.recordRef == ref) then
              { record := { record with cleanup := some (reopened supersededNote checked) }
                confirmations := remaining }
            else
              { record := { record with cleanup := some checked }, confirmations := remaining }
  | _, _ => { record, confirmations }

def settleRecords (state : ExecutionState) :
    List ExecutionRecord → List CleanupConfirmation → List ExecutionRecord × List CleanupConfirmation
  | [], confirmations => ([], confirmations)
  | record :: rest, confirmations =>
      let settled := settleRecord host state confirmations record
      let (records, confirmations) := settleRecords state rest settled.confirmations
      (settled.record :: records, confirmations)

def reconcileCleanup (state : ExecutionState) : ExecutionState :=
  let (records, confirmations) := settleRecords host state state.records state.cleanupConfirmations
  { state with records, cleanupConfirmations := confirmations }

/-! The review of writes without a record. -/

def unresolvedKeys (state : ExecutionState) : List String :=
  (unresolvedWrites host state).map (·.key) ++
    if state.writeHistoryTruncated then ["history:truncated"] else []

def reconcileReview (state : ExecutionState) : ExecutionState :=
  match state.cleanupReview with
  | none => state
  | some review =>
      let remaining := review.writeKeys.filter (unresolvedKeys host state).contains
      { state with
        cleanupReview :=
          if remaining.isEmpty then none else some { review with writeKeys := remaining } }

end Host

end Devproof
