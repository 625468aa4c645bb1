import Devproof.Journal.Bodies

/-!
Questions the journal asks its own state: which creation a row belongs to,
whether a baseline precedes every write, which write changed a record last, and
what is still open.
-/

namespace Devproof

def isUi (confirmation : CleanupConfirmation) : Bool :=
  confirmation.source == some .ui

def namesRef (wanted : Option String) (ref : String) : Bool :=
  match wanted with
  | none => true
  | some wanted => wanted == "" || ref == wanted

def reopened (note : String) (cleanup : Cleanup) : Cleanup :=
  { cleanup with status := .pending, resolution := none, note := some note }

def invalidatedNote : String := "后续操作使原核对结果失效，需要重新读取确认。"

def invalidateRecord (refs : List String) (record : ExecutionRecord) : ExecutionRecord :=
  match record.recordRef, record.cleanup with
  | some ref, some cleanup =>
      if ref != "" && refs.contains ref && cleanup.status == .completed then
        { record with cleanup := some (reopened invalidatedNote cleanup) }
      else record
  | _, _ => record

def invalidateUiConfirmations (recordRef : Option String) (state : ExecutionState) :
    ExecutionState :=
  let refs := (state.cleanupConfirmations.filter fun proof =>
    isUi proof && namesRef recordRef proof.recordRef).map (·.recordRef)
  { state with
    records := state.records.map (invalidateRecord refs)
    cleanupConfirmations := state.cleanupConfirmations.filter fun proof =>
      !isUi proof || !namesRef recordRef proof.recordRef }

section Host

variable (host : Host)

def ExecutionRecord.key (record : ExecutionRecord) : String :=
  recordKey host record.id record.type record.resourceUrl

def PendingRecord.key (record : PendingRecord) : String :=
  recordKey host record.id record.type record.resourceUrl

def sameText (request : Members) (name : String) (value : Option String) : Bool :=
  match request.get name with
  | none => value.isNone
  | some json => (stringOf (some json)).isSome && stringOf (some json) == value

def PendingRecord.absenceKey (record : PendingRecord) (request : Members) : String :=
  Devproof.absenceKey (record.resourceUrl.getD "undefined") (record.type.getD "undefined")
    (host.text (request.get "account"))

def createsRecord (state : ExecutionState) (record : PendingRecord) (requireAbsence : Bool)
    (write : Write) : Bool :=
  let request := writeRequest host write
  let responseId := responseRecordId host (host.parseText write.response)
  write.method == .post && some (resource host write.url) == record.resourceUrl &&
    sameText request "type" record.type &&
    (stringOf (request.get "account")).any (fun account => record.accountAliases.contains account) &&
    (responseId == none || responseId == some record.id) &&
    (!requireAbsence || state.preflightAbsences.contains (record.absenceKey host request))

def matchingCreation (state : ExecutionState) (record : PendingRecord) (requireAbsence : Bool) :
    Option Write :=
  state.writes.reverse.find? (createsRecord host state record requireAbsence)

def whenStamped (left right : Option String) (check : String → String → Bool) : Bool :=
  match stamp left, stamp right with
  | some first, some second => check first second
  | _, _ => true

def writeLeavesBaseline (record : ExecutionRecord) (baseline : BaselineObservation)
    (write : Write) : Bool :=
  let request := writeRequest host write
  let identity := requestedRecordId host write.url request
  rejectedWrite host write || some (resource host write.url) != record.resourceUrl ||
    (!identity.conflict &&
      match identity.id with
      | some id => id != record.id
      | none =>
          !absentOr request "type" record.type ||
            match request.get "account" with
            | none => false
            | some account =>
                !ownedBy record.account record.accountAliases (host.textOf account)) ||
    (write.sequence.any (fun sequence => baseline.sequence < sequence) &&
      whenStamped baseline.timestamp write.timestamp host.before)

def baselinePrecedesWrites (state : ExecutionState) (record : ExecutionRecord) : Bool :=
  match record.baselineObservation with
  | none => false
  | some baseline =>
      !state.requestOrderTruncated && !state.writeHistoryTruncated &&
        state.writes.all (writeLeavesBaseline host record baseline)

def Write.order (write : Write) : Int := write.sequence.getD (-1)

def mutationsOf (state : ExecutionState) (record : ExecutionRecord) : List Write :=
  state.writes.filter fun write => writeMatchesRecord host write record && !rejectedWrite host write

def latestMutation (state : ExecutionState) (record : ExecutionRecord) : Option Write :=
  (sortAscending Write.order (mutationsOf host state record)).getLast?

def listsOrCovers (record : ExecutionRecord) (read : ReadReceipt) : Bool :=
  read.recordKeys.contains (record.key host) || completeReadCoversRecord host read record

structure Retention where
  mutation : Write
  read : ReadReceipt

def retentionRead (state : ExecutionState) (record : ExecutionRecord) : Option Retention :=
  if state.requestOrderTruncated then none
  else
    match latestMutation host state record with
    | none => none
    | some mutation =>
        match mutation.sequence with
        | none => none
        | some sequence =>
            if !confirmedSuccess host mutation || mutation.method == .delete then none
            else
              let sameResource := state.readReceipts.filter fun read =>
                resource host read.url == resource host (record.resourceUrl.getD "")
              match (sortDescending ReadReceipt.sequence sameResource).find?
                  (listsOrCovers host record) with
              | none => none
              | some read =>
                  if read.sequence ≤ sequence || !read.recordKeys.contains (record.key host) ||
                      !whenStamped read.timestamp mutation.timestamp
                        (fun readAt writtenAt => host.before writtenAt readAt) then
                    none
                  else some { mutation, read }

def answersFor (write : Write) (record : ExecutionRecord) : Bool :=
  record.cleanup.isSome && record.resourceUrl.any (· != "") &&
    resource host write.url == resource host (record.resourceUrl.getD "") &&
    !(write.method == .post && record.ownership != .createdThisRun) &&
    writeMatchesRecord host write record

def unresolvedWrites (state : ExecutionState) : List Write :=
  state.writes.filter fun write =>
    !rejectedWrite host write && !state.records.any (answersFor host write)

def reviewedKeys (state : ExecutionState) : List String :=
  match state.cleanupReview with
  | some review => review.writeKeys
  | none => []

def unreviewedWrites (state : ExecutionState) : List Write :=
  (unresolvedWrites host state).filter fun write => !(reviewedKeys state).contains write.key

def unreviewedWriteKeys (state : ExecutionState) : List String :=
  (unreviewedWrites host state).map (·.key) ++
    if state.writeHistoryTruncated && !(reviewedKeys state).contains "history:truncated" then
      ["history:truncated"]
    else []

def isOpen (record : ExecutionRecord) : Bool :=
  match record.cleanup with
  | some cleanup => cleanup.status != .completed && cleanup.status != .retained
  | none => false

def pendingCleanup (state : ExecutionState) : List ExecutionRecord :=
  state.records.filter isOpen

def pendingNotice (record : ExecutionRecord) : String :=
  let note := (record.cleanup.bind (·.note)).getD ""
  record.type.getD "记录" ++ " " ++ record.id ++ if note = "" then "" else "（" ++ note ++ "）"

def cleanupNotice (state : ExecutionState) : Option String :=
  let pending := pendingCleanup state
  let unresolved := unresolvedWrites host state
  if pending.isEmpty && unresolved.isEmpty && state.pendingRecords.isEmpty &&
      !state.writeHistoryTruncated then
    none
  else
    let lines := [
      if state.writeHistoryTruncated then
        "提交台账超过保留上限，历史写入需人工对照原始网络证据核对。" else "",
      if pending.isEmpty then ""
      else "待核对清理或恢复：" ++ "、".intercalate (pending.map pendingNotice),
      if unresolved.isEmpty then ""
      else host.formatNumber unresolved.length ++ " 笔提交尚未确认记录归属，" ++
        match state.cleanupReview with
        | some review => review.note
        | none => "需查询确认，不能直接删除或宣称已清理",
      if state.pendingRecords.isEmpty then ""
      else host.formatNumber state.pendingRecords.length ++
        " 条记录的创建回执尚未确认，需后续核对归属。"]
    some ("\n".intercalate (lines.filter (· != "")))

end Host

end Devproof
