import Devproof.Journal.Reconcile

/-!
Progress reported by the model: record deltas are merged one by one, the merged
state is checked as a whole, and only then replaces the state of the journal.
-/

namespace Devproof

structure CleanupDelta where
  instruction : String
  status : CleanupStatus
  note : Option String
  deriving Repr, DecidableEq

structure RecordDelta where
  recordRef : Option String := none
  id : Option String := none
  type : Option String := none
  displayType : Option String := none
  resourceUrl : Option String := none
  account : Option String := none
  accountAliases : Option (List String) := none
  ownership : Option Ownership := none
  initialState : Option String := none
  currentState : Option String := none
  evidenceRefs : Option (List String) := none
  cleanup : Option CleanupDelta := none
  deriving Repr, DecidableEq

structure Progress where
  phase : Option Phase
  step : Option String
  records : Option (List RecordDelta)
  cleanupReview : Option CleanupReview
  deriving Repr, DecidableEq

def cleanupDeltaSchema : Codec CleanupDelta :=
  Codec.object
    (.cons "instruction" (.required text) <|
      .cons "status" (.required cleanupStatusSchema) <|
      .cons "note" (.optional (bounded 1000)) .nil (Fields.fresh_nil "note"))
    (fun (instruction, status, note, ()) => { instruction, status, note })
    (fun value => (value.instruction, value.status, value.note, ()))
    fun _ => rfl

def executionRecordDeltaSchema : Codec RecordDelta :=
  Codec.object
    (.cons "recordRef" (.optional text) <|
      .cons "id" (.optional text) <|
      .cons "type" (.optional text) <|
      .cons "displayType" (.optional text) <|
      .cons "resourceUrl" (.optional (bounded 2000)) <|
      .cons "account" (.optional text) <|
      .cons "accountAliases" (.optional (Codec.list text 0 20)) <|
      .cons "ownership" (.optional ownershipSchema) <|
      .cons "initialState" (.optional (bounded 2000)) <|
      .cons "currentState" (.optional (bounded 2000)) <|
      .cons "evidenceRefs" (.optional (Codec.list text 0 20)) <|
      .cons "cleanup" (.optional cleanupDeltaSchema) .nil (Fields.fresh_nil "cleanup"))
    (fun (recordRef, id, type, displayType, resourceUrl, account, accountAliases, ownership,
        initialState, currentState, evidenceRefs, cleanup, ()) =>
      { recordRef, id, type, displayType, resourceUrl, account, accountAliases, ownership,
        initialState, currentState, evidenceRefs, cleanup })
    (fun value =>
      (value.recordRef, value.id, value.type, value.displayType, value.resourceUrl, value.account,
        value.accountAliases, value.ownership, value.initialState, value.currentState,
        value.evidenceRefs, value.cleanup, ()))
    fun _ => rfl

def executionProgressSchema : Codec Progress :=
  Codec.object
    (.cons "phase" (.optional phaseSchema) <|
      .cons "step" (.optional (bounded 1000)) <|
      .cons "records" (.optional (Codec.list executionRecordDeltaSchema 0 50)) <|
      .cons "cleanupReview" (.optional cleanupReviewSchema) <|
      .nil)
    (fun (phase, step, records, cleanupReview, ()) => { phase, step, records, cleanupReview })
    (fun value => (value.phase, value.step, value.records, value.cleanupReview, ()))
    fun _ => rfl

def Failure.message : Failure → Option String
  | .invalidUrl => none
  | .accountChange =>
      some "record_progress 不能分配或更换测试账号；请通过 TEST_ACCOUNT 人工输入获取账号。"
  | .invalidProgress => none
  | .ambiguousObservation => some "记录身份不唯一，请使用 observedRecords 中的 recordRef。"
  | .baselineAfterWrite =>
      some "无法确认该状态来自写入前的观察，不能用修改后的状态作为恢复基线。"
  | .missingEvidence => some "登记记录必须引用已交付的观察。"
  | .observedIsExisting => some "修改前已观察到的记录属于 EXISTING，不能声明为本次创建。"
  | .ambiguousRecord => some "记录身份不唯一，请使用当前台账的 recordRef。"
  | .initialStateFormat =>
      some ("INITIAL_STATE_FORMAT: initialState 必须是修改前状态的 JSON；优先引用 observedRecords 的 " ++
        "recordRef，由平台继承，不填写自然语言说明。")
  | .unknownRecordRef => some "未知 recordRef，请引用当前台账中的记录。"
  | .identityChange => some "记录身份不可由进度更新修改。"
  | .aliasChange => some "账号别名由真实观察维护，不能通过进度更新修改。"
  | .invalidRecord => none
  | .retentionRefused =>
      some ("按计划保留仅适用于已确认本次创建的记录，须说明 Spec 保留依据和后续用途；" ++
        "既有数据应恢复原状。")
  | .retentionUnproven => some "保留记录前须确认最后一次提交成功，并重新读取同一记录的当前状态。"
  | .invalidState => none
  | .reviewOfResolved =>
      some "清理核对只能关联当前未确认归属的提交；请从 unreviewedWriteKeys 读取 writeKeys。"
  | .ownershipChange => some "已确认的业务对象归属不能被后续计划覆盖。"
  | .initialStateChange => some "初始业务状态必须保留，不能用修改后的状态覆盖。"
  | .inventedOwnership =>
      some ("本次创建归属必须来自已观察的前置查询、提交与结果；不能凭计划声明创建成功。" ++
        "请核对该账号与类型已提交的精确查询、完整空结果、成功 POST 及后续记录；" ++
        "只填写筛选框不构成前置查询。")
  | .blockedWithoutNote => some "清理受阻时必须记录原因与具体待处理动作。"
  | .completionUnproven =>
      some ("清理完成必须引用重新核对结果的证据：成功删除后精确查询或完整列表确认不存在，" ++
        "或恢复初始值后重新读取确认；仅更换附件编号不能证明清理。")
  | .backToPreflight => some "已观察到提交，不能退回 PREFLIGHT；请核对结果和清理责任。"

section Host

variable (host : Host)

/-! A creation proved by a visible row. -/

structure Submitted where
  type : String
  account : String
  label : String

def submission (state : ExecutionState) (change : RecordDelta) (write : Write) :
    Option Submitted :=
  let request := writeRequest host write
  match write.uiTypeLabel, stringOf (request.get "type"), stringOf (request.get "account") with
  | some label, some type, some account =>
      if write.method == .post && confirmedSuccess host write && label != "" &&
          (change.type == some label || change.type == some type) &&
          state.preflightAbsences.contains (absenceKey (resource host write.url) type account) &&
          (change.account.getD "" == "" || change.account == some account) then
        some { type, account, label }
      else none
  | _, _, _ => none

def sameOrigin (left right : String) : Bool :=
  match host.parseUrl left, host.parseUrl right with
  | some first, some second => first.origin == second.origin
  | _, _ => false

def showsSubmission (observation : StructuredObservation) (id : String) (submitted : Submitted) :
    Bool :=
  ((rowTexts observation).filter fun texts =>
    texts.contains id && texts.contains submitted.account &&
      texts.contains submitted.label).length == 1

def pageInstruction : String := "完成验证后清理本次创建记录并重新查询"

def pageRecord (evidenceRefs : List String) (id : String) (write : Write)
    (submitted : Submitted) : ExecutionRecord :=
  let record : ExecutionRecord :=
    { id
      type := some submitted.type
      displayType := some submitted.label
      resourceUrl := some (resource host write.url)
      account := some submitted.account
      accountAliases := [submitted.account]
      ownership := .createdThisRun
      evidenceRefs := lastN 20 (uniq (write.evidenceRefs ++ evidenceRefs))
      cleanup := some { instruction := pageInstruction, status := .pending } }
  { record with recordRef := some (record.stableRef host) }

def createdFrom (state : ExecutionState) (observation : StructuredObservation)
    (evidenceRefs : List String) (change : RecordDelta) (id : String) (write : Write) :
    Option ExecutionRecord :=
  match submission host state change write with
  | none => none
  | some submitted =>
      if sameOrigin host observation.pageIdentity write.url &&
          showsSubmission observation id submitted then
        some (pageRecord host evidenceRefs id write submitted)
      else none

def createdUiRecord (journal : Journal) (change : RecordDelta) : Option ExecutionRecord :=
  match journal.lastUiObservation, change.id with
  | some observation, some id =>
      if id == "" || journal.lastUiEvidenceRefs.isEmpty ||
          !observation.coverage.completeWithinScope || observation.coverage.truncated then
        none
      else
        journal.state.writes.reverse.findSome?
          (createdFrom host journal.state observation journal.lastUiEvidenceRefs change id)
  | _, _ => none

structure Merging where
  journal : Journal
  merged : List ExecutionRecord

structure Resolved where
  merged : List ExecutionRecord
  change : RecordDelta

def claimsCreation (merged : List ExecutionRecord) (change : RecordDelta) : Bool :=
  change.ownership == some .createdThisRun &&
    !merged.any fun record =>
      some record.id == change.id &&
        (record.type == change.type || (record.displayType == change.type))

def pageCreation (merging : Merging) (change : RecordDelta) : Option ExecutionRecord :=
  if claimsCreation merging.merged change then createdUiRecord host merging.journal change else none

def registerCreation (merging : Merging) (created : ExecutionRecord) : Merging :=
  { journal := { merging.journal with
      state := { merging.journal.state with
        records := merging.journal.state.records ++ [created] } }
    merged := merging.merged ++ [created] }

def adoptCreation (change : RecordDelta) (created : ExecutionRecord) : RecordDelta :=
  { change with
    recordRef := created.recordRef
    type := created.type
    resourceUrl := created.resourceUrl
    account := created.account
    accountAliases := some created.accountAliases }

def matchesObserved (change : RecordDelta) (record : ExecutionRecord) : Bool :=
  (match change.recordRef with
    | some ref => if ref = "" then some record.id == change.id else record.recordRef == some ref
    | none => some record.id == change.id) &&
    (match change.resourceUrl with
      | some url => url == "" || some (resource host url) == record.resourceUrl
      | none => true) &&
    match change.account with
    | some account => account == "" || ownedBy record.account record.accountAliases account
    | none => true

def adoptBaseline (change : RecordDelta) (baseline : ExecutionRecord) : RecordDelta :=
  { change with
    recordRef := baseline.recordRef
    id := some baseline.id
    type := baseline.type
    resourceUrl := baseline.resourceUrl
    account := baseline.account
    accountAliases := some baseline.accountAliases
    ownership := some baseline.ownership
    initialState := baseline.initialState
    currentState := baseline.currentState }

def relabelled (baseline : ExecutionRecord) (change : RecordDelta) : ExecutionRecord :=
  match change.type with
  | some type =>
      if type ≠ "" ∧ some type ≠ baseline.type then { baseline with displayType := some type }
      else baseline
  | none => baseline

def inheritBaseline (state : ExecutionState) (merged : List ExecutionRecord)
    (change : RecordDelta) : Except Failure Resolved :=
  match state.observedRecords.filter (matchesObserved host change) with
  | [] => .ok { merged, change }
  | [baseline] =>
      if merged.any fun record => record.recordRef == baseline.recordRef then
        .ok { merged, change }
      else if !baselinePrecedesWrites host state baseline then .error .baselineAfterWrite
      else if (change.evidenceRefs.getD []).isEmpty then .error .missingEvidence
      else if change.ownership.any (· != .existing) then .error .observedIsExisting
      else .ok { merged := merged ++ [relabelled baseline change]
                 change := adoptBaseline change baseline }
  | _ => .error .ambiguousObservation

def addresses (change : RecordDelta) (record : ExecutionRecord) : Bool :=
  match change.recordRef with
  | some ref =>
      if ref = "" then some record.id == change.id && change.type.all (record.type == some ·) &&
        change.resourceUrl.all fun url =>
          resource host (record.resourceUrl.getD "") == resource host url
      else record.recordRef == some ref
  | none =>
      some record.id == change.id && change.type.all (record.type == some ·) &&
        change.resourceUrl.all fun url =>
          resource host (record.resourceUrl.getD "") == resource host url

def changesIdentity (change : RecordDelta) (locked : ExecutionRecord) : Bool :=
  change.id.any (· != locked.id) || change.type.any (some · != locked.type) ||
    change.resourceUrl.any (some · != locked.resourceUrl) ||
    change.account.any (some · != locked.account) ||
    change.recordRef.any (some · != locked.recordRef)

def changesAliases (change : RecordDelta) (locked : ExecutionRecord) : Bool :=
  change.accountAliases.any fun aliases => !aliases.isPerm locked.accountAliases

def CleanupDelta.cleanup (delta : CleanupDelta) : Cleanup :=
  { instruction := delta.instruction, status := delta.status, note := delta.note }

def overlay (locked : Option ExecutionRecord) (change : RecordDelta) : Option ExecutionRecord := do
  let id ← change.id <|> locked.map (·.id)
  let ownership ← change.ownership <|> locked.map (·.ownership)
  let evidenceRefs ← change.evidenceRefs <|> locked.map (·.evidenceRefs)
  pure
    { recordRef := change.recordRef <|> locked.bind (·.recordRef)
      id
      type := change.type <|> locked.bind (·.type)
      displayType := change.displayType <|> locked.bind (·.displayType)
      resourceUrl := change.resourceUrl <|> locked.bind (·.resourceUrl)
      resourceName := locked.bind (·.resourceName)
      creationWriteKey := locked.bind (·.creationWriteKey)
      account := change.account <|> locked.bind (·.account)
      accountAliases := (change.accountAliases <|> locked.map (·.accountAliases)).getD []
      ownership
      initialState := change.initialState <|> locked.bind (·.initialState)
      currentState := change.currentState <|> locked.bind (·.currentState)
      baselineObservation := locked.bind (·.baselineObservation)
      uiBaseline := locked.bind (·.uiBaseline)
      evidenceRefs
      cleanup := change.cleanup.map CleanupDelta.cleanup <|> locked.bind (·.cleanup) }

def hasNote (cleanup : Cleanup) : Bool := trim (cleanup.note.getD "") != ""

def grantRetention (state : ExecutionState) (locked : Option ExecutionRecord)
    (record : ExecutionRecord) : Except Failure ExecutionRecord :=
  match record.cleanup with
  | none => .ok record
  | some cleanup =>
      if cleanup.status ≠ .retained then .ok record
      else
        match locked with
        | none => .error .retentionRefused
        | some locked =>
            if locked.ownership ≠ .createdThisRun ∨ !hasNote cleanup then
              .error .retentionRefused
            else
              match retentionRead host state locked with
              | none => .error .retentionUnproven
              | some proof =>
                  .ok { record with
                    cleanup := some { cleanup with retainedAtWriteKey := some proof.mutation.key }
                    evidenceRefs :=
                      lastN 20 (uniq (record.evidenceRefs ++ proof.read.evidenceRefs)) }

def lockedChecks (change : RecordDelta) (locked : Option ExecutionRecord) : Except Failure Unit :=
  match locked with
  | none =>
      if change.ownership = some .existing ∧ change.initialState.isSome ∧
          (host.parseText change.initialState).isNone then
        .error .initialStateFormat
      else if change.recordRef.any (· != "") then .error .unknownRecordRef
      else .ok ()
  | some locked =>
      if changesIdentity change locked then .error .identityChange
      else if changesAliases change locked then .error .aliasChange
      else .ok ()

def withRef (record : ExecutionRecord) : ExecutionRecord :=
  match record.recordRef with
  | some _ => record
  | none => { record with recordRef := some (record.stableRef host) }

def mergeRecord (state : ExecutionState) (resolved : Resolved) :
    Except Failure (List ExecutionRecord) := do
  let addressed := addresses host resolved.change
  let candidates := resolved.merged.filter addressed
  if 1 < candidates.length then .error .ambiguousRecord
  else
    let locked := candidates.head?
    lockedChecks host resolved.change locked
    match (overlay locked resolved.change).bind (executionRecordSchema host).parse with
    | none => .error .invalidRecord
    | some parsed =>
        let record ← grantRetention host state locked parsed
        pure <|
          if locked.isSome then replaceFirst addressed (withRef host record) resolved.merged
          else resolved.merged ++ [withRef host record]

def mergeChange (merging : Merging) (change : RecordDelta) : Outcome Merging Failure :=
  let created := pageCreation host merging change
  let registered := (created.map (registerCreation merging)).getD merging
  let adopted := (created.map (adoptCreation change)).getD change
  let state := registered.journal.state
  match inheritBaseline host state registered.merged adopted with
  | .error failure => .failed registered failure
  | .ok resolved =>
      match mergeRecord host state resolved with
      | .error failure => .failed registered failure
      | .ok merged => .done { registered with merged }

def mergeChanges : List RecordDelta → Merging → Outcome Merging Failure
  | [], merging => .done merging
  | change :: rest, merging => (mergeChange host merging change).andThen (mergeChanges rest)

def sameKey (left right : ExecutionRecord) : Bool := left.key host == right.key host

def isCompleted (record : ExecutionRecord) : Bool :=
  record.cleanup.any fun cleanup => cleanup.status == .completed

def provesCompletion (state : ExecutionState) (record : ExecutionRecord) : Bool :=
  state.cleanupConfirmations.any fun proof =>
    some proof.recordRef == record.recordRef && proof.evidenceRefs.any record.evidenceRefs.contains

def checkRecord (state : ExecutionState) (record : ExecutionRecord) : Except Failure Unit :=
  let prior := state.records.find? fun known => sameKey host known record
  if prior.any fun known => known.ownership != record.ownership then .error .ownershipChange
  else if prior.any fun known =>
      known.initialState.isSome && known.initialState != record.initialState then
    .error .initialStateChange
  else if record.ownership == .createdThisRun && !state.records.any (fun known =>
      sameKey host known record && known.ownership == .createdThisRun) then
    .error .inventedOwnership
  else if record.cleanup.any fun cleanup => cleanup.status == .blocked && !hasNote cleanup then
    .error .blockedWithoutNote
  else if isCompleted record && !prior.any isCompleted && !provesCompletion state record then
    .error .completionUnproven
  else .ok ()

def checkRecords (state : ExecutionState) : List ExecutionRecord → Except Failure Unit
  | [] => .ok ()
  | record :: rest => do
      checkRecord host state record
      checkRecords state rest

def checkReview (state : ExecutionState) (review : Option CleanupReview) : Except Failure Unit :=
  match review with
  | none => .ok ()
  | some review =>
      if review.writeKeys.all (unresolvedKeys host state).contains then .ok ()
      else .error .reviewOfResolved

def withProgress (state : ExecutionState) (delta : Progress) (merged : List ExecutionRecord) :
    ExecutionState :=
  { state with
    phase := delta.phase.getD state.phase
    step := delta.step.getD state.step
    cleanupReview := delta.cleanupReview <|> state.cleanupReview
    records := merged }

def checkProgress (state : ExecutionState) (delta : Progress) (merged : List ExecutionRecord) :
    Except Failure ExecutionState := do
  match (executionStateSchema host).parse (withProgress state delta merged) with
  | none => .error .invalidState
  | some parsed =>
      checkReview host state delta.cleanupReview
      checkRecords host state parsed.records
      if parsed.phase = .preflight ∧ !state.writes.isEmpty then .error .backToPreflight
      else .ok parsed

def existingKeys (records : List ExecutionRecord) : List String :=
  (records.filter fun record => record.ownership == .existing).map (·.key host)

def adoptProgress (state parsed : ExecutionState) : ExecutionState :=
  { parsed with
    account := if state.account.getD "" = "" then parsed.account else state.account
    accounts := state.accounts
    accountAliases := state.accountAliases
    pendingRecords := state.pendingRecords
    observedRecords := state.observedRecords
    writeHistoryTruncated := state.writeHistoryTruncated
    writes := state.writes
    preflightAbsences := state.preflightAbsences
    existingRecordKeys :=
      lastN 200 (uniq (state.existingRecordKeys ++ existingKeys host parsed.records)) }

def isAssignedAccount (state : ExecutionState) (account : Json) : Bool :=
  match account with
  | .str account =>
      state.account == some account ||
        (state.accounts.getD []).any fun binding =>
          (binding.account :: binding.aliases).contains account
  | _ => false

def progress (next : Members) (journal : Journal) : Outcome Journal Failure :=
  if (next.get "account").any fun account => !isAssignedAccount journal.state account then
    .failed journal .accountChange
  else
    match executionProgressSchema.read (.obj next) with
    | none => .failed journal .invalidProgress
    | some delta =>
        let merging := mergeChanges host (delta.records.getD [])
          { journal, merged := journal.state.records }
        let journal := merging.state.journal
        match merging.thrown with
        | some failure => .failed journal failure
        | none =>
            match checkProgress host journal.state delta merging.state.merged with
            | .error failure => .failed journal failure
            | .ok parsed => .done { journal with state := adoptProgress host journal.state parsed }

def rereadPage (journal : Journal) : Journal :=
  match journal.lastUiObservation with
  | none => journal
  | some observation =>
      { journal with
        state := observeUi host observation journal.lastUiEvidenceRefs false journal.state }

def blockRecord (note : String) (record : ExecutionRecord) : ExecutionRecord :=
  { record with
    cleanup := record.cleanup.map fun cleanup =>
      if cleanup.status = .pending then
        { cleanup with status := .blocked, note := some (slice note 1000) }
      else cleanup }

def blockCleanup (note : String) (state : ExecutionState) : ExecutionState :=
  let blocked := { state with
    phase := .cleanup
    records := state.records.map (blockRecord note) }
  let writeKeys := unreviewedWriteKeys host blocked
  let refs := (uniq ((unresolvedWrites host blocked).flatMap (·.evidenceRefs))).take 20
  if writeKeys.isEmpty || refs.isEmpty then blocked
  else
    { blocked with
      cleanupReview :=
        some
          { note := slice note 1000
            writeKeys := (uniq (reviewedKeys blocked ++ writeKeys)).take 200
            evidenceRefs := refs } }

end Host

end Devproof
