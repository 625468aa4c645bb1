import Devproof.Lib.Machine
import Devproof.Journal.Page

/-!
Observing network traffic: the requests of one command output, the receipts
they become, and the rows they list.
-/

namespace Devproof

inductive Failure where
  | invalidUrl
  | accountChange
  | invalidProgress
  | ambiguousObservation
  | baselineAfterWrite
  | missingEvidence
  | observedIsExisting
  | ambiguousRecord
  | initialStateFormat
  | unknownRecordRef
  | identityChange
  | aliasChange
  | invalidRecord
  | retentionRefused
  | retentionUnproven
  | invalidState
  | reviewOfResolved
  | ownershipChange
  | initialStateChange
  | inventedOwnership
  | blockedWithoutNote
  | completionUnproven
  | backToPreflight
  deriving Repr, DecidableEq

structure Command where
  commandType : String
  payload : Option Json

structure Request where
  url : Option Json := none
  method : Option Json := none
  requestId : Option Json := none
  requestSummary : Option Json := none
  responseSummary : Option Json := none
  status : Option Json := none
  timestamp : Option Json := none
  bodyPending : Option Json := none
  pending : Option Json := none
  responseTruncated : Option Json := none
  responseBodyTruncated : Option Json := none
  responseBodyOmitted : Option Json := none

structure Traffic where
  commandId : Option Json
  evidenceRefs : List String

def isUuidKey (value : String) : Bool :=
  value.toList.length == 36 && value.toList.all fun char => isHexDigit char || char == '-'

def authWords : List String :=
  ["oauth", "auth", "login", "signin", "sign-in", "token", "refresh", "session", "password"]

/-- `/(?:^|\/)(?:oauth|auth|...)(?:[/?#]|$)/iu`: one path segment is an authentication word. -/
def isAuthUrl (url : String) : Bool :=
  ((folded url).splitOn '/').any fun segment =>
    authWords.any fun word =>
      segment == word.toList || (word.toList ++ ['?']).isPrefixOf segment ||
        (word.toList ++ ['#']).isPrefixOf segment

def writeMethodOf (method : String) : Option WriteMethod :=
  if method = "POST" then some .post
  else if method = "PUT" then some .put
  else if method = "PATCH" then some .patch
  else if method = "DELETE" then some .delete
  else none

def submittedStep : String :=
  "已观察到业务提交：核对回执、结果与清理责任；缺失请求体时不能宣称没有写入，不重新提交创建。"

section Host

variable (host : Host)

namespace Request

def urlText (request : Request) : String :=
  host.text (nullish request.url (some (.str "")))

def methodText (request : Request) : String := host.text request.method

def body (request : Request) : Option Json := host.parse request.responseSummary

def key (traffic : Traffic) (request : Request) : String :=
  match stringOf request.requestId with
  | some id =>
      if isUuidKey id then "request:" ++ id
      else host.text (nullish traffic.commandId (some (.str "network"))) ++ ":" ++ id
  | none =>
      host.text (nullish traffic.commandId (some (.str "network"))) ++ ":" ++
        host.text request.requestId

def completeBody (request : Request) : Bool :=
  !isTrue request.bodyPending && !isTrue request.pending && !isTrue request.responseTruncated &&
    !isTrue request.responseBodyTruncated && request.responseBodyOmitted.isNone &&
    (stringOf request.responseSummary).isSome

def succeeded (request : Request) : Bool :=
  successfulExecutionWrite (numberOf request.status) (request.body host)

end Request

def noteRequest (key : String) (state : ExecutionState) : ExecutionState :=
  if state.requestOrder.contains key then state
  else if state.requestOrder.length < 2000 then
    { state with requestOrder := state.requestOrder ++ [key] }
  else { state with requestOrderTruncated := true }

def addAbsence (key : String) (state : ExecutionState) : ExecutionState :=
  { state with preflightAbsences := lastN 100 (uniq (state.preflightAbsences ++ [key])) }

def addExistingKey (key : String) (state : ExecutionState) : ExecutionState :=
  { state with existingRecordKeys := lastN 200 (uniq (state.existingRecordKeys ++ [key])) }

/-- A POST that may already have created what an exact read of `type` and `account` misses. -/
def forestalls (url type account : String) (write : Write) : Bool :=
  write.method == .post && mayHaveSucceeded host write &&
    resource host write.url == resource host url &&
    (write.request.getD "" == "" ||
      (absentOr (writeRequest host write) "account" (some account) &&
        absentOr (writeRequest host write) "type" (some type)))

structure ExactScope where
  type : String
  account : String

def exactScope (url : String) : Option ExactScope :=
  match host.parseUrl url with
  | none => none
  | some parsed =>
      match parsed.get "account", parsed.get "type" with
      | some account, some type =>
          if account != "" && type != "" && (parsed.getAll "account").length == 1 &&
              (parsed.getAll "type").length == 1 && parsed.keys.all readQueryFields.contains then
            some { type, account }
          else none
      | _, _ => none

def exactAbsence (traffic : Traffic) (url : String) (state : ExecutionState) : ExecutionState :=
  match exactScope host url with
  | none => state
  | some scope =>
      if traffic.evidenceRefs.isEmpty ||
          state.writes.any (forestalls host url scope.type scope.account) then
        state
      else addAbsence (absenceKey (resource host url) scope.type scope.account) state

def isEmptyRead (request : Request) (url : String) : Option Bool :=
  if request.methodText host = "GET" ∧ request.completeBody ∧ request.succeeded host ∧
      emptyList (request.body host) then
    completeList host (request.body host) url
  else some false

/-! An account-wide read before a creation. -/

def accountScope (parsed : Url) (type account : String) : Bool :=
  (parsed.getAll "account").length == 1 && parsed.get "account" == some account &&
    (parsed.getAll "type").length ≤ 1 && (!parsed.has "type" || parsed.get "type" == some type) &&
    parsed.keys.all readQueryFields.contains

/-- The latest read before the write in its account scope; `none` where `new URL` throws. -/
def scopedReadBefore (write : Write) (sequence : Int) (type account : String) :
    List ReadReceipt → Option (Option ReadReceipt)
  | [] => some none
  | read :: rest =>
      if resource host read.url ≠ resource host write.url ∨ sequence ≤ read.sequence ∨
          ¬whenStamped read.timestamp write.timestamp host.before then
        scopedReadBefore write sequence type account rest
      else
        match host.parseUrl read.url with
        | none => none
        | some parsed =>
            if accountScope parsed type account then some (some read)
            else scopedReadBefore write sequence type account rest

def precedesCreation (write : Write) (sequence : Int) (type account : String) (other : Write) :
    Bool :=
  other.key != write.key && other.method == .post && other.order < sequence &&
    resource host other.url == resource host write.url && mayHaveSucceeded host other &&
    absentOr (writeRequest host other) "account" (some account) &&
    absentOr (writeRequest host other) "type" (some type)

def provesTypeAbsent (type account : String) (read : ReadReceipt) : Bool :=
  read.complete && read.identitiesComplete && !read.evidenceRefs.isEmpty &&
    read.identities.all (fun identity => identity.accountAliases.contains account) &&
    !read.identities.any fun identity => identity.type == type

def inferCreationAbsence (write : Write) (state : ExecutionState) : Option ExecutionState :=
  let request := writeRequest host write
  match write.sequence, stringOf (request.get "account"), stringOf (request.get "type") with
  | some sequence, some account, some type =>
      if write.method ≠ .post ∨ state.requestOrderTruncated ∨ state.writeHistoryTruncated ∨
          state.writes.any (precedesCreation host write sequence type account) then
        some state
      else
        match scopedReadBefore host write sequence type account
            (sortDescending ReadReceipt.sequence state.readReceipts) with
        | none => none
        | some none => some state
        | some (some read) =>
            if provesTypeAbsent type account read then
              some (addAbsence (absenceKey (resource host write.url) type account) state)
            else some state
  | _, _, _ => some state

def writeReceipt (traffic : Traffic) (request : Request) (method : WriteMethod) (key url : String)
    (sequence : Int) (uiTypeLabel : Option String) : Write where
  key
  sequence := some sequence
  timestamp := stringOf request.timestamp
  method
  url
  status := numberOf request.status
  confirmed := request.completeBody
  request := (stringOf request.requestSummary).map fun text => slice text 4000
  response := (stringOf request.responseSummary).map fun text => slice text 4000
  uiTypeLabel
  evidenceRefs := traffic.evidenceRefs

/-- A repeated observation; one without a complete body does not undo a confirmed receipt. -/
def mergeWrite (previous receipt : Write) : Write :=
  if previous.confirmed && !receipt.confirmed then
    { previous with evidenceRefs := lastN 20 (uniq (previous.evidenceRefs ++ receipt.evidenceRefs)) }
  else
    { receipt with
      timestamp := receipt.timestamp <|> previous.timestamp
      request := receipt.request <|> previous.request
      response := receipt.response <|> previous.response
      uiTypeLabel := receipt.uiTypeLabel <|> previous.uiTypeLabel }

def receiptChanged (previous updated : Write) : Bool :=
  previous.request != updated.request || previous.response != updated.response ||
    previous.status != updated.status || previous.confirmed != updated.confirmed

structure Recorded where
  write : Write
  state : ExecutionState

def storeWrite (receipt : Write) (state : ExecutionState) : Recorded :=
  match state.writes.find? fun write => write.key == receipt.key with
  | some previous =>
      let updated := mergeWrite previous receipt
      let stored := { state with
        writes := replaceFirst (fun write => write.key == receipt.key) updated state.writes }
      { write := updated
        state :=
          if receiptChanged previous updated then invalidateUiConfirmations none stored
          else stored }
  | none =>
      { write := receipt
        state := invalidateUiConfirmations none { state with writes := state.writes ++ [receipt] } }

def boundWrites (state : ExecutionState) : ExecutionState :=
  if 200 < state.writes.length then
    { state with writeHistoryTruncated := true, writes := lastN 200 state.writes }
  else state

def enterVerifying (state : ExecutionState) : ExecutionState :=
  if state.phase = .cleanup then state
  else { state with phase := .verifying, step := submittedStep }

def recordWrite (receipt : Write) (state : ExecutionState) : Outcome ExecutionState Failure :=
  let recorded := storeWrite receipt state
  match inferCreationAbsence host recorded.write recorded.state with
  | none => .failed recorded.state .invalidUrl
  | some inferred => .done (enterVerifying (boundWrites inferred))

def withdrawAbsence (request : Request) (url : String) (state : ExecutionState) : ExecutionState :=
  if request.methodText host = "POST" ∧ request.completeBody then
    let submitted := object (host.parse request.requestSummary)
    let key := absenceKey (resource host url) (host.text (submitted.get "type"))
      (host.text (submitted.get "account"))
    { state with preflightAbsences := state.preflightAbsences.filter (· != key) }
  else state

def identityRow (row : Json) : Members :=
  let direct := object (some row)
  if (direct.get "id").isSome then ((recordsOf host (some row)).head?).getD direct else direct

def rowIdentity (row : Json) : Option Identity :=
  let candidate := identityRow host row
  let aliases := rowAliases host candidate
  match stringOf (candidate.get "type") with
  | none => none
  | some type =>
      if isIdentifier (candidate.get "id") && 0 < units type && units type ≤ 500 &&
          units (rowId host candidate) ≤ 500 &&
          (!aliases.isEmpty || (candidate.get "resourceName").isSome) then
        some { id := rowId host candidate, type, accountAliases := aliases }
      else none

def namedResourceOf (row : Members) : Option NamedResource :=
  (stringOf (row.get "resourceName")).map fun name => { id := rowId host row, name }

def recordStateOf (url : String) (row : Members) : Option (String × String) :=
  match row.get "config" with
  | none => none
  | some config =>
      if units (configText host config) ≤ 2000 then
        some (rowKey host row url, configText host config)
      else none

def readReceipt (traffic : Traffic) (request : Request) (key url : String) (sequence : Int)
    (complete : Bool) : ReadReceipt :=
  let body := request.body host
  let found := recordsOf host body
  let collection := listRows 9 body
  let identities := ((collection.getD []).take 100).filterMap (rowIdentity host)
  { key
    url
    sequence
    timestamp := stringOf request.timestamp
    empty := emptyList body
    complete
    recordKeys := found.map fun row => rowKey host row url
    namedResources := found.filterMap (namedResourceOf host)
    identitiesComplete :=
      match collection with
      | some rows => rows.length ≤ 100 && identities.length == rows.length
      | none => false
    identities
    recordStates := fromEntries (found.filterMap (recordStateOf host url))
    evidenceRefs := traffic.evidenceRefs }

def contradictsRead (read : ReadReceipt) (record : ExecutionRecord) : Bool :=
  match read.recordStates.lookup (record.key host), record.initialState with
  | some actual, some initial => record.recordRef.any (· != "") && !sameState host actual initial
  | _, _ => false

def sameRecordStates (left right : List (String × String)) : Bool :=
  left.length == right.length && left.all fun entry => right.lookup entry.1 == some entry.2

def invalidateContradicted (read : ReadReceipt) (state : ExecutionState) : ExecutionState :=
  let unchanged := state.readReceipts.any fun previous =>
    previous.key == read.key && sameRecordStates previous.recordStates read.recordStates
  if unchanged then state
  else
    (state.records.filter (contradictsRead host read)).foldl
      (fun state record => invalidateUiConfirmations record.recordRef state) state

def storeRead (read : ReadReceipt) (state : ExecutionState) : ExecutionState :=
  let checked := invalidateContradicted host read state
  { checked with
    readReceipts :=
      lastN 200 ((checked.readReceipts.filter fun old => old.key != read.key) ++ [read]) }

def recordRead (traffic : Traffic) (request : Request) (key url : String) (sequence : Int)
    (state : ExecutionState) : Outcome ExecutionState Failure :=
  if request.methodText host = "GET" ∧ !traffic.evidenceRefs.isEmpty ∧ 0 ≤ sequence then
    match completeList host (request.body host) url with
    | none => .failed state .invalidUrl
    | some complete =>
        .done (storeRead host (readReceipt host traffic request key url sequence complete) state)
  else .done state

def extendAliases (aliases : List String) (state : ExecutionState) : ExecutionState :=
  { state with
    accountAliases :=
      match state.account with
      | some account =>
          if account != "" && aliases.contains account then
            (uniq (state.accountAliases ++ aliases)).take 20
          else state.accountAliases
      | none => state.accountAliases
    accounts := state.accounts.map fun bindings => bindings.map fun binding =>
      if aliases.contains binding.account || binding.aliases.any aliases.contains then
        { binding with aliases := (uniq (binding.aliases ++ aliases)).take 20 }
      else binding }

def isAssigned (state : ExecutionState) (aliases : List String) (type : String) : Bool :=
  match state.accounts with
  | none => true
  | some bindings =>
      bindings.isEmpty || bindings.any fun binding =>
        (binding.account :: binding.aliases).any aliases.contains &&
          (binding.requiredTypes.isEmpty || binding.requiredTypes.contains type)

def rowBaseline (traffic : Traffic) (request : Request) (key url : String) (sequence : Int)
    (row : Members) : ExecutionRecord :=
  let aliases := rowAliases host row
  let state := (row.get "config").map (configText host)
  { id := rowId host row
    type := some (rowType host row)
    resourceUrl := some (resource host url)
    account := aliases.head?
    accountAliases := aliases
    ownership := .existing
    baselineObservation :=
      some { readKey := key, sequence, timestamp := stringOf request.timestamp }
    initialState := state
    currentState := state
    evidenceRefs := traffic.evidenceRefs }

def offersBaseline (request : Request) (sequence : Int) (row : Members) (state : ExecutionState) :
    Bool :=
  request.methodText host == "GET" && isAssigned state (rowAliases host row) (rowType host row) &&
    0 ≤ sequence

def observeBaseline (baseline : ExecutionRecord) (key : String) (state : ExecutionState) :
    ExecutionState :=
  if baselinePrecedesWrites host state baseline &&
      !state.observedRecords.any (fun record => record.key host == key) &&
      state.observedRecords.length < 100 &&
      units (baseline.initialState.getD "") ≤ 2000 then
    { state with
      observedRecords :=
        state.observedRecords ++ [{ baseline with recordRef := some (baseline.stableRef host) }] }
  else state

def rowPending (traffic : Traffic) (url : String) (row : Members) : PendingRecord :=
  { id := rowId host row
    type := some (rowType host row)
    resourceUrl := some (resource host url)
    accountAliases := rowAliases host row
    currentState := some (slice (configText host ((row.get "config").getD .null)) 2000)
    evidenceRefs := traffic.evidenceRefs }

def matchingResults (found : List Members) (type : String) (creation : Write) : List Members :=
  found.filter fun row =>
    stringOf (row.get "type") == some type &&
      (rowAliases host row).contains (host.text ((writeRequest host creation).get "account"))

def claimingCreation (found : List Members) (pending : PendingRecord) (state : ExecutionState) :
    Option Write :=
  (matchingCreation host state pending true).filter fun creation =>
    !pending.evidenceRefs.isEmpty &&
      ((responseRecordId host (host.parseText creation.response)).isSome ||
        (matchingResults host found (pending.type.getD "") creation).length == 1)

def storePending (pending : PendingRecord) (key : String) (state : ExecutionState) :
    ExecutionState :=
  if state.pendingRecords.any fun record => record.key host == key then
    { state with
      pendingRecords :=
        replaceFirst (fun record => record.key host == key) pending state.pendingRecords }
  else if state.pendingRecords.length < 50 then
    { state with pendingRecords := state.pendingRecords ++ [pending] }
  else state

def showCurrentState (key : String) (row : Members) (existing : ExecutionRecord)
    (state : ExecutionState) : ExecutionState :=
  match row.get "config" with
  | none => state
  | some config =>
      { state with
        records :=
          replaceFirst (fun record => record.key host == key)
            { existing with currentState := some (slice (configText host config) 2000) }
            state.records }

def observeRow (traffic : Traffic) (request : Request) (requestKey url : String) (sequence : Int)
    (found : List Members) (state : ExecutionState) (row : Members) : ExecutionState :=
  if (row.get "resourceName").isSome then state
  else
    let key := rowKey host row url
    let known := extendAliases (rowAliases host row) state
    match known.records.find? fun record => record.key host == key with
    | some existing => showCurrentState host key row existing known
    | none =>
        let based :=
          if offersBaseline host request sequence row known then
            observeBaseline host (rowBaseline host traffic request requestKey url sequence row) key
              known
          else known
        if based.existingRecordKeys.contains key then based
        else
          let pending := rowPending host traffic url row
          match claimingCreation host found pending based with
          | some _ => storePending host pending key based
          | none => addExistingKey key based

def observeWrite (traffic : Traffic) (label : Option Json → Option String) (request : Request)
    (key url : String) (sequence : Int) (state : ExecutionState) :
    Outcome ExecutionState Failure :=
  match writeMethodOf (request.methodText host) with
  | none => .done state
  | some method =>
      if isAuthUrl url || traffic.evidenceRefs.isEmpty then .done state
      else
        let submitted := object (host.parse request.requestSummary)
        let uiTypeLabel := if method = .post then label (submitted.get "account") else none
        recordWrite host
          (writeReceipt traffic request method key url sequence
            (uiTypeLabel.filter (· != ""))) state

def observeResponse (traffic : Traffic) (request : Request) (key url : String) (sequence : Int)
    (state : ExecutionState) : Outcome ExecutionState Failure :=
  if !request.completeBody || !request.succeeded host then
    .done (withdrawAbsence host request url state)
  else
    (recordRead host traffic request key url sequence state).andThen fun state =>
      let found := recordsOf host (request.body host)
      .done (found.foldl (observeRow host traffic request key url sequence found) state)

def observeRequest (traffic : Traffic) (label : Option Json → Option String) (request : Request)
    (state : ExecutionState) : Outcome ExecutionState Failure :=
  let url := request.urlText host
  if url = "" then .done state
  else
    let key := request.key host traffic
    let noted := noteRequest key state
    let sequence := indexOf noted.requestOrder key
    match isEmptyRead host request url with
    | none => .failed noted .invalidUrl
    | some empty =>
        let proven := if empty then exactAbsence host traffic url noted else noted
        (observeWrite host traffic label request key url sequence proven).andThen
          (observeResponse host traffic request key url sequence)

end Host

end Devproof
