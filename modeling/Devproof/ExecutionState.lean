import Devproof.Lib.Codec
import Devproof.Host

/-!
The checkpointed execution state and its schema (`execution-state.ts`,
`test-accounts.ts`, `business-test-account.ts`).
-/

namespace Devproof

inductive Ownership where
  | createdThisRun
  | existing
  | unconfirmed
  deriving Repr, DecidableEq

inductive CleanupStatus where
  | pending
  | completed
  | blocked
  | retained
  deriving Repr, DecidableEq

inductive Resolution where
  | deleted
  | restored
  deriving Repr, DecidableEq

inductive Phase where
  | preflight
  | executing
  | verifying
  | cleanup
  deriving Repr, DecidableEq

inductive WriteMethod where
  | post
  | put
  | patch
  | delete
  deriving Repr, DecidableEq

inductive ConfirmationSource where
  | network
  | ui
  deriving Repr, DecidableEq

inductive AccountUsage where
  | createOrModify
  | readExisting
  deriving Repr, DecidableEq

structure TestAccountBinding where
  slotId : String
  label : Option String
  account : String
  aliases : List String
  usage : AccountUsage
  requiredTypes : List String
  deriving Repr, DecidableEq

structure BaselineObservation where
  readKey : String
  sequence : Int
  timestamp : Option String
  deriving Repr, DecidableEq

structure UiBaseline where
  observationId : String
  pageIdentity : String
  capturedAt : String
  values : List String
  evidenceRefs : List String
  deriving Repr, DecidableEq

structure Cleanup where
  instruction : String
  status : CleanupStatus
  resolution : Option Resolution := none
  retainedAtWriteKey : Option String := none
  note : Option String := none
  deriving Repr, DecidableEq

structure ExecutionRecord where
  recordRef : Option String := none
  id : String
  type : Option String := none
  displayType : Option String := none
  resourceUrl : Option String := none
  resourceName : Option String := none
  creationWriteKey : Option String := none
  account : Option String := none
  accountAliases : List String := []
  ownership : Ownership
  initialState : Option String := none
  currentState : Option String := none
  baselineObservation : Option BaselineObservation := none
  uiBaseline : Option UiBaseline := none
  evidenceRefs : List String
  cleanup : Option Cleanup := none
  deriving Repr, DecidableEq

structure PendingRecord where
  id : String
  type : Option String
  resourceUrl : Option String
  accountAliases : List String
  currentState : Option String
  evidenceRefs : List String
  deriving Repr, DecidableEq

structure NamedResource where
  id : String
  name : String
  deriving Repr, DecidableEq

structure Identity where
  id : String
  type : String
  accountAliases : List String
  deriving Repr, DecidableEq

structure ReadReceipt where
  key : String
  url : String
  sequence : Int
  timestamp : Option String
  empty : Bool
  complete : Bool
  recordKeys : List String
  namedResources : List NamedResource
  identitiesComplete : Bool
  identities : List Identity
  recordStates : List (String × String)
  evidenceRefs : List String
  deriving Repr, DecidableEq

structure CleanupConfirmation where
  recordRef : String
  writeKey : String
  readKey : String
  source : Option ConfirmationSource
  evidenceRefs : List String
  deriving Repr, DecidableEq

structure Write where
  key : String
  sequence : Option Int
  timestamp : Option String
  method : WriteMethod
  url : String
  status : Option Rat
  confirmed : Bool
  request : Option String
  response : Option String
  uiTypeLabel : Option String
  evidenceRefs : List String
  deriving Repr, DecidableEq

structure CleanupReview where
  note : String
  writeKeys : List String
  evidenceRefs : List String
  deriving Repr, DecidableEq

structure ExecutionState where
  requestOrder : List String := []
  requestOrderTruncated : Bool := false
  readReceipts : List ReadReceipt := []
  cleanupConfirmations : List CleanupConfirmation := []
  accounts : Option (List TestAccountBinding) := none
  accountRevision : Int := 0
  phase : Phase := .preflight
  step : String := "核对前置条件"
  account : Option String := none
  preflightAbsences : List String := []
  existingRecordKeys : List String := []
  accountAliases : List String := []
  records : List ExecutionRecord := []
  observedRecords : List ExecutionRecord := []
  pendingRecords : List PendingRecord := []
  writeHistoryTruncated : Bool := false
  cleanupReview : Option CleanupReview := none
  writes : List Write := []
  deriving Repr, DecidableEq

theorem trim_toList (text : String) :
    (trim text).toList = (text.toList.dropWhile isSpace).rdropWhile isSpace := by
  simp [trim]

theorem dropWhile_trim (text : String) :
    (trim text).toList.dropWhile isSpace = (trim text).toList := by
  rw [trim_toList]
  obtain ⟨tail, split⟩ := List.rdropWhile_prefix isSpace (text.toList.dropWhile isSpace)
  cases kept : (text.toList.dropWhile isSpace).rdropWhile isSpace with
  | nil => rfl
  | cons first rest =>
      have head : (text.toList.dropWhile isSpace).head? = some first := by
        rw [← split, kept]
        rfl
      have solid := List.head?_dropWhile_not isSpace text.toList
      rw [head] at solid
      simp only at solid
      simp [solid]

theorem trim_trim (text : String) : trim (trim text) = trim text := by
  have same : (trim (trim text)).toList = (trim text).toList := by
    rw [trim_toList (trim text), dropWhile_trim, trim_toList text, List.rdropWhile_idempotent]
  exact String.toList_injective same

def trimmedText (limit : Nat) (text : String) : Option String :=
  if 1 ≤ units (trim text) ∧ units (trim text) ≤ limit then some (trim text) else none

theorem trimmedText_stable (limit : Nat) (text result : String)
    (accepted : trimmedText limit text = some result) : trimmedText limit result = some result := by
  simp only [trimmedText] at accepted ⊢
  split at accepted
  · rename_i bounds
    simp only [Option.some.injEq] at accepted
    subst accepted
    simp [trim_trim, bounds]
  · simp at accepted

def trimmed (limit : Nat) : Codec String :=
  Codec.string (trimmedText limit) (trimmedText_stable limit)

def text : Codec String := trimmed 500

def bounded (limit : Nat) : Codec String :=
  Codec.checked fun value => units value ≤ limit

def anyString : Codec String :=
  Codec.checked fun _ => true

section Account

variable (host : Host)

def accountPattern (value : String) : Bool :=
  match value.toList with
  | [] => false
  | first :: rest =>
      host.isLetterOrNumber first &&
        rest.all fun char => host.isLetterOrNumber char || "._@+:-".toList.contains char

def isInstruction (value : String) : Bool :=
  ["删除", "重新创建", "允许你", "先把", "再创建", "帮我", "重试"].any fun phrase => includes value phrase

def businessTestAccount (value : String) : Option String :=
  (trimmedText 200 value).filter fun account => accountPattern host account && !isInstruction account

theorem businessTestAccount_stable (value result : String)
    (accepted : businessTestAccount host value = some result) :
    businessTestAccount host result = some result := by
  simp only [businessTestAccount, Option.filter_eq_some_iff] at accepted ⊢
  exact ⟨trimmedText_stable 200 value result accepted.1, accepted.2⟩

def businessTestAccountSchema : Codec String :=
  Codec.string (businessTestAccount host) (businessTestAccount_stable host)

end Account

def ownershipSchema : Codec Ownership :=
  Codec.enumeration
    (fun
      | .createdThisRun => "CREATED_THIS_RUN"
      | .existing => "EXISTING"
      | .unconfirmed => "UNCONFIRMED")
    [.createdThisRun, .existing, .unconfirmed] (by rintro (_ | _ | _) <;> rfl)

def cleanupStatusSchema : Codec CleanupStatus :=
  Codec.enumeration
    (fun
      | .pending => "PENDING"
      | .completed => "COMPLETED"
      | .blocked => "BLOCKED"
      | .retained => "RETAINED")
    [.pending, .completed, .blocked, .retained] (by rintro (_ | _ | _ | _) <;> rfl)

def resolutionSchema : Codec Resolution :=
  Codec.enumeration
    (fun
      | .deleted => "DELETED"
      | .restored => "RESTORED")
    [.deleted, .restored] (by rintro (_ | _) <;> rfl)

def phaseSchema : Codec Phase :=
  Codec.enumeration
    (fun
      | .preflight => "PREFLIGHT"
      | .executing => "EXECUTING"
      | .verifying => "VERIFYING"
      | .cleanup => "CLEANUP")
    [.preflight, .executing, .verifying, .cleanup] (by rintro (_ | _ | _ | _) <;> rfl)

def writeMethodSchema : Codec WriteMethod :=
  Codec.enumeration
    (fun
      | .post => "POST"
      | .put => "PUT"
      | .patch => "PATCH"
      | .delete => "DELETE")
    [.post, .put, .patch, .delete] (by rintro (_ | _ | _ | _) <;> rfl)

def confirmationSourceSchema : Codec ConfirmationSource :=
  Codec.enumeration
    (fun
      | .network => "NETWORK"
      | .ui => "UI")
    [.network, .ui] (by rintro (_ | _) <;> rfl)

def accountUsageSchema : Codec AccountUsage :=
  Codec.enumeration
    (fun
      | .createOrModify => "CREATE_OR_MODIFY"
      | .readExisting => "READ_EXISTING")
    [.createOrModify, .readExisting] (by rintro (_ | _) <;> rfl)

def literal (accept : Json → Bool) (value : Json) (fits : accept value = true) : Codec Unit where
  read json := if accept json then some () else none
  write _ := value
  parse := some
  read_write _ := by simp [fits]
  parse_read _ _ _ := rfl

def isOne : Json → Bool
  | .num number => number == 1
  | _ => false

def isBlocked : Json → Bool
  | .str status => status == "BLOCKED"
  | _ => false

def stringRecord (keyLimit valueLimit : Nat) : Codec (List (String × String)) where
  read
    | .obj members => members.mapM fun entry =>
        if units entry.1 ≤ keyLimit then ((bounded valueLimit).read entry.2).map (entry.1, ·) else none
    | _ => none
  write entries := .obj (entries.map fun entry => (entry.1, .str entry.2))
  parse entries := entries.mapM fun entry =>
    if units entry.1 ≤ keyLimit ∧ units entry.2 ≤ valueLimit then some entry else none
  read_write entries := by
    induction entries with
    | nil => rfl
    | cons entry rest ih =>
        simp only [List.map_cons, List.mapM_cons] at ih ⊢
        rw [ih]
        congr 1
        by_cases short : units entry.1 ≤ keyLimit <;> by_cases fits : units entry.2 ≤ valueLimit <;>
          simp [short, fits, bounded, Codec.checked, Codec.string, stringOf]
  parse_read json entries found := by
    cases json with
    | obj members =>
        apply mapM_of_forall
        intro entry member
        obtain ⟨source, -, read⟩ := forall₂_source (mapM_forall₂ found) member
        split at read
        · rename_i short
          obtain ⟨value, accepted, same⟩ := Option.map_eq_some_iff.mp read
          have fits := (bounded valueLimit).parse_read _ _ accepted
          subst same
          simpa [bounded, Codec.checked, Codec.string, short] using fits
        · simp at read
    | null | bool | num | str | arr => simp at found

def nonnegative : Codec Int :=
  Codec.integer fun value => 0 ≤ value

def anyInteger : Codec Int :=
  Codec.integer fun _ => true

def uuidSchema (host : Host) : Codec String := Codec.checked host.isUuid

def datetimeSchema (host : Host) : Codec String := Codec.checked host.isDatetime

def testAccountBindingSchema (host : Host) : Codec TestAccountBinding :=
  Codec.object
    (.cons "slotId"
        (.required (Codec.checked fun value => 1 ≤ units value && units value ≤ 100)) <|
      .cons "label" (.optional (bounded 200)) <|
      .cons "account" (.required (businessTestAccountSchema host)) <|
      .cons "aliases" (.withDefault (Codec.list (businessTestAccountSchema host) 0 20) [] rfl) <|
      .cons "usage" (.required accountUsageSchema) <|
      .cons "requiredTypes" (.withDefault (Codec.list (trimmed 1000) 0 20) [] rfl) <|
      .nil)
    (fun (slotId, label, account, aliases, usage, requiredTypes, ()) =>
      { slotId, label, account, aliases, usage, requiredTypes })
    (fun value =>
      (value.slotId, value.label, value.account, value.aliases, value.usage, value.requiredTypes, ()))
    fun _ => rfl

def testAccountBindingsSchema (host : Host) : Codec (List TestAccountBinding) :=
  Codec.list (testAccountBindingSchema host) 0 50

def baselineObservationSchema : Codec BaselineObservation :=
  Codec.object
    (.cons "readKey" (.required text) <|
      .cons "sequence" (.required nonnegative) <|
      .cons "timestamp" (.optional anyString) <|
      .nil)
    (fun (readKey, sequence, timestamp, ()) => { readKey, sequence, timestamp })
    (fun value => (value.readKey, value.sequence, value.timestamp, ()))
    fun _ => rfl

def uiBaselineSchema (host : Host) : Codec UiBaseline :=
  Codec.object
    (.cons "observationId" (.required (uuidSchema host)) <|
      .cons "pageIdentity" (.required (bounded 2000)) <|
      .cons "capturedAt" (.required (datetimeSchema host)) <|
      .cons "values" (.required (Codec.list (bounded 500) 1 100)) <|
      .cons "evidenceRefs" (.required (Codec.list text 1 20)) <|
      .nil)
    (fun (observationId, pageIdentity, capturedAt, values, evidenceRefs, ()) =>
      { observationId, pageIdentity, capturedAt, values, evidenceRefs })
    (fun value =>
      (value.observationId, value.pageIdentity, value.capturedAt, value.values,
        value.evidenceRefs, ()))
    fun _ => rfl

def cleanupSchema : Codec Cleanup :=
  Codec.object
    (.cons "instruction" (.required text) <|
      .cons "status" (.required cleanupStatusSchema) <|
      .cons "resolution" (.optional resolutionSchema) <|
      .cons "retainedAtWriteKey" (.optional text) <|
      .cons "note" (.optional (bounded 1000)) <|
      .nil)
    (fun (instruction, status, resolution, retainedAtWriteKey, note, ()) =>
      { instruction, status, resolution, retainedAtWriteKey, note })
    (fun value =>
      (value.instruction, value.status, value.resolution, value.retainedAtWriteKey, value.note, ()))
    fun _ => rfl

def executionRecordSchema (host : Host) : Codec ExecutionRecord :=
  Codec.object
    (.cons "recordRef" (.optional text) <|
      .cons "id" (.required text) <|
      .cons "type" (.optional text) <|
      .cons "displayType" (.optional text) <|
      .cons "resourceUrl" (.optional (bounded 2000)) <|
      .cons "resourceName" (.optional text) <|
      .cons "creationWriteKey" (.optional text) <|
      .cons "account" (.optional text) <|
      .cons "accountAliases" (.withDefault (Codec.list text 0 20) [] rfl) <|
      .cons "ownership" (.required ownershipSchema) <|
      .cons "initialState" (.optional (bounded 2000)) <|
      .cons "currentState" (.optional (bounded 2000)) <|
      .cons "baselineObservation" (.optional baselineObservationSchema) <|
      .cons "uiBaseline" (.optional (uiBaselineSchema host)) <|
      .cons "evidenceRefs" (.required (Codec.list text 1 20)) <|
      .cons "cleanup" (.optional cleanupSchema) <|
      .nil)
    (fun (recordRef, id, type, displayType, resourceUrl, resourceName, creationWriteKey, account,
        accountAliases, ownership, initialState, currentState, baselineObservation, uiBaseline,
        evidenceRefs, cleanup, ()) =>
      { recordRef, id, type, displayType, resourceUrl, resourceName, creationWriteKey, account,
        accountAliases, ownership, initialState, currentState, baselineObservation, uiBaseline,
        evidenceRefs, cleanup })
    (fun value =>
      (value.recordRef, value.id, value.type, value.displayType, value.resourceUrl,
        value.resourceName, value.creationWriteKey, value.account, value.accountAliases,
        value.ownership, value.initialState, value.currentState, value.baselineObservation,
        value.uiBaseline, value.evidenceRefs, value.cleanup, ()))
    fun _ => rfl

def pendingRecordSchema : Codec PendingRecord :=
  Codec.object
    (.cons "id" (.required text) <|
      .cons "type" (.optional text) <|
      .cons "resourceUrl" (.optional (bounded 2000)) <|
      .cons "accountAliases" (.withDefault (Codec.list text 0 20) [] rfl) <|
      .cons "currentState" (.optional (bounded 2000)) <|
      .cons "evidenceRefs" (.required (Codec.list text 1 20)) <|
      .nil)
    (fun (id, type, resourceUrl, accountAliases, currentState, evidenceRefs, ()) =>
      { id, type, resourceUrl, accountAliases, currentState, evidenceRefs })
    (fun value =>
      (value.id, value.type, value.resourceUrl, value.accountAliases, value.currentState,
        value.evidenceRefs, ()))
    fun _ => rfl

def namedResourceSchema : Codec NamedResource :=
  Codec.object
    (.cons "id" (.required text) <|
      .cons "name" (.required text) <|
      .nil)
    (fun (id, name, ()) => { id, name })
    (fun value => (value.id, value.name, ()))
    fun _ => rfl

def identitySchema : Codec Identity :=
  Codec.object
    (.cons "id" (.required text) <|
      .cons "type" (.required text) <|
      .cons "accountAliases" (.required (Codec.list text 0 20)) <|
      .nil)
    (fun (id, type, accountAliases, ()) => { id, type, accountAliases })
    (fun value => (value.id, value.type, value.accountAliases, ()))
    fun _ => rfl

def readReceiptSchema : Codec ReadReceipt :=
  Codec.object
    (.cons "key" (.required text) <|
      .cons "url" (.required (bounded 2000)) <|
      .cons "sequence" (.required anyInteger) <|
      .cons "timestamp" (.optional anyString) <|
      .cons "empty" (.required Codec.boolean) <|
      .cons "complete" (.required Codec.boolean) <|
      .cons "recordKeys" (.required (Codec.list (bounded 3000) 0 100)) <|
      .cons "namedResources" (.withDefault (Codec.list namedResourceSchema 0 100) [] rfl) <|
      .cons "identitiesComplete" (.withDefault Codec.boolean false rfl) <|
      .cons "identities" (.withDefault (Codec.list identitySchema 0 100) [] rfl) <|
      .cons "recordStates" (.withDefault (stringRecord 3000 2000) [] rfl) <|
      .cons "evidenceRefs" (.required (Codec.list text 0 20)) <|
      .nil)
    (fun (key, url, sequence, timestamp, empty, complete, recordKeys, namedResources,
        identitiesComplete, identities, recordStates, evidenceRefs, ()) =>
      { key, url, sequence, timestamp, empty, complete, recordKeys, namedResources,
        identitiesComplete, identities, recordStates, evidenceRefs })
    (fun value =>
      (value.key, value.url, value.sequence, value.timestamp, value.empty, value.complete,
        value.recordKeys, value.namedResources, value.identitiesComplete, value.identities,
        value.recordStates, value.evidenceRefs, ()))
    fun _ => rfl

def cleanupConfirmationSchema : Codec CleanupConfirmation :=
  Codec.object
    (.cons "recordRef" (.required text) <|
      .cons "writeKey" (.required text) <|
      .cons "readKey" (.required text) <|
      .cons "source" (.optional confirmationSourceSchema) <|
      .cons "evidenceRefs" (.required (Codec.list text 0 20)) <|
      .nil)
    (fun (recordRef, writeKey, readKey, source, evidenceRefs, ()) =>
      { recordRef, writeKey, readKey, source, evidenceRefs })
    (fun value =>
      (value.recordRef, value.writeKey, value.readKey, value.source, value.evidenceRefs, ()))
    fun _ => rfl

theorem integralNumber_not_null (number : Rat) : Codec.integralNumber.write number ≠ .null :=
  nofun

def writeSchema : Codec Write :=
  Codec.object
    (.cons "key" (.required text) <|
      .cons "sequence" (.optional anyInteger) <|
      .cons "timestamp" (.optional anyString) <|
      .cons "method" (.required writeMethodSchema) <|
      .cons "url" (.required (bounded 2000)) <|
      .cons "status" (.required (Codec.nullable Codec.integralNumber integralNumber_not_null)) <|
      .cons "confirmed" (.withDefault Codec.boolean false rfl) <|
      .cons "request" (.optional (bounded 4000)) <|
      .cons "response" (.optional (bounded 4000)) <|
      .cons "uiTypeLabel" (.optional text) <|
      .cons "evidenceRefs" (.required (Codec.list text 0 20)) <|
      .nil)
    (fun (key, sequence, timestamp, method, url, status, confirmed, request, response, uiTypeLabel,
        evidenceRefs, ()) =>
      { key, sequence, timestamp, method, url, status, confirmed, request, response, uiTypeLabel,
        evidenceRefs })
    (fun value =>
      (value.key, value.sequence, value.timestamp, value.method, value.url, value.status,
        value.confirmed, value.request, value.response, value.uiTypeLabel, value.evidenceRefs, ()))
    fun _ => rfl

def cleanupReviewSchema : Codec CleanupReview :=
  Codec.object
    (.cons "status" (.required (literal isBlocked (.str "BLOCKED") rfl)) <|
      .cons "note" (.required (trimmed 1000)) <|
      .cons "writeKeys" (.required (Codec.list text 1 200)) <|
      .cons "evidenceRefs" (.required (Codec.list text 1 20)) <|
      .nil)
    (fun ((), note, writeKeys, evidenceRefs, ()) => { note, writeKeys, evidenceRefs })
    (fun value => ((), value.note, value.writeKeys, value.evidenceRefs, ()))
    fun _ => rfl

def executionStateSchema (host : Host) : Codec ExecutionState :=
  Codec.object
    (.cons "requestOrder" (.withDefault (Codec.list text 0 2000) [] rfl) <|
      .cons "requestOrderTruncated" (.withDefault Codec.boolean false rfl) <|
      .cons "readReceipts" (.withDefault (Codec.list readReceiptSchema 0 200) [] rfl) <|
      .cons "cleanupConfirmations"
        (.withDefault (Codec.list cleanupConfirmationSchema 0 50) [] rfl) <|
      .cons "accounts" (.optional (testAccountBindingsSchema host)) <|
      .cons "accountRevision" (.withDefault nonnegative 0 rfl) <|
      .cons "version" (.withDefault (literal isOne (.num 1) rfl) () rfl) <|
      .cons "phase" (.withDefault phaseSchema .preflight rfl) <|
      .cons "step" (.withDefault (bounded 1000) "核对前置条件" rfl) <|
      .cons "account" (.optional (businessTestAccountSchema host)) <|
      .cons "preflightAbsences" (.withDefault (Codec.list (bounded 3000) 0 100) [] rfl) <|
      .cons "existingRecordKeys" (.withDefault (Codec.list (bounded 3000) 0 200) [] rfl) <|
      .cons "accountAliases"
        (.withDefault (Codec.list (businessTestAccountSchema host) 0 20) [] rfl) <|
      .cons "records" (.withDefault (Codec.list (executionRecordSchema host) 0 50) [] rfl) <|
      .cons "observedRecords"
        (.withDefault (Codec.list (executionRecordSchema host) 0 100) [] rfl) <|
      .cons "pendingRecords" (.withDefault (Codec.list pendingRecordSchema 0 50) [] rfl) <|
      .cons "writeHistoryTruncated" (.withDefault Codec.boolean false rfl) <|
      .cons "cleanupReview" (.optional cleanupReviewSchema) <|
      .cons "writes" (.withDefault (Codec.list writeSchema 0 200) [] rfl) <|
      .nil)
    (fun (requestOrder, requestOrderTruncated, readReceipts, cleanupConfirmations, accounts,
        accountRevision, (), phase, step, account, preflightAbsences, existingRecordKeys,
        accountAliases, records, observedRecords, pendingRecords, writeHistoryTruncated,
        cleanupReview, writes, ()) =>
      { requestOrder, requestOrderTruncated, readReceipts, cleanupConfirmations, accounts,
        accountRevision, phase, step, account, preflightAbsences, existingRecordKeys,
        accountAliases, records, observedRecords, pendingRecords, writeHistoryTruncated,
        cleanupReview, writes })
    (fun value =>
      (value.requestOrder, value.requestOrderTruncated, value.readReceipts,
        value.cleanupConfirmations, value.accounts, value.accountRevision, (), value.phase,
        value.step, value.account, value.preflightAbsences, value.existingRecordKeys,
        value.accountAliases, value.records, value.observedRecords, value.pendingRecords,
        value.writeHistoryTruncated, value.cleanupReview, value.writes, ()))
    fun _ => rfl

def readExecutionState (host : Host) (policy : Members) : ExecutionState :=
  match (policy.get "executionState").bind (executionStateSchema host).read with
  | some state => state
  | none => {}

end Devproof
