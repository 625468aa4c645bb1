import Devproof.Journal.Ledger
import Devproof.StructuredObservation

/-!
What the journal reads off the last complete page capture: the type label of a
submitted form, baselines and restorations of known records, and a creation
whose list body never arrived.
-/

namespace Devproof

structure Journal where
  state : ExecutionState := {}
  lastUiObservation : Option StructuredObservation := none
  lastUiEvidenceRefs : List String := []
  pendingUiRead : Bool := false
  deriving Repr, DecidableEq

def nodeById (nodes : List ObservedNode) (id : Option String) : Option ObservedNode :=
  nodes.reverse.find? fun node => node.nodeId == id.getD ""

/-- Climb parent links from `node` until `stop` decides.  `seen` ends a cyclic chain, so
one more step than there are nodes is always enough. -/
def climb {α : Type} (nodes : List ObservedNode) (stop : ObservedNode → Option α) :
    Nat → List String → ObservedNode → Option α
  | 0, _, _ => none
  | fuel + 1, seen, node =>
      if seen.contains node.nodeId then none
      else
        match stop node with
        | some found => some found
        | none =>
            match nodeById nodes node.parentId with
            | some parent => climb nodes stop fuel (node.nodeId :: seen) parent
            | none => none

def isButton (node : ObservedNode) : Bool :=
  node.tag == "button" || node.role == some "button"

def isRow (node : ObservedNode) : Bool :=
  node.tag == "tr" || node.role == some "row"

def hasTruncation (node : ObservedNode) : Bool :=
  !(node.truncatedProperties.getD []).isEmpty

/-! Baselines and restorations read from table rows. -/

def rowStop (row node parent : ObservedNode) : Option Bool :=
  if parent.nodeId = row.nodeId then some true
  else if isButton parent && node.checked.isNone then some false
  else none

def belongsToRow (nodes : List ObservedNode) (row node : ObservedNode) : Bool :=
  climb nodes (rowStop row node) (nodes.length + 1) [] node == some true

def nodeValue (node : ObservedNode) : List String :=
  match node.checked, node.value with
  | some checked, _ => ["checked:" ++ if checked then "true" else "false"]
  | none, some value => ["value:" ++ value]
  | none, none =>
      match node.text with
      | some text => if trim text = "" then [] else [trim text]
      | none => []

def rowValues (nodes : List ObservedNode) (row : ObservedNode) : List String :=
  nodes.flatMap fun node =>
    if !node.visible || hasTruncation node then []
    else if belongsToRow nodes row node then nodeValue node
    else []

def observedRows (observation : StructuredObservation) : List (List String) :=
  ((observation.nodes.filter fun node => node.visible && isRow node).filter fun row =>
    observation.consistency == .verified ||
      (observation.verifiedScopeNodeIds.getD []).contains row.nodeId).map
    (rowValues observation.nodes)

def recordAliases (record : ExecutionRecord) : List String :=
  (record.account.toList ++ record.accountAliases).filter (· != "")

def stateValues (record : ExecutionRecord) (values : List String) : List String :=
  values.filter fun value => value != record.id && !(recordAliases record).contains value

/-- `/^(checked:(true|false)|启用|禁用|开启|关闭|enabled|disabled|on|off)$/iu`. -/
def isBooleanState (value : String) : Bool :=
  ["checked:true", "checked:false", "启用", "禁用", "开启", "关闭", "enabled", "disabled", "on",
    "off"].any fun option => folded value == option.toList

inductive KnownSlot where
  | observed (index : Nat)
  | registered (index : Nat)
  deriving Repr, DecidableEq

def knownSlots (state : ExecutionState) : List KnownSlot :=
  (List.range state.observedRecords.length).map .observed ++
    (List.range state.records.length).map .registered

def knownRecord (state : ExecutionState) : KnownSlot → Option ExecutionRecord
  | .observed index => state.observedRecords[index]?
  | .registered index => state.records[index]?

def setKnown (state : ExecutionState) (record : ExecutionRecord) : KnownSlot → ExecutionState
  | .observed index => { state with observedRecords := state.observedRecords.set index record }
  | .registered index => { state with records := state.records.set index record }

section Host

variable (host : Host)

def isAmbiguous (known : List ExecutionRecord) (record : ExecutionRecord) : Bool :=
  known.any fun other =>
    other.recordRef != record.recordRef && other.id == record.id &&
      other.resourceUrl != record.resourceUrl &&
      (other.account.toList ++ other.accountAliases).any fun shared =>
        shared != "" && (recordAliases record).contains shared

def pageContradicts (observation : StructuredObservation) (candidates : List (List String))
    (record : ExecutionRecord) : Bool :=
  match record.uiBaseline with
  | none => false
  | some baseline =>
      baseline.pageIdentity == observation.pageIdentity &&
        candidates.any (fun values => values.contains record.id) &&
        !candidates.any fun values => stateValues record values == baseline.values

def uiBaselineOf (observation : StructuredObservation) (evidenceRefs : List String)
    (candidates : List (List String)) (record : ExecutionRecord) : Option UiBaseline :=
  match candidates.filter fun values => values.contains record.id with
  | [values] =>
      let states := stateValues record values
      if (states.filter isBooleanState).length = 1 ∧ states.length ≤ 100 ∧
          states.all fun value => units value ≤ 500 then
        some
          { observationId := observation.captureId
            pageIdentity := observation.pageIdentity
            capturedAt := observation.capturedUntil
            values := states
            evidenceRefs }
      else none
  | _ => none

def lastMutation (state : ExecutionState) (record : ExecutionRecord) : Option Write :=
  (mutationsOf host state record).getLast?

def sameState (actual expected : String) : Bool :=
  (host.parsedText actual).deepEqual (host.parsedText expected)

def mutationConflicts (mutation : Write) (record : ExecutionRecord) : Bool :=
  match record.initialState, (writeRequest host mutation).get "config" with
  | some initial, some config => !(host.parsedOr config).deepEqual (host.parsedText initial)
  | _, _ => false

def latestListing (state : ExecutionState) (record : ExecutionRecord) : Option ReadReceipt :=
  (sortDescending ReadReceipt.sequence
    (state.readReceipts.filter fun read => read.recordKeys.contains (record.key host))).head?

def listingConflicts (state : ExecutionState) (mutation : Option Write)
    (record : ExecutionRecord) : Bool :=
  match latestListing host state record, record.initialState with
  | some read, some initial =>
      match read.recordStates.lookup (record.key host) with
      | some actual =>
          (match mutation with
            | none => true
            | some mutation => mutation.order < read.sequence) && !sameState host actual initial
      | none => false
  | _, _ => false

/-- The page capture that confirms a restoration: a fresh read of the baseline's page,
later than the baseline, in which exactly one row shows the baseline's state. -/
def pageRestores (observation : StructuredObservation) (freshRead : Bool)
    (candidates : List (List String)) (record : ExecutionRecord) (baseline : UiBaseline) : Bool :=
  freshRead && record.cleanup.isSome && baseline.pageIdentity == observation.pageIdentity &&
    !host.notBefore baseline.capturedAt observation.capturedFrom &&
    observation.captureId != baseline.observationId &&
    (candidates.filter fun values =>
      values.contains record.id && stateValues record values == baseline.values).length == 1 &&
    record.ownership == .existing

def mutationAllows (state : ExecutionState) (record : ExecutionRecord) : Bool :=
  (match lastMutation host state record with
    | none => true
    | some mutation =>
        (mutation.method == .put || mutation.method == .patch) &&
          !mutationConflicts host mutation record) &&
    !listingConflicts host state (lastMutation host state record) record

def restoredNote : String := "已刷新页面并确认同一记录恢复到修改前状态。"

def confirmOnPage (observation : StructuredObservation) (evidenceRefs : List String)
    (slot : KnownSlot) (record : ExecutionRecord) (ref : String) (baseline : UiBaseline)
    (state : ExecutionState) : ExecutionState :=
  let writeKey :=
    match lastMutation host state record with
    | some mutation => mutation.key
    | none => "ui:" ++ baseline.observationId
  let confirmed := { state with
    cleanupConfirmations :=
      (state.cleanupConfirmations.filter fun proof => proof.recordRef != ref) ++
        [{ recordRef := ref, writeKey, readKey := "ui:" ++ observation.captureId,
           source := some .ui, evidenceRefs }] }
  setKnown confirmed
    { record with
      cleanup := record.cleanup.map fun cleanup =>
        { cleanup with
          status := .completed, resolution := some .restored, note := some restoredNote }
      evidenceRefs := lastN 20 (uniq (record.evidenceRefs ++ evidenceRefs)) }
    slot

def readBaseline (observation : StructuredObservation) (evidenceRefs : List String)
    (candidates : List (List String)) (slot : KnownSlot) (record : ExecutionRecord)
    (state : ExecutionState) : ExecutionState :=
  if record.uiBaseline.isNone && !state.writes.any (fun write => writeMatchesRecord host write record) then
    match uiBaselineOf observation evidenceRefs candidates record with
    | some baseline => setKnown state { record with uiBaseline := some baseline } slot
    | none => state
  else state

def readRestoration (observation : StructuredObservation) (evidenceRefs : List String)
    (freshRead : Bool) (candidates : List (List String)) (slot : KnownSlot)
    (record : ExecutionRecord) (ref : String) (state : ExecutionState) : ExecutionState :=
  match record.uiBaseline with
  | none => state
  | some baseline =>
      if pageRestores host observation freshRead candidates record baseline &&
          mutationAllows host state record then
        confirmOnPage host observation evidenceRefs slot record ref baseline state
      else state

def observeKnown (observation : StructuredObservation) (evidenceRefs : List String)
    (freshRead : Bool) (known : List ExecutionRecord) (state : ExecutionState) (slot : KnownSlot) :
    ExecutionState :=
  match knownRecord state slot with
  | none => state
  | some record =>
      match record.recordRef with
      | none => state
      | some ref =>
          if (recordAliases record).isEmpty || ref == "" || isAmbiguous known record then state
          else
            let candidates := (observedRows observation).filter fun values =>
              values.any fun value => (recordAliases record).contains value
            let checked :=
              if pageContradicts observation candidates record then
                invalidateUiConfirmations (some ref) state
              else state
            match knownRecord checked slot with
            | none => checked
            | some record =>
                let based := readBaseline host observation evidenceRefs candidates slot record checked
                match knownRecord based slot with
                | none => based
                | some record =>
                    readRestoration host observation evidenceRefs freshRead candidates slot record
                      ref based

def observeUi (observation : StructuredObservation) (evidenceRefs : List String)
    (freshRead : Bool) (state : ExecutionState) : ExecutionState :=
  if evidenceRefs.isEmpty || !observation.coverage.completeWithinScope ||
      observation.coverage.truncated then
    state
  else
    (knownSlots state).foldl
      (observeKnown host observation evidenceRefs freshRead (state.observedRecords ++ state.records))
      state

def reaches (nodes : List ObservedNode) (node : ObservedNode) (target : String) : Bool :=
  climb nodes (fun current => if current.nodeId = target then some true else none)
    (nodes.length + 1) [] node == some true

def isForm (node : ObservedNode) : Bool :=
  node.tag == "form" || node.role == some "form"

def submittedTypeLabel (observation : Option StructuredObservation) (account : Option Json) :
    Option String :=
  match observation, stringOf account with
  | some observation, some account =>
      let nodes := observation.nodes
      let forms := nodes.filter fun node =>
        node.visible && isForm node &&
          nodes.any fun field =>
            field.visible && field.value == some account && reaches nodes field node.nodeId
      let labels := uniq (forms.flatMap fun form =>
        (nodes.filter fun node =>
          node.visible && node.selectedLabelSource.isSome && node.selectedLabel.any (· != "") &&
            !hasTruncation node && reaches nodes node form.nodeId).filterMap (·.selectedLabel))
      match labels with
      | [label] => some label
      | _ => none
  | _, _ => none

/-! A creation proved by a visible row. -/

def enclosingRow (nodes : List ObservedNode) (node : ObservedNode) : Option ObservedNode :=
  climb nodes (fun current => if isRow current then some current else none)
    (nodes.length + 1) [] node

def isVerifiedRow (observation : StructuredObservation) (row : ObservedNode) : Bool :=
  observation.consistency == .verified ||
    (observation.verifiedScopeNodeIds.getD []).contains row.nodeId

def rowCell (observation : StructuredObservation) (node : ObservedNode) : Option (String × String) :=
  match node.text with
  | none => none
  | some text =>
      if !node.visible || hasTruncation node || text = "" then none
      else
        match enclosingRow observation.nodes node with
        | some row => if isVerifiedRow observation row then some (row.nodeId, trim text) else none
        | none => none

def rowCells (observation : StructuredObservation) : List (String × String) :=
  observation.nodes.filterMap (rowCell observation)

def rowTexts (observation : StructuredObservation) : List (List String) :=
  let cells := rowCells observation
  (uniq (cells.map Prod.fst)).map fun row =>
    (cells.filter fun cell => cell.1 == row).map Prod.snd

end Host

end Devproof
