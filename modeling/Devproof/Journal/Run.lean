import Devproof.Journal.Progress

/-!
The journal as a machine.  Every call is a list of moves that depends on the
call alone; a run is the path its moves take from the empty journal.
-/

namespace Devproof

structure ObserveInput where
  output : Json
  evidence : List String
  command : Option Command

inductive Call where
  | observe (input : ObserveInput)
  | update (next : Members)
  | updatePartial (next : Members)
  | blockCleanup (note : String)

namespace ObserveInput

def root (input : ObserveInput) : Members := object (some input.output)

def result (input : ObserveInput) : Members := object (input.root.get "result")

def feedback (input : ObserveInput) : Members :=
  object (nullish (input.result.get "actionFeedback") (input.root.get "actionFeedback"))

def targetRef (input : ObserveInput) : Option Json :=
  (object ((object (input.command.bind (·.payload))).get "target")).get "ref"

end ObserveInput

mutual
def findRefs (evidence : List String) : Nat → Json → List String
  | 0, _ => []
  | fuel + 1, .arr items => findRefsItems evidence fuel items
  | fuel + 1, .obj members =>
      ownRefs evidence members ++ findRefsMembers evidence fuel members
  | _ + 1, _ => []
  termination_by structural _ value => value

def findRefsItems (evidence : List String) (fuel : Nat) : List Json → List String
  | [] => []
  | item :: rest => findRefs evidence fuel item ++ findRefsItems evidence fuel rest
  termination_by structural items => items

def findRefsMembers (evidence : List String) (fuel : Nat) : List (String × Json) → List String
  | [] => []
  | (_, child) :: rest => findRefs evidence fuel child ++ findRefsMembers evidence fuel rest
  termination_by structural members => members

def ownRefs (evidence : List String) (members : List (String × Json)) : List String :=
  let row : Members := members
  let artifact := (stringOf (row.get "id")).map fun id => "artifact://" ++ id
  let listed := ((arrayOf (row.get "evidenceRefs")).getD []).filterMap fun ref =>
    stringOf (some ref)
  (artifact.toList ++ listed ++ (stringOf (row.get "externalId")).toList).filter evidence.contains
end

def ObserveInput.evidenceRefs (input : ObserveInput) : List String :=
  lastN 8 (uniq (findRefs input.evidence 9 input.output))

def ObserveInput.traffic (input : ObserveInput) : Traffic :=
  { commandId := input.feedback.get "commandId", evidenceRefs := input.evidenceRefs }

def requestOf (members : Members) : Request :=
  { url := members.get "url"
    method := members.get "method"
    requestId := members.get "requestId"
    requestSummary := members.get "requestSummary"
    responseSummary := members.get "responseSummary"
    status := members.get "status"
    timestamp := members.get "timestamp"
    bodyPending := members.get "bodyPending"
    pending := members.get "pending"
    responseTruncated := members.get "responseTruncated"
    responseBodyTruncated := members.get "responseBodyTruncated"
    responseBodyOmitted := members.get "responseBodyOmitted" }

def readOnlyCommands : List String :=
  [".snapshot", ".get_text", ".get_url", ".get_title", ".network", ".errors", ".console",
    ".screenshot", ".dom", ".scroll"]

def Command.readsOnly (command : Command) : Bool :=
  readOnlyCommands.any fun suffix => suffix.toList.isSuffixOf command.commandType.toList

/-- `/^(搜索|查询|刷新|search|refresh|reload)$/iu`. -/
def isReadLabel (label : String) : Bool :=
  ["搜索", "查询", "刷新", "search", "refresh", "reload"].any fun word => folded label == word.toList

/-- The first node of the last page with the target's ref; a missing ref meets a missing ref. -/
def clickedNode (observation : Option StructuredObservation) (ref : Option Json) :
    Option ObservedNode :=
  observation.bind fun page => page.nodes.find? fun node =>
    match ref with
    | none => node.ref.isNone
    | some value => (stringOf (some value)).isSome && stringOf (some value) == node.ref

def freshUiRead (input : ObserveInput) (observation : Option StructuredObservation) : Bool :=
  match input.command with
  | none => false
  | some command =>
      command.commandType == "page.reload" ||
        (command.commandType == "page.click" &&
          (clickedNode observation input.targetRef).any fun node =>
            isReadLabel ((node.name <|> node.text).getD ""))

def succeededRoot (input : ObserveInput) : Bool :=
  stringOf (input.root.get "status") == some "SUCCEEDED"

def begin (input : ObserveInput) (journal : Journal) : Journal :=
  let acts := input.command.any fun command => !command.readsOnly
  let fresh := freshUiRead input journal.lastUiObservation
  { journal with
    state := if acts then invalidateUiConfirmations none journal.state else journal.state
    pendingUiRead :=
      (fresh && succeededRoot input) || (!acts && journal.pendingUiRead) }

section Host

variable (host : Host)

def entryRequest (entry : Json) : Request :=
  let members := object (some entry)
  { requestOf members with
    requestId := nullish (members.get "requestId") (members.get "timestamp")
    requestSummary := (members.get "requestBody").map fun body => .str (host.stringify body)
    responseSummary := (members.get "responseBody").map fun body => .str (host.stringify body) }

def ObserveInput.requests (input : ObserveInput) : List Request :=
  match arrayOf (host.parse (input.result.get "content")) with
  | some (entry :: rest) => (entry :: rest).map (entryRequest host)
  | _ =>
      ((arrayOf (input.feedback.get "requests")).getD []).map fun request =>
        requestOf (object (some request))

def ObserveInput.page (input : ObserveInput) : Option StructuredObservation :=
  (input.result.get "structuredObservation").bind (structuredObservationSchema host).read

inductive Move where
  | begin (input : ObserveInput)
  | request (traffic : Traffic) (request : Request)
  | confirmPending
  | bindNamed
  | registerMutations
  | settleCleanup
  | readPage (page : StructuredObservation) (evidenceRefs : List String)
  | progress (next : Members)
  | rereadPage
  | review
  | blockCleanup (note : String)

def onState (change : ExecutionState → ExecutionState) (journal : Journal) :
    Outcome Journal Failure :=
  .done { journal with state := change journal.state }

def takePage (page : StructuredObservation) (evidenceRefs : List String) (journal : Journal) :
    Journal :=
  { state := observeUi host page evidenceRefs journal.pendingUiRead journal.state
    lastUiObservation := some page
    lastUiEvidenceRefs := evidenceRefs
    pendingUiRead := false }

def takeRequest (traffic : Traffic) (request : Request) (journal : Journal) :
    Outcome Journal Failure :=
  let outcome := observeRequest host traffic (submittedTypeLabel journal.lastUiObservation) request
    journal.state
  { state := { journal with state := outcome.state }, thrown := outcome.thrown }

def Move.step : Move → Journal → Outcome Journal Failure
  | .begin input, journal => .done (Devproof.begin input journal)
  | .request traffic received, journal => takeRequest host traffic received journal
  | .confirmPending, journal => onState (Devproof.confirmPending host) journal
  | .bindNamed, journal => onState (reconcileNamedResources host) journal
  | .registerMutations, journal => onState (registerObservedMutations host) journal
  | .settleCleanup, journal => onState (reconcileCleanup host) journal
  | .readPage page evidenceRefs, journal => .done (takePage host page evidenceRefs journal)
  | .progress next, journal => Devproof.progress host next journal
  | .rereadPage, journal => .done (Devproof.rereadPage host journal)
  | .review, journal => onState (reconcileReview host) journal
  | .blockCleanup note, journal => onState (Devproof.blockCleanup host note) journal

def observeMoves (input : ObserveInput) : List Move :=
  .begin input :: (input.requests host).map (.request input.traffic) ++
    [.confirmPending, .bindNamed, .registerMutations, .settleCleanup] ++
    (match input.page host with
      | some page => [.readPage page input.evidenceRefs]
      | none => []) ++
    [.review]

def updateMoves (next : Members) : List Move :=
  [.progress next, .rereadPage, .settleCleanup, .review]

def observe (input : ObserveInput) (journal : Journal) : Outcome Journal Failure :=
  runMoves (Move.step host) (observeMoves host input) journal

def update (next : Members) (journal : Journal) : Outcome Journal Failure :=
  runMoves (Move.step host) (updateMoves next) journal

/-! Independent records can make progress even if a different record is rejected. -/

def withoutRecords (next : Members) : Members := next.filter fun entry => entry.1 != "records"

def recordItems (next : Members) : List Json := (arrayOf (next.get "records")).getD []

def singleRecord (record : Json) : Members := [("records", .arr [record])]

structure RecordUpdate where
  recordRef : Option Json
  id : Option Json
  error : Option Failure

def RecordUpdate.accepted (result : RecordUpdate) : Bool := result.error.isNone

structure Updated where
  journal : Journal
  results : List RecordUpdate

def updateOne (updated : Updated) (record : Json) : Updated :=
  let outcome := update host (singleRecord record) updated.journal
  { journal := outcome.state
    results := updated.results ++
      [{ recordRef := (object (some record)).get "recordRef"
         id := (object (some record)).get "id"
         error := outcome.thrown }] }

def updatePartial (next : Members) (journal : Journal) : Outcome Updated Failure :=
  let first := update host (withoutRecords next) journal
  match first.thrown with
  | some failure => .failed { journal := first.state, results := [] } failure
  | none => .done ((recordItems next).foldl (updateOne host) { journal := first.state, results := [] })

def Call.perform : Call → Journal → Journal
  | .observe input, journal => (Devproof.observe host input journal).state
  | .update next, journal => (Devproof.update host next journal).state
  | .updatePartial next, journal => (Devproof.updatePartial host next journal).state.journal
  | .blockCleanup note, journal =>
      { journal with state := Devproof.blockCleanup host note journal.state }

def run (calls : List Call) (journal : Journal) : Journal :=
  calls.foldl (fun journal call => call.perform host journal) journal

abbrev Trace := List (Move × Journal)

def updateTrace (next : Members) (journal : Journal) : Trace :=
  movesMade (Move.step host) (updateMoves next) journal

def recordsTrace : List Json → Journal → Trace
  | [], _ => []
  | record :: rest, journal =>
      updateTrace host (singleRecord record) journal ++
        recordsTrace rest (update host (singleRecord record) journal).state

def Call.trace : Call → Journal → Trace
  | .observe input, journal => movesMade (Move.step host) (observeMoves host input) journal
  | .update next, journal => updateTrace host next journal
  | .updatePartial next, journal =>
      updateTrace host (withoutRecords next) journal ++
        match (Devproof.update host (withoutRecords next) journal).thrown with
        | some _ => []
        | none =>
            recordsTrace host (recordItems next)
              (Devproof.update host (withoutRecords next) journal).state
  | .blockCleanup note, journal => [(.blockCleanup note, journal)]

def runTrace : List Call → Journal → Trace
  | [], _ => []
  | call :: rest, journal => call.trace host journal ++ runTrace rest (call.perform host journal)

def ownAliases (saved : Option (List TestAccountBinding)) (binding : TestAccountBinding) :
    List String :=
  match (saved.getD []).find? fun old =>
      old.slotId == binding.slotId && old.account == binding.account with
  | some old => old.aliases
  | none => []

def assignBindings (state : ExecutionState) (bindings : List TestAccountBinding) :
    ExecutionState :=
  { state with
    accounts := some (bindings.map fun binding =>
      { binding with aliases := uniq (binding.aliases ++ ownAliases state.accounts binding) })
    account := none
    accountAliases := [] }

def restore (policy : Members) : Journal :=
  let saved := readExecutionState host policy
  let state := { saved with records := saved.records.map (withRef host) }
  match (policy.get "testAccounts").bind (testAccountBindingsSchema host).read with
  | some (binding :: rest) => { state := assignBindings state (binding :: rest) }
  | _ => { state }

theorem restore_nil : restore host [] = {} := rfl

/-! Outputs as the browser delivers them. -/

def summary (name : String) (body : Option Json) : Members :=
  body.toList.map fun value => (name, .str (String.ofList (render value)))

def requestJson (id method url : String) (status : Rat) (timestamp : Option String)
    (request response : Option Json) : Json :=
  .obj ([("requestId", .str id), ("method", .str method), ("url", .str url),
    ("status", .num status)] ++ timestamp.toList.map (fun time => ("timestamp", .str time)) ++
    summary "requestSummary" request ++ summary "responseSummary" response)

def outputJson (artifact : String) (requests : List Json) (page : Option Json) : Json :=
  .obj [("id", .str artifact), ("status", .str "SUCCEEDED"),
    ("result", .obj (("actionFeedback", .obj [("requests", .arr requests)]) ::
      page.toList.map fun page => ("structuredObservation", page)))]

def Call.observed (artifact : String) (requests : List Json) (page : Option Json) : Call :=
  .observe
    { output := outputJson artifact requests page
      evidence := ["artifact://" ++ artifact]
      command := none }

/-! A service whose rows are whitelist entries of an account. -/

def whitelistUrl : String := "https://fixture.test/whitelist"

def whitelistQuery : String := "https://fixture.test/whitelist/list?account=alice&type=MODEL"

def whitelistRequest : Json := .obj [("account", .str "alice"), ("type", .str "MODEL")]

def acceptedBody : Json := .obj [("code", .num 0)]

def enabledConfig : Json := .obj [("enabled", .bool true)]

def whitelistRow (id : String) : Json :=
  .obj [("id", .str id), ("type", .str "MODEL"), ("account", .str "alice"),
    ("config", enabledConfig)]

def whitelistHost : Host :=
  .ofTables
    { values := [.arr [], whitelistRequest, acceptedBody, enabledConfig, whitelistRow "35",
        .arr [whitelistRow "35"], .arr [whitelistRow "36"]]
      urls := [
        (whitelistUrl,
          { origin := "https://fixture.test", pathname := "/whitelist", searchParams := [] }),
        (whitelistUrl ++ "/35",
          { origin := "https://fixture.test", pathname := "/whitelist/35", searchParams := [] }),
        (whitelistQuery,
          { origin := "https://fixture.test", pathname := "/whitelist/list",
            searchParams := [("account", "alice"), ("type", "MODEL")] }),
        ("https://fixture.test/page",
          { origin := "https://fixture.test", pathname := "/page", searchParams := [] })]
      dates := [("2026-01-01T00:00:00.000Z", 1767225600000),
        ("2026-01-01T00:00:01.000Z", 1767225601000)]
      digests := [
        ("[\"https://fixture.test/whitelist\",\"MODEL\",\"35\",\"alice\"]",
          "9f950e26ce2f7a8736782c63485e3f49ae2694c38a13601811d7784d1a247e48"),
        ("[\"https://fixture.test/whitelist\",\"MODEL\",\"36\",\"alice\"]",
          "0cf86f5924be33610db7bdbb52fe75d1be4e59cc39ea139524070780b74d0d9c")]
      uuids := ["11111111-1111-4111-8111-111111111111"] }

def whitelistRead (id : String) (rows : List Json) : Json :=
  requestJson id "GET" whitelistQuery 200 none none (some (.arr rows))

def whitelistPost (id : String) (response : Option Json) : Json :=
  requestJson id "POST" whitelistUrl 200 none (some whitelistRequest) response

theorem update_path (next : Members) (journal : Journal) :
    Path (Move.step host) journal (updateTrace host next journal) (update host next journal).state :=
  runMoves_path _ _

theorem updateOne_path (records : List Json) (updated : Updated) :
    Path (Move.step host) updated.journal (recordsTrace host records updated.journal)
      (records.foldl (updateOne host) updated).journal := by
  induction records generalizing updated with
  | nil => exact Path.stop _
  | cons record rest ih =>
      exact (update_path host (singleRecord record) updated.journal).append
        (ih (updateOne host updated record))

theorem Call.path (call : Call) (journal : Journal) :
    Path (Move.step host) journal (call.trace host journal) (call.perform host journal) := by
  cases call with
  | observe input => exact runMoves_path _ _
  | update next => exact update_path host next journal
  | updatePartial next =>
      have first := update_path host (withoutRecords next) journal
      simp only [Call.trace, Call.perform, Devproof.updatePartial]
      cases (Devproof.update host (withoutRecords next) journal).thrown with
      | some failure =>
          simp only [List.append_nil, Outcome.failed_state]
          exact first
      | none =>
          simp only [Outcome.done_state]
          exact first.append (updateOne_path host (recordItems next) ⟨_, []⟩)
  | blockCleanup note => exact Path.move (Move.blockCleanup note) (Path.stop _)

theorem runTrace_append (first second : List Call) (journal : Journal) :
    runTrace host (first ++ second) journal =
      runTrace host first journal ++ runTrace host second (run host first journal) := by
  induction first generalizing journal with
  | nil => rfl
  | cons call rest ih =>
      simp only [List.cons_append, runTrace, List.append_assoc]
      rw [ih]
      rfl

theorem run_path (calls : List Call) (journal : Journal) :
    Path (Move.step host) journal (runTrace host calls journal) (run host calls journal) := by
  induction calls generalizing journal with
  | nil => exact Path.stop _
  | cons call rest ih => exact (call.path host journal).append (ih _)

end Host

end Devproof
