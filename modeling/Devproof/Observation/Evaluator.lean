import Devproof.Journal.Page
import Devproof.Observation.Contract

/-!
The evaluation of one target on one canonical capture (`observation-evaluator.ts`).
Node ids and refs are distinct in a capture, so the nodes that the source compares
by identity are compared by value here.
-/

namespace Devproof

structure Selection where
  scopeRef : String
  entityRef : String
  assertionRefs : List (String × String)
  deriving Repr, DecidableEq

structure ControlView where
  ref : Option String
  name : Option String
  text : Option String := none
  selectedValue : Option String := none
  labelMatched : Option Bool := none
  deriving Repr, DecidableEq

structure ErrorDetails where
  expectedLabel : String
  matchMode : Option String := none
  expectedValues : Option (List String) := none
  controls : List ControlView
  deriving Repr, DecidableEq

structure EvaluationError where
  error : String
  candidates : List String
  details : Option ErrorDetails := none
  deriving Repr, DecidableEq

def within (nodes : List ObservedNode) (node root : ObservedNode) : Bool :=
  node.frameId == root.frameId && node.documentEpoch == root.documentEpoch &&
    reaches nodes node root.nodeId

def directlyNamed (label : String) (node : ObservedNode) : Bool :=
  (!node.truncates .name && same node.name label) || (!node.truncates .text && same node.text label)

def named (nodes : List ObservedNode) (node : ObservedNode) (label : String) : Bool :=
  directlyNamed label node ||
    node.relations.any fun relation =>
      relation.kind == .labelledBy &&
        (nodeById nodes (some relation.targetNodeId)).any (directlyNamed label)

def hasRole (roles : List String) (node : ObservedNode) : Bool :=
  roles.contains (node.role.getD "")

def hasTag (tags : List String) (node : ObservedNode) : Bool := tags.contains node.tag

def isChoice (node : ObservedNode) : Bool :=
  node.tag == "input" && ["checkbox", "radio"].contains ((node.attribute "type").getD "")

def identityControl (node : ObservedNode) : Bool :=
  node.tag == "button" || hasRole ["button", "switch", "checkbox", "radio"] node || isChoice node

def isSelect (node : ObservedNode) : Bool :=
  node.tag == "select" || node.role == some "combobox"

def isHeading (node : ObservedNode) : Bool :=
  hasTag ["h1", "h2", "h3", "h4", "h5", "h6"] node || node.role == some "heading"

def businessScope (node : ObservedNode) : Bool :=
  hasTag ["tr", "form", "dialog"] node || hasRole ["row", "form", "dialog", "alertdialog"] node

def selectedLabelOf (node : ObservedNode) : Option String :=
  if node.selectedLabelSource.isSome then node.selectedLabel else none

def untruncated (property : TruncatedProperty) (value : Option String) (node : ObservedNode) :
    Option String :=
  if node.truncates property then none else value

def entityValueV3 (node : ObservedNode) : Option String :=
  if isSelect node then untruncated .selectedLabel (selectedLabelOf node) node
  else if identityControl node && node.nameSource.isSome && node.name.getD "" != "" &&
      !node.truncates .name then
    node.name
  else untruncated .text node.text node

def entityValueV2 (property : EntityProperty) (node : ObservedNode) : Option String :=
  match property with
  | .selectedLabel => untruncated .selectedLabel (selectedLabelOf node) node
  | .value => untruncated .value node.value node
  | .text => untruncated .text node.text node

def entityValue (target : ObservationTarget) (node : ObservedNode) : Option String :=
  match target with
  | .v2 target => entityValueV2 target.entity.property node
  | .v3 _ => entityValueV3 node

def isEntityV3 (nodes : List ObservedNode) (node : ObservedNode) : Bool :=
  !hasRole ["option", "menuitem", "listbox", "menu", "textbox", "searchbox"] node &&
    (node.role == some "combobox" || !hasTag ["option", "input", "textarea"] node ||
      isChoice node) &&
    !nodes.any fun parent => parent != node && isSelect parent && within nodes node parent

def isEntityV2 (kind : ControlKind) (node : ObservedNode) : Bool :=
  match kind with
  | .select => isSelect node
  | .row => node.tag == "tr" || node.role == some "row"
  | .field => hasTag ["input", "textarea"] node || node.role == some "textbox"

def isEntity (target : ObservationTarget) (nodes : List ObservedNode) (node : ObservedNode) :
    Bool :=
  match target with
  | .v2 target => isEntityV2 target.entity.controlKind node
  | .v3 _ => isEntityV3 nodes node

def refsOf (nodes : List ObservedNode) : List String :=
  (nodes.filterMap (·.ref)).filter (· != "")

section Host

variable (host : Host)

def sameIdentity (identity : TargetIdentity) (actual : Option String) : Bool :=
  match actual with
  | none => false
  | some actual =>
      match identity.matchMode with
      | some .displayText =>
          normalizeDisplayText host actual == normalizeDisplayText host identity.text
      | some .exact => actual == identity.text
      | none => same (some actual) identity.text

def showsIdentity (target : ObservationTarget) (nodes : List ObservedNode) (node : ObservedNode) :
    Bool :=
  match target with
  | .v2 target =>
      named nodes node target.entity.label &&
        target.entity.oneOf.any fun value =>
          if target.entity.property = .value then
            entityValueV2 target.entity.property node == some value
          else same (entityValueV2 target.entity.property node) value
  | .v3 target =>
      -- Options, even inside a selected popup, are not the form's current object.
      sameIdentity host target.identity (entityValueV3 node) &&
        !nodes.any fun parent => hasRole ["listbox", "menu"] parent && within nodes node parent

def entityCandidates (target : ObservationTarget) (nodes : List ObservedNode) :
    List ObservedNode :=
  nodes.filter fun node =>
    node.visible && isEntity target nodes node && showsIdentity host target nodes node

def scopeKind (target : ObservationTarget) (node : ObservedNode) : Bool :=
  match target with
  | .v3 _ => businessScope node
  | .v2 target =>
      match target.scope.kind with
      | .page => node.tag == "body"
      | .dialog => hasRole ["dialog", "alertdialog"] node || node.tag == "dialog"
      | .form => node.tag == "form" || node.role == some "form"
      | .tableRow => node.tag == "tr" || node.role == some "row"
      | .popover => hasRole ["menu", "listbox", "tooltip"] node

def isTitle (label : String) (node : ObservedNode) : Bool :=
  isHeading node || node.nameSource == some .title || node.text == some label

def hasTitle (target : ObservationTarget) (nodes : List ObservedNode) (node : ObservedNode) :
    Bool :=
  match target with
  | .v3 _ =>
      (entityCandidates host target nodes).any fun entity => within nodes entity node
  | .v2 target =>
      target.scope.names.any fun label =>
        named nodes node label ||
          nodes.any fun child =>
            child.visible && within nodes child node && isTitle label child &&
              named nodes child label

def semanticScopes (target : ObservationTarget) (nodes : List ObservedNode) : List ObservedNode :=
  nodes.filter fun node => node.visible && scopeKind target node && hasTitle host target nodes node

def innermost (nodes scopes : List ObservedNode) : List ObservedNode :=
  scopes.filter fun node => !scopes.any fun child => child != node && within nodes child node

def titledScopes (target : ObservationTarget) (nodes : List ObservedNode) : List ObservedNode :=
  nodes.filter fun node =>
    node.visible && !hasTag ["html", "body"] node && hasTitle host target nodes node &&
      (entityCandidates host target nodes).any fun entity => within nodes entity node

def regionScopes (target : ObservationTarget) (observation : StructuredObservation) :
    List ObservedNode :=
  observation.nodes.filter fun node =>
    node.visible && !hasTag ["body", "html"] node &&
      observation.regions.any (fun region => region.nodeId == node.nodeId) &&
      hasTitle host target observation.nodes node &&
      observation.nodes.any fun title =>
        title.visible && isHeading title && within observation.nodes title node

def candidateScopes (target : ObservationTarget) (observation : StructuredObservation) :
    List ObservedNode :=
  let scopes := semanticScopes host target observation.nodes
  match target with
  | .v2 legacy =>
      if scopes.isEmpty ∧ legacy.scope.kind ∈ [.dialog, .form, .popover] then
        innermost observation.nodes (titledScopes host target observation.nodes)
      else scopes
  | .v3 _ =>
      innermost observation.nodes
        (if scopes.isEmpty then regionScopes host target observation else scopes)

def enclosesSelection (target : ObservationTarget) (nodes : List ObservedNode)
    (selection : Selection) (node : ObservedNode) : Bool :=
  target.business &&
    ((nodes.find? fun requested => requested.ref == some selection.scopeRef).any fun requested =>
      requested.visible && businessScope requested && within nodes node requested) &&
    (entityCandidates host target nodes).any (fun entity =>
      entity.ref == some selection.entityRef && within nodes entity node) &&
    selection.assertionRefs.all fun entry =>
      nodes.any fun state => state.ref == some entry.2 && within nodes state node

def allowsScope (target : ObservationTarget) (nodes : List ObservedNode)
    (selection : Option Selection) (node : ObservedNode) : Bool :=
  match selection with
  | none => true
  | some selection =>
      node.ref == some selection.scopeRef || enclosesSelection host target nodes selection node

def allowsEntity (selection : Option Selection) (node : ObservedNode) : Bool :=
  match selection with
  | none => true
  | some selection => node.ref == some selection.entityRef

def entitiesIn (target : ObservationTarget) (nodes : List ObservedNode)
    (selection : Option Selection) (scope : ObservedNode) : List ObservedNode :=
  (entityCandidates host target nodes).filter fun node =>
    within nodes node scope && allowsEntity selection node

def expectsFlag (assertion : Assertion) : Bool :=
  match assertion.expected with
  | some (.flag _) => true
  | _ => false

def expectsText (assertion : Assertion) : Bool :=
  match assertion.expected with
  | some (.text _) => true
  | _ => false

def inScope (nodes : List ObservedNode) (scope node : ObservedNode) : Bool :=
  node.visible && within nodes node scope

def labeledStateExists (nodes : List ObservedNode) (scope : ObservedNode) (assertion : Assertion) :
    Bool :=
  assertion.modern && nodes.any fun node =>
    inScope nodes scope node && named nodes node assertion.label &&
      (assertion.property == some .visible || !expectsFlag assertion || node.checked.isSome)

def holdsState (node : ObservedNode) : Bool :=
  node.checked.isSome || node.value.isSome || node.selectedLabelSource.isSome

def namedControlExists (nodes : List ObservedNode) (scope : ObservedNode) (assertion : Assertion) :
    Bool :=
  assertion.modern && nodes.any fun node =>
    inScope nodes scope node && named nodes node assertion.label && holdsState node

def showsSubject (assertion : AssertionV2) (nodes : List ObservedNode) (node : ObservedNode) :
    Bool :=
  named nodes node assertion.subject.label &&
    match assertion.subject.kind with
    | .switch =>
        node.role == some "switch" || node.role == some "checkbox" ||
          node.attribute "type" == some "checkbox"
    | .field => hasTag ["input", "textarea", "select"] node || node.role == some "textbox"
    | .control => node.ref.getD "" != ""

/-- With a selection, a state whose label no node carries may be taken by its ref. -/
def bearsLabel (nodes : List ObservedNode) (selection : Option Selection) (scope : ObservedNode)
    (assertion : Assertion) (node : ObservedNode) : Bool :=
  if selection.isSome && !labeledStateExists nodes scope assertion &&
      assertion.property != some .visible then
    node.ref.getD "" != ""
  else named nodes node assertion.label

def fitsExpectation (nodes : List ObservedNode) (scope : ObservedNode) (assertion : Assertion)
    (node : ObservedNode) : Bool :=
  if expectsFlag assertion && assertion.property != some .visible then node.checked.isSome
  else if assertion.expected.isNone && namedControlExists nodes scope assertion then holdsState node
  else true

def showsState (nodes : List ObservedNode) (selection : Option Selection) (scope : ObservedNode)
    (assertion : Assertion) (node : ObservedNode) : Bool :=
  match assertion with
  | .v2 legacy => showsSubject legacy nodes node
  | .v3 _ =>
      bearsLabel nodes selection scope assertion node && fitsExpectation nodes scope assertion node

def allowsState (selection : Option Selection) (assertion : Assertion) (node : ObservedNode) :
    Bool :=
  match selection with
  | none => true
  | some selection => node.ref == selection.assertionRefs.lookup assertion.assertionId

def ownerControl (nodes : List ObservedNode) (entity : ObservedNode) : Option ObservedNode :=
  nodes.find? fun node => identityControl node && within nodes entity node

def belongsToOwner (nodes : List ObservedNode) (owner : Option ObservedNode)
    (node : ObservedNode) : Bool :=
  owner.all fun owner => node.nodeId == owner.nodeId || within nodes node owner

def isNested (nodes : List ObservedNode) (scope node : ObservedNode) : Bool :=
  nodes.any fun parent =>
    parent != scope && businessScope parent && within nodes parent scope &&
      within nodes node parent

def stateCandidates (target : ObservationTarget) (nodes : List ObservedNode)
    (selection : Option Selection) (scope entity : ObservedNode) (assertion : Assertion) :
    List ObservedNode :=
  nodes.filter fun node =>
    inScope nodes scope node &&
      (!target.business || belongsToOwner nodes (ownerControl nodes entity) node) &&
      showsState nodes selection scope assertion node && allowsState selection assertion node &&
      (!target.business || !isNested nodes scope node)

def assertedProperty (assertion : Assertion) (node : ObservedNode) : Property :=
  match assertion.property with
  | some property => property
  | none =>
      if expectsFlag assertion || (assertion.expected.isNone && node.checked.isSome) then .checked
      else if isSelect node then .selectedLabel
      else if hasTag ["input", "textarea"] node || node.role == some "textbox" then .value
      else .text

def readProperty (property : Property) (node : ObservedNode) : Option FactValue :=
  match property with
  | .checked => node.checked.map .flag
  | .visible => some (.flag node.visible)
  | .enabled => node.enabled.map .flag
  | .value => (untruncated .value node.value node).map .text
  | .text => (untruncated .text node.text node).map .text
  | .selectedLabel => (untruncated .selectedLabel (selectedLabelOf node) node).map .text

def textMatches (assertion : Assertion) (property : Property) (actual expected : String) : Bool :=
  if property = .value ∨ assertion.matchMode = some .exact then actual == expected
  else if assertion.matchMode = some .displayText then
    normalizeDisplayText host actual == normalizeDisplayText host expected
  else same (some actual) expected

def satisfies (assertion : Assertion) (property : Property) (actual : FactValue) : Bool :=
  match assertion.expected, actual with
  | none, _ => true
  | some (.flag expected), .flag actual => actual == expected
  | some (.text expected), .text actual => textMatches host assertion property actual expected
  | some (.oneOf expected), .text actual =>
      expected.any (textMatches host assertion property actual)
  | _, _ => false

inductive Reading where
  | fact (fact : Fact)
  | reason (text : String)
  | ambiguous (refs : List String)
  deriving Repr, DecidableEq

/-- Absence is witnessed by a complete named region with its existing business
identity, never inferred from a clipped viewport or missing entity. -/
def provesAbsence (observation : StructuredObservation) (scope : ObservedNode)
    (assertion : Assertion) : Bool :=
  let nodes := observation.nodes
  let coverage := observation.coverage
  assertion.property == some .visible && assertion.expected == some (.flag false) &&
    coverage.scope == .region && coverage.rootNodeId == some scope.nodeId &&
    coverage.completeWithinScope && !coverage.truncated && coverage.unavailableFrames.isEmpty &&
    !nodes.any (fun node => inScope nodes scope node && named nodes node assertion.label) &&
    !nodes.any fun node =>
      within nodes node scope && (node.truncates .name || node.truncates .text)

def absenceFact (scope : ObservedNode) (assertion : Assertion) : Fact :=
  { assertionId := assertion.assertionId
    nodeId := scope.nodeId
    property := .visible
    actual := some (.flag false)
    evaluation := .matched }

def evaluateValue (assertion : Assertion) (property : Property) (actual : Option FactValue) :
    Evaluation :=
  match actual with
  | none => .unknown
  | some actual => if satisfies host assertion property actual then .matched else .mismatched

def stateFact (assertion : Assertion) (node : ObservedNode) : Fact :=
  let property := assertedProperty assertion node
  let actual := readProperty property node
  { assertionId := assertion.assertionId
    nodeId := node.nodeId
    property
    actual
    evaluation := evaluateValue host assertion property actual }

def readAssertion (target : ObservationTarget) (observation : StructuredObservation)
    (selection : Option Selection) (scope entity : ObservedNode) (assertion : Assertion) :
    Reading :=
  match stateCandidates target observation.nodes selection scope entity assertion with
  | [] =>
      if provesAbsence observation scope assertion then .fact (absenceFact scope assertion)
      else .reason ("STATE_UNREADABLE:" ++ assertion.assertionId)
  | [node] =>
      -- A text expectation cannot silently turn an observed switch into a text assertion.
      if assertion.modern && expectsText assertion && node.checked.isSome then
        .reason ("STATE_TYPE_MISMATCH:" ++ assertion.assertionId)
      else .fact (stateFact host assertion node)
  | candidates => .ambiguous (refsOf candidates)

structure Readings where
  facts : List Fact := []
  reasons : List String := []
  deriving Repr, DecidableEq

def readAssertions (read : Assertion → Reading) : List Assertion → Except EvaluationError Readings
  | [] => .ok {}
  | assertion :: rest =>
      match read assertion with
      | .ambiguous refs =>
          .error { error := "STATE_AMBIGUOUS:" ++ assertion.assertionId, candidates := refs }
      | .fact fact => do
          let others ← readAssertions read rest
          pure { others with facts := fact :: others.facts }
      | .reason reason => do
          let others ← readAssertions read rest
          pure { others with reasons := reason :: others.reasons }

def holdingNode (observation : StructuredObservation) (scope : ObservedNode)
    (region : ObservedRegion) : Option ObservedNode :=
  (nodeById observation.nodes (some region.nodeId)).filter fun node =>
    within observation.nodes scope node

def innermostRegion (observation : StructuredObservation) (scope : ObservedNode) :
    Option ObservedRegion :=
  let regions := observation.regions.zipIdx
  (regions.find? fun region =>
    (holdingNode observation scope region.1).any fun root =>
      !regions.any fun other =>
        other.2 != region.2 &&
          (holdingNode observation scope other.1).any fun node =>
            within observation.nodes node root).map Prod.fst

def regionOf (target : ObservationTarget) (observation : StructuredObservation)
    (scope : ObservedNode) : Option ObservedRegion :=
  match observation.regions.find? fun region => region.nodeId == scope.nodeId with
  | some region => some region
  | none => if target.business then innermostRegion observation scope else none

def mutated (nodes : List ObservedNode) (region : ObservedRegion) (facts : List Fact) : Bool :=
  region.modifiedNodeIds.any fun id =>
    match nodeById nodes (some id) with
    | none => true
    | some actionNode => facts.any fun fact =>
        id == fact.nodeId || (nodeById nodes (some fact.nodeId)).any fun stateNode =>
          within nodes stateNode actionNode || within nodes actionNode stateNode

def phaseProven (target : ObservationTarget) (observation : StructuredObservation)
    (region : Option ObservedRegion) (facts : List Fact) : Bool :=
  match target.phase with
  | .current => true
  | .afterAction => observation.sourceCommandId.getD "" != ""
  | .initialAfterOpen | .reopened => region.any fun region =>
      region.phaseProven && !mutated observation.nodes region facts &&
        (target.phase != .reopened || region.reopened)

def isBusy (node : ObservedNode) : Bool :=
  node.attribute "aria-busy" == some "true" || node.role == some "progressbar"

def isDrifted (target : ObservationTarget) (observation : StructuredObservation)
    (scope : ObservedNode) : Bool :=
  target.requiredEvidenceKinds.contains .screenshot && observation.consistency != .verified &&
    !(observation.consistency == .drifted &&
      (observation.verifiedScopeNodeIds.getD []).contains scope.nodeId)

def missesEvidence (target : ObservationTarget) (evidenceKinds : List String) : Bool :=
  target.requiredEvidenceKinds.any fun kind => !evidenceKinds.contains kind.name

def hasUnknown (facts : List Fact) : Bool := facts.any fun fact => fact.evaluation == .unknown

def flagged (present : Bool) (reason : String) : List String := if present then [reason] else []

def captureReasons (target : ObservationTarget) (observation : StructuredObservation)
    (evidenceKinds : List String) (scope : ObservedNode) (facts : List Fact) (proven : Bool) :
    List String :=
  flagged (!proven) "PHASE_UNPROVEN" ++
    flagged (observation.nodes.any fun node => inScope observation.nodes scope node && isBusy node)
      "OBSERVATION_NOT_READY" ++
    flagged (!observation.coverage.completeWithinScope || observation.coverage.truncated)
      "OBSERVATION_SCOPE_INCOMPLETE" ++
    flagged (missesEvidence target evidenceKinds) "EVIDENCE_UNAVAILABLE" ++
    flagged (isDrifted target observation scope) "OBSERVATION_DRIFTED" ++
    flagged (hasUnknown facts) "STATE_UNREADABLE"

def evaluateFacts (expected : Nat) (facts : List Fact) : Evaluation :=
  if facts.length ≠ expected ∨ hasUnknown facts then .unknown
  else if facts.any fun fact => fact.evaluation == .mismatched then .mismatched
  else .matched

def bindingOf (target : ObservationTarget) (observation : StructuredObservation)
    (evidenceKinds : List String) (scope entity : ObservedNode) (readings : Readings) :
    BindingEvaluation :=
  let region := regionOf target observation scope
  let proven := phaseProven target observation region readings.facts
  let reasons := readings.reasons ++
    captureReasons target observation evidenceKinds scope readings.facts proven
  { targetId := target.targetId
    scopeIdentity := scope.nodeId
    entityKey := (entityValue target entity).getD ""
    phase := target.phase
    phaseProven := proven
    regionEpoch := region.map (·.epoch)
    facts := readings.facts
    evaluation := evaluateFacts target.assertions.length readings.facts
    readiness := if reasons.isEmpty then .ready else .partly
    reasons }

def matchModeName : Option MatchMode → String
  | none => "LEGACY"
  | some .exact => "EXACT"
  | some .displayText => "DISPLAY_TEXT"

def identityError (identity : TargetIdentity) (nodes : List ObservedNode) : EvaluationError :=
  let controls := nodes.filter fun node => node.visible && identityControl node
  { error := "ENTITY_NOT_CONFIRMED"
    candidates :=
      ((controls.filter fun node => node.ref.getD "" != "").take 20).filterMap (·.ref)
    details :=
      some
        { expectedLabel := identity.text
          matchMode := some (matchModeName identity.matchMode)
          controls := (controls.take 20).map fun node =>
            { ref := node.ref, name := node.name, text := node.text } } }

def entityError (target : ObservationTarget) (nodes : List ObservedNode) (scope : ObservedNode) :
    EvaluationError :=
  let controls := nodes.filter fun node =>
    node.visible && isEntity target nodes node && within nodes node scope
  { error := "ENTITY_NOT_CONFIRMED"
    candidates := refsOf ((entityCandidates host target nodes).filter fun node =>
      within nodes node scope)
    details :=
      some
        { expectedLabel :=
            match target with
            | .v2 target => target.entity.label
            | .v3 target => target.identity.text
          expectedValues :=
            match target with
            | .v2 target => some target.entity.oneOf
            | .v3 target => some [target.identity.text]
          controls := (controls.take 10).map fun node =>
            { ref := node.ref
              name := node.name
              selectedValue := entityValue target node
              labelMatched :=
                match target with
                | .v2 target => some (named nodes node target.entity.label)
                | .v3 target => some (sameIdentity host target.identity (entityValueV3 node)) } } }

def scopeError (target : ObservationTarget) (observation : StructuredObservation)
    (scopes : List ObservedNode) : EvaluationError :=
  { error := if scopes.isEmpty then "SCOPE_NOT_OBSERVED" else "SCOPE_AMBIGUOUS"
    candidates := refsOf (candidateScopes host target observation) }

def missingIdentity (target : ObservationTarget) (nodes : List ObservedNode) :
    Option EvaluationError :=
  match target with
  | .v2 _ => none
  | .v3 business =>
      if (entityCandidates host target nodes).isEmpty then
        some (identityError business.identity nodes)
      else none

def evaluateObservationTarget (target : ObservationTarget) (observation : StructuredObservation)
    (evidenceKinds : List String) (selection : Option Selection) :
    Except EvaluationError BindingEvaluation :=
  let nodes := observation.nodes
  match missingIdentity host target nodes with
  | some error => .error error
  | none =>
      match (candidateScopes host target observation).filter
          (allowsScope host target nodes selection) with
      | [scope] =>
          match entitiesIn host target nodes selection scope with
          | [entity] => do
              let readings ← readAssertions
                (readAssertion host target observation selection scope entity) target.assertions
              pure (bindingOf target observation evidenceKinds scope entity readings)
          | _ => .error (entityError host target nodes scope)
      | scopes => .error (scopeError host target observation scopes)

end Host

end Devproof
