import Devproof.ExecutionState

/-!
One canonical capture of the page and its schema (`structured-observation.ts`).
-/

namespace Devproof

inductive NameSource where
  | aria
  | label
  | text
  | title
  deriving Repr, DecidableEq

inductive SelectedLabelSource where
  | nativeSelect
  | displayRelation
  deriving Repr, DecidableEq

inductive TruncatedProperty where
  | name
  | text
  | value
  | selectedLabel
  deriving Repr, DecidableEq

inductive RelationKind where
  | labelledBy
  | selectedDisplay
  deriving Repr, DecidableEq

inductive Consistency where
  | domOnly
  | verified
  | drifted
  deriving Repr, DecidableEq

inductive CoverageScope where
  | viewport
  | region
  deriving Repr, DecidableEq

inductive ExceededLimit where
  | bytes
  | nodes
  | regions
  | text
  | refs
  | visits
  deriving Repr, DecidableEq

inductive LimitAction where
  | scopedRecapture
  | trimmed
  deriving Repr, DecidableEq

structure LimitCounts where
  bytes : Int
  nodes : Int
  regions : Int
  textCharacters : Int
  deriving Repr, DecidableEq

structure ObservationLimitEvent where
  scope : CoverageScope
  measured : LimitCounts
  limits : LimitCounts
  exceeded : List ExceededLimit
  action : LimitAction
  deriving Repr, DecidableEq

structure Box where
  x : Rat
  y : Rat
  width : Rat
  height : Rat
  deriving Repr, DecidableEq

structure Relation where
  kind : RelationKind
  targetNodeId : String
  deriving Repr, DecidableEq

structure TextLocation where
  start : Int
  finish : Int
  deriving Repr, DecidableEq

structure ObservedNode where
  nodeId : String
  ref : Option String := none
  parentId : Option String := none
  frameId : String
  documentEpoch : String
  tag : String
  role : Option String := none
  name : Option String := none
  nameSource : Option NameSource := none
  text : Option String := none
  value : Option String := none
  selectedLabel : Option String := none
  selectedLabelSource : Option SelectedLabelSource := none
  truncatedProperties : Option (List TruncatedProperty) := none
  checked : Option Bool := none
  enabled : Option Bool := none
  visible : Bool
  attributes : List (String × String) := []
  box : Option Box := none
  relations : List Relation := []
  textLocation : TextLocation := { start := 0, finish := 0 }
  deriving Repr, DecidableEq

structure ObservedFrame where
  frameId : String
  documentEpoch : String
  mutationRevision : Option Int
  deriving Repr, DecidableEq

structure ObservedRegion where
  nodeId : String
  epoch : String
  openedByCommandId : Option String := none
  phaseProven : Bool
  reopened : Bool
  modifiedNodeIds : List String
  deriving Repr, DecidableEq

structure ConsistencyIssue where
  code : String
  frameId : String
  nodeId : Option String
  deriving Repr, DecidableEq

structure Coverage where
  scope : CoverageScope
  rootNodeId : Option String := none
  completeWithinScope : Bool
  truncated : Bool
  unavailableFrames : List String := []
  limitEvents : Option (List ObservationLimitEvent) := none
  deriving Repr, DecidableEq

structure StructuredObservation where
  captureId : String
  capturedFrom : String
  capturedUntil : String
  pageIdentity : String
  frames : List ObservedFrame := []
  nodes : List ObservedNode
  renderedText : String := ""
  regions : List ObservedRegion := []
  sourceCommandId : Option String := none
  consistency : Consistency
  verifiedScopeNodeIds : Option (List String) := none
  consistencyIssues : Option (List ConsistencyIssue) := none
  coverage : Coverage
  deriving Repr, DecidableEq

def ObservedNode.truncates (node : ObservedNode) (property : TruncatedProperty) : Bool :=
  (node.truncatedProperties.getD []).contains property

def ObservedNode.attribute (node : ObservedNode) (name : String) : Option String :=
  node.attributes.lookup name

def nameSourceSchema : Codec NameSource :=
  Codec.enumeration
    (fun
      | .aria => "ARIA"
      | .label => "LABEL"
      | .text => "TEXT"
      | .title => "TITLE")
    [.aria, .label, .text, .title] (by rintro (_ | _ | _ | _) <;> rfl)

def selectedLabelSourceSchema : Codec SelectedLabelSource :=
  Codec.enumeration
    (fun
      | .nativeSelect => "NATIVE_SELECT"
      | .displayRelation => "DISPLAY_RELATION")
    [.nativeSelect, .displayRelation] (by rintro (_ | _) <;> rfl)

def truncatedPropertySchema : Codec TruncatedProperty :=
  Codec.enumeration
    (fun
      | .name => "NAME"
      | .text => "TEXT"
      | .value => "VALUE"
      | .selectedLabel => "SELECTED_LABEL")
    [.name, .text, .value, .selectedLabel] (by rintro (_ | _ | _ | _) <;> rfl)

def relationKindSchema : Codec RelationKind :=
  Codec.enumeration
    (fun
      | .labelledBy => "LABELLED_BY"
      | .selectedDisplay => "SELECTED_DISPLAY")
    [.labelledBy, .selectedDisplay] (by rintro (_ | _) <;> rfl)

def consistencySchema : Codec Consistency :=
  Codec.enumeration
    (fun
      | .domOnly => "DOM_ONLY"
      | .verified => "VERIFIED"
      | .drifted => "DRIFTED")
    [.domOnly, .verified, .drifted] (by rintro (_ | _ | _) <;> rfl)

def coverageScopeSchema : Codec CoverageScope :=
  Codec.enumeration
    (fun
      | .viewport => "VIEWPORT"
      | .region => "REGION")
    [.viewport, .region] (by rintro (_ | _) <;> rfl)

def exceededLimitSchema : Codec ExceededLimit :=
  Codec.enumeration
    (fun
      | .bytes => "BYTES"
      | .nodes => "NODES"
      | .regions => "REGIONS"
      | .text => "TEXT"
      | .refs => "REFS"
      | .visits => "VISITS")
    [.bytes, .nodes, .regions, .text, .refs, .visits] (by rintro (_ | _ | _ | _ | _ | _) <;> rfl)

def limitActionSchema : Codec LimitAction :=
  Codec.enumeration
    (fun
      | .scopedRecapture => "SCOPED_RECAPTURE"
      | .trimmed => "TRIMMED")
    [.scopedRecapture, .trimmed] (by rintro (_ | _) <;> rfl)

def sized (least most : Nat) : Codec String :=
  Codec.checked fun value => least ≤ units value && units value ≤ most

def nodeIdSchema : Codec String := sized 1 160

def nodeTextSchema : Codec String := bounded 500

def limitCountsSchema (count : Codec Int) : Codec LimitCounts :=
  Codec.object
    (.cons "bytes" (.required count) <|
      .cons "nodes" (.required count) <|
      .cons "regions" (.required count) <|
      .cons "textCharacters" (.required count) <|
      .nil)
    (fun (bytes, nodes, regions, textCharacters, ()) => { bytes, nodes, regions, textCharacters })
    (fun value => (value.bytes, value.nodes, value.regions, value.textCharacters, ()))
    fun _ => rfl

def observationLimitEventSchema : Codec ObservationLimitEvent :=
  Codec.object
    (.cons "scope" (.required coverageScopeSchema) <|
      .cons "measured" (.required (limitCountsSchema nonnegative)) <|
      .cons "limits" (.required (limitCountsSchema (Codec.integer fun value => 0 < value))) <|
      .cons "exceeded" (.required (Codec.list exceededLimitSchema 1 6)) <|
      .cons "action" (.required limitActionSchema) <|
      .nil)
    (fun (scope, measured, limits, exceeded, action, ()) =>
      { scope, measured, limits, exceeded, action })
    (fun value => (value.scope, value.measured, value.limits, value.exceeded, value.action, ()))
    fun _ => rfl

def boxSchema : Codec Box :=
  Codec.object
    (.cons "x" (.required Codec.number) <|
      .cons "y" (.required Codec.number) <|
      .cons "width" (.required Codec.number) <|
      .cons "height" (.required Codec.number) <|
      .nil)
    (fun (x, y, width, height, ()) => { x, y, width, height })
    (fun value => (value.x, value.y, value.width, value.height, ()))
    fun _ => rfl

def relationSchema : Codec Relation :=
  Codec.object
    (.cons "kind" (.required relationKindSchema) <|
      .cons "targetNodeId" (.required nodeIdSchema) <|
      .nil)
    (fun (kind, targetNodeId, ()) => { kind, targetNodeId })
    (fun value => (value.kind, value.targetNodeId, ()))
    fun _ => rfl

def textLocationSchema : Codec TextLocation :=
  Codec.object
    (.cons "start" (.required nonnegative) <|
      .cons "end" (.required nonnegative) <|
      .nil)
    (fun (start, finish, ()) => { start, finish })
    (fun value => (value.start, value.finish, ()))
    fun _ => rfl

def observedNodeSchema : Codec ObservedNode :=
  Codec.object
    (.cons "nodeId" (.required nodeIdSchema) <|
      .cons "ref" (.optional nodeIdSchema) <|
      .cons "parentId" (.optional nodeIdSchema) <|
      .cons "frameId" (.required nodeIdSchema) <|
      .cons "documentEpoch" (.required nodeIdSchema) <|
      .cons "tag" (.required (bounded 64)) <|
      .cons "role" (.optional (bounded 100)) <|
      .cons "name" (.optional nodeTextSchema) <|
      .cons "nameSource" (.optional nameSourceSchema) <|
      .cons "text" (.optional nodeTextSchema) <|
      .cons "value" (.optional nodeTextSchema) <|
      .cons "selectedLabel" (.optional nodeTextSchema) <|
      .cons "selectedLabelSource" (.optional selectedLabelSourceSchema) <|
      .cons "truncatedProperties" (.optional (Codec.list truncatedPropertySchema 0 4)) <|
      .cons "checked" (.optional Codec.boolean) <|
      .cons "enabled" (.optional Codec.boolean) <|
      .cons "visible" (.required Codec.boolean) <|
      .cons "attributes" (.required (stringRecord 80 500)) <|
      .cons "box" (.optional boxSchema) <|
      .cons "relations" (.required (Codec.list relationSchema 0 20)) <|
      .cons "textLocation" (.required textLocationSchema) <|
      .nil)
    (fun (nodeId, ref, parentId, frameId, documentEpoch, tag, role, name, nameSource, text, value,
        selectedLabel, selectedLabelSource, truncatedProperties, checked, enabled, visible,
        attributes, box, relations, textLocation, ()) =>
      { nodeId, ref, parentId, frameId, documentEpoch, tag, role, name, nameSource, text, value,
        selectedLabel, selectedLabelSource, truncatedProperties, checked, enabled, visible,
        attributes, box, relations, textLocation })
    (fun node =>
      (node.nodeId, node.ref, node.parentId, node.frameId, node.documentEpoch, node.tag, node.role,
        node.name, node.nameSource, node.text, node.value, node.selectedLabel,
        node.selectedLabelSource, node.truncatedProperties, node.checked, node.enabled,
        node.visible, node.attributes, node.box, node.relations, node.textLocation, ()))
    fun _ => rfl

def observedFrameSchema : Codec ObservedFrame :=
  Codec.object
    (.cons "frameId" (.required nodeIdSchema) <|
      .cons "documentEpoch" (.required nodeIdSchema) <|
      .cons "mutationRevision" (.optional nonnegative) <|
      .nil)
    (fun (frameId, documentEpoch, mutationRevision, ()) =>
      { frameId, documentEpoch, mutationRevision })
    (fun value => (value.frameId, value.documentEpoch, value.mutationRevision, ()))
    fun _ => rfl

def observedRegionSchema (host : Host) : Codec ObservedRegion :=
  Codec.object
    (.cons "nodeId" (.required nodeIdSchema) <|
      .cons "epoch" (.required nodeIdSchema) <|
      .cons "openedByCommandId" (.optional (uuidSchema host)) <|
      .cons "phaseProven" (.required Codec.boolean) <|
      .cons "reopened" (.required Codec.boolean) <|
      .cons "modifiedNodeIds" (.required (Codec.list nodeIdSchema 0 1000)) <|
      .nil)
    (fun (nodeId, epoch, openedByCommandId, phaseProven, reopened, modifiedNodeIds, ()) =>
      { nodeId, epoch, openedByCommandId, phaseProven, reopened, modifiedNodeIds })
    (fun value =>
      (value.nodeId, value.epoch, value.openedByCommandId, value.phaseProven, value.reopened,
        value.modifiedNodeIds, ()))
    fun _ => rfl

def consistencyIssueSchema : Codec ConsistencyIssue :=
  Codec.object
    (.cons "code" (.required (bounded 80)) <|
      .cons "frameId" (.required nodeIdSchema) <|
      .cons "nodeId" (.optional nodeIdSchema) <|
      .nil)
    (fun (code, frameId, nodeId, ()) => { code, frameId, nodeId })
    (fun value => (value.code, value.frameId, value.nodeId, ()))
    fun _ => rfl

def coverageSchema : Codec Coverage :=
  Codec.object
    (.cons "scope" (.required coverageScopeSchema) <|
      .cons "rootNodeId" (.optional nodeIdSchema) <|
      .cons "completeWithinScope" (.required Codec.boolean) <|
      .cons "truncated" (.required Codec.boolean) <|
      .cons "unavailableFrames" (.required (Codec.list nodeIdSchema 0 100)) <|
      .cons "limitEvents" (.optional (Codec.list observationLimitEventSchema 0 2)) <|
      .nil)
    (fun (scope, rootNodeId, completeWithinScope, truncated, unavailableFrames, limitEvents, ()) =>
      { scope, rootNodeId, completeWithinScope, truncated, unavailableFrames, limitEvents })
    (fun value =>
      (value.scope, value.rootNodeId, value.completeWithinScope, value.truncated,
        value.unavailableFrames, value.limitEvents, ()))
    fun _ => rfl

def isTwo : Json → Bool
  | .num number => number == 2
  | _ => false

def structuredObservationSchema (host : Host) : Codec StructuredObservation :=
  Codec.object
    (.cons "version" (.required (literal isTwo (.num 2) rfl)) <|
      .cons "captureId" (.required (uuidSchema host)) <|
      .cons "capturedFrom" (.required (datetimeSchema host)) <|
      .cons "capturedUntil" (.required (datetimeSchema host)) <|
      .cons "pageIdentity" (.required (bounded 2000)) <|
      .cons "frames" (.required (Codec.list observedFrameSchema 0 100)) <|
      .cons "nodes" (.required (Codec.list observedNodeSchema 0 8000)) <|
      .cons "renderedText" (.required (bounded 262144)) <|
      .cons "regions" (.required (Codec.list (observedRegionSchema host) 0 500)) <|
      .cons "sourceCommandId" (.optional (uuidSchema host)) <|
      .cons "consistency" (.required consistencySchema) <|
      .cons "verifiedScopeNodeIds" (.optional (Codec.list nodeIdSchema 0 8000)) <|
      .cons "consistencyIssues" (.optional (Codec.list consistencyIssueSchema 0 20)) <|
      .cons "coverage" (.required coverageSchema) <|
      .nil)
    (fun ((), captureId, capturedFrom, capturedUntil, pageIdentity, frames, nodes, renderedText,
        regions, sourceCommandId, consistency, verifiedScopeNodeIds, consistencyIssues, coverage,
        ()) =>
      { captureId, capturedFrom, capturedUntil, pageIdentity, frames, nodes, renderedText, regions,
        sourceCommandId, consistency, verifiedScopeNodeIds, consistencyIssues, coverage })
    (fun value =>
      ((), value.captureId, value.capturedFrom, value.capturedUntil, value.pageIdentity,
        value.frames, value.nodes, value.renderedText, value.regions, value.sourceCommandId,
        value.consistency, value.verifiedScopeNodeIds, value.consistencyIssues, value.coverage, ()))
    fun _ => rfl

end Devproof
