import Devproof.Browser.ObservationPages
import Devproof.Lib.JsonBytes

/-!
Trimming an observation to the limits of its schema (`trimObservation` in
`observation-budget.ts`).
-/

namespace Devproof.ObservationBudget

open Parsing

/-! Observations, with the members that trimming reads or changes. -/

structure TextLocation where
  start : Nat
  stop : Nat
  deriving DecidableEq

/-- Integers of the schema are safe ones. -/
def TextLocation.Safe (location : TextLocation) : Prop :=
  location.start < 2 ^ 53 ∧ location.stop < 2 ^ 53

structure Relation where
  kind : Text
  targetNodeId : Text

structure ObservedNode where
  nodeId : Text
  ref : Option Text
  relations : List Relation
  textLocation : TextLocation
  others : List (Text × Value)

structure Region where
  nodeId : Text
  modifiedNodeIds : List Text
  others : List (Text × Value)

structure Coverage where
  completeWithinScope : Bool
  truncated : Bool
  limitEvents : Option (List Value)
  others : List (Text × Value)

structure StructuredObservation where
  nodes : List ObservedNode
  renderedText : Text
  regions : List Region
  verifiedScopeNodeIds : Option (List Text)
  coverage : Coverage
  others : List (Text × Value)

def STRUCTURED_OBSERVATION_MAX_BYTES : Nat :=
  2 * 1024 * 1024

def STRUCTURED_OBSERVATION_MAX_NODES : Nat :=
  8000

def STRUCTURED_OBSERVATION_MAX_REGIONS : Nat :=
  500

def STRUCTURED_OBSERVATION_MAX_TEXT_CHARACTERS : Nat :=
  256 * 1024

def member (name : String) (value : Value) : Text × Value :=
  (name.toList.map code, value)

def optional (name : String) (value : Option Value) : List (Text × Value) :=
  (value.map (member name)).toList

def natural (value : Nat) : Value :=
  .num (.finite value)

def TextLocation.json (location : TextLocation) : Value :=
  .obj [member "start" (natural location.start), member "end" (natural location.stop)]

def Relation.json (relation : Relation) : Value :=
  .obj [member "kind" (.str relation.kind), member "targetNodeId" (.str relation.targetNodeId)]

def ObservedNode.json (node : ObservedNode) : Value :=
  .obj (member "nodeId" (.str node.nodeId) :: (optional "ref" (node.ref.map .str) ++
    member "relations" (.arr (node.relations.map Relation.json)) ::
      member "textLocation" node.textLocation.json :: node.others))

def Region.json (region : Region) : Value :=
  .obj (member "nodeId" (.str region.nodeId) ::
    member "modifiedNodeIds" (.arr (region.modifiedNodeIds.map .str)) :: region.others)

def Coverage.json (coverage : Coverage) : Value :=
  .obj (member "completeWithinScope" (.bool coverage.completeWithinScope) ::
    member "truncated" (.bool coverage.truncated) ::
      (optional "limitEvents" (coverage.limitEvents.map .arr) ++ coverage.others))

def StructuredObservation.json (observation : StructuredObservation) : Value :=
  .obj (member "nodes" (.arr (observation.nodes.map ObservedNode.json)) ::
    member "renderedText" (.str observation.renderedText) ::
      member "regions" (.arr (observation.regions.map Region.json)) ::
        member "coverage" observation.coverage.json ::
          (optional "verifiedScopeNodeIds"
            (observation.verifiedScopeNodeIds.map fun ids => .arr (ids.map .str)) ++
              observation.others))

def opening : Text :=
  "[ref=".toList.map code

def markerAt (text : Text) : Option Text :=
  if opening.isPrefixOf text then
    let tail := text.drop opening.length
    let ref := tail.takeWhile (· != code ']')
    if ref = [] ∨ tail.dropWhile (· != code ']') = [] then none else some ref
  else none

def firstRef : Text → Option Text
  | [] => none
  | unit :: rest =>
      match markerAt (unit :: rest) with
      | some ref => some ref
      | none => firstRef rest

section Trim

variable (formatNumber : Rat → Text)

def bytes (observation : StructuredObservation) : Nat :=
  byteLength (stringify formatNumber observation.json)

def marked (observation : StructuredObservation) (event : Value) : StructuredObservation :=
  { observation with
    coverage := { observation.coverage with
      completeWithinScope := false
      truncated := true
      limitEvents := some ((observation.coverage.limitEvents.getD []).take 1 ++ [event]) } }

def cutText (observation : StructuredObservation) : Text :=
  observation.renderedText.take STRUCTURED_OBSERVATION_MAX_TEXT_CHARACTERS

def candidates (observation : StructuredObservation) : List ObservedNode :=
  observation.nodes.take STRUCTURED_OBSERVATION_MAX_NODES

def applyCount (observation : StructuredObservation) (count : Nat) : StructuredObservation :=
  let nodes := (candidates observation).take count
  let ids := nodes.map ObservedNode.nodeId
  let text := cutText observation
  { observation with
    nodes := nodes.map fun node =>
      { node with
        relations := node.relations.filter fun relation => ids.contains relation.targetNodeId
        textLocation :=
          if text.length < node.textLocation.stop then ⟨0, 0⟩ else node.textLocation }
    verifiedScopeNodeIds := observation.verifiedScopeNodeIds.map fun verified =>
      verified.filter ids.contains
    regions := (observation.regions.filter fun region => ids.contains region.nodeId).take
      STRUCTURED_OBSERVATION_MAX_REGIONS
    renderedText := text }

def fits (observation : StructuredObservation) (count : Nat) : Bool :=
  bytes formatNumber (applyCount observation count) ≤ STRUCTURED_OBSERVATION_MAX_BYTES - 4096

def keptCount (observation : StructuredObservation) : Nat :=
  ObservationPages.search (fits formatNumber observation) 0 (candidates observation).length

def placed (keeps : Text → Bool) : List Text → Nat → List Text × List (Text × TextLocation)
  | [], _ => ([], [])
  | line :: rest, offset =>
      let later := placed keeps rest (offset + line.length + 1)
      match firstRef line with
      | none => (line :: later.1, later.2)
      | some ref =>
          if keeps ref then (line :: later.1, (ref, ⟨offset, offset + line.length⟩) :: later.2)
          else placed keeps rest offset

def relocated (places : List (Text × TextLocation)) : List ObservedNode → List ObservedNode
  | [] => []
  | node :: rest =>
      let owned := node.ref.bind fun ref =>
        if rest.any fun other => other.ref = some ref then none
        else ((places.filter fun place => place.1 = ref).getLast?).map Prod.snd
      { node with textLocation := owned.getD ⟨0, 0⟩ } :: relocated places rest

def keepsRef (nodes : List ObservedNode) (ref : Text) : Bool :=
  nodes.any fun node => node.ref = some ref

def trimObservation (observation : StructuredObservation) (event : Value) :
    StructuredObservation :=
  let applied := applyCount (marked observation event)
    (keptCount formatNumber (marked observation event))
  let lines := placed (keepsRef applied.nodes) (applied.renderedText.splitOn newline) 0
  { applied with
    nodes := relocated lines.2 applied.nodes
    renderedText := Devproof.joined newline lines.1 }

end Trim

def TextLocation.Empty (location : TextLocation) : Prop :=
  location.start = location.stop

def Spans (text : Text) (location : TextLocation) (line : Text) : Prop :=
  ∃ before after, text.splitOn newline = before ++ line :: after ∧
    location.start = (before.map fun line => line.length + 1).sum ∧
    location.stop = location.start + line.length

def ids (observation : StructuredObservation) : List Text :=
  observation.nodes.map ObservedNode.nodeId

structure Trimmed (formatNumber : Rat → Text) (original result : StructuredObservation) :
    Prop where
  bytes : bytes formatNumber result ≤ STRUCTURED_OBSERVATION_MAX_BYTES
  nodes : result.nodes.length ≤ STRUCTURED_OBSERVATION_MAX_NODES
  regions : result.regions.length ≤ STRUCTURED_OBSERVATION_MAX_REGIONS
  text : result.renderedText.length ≤ STRUCTURED_OBSERVATION_MAX_TEXT_CHARACTERS
  relations : ∀ node ∈ result.nodes, ∀ relation ∈ node.relations,
    relation.targetNodeId ∈ ids result
  linked : ∀ region ∈ result.regions, region.nodeId ∈ ids result ∧
    ∀ id ∈ region.modifiedNodeIds, id ∈ ids result
  verified : ∀ verified, result.verifiedScopeNodeIds = some verified →
    ∀ id ∈ verified, id ∈ ids result
  coverage : result.coverage.truncated = true ∧ result.coverage.completeWithinScope = false
  located : ∀ node ∈ result.nodes, node.ref ≠ none → node.textLocation.Empty ∨
    ∃ old ∈ original.nodes, old.nodeId = node.nodeId ∧ ∃ line,
      Spans original.renderedText old.textLocation line ∧
        Spans result.renderedText node.textLocation line
  removed : ∀ old ∈ original.nodes, old.nodeId ∉ ids result → ¬ old.textLocation.Empty →
    ∀ line, Spans original.renderedText old.textLocation line →
      line ∉ result.renderedText.splitOn newline

/-- A count of nodes with which the observation is within its limit, and with one more it is not
or there are no more. -/
def LastFit (formatNumber : Rat → Text) (observation : StructuredObservation) (count : Nat) :
    Prop :=
  count ≤ (candidates observation).length ∧ fits formatNumber observation count = true ∧
    (count = (candidates observation).length ∨
      fits formatNumber observation (count + 1) = false)

/-- What the text says of the first `count` nodes and of the others. -/
structure LegibleAt (observation : StructuredObservation) (count : Nat) : Prop where
  gone : ∀ node ∈ observation.nodes.drop count, ¬ node.textLocation.Empty → ∀ line,
    Spans observation.renderedText node.textLocation line →
      line ∈ (cutText observation).splitOn newline →
        ∃ ref, firstRef line = some ref ∧ ∀ kept ∈ observation.nodes.take count,
          kept.ref ≠ some ref
  owned : ∀ node ∈ observation.nodes.take count, ∀ ref, node.ref = some ref → ∀ location line,
    Spans (cutText observation) location line → firstRef line = some ref →
      location = node.textLocation ∧ Spans observation.renderedText location line
  modified : ∀ region ∈ observation.regions,
    region.nodeId ∈ (observation.nodes.take count).map ObservedNode.nodeId →
      ∀ id ∈ region.modifiedNodeIds,
        id ∈ (observation.nodes.take count).map ObservedNode.nodeId

structure Legible (formatNumber : Rat → Text) (observation : StructuredObservation)
    (event : Value) : Prop where
  base : fits formatNumber (marked observation event) 0 = true
  legible : ∀ count, LastFit formatNumber (marked observation event) count →
    LegibleAt observation count

end Devproof.ObservationBudget
