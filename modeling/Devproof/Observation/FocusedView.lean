import Devproof.Lib.JsonSize
import Devproof.Observation.Scope

/-!
The part of an observation that the model is shown while a dialog or an expanded combobox is
open (`observation-view.ts`), and what a chain of such views has shown.
-/

namespace Devproof.FocusedView

open Parsing

def charText (char : Char) : Text :=
  if char.toNat < 0x10000 then [char.toNat.toUInt16]
  else
    let rest := char.toNat - 0x10000
    [(0xD800 + rest / 0x400).toUInt16, (0xDC00 + rest % 0x400).toUInt16]

def utf16 (text : String) : Text :=
  text.toList.flatMap charText

def slice (text : String) (place : TextLocation) : Text :=
  ((utf16 text).take place.finish.toNat).drop place.start.toNat

def lined (lines : List Text) : Text :=
  [code '\n'].intercalate lines

def roleIn (roles : List String) (node : ObservedNode) : Bool :=
  roles.contains (node.role.getD "")

def selectable (node : ObservedNode) : Bool :=
  (node.attribute "aria-selected").isSome

def hasRef (node : ObservedNode) : Bool :=
  node.ref.any (· ≠ "")

def dialogsOf (observation : StructuredObservation) : List ObservedNode :=
  observation.nodes.filter fun node =>
    node.visible && (roleIn ["dialog", "alertdialog"] node || node.tag == "dialog")

def expandedOf (observation : StructuredObservation) : List ObservedNode :=
  observation.nodes.filter fun node =>
    node.visible && node.role == some "combobox" && node.attribute "aria-expanded" == some "true"

def wordsOf (text : String) : List String :=
  ((text.toList.splitOnP isSpace).filter fun word => word ≠ []).map String.ofList

def popupIds (owner : ObservedNode) : List String :=
  uniq (wordsOf ((owner.attribute "aria-controls").getD "" ++ " " ++
    (owner.attribute "aria-owns").getD ""))

def popupFrom (nodes : List ObservedNode) : Nat → ObservedNode → Option ObservedNode
  | 0, _ => none
  | depth + 1, root =>
      if ["html", "body", "form", "dialog"].contains root.tag || roleIn ["dialog", "form"] root then
        none
      else
        let children := nodes.filter fun node => within nodes node root
        if children.any (fun node => node.role == some "combobox") ||
            decide ((children.filter (roleIn ["listbox", "menu"])).length > 1) then none
        else if children.any fun node => node.visible && hasRef node &&
            (roleIn ["option", "menuitem", "menuitemcheckbox", "menuitemradio"] node ||
              selectable node) then some root
        else (nodeById nodes root.parentId).bind (popupFrom nodes depth)

def popupOf (nodes : List ObservedNode) (owner : ObservedNode) (id : String) :
    Option ObservedNode :=
  match nodes.filter fun node => node.attribute "id" == some id &&
      node.frameId == owner.frameId && node.documentEpoch == owner.documentEpoch with
  | [start] => popupFrom nodes 4 start
  | _ => none

structure Focus where
  owner : Option ObservedNode
  roots : List ObservedNode

def focusOf (observation : StructuredObservation) : Option Focus :=
  let dialogs := dialogsOf observation
  let expanded := expandedOf observation
  if dialogs.length > 1 ∨ expanded.length > 1 then none
  else
    match expanded.head? with
    | none => if dialogs = [] then none else some { owner := none, roots := dialogs }
    | some owner =>
        let ids := popupIds owner
        if ids = [] ∨ ids.length > 4 then none
        else (ids.mapM (popupOf observation.nodes owner)).map fun popups =>
          { owner := some owner, roots := dialogs ++ popups }

def labels (focus : Focus) (node : ObservedNode) : Bool :=
  focus.owner.any fun owner => owner.relations.any fun relation =>
    relation.kind == .labelledBy && relation.targetNodeId == node.nodeId

def inside (nodes : List ObservedNode) (focus : Focus) (node : ObservedNode) : Bool :=
  focus.owner == some node || focus.roots.any fun root => within nodes node root

def scopeNodes (observation : StructuredObservation) (focus : Focus) : List ObservedNode :=
  observation.nodes.filter fun node =>
    node.visible && (inside observation.nodes focus node || labels focus node)

def scopeIdentity (observation : StructuredObservation) (focus : Focus) : String :=
  "|".intercalate ((focus.owner.map (·.nodeId)).getD "" :: focus.roots.map fun root =>
    root.nodeId ++ ":" ++ ((observation.regions.find? fun region =>
      region.nodeId == root.nodeId).map (·.epoch)).getD root.documentEpoch)

inductive ViewMode where
  | region
  | delta
  deriving Repr, DecidableEq

structure View where
  captureId : String
  scopeIdentity : String
  content : Text
  nodes : List ObservedNode
  mode : ViewMode
  baselineCaptureId : Option String
  deriving DecidableEq

structure Compared where
  parentId : Option String
  tag : String
  role : Option String
  name : Option String
  text : Option String
  value : Option String
  selectedLabel : Option String
  checked : Option Bool
  enabled : Option Bool
  visible : Bool
  deriving DecidableEq

def semantic (node : ObservedNode) : Compared where
  parentId := node.parentId
  tag := node.tag
  role := node.role
  name := node.name
  text := node.text
  value := node.value
  selectedLabel := node.selectedLabel
  checked := node.checked
  enabled := node.enabled
  visible := node.visible

def interactive (node : ObservedNode) : Bool :=
  node.enabled.isSome || ["a", "button", "input", "select", "textarea"].contains node.tag ||
    roleIn ["combobox", "switch", "checkbox", "option"] node || selectable node

def previousOf (baseline : Option View) (identity : String) : Option View :=
  baseline.filter fun view => view.scopeIdentity == identity

def keeps (focus : Focus) (previous : View) (node : ObservedNode) : Bool :=
  focus.roots.any (fun root => node.nodeId == root.nodeId) || interactive node ||
    match nodeById previous.nodes (some node.nodeId) with
    | none => true
    | some earlier => decide (semantic node ≠ semantic earlier)

def retained (focus : Focus) (previous : Option View) (nodes : List ObservedNode) :
    List ObservedNode :=
  match previous with
  | none => nodes
  | some view => nodes.filter (keeps focus view)

def hasLine (node : ObservedNode) : Bool :=
  hasRef node && decide (node.textLocation.finish > node.textLocation.start)

def linesOf (observation : StructuredObservation) (nodes : List ObservedNode) : List Text :=
  (nodes.filter hasLine).map fun node => slice observation.renderedText node.textLocation

def removedOf (previous : View) (nodes : List ObservedNode) : List String :=
  (uniq (previous.nodes.map (·.nodeId))).filter fun id =>
    !nodes.any fun node => node.nodeId == id

def heading (observation : StructuredObservation) (focus : Focus) : Text :=
  utf16 ("Observation scope: " ++
    (if focus.owner.isSome then "expanded combobox and its owned popup" else "active dialog") ++
    (if focus.owner.isSome ∧ dialogsOf observation ≠ [] then ", including the active dialog"
      else "") ++
    "; background and offscreen content omitted. " ++
    "Full observation remains available via read_observation.\n")

def deltaLine (baseline : View) (removed : List String) : Text :=
  utf16 ("Delta from " ++ baseline.captureId ++ "; unchanged descriptive text omitted. " ++
    "Only refs printed below are current. Removed nodes: " ++
    (if removed = [] then "none" else ", ".intercalate removed) ++ ".\n")

def contentOf (observation : StructuredObservation) (focus : Focus) (previous : Option View) :
    Text :=
  let nodes := scopeNodes observation focus
  heading observation focus ++
    (match previous with
      | none => []
      | some view => deltaLine view (removedOf view nodes)) ++
    lined (linesOf observation (retained focus previous nodes))

def viewOf (observation : StructuredObservation) (focus : Focus) (baseline : Option View) : View :=
  let identity := scopeIdentity observation focus
  let previous := previousOf baseline identity
  { captureId := observation.captureId
    scopeIdentity := identity
    content := contentOf observation focus previous
    nodes := scopeNodes observation focus
    mode := if previous.isSome then .delta else .region
    baselineCaptureId := previous.map (·.captureId) }

def focusedObservation (observation : StructuredObservation) (baseline : Option View) :
    Option View :=
  if observation.coverage.truncated || !observation.coverage.completeWithinScope ||
      !observation.coverage.unavailableFrames.isEmpty then none
  else
    (focusOf observation).bind fun focus =>
      let view := viewOf observation focus baseline
      let previous := previousOf baseline view.scopeIdentity
      if linesOf observation (retained focus previous view.nodes) = [] then none
      else if byteLength view.content ≥ byteLength (utf16 observation.renderedText) then none
      else some view

end Devproof.FocusedView
