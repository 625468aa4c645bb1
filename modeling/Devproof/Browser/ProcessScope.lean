import Mathlib.Data.List.Basic
import Mathlib.Algebra.Group.Int.Defs
import Devproof.Lib.Json
import Devproof.Lib.Machine
import Devproof.Lib.Saturation

/-!
The processes of a browser session (`browser-processes.ts`): the scope captured
before its leaders are closed, and the rounds that close it.
-/

namespace Devproof

namespace BrowserProcesses

structure ObservedProcess where
  pid : Nat
  parentPid : Nat
  groupId : Nat
  startedAt : String
  command : String
  deriving Repr, DecidableEq

structure BrowserProcessScope where
  marker : String
  processes : List ObservedProcess
  groupIds : List Nat
  deriving Repr, DecidableEq

def isSessionChar (char : Char) : Bool :=
  ('a' ≤ char && char ≤ 'f') || ('0' ≤ char && char ≤ '9') || char == '-'

def validMarker (marker : String) : Bool :=
  let start := "--devproof-session-id=".toList
  start.isPrefixOf marker.toList &&
    (let sessionId := marker.toList.drop start.length
     sessionId.length == 36 && sessionId.all isSessionChar)

def validateMarker (marker : String) : Except String Unit :=
  throwIf (!validMarker marker) "Invalid browser process identity."

def hasMarker (marker : String) (row : ObservedProcess) : Bool :=
  (row.command.toList.splitOnP isSpace).contains marker.toList

def sameProcess (left right : ObservedProcess) : Bool :=
  left.pid == right.pid && left.startedAt == right.startedAt && left.command == right.command

/-! `captureBrowserProcessScope`. -/

section Capture

-- `process.pid`
variable (ownPid : Nat) (marker : String) (inventory : List ObservedProcess)

def roots : List ObservedProcess := inventory.filter (hasMarker marker)

def ownGroup : Option Nat :=
  (inventory.find? fun row => row.pid == ownPid).map ObservedProcess.groupId

def groupIds : List Nat :=
  (((roots marker inventory).filter fun root =>
    root.groupId == root.pid && ownGroup ownPid inventory != some root.groupId).map
      ObservedProcess.groupId).eraseDups

def belongs (groups owned : List Nat) (row : ObservedProcess) : Bool :=
  owned.contains row.parentPid || groups.contains row.groupId

def owned : List Nat :=
  Saturation.saturate ObservedProcess.pid (belongs (groupIds ownPid marker inventory)) inventory
    ((roots marker inventory).map ObservedProcess.pid)

def captured : BrowserProcessScope :=
  { marker
    processes := inventory.filter fun row => (owned ownPid marker inventory).contains row.pid
    groupIds := groupIds ownPid marker inventory }

def captureBrowserProcessScope : Except String BrowserProcessScope := do
  validateMarker marker
  return captured ownPid marker inventory

inductive Belongs : Nat → Prop where
  | marked {row} : row ∈ inventory → hasMarker marker row = true → Belongs row.pid
  | grouped {row} : row ∈ inventory → row.groupId ∈ groupIds ownPid marker inventory →
      Belongs row.pid
  | child {row} : row ∈ inventory → Belongs row.parentPid → Belongs row.pid

variable {ownPid marker inventory}

theorem belongs_monotone {groups few many : List Nat} {row : ObservedProcess}
    (more : ∀ pid ∈ few, pid ∈ many) (here : belongs groups few row = true) :
    belongs groups many row = true := by
  simp only [belongs, List.contains_eq_mem, Bool.or_eq_true, decide_eq_true_eq] at here ⊢
  exact here.imp_left (more _)

theorem mem_owned {pid : Nat} :
    pid ∈ owned ownPid marker inventory ↔ Belongs ownPid marker inventory pid := by
  have monotone : ∀ few many row, (∀ item ∈ few, item ∈ many) →
      belongs (groupIds ownPid marker inventory) few row = true →
      belongs (groupIds ownPid marker inventory) many row = true :=
    fun _ _ _ => belongs_monotone
  rw [owned, Saturation.mem_saturate monotone]
  constructor
  · intro joined
    induction joined with
    | first member =>
        obtain ⟨root, present, rfl⟩ := List.mem_map.mp member
        obtain ⟨listed, marked⟩ := List.mem_filter.mp present
        exact .marked listed marked
    | joined member _ goes ih =>
        simp only [belongs, List.contains_eq_mem, Bool.or_eq_true, decide_eq_true_eq] at goes
        rcases goes with parent | group
        · exact .child member (ih _ parent)
        · exact .grouped member group
  · intro here
    induction here with
    | marked member marked =>
        exact .first (List.mem_map_of_mem (List.mem_filter.mpr ⟨member, marked⟩))
    | @grouped row member group =>
        have goes : belongs (groupIds ownPid marker inventory) [] row = true := by
          simp [belongs, group]
        refine .joined member ?_ goes
        exact nofun
    | @child row member _ ih =>
        have goes : belongs (groupIds ownPid marker inventory) [row.parentPid] row = true := by
          simp [belongs]
        refine .joined member (fun pid only => ?_) goes
        rwa [List.mem_singleton.mp only]

theorem mem_groupIds {group : Nat} :
    group ∈ groupIds ownPid marker inventory ↔ ∃ root ∈ inventory, hasMarker marker root = true ∧
      root.pid = group ∧ root.groupId = group ∧ ownGroup ownPid inventory ≠ some group := by
  simp only [groupIds, roots, List.mem_eraseDups, List.mem_map, List.mem_filter, Bool.and_eq_true,
    beq_iff_eq, bne_iff_ne]
  constructor
  · rintro ⟨root, ⟨⟨listed, marked⟩, leads, other⟩, rfl⟩
    exact ⟨root, listed, marked, leads.symm, rfl, other⟩
  · rintro ⟨root, listed, marked, rfl, leads, other⟩
    exact ⟨root, ⟨⟨listed, marked⟩, leads, by rwa [leads]⟩, leads⟩

/-- The captured scope is the least one: the marked processes, those of the groups that a marked
    process leads, and the descendants of both, in the order of the inventory; and the Runtime's
    own group is never among its groups. -/
theorem captured_least (ownPid : Nat) (marker : String) (inventory : List ObservedProcess) :
    let scope := captured ownPid marker inventory
    scope.processes.Sublist inventory ∧
    (∀ row, row ∈ scope.processes ↔
      row ∈ inventory ∧ Belongs ownPid marker inventory row.pid) ∧
    (∀ group, group ∈ scope.groupIds ↔ ∃ root ∈ inventory, hasMarker marker root = true ∧
      root.pid = group ∧ root.groupId = group ∧ ownGroup ownPid inventory ≠ some group) ∧
    (captureBrowserProcessScope ownPid marker inventory = .ok scope ↔ validMarker marker = true) ∧
    (captureBrowserProcessScope ownPid marker inventory =
      .error "Invalid browser process identity." ↔ validMarker marker = false) := by
  intro scope
  refine ⟨List.filter_sublist, fun row => ?_, fun group => mem_groupIds, ?_, ?_⟩
  · simp only [scope, captured, List.mem_filter, List.contains_eq_mem, decide_eq_true_eq,
      mem_owned]
  · cases valid : validMarker marker <;>
      simp [captureBrowserProcessScope, validateMarker, throwIf, valid, scope]
  · cases valid : validMarker marker <;>
      simp [captureBrowserProcessScope, validateMarker, throwIf, valid]

end Capture

end BrowserProcesses

end Devproof
