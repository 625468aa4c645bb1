import Mathlib.Tactic.SplitIfs
import Devproof.Lib.JsonOrder
import Devproof.Lib.JsonSize

/-!
Summaries of tool results, cut down to a number of bytes (`compactValue` in
`operation-summary.ts`).
-/

namespace Devproof.OperationSummary

open Parsing

def excluded : List Text :=
  ["dataBase64", "reasoning_content", "reasoning", "reasoning_details"].map (·.toList.map code)

def previewName : Text := "preview".toList.map code
def truncatedName : Text := "truncated".toList.map code
def totalCharsName : Text := "totalChars".toList.map code
def omittedItemsName : Text := "omittedItems".toList.map code

def truncatedMember : Text × Value := (truncatedName, .bool true)

def count (total : Nat) : Value :=
  .num (.finite total)

structure Limits where
  text : Nat
  array : Nat
  depth : Nat
  deriving Repr, DecidableEq

def initialLimits (maxBytes : Nat) (preserveDetails : Bool) : Limits where
  text := if preserveDetails then maxBytes else 1200
  array := if preserveDetails then maxBytes else 8
  depth := if preserveDetails then 20 else 7

def Limits.halved (limits : Limits) : Limits :=
  { limits with text := limits.text / 2, array := max 1 (limits.array / 2) }

mutual
def visit (limits : Limits) : Value → Nat → Value
  | .str text, _ =>
      if text.length ≤ limits.text then .str text
      else .obj [(previewName, .str (text.take limits.text)), truncatedMember,
        (totalCharsName, count text.length)]
  | .arr items, depth =>
      if limits.depth ≤ depth then .obj [truncatedMember]
      else if limits.array < items.length then
        .arr ((visitItems limits items (depth + 1)).take limits.array ++
          [.obj [(omittedItemsName, count (items.length - limits.array))]])
      else .arr (visitItems limits items (depth + 1))
  | .obj members, depth =>
      if limits.depth ≤ depth then .obj [truncatedMember]
      else .obj (visitMembers limits members (depth + 1))
  | value, _ => value

/-- Visiting has no effects, so that what a cut drops may be visited too. -/
def visitItems (limits : Limits) : List Value → Nat → List Value
  | [], _ => []
  | item :: rest, depth => visit limits item depth :: visitItems limits rest depth

def visitMembers (limits : Limits) : List (Text × Value) → Nat → List (Text × Value)
  | [], _ => []
  | (key, child) :: rest, depth =>
      if key ∈ excluded then visitMembers limits rest depth
      else (key, visit limits child depth) :: visitMembers limits rest depth
end

def routingKeys : List Text :=
  ["accepted", "status", "code", "nextAction", "observationId", "error", "recordUpdates",
    "locatorRecovery", "result"].map (·.toList.map code)

def object : Value → List (Text × Value)
  | .obj members => members
  | _ => []

section Compact

variable (formatNumber : Rat → Text)

def byteSize (value : Value) : Nat :=
  byteLength (stringify formatNumber value)

def shrink (value : Value) (maxBytes : Nat) (limits : Limits) : Value :=
  if maxBytes < byteSize formatNumber (visit limits value 0) ∧ 60 < limits.text then
    shrink value maxBytes limits.halved
  else visit limits value 0
termination_by limits.text
decreasing_by
  rename_i again
  exact Nat.div_lt_self (Nat.lt_trans (by decide) again.2) (by decide)

theorem share_small {maxBytes used others : Nat}
    (room : ¬((maxBytes : Int) - used - 32) / (others + 1 : Nat) < 64) :
    (((maxBytes : Int) - used - 32) / (others + 1 : Nat)).toNat < maxBytes := by
  have positive : (0 : Int) ≤ (maxBytes : Int) - used - 32 := by
    by_contra negative
    have below := Int.ediv_neg_of_neg_of_pos (Int.not_le.mp negative)
      (Int.natCast_pos.mpr (Nat.zero_lt_succ others) : (0 : Int) < (others + 1 : Nat))
    omega
  have whole := Int.ediv_le_self ((others + 1 : Nat) : Int) positive
  omega

mutual
def compactValue (value : Value) (maxBytes : Nat) (preserveDetails : Bool) : Value :=
  let result := shrink formatNumber value maxBytes (initialLimits maxBytes preserveDetails)
  if byteSize formatNumber result ≤ maxBytes then result
  else
    .obj (addFields (object value) maxBytes
      (routingKeys.filter fun key => (object value).any fun entry => entry.1 == key)
      [truncatedMember])
termination_by (maxBytes, 10)
decreasing_by
  refine Prod.Lex.right _ (Nat.lt_succ_of_le ?_)
  exact (List.length_filter_le _ _).trans (Nat.le_refl 9)

def addFields (source : List (Text × Value)) (maxBytes : Nat) :
    List Text → List (Text × Value) → List (Text × Value)
  | [], fallback => fallback
  | key :: keys, fallback =>
      let remaining : Int := maxBytes - byteSize formatNumber (.obj fallback) - 32
      let budget : Int := remaining / (keys.length + 1 : Nat)
      if budget < 64 then addFields source maxBytes keys fallback
      else
        let child := compactValue ((source.lookup key).getD .null) budget.toNat false
        if byteSize formatNumber (.obj (fallback ++ [(key, child)])) ≤ maxBytes then
          addFields source maxBytes keys (fallback ++ [(key, child)])
        else addFields source maxBytes keys fallback
termination_by keys => (maxBytes, keys.length)
decreasing_by
  · exact Prod.Lex.right _ (Nat.lt_succ_self _)
  · rename_i room
    exact Prod.Lex.left _ _ (share_small room)
  · exact Prod.Lex.right _ (Nat.lt_succ_self _)
  · exact Prod.Lex.right _ (Nat.lt_succ_self _)
end

end Compact

def Clean (value : Value) : Prop :=
  value.Well (fun _ => True) fun names => ∀ name ∈ names, name ∉ excluded

def Unmarked (value : Value) : Prop :=
  value.Well (fun _ => True) fun names => truncatedName ∉ names ∧ omittedItemsName ∉ names

mutual
def stripped : Value → Value
  | .arr items => .arr (strippedItems items)
  | .obj members => .obj (strippedMembers members)
  | value => value

def strippedItems : List Value → List Value
  | [] => []
  | item :: rest => stripped item :: strippedItems rest

def strippedMembers : List (Text × Value) → List (Text × Value)
  | [] => []
  | (key, child) :: rest =>
      if key ∈ excluded then strippedMembers rest
      else (key, stripped child) :: strippedMembers rest
end

theorem marker_clean {members : List (Text × Value)} (known : ∀ entry ∈ members,
    entry.1 ∈ [previewName, truncatedName, totalCharsName, omittedItemsName] ∧ Clean entry.2) :
    Clean (.obj members) := by
  have apart : ∀ name ∈ [previewName, truncatedName, totalCharsName, omittedItemsName],
      name ∉ excluded := by decide
  refine well_obj_iff.mpr ⟨fun name member => ?_, fun entry member => (known entry member).2⟩
  obtain ⟨entry, inside, rfl⟩ := List.mem_map.mp member
  exact apart entry.1 (known entry inside).1

theorem visitItems_eq (limits : Limits) (items : List Value) (depth : Nat) :
    visitItems limits items depth = items.map fun item => visit limits item depth := by
  induction items with
  | nil => rfl
  | cons item rest ih => rw [visitItems, ih, List.map_cons]

theorem visitMembers_eq (limits : Limits) (members : List (Text × Value)) (depth : Nat) :
    visitMembers limits members depth =
      (members.filter fun entry => entry.1 ∉ excluded).map
        fun entry => (entry.1, visit limits entry.2 depth) := by
  induction members with
  | nil => rfl
  | cons entry rest ih =>
      obtain ⟨key, child⟩ := entry
      rw [visitMembers]
      split_ifs with out
      · rw [ih, List.filter_cons_of_neg (by simpa using out)]
      · rw [ih, List.filter_cons_of_pos (by simpa using out), List.map_cons]

theorem strippedItems_eq (items : List Value) : strippedItems items = items.map stripped := by
  induction items with
  | nil => rfl
  | cons item rest ih => rw [strippedItems, ih, List.map_cons]

theorem strippedMembers_eq (members : List (Text × Value)) :
    strippedMembers members =
      (members.filter fun entry => entry.1 ∉ excluded).map
        fun entry => (entry.1, stripped entry.2) := by
  induction members with
  | nil => rfl
  | cons entry rest ih =>
      obtain ⟨key, child⟩ := entry
      rw [strippedMembers]
      split_ifs with out
      · rw [ih, List.filter_cons_of_neg (by simpa using out)]
      · rw [ih, List.filter_cons_of_pos (by simpa using out), List.map_cons]

theorem visit_clean (limits : Limits) (value : Value) (depth : Nat) :
    Clean (visit limits value depth) := by
  induction value using Value.induct generalizing depth with
  | null => exact .null
  | bool value => exact .bool value
  | num value => exact .num trivial
  | str text =>
      rw [visit]
      split_ifs
      · exact .str text
      · refine marker_clean fun entry member => ?_
        simp only [List.mem_cons, List.not_mem_nil, or_false] at member
        rcases member with rfl | rfl | rfl
        · exact ⟨by simp, .str _⟩
        · exact ⟨by simp [truncatedMember], .bool true⟩
        · exact ⟨by simp, .num trivial⟩
  | arr items ih =>
      have cut : Clean (.obj [truncatedMember]) := marker_clean fun entry member => by
        rw [List.mem_singleton.mp member]
        exact ⟨by simp [truncatedMember], .bool true⟩
      have visited : ∀ item ∈ visitItems limits items (depth + 1), Clean item := by
        rw [visitItems_eq]
        intro item member
        obtain ⟨known, inside, rfl⟩ := List.mem_map.mp member
        exact ih known inside (depth + 1)
      rw [visit]
      split_ifs with deep long
      · exact cut
      · refine well_arr_iff.mpr fun item member => ?_
        rcases List.mem_append.mp member with kept | marker
        · exact visited item (List.mem_of_mem_take kept)
        · rw [List.mem_singleton.mp marker]
          refine marker_clean fun entry inside => ?_
          rw [List.mem_singleton.mp inside]
          exact ⟨by simp, .num trivial⟩
      · exact well_arr_iff.mpr visited
  | obj members ih =>
      rw [visit]
      split_ifs with deep
      · refine marker_clean fun entry member => ?_
        rw [List.mem_singleton.mp member]
        exact ⟨by simp [truncatedMember], .bool true⟩
      · rw [visitMembers_eq]
        refine well_obj_iff.mpr ⟨fun name member => ?_, fun entry member => ?_⟩
        · obtain ⟨entry, inside, rfl⟩ := List.mem_map.mp member
          obtain ⟨known, kept, rfl⟩ := List.mem_map.mp inside
          simpa using (List.mem_filter.mp kept).2
        · obtain ⟨known, kept, rfl⟩ := List.mem_map.mp member
          exact ih known (List.mem_filter.mp kept).1 (depth + 1)

theorem truncated_marked {members : List (Text × Value)} (inside : truncatedMember ∈ members) :
    ¬Unmarked (.obj members) := by
  intro unmarked
  exact (well_obj_iff.mp unmarked).1.1 (List.mem_map_of_mem inside)

/-- Every cut leaves a marker. -/
theorem visit_unmarked (limits : Limits) (value : Value) (depth : Nat)
    (unmarked : Unmarked (visit limits value depth)) : visit limits value depth = stripped value := by
  induction value using Value.induct generalizing depth with
  | null => rfl
  | bool value => rfl
  | num value => rfl
  | str text =>
      rw [visit] at unmarked ⊢
      split_ifs at unmarked ⊢ with short
      · rfl
      · exact absurd unmarked (truncated_marked (by simp))
  | arr items ih =>
      rw [visit] at unmarked ⊢
      split_ifs at unmarked ⊢ with deep long
      · exact absurd unmarked (truncated_marked (by simp))
      · have marker := well_arr_iff.mp unmarked _ (List.mem_append_right _ (List.mem_singleton_self _))
        exact absurd (List.mem_singleton_self _) (well_obj_iff.mp marker).1.2
      · rw [visitItems_eq] at unmarked ⊢
        rw [stripped, strippedItems_eq]
        refine congrArg Value.arr (List.map_congr_left fun item member => ?_)
        exact ih item member (depth + 1)
          (well_arr_iff.mp unmarked _ (List.mem_map_of_mem member))
  | obj members ih =>
      rw [visit] at unmarked ⊢
      split_ifs at unmarked ⊢ with deep
      · exact absurd unmarked (truncated_marked (by simp))
      · rw [visitMembers_eq] at unmarked ⊢
        rw [stripped, strippedMembers_eq]
        refine congrArg Value.obj (List.map_congr_left fun entry member => ?_)
        have child := (well_obj_iff.mp unmarked).2 _ (List.mem_map_of_mem member)
        rw [ih entry (List.mem_filter.mp member).1 (depth + 1) child]

section Bound

variable {formatNumber : Rat → Text}

theorem shrink_visit (value : Value) (maxBytes : Nat) (limits : Limits) :
    ∃ used, shrink formatNumber value maxBytes limits = visit used value 0 := by
  fun_induction shrink formatNumber value maxBytes limits with
  | case1 limits again ih => exact ih
  | case2 limits done => exact ⟨limits, rfl⟩

theorem truncated_size : byteSize formatNumber (.obj [truncatedMember]) = 18 := rfl

structure Fitting (formatNumber : Rat → Text) (maxBytes : Nat) (fallback : List (Text × Value)) :
    Prop where
  fits : byteSize formatNumber (.obj fallback) ≤ maxBytes
  clean : Clean (.obj fallback)
  marked : truncatedMember ∈ fallback

theorem fitting_start {maxBytes : Nat} (enough : 18 ≤ maxBytes) :
    Fitting formatNumber maxBytes [truncatedMember] where
  fits := by rwa [truncated_size]
  clean := marker_clean fun entry member => by
    rw [List.mem_singleton.mp member]
    exact ⟨by simp [truncatedMember], .bool true⟩
  marked := List.mem_singleton_self _

theorem Fitting.add {maxBytes : Nat} {fallback : List (Text × Value)} {key : Text} {child : Value}
    (fitting : Fitting formatNumber maxBytes fallback) (known : key ∈ routingKeys)
    (clean : Clean child)
    (fits : byteSize formatNumber (.obj (fallback ++ [(key, child)])) ≤ maxBytes) :
    Fitting formatNumber maxBytes (fallback ++ [(key, child)]) := by
  have apart : ∀ name ∈ routingKeys, name ∉ excluded := by decide
  obtain ⟨names, children⟩ := well_obj_iff.mp fitting.clean
  refine ⟨fits, well_obj_iff.mpr ⟨fun name member => ?_, fun entry member => ?_⟩,
    List.mem_append_left _ fitting.marked⟩
  · rw [List.map_append, List.mem_append] at member
    rcases member with before | new
    · exact names name before
    · rw [List.mem_singleton.mp new]
      exact apart key known
  · rcases List.mem_append.mp member with before | new
    · exact children entry before
    · rw [List.mem_singleton.mp new]
      exact clean

structure Compacts (formatNumber : Rat → Text) (value : Value) (maxBytes : Nat) (result : Value) :
    Prop where
  fits : byteSize formatNumber result ≤ maxBytes
  clean : Clean result
  honest : Unmarked result → result = stripped value

theorem addFields_fitting {source : List (Text × Value)} {maxBytes : Nat}
    (shorter : ∀ budget < maxBytes, 18 ≤ budget → ∀ child,
      Clean (compactValue formatNumber child budget false))
    (keys : List Text) (known : ∀ key ∈ keys, key ∈ routingKeys) {fallback : List (Text × Value)}
    (fitting : Fitting formatNumber maxBytes fallback) :
    Fitting formatNumber maxBytes (addFields formatNumber source maxBytes keys fallback) := by
  induction keys generalizing fallback with
  | nil => rwa [addFields]
  | cons key keys ih =>
      obtain ⟨here, later⟩ := List.forall_mem_cons.mp known
      rw [addFields]
      simp only
      split_ifs with tight fits
      · exact ih later fitting
      · refine ih later (fitting.add here (shorter _ (share_small tight) ?_ _) fits)
        omega
      · exact ih later fitting

/-- A compacted value fits, holds nothing excluded and says when something is missing. -/
theorem compactValue_compacts (maxBytes : Nat) (enough : 18 ≤ maxBytes) (value : Value)
    (preserveDetails : Bool) :
    Compacts formatNumber value maxBytes
      (compactValue formatNumber value maxBytes preserveDetails) := by
  induction maxBytes using Nat.strongRecOn generalizing value preserveDetails with
  | ind maxBytes ih =>
      rw [compactValue]
      obtain ⟨used, shown⟩ := @shrink_visit formatNumber value maxBytes
        (initialLimits maxBytes preserveDetails)
      simp only [shown]
      split_ifs with small
      · exact ⟨small, visit_clean used value 0, visit_unmarked used value 0⟩
      · have fitting := @addFields_fitting formatNumber (object value) maxBytes
          (fun budget less enough child => (ih budget less enough child false).clean)
          (routingKeys.filter fun key => (object value).any fun entry => entry.1 == key)
          (fun key member => (List.mem_filter.mp member).1) _ (fitting_start enough)
        exact ⟨fitting.fits, fitting.clean,
          fun unmarked => absurd unmarked (truncated_marked fitting.marked)⟩

theorem compactValue_compacts_cut :
    Compacts (fun number => (toString number.num).toList.map code)
      (.obj [(previewName, .str (List.replicate 40 (code 'a')))]) 30
      (compactValue (fun number => (toString number.num).toList.map code)
        (.obj [(previewName, .str (List.replicate 40 (code 'a')))]) 30 false) :=
  compactValue_compacts 30 (by decide) _ _

end Bound

end Devproof.OperationSummary
