import Mathlib.Data.List.Pairwise
import Devproof.Browser.ObservationBudget

/-!
When a trimmed observation is what it should be: every line with the marker of a node that
stays belongs to it, and no line of a node that goes has such a marker.
-/

namespace Devproof.ObservationBudget

open Parsing

section Lines

variable {keeps : Text → Bool}

theorem placed_sublist (lines : List Text) (offset : Nat) :
    (placed keeps lines offset).1.Sublist lines := by
  induction lines generalizing offset with
  | nil => exact List.Sublist.slnil
  | cons line rest ih =>
      rw [placed]
      split
      · exact (ih _).cons_cons line
      · split
        · exact (ih _).cons_cons line
        · exact (ih _).cons line

theorem placed_keeps {lines : List Text} {offset : Nat} {line ref : Text}
    (stays : line ∈ (placed keeps lines offset).1) (first : firstRef line = some ref) :
    keeps ref = true := by
  induction lines generalizing offset with
  | nil => cases stays
  | cons head rest ih =>
      rw [placed] at stays
      split at stays
      · rename_i none
        rcases List.mem_cons.mp stays with rfl | later
        · rw [first] at none
          cases none
        · exact ih later
      · rename_i known found
        split at stays
        · rename_i kept
          rcases List.mem_cons.mp stays with rfl | later
          · obtain rfl := Option.some.inj (first.symm.trans found)
            exact kept
          · exact ih later
        · exact ih stays

def width (lines : List Text) : Nat :=
  (lines.map fun line => line.length + 1).sum

theorem width_cons (line : Text) (rest : List Text) :
    width (line :: rest) = line.length + 1 + width rest := by
  simp [width]

theorem width_append (before after : List Text) :
    width (before ++ after) = width before + width after := by
  simp [width]

theorem width_sublist {small large : List Text} (part : small.Sublist large) :
    width small ≤ width large := by
  induction part with
  | slnil => exact le_refl _
  | cons line part ih =>
      rw [width_cons]
      omega
  | cons_cons line part ih =>
      rw [width_cons, width_cons]
      omega

theorem placed_places {lines : List Text} {offset : Nat} {ref : Text} {location : TextLocation}
    (put : (ref, location) ∈ (placed keeps lines offset).2) :
    ∃ line before after, lines = before ++ line :: after ∧ firstRef line = some ref ∧
      ∃ before' after', (placed keeps lines offset).1 = before' ++ line :: after' ∧
        before'.Sublist before ∧ location.start = offset + width before' ∧
          location.stop = location.start + line.length := by
  induction lines generalizing offset with
  | nil => cases put
  | cons head rest ih =>
      rw [placed] at put ⊢
      split at put
      · obtain ⟨line, before, after, split, first, before', after', split', part, start, stop⟩ :=
          ih put
        refine ⟨line, head :: before, after, by rw [split]; rfl, first, head :: before', after',
          by rw [split']; rfl, part.cons_cons head, ?_, stop⟩
        rw [start, width_cons]
        omega
      · rename_i known found
        by_cases kept : keeps known = true
        · rw [if_pos kept] at put ⊢
          rcases List.mem_cons.mp put with same | later
          · obtain ⟨rfl, rfl⟩ := Prod.mk.inj same
            exact ⟨head, [], rest, rfl, found, [], _, rfl, List.Sublist.slnil, rfl, rfl⟩
          · obtain ⟨line, before, after, split, first, before', after', split', part, start,
              stop⟩ := ih later
            refine ⟨line, head :: before, after, by rw [split]; rfl, first, head :: before', after',
              by rw [split']; rfl, part.cons_cons head, ?_, stop⟩
            rw [start, width_cons]
            omega
        · rw [if_neg kept] at put ⊢
          obtain ⟨line, before, after, split, first, before', after', split', part, start, stop⟩ :=
            ih put
          exact ⟨line, head :: before, after, by rw [split]; rfl, first, before', after', split',
            part.cons head, start, stop⟩

theorem joined_width {lines : List Text} (nonempty : lines ≠ []) :
    (Devproof.joined newline lines).length + 1 = width lines := by
  induction lines with
  | nil => exact absurd rfl nonempty
  | cons line rest ih =>
      cases rest with
      | nil => simp [width]
      | cons next others =>
          have later := ih (List.cons_ne_nil _ _)
          rw [joined_cons_cons, width_cons, List.length_append, List.length_cons]
          omega

theorem joined_lines (text : Text) : Devproof.joined newline (text.splitOn newline) = text :=
  List.intercalate_splitOn newline

theorem split_joined {lines : List Text} {text : Text} (part : lines.Sublist (text.splitOn newline))
    (nonempty : lines ≠ []) : (Devproof.joined newline lines).splitOn newline = lines :=
  List.splitOn_intercalate newline
    (fun line member => splitOn_separator newline text line (part.subset member)) nonempty

theorem joined_part {lines : List Text} {text : Text}
    (part : lines.Sublist (text.splitOn newline)) :
    (Devproof.joined newline lines).length ≤ text.length := by
  cases lines with
  | nil => exact Nat.zero_le _
  | cons line rest =>
      have some : text.splitOn newline ≠ [] := fun none => by
        rw [none] at part
        cases part
      have small := joined_width (List.cons_ne_nil line rest)
      have large := joined_width some
      rw [joined_lines] at large
      have below := width_sublist part
      omega

theorem Spans.stop_le {text : Text} {location : TextLocation} {line : Text}
    (spans : Spans text location line) : location.stop ≤ text.length := by
  obtain ⟨before, after, split, start, stop⟩ := spans
  have whole := @joined_width (text.splitOn newline) (by simp [split])
  rw [joined_lines, split, width_append, width_cons] at whole
  change location.start = width before at start
  omega

end Lines

theorem relocated_cases {places : List (Text × TextLocation)} {nodes : List ObservedNode}
    {holds : ObservedNode → ObservedNode → Prop}
    (empty : ∀ node ∈ nodes, holds { node with textLocation := ⟨0, 0⟩ } node)
    (put : ∀ node ∈ nodes, ∀ ref location, node.ref = some ref → (ref, location) ∈ places →
      holds { node with textLocation := location } node) :
    List.Forall₂ holds (relocated places nodes) nodes := by
  induction nodes with
  | nil => exact .nil
  | cons node rest ih =>
      refine .cons ?_ (ih (fun other member => empty other (List.mem_cons_of_mem _ member))
        fun other member => put other (List.mem_cons_of_mem _ member))
      cases named : node.ref with
      | none => simpa [named] using empty node List.mem_cons_self
      | some ref =>
          simp only [Option.bind_some]
          split
          · simpa [named] using empty node List.mem_cons_self
          · cases last : (places.filter fun place => place.1 = ref).getLast? with
            | none => simpa [named] using empty node List.mem_cons_self
            | some place =>
                obtain ⟨member, same⟩ := List.mem_filter.mp (List.mem_of_getLast? last)
                obtain ⟨known, location⟩ := place
                have equal : known = ref := by simpa using same
                subst equal
                simpa [named] using put node List.mem_cons_self known location named member

/-- Numbers are written in whole characters, and safe integers digit by digit. -/
structure Decimals (formatNumber : Rat → Text) : Prop where
  whole : ∀ number, Whole (formatNumber number)
  longer : ∀ small large : Nat, small ≤ large → large < 2 ^ 53 →
    byteLength (formatNumber small) ≤ byteLength (formatNumber large)

section Sizes

variable {formatNumber : Rat → Text}

theorem same_members (members : List (Text × Value)) :
    List.Forall₂ (fun left right : Text × Value =>
      left.1 = right.1 ∧ Shorter formatNumber left.2 right.2) members members :=
  List.forall₂_same.mpr fun _ _ => ⟨rfl, Shorter.refl _⟩

variable (decimals : Decimals formatNumber)

include decimals

theorem location_shorter {small large : TextLocation} (safe : large.Safe)
    (start : small.start ≤ large.start) (stop : small.stop ≤ large.stop) :
    Shorter formatNumber small.json large.json := by
  refine shorter_obj decimals.whole (.cons ⟨rfl, ?_⟩ (.cons ⟨rfl, ?_⟩ .nil))
  · exact decimals.longer _ _ start safe.1
  · exact decimals.longer _ _ stop safe.2

theorem node_shorter {node : ObservedNode} {location : TextLocation}
    (safe : node.textLocation.Safe) (start : location.start ≤ node.textLocation.start)
    (stop : location.stop ≤ node.textLocation.stop) :
    Shorter formatNumber { node with textLocation := location }.json node.json := by
  refine shorter_obj decimals.whole (.cons ⟨rfl, Shorter.refl _⟩ ?_)
  refine List.rel_append (same_members _) (.cons ⟨rfl, Shorter.refl _⟩ (.cons ⟨rfl, ?_⟩ ?_))
  · exact location_shorter decimals safe start stop
  · exact same_members _

theorem bytes_le {observation : StructuredObservation} {nodes : List ObservedNode} {text : Text}
    (smaller : List.Forall₂ (fun left right : ObservedNode =>
      Shorter formatNumber left.json right.json) nodes observation.nodes)
    (below : cost text ≤ cost observation.renderedText) :
    bytes formatNumber { observation with nodes := nodes, renderedText := text } ≤
      bytes formatNumber observation := by
  refine shorter_obj decimals.whole (.cons ⟨rfl, ?_⟩ (.cons ⟨rfl, shorter_str below⟩ ?_))
  · refine shorter_arr decimals.whole ?_
    rw [List.forall₂_map_left_iff, List.forall₂_map_right_iff]
    exact smaller
  · exact same_members _

end Sizes

theorem applied_node {observation : StructuredObservation} {count : Nat} {node : ObservedNode}
    (member : node ∈ (applyCount observation count).nodes) :
    ∃ old ∈ (candidates observation).take count, old.nodeId = node.nodeId ∧ old.ref = node.ref ∧
      (old.textLocation.stop ≤ (cutText observation).length →
        node.textLocation = old.textLocation) := by
  obtain ⟨old, known, rfl⟩ := List.mem_map.mp member
  refine ⟨old, known, rfl, rfl, fun inside => ?_⟩
  exact if_neg (by omega)

theorem applied_safe {observation : StructuredObservation} {count : Nat}
    (safe : ∀ node ∈ observation.nodes, node.textLocation.Safe) {node : ObservedNode}
    (member : node ∈ (applyCount observation count).nodes) : node.textLocation.Safe := by
  obtain ⟨old, known, rfl⟩ := List.mem_map.mp member
  simp only
  split
  · exact ⟨by simp, by simp⟩
  · exact safe old (List.mem_of_mem_take (List.mem_of_mem_take known))

theorem applied_ids (observation : StructuredObservation) (count : Nat) :
    ids (applyCount observation count) =
      ((candidates observation).take count).map ObservedNode.nodeId := by
  simp [ids, applyCount, Function.comp_def]

theorem relocated_ids (places : List (Text × TextLocation)) (nodes : List ObservedNode) :
    (relocated places nodes).map ObservedNode.nodeId = nodes.map ObservedNode.nodeId := by
  induction nodes with
  | nil => rfl
  | cons node rest ih => rw [relocated, List.map_cons, List.map_cons, ih]

theorem relocated_refs (places : List (Text × TextLocation)) (nodes : List ObservedNode) :
    (relocated places nodes).map ObservedNode.ref = nodes.map ObservedNode.ref := by
  induction nodes with
  | nil => rfl
  | cons node rest ih => rw [relocated, List.map_cons, List.map_cons, ih]

theorem forall_left {α β : Type} {holds : α → Prop} {left : List α} {right : List β}
    (each : List.Forall₂ (fun first _ => holds first) left right) : ∀ item ∈ left, holds item := by
  induction each with
  | nil => simp
  | cons here _ ih => exact List.forall_mem_cons.mpr ⟨here, ih⟩

section Trims

variable {formatNumber : Rat → Text} {observation : StructuredObservation} {event : Value}

theorem kept_old {count : Nat} {old : ObservedNode}
    (member : old ∈ (candidates (marked observation event)).take count) :
    old ∈ observation.nodes.take count := by
  rw [candidates, List.take_take, Nat.min_comm, ← List.take_take] at member
  exact List.mem_of_mem_take member

theorem kept_lastFit (base : fits formatNumber (marked observation event) 0 = true) :
    LastFit formatNumber (marked observation event)
      (keptCount formatNumber (marked observation event)) := by
  obtain ⟨-, most, kept, stopped⟩ := ObservationPages.search_spec
    (fits formatNumber (marked observation event)) 0
    (candidates (marked observation event)).length (Nat.zero_le _)
  refine ⟨most, ?_, stopped⟩
  rcases kept with same | passed
  · rw [keptCount, same]
    exact base
  · exact passed

theorem legible_kept (legible : Legible formatNumber observation event) :
    LegibleAt observation (keptCount formatNumber (marked observation event)) :=
  legible.legible _ (kept_lastFit legible.base)

theorem legible_place {count : Nat} (legible : LegibleAt observation count)
    {node : ObservedNode} (member : node ∈ (applyCount (marked observation event) count).nodes)
    {ref : Text} (named : node.ref = some ref) {keeps : Text → Bool} {location : TextLocation}
    (put : (ref, location) ∈ (placed keeps ((cutText observation).splitOn newline) 0).2) :
    location.start ≤ node.textLocation.start ∧ location.stop ≤ node.textLocation.stop ∧
      ∃ old ∈ observation.nodes, old.nodeId = node.nodeId ∧ ∃ line,
        Spans observation.renderedText old.textLocation line ∧
          Spans (Devproof.joined newline
            (placed keeps ((cutText observation).splitOn newline) 0).1) location line := by
  obtain ⟨old, known, sameId, sameRef, place⟩ := applied_node member
  obtain ⟨line, before, after, split, first, before', after', split', part, start, stop⟩ :=
    placed_places put
  have stood : Spans (cutText observation) ⟨width before, width before + line.length⟩ line :=
    ⟨before, after, split, rfl, rfl⟩
  obtain ⟨same, spans⟩ := legible.owned old (kept_old known) ref (sameRef.trans named) _ line stood
    first
  have inside := stood.stop_le
  rw [same] at inside
  have moved := place inside
  have earlier := width_sublist part
  have there : Spans (Devproof.joined newline
      (placed keeps ((cutText observation).splitOn newline) 0).1) location line := by
    refine ⟨before', after', ?_, by rw [start, Nat.zero_add]; rfl, stop⟩
    rw [split_joined (placed_sublist _ _) (by rw [split']; simp), split']
  rw [moved, ← same]
  refine ⟨by simp only; omega, by simp only; omega, old, List.mem_of_mem_take (kept_old known),
    sameId, line, ?_, there⟩
  rw [← same]
  exact spans

end Trims

section Promise

variable {formatNumber : Rat → Text} {observation : StructuredObservation} {event : Value}

def applied (formatNumber : Rat → Text) (observation : StructuredObservation) (event : Value) :
    StructuredObservation :=
  applyCount (marked observation event) (keptCount formatNumber (marked observation event))

def lines (formatNumber : Rat → Text) (observation : StructuredObservation) (event : Value) :
    List Text × List (Text × TextLocation) :=
  placed (keepsRef (applied formatNumber observation event).nodes)
    ((cutText observation).splitOn newline) 0

theorem trim_eq : trimObservation formatNumber observation event =
    { applied formatNumber observation event with
      nodes := relocated (lines formatNumber observation event).2
        (applied formatNumber observation event).nodes
      renderedText := Devproof.joined newline (lines formatNumber observation event).1 } :=
  rfl

theorem trim_ids : ids (trimObservation formatNumber observation event) =
    (observation.nodes.take (min (keptCount formatNumber (marked observation event))
      STRUCTURED_OBSERVATION_MAX_NODES)).map ObservedNode.nodeId := by
  rw [trim_eq, ids, relocated_ids]
  change ids (applyCount _ _) = _
  rw [applied_ids, candidates, List.take_take]
  rfl

theorem trim_bytes (decimals : Decimals formatNumber)
    (safe : ∀ node ∈ observation.nodes, node.textLocation.Safe)
    (legible : Legible formatNumber observation event) :
    bytes formatNumber (trimObservation formatNumber observation event) ≤
      STRUCTURED_OBSERVATION_MAX_BYTES := by
  have fitting : bytes formatNumber (applied formatNumber observation event) ≤
      STRUCTURED_OBSERVATION_MAX_BYTES - 4096 := by
    simpa [fits, applied] using (kept_lastFit legible.base).2.1
  refine le_trans ?_ (fitting.trans (Nat.sub_le _ _))
  rw [trim_eq]
  refine bytes_le decimals (relocated_cases ?_ ?_) ?_
  · exact fun node member =>
      node_shorter decimals (applied_safe safe member) (Nat.zero_le _) (Nat.zero_le _)
  · intro node member ref location named put
    obtain ⟨start, stop, -⟩ := legible_place (legible_kept legible) member named put
    exact node_shorter decimals (applied_safe safe member) start stop
  · have part := cost_lines (@placed_sublist (keepsRef
      (applied formatNumber observation event).nodes) ((cutText observation).splitOn newline) 0)
    rwa [joined_lines] at part

theorem trim_relations : ∀ node ∈ (trimObservation formatNumber observation event).nodes,
    ∀ relation ∈ node.relations,
      relation.targetNodeId ∈ ids (trimObservation formatNumber observation event) := by
  have linked : ∀ node ∈ (applied formatNumber observation event).nodes,
      ∀ relation ∈ node.relations,
        relation.targetNodeId ∈ ids (trimObservation formatNumber observation event) := by
    intro node member relation listed
    obtain ⟨old, -, rfl⟩ := List.mem_map.mp member
    rw [trim_eq, ids, relocated_ids]
    change relation.targetNodeId ∈ ids (applyCount _ _)
    rw [applied_ids]
    simpa using (List.mem_filter.mp listed).2
  exact forall_left (relocated_cases linked fun node member _ _ _ _ => linked node member)

theorem trim_located (legible : Legible formatNumber observation event) :
    ∀ node ∈ (trimObservation formatNumber observation event).nodes, node.ref ≠ none →
      node.textLocation.Empty ∨ ∃ old ∈ observation.nodes, old.nodeId = node.nodeId ∧
        ∃ line, Spans observation.renderedText old.textLocation line ∧
          Spans (trimObservation formatNumber observation event).renderedText node.textLocation
            line := by
  refine forall_left (relocated_cases (fun _ _ _ => Or.inl rfl) ?_)
  intro node member ref location named put _
  obtain ⟨-, -, old, known, sameId, line, stood, stands⟩ :=
    legible_place (legible_kept legible) member named put
  exact Or.inr ⟨old, known, sameId, line, stood, stands⟩

theorem trim_removed (legible : Legible formatNumber observation event) {old : ObservedNode}
    (known : old ∈ observation.nodes)
    (gone : old.nodeId ∉ ids (trimObservation formatNumber observation event))
    (nonempty : ¬ old.textLocation.Empty) {line : Text}
    (spans : Spans observation.renderedText old.textLocation line) :
    line ∉ (trimObservation formatNumber observation event).renderedText.splitOn newline := by
  intro stays
  have dropped : old ∈ observation.nodes.drop
      (keptCount formatNumber (marked observation event)) := by
    rw [← List.take_append_drop (keptCount formatNumber (marked observation event))
      observation.nodes] at known
    rcases List.mem_append.mp known with kept | dropped
    · have small : keptCount formatNumber (marked observation event) ≤
          STRUCTURED_OBSERVATION_MAX_NODES :=
        (kept_lastFit legible.base).1.trans (List.length_take_le _ _)
      rw [trim_ids, Nat.min_eq_left small] at gone
      exact absurd (List.mem_map_of_mem kept) gone
    · exact dropped
  rw [trim_eq] at stays
  have listed : line ∈ (lines formatNumber observation event).1 := by
    by_cases empty : (lines formatNumber observation event).1 = []
    · -- The empty text has one empty line, which no location spans.
      rw [empty] at stays
      have blank : line = [] := by simpa using stays
      obtain ⟨-, -, -, -, stop⟩ := spans
      rw [blank] at stop
      exact absurd stop.symm nonempty
    · rw [lines] at empty stays
      rwa [split_joined (placed_sublist _ _) empty] at stays
  obtain ⟨ref, first, unnamed⟩ := (legible_kept legible).gone old dropped nonempty line spans
    ((placed_sublist _ _).subset listed)
  obtain ⟨node, member, same⟩ := List.any_eq_true.mp (placed_keeps listed first)
  obtain ⟨other, kept, -, sameRef, -⟩ := applied_node member
  exact unnamed other (kept_old kept) (sameRef.trans (by simpa using same))

end Promise

def wholeNumber (number : Rat) : Text :=
  (Nat.repr number.num.toNat).toList.map code

theorem digit_code {char : Char} (digit : char.isDigit = true) : code char < 0x80 := by
  simp only [Char.isDigit, Bool.and_eq_true, decide_eq_true_eq] at digit
  have small : char.toNat ≤ 57 := digit.2
  rw [code, UInt16.lt_iff_toNat_lt]
  have same : char.toNat.toUInt16.toNat = char.toNat % 65536 := UInt16.toNat_ofNat'
  have bound : (0x80 : UInt16).toNat = 128 := rfl
  omega

theorem low_bytes {text : Text} (low : ∀ unit ∈ text, unit < 0x80) :
    Whole text ∧ byteLength text = text.length := by
  induction text with
  | nil => exact ⟨by simp [Whole], rfl⟩
  | cons unit rest ih =>
      obtain ⟨here, later⟩ := List.forall_mem_cons.mp low
      obtain ⟨whole, length⟩ := ih later
      have plain : isHigh unit = false ∧ isLow unit = false := by
        simp only [isHigh, isLow, Bool.and_eq_false_iff, decide_eq_false_iff_not,
          UInt16.not_le]
        exact ⟨Or.inl (UInt16.lt_of_lt_of_le here (by decide)),
          Or.inl (UInt16.lt_of_lt_of_le here (by decide))⟩
      refine ⟨List.forall_mem_cons.mpr ⟨plain, whole⟩, ?_⟩
      rw [byteLength_cons plain.1, length, unitBytes, if_pos here, List.length_cons]
      omega

theorem wholeNumber_decimals : Decimals wholeNumber := by
  have digits : ∀ number, ∀ unit ∈ wholeNumber number, unit < 0x80 := by
    intro number unit member
    obtain ⟨char, listed, rfl⟩ := List.mem_map.mp member
    rw [Nat.toList_repr] at listed
    exact digit_code (Nat.isDigit_of_mem_toDigits (by decide) (by decide) listed)
  refine ⟨fun number => (low_bytes (digits number)).1, fun small large below _ => ?_⟩
  have written : ∀ count : Nat, byteLength (wholeNumber count) = (Nat.repr count).length := by
    intro count
    rw [(low_bytes (digits count)).2, wholeNumber, List.length_map, String.length_toList]
    rfl
  rw [written, written]
  have longest := (Nat.length_repr_le_iff (n := large) Nat.length_repr_pos).mp (le_refl _)
  exact (Nat.length_repr_le_iff Nat.length_repr_pos).mpr (lt_of_le_of_lt below longest)

/-! A line that quotes the marker of another. -/

def literal (text : String) : Value :=
  .str (text.toList.map code)

def counts (bytes nodes regions textCharacters : Nat) : Value :=
  .obj [member "bytes" (natural bytes), member "nodes" (natural nodes),
    member "regions" (natural regions), member "textCharacters" (natural textCharacters)]

def limitEvent : Value :=
  .obj [member "scope" (literal "VIEWPORT"), member "measured" (counts 700 1 0 19),
    member "limits" (counts 2097152 8000 500 262144),
    member "exceeded" (.arr [literal "VISITS"]), member "action" (literal "TRIMMED")]

def button : ObservedNode where
  nodeId := "n1".toList.map code
  ref := some ("e1".toList.map code)
  relations := []
  textLocation := ⟨0, 8⟩
  others := [member "frameId" (literal "f"), member "documentEpoch" (literal "d"),
    member "tag" (literal "button"), member "visible" (.bool true),
    member "attributes" (.obj [])]

def observed (nodes : List ObservedNode) (text : String) : StructuredObservation where
  nodes := nodes
  renderedText := text.toList.map code
  regions := []
  verifiedScopeNodeIds := none
  coverage := ⟨true, false, none,
    [member "scope" (literal "VIEWPORT"), member "unavailableFrames" (.arr [])]⟩
  others := [member "version" (natural 2),
    member "captureId" (literal "00000000-0000-4000-8000-000000000000"),
    member "capturedFrom" (literal "2026-01-01T00:00:00Z"),
    member "capturedUntil" (literal "2026-01-01T00:00:00Z"),
    member "pageIdentity" (literal "p"), member "frames" (.arr []),
    member "consistency" (literal "DOM_ONLY")]

def quoting : StructuredObservation :=
  observed [button] "[ref=e1]\n\"[ref=e1]\""

theorem quoting_kept : keptCount wholeNumber (marked quoting limitEvent) = 1 := by
  refine ObservationPages.search_all (Nat.zero_le _) fun count above below => ?_
  have one : count = 1 := le_antisymm below above
  rw [one]
  decide +kernel

theorem quoting_moved :
    (trimObservation wholeNumber quoting limitEvent).nodes.map ObservedNode.textLocation =
      [⟨9, 19⟩] := by
  rw [trim_eq, lines, applied, quoting_kept]
  decide

def placesOf (offset : Nat) : List Text → List (TextLocation × Text)
  | [] => []
  | line :: rest =>
      (⟨offset, offset + line.length⟩, line) :: placesOf (offset + line.length + 1) rest

theorem mem_placesOf {before after : List Text} {line : Text} (offset : Nat) :
    (⟨offset + width before, offset + width before + line.length⟩, line) ∈
      placesOf offset (before ++ line :: after) := by
  induction before generalizing offset with
  | nil => simp [placesOf, width]
  | cons head rest ih =>
      rw [List.cons_append, placesOf, width_cons]
      refine List.mem_cons_of_mem _ ?_
      have later := ih (offset + head.length + 1)
      rwa [show offset + head.length + 1 + width rest = offset + (head.length + 1 + width rest) by
        omega] at later

theorem Spans.listed {text : Text} {location : TextLocation} {line : Text}
    (spans : Spans text location line) : (location, line) ∈ placesOf 0 (text.splitOn newline) := by
  obtain ⟨before, after, split, start, stop⟩ := spans
  obtain ⟨first, last⟩ := location
  simp only at start stop
  rw [split, stop, start]
  simpa [width] using @mem_placesOf before after line 0

def link : ObservedNode :=
  { button with
    nodeId := "n2".toList.map code
    ref := some ("e2".toList.map code)
    relations := [⟨"LABELLED_BY".toList.map code, "n3".toList.map code⟩]
    textLocation := ⟨9, 17⟩ }

def heading : ObservedNode :=
  { button with
    nodeId := "n3".toList.map code
    ref := none
    textLocation := ⟨18, 23⟩ }

def panel : StructuredObservation :=
  { observed [button, link, heading] "[ref=e1]\n[ref=e2]\nhello" with
    regions := [⟨"n1".toList.map code, ["n2".toList.map code], []⟩] }

theorem panel_fits : ∀ count < 4, fits wholeNumber (marked panel limitEvent) count = true := by
  decide +kernel

theorem panel_owned : ∀ node ∈ panel.nodes, ∀ place ∈ placesOf 0
    ((cutText panel).splitOn newline), node.ref ≠ none → firstRef place.2 = node.ref →
      place.1 = node.textLocation := by
  decide +kernel

end Devproof.ObservationBudget
