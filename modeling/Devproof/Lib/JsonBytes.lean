import Devproof.Lib.JsonSize
import Devproof.Lib.Paths

/-!
Comparing how many bytes two written values take, part by part.
-/

namespace Devproof.Parsing

def Closed (text : Text) : Prop :=
  ∀ rest, byteLength (text ++ rest) = byteLength text + byteLength rest

theorem whole_closed {text : Text} (whole : Whole text) : Closed text :=
  byteLength_whole whole

theorem closed_nil : Closed [] := by
  intro rest
  simp [byteLength]

theorem Closed.append {first second : Text} (left : Closed first) (right : Closed second) :
    Closed (first ++ second) := by
  intro rest
  rw [List.append_assoc, left, right, left, Nat.add_assoc]

theorem closed_unit {unit : UInt16} (low : isHigh unit = false) : Closed [unit] := by
  intro rest
  rw [List.singleton_append, byteLength_cons low, byteLength_cons low]
  rfl

theorem escaped_closed (text : Text) : Closed (escaped text ++ [code '"']) := by
  intro rest
  fun_induction escaped text with
  | case1 => exact closed_unit (by decide) rest
  | case2 unit =>
      rw [List.append_assoc, byteLength_whole (escapeUnit_whole unit),
        byteLength_whole (escapeUnit_whole unit), closed_unit (by decide) rest, Nat.add_assoc]
  | case3 unit next rest' pair ih =>
      simp only [List.cons_append, byteLength, if_pos pair] at ih ⊢
      rw [ih, Nat.add_assoc]
  | case4 unit next rest' pair ih =>
      simp only [List.append_assoc] at ih ⊢
      rw [byteLength_whole (escapeUnit_whole unit), byteLength_whole (escapeUnit_whole unit), ih,
        Nat.add_assoc]

theorem quoted_closed (text : Text) : Closed (quoted text) := by
  have opening : Closed [code '"'] := closed_unit (by decide)
  exact opening.append (escaped_closed text)

/-! Lists of texts with commas between them. -/

theorem joined_closed {texts : List Text} (closed : ∀ text ∈ texts, Closed text) :
    Closed (joined texts) := by
  induction texts with
  | nil => exact closed_nil
  | cons first rest ih =>
      obtain ⟨here, later⟩ := List.forall_mem_cons.mp closed
      cases rest with
      | nil => exact here
      | cons second others =>
          have comma : Closed [code ','] := closed_unit (by decide)
          exact here.append (comma.append (ih later))

theorem joined_bytes_le {shorter longer : List Text} (closed : ∀ text ∈ shorter, Closed text)
    (closed' : ∀ text ∈ longer, Closed text)
    (each : List.Forall₂ (fun small large => byteLength small ≤ byteLength large) shorter longer) :
    byteLength (joined shorter) ≤ byteLength (joined longer) := by
  induction each with
  | nil => exact le_refl _
  | @cons small large smalls larges first later ih =>
      obtain ⟨here, rest⟩ := List.forall_mem_cons.mp closed
      obtain ⟨here', rest'⟩ := List.forall_mem_cons.mp closed'
      have below := ih rest rest'
      cases later with
      | nil => exact first
      | cons _ _ =>
          have comma := @byteLength_cons (code ',') (by decide)
          rw [joined, joined, here, here', comma, comma]
          omega

section Stringify

variable {formatNumber : Rat → Text}

theorem word_closed {literal : String} (whole : (literal.toList.map code).all
    fun unit => !isHigh unit && !isLow unit) : Closed (literal.toList.map code) := by
  refine whole_closed fun unit member => ?_
  simpa using List.all_eq_true.mp whole unit member

theorem memberText_closed {entry : Text × Text} (closed : Closed entry.2) :
    Closed (memberText entry) := by
  have colon : Closed [code ':'] := closed_unit (by decide)
  exact (quoted_closed entry.1).append (colon.append closed)

theorem stringify_closed (numbers : ∀ number, Whole (formatNumber number)) (value : Value) :
    Closed (stringify formatNumber value) := by
  have enclosed : ∀ {opening closing : UInt16} {body : Text}, isHigh opening = false →
      isHigh closing = false → Closed body → Closed (opening :: (body ++ [closing])) :=
    fun first last inside =>
      @Closed.append [_] _ (closed_unit first) (inside.append (closed_unit last))
  induction value using Value.induct with
  | null => exact word_closed (by decide)
  | bool value =>
      cases value with
      | false => exact word_closed (by decide)
      | true => exact word_closed (by decide)
  | num value =>
      cases value with
      | finite number => exact whole_closed (numbers number)
      | negativeZero => exact whole_closed (numbers 0)
      | infinite negative => exact word_closed (by decide)
  | str value => exact quoted_closed value
  | arr items held =>
      rw [stringify, itemTexts_eq]
      refine enclosed (by decide) (by decide) (joined_closed fun text member => ?_)
      obtain ⟨item, known, rfl⟩ := List.mem_map.mp member
      exact held item known
  | obj members held =>
      rw [stringify, memberTexts_eq, List.map_map]
      refine enclosed (by decide) (by decide) (joined_closed fun text member => ?_)
      obtain ⟨entry, known, rfl⟩ := List.mem_map.mp member
      exact memberText_closed (held entry known)

variable (formatNumber) in
def Shorter (small large : Value) : Prop :=
  byteLength (stringify formatNumber small) ≤ byteLength (stringify formatNumber large)

theorem Shorter.refl (value : Value) : Shorter formatNumber value value :=
  le_refl _

theorem enclosed_bytes {opening closing : UInt16} (first : isHigh opening = false)
    {body : Text} (closed : Closed body) :
    byteLength (opening :: (body ++ [closing])) =
      unitBytes opening + byteLength body + unitBytes closing := by
  rw [byteLength_cons first, closed, Nat.add_assoc]
  rfl

theorem shorter_arr (numbers : ∀ number, Whole (formatNumber number)) {small large : List Value}
    (each : List.Forall₂ (Shorter formatNumber) small large) :
    Shorter formatNumber (.arr small) (.arr large) := by
  have closed : ∀ items : List Value, ∀ text ∈ items.map (stringify formatNumber), Closed text := by
    intro items text member
    obtain ⟨item, -, rfl⟩ := List.mem_map.mp member
    exact stringify_closed numbers item
  have below : byteLength (joined (small.map (stringify formatNumber))) ≤
      byteLength (joined (large.map (stringify formatNumber))) := by
    refine joined_bytes_le (closed small) (closed large) ?_
    rw [List.forall₂_map_left_iff, List.forall₂_map_right_iff]
    exact each
  rw [Shorter, stringify, stringify, itemTexts_eq, itemTexts_eq,
    enclosed_bytes (by decide) (joined_closed (closed small)),
    enclosed_bytes (by decide) (joined_closed (closed large))]
  omega

theorem shorter_obj (numbers : ∀ number, Whole (formatNumber number))
    {small large : List (Text × Value)}
    (each : List.Forall₂ (fun left right => left.1 = right.1 ∧ Shorter formatNumber left.2 right.2)
      small large) : Shorter formatNumber (.obj small) (.obj large) := by
  have closed : ∀ members : List (Text × Value), ∀ text ∈ members.map
      (memberText ∘ Prod.map id (stringify formatNumber)), Closed text := by
    intro members text member
    obtain ⟨entry, -, rfl⟩ := List.mem_map.mp member
    exact memberText_closed (stringify_closed numbers entry.2)
  have below : byteLength (joined (small.map (memberText ∘ Prod.map id (stringify formatNumber)))) ≤
      byteLength (joined (large.map (memberText ∘ Prod.map id (stringify formatNumber)))) := by
    refine joined_bytes_le (closed small) (closed large) ?_
    rw [List.forall₂_map_left_iff, List.forall₂_map_right_iff]
    refine each.imp fun left right same => ?_
    have colon := @byteLength_cons (code ':') (by decide)
    simp only [Function.comp_apply, memberText, Prod.map_fst, Prod.map_snd, id_eq, same.1]
    rw [quoted_closed, quoted_closed, colon, colon]
    have inside : byteLength (stringify formatNumber left.2) ≤
        byteLength (stringify formatNumber right.2) := same.2
    omega
  rw [Shorter, stringify, stringify, memberTexts_eq, memberTexts_eq, List.map_map, List.map_map,
    enclosed_bytes (by decide) (joined_closed (closed small)),
    enclosed_bytes (by decide) (joined_closed (closed large))]
  omega

theorem shorter_str {small large : Text} (below : cost small ≤ cost large) :
    Shorter formatNumber (.str small) (.str large) := by
  rw [Shorter, stringify, stringify, quoted_bytes, quoted_bytes]
  omega

end Stringify

def newline : UInt16 :=
  code '\n'

theorem cost_newline (line rest : Text) :
    cost (line ++ newline :: rest) = cost line + unitCost newline + cost rest := by
  rw [cost_split line (by decide), cost_snoc line (by decide)]

/-- Leaving lines out takes no more. -/
theorem cost_lines {small large : List Text} (part : small.Sublist large) :
    cost (Devproof.joined newline small) ≤ cost (Devproof.joined newline large) := by
  induction part with
  | slnil => exact le_refl _
  | @cons small large line part ih =>
      refine ih.trans ?_
      cases large with
      | nil => simp [cost]
      | cons next rest =>
          rw [joined_cons_cons, cost_newline]
          omega
  | @cons_cons small large line part ih =>
      cases small with
      | nil =>
          cases large with
          | nil => exact le_refl _
          | cons next rest =>
              rw [joined_cons_cons, joined_singleton, cost_newline]
              omega
      | cons next rest =>
          cases large with
          | nil => cases part
          | cons next' rest' =>
              rw [joined_cons_cons, joined_cons_cons, cost_newline, cost_newline]
              omega

end Devproof.Parsing
