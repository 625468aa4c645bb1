import Devproof.Lib.JsonWriter

/-!
How many UTF-8 bytes the JSON of a text takes.  Half of a surrogate pair is
written as an escape, so that the size of a prefix can exceed that of the text.
-/

namespace Devproof.Parsing

/-! `Buffer.byteLength`. -/

def unitBytes (unit : UInt16) : Nat :=
  if unit < 0x80 then 1 else if unit < 0x800 then 2 else 3

def byteLength : Text → Nat
  | [] => 0
  | [unit] => unitBytes unit
  | unit :: next :: rest =>
      if isHigh unit && isLow next then 4 + byteLength rest
      else unitBytes unit + byteLength (next :: rest)

def unitCost (unit : UInt16) : Nat :=
  byteLength (escapeUnit unit)

def cost : Text → Nat
  | [] => 0
  | [unit] => unitCost unit
  | unit :: next :: rest =>
      if isHigh unit && isLow next then 4 + cost rest else unitCost unit + cost (next :: rest)

def Whole (text : Text) : Prop :=
  ∀ unit ∈ text, isHigh unit = false ∧ isLow unit = false

theorem byteLength_cons {unit : UInt16} (low : isHigh unit = false) (rest : Text) :
    byteLength (unit :: rest) = unitBytes unit + byteLength rest := by
  cases rest with
  | nil => rfl
  | cons next rest => rw [byteLength, low, Bool.false_and, if_neg Bool.false_ne_true]

theorem byteLength_whole {text : Text} (whole : Whole text) (rest : Text) :
    byteLength (text ++ rest) = byteLength text + byteLength rest := by
  induction text with
  | nil => simp [byteLength]
  | cons unit text ih =>
      obtain ⟨here, later⟩ := List.forall_mem_cons.mp whole
      rw [List.cons_append, byteLength_cons here.1, byteLength_cons here.1, ih later, Nat.add_assoc]

theorem hexDigit_plain (value : Nat) (small : value < 16) :
    isHigh (hexDigit value) = false ∧ isLow (hexDigit value) = false ∧
      unitBytes (hexDigit value) = 1 := by
  have all : ∀ value < 16, isHigh (hexDigit value) = false ∧ isLow (hexDigit value) = false ∧
      unitBytes (hexDigit value) = 1 := by decide
  exact all value small

theorem unicodeEscape_plain (unit : UInt16) :
    Whole (unicodeEscape unit) ∧ byteLength (unicodeEscape unit) = 6 := by
  have bound : unit.toNat < 65536 := unit.toNat_lt
  have first := hexDigit_plain (unit.toNat / 4096) (by omega)
  have second := hexDigit_plain (unit.toNat / 256 % 16) (by omega)
  have third := hexDigit_plain (unit.toNat / 16 % 16) (by omega)
  have fourth := hexDigit_plain (unit.toNat % 16) (by omega)
  have slash : isHigh (code '\\') = false ∧ isLow (code '\\') = false ∧
      unitBytes (code '\\') = 1 := by decide
  have letter : isHigh (code 'u') = false ∧ isLow (code 'u') = false ∧
      unitBytes (code 'u') = 1 := by decide
  constructor
  · intro unit' member
    simp only [unicodeEscape, List.mem_cons, List.not_mem_nil, or_false] at member
    rcases member with rfl | rfl | rfl | rfl | rfl | rfl
    · exact ⟨slash.1, slash.2.1⟩
    · exact ⟨letter.1, letter.2.1⟩
    · exact ⟨first.1, first.2.1⟩
    · exact ⟨second.1, second.2.1⟩
    · exact ⟨third.1, third.2.1⟩
    · exact ⟨fourth.1, fourth.2.1⟩
  · rw [unicodeEscape, byteLength_cons slash.1, byteLength_cons letter.1, byteLength_cons first.1,
      byteLength_cons second.1, byteLength_cons third.1, byteLength_cons fourth.1, slash.2.2,
      letter.2.2, first.2.2, second.2.2, third.2.2, fourth.2.2]
    rfl

theorem letter_plain {letter : UInt16} (plain : isHigh letter = false ∧ isLow letter = false ∧
    unitBytes letter = 1) :
    Whole [code '\\', letter] ∧ byteLength [code '\\', letter] = 2 := by
  have slash : isHigh (code '\\') = false ∧ isLow (code '\\') = false ∧
      unitBytes (code '\\') = 1 := by decide
  constructor
  · intro unit member
    simp only [List.mem_cons, List.not_mem_nil, or_false] at member
    rcases member with rfl | rfl
    · exact ⟨slash.1, slash.2.1⟩
    · exact ⟨plain.1, plain.2.1⟩
  · rw [byteLength_cons slash.1, byteLength_cons plain.1, slash.2.2, plain.2.2]
    rfl

theorem escapeUnit_whole (unit : UInt16) : Whole (escapeUnit unit) := by
  unfold escapeUnit
  split_ifs with quote slash back tab line form carriage other
  · exact (letter_plain (by decide)).1
  · exact (letter_plain (by decide)).1
  · exact (letter_plain (by decide)).1
  · exact (letter_plain (by decide)).1
  · exact (letter_plain (by decide)).1
  · exact (letter_plain (by decide)).1
  · exact (letter_plain (by decide)).1
  · exact (unicodeEscape_plain unit).1
  · intro known member
    rw [List.mem_singleton.mp member]
    simp only [not_or, Bool.not_eq_true] at other
    exact other.2

theorem unitCost_bounds (unit : UInt16) : 1 ≤ unitCost unit ∧ unitCost unit ≤ 6 := by
  unfold unitCost escapeUnit
  split_ifs with quote slash back tab line form carriage other
  · rw [(letter_plain (by decide)).2]
    exact ⟨by decide, by decide⟩
  · rw [(letter_plain (by decide)).2]
    exact ⟨by decide, by decide⟩
  · rw [(letter_plain (by decide)).2]
    exact ⟨by decide, by decide⟩
  · rw [(letter_plain (by decide)).2]
    exact ⟨by decide, by decide⟩
  · rw [(letter_plain (by decide)).2]
    exact ⟨by decide, by decide⟩
  · rw [(letter_plain (by decide)).2]
    exact ⟨by decide, by decide⟩
  · rw [(letter_plain (by decide)).2]
    exact ⟨by decide, by decide⟩
  · rw [(unicodeEscape_plain unit).2]
    exact ⟨by decide, by decide⟩
  · rw [byteLength, unitBytes]
    split_ifs <;> exact ⟨by decide, by decide⟩

theorem escaped_bytes (text : Text) : byteLength (escaped text ++ [code '"']) = cost text + 1 := by
  fun_induction escaped text with
  | case1 => rfl
  | case2 unit => rw [byteLength_whole (escapeUnit_whole unit)]; rfl
  | case3 unit next rest pair ih =>
      rw [List.cons_append, List.cons_append, byteLength, if_pos pair, ih, cost, if_pos pair,
        Nat.add_assoc]
  | case4 unit next rest pair ih =>
      rw [List.append_assoc, byteLength_whole (escapeUnit_whole unit), ih, cost, if_neg pair,
        Nat.add_assoc]
      rfl

theorem quoted_bytes (text : Text) : byteLength (quoted text) = cost text + 2 := by
  rw [quoted, byteLength_cons (by decide), escaped_bytes]
  have one : unitBytes (code '"') = 1 := by decide
  omega

theorem cost_le (text : Text) : cost text ≤ 6 * text.length := by
  fun_induction cost text with
  | case1 => exact Nat.le_refl 0
  | case2 unit => exact (unitCost_bounds unit).2
  | case3 unit next rest pair ih => simp only [List.length_cons]; omega
  | case4 unit next rest pair ih =>
      have upper := (unitCost_bounds unit).2
      simp only [List.length_cons] at ih ⊢
      omega

theorem length_le_cost (text : Text) : text.length ≤ cost text := by
  fun_induction cost text with
  | case1 => exact Nat.le_refl 0
  | case2 unit => exact (unitCost_bounds unit).1
  | case3 unit next rest pair ih => simp only [List.length_cons]; omega
  | case4 unit next rest pair ih =>
      have lower := (unitCost_bounds unit).1
      simp only [List.length_cons] at ih ⊢
      omega

theorem cost_append_le (first second : Text) :
    cost first + second.length ≤ cost (first ++ second) + 3 := by
  fun_induction cost first with
  | case1 =>
      have lower := length_le_cost second
      rw [List.nil_append]
      omega
  | case2 unit =>
      have upper := (unitCost_bounds unit).2
      cases second with
      | nil => simp [cost]
      | cons next rest =>
          have lower := length_le_cost rest
          have whole := length_le_cost (next :: rest)
          simp only [List.cons_append, List.nil_append, cost, List.length_cons] at whole ⊢
          split_ifs <;> omega
  | case3 unit next rest pair ih =>
      rw [List.cons_append, List.cons_append, cost, if_pos pair]
      omega
  | case4 unit next rest pair ih =>
      rw [List.cons_append, List.cons_append, cost, if_neg pair]
      rw [List.cons_append] at ih
      omega

/-- Behind a code unit that is no first half nothing is split. -/
theorem cost_split (first : Text) {unit : UInt16} (low : isHigh unit = false) (second : Text) :
    cost (first ++ unit :: second) = cost (first ++ [unit]) + cost second := by
  fun_induction cost first with
  | case1 =>
      cases second with
      | nil => rfl
      | cons next rest =>
          rw [List.nil_append, cost, low, Bool.false_and, if_neg Bool.false_ne_true]
          rfl
  | case2 known =>
      simp only [List.cons_append, List.nil_append, cost]
      have tail : cost (unit :: second) = unitCost unit + cost second := by
        cases second with
        | nil => rfl
        | cons next rest => rw [cost, low, Bool.false_and, if_neg Bool.false_ne_true]
      split_ifs
      · rfl
      · rw [tail, Nat.add_assoc]
  | case3 known next rest pair ih =>
      simp only [List.cons_append, cost, if_pos pair, ih, Nat.add_assoc]
  | case4 known next rest pair ih =>
      simp only [List.cons_append] at ih ⊢
      simp only [cost, if_neg pair, ih, Nat.add_assoc]

theorem cost_snoc (first : Text) {unit : UInt16} (high : isLow unit = false) :
    cost (first ++ [unit]) = cost first + unitCost unit := by
  fun_induction cost first with
  | case1 => exact (Nat.zero_add _).symm
  | case2 known =>
      simp only [List.cons_append, List.nil_append, cost, high, Bool.and_false]
      rfl
  | case3 known next rest pair ih =>
      simp only [List.cons_append, cost, if_pos pair, ih, Nat.add_assoc]
  | case4 known next rest pair ih =>
      simp only [List.cons_append] at ih ⊢
      simp only [cost, if_neg pair, ih, Nat.add_assoc]

end Devproof.Parsing
