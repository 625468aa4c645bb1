import Mathlib.Data.List.Basic
import Mathlib.Data.List.Lex
import Mathlib.Data.Char

/-!
The order of numbers in their decimal texts: texts without leading zeros are
compared by their lengths first and by their characters then.
-/

namespace Devproof

namespace Numerals

theorem digit_bounds {digit : Char} (decimal : digit.isDigit = true) :
    48 ≤ digit.toNat ∧ digit.toNat ≤ 57 := by
  simp only [Char.isDigit, Bool.and_eq_true, decide_eq_true_eq] at decimal
  exact decimal

theorem char_lt_iff {first second : Char} : first < second ↔ first.toNat < second.toNat := by
  rw [Char.lt_def, UInt32.lt_iff_toNat_lt]
  rfl

theorem char_eq_iff {first second : Char} : first = second ↔ first.toNat = second.toNat := by
  constructor
  · intro same
    rw [same]
  · intro same
    exact Char.ext (UInt32.toNat_inj.mp same)

theorem ofDigitChars_lt_iff {left right : List Char} (same : left.length = right.length)
    (decimal : ∀ digit ∈ left, digit.isDigit = true)
    (decimal' : ∀ digit ∈ right, digit.isDigit = true) (start start' : Nat) :
    Nat.ofDigitChars 10 left start < Nat.ofDigitChars 10 right start' ↔
      start < start' ∨ (start = start' ∧ left < right) := by
  induction left generalizing right start start' with
  | nil =>
      have none : right = [] := List.length_eq_zero_iff.mp same.symm
      subst none
      simp
  | cons first left ih =>
      cases right with
      | nil => simp at same
      | cons first' right =>
          have lengths : left.length = right.length := by simpa using same
          have bounds := digit_bounds (decimal first (List.mem_cons_self ..))
          have bounds' := digit_bounds (decimal' first' (List.mem_cons_self ..))
          rw [Nat.ofDigitChars_cons, Nat.ofDigitChars_cons,
            ih lengths (fun digit member => decimal digit (List.mem_cons_of_mem _ member))
              fun digit member => decimal' digit (List.mem_cons_of_mem _ member),
            List.cons_lt_cons_iff, char_lt_iff, char_eq_iff]
          have zero : '0'.toNat = 48 := rfl
          rw [zero]
          by_cases tail : left < right
          · simp only [tail, and_true]
            omega
          · simp only [tail, and_false, or_false]
            omega

def later (old new : List Char) : Bool :=
  decide (new.length < old.length) || (old.length == new.length && decide (new < old))

theorem later_iff (old new : Nat) :
    later (Nat.toDigits 10 old) (Nat.toDigits 10 new) = true ↔ new < old := by
  have decimal : ∀ number : Nat, ∀ digit ∈ Nat.toDigits 10 number, digit.isDigit = true :=
    fun number digit member => Nat.isDigit_of_mem_toDigits (by decide) (by decide) member
  have longer : ∀ few many : Nat,
      (Nat.toDigits 10 few).length < (Nat.toDigits 10 many).length → few < many := by
    intro few many shorter
    have below := (Nat.length_toDigits_le_iff (b := 10) (n := few) (by decide)
      Nat.length_toDigits_pos).mp (Nat.le_refl (Nat.toDigits 10 few).length)
    by_contra small
    have fits := (Nat.length_toDigits_le_iff (b := 10) (n := many) (by decide)
      Nat.length_toDigits_pos).mpr (Nat.lt_of_le_of_lt (Nat.le_of_not_lt small) below)
    omega
  simp only [later, Bool.or_eq_true, decide_eq_true_eq, Bool.and_eq_true, beq_iff_eq]
  rcases Nat.lt_trichotomy (Nat.toDigits 10 old).length (Nat.toDigits 10 new).length with
    shorter | same | more
  · have order := longer old new shorter
    omega
  · have order := ofDigitChars_lt_iff same.symm (decimal new) (decimal old) 0 0
    rw [Nat.ofDigitChars_ten_toDigits, Nat.ofDigitChars_ten_toDigits] at order
    rw [order]
    simp [same]
  · have order := longer new old more
    simp [more, order]

end Numerals

end Devproof
