import Mathlib.Algebra.Order.BigOperators.Group.List
import Mathlib.Algebra.Order.Floor.Ring
import Mathlib.Data.Rat.Floor
import Mathlib.Tactic.Linarith

/-!
Whole parts of an amount for rational weights that add up to it: each weight is rounded
as long as enough remains, and the last one takes the rest.
-/

namespace Devproof

def roundHalfUp (value : ℚ) : ℤ :=
  ⌊value + 1 / 2⌋

theorem roundHalfUp_le (value : ℚ) : (roundHalfUp value : ℚ) ≤ value + 1 / 2 :=
  Int.floor_le _

theorem le_roundHalfUp (value : ℚ) : value - 1 / 2 ≤ roundHalfUp value := by
  have above := Int.lt_floor_add_one (value + 1 / 2)
  rw [roundHalfUp]
  linarith

theorem roundHalfUp_nonneg {value : ℚ} (nonneg : 0 ≤ value) : 0 ≤ roundHalfUp value :=
  Int.floor_nonneg.mpr (by linarith)

def apportion (remaining : ℤ) : List ℚ → List ℤ
  | [] => []
  | weight :: rest =>
      let part := if rest = [] then remaining else min remaining (roundHalfUp weight)
      part :: apportion (remaining - part) rest

theorem apportion_sum {weights : List ℚ} (some : weights ≠ []) (remaining : ℤ) :
    (apportion remaining weights).sum = remaining := by
  induction weights generalizing remaining with
  | nil => exact absurd rfl some
  | cons weight rest ih =>
      rw [apportion, List.sum_cons]
      by_cases last : rest = []
      · simp [last, apportion]
      · rw [if_neg last, ih last]
        omega

theorem apportion_nonneg {weights : List ℚ} (nonneg : ∀ weight ∈ weights, 0 ≤ weight)
    {remaining : ℤ} (left : 0 ≤ remaining) : ∀ part ∈ apportion remaining weights, 0 ≤ part := by
  induction weights generalizing remaining with
  | nil => simp [apportion]
  | cons weight rest ih =>
      obtain ⟨here, later⟩ := List.forall_mem_cons.mp nonneg
      have rounded := roundHalfUp_nonneg here
      rw [apportion]
      refine List.forall_mem_cons.mpr ⟨?_, ih later ?_⟩
      · split <;> omega
      · split <;> omega

/-- After some weights were rounded, the rest is off by half a unit for each of them at most.
A part that is cut short takes all that remains, and the later weights are no more than what the
earlier ones took too much. -/
theorem apportion_close {weights : List ℚ} (nonneg : ∀ weight ∈ weights, 0 ≤ weight)
    {remaining : ℤ} (left : 0 ≤ remaining) (rounded : ℕ)
    (above : weights.sum - remaining ≤ rounded / 2) (below : remaining - weights.sum ≤ rounded / 2) :
    List.Forall₂ (fun (part : ℤ) (weight : ℚ) =>
        |part - weight| ≤ ((rounded + weights.length : ℕ) - 1 : ℚ) / 2)
      (apportion remaining weights) weights := by
  induction weights generalizing remaining rounded with
  | nil => exact .nil
  | cons weight rest ih =>
      obtain ⟨here, later⟩ := List.forall_mem_cons.mp nonneg
      rw [List.sum_cons] at above below
      have others : 0 ≤ rest.sum := List.sum_nonneg later
      rw [apportion]
      by_cases last : rest = []
      · subst last
        simp only [if_true, List.sum_nil, List.length_cons, List.length_nil] at above below ⊢
        refine .cons (abs_le.mpr ⟨?_, ?_⟩) (by exact .nil)
        · push_cast
          linarith
        · push_cast
          linarith
      · have more : (1 : ℚ) ≤ rest.length := by
          exact_mod_cast List.length_pos_iff.mpr last
        have most := roundHalfUp_le weight
        have least := le_roundHalfUp weight
        have earlier : (0 : ℚ) ≤ rounded := Nat.cast_nonneg rounded
        rw [if_neg last]
        have known : (rounded + (weight :: rest).length : ℕ) = ((rounded + 1) + rest.length : ℕ) := by
          rw [List.length_cons]
          omega
        rw [known]
        rcases le_total remaining (roundHalfUp weight) with short | enough
        · rw [min_eq_left short]
          have less : (remaining : ℚ) ≤ roundHalfUp weight := by exact_mod_cast short
          refine .cons (abs_le.mpr ⟨?_, ?_⟩) (ih later (by omega) (rounded + 1) ?_ ?_)
          · push_cast
            linarith
          · push_cast
            linarith
          · push_cast
            linarith
          · push_cast
            linarith
        · rw [min_eq_right enough]
          refine .cons (abs_le.mpr ⟨?_, ?_⟩) (ih later (by omega) (rounded + 1) ?_ ?_)
          · push_cast
            linarith
          · push_cast
            linarith
          · push_cast
            linarith
          · push_cast
            linarith

end Devproof
