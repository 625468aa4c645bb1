import Mathlib.Data.List.Basic

/-!
Cuts that are made one after another for as long as something does not fit.
-/

namespace Devproof

section Trimming

variable {ι State : Type} (big : State → Bool) (cut : ι → State → State)

def cutWhile : List ι → State → State
  | [], state => state
  | index :: rest, state => if big state then cutWhile rest (cut index state) else state

variable {big cut}

theorem cutWhile_kept {kept : State → Prop} {indices : List ι}
    (step : ∀ index ∈ indices, ∀ state, kept state → kept (cut index state)) {state : State}
    (held : kept state) : kept (cutWhile big cut indices state) := by
  induction indices generalizing state with
  | nil => exact held
  | cons index rest ih =>
      rw [cutWhile]
      split
      · exact ih (fun other member => step other (List.mem_cons_of_mem _ member))
          (step index List.mem_cons_self state held)
      · exact held

theorem cutWhile_over {indices : List ι} {state : State}
    (large : big (cutWhile big cut indices state) = true) :
    cutWhile big cut indices state = indices.foldl (fun now index => cut index now) state := by
  induction indices generalizing state with
  | nil => rfl
  | cons index rest ih =>
      rw [cutWhile] at large ⊢
      by_cases here : big state = true
      · rw [if_pos here] at large ⊢
        exact ih large
      · rw [if_neg here] at large
        exact absurd large here

/-- Some number of the cuts is made. -/
theorem cutWhile_take (indices : List ι) (state : State) :
    ∃ count ≤ indices.length, cutWhile big cut indices state =
      (indices.take count).foldl (fun now index => cut index now) state := by
  induction indices generalizing state with
  | nil => exact ⟨0, Nat.le_refl 0, rfl⟩
  | cons index rest ih =>
      rw [cutWhile]
      split
      · obtain ⟨count, bound, made⟩ := ih (cut index state)
        exact ⟨count + 1, Nat.succ_le_succ bound, made⟩
      · exact ⟨0, Nat.zero_le _, rfl⟩

theorem over_cutWhile {indices : List ι} {state : State}
    (large : big (cutWhile big cut indices state) = true) : big state = true := by
  cases indices with
  | nil => exact large
  | cons index rest =>
      rw [cutWhile] at large
      by_contra fits
      rw [if_neg fits] at large
      exact fits large

end Trimming

end Devproof
