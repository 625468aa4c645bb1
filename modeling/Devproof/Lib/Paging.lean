import Mathlib.Data.List.Sort

/-!
Reading sorted items page by page: a page starts after a key and holds what fits into it.
-/

namespace Devproof

section Fitting

variable {ι : Type} (large : List ι → Bool)

/-- The items that are taken one after the other, up to the first that makes the list too large. -/
def fitting : List ι → List ι → List ι
  | taken, [] => taken
  | taken, item :: rest => if large (taken ++ [item]) then taken else fitting (taken ++ [item]) rest

variable {large}

theorem fitting_take (taken items : List ι) :
    ∃ count ≤ items.length, fitting large taken items = taken ++ items.take count ∧
      ∀ first rest, items = first :: rest → (0 < count ↔ large (taken ++ [first]) = false) := by
  induction items generalizing taken with
  | nil => exact ⟨0, le_refl 0, by simp [fitting], by simp⟩
  | cons item rest ih =>
      rw [fitting]
      by_cases tooMuch : large (taken ++ [item]) = true
      · refine ⟨0, Nat.zero_le _, by simp [tooMuch], fun first more shape => ?_⟩
        obtain ⟨rfl, -⟩ := List.cons.inj shape
        simp [tooMuch]
      · obtain ⟨count, bound, shape, -⟩ := ih (taken ++ [item])
        refine ⟨count + 1, Nat.succ_le_succ bound, ?_, fun first more same => ?_⟩
        · rw [if_neg tooMuch, shape, List.take_succ_cons, List.append_assoc, List.singleton_append]
        · obtain ⟨rfl, -⟩ := List.cons.inj same
          simpa using tooMuch

end Fitting

section After

variable {ι κ : Type} [LinearOrder κ] (key : ι → κ)

def itemsAfter (bound : Option κ) (items : List ι) : List ι :=
  items.filter fun item => bound.all fun last => decide (last < key item)

variable {key}

@[simp] theorem itemsAfter_none (items : List ι) : itemsAfter key none items = items :=
  List.filter_eq_self.mpr fun _ _ => rfl

theorem itemsAfter_some {front back : List ι} {last : ι}
    (sorted : (front ++ last :: back).Pairwise fun first second => key first < key second) :
    itemsAfter key (some (key last)) (front ++ last :: back) = back := by
  obtain ⟨-, later, before⟩ := List.pairwise_append.mp sorted
  rw [itemsAfter, List.filter_append]
  have none_before : front.filter (fun item => (some (key last)).all fun bound =>
      decide (bound < key item)) = [] := by
    refine List.filter_eq_nil_iff.mpr fun item member => ?_
    simpa using (before item member last List.mem_cons_self).le
  have all_after : (last :: back).filter (fun item => (some (key last)).all fun bound =>
      decide (bound < key item)) = back := by
    rw [List.filter_cons_of_neg (by simp)]
    refine List.filter_eq_self.mpr fun item member => ?_
    simpa using (List.pairwise_cons.mp later).1 item member
  rw [none_before, all_after, List.nil_append]

theorem itemsAfter_last {front back : List ι}
    (sorted : (front ++ back).Pairwise fun first second => key first < key second) :
    itemsAfter key (front.getLast?.map key) (front ++ back) = back := by
  rcases List.eq_nil_or_concat front with rfl | ⟨before, last, rfl⟩
  · exact itemsAfter_none back
  · rw [List.concat_eq_append, List.append_assoc, List.singleton_append] at sorted ⊢
    rw [List.getLast?_concat]
    exact itemsAfter_some sorted

/-- Sorting items with distinct keys. -/
theorem strictly_sorted {items : List ι} (distinct : (items.map key).Nodup) :
    (items.insertionSort fun first second => key first ≤ key second).Pairwise
      fun first second => key first < key second := by
  have sorted := List.pairwise_insertionSort (fun first second => key first ≤ key second) items
  have apart : ((items.insertionSort fun first second => key first ≤ key second).map key).Nodup :=
    ((List.perm_insertionSort _ items).map key).nodup_iff.mpr distinct
  have differ := List.pairwise_map.mp apart
  exact (sorted.and differ).imp fun both => lt_of_le_of_ne both.1 both.2

end After

end Devproof
