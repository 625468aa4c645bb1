import Devproof.Lib.Apportion
import Devproof.Metrics.Timing

/-!
The percentages of a breakdown in exact arithmetic, as the code shares out a thousand tenths
(`bucketShares` and `tagShares` in `task-metrics.ts`).
-/

namespace Devproof.ExactShares

structure Bucket where
  activity : TaskActivity
  durationMs : ℚ
  percentage : Option ℚ

def shareOut (total : ℚ) (remaining : ℤ) : List (TaskActivity × ℚ) → List Bucket
  | [] => []
  | (activity, durationMs) :: rest =>
      let tenths :=
        if ¬ total > 0 then 0
        else if rest = [] then remaining
        else min remaining (roundHalfUp (durationMs / total * 1000))
      { activity, durationMs, percentage := if total > 0 then some (tenths / 10) else none } ::
        shareOut total (remaining - tenths) rest

def bucketShares (total : ℚ) (entries : List (TaskActivity × ℚ)) : List Bucket :=
  shareOut total 1000 (entries.filter fun entry => entry.2 > 0)

def tagShareLoop (elapsed : ℚ) (occupied : RuntimeTag → ℚ) (last : Option RuntimeTag)
    (remaining : ℤ) : List RuntimeTag → List (RuntimeTag × ℚ)
  | [] => []
  | tag :: rest =>
      if occupied tag ≤ 0 ∨ last = none then
        (tag, 0) :: tagShareLoop elapsed occupied last remaining rest
      else
        let tenths :=
          if some tag = last then remaining
          else min remaining (roundHalfUp (occupied tag / elapsed * 1000))
        (tag, tenths / 10) :: tagShareLoop elapsed occupied last (remaining - tenths) rest

def tagShares (elapsed : ℚ) (occupied : RuntimeTag → ℚ) (tag : RuntimeTag) : Option ℚ :=
  if ¬ elapsed > 0 then none
  else
    let positive := runtimeOrder.filter fun tag => occupied tag > 0
    (tagShareLoop elapsed occupied positive.getLast? 1000 runtimeOrder).lookup tag

structure Fair (total : ℚ) (durations percentages : List ℚ) : Prop where
  tenths : ∀ percentage ∈ percentages, ∃ tenths : ℕ, percentage = tenths / 10
  sum : percentages.sum = 100
  close : List.Forall₂ (fun percentage duration =>
    |percentage - duration / total * 100| ≤ ((durations.length : ℚ) - 1) / 2 / 10)
    percentages durations

def percentageOf (tenths : ℤ) : ℚ :=
  tenths / 10

theorem percentages_sum (parts : List ℤ) : (parts.map percentageOf).sum = (parts.sum : ℚ) / 10 := by
  induction parts with
  | nil => simp
  | cons part rest ih =>
      rw [List.map_cons, List.sum_cons, ih, List.sum_cons, percentageOf]
      push_cast
      ring

theorem fair_apportion {total : ℚ} {durations : List ℚ} (positive : 0 < total)
    (each : ∀ duration ∈ durations, 0 < duration) (sum : durations.sum = total) :
    Fair total durations
      ((apportion 1000 (durations.map fun duration => duration / total * 1000)).map
        percentageOf) := by
  set weights := durations.map fun duration => duration / total * 1000 with weights_eq
  have nonneg : ∀ weight ∈ weights, 0 ≤ weight := by
    intro weight member
    obtain ⟨duration, inside, rfl⟩ := List.mem_map.mp member
    have share := div_pos (each duration inside) positive
    linarith
  have whole : weights.sum = 1000 := by
    have scaled : weights.sum = durations.sum / total * 1000 := by
      rw [weights_eq]
      clear weights_eq nonneg sum each
      induction durations with
      | nil => simp
      | cons duration rest ih =>
          rw [List.map_cons, List.sum_cons, List.sum_cons, ih]
          ring
    rw [scaled, sum, div_self positive.ne']
    norm_num
  have some : weights ≠ [] := by
    intro none
    rw [none] at whole
    norm_num at whole
  refine ⟨fun percentage member => ?_, ?_, ?_⟩
  · obtain ⟨part, inside, rfl⟩ := List.mem_map.mp member
    obtain ⟨tenths, rfl⟩ := Int.eq_ofNat_of_zero_le
      (apportion_nonneg nonneg (by norm_num) part inside)
    exact ⟨tenths, by simp [percentageOf]⟩
  · rw [percentages_sum, apportion_sum some]
    norm_num
  · have close := apportion_close nonneg (by norm_num : (0 : ℤ) ≤ 1000) 0 (by rw [whole]; norm_num)
      (by rw [whole]; norm_num)
    rw [Nat.zero_add, weights_eq, List.length_map] at close
    rw [List.forall₂_map_left_iff]
    have paired := List.forall₂_map_right_iff.mp close
    refine paired.imp fun part duration near => ?_
    have scaled : percentageOf part - duration / total * 100 =
        (part - duration / total * 1000) / 10 := by
      rw [percentageOf]
      ring
    rw [scaled, abs_div]
    have ten : |(10 : ℚ)| = 10 := by norm_num
    rw [ten]
    exact div_le_div_of_nonneg_right near (by norm_num)

theorem sum_positive {durations : List ℚ} (nonneg : ∀ duration ∈ durations, 0 ≤ duration) :
    (durations.filter fun duration => duration > 0).sum = durations.sum := by
  induction durations with
  | nil => rfl
  | cons duration rest ih =>
      obtain ⟨here, later⟩ := List.forall_mem_cons.mp nonneg
      rw [List.filter_cons, List.sum_cons]
      split
      next => rw [List.sum_cons, ih later]
      next none =>
        have zero : duration = 0 := le_antisymm (not_lt.mp (by simpa using none)) here
        rw [ih later, zero, zero_add]

theorem shareOut_percentages {total : ℚ} (positive : 0 < total) (remaining : ℤ)
    (entries : List (TaskActivity × ℚ)) :
    (shareOut total remaining entries).map (·.percentage) =
      (apportion remaining (entries.map fun entry => entry.2 / total * 1000)).map
        fun tenths => some (percentageOf tenths) := by
  induction entries generalizing remaining with
  | nil => rfl
  | cons entry rest ih =>
      obtain ⟨activity, durationMs⟩ := entry
      simp only [shareOut, List.map_cons, apportion, List.map_eq_nil_iff, gt_iff_lt, positive,
        not_true_eq_false, if_false, if_true, percentageOf, List.cons.injEq, true_and]
      exact ih _

theorem bucketShares_fair {total : ℚ} {entries : List (TaskActivity × ℚ)} (positive : 0 < total)
    (nonneg : ∀ entry ∈ entries, 0 ≤ entry.2) (sum : (entries.map Prod.snd).sum = total) :
    ∃ percentages, (bucketShares total entries).map (·.percentage) = percentages.map some ∧
      Fair total ((entries.map Prod.snd).filter fun duration => duration > 0) percentages := by
  have kept : (entries.map Prod.snd).filter (fun duration => duration > 0) =
      (entries.filter fun entry => entry.2 > 0).map Prod.snd := by
    rw [List.filter_map]
    rfl
  have whole := @sum_positive (entries.map Prod.snd) (by
    intro duration member
    obtain ⟨entry, inside, rfl⟩ := List.mem_map.mp member
    exact nonneg entry inside)
  refine ⟨_, ?_, fair_apportion positive (fun duration member => ?_) (whole.trans sum)⟩
  · rw [bucketShares, shareOut_percentages positive, kept, List.map_map, List.map_map]
    rfl
  · exact of_decide_eq_true (List.mem_filter.mp member).2

theorem tagShareLoop_keys (elapsed : ℚ) (occupied : RuntimeTag → ℚ) (last : Option RuntimeTag)
    (remaining : ℤ) (tags : List RuntimeTag) :
    (tagShareLoop elapsed occupied last remaining tags).map Prod.fst = tags := by
  induction tags generalizing remaining with
  | nil => rfl
  | cons tag rest ih =>
      rw [tagShareLoop]
      split
      · rw [List.map_cons, ih]
      · rw [List.map_cons, ih]

/-- A tag without a share gets nothing. -/
theorem tagShareLoop_zero {elapsed : ℚ} {occupied : RuntimeTag → ℚ} {last : Option RuntimeTag}
    {remaining : ℤ} {tags : List RuntimeTag} {entry : RuntimeTag × ℚ}
    (member : entry ∈ tagShareLoop elapsed occupied last remaining tags)
    (none : occupied entry.1 ≤ 0) : entry.2 = 0 := by
  induction tags generalizing remaining with
  | nil => exact absurd member List.not_mem_nil
  | cons tag rest ih =>
      rw [tagShareLoop] at member
      split at member
      · rcases List.mem_cons.mp member with rfl | later
        · rfl
        · exact ih later
      next positive =>
        rcases List.mem_cons.mp member with rfl | later
        · exact absurd (Or.inl none) positive
        · exact ih later

theorem tagShareLoop_positive {elapsed : ℚ} {occupied : RuntimeTag → ℚ} {last : RuntimeTag}
    {tags : List RuntimeTag} (distinct : tags.Nodup)
    (ends : ∀ tag, (tags.filter fun tag => occupied tag > 0).getLast? = some tag → tag = last)
    (remaining : ℤ) :
    ((tagShareLoop elapsed occupied (some last) remaining tags).filter
        fun entry => occupied entry.1 > 0).map Prod.snd =
      (apportion remaining ((tags.filter fun tag => occupied tag > 0).map
        fun tag => occupied tag / elapsed * 1000)).map percentageOf := by
  induction tags generalizing remaining with
  | nil => rfl
  | cons first rest ih =>
      obtain ⟨fresh, later⟩ := List.nodup_cons.mp distinct
      rw [tagShareLoop]
      by_cases positive : occupied first > 0
      · rw [List.filter_cons_of_pos (by simpa using positive)] at ends ⊢
        have onward : ∀ tag, (rest.filter fun tag => occupied tag > 0).getLast? = some tag →
            tag = last := by
          intro tag found
          refine ends tag ?_
          rw [List.getLast?_cons, found]
          rfl
        have final : first = last ↔ (rest.filter fun tag => occupied tag > 0) = [] := by
          constructor
          · intro same
            by_contra more
            obtain ⟨tag, found⟩ := (⟨_, List.getLast?_eq_some_getLast more⟩ :
              ∃ tag, (rest.filter fun tag => occupied tag > 0).getLast? = some tag)
            have inside := (List.mem_filter.mp (List.mem_of_getLast? found)).1
            rw [onward tag found, ← same] at inside
            exact fresh inside
          · intro none
            refine ends first ?_
            rw [none]
            rfl
        rw [if_neg (by simpa using positive), List.map_cons, apportion]
        simp only [List.map_eq_nil_iff, ← final, Option.some.injEq]
        rw [List.filter_cons_of_pos (by simpa using positive), List.map_cons, List.map_cons,
          ih later onward]
        rfl
      · rw [List.filter_cons_of_neg (by simpa using positive)] at ends ⊢
        rw [if_pos (Or.inl (not_lt.mp positive)),
          List.filter_cons_of_neg (by simpa using positive), ih later ends]

/-- Distinct names are looked up one by one. -/
theorem lookup_keys {entries : List (RuntimeTag × ℚ)} (distinct : (entries.map Prod.fst).Nodup)
    {entry : RuntimeTag × ℚ} (member : entry ∈ entries) :
    entries.lookup entry.1 = some entry.2 := by
  induction entries with
  | nil => exact absurd member List.not_mem_nil
  | cons head rest ih =>
      obtain ⟨fresh, later⟩ := List.nodup_cons.mp distinct
      rcases List.mem_cons.mp member with rfl | inside
      · rw [List.lookup_cons, beq_self_eq_true]
      · have other : entry.1 ≠ head.1 := by
          intro same
          exact fresh (same ▸ List.mem_map_of_mem inside)
        rw [List.lookup_cons, beq_false_of_ne other]
        exact ih later inside

theorem runtimeOrder_nodup : runtimeOrder.Nodup := by
  decide

theorem tagShares_fair {elapsed : ℚ} {occupied : RuntimeTag → ℚ} (positive : 0 < elapsed)
    (nonneg : ∀ tag, 0 ≤ occupied tag) (sum : (runtimeOrder.map occupied).sum = elapsed) :
    (∃ percentages, (runtimeOrder.filter fun tag => occupied tag > 0).map
          (tagShares elapsed occupied) = percentages.map some ∧
        Fair elapsed ((runtimeOrder.map occupied).filter fun duration => duration > 0)
          percentages) ∧
      ∀ tag ∈ runtimeOrder, occupied tag = 0 → tagShares elapsed occupied tag = some 0 := by
  have whole := @sum_positive (runtimeOrder.map occupied) (by
    intro duration member
    obtain ⟨tag, -, rfl⟩ := List.mem_map.mp member
    exact nonneg tag)
  have kept : (runtimeOrder.map occupied).filter (fun duration => duration > 0) =
      (runtimeOrder.filter fun tag => occupied tag > 0).map occupied := by
    rw [List.filter_map]
    rfl
  have more : (runtimeOrder.filter fun tag => occupied tag > 0) ≠ [] := by
    intro none
    rw [kept, none, sum] at whole
    exact positive.ne whole
  obtain ⟨last, ends⟩ := (⟨_, List.getLast?_eq_some_getLast more⟩ :
    ∃ last, (runtimeOrder.filter fun tag => occupied tag > 0).getLast? = some last)
  have shares : ∀ tag, tagShares elapsed occupied tag =
      (tagShareLoop elapsed occupied (some last) 1000 runtimeOrder).lookup tag := by
    intro tag
    rw [tagShares, if_neg (by simpa using positive)]
    simp only [ends]
  set entries := tagShareLoop elapsed occupied (some last) 1000 runtimeOrder with entries_eq
  have keys : entries.map Prod.fst = runtimeOrder := tagShareLoop_keys _ _ _ _ _
  have distinct : (entries.map Prod.fst).Nodup := keys ▸ runtimeOrder_nodup
  refine ⟨⟨_, ?_, fair_apportion positive (fun duration member => ?_) (whole.trans sum)⟩,
    fun tag member zero => ?_⟩
  · have found : (runtimeOrder.filter fun tag => occupied tag > 0).map
        (tagShares elapsed occupied) =
        ((entries.filter fun entry => occupied entry.1 > 0).map Prod.snd).map some := by
      rw [← keys, List.filter_map, List.map_map, List.map_map]
      refine List.map_congr_left fun entry member => ?_
      rw [Function.comp_apply, shares, lookup_keys distinct (List.mem_filter.mp member).1]
      rfl
    rw [found, entries_eq, tagShareLoop_positive runtimeOrder_nodup
      (fun tag other => Option.some.inj (other.symm.trans ends)), kept]
    simp only [List.map_map, Function.comp_def]
  · exact of_decide_eq_true (List.mem_filter.mp member).2
  · rw [← keys] at member
    obtain ⟨entry, inside, rfl⟩ := List.mem_map.mp member
    rw [shares, lookup_keys distinct inside, tagShareLoop_zero inside zero.le]

/-- Both functions share a hundred percent out fairly. -/
theorem shares_fair :
    (∀ (total : ℚ) (entries : List (TaskActivity × ℚ)), 0 < total →
      (∀ entry ∈ entries, 0 ≤ entry.2) → (entries.map Prod.snd).sum = total →
      ∃ percentages, (bucketShares total entries).map (·.percentage) = percentages.map some ∧
        Fair total ((entries.map Prod.snd).filter fun duration => duration > 0) percentages) ∧
    ∀ (elapsed : ℚ) (occupied : RuntimeTag → ℚ), 0 < elapsed → (∀ tag, 0 ≤ occupied tag) →
      (runtimeOrder.map occupied).sum = elapsed →
      (∃ percentages, (runtimeOrder.filter fun tag => occupied tag > 0).map
            (tagShares elapsed occupied) = percentages.map some ∧
          Fair elapsed ((runtimeOrder.map occupied).filter fun duration => duration > 0)
            percentages) ∧
        ∀ tag ∈ runtimeOrder, occupied tag = 0 → tagShares elapsed occupied tag = some 0 :=
  ⟨fun _ _ positive nonneg sum => bucketShares_fair positive nonneg sum,
    fun _ _ positive nonneg sum => tagShares_fair positive nonneg sum⟩

def occupiedSample : RuntimeTag → ℚ
  | .browser => 3
  | .overlap => 0
  | _ => 1

theorem shares_fair_sample :
    (∃ percentages, (bucketShares 3 [(.model, 1), (.queue, 0), (.tool, 2)]).map (·.percentage) =
        percentages.map some ∧
      Fair 3 ((([(.model, 1), (.queue, 0), (.tool, 2)] : List (TaskActivity × ℚ)).map Prod.snd).filter
        fun duration => duration > 0) percentages) ∧
    tagShares 5 occupiedSample .overlap = some 0 :=
  ⟨shares_fair.1 3 [(.model, 1), (.queue, 0), (.tool, 2)] (by norm_num) (by simp)
      (by norm_num),
    (shares_fair.2 5 occupiedSample (by norm_num)
      (fun tag => by cases tag <;> norm_num [occupiedSample])
      (by norm_num [runtimeOrder, occupiedSample])).2 .overlap (by decide) rfl⟩

end Devproof.ExactShares
