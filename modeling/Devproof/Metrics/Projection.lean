import Mathlib.Algebra.Order.BigOperators.Group.List
import Devproof.Metrics.Clock

/-!
The self-check of the projection holds for every window that fits in 53 bits.
-/

namespace Devproof

/-! Buckets and the totals they come from. -/

def TaskTimingBucket.entry (bucket : TaskTimingBucket) : TaskActivity × Int :=
  (bucket.activity, bucket.durationMs)

theorem shareOut_entries (total remaining : Int) (entries : List (TaskActivity × Int)) :
    (shareOut total remaining entries).map (·.entry) = entries := by
  induction entries generalizing remaining with
  | nil => rfl
  | cons entry rest ih =>
      obtain ⟨activity, durationMs⟩ := entry
      simp only [shareOut, List.map_cons, TaskTimingBucket.entry, List.cons.injEq, true_and]
      exact ih _

theorem bucketShares_entries {total : Int} {entries : List (TaskActivity × Int)}
    (positive : ∀ entry ∈ entries, 0 < entry.2) :
    (bucketShares total entries).map (·.entry) = entries := by
  rw [bucketShares, shareOut_entries, List.filter_eq_self]
  intro entry member
  simpa using positive entry member

theorem durationOf_eq (buckets : List TaskTimingBucket) (activity : TaskActivity) :
    durationOf buckets activity = amount (buckets.map (·.entry)) activity := by
  induction buckets with
  | nil => rfl
  | cons bucket rest ih =>
      simp only [durationOf, List.find?_cons, List.map_cons, TaskTimingBucket.entry, amount_cons]
        at ih ⊢
      by_cases here : bucket.activity = activity
      · simp [here]
      · have other : (bucket.activity == activity) = false := by simpa using here
        simp only [other, here, if_false]
        exact ih

theorem durations_sum (kind : TaskActivity → Bool) (buckets : List TaskTimingBucket) :
    ((buckets.filter fun bucket => kind bucket.activity).map (·.durationMs)).sum =
      totalOf kind (buckets.map (·.entry)) := by
  induction buckets with
  | nil => rfl
  | cons bucket rest ih =>
      simp only [List.map_cons, TaskTimingBucket.entry, totalOf_cons] at ih ⊢
      by_cases picked : kind bucket.activity = true
      · simp [picked, ih]
      · simp [picked, ih]

theorem foldl_plus {α : Type} (value : α → Int) (items : List α) (start : Int) (least : 0 ≤ start)
    (nonneg : ∀ item ∈ items, 0 ≤ value item)
    (fits : start + (items.map value).sum ≤ 2 ^ 53) :
    items.foldl (fun sum item => plus sum (value item)) start = start + (items.map value).sum := by
  induction items generalizing start with
  | nil => simp
  | cons item rest ih =>
      have here := nonneg item (List.mem_cons_self ..)
      have later : ∀ other ∈ rest, 0 ≤ value other :=
        fun other member => nonneg other (List.mem_cons_of_mem _ member)
      have restNonneg : 0 ≤ (rest.map value).sum := by
        apply List.sum_nonneg
        intro duration member
        obtain ⟨other, listed, rfl⟩ := List.mem_map.mp member
        exact later other listed
      rw [List.map_cons, List.sum_cons] at fits ⊢
      rw [List.foldl_cons, plus_exact least here (by omega), ih _ (by omega) later (by omega)]
      omega

theorem sumOf_exact {α : Type} {value : α → Int} {items : List α}
    (nonneg : ∀ item ∈ items, 0 ≤ value item) (fits : (items.map value).sum ≤ 2 ^ 53) :
    sumOf value items = (items.map value).sum := by
  rw [sumOf, foldl_plus value items 0 le_rfl nonneg (by omega), zero_add]

section Exactness

variable {segments : List RuntimeSegment} {chosen : RuntimeSegment → Bool}
  {totals : List (TaskActivity × Int)} {total : Int}

theorem Adds.sumOf_buckets (adds : Adds totals chosen segments) (grows : Grows segments)
    (fits : spent everySegment segments ≤ 2 ^ 53) (kind : TaskActivity → Bool) :
    sumOf (·.durationMs)
        ((bucketShares total totals).filter fun bucket => kind bucket.activity) =
      spent (fun segment => chosen segment && kind segment.activity) segments := by
  have exact : ((((bucketShares total totals).filter fun bucket => kind bucket.activity)).map
      (·.durationMs)).sum =
      spent (fun segment => chosen segment && kind segment.activity) segments := by
    rw [durations_sum, bucketShares_entries adds.positive, adds.kinds]
  rw [sumOf_exact, exact]
  · intro bucket member
    have entry : bucket.entry ∈ (bucketShares total totals).map (·.entry) :=
      List.mem_map_of_mem (List.mem_filter.mp member).1
    rw [bucketShares_entries adds.positive] at entry
    exact (adds.positive _ entry).le
  · rw [exact]
    exact (spent_le grows fun _ _ => rfl).trans fits

theorem Adds.sumOf_all (adds : Adds totals chosen segments) (grows : Grows segments)
    (fits : spent everySegment segments ≤ 2 ^ 53) :
    sumOf (·.durationMs) (bucketShares total totals) = spent chosen segments := by
  have everything : sumOf (·.durationMs) ((bucketShares total totals).filter fun _ => true) =
      spent (fun segment => chosen segment && true) segments :=
    adds.sumOf_buckets grows fits fun _ => true
  simpa using everything

theorem Adds.durationOf (adds : Adds totals chosen segments) (activity : TaskActivity) :
    durationOf (bucketShares total totals) activity =
      spent (fun segment => chosen segment && segment.activity == activity) segments := by
  rw [durationOf_eq, bucketShares_entries adds.positive, adds.amounts]

theorem sumOf_tags {value : RuntimeTag → Int} (grows : Grows segments)
    (fits : spent everySegment segments ≤ 2 ^ 53)
    (shares : ∀ tag, value tag = spent (tagged chosen tag) segments) :
    sumOf value runtimeOrder = spent chosen segments := by
  have exact : (runtimeOrder.map value).sum = spent chosen segments := by
    simp only [runtimeOrder, List.map_cons, List.map_nil, List.sum_cons, List.sum_nil, shares]
    rw [spent_tags chosen]
    omega
  rw [sumOf_exact, exact]
  · intro tag _
    rw [shares]
    exact spent_nonneg _ grows
  · rw [exact]
    exact (spent_le grows fun _ _ => rfl).trans fits

end Exactness

theorem sumOf_map {α β : Type} (value : β → Int) (view : α → β) (items : List α) :
    sumOf value (items.map view) = sumOf (fun item => value (view item)) items := by
  simp only [sumOf, List.foldl_map]

theorem tagged_comm (kind : TaskActivity → Bool) (tag : RuntimeTag) :
    (fun segment : RuntimeSegment => tagged everySegment tag segment && kind segment.activity) =
      tagged (fun segment => everySegment segment && kind segment.activity) tag := by
  funext segment
  simp only [tagged, everySegment, Bool.true_and, Bool.and_comm]

def RuntimeProjection.parts (projection : RuntimeProjection) : List TaskRuntimeResidual :=
  projection.runtimes.map (·.toTaskRuntimeResidual) ++ [projection.unassigned, projection.overlap]

theorem invariant_of_exact {input : RuntimeProjectionInput} {tally : Tally}
    {segments : List RuntimeSegment} (exact : Exact tally segments) (grows : Grows segments)
    (fits : spent everySegment segments ≤ 2 ^ 53) :
    invariantHolds (some (spent everySegment segments))
      (bucketShares (spent everySegment segments) tally.activityTotals)
      (runtimeOrder.map (residual input tally)) = true := by
  have partsHold : ∀ tag, partHolds (residual input tally tag) = true := by
    intro tag
    have buckets : sumOf (·.durationMs) (bucketShares (tally.occupied tag) (tally.activities tag)) =
        spent (tagged everySegment tag) segments := (exact.activities tag).sumOf_all grows fits
    have kinds := spent_kinds (tagged everySegment tag) segments
    have most : spent (tagged everySegment tag) segments ≤ 2 ^ 53 :=
      (spent_le grows fun _ _ => rfl).trans fits
    have active := spent_nonneg
      (fun segment => tagged everySegment tag segment && isActive segment.activity) grows
    have waiting := spent_nonneg
      (fun segment => tagged everySegment tag segment && isWaiting segment.activity) grows
    have unknown := spent_nonneg
      (fun segment => tagged everySegment tag segment && isUnknown segment.activity) grows
    simp only [partHolds, residual, Bool.and_eq_true, beq_iff_eq]
    refine ⟨by rw [buckets, exact.occupied], ?_⟩
    rw [exact.active, exact.waiting, exact.unknown, exact.occupied,
      plus_exact active waiting (by omega), plus_exact (by omega) unknown (by omega), kinds]
  have byKind : ∀ (value : TaskRuntimeResidual → Int) (kind : TaskActivity → Bool),
      (∀ tag, value (residual input tally tag) =
        spent (fun segment => tagged everySegment tag segment && kind segment.activity) segments) →
      sumOf value (runtimeOrder.map (residual input tally)) =
        spent (fun segment => everySegment segment && kind segment.activity) segments := by
    intro value kind shares
    rw [sumOf_map]
    exact sumOf_tags grows fits fun tag => (shares tag).trans (by rw [tagged_comm])
  unfold invariantHolds
  dsimp only
  split
  · rfl
  · simp only [Bool.and_eq_true, beq_iff_eq, List.all_eq_true, and_assoc]
    refine ⟨exact.totals.sumOf_all grows fits, ?_, ?_, ?_, ?_, ?_, ?_⟩
    · rw [sumOf_map]
      exact sumOf_tags grows fits exact.occupied
    · intro part member
      obtain ⟨tag, -, rfl⟩ := List.mem_map.mp member
      exact partsHold tag
    · intro activity _
      rw [exact.totals.durationOf]
      exact (byKind _ (fun other => other == activity)
        fun tag => (exact.activities tag).durationOf activity).symm
    · rw [byKind _ isActive exact.active]
      exact (exact.totals.sumOf_buckets grows fits isActive).symm
    · rw [byKind _ isWaiting exact.waiting]
      exact (exact.totals.sumOf_buckets grows fits isWaiting).symm
    · rw [byKind _ isUnknown exact.unknown]
      have same : (fun bucket : TaskTimingBucket =>
          [TaskActivity.unknown].contains bucket.activity) =
          fun bucket => isUnknown bucket.activity := by
        funext bucket
        cases bucket.activity <;> rfl
      rw [same]
      exact (exact.totals.sumOf_buckets grows fits isUnknown).symm

structure SplitsClock (projection : RuntimeProjection) (elapsed : Int) : Prop where
  buckets : (projection.buckets.map (·.durationMs)).sum = elapsed
  occupied : (projection.parts.map (·.occupiedMs)).sum = elapsed
  partBuckets : ∀ part ∈ projection.parts, (part.buckets.map (·.durationMs)).sum = part.occupiedMs
  partKinds : ∀ part ∈ projection.parts,
    part.activeMs + part.waitingMs + part.unknownMs = part.occupiedMs
  activities : ∀ activity, durationOf projection.buckets activity =
    (projection.parts.map fun part => durationOf part.buckets activity).sum

theorem Adds.buckets_sum {segments : List RuntimeSegment} {chosen : RuntimeSegment → Bool}
    {totals : List (TaskActivity × Int)} (adds : Adds totals chosen segments) (total : Int) :
    ((bucketShares total totals).map (·.durationMs)).sum = spent chosen segments := by
  have everything := durations_sum (fun _ => true) (bucketShares total totals)
  rw [bucketShares_entries adds.positive, adds.kinds] at everything
  simpa using everything

section Runs

variable {input : RuntimeProjectionInput}

theorem elapsedOf_eq (order : input.start ≤ input.stop)
    (fits : input.stop - input.start ≤ 2 ^ 53) :
    elapsedOf input = some (input.stop - input.start) := by
  rw [elapsedOf, if_pos order, minus_eq (abs_le.mpr ⟨by omega, fits⟩)]

theorem projection_parts :
    (projectRuntimeTiming input).parts =
      runtimeOrder.map (residual input ((projectedSegments input).foldl Tally.add {})) := rfl

theorem projection_exact (order : input.start ≤ input.stop)
    (fits : input.stop - input.start ≤ 2 ^ 53) :
    Exact ((projectedSegments input).foldl Tally.add {}) (projectedSegments input) := by
  have tiles := projectedSegments_tiles order
  exact tally_exact tiles.grows (tiles.spent ▸ fits)

theorem projection_ok (fits : input.stop - input.start ≤ 2 ^ 53) :
    (projectRuntimeTiming input).ok = true := by
  by_cases order : input.start ≤ input.stop
  · have tiles := projectedSegments_tiles order
    have exact := projection_exact order fits
    have holds := @invariant_of_exact input _ _ exact tiles.grows (tiles.spent ▸ fits)
    rw [tiles.spent] at holds
    simp only [projectRuntimeTiming, elapsedOf_eq order fits]
    by_cases empty : input.stop - input.start = 0
    · simp [empty, invariantHolds]
    · rw [if_neg empty]
      exact holds
  · simp only [projectRuntimeTiming, elapsedOf, if_neg order]
    rfl

theorem projection_splits (order : input.start < input.stop)
    (fits : input.stop - input.start ≤ 2 ^ 53) :
    SplitsClock (projectRuntimeTiming input) (input.stop - input.start) := by
  have tiles := projectedSegments_tiles order.le
  have exact := projection_exact order.le fits
  have global : (projectRuntimeTiming input).buckets =
      bucketShares (input.stop - input.start)
        ((projectedSegments input).foldl Tally.add {}).activityTotals := by
    simp only [projectRuntimeTiming, elapsedOf_eq order.le fits]
    rw [if_neg (by omega)]
  have tags := spent_tags everySegment (projectedSegments input)
  rw [tiles.spent] at tags
  refine ⟨?_, ?_, ?_, ?_, ?_⟩
  · rw [global, exact.totals.buckets_sum, tiles.spent]
  · simp only [projection_parts, runtimeOrder, List.map_cons, List.map_nil, List.sum_cons,
      List.sum_nil, residual, exact.occupied]
    omega
  · intro part member
    obtain ⟨tag, -, rfl⟩ := List.mem_map.mp (projection_parts ▸ member)
    exact ((exact.activities tag).buckets_sum _).trans (exact.occupied tag).symm
  · intro part member
    obtain ⟨tag, -, rfl⟩ := List.mem_map.mp (projection_parts ▸ member)
    simp only [residual, exact.active, exact.waiting, exact.unknown, exact.occupied]
    exact (spent_kinds (tagged everySegment tag) _).symm
  · intro activity
    rw [global, exact.totals.durationOf]
    simp only [projection_parts, runtimeOrder, List.map_cons, List.map_nil, List.sum_cons,
      List.sum_nil, residual, (exact.activities _).durationOf]
    rw [spent_tags]
    simp only [tagged_comm fun other => other == activity]
    omega

/-- The segments cover the window; in a window that fits, every sum is the same duration. -/
theorem projectRuntimeTiming_covers (input : RuntimeProjectionInput) :
    (input.start < input.stop →
      (projectRuntimeTiming input).segments ≠ [] ∧
        Tiles input.start input.stop (projectRuntimeTiming input).segments) ∧
    (input.stop - input.start ≤ 2 ^ 53 →
      (projectRuntimeTiming input).ok = true ∧
        (input.start < input.stop →
          SplitsClock (projectRuntimeTiming input) (input.stop - input.start))) := by
  constructor
  · intro order
    have tiles : Tiles input.start input.stop (projectRuntimeTiming input).segments :=
      mergeSegments_tiles (projectedSegments_tiles order.le)
    refine ⟨?_, tiles⟩
    intro empty
    rw [empty] at tiles
    exact absurd tiles (ne_of_lt order)
  · intro fits
    exact ⟨projection_ok fits, fun order => projection_splits order fits⟩

end Runs

/-- The widest window of dates, in which a sum of two lengths is not a double. -/
def widestWindow : RuntimeProjectionInput where
  taskId := "t"
  start := -8640000000000000
  stop := 8640000000000000
  analysisStageStatus := none
  attempts := []
  runs := []
  spans :=
    [{ id := "a", lane := "t", label := "", activity := "MODEL", scope := none,
       startedAt := -8640000000000000, finishedAt := some 1000000000000001 },
     { id := "b", lane := "t", label := "", activity := "TOOL", scope := none,
       startedAt := 1000000000000001, finishedAt := some 1000000000000002 },
     { id := "c", lane := "t", label := "", activity := "QUEUE", scope := none,
       startedAt := 1000000000000002, finishedAt := none }]
  usages := []

theorem widestWindow_not_ok : (projectRuntimeTiming widestWindow).ok = false := by
  decide +kernel

/-- An analysis and a run that overlap, each with model calls. -/
def shortWindow : RuntimeProjectionInput where
  taskId := "t"
  start := 0
  stop := 10000
  analysisStageStatus := some "COMPLETED"
  attempts :=
    [{ id := "analysis-1", stageType := "SPEC_ANALYSIS", executor := some "AGENT_RUNTIME",
       createdAt := 500, finishedAt := some 6000 }]
  runs := [{ id := "run-1", createdAt := 4000, finishedAt := some 9000 }]
  spans :=
    [{ id := "state:task_executions:t", lane := "t", label := "QUEUED", activity := "QUEUE",
       scope := none, startedAt := 0, finishedAt := some 1000 },
     { id := "model:call-1", lane := "analysis-1", label := "", activity := "MODEL",
       scope := none, startedAt := 1000, finishedAt := some 6000 },
     { id := "model:call-2", lane := "run-1", label := "", activity := "MODEL", scope := none,
       startedAt := 5000, finishedAt := some 8000 },
     { id := "tool:click", lane := "run-1", label := "", activity := "TOOL", scope := none,
       startedAt := 7000, finishedAt := some 9500 }]
  usages :=
    [{ id := "call-1", ownerId := "analysis-1", stage := "SPEC_ANALYSIS", scope := "EXECUTION",
       runId := none },
     { id := "call-2", ownerId := "run-1", stage := "SPEC_EXECUTION", scope := "EXECUTION",
       runId := some "run-1" }]

theorem shortWindow_covers :
    ((projectRuntimeTiming shortWindow).segments ≠ [] ∧
      Tiles 0 10000 (projectRuntimeTiming shortWindow).segments) ∧
    (projectRuntimeTiming shortWindow).ok = true ∧
      SplitsClock (projectRuntimeTiming shortWindow) (10000 - 0) := by
  have covers := projectRuntimeTiming_covers shortWindow
  exact ⟨covers.1 (by decide), (covers.2 (by decide)).1, (covers.2 (by decide)).2 (by decide)⟩

end Devproof
