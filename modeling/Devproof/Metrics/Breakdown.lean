import Devproof.Metrics.Projection

/-!
The breakdown by activity is the same with and without runtime attribution: the
label of a moment only depends on the spans that are open then, and the extra
points of the segment sweep cut slices of one label.
-/

namespace Devproof

/-! The exclusive activity depends on the set of open spans. -/

theorem mem_laneKinds_congr {first second : List TimingSpan} {lane kind : String}
    (same : ∀ span, span ∈ first ↔ span ∈ second) :
    kind ∈ laneKinds first lane ↔ kind ∈ laneKinds second lane := by
  have kinds : ∀ other, other ∈ uniq ((first.filter fun span => span.lane == lane).map (·.activity)) ↔
      other ∈ uniq ((second.filter fun span => span.lane == lane).map (·.activity)) := by
    intro other
    simp only [mem_uniq, List.mem_map, List.mem_filter, same]
  unfold laneKinds
  simp only [List.contains_eq_mem, kinds]
  split
  · simp only [List.mem_filter, kinds]
  · exact kinds kind

theorem mem_activeKinds_congr {first second : List TimingSpan} {kind : String}
    (same : ∀ span, span ∈ first ↔ span ∈ second) :
    kind ∈ activeKinds first ↔ kind ∈ activeKinds second := by
  simp only [activeKinds, mem_uniq, List.mem_flatMap, List.mem_map, same,
    mem_laneKinds_congr same]

theorem activityIn_name {activities : List TaskActivity} {name : String} {activity : TaskActivity}
    (found : activityIn activities name = some activity) : activity.name = name := by
  simpa using List.find?_some found

theorem nodup_activities (activities : List TaskActivity) {names : List String}
    (distinct : names.Nodup) : (names.filterMap (activityIn activities)).Nodup := by
  induction names with
  | nil => simp
  | cons name rest ih =>
      obtain ⟨fresh, later⟩ := List.nodup_cons.mp distinct
      cases found : activityIn activities name with
      | none => simpa [List.filterMap_cons, found] using ih later
      | some activity =>
          rw [List.filterMap_cons, found, List.nodup_cons]
          refine ⟨?_, ih later⟩
          intro again
          obtain ⟨other, member, found'⟩ := List.mem_filterMap.mp again
          have names : other = name := (activityIn_name found').symm.trans (activityIn_name found)
          exact fresh (names ▸ member)

theorem activities_perm (activities : List TaskActivity) {first second : List TimingSpan}
    (same : ∀ span, span ∈ first ↔ span ∈ second) :
    ((activeKinds first).filterMap (activityIn activities)).Perm
      ((activeKinds second).filterMap (activityIn activities)) := by
  have distinct : ∀ active, ((activeKinds active).filterMap (activityIn activities)).Nodup :=
    fun active => nodup_activities activities (nodup_uniq _)
  rw [List.perm_ext_iff_of_nodup (distinct first) (distinct second)]
  intro activity
  simp only [List.mem_filterMap, mem_activeKinds_congr same]

theorem perm_short {α : Type} {first second : List α} (perm : first.Perm second)
    (short : ¬ first.length > 1) : first = second := by
  cases first with
  | nil => exact (List.nil_perm.mp perm).symm
  | cons item rest =>
      have none : rest = [] := by
        rw [List.length_cons] at short
        exact List.eq_nil_of_length_eq_zero (by omega)
      subst none
      exact (List.perm_singleton.mp perm.symm).symm

/-- The same open spans give the same activity, in whatever order they were opened. -/
theorem exclusiveActivity_congr {first second : List TimingSpan}
    (same : ∀ span, span ∈ first ↔ span ∈ second) :
    exclusiveActivity first = exclusiveActivity second := by
  have running := activities_perm work same
  have waiting := activities_perm waits same
  have unknown : (activeKinds first).contains "UNKNOWN" = (activeKinds second).contains "UNKNOWN" := by
    simp only [List.contains_eq_mem, mem_activeKinds_congr same]
  simp only [exclusiveActivity, unknown]
  split
  · rfl
  · rw [running.length_eq]
    split
    · rfl
    · rename_i few
      rw [perm_short running (running.length_eq ▸ few), waiting.length_eq]
      split
      · rfl
      · split
        · rfl
        · rename_i short
          rw [perm_short waiting (waiting.length_eq ▸ short)]

def TimingSpan.strip (span : TimingSpan) : TimingSpan :=
  { span with runtime := none }

theorem exclusiveActivity_strip (active : List TimingSpan) :
    exclusiveActivity (active.map (·.strip)) = exclusiveActivity active := by
  have kinds : activeKinds (active.map (·.strip)) = activeKinds active := by
    simp only [activeKinds, List.map_map]
    congr 1
    have lanes : active.map ((·.lane) ∘ (·.strip)) = active.map (·.lane) := rfl
    rw [lanes]
    congr 1
    funext lane
    have kept : ((active.map (·.strip)).filter fun span => span.lane == lane).map (·.activity) =
        (active.filter fun span => span.lane == lane).map (·.activity) := by
      rw [List.filter_map, List.map_map]
      rfl
    simp only [laneKinds, kept]
  simp only [exclusiveActivity, kinds]

def netOf (chosen : Int → Bool) (events : List (Int × Nat × Int)) (key : Nat) : Int :=
  match events with
  | [] => 0
  | (time, other, delta) :: rest =>
      (if chosen time && other == key then delta else 0) + netOf chosen rest key

def Live (active : List (Nat × Int)) : Prop :=
  ∀ entry ∈ active, amount active entry.1 ≠ 0

theorem netOf_congr {chosen other : Int → Bool} {events : List (Int × Nat × Int)} {key : Nat}
    (same : ∀ event ∈ events, chosen event.1 = other event.1) :
    netOf chosen events key = netOf other events key := by
  induction events with
  | nil => rfl
  | cons event rest ih =>
      obtain ⟨time, span, delta⟩ := event
      have here : chosen time = other time := same _ (List.mem_cons_self ..)
      simp only [netOf, here, ih fun event member => same event (List.mem_cons_of_mem _ member)]

theorem netOf_upTo (events : List (Int × Nat × Int)) (point : Int) (key : Nat) :
    netOf (fun time => decide (time < point)) events key + netOf (· == point) events key =
      netOf (fun time => decide (time ≤ point)) events key := by
  induction events with
  | nil => rfl
  | cons event rest ih =>
      obtain ⟨time, span, delta⟩ := event
      simp only [netOf]
      rcases lt_trichotomy time point with before | here | after
      · have apart : (time == point) = false := by simpa using before.ne
        simp only [before, before.le, apart, decide_true, Bool.true_and, Bool.false_and,
          Bool.false_eq_true, if_false]
        omega
      · subst here
        simp only [lt_irrefl, le_refl, beq_self_eq_true, decide_false, decide_true, Bool.true_and,
          Bool.false_and, Bool.false_eq_true, if_false]
        omega
      · have apart : (time == point) = false := by simpa using after.ne'
        simp only [not_lt.mpr after.le, not_le.mpr after, apart, decide_false, Bool.false_and,
          Bool.false_eq_true, if_false]
        omega

theorem amount_countSpan (active : List (Nat × Int)) (key other : Nat) (delta : Int) :
    amount (countSpan active key delta) other =
      amount active other + if key = other then delta else 0 := by
  simp only [countSpan]
  split
  · rw [amount_setEntry]
    by_cases same : other = key
    · simp [same]
    · simp [same, Ne.symm same]
  · rename_i zero
    rw [amount_deleteEntry]
    by_cases same : other = key
    · subst same
      simp only [if_true]
      omega
    · simp [same, Ne.symm same]

theorem Live.countSpan {active : List (Nat × Int)} (live : Live active) (key : Nat) (delta : Int) :
    Live (countSpan active key delta) := by
  intro entry member
  by_cases same : entry.1 = key
  · simp only [Devproof.countSpan] at member ⊢
    split at member
    · rename_i nonzero
      rw [if_pos nonzero, amount_setEntry, if_pos same]
      exact nonzero
    · simp [deleteEntry, same] at member
  · have kept : entry ∈ active := by
      simp only [Devproof.countSpan] at member
      split at member
      · rcases mem_setEntry member with rfl | earlier
        · exact absurd rfl same
        · exact earlier
      · exact (List.mem_filter.mp member).1
    rw [amount_countSpan, if_neg (Ne.symm same), add_zero]
    exact live entry kept

theorem countSpans_spec (events : List (Int × Nat × Int)) (point : Int)
    {active : List (Nat × Int)} (live : Live active) :
    Live (countSpans events point active) ∧
      ∀ key, amount (countSpans events point active) key =
        amount active key + netOf (· == point) events key := by
  unfold countSpans
  induction events generalizing active with
  | nil => exact ⟨live, fun key => by simp [netOf]⟩
  | cons event rest ih =>
      obtain ⟨time, span, delta⟩ := event
      by_cases here : (time == point) = true
      · have step := ih (live.countSpan span delta)
        rw [List.filter_cons_of_pos (by exact here), List.foldl_cons]
        refine ⟨step.1, ?_⟩
        intro key
        rw [step.2, amount_countSpan]
        simp only [netOf, here, Bool.true_and, beq_iff_eq]
        omega
      · rw [List.filter_cons_of_neg (by exact here)]
        refine ⟨(ih live).1, ?_⟩
        intro key
        rw [(ih live).2]
        simp [netOf, here]

theorem exists_entry_iff {active : List (Nat × Int)} (live : Live active) (key : Nat) :
    (∃ entry ∈ active, entry.1 = key) ↔ amount active key ≠ 0 := by
  constructor
  · rintro ⟨entry, member, rfl⟩
    exact live entry member
  · intro nonzero
    by_contra absent
    push Not at absent
    apply nonzero
    clear live nonzero
    induction active with
    | nil => rfl
    | cons entry rest ih =>
        have other := absent entry (List.mem_cons_self ..)
        rw [amount_cons, if_neg other]
        exact ih fun later member => absent later (List.mem_cons_of_mem _ member)

def openAt (spans : List TimingSpan) (events : List (Int × Nat × Int)) (time : Int) :
    List TimingSpan :=
  (spans.zipIdx.filter fun entry =>
    netOf (fun place => decide (place ≤ time)) events entry.2 != 0).map Prod.fst

def labelAt (spans : List TimingSpan) (events : List (Int × Nat × Int)) (time : Int) :
    TaskActivity :=
  exclusiveActivity (openAt spans events time)

theorem exclusiveActivity_open {spans : List TimingSpan} {events : List (Int × Nat × Int)}
    {active : List (Nat × Int)} {point : Int} (live : Live active)
    (counts : ∀ key, amount active key =
      netOf (fun place => decide (place ≤ point)) events key) :
    exclusiveActivity (activeSpans spans active) = labelAt spans events point := by
  apply exclusiveActivity_congr
  intro span
  simp only [activeSpans, openAt, List.mem_filterMap, List.mem_map, List.mem_filter, bne_iff_ne,
    ← counts]
  constructor
  · rintro ⟨entry, member, found⟩
    exact ⟨(span, entry.1), ⟨List.mem_zipIdx_iff_getElem?.mpr found, live entry member⟩, rfl⟩
  · rintro ⟨⟨other, key⟩, ⟨listed, nonzero⟩, rfl⟩
    obtain ⟨entry, member, rfl⟩ := (exists_entry_iff live key).mpr nonzero
    exact ⟨entry, member, List.mem_zipIdx_iff_getElem?.mp listed⟩

structure Swept (events : List (Int × Nat × Int)) (point : Int) (rest : List Int)
    (active : List (Nat × Int)) : Prop where
  live : Live active
  counts : ∀ key, amount active key = netOf (fun time => decide (time < point)) events key
  listed : ∀ event ∈ events, event.1 < point ∨ event.1 ∈ point :: rest

theorem Swept.label {spans : List TimingSpan} {events : List (Int × Nat × Int)} {point : Int}
    {rest : List Int} {active : List (Nat × Int)} (swept : Swept events point rest active) :
    exclusiveActivity (activeSpans spans (countSpans events point active)) =
      labelAt spans events point := by
  have step := countSpans_spec events point swept.live
  refine exclusiveActivity_open step.1 ?_
  intro key
  rw [step.2, swept.counts, netOf_upTo]

theorem Swept.next {events : List (Int × Nat × Int)} {point next : Int} {rest : List Int}
    {active : List (Nat × Int)} (swept : Swept events point (next :: rest) active)
    (ascend : (point :: next :: rest).Pairwise (· < ·)) :
    Swept events next rest (countSpans events point active) := by
  have step := countSpans_spec events point swept.live
  have above := (List.pairwise_cons.mp ascend).1 next (List.mem_cons_self ..)
  have after := (List.pairwise_cons.mp (List.pairwise_cons.mp ascend).2).1
  refine ⟨step.1, ?_, ?_⟩
  · intro key
    rw [step.2, swept.counts, netOf_upTo]
    apply netOf_congr
    intro event member
    rw [decide_eq_decide]
    rcases swept.listed event member with before | here
    · omega
    · rcases List.mem_cons.mp here with same | later
      · omega
      · rcases List.mem_cons.mp later with same | far
        · omega
        · have beyond := after event.1 far
          omega
  · intro event member
    rcases swept.listed event member with before | here
    · exact Or.inl (by omega)
    · rcases List.mem_cons.mp here with same | later
      · exact Or.inl (by omega)
      · exact Or.inr later

theorem Swept.start {events : List (Int × Nat × Int)} {point : Int} {rest : List Int}
    (listed : ∀ event ∈ events, event.1 ∈ point :: rest)
    (ascend : (point :: rest).Pairwise (· < ·)) : Swept events point rest [] where
  live := by intro entry member; simp at member
  counts key := by
    have least : ∀ event ∈ events, decide (event.1 < point) = false := by
      intro event member
      rw [decide_eq_false_iff_not]
      rcases List.mem_cons.mp (listed event member) with here | later
      · omega
      · have above := (List.pairwise_cons.mp ascend).1 event.1 later
        omega
    rw [@netOf_congr _ (fun _ => false) events key least]
    clear listed least
    induction events with
    | nil => rfl
    | cons event rest ih => simpa [netOf] using ih
  listed event member := Or.inr (listed event member)

def Within (start point : Int) (totals : List (TaskActivity × Int)) : Prop :=
  ∀ activity, 0 ≤ amount totals activity ∧ amount totals activity ≤ point - start

theorem Within.step {start point next : Int} {totals : List (TaskActivity × Int)}
    (within : Within start point totals) (above : point < next) (activity : TaskActivity) :
    Within start next
      (setEntry activity (amount totals activity + (next - point)) totals) := by
  intro other
  have here := within activity
  have there := within other
  rw [amount_setEntry]
  split <;> omega

theorem bucketLoop_eq (spans : List TimingSpan) {events : List (Int × Nat × Int)}
    {start stop point : Int} {rest : List Int} {active : List (Nat × Int)}
    {totals : List (TaskActivity × Int)} (swept : Swept events point rest active)
    (ascend : (point :: rest).Pairwise (· < ·))
    (inside : ∀ time ∈ point :: rest, start ≤ time ∧ time ≤ stop)
    (within : Within start point totals) (least : -(2 ^ 53) ≤ start)
    (short : stop - start ≤ 2 ^ 53) (fits : 2 * stop - start ≤ 2 ^ 53) :
    bucketLoop spans events (point :: rest) active totals =
      accumulate (labelAt spans events) (point :: rest) totals := by
  induction rest generalizing point active totals with
  | nil => rfl
  | cons next rest ih =>
      have above := (List.pairwise_cons.mp ascend).1 next (List.mem_cons_self ..)
      have here := inside point (List.mem_cons_self ..)
      have there := inside next (by simp)
      have amounts := within (labelAt spans events point)
      simp only [bucketLoop, accumulate, swept.label]
      have exact : minus (plus (amount totals (labelAt spans events point)) next) point =
          amount totals (labelAt spans events point) + (next - point) := by
        rw [plus_eq (abs_le.mpr ⟨by omega, by omega⟩), minus_eq (abs_le.mpr ⟨by omega, by omega⟩)]
        omega
      rw [exact]
      exact ih (swept.next ascend) (List.pairwise_cons.mp ascend).2
        (fun time member => inside time (List.mem_cons_of_mem _ member)) (within.step above _)

def addSegment (totals : List (TaskActivity × Int)) (segment : RuntimeSegment) :
    List (TaskActivity × Int) :=
  bump totals segment.activity (minus segment.stop segment.start)

theorem tally_activityTotals (segments : List RuntimeSegment) (tally : Tally) :
    (segments.foldl Tally.add tally).activityTotals =
      segments.foldl addSegment tally.activityTotals := by
  induction segments generalizing tally with
  | nil => rfl
  | cons segment rest ih => exact ih (tally.add segment)

theorem segmentLoop_totals (spans : List TimingSpan)
    (maskEvents : List (Int × TaskRuntimeKind × Int)) (covered : List (TaskRuntimeKind × Int))
    {events : List (Int × Nat × Int)} {start stop point : Int} {rest : List Int}
    {active : List (Nat × Int)} {totals : List (TaskActivity × Int)}
    (swept : Swept events point rest active)
    (ascend : (point :: rest).Pairwise (· < ·))
    (inside : ∀ time ∈ point :: rest, start ≤ time ∧ time ≤ stop)
    (within : Within start point totals) (short : stop - start ≤ 2 ^ 53) :
    (segmentLoop spans events maskEvents (point :: rest) active covered).foldl addSegment totals =
      accumulate (labelAt spans events) (point :: rest) totals := by
  induction rest generalizing point active covered totals with
  | nil => rfl
  | cons next rest ih =>
      have above := (List.pairwise_cons.mp ascend).1 next (List.mem_cons_self ..)
      have here := inside point (List.mem_cons_self ..)
      have there := inside next (by simp)
      have amounts := within (labelAt spans events point)
      simp only [segmentLoop, not_le.mpr above, if_false, List.foldl_cons, addSegment, bump,
        accumulate, swept.label]
      rw [minus_eq (abs_le.mpr ⟨by omega, by omega⟩),
        plus_exact amounts.1 (by omega) (by omega)]
      exact ih _ (swept.next ascend) (List.pairwise_cons.mp ascend).2
        (fun time member => inside time (List.mem_cons_of_mem _ member)) (within.step above _)

theorem labelAt_constant {spans : List TimingSpan} {events : List (Int × Nat × Int)}
    {point place : Int} (above : point < place)
    (quiet : ∀ event ∈ events, ¬(point < event.1 ∧ event.1 ≤ place)) :
    labelAt spans events place = labelAt spans events point := by
  have nets : ∀ key, netOf (fun time => decide (time ≤ place)) events key =
      netOf (fun time => decide (time ≤ point)) events key := by
    intro key
    apply netOf_congr
    intro event member
    have apart := quiet event member
    rw [decide_eq_decide]
    omega
  simp only [labelAt, openAt, nets]

theorem allSpanEvents_strip (start stop : Int) (spans : List TimingSpan) :
    allSpanEvents start stop (spans.map (·.strip)) = allSpanEvents start stop spans := by
  simp only [allSpanEvents, List.zipIdx_map, List.flatMap_map]
  rfl

theorem labelAt_strip (spans : List TimingSpan) (events : List (Int × Nat × Int)) (time : Int) :
    labelAt (spans.map (·.strip)) events time = labelAt spans events time := by
  have same : openAt (spans.map (·.strip)) events time =
      (openAt spans events time).map (·.strip) := by
    simp only [openAt, List.zipIdx_map, List.filter_map, List.map_map]
    rfl
  rw [labelAt, same, exclusiveActivity_strip, labelAt]

theorem totals_eq {start stop : Int} {spans : List TimingSpan} (masks : List RuntimeMask)
    (order : start < stop) (least : -(2 ^ 53) ≤ start) (short : stop - start ≤ 2 ^ 53)
    (fits : 2 * stop - start ≤ 2 ^ 53) :
    bucketLoop (spans.map (·.strip)) (allSpanEvents start stop (spans.map (·.strip)))
        (sortedPoints (start :: stop ::
          (allSpanEvents start stop (spans.map (·.strip))).map Prod.fst)) [] [] =
      (sweep start stop spans masks).foldl addSegment [] := by
  rw [allSpanEvents_strip]
  have insideSpans : ∀ point ∈ (allSpanEvents start stop spans).map Prod.fst,
      start ≤ point ∧ point ≤ stop := by
    intro point member
    obtain ⟨event, found, rfl⟩ := List.mem_map.mp member
    exact spanEvents_inside found
  have insideMasks : ∀ point ∈ (masks.flatMap (maskEvents start stop)).map Prod.fst,
      start ≤ point ∧ point ≤ stop := by
    intro point member
    obtain ⟨event, found, rfl⟩ := List.mem_map.mp member
    exact maskEvents_inside found
  have insideBoth : ∀ point ∈ (allSpanEvents start stop spans).map Prod.fst ++
      (masks.flatMap (maskEvents start stop)).map Prod.fst, start ≤ point ∧ point ≤ stop := by
    intro point member
    rcases List.mem_append.mp member with span | mask
    · exact insideSpans point span
    · exact insideMasks point mask
  obtain ⟨coarse, coarsePoints, coarseLast⟩ := sweepPoints_ends order.le insideSpans
  obtain ⟨fine, finePoints, fineLast⟩ := sweepPoints_ends order.le insideBoth
  have coarseAscend := sortedPoints_ascend
    (start :: stop :: (allSpanEvents start stop spans).map Prod.fst)
  have fineAscend := sortedPoints_ascend
    (start :: stop :: ((allSpanEvents start stop spans).map Prod.fst ++
      (masks.flatMap (maskEvents start stop)).map Prod.fst))
  have coarseListed : ∀ point, point ∈ start :: coarse ↔
      point ∈ start :: stop :: (allSpanEvents start stop spans).map Prod.fst := by
    intro point
    rw [← coarsePoints, mem_sortedPoints]
  have fineListed : ∀ point, point ∈ start :: fine ↔
      point ∈ start :: stop :: ((allSpanEvents start stop spans).map Prod.fst ++
        (masks.flatMap (maskEvents start stop)).map Prod.fst) := by
    intro point
    rw [← finePoints, mem_sortedPoints]
  rw [coarsePoints] at coarseAscend
  rw [finePoints] at fineAscend
  have window : ∀ point, point ∈ start :: fine → start ≤ point ∧ point ≤ stop := by
    intro point member
    have listed := (fineListed point).mp member
    rcases List.mem_cons.mp listed with rfl | later
    · omega
    · rcases List.mem_cons.mp later with rfl | event
      · omega
      · exact insideBoth point event
  have refined : ∀ point, point ∈ start :: coarse → point ∈ start :: fine := by
    intro point member
    rw [fineListed]
    have listed := (coarseListed point).mp member
    simp only [List.mem_cons, List.mem_append] at listed ⊢
    tauto
  have eventListed : ∀ event ∈ allSpanEvents start stop spans, event.1 ∈ start :: coarse := by
    intro event member
    rw [coarseListed]
    exact List.mem_cons_of_mem _ (List.mem_cons_of_mem _ (List.mem_map_of_mem member))
  have empty : Within start start [] := fun _ => ⟨le_rfl, by simp⟩
  have left := bucketLoop_eq (spans.map (·.strip)) (Swept.start eventListed coarseAscend)
    coarseAscend (fun time member => window time (refined time member)) empty least short fits
  have right := segmentLoop_totals spans (masks.flatMap (maskEvents start stop)) []
    (Swept.start (fun event member => refined _ (eventListed event member)) fineAscend)
    fineAscend window empty short
  have labels : labelAt (spans.map (·.strip)) (allSpanEvents start stop spans) =
      labelAt spans (allSpanEvents start stop spans) := by
    funext time
    exact labelAt_strip spans _ time
  simp only [sweep, finePoints, coarsePoints]
  rw [left, right, labels]
  refine accumulate_refine _ start stop coarse fine [] coarseAscend fineAscend ?_ coarseLast
    fineLast ?_
  · intro point member
    have above := (List.pairwise_cons.mp coarseAscend).1 point member
    rcases List.mem_cons.mp (refined point (List.mem_cons_of_mem _ member)) with here | later
    · omega
    · exact later
  · intro point listed place _ above apart
    refine labelAt_constant above ?_
    intro event member between
    rcases List.mem_cons.mp (eventListed event member) with here | later
    · have first : start ≤ point := (window point (refined point listed)).1
      omega
    · exact apart event.1 later between

/-- Without review spans the projection's activity breakdown is the one of `timingBuckets`. -/
theorem timingBuckets_eq_projection {input : RuntimeProjectionInput}
    (noReviews : ∀ span ∈ input.spans, span.scope ≠ some "ACCEPTANCE_REVIEW")
    (startDate : |input.start| ≤ 8640000000000000) (stopDate : |input.stop| ≤ 8640000000000000)
    (fits : 2 * input.stop - input.start ≤ 2 ^ 53) :
    timingBuckets input.start input.stop (input.spans.map (timedSpan none)) =
      (projectRuntimeTiming input).buckets := by
  obtain ⟨startLow, startHigh⟩ := abs_le.mp startDate
  obtain ⟨stopLow, stopHigh⟩ := abs_le.mp stopDate
  have everySpan : executionSpans input = input.spans := by
    rw [executionSpans, List.filter_eq_self]
    intro span member
    simpa using noReviews span member
  have stripped : input.spans.map (timedSpan none) = (timedSpans input).map (·.strip) := by
    rw [timedSpans, everySpan, List.map_map]
    rfl
  by_cases reversed : input.stop < input.start
  · simp only [timingBuckets, if_pos reversed, projectRuntimeTiming, elapsedOf,
      if_neg (not_le.mpr reversed)]
  have ordered : input.start ≤ input.stop := not_lt.mp reversed
  have short : input.stop - input.start ≤ 2 ^ 53 := by omega
  simp only [timingBuckets, if_neg reversed, projectRuntimeTiming, elapsedOf_eq ordered short]
  by_cases empty : input.stop = input.start
  · simp [empty]
  · rw [if_neg empty, if_neg (by omega), minus_eq (abs_le.mpr ⟨by omega, short⟩), stripped,
      totals_eq (runtimeMasks input) (by omega) (by omega) short fits, tally_activityTotals]
    simp only [projectedSegments, elapsedOf_eq ordered short]

def longHalf : RuntimeProjectionInput :=
  { widestWindow with
    start := 0
    spans :=
      [{ id := "a", lane := "t", label := "", activity := "MODEL", scope := none,
         startedAt := 0, finishedAt := some 8000000000000001 },
       { id := "b", lane := "t", label := "", activity := "MODEL", scope := none,
         startedAt := 8000000000000001, finishedAt := some 8640000000000000 }] }

theorem longHalf_differs :
    timingBuckets longHalf.start longHalf.stop (longHalf.spans.map (timedSpan none)) ≠
      (projectRuntimeTiming longHalf).buckets := by
  decide +kernel

theorem shortWindow_same :
    timingBuckets 0 10000 (shortWindow.spans.map (timedSpan none)) =
      (projectRuntimeTiming shortWindow).buckets :=
  @timingBuckets_eq_projection shortWindow (by decide) (by decide) (by decide) (by decide)

end Devproof
