import Devproof.Metrics.Timing

/-!
The segments of the sweep tile the window, whatever the spans and masks are.
-/

namespace Devproof

theorem mem_sortedPoints {points : List Int} {point : Int} :
    point ∈ sortedPoints points ↔ point ∈ points := by
  rw [sortedPoints, mem_sortAscending, mem_uniq]

theorem sortedPoints_ascend (points : List Int) : (sortedPoints points).Pairwise (· < ·) := by
  have ordered : (sortedPoints points).Pairwise fun left right => id left ≤ id right :=
    List.pairwise_insertionSort _ _
  have distinct : (sortedPoints points).Nodup :=
    (List.perm_insertionSort _ _).nodup_iff.mpr (nodup_uniq _)
  refine (ordered.and distinct).imp ?_
  rintro left right ⟨below, other⟩
  simp only [id] at below
  omega

theorem ascending_ends {points : List Int} {start stop : Int} (ascend : points.Pairwise (· < ·))
    (hasStart : start ∈ points) (hasStop : stop ∈ points)
    (inside : ∀ point ∈ points, start ≤ point ∧ point ≤ stop) :
    ∃ rest, points = start :: rest ∧ (start :: rest).getLast? = some stop := by
  cases points with
  | nil => simp at hasStart
  | cons first rest =>
      have parts := List.pairwise_cons.mp ascend
      have head : first = start := by
        rcases List.mem_cons.mp hasStart with here | later
        · exact here.symm
        · have above := parts.1 start later
          have least := (inside first (List.mem_cons_self ..)).1
          omega
      subst head
      refine ⟨rest, rfl, ?_⟩
      obtain ⟨last, final⟩ : ∃ last, (first :: rest).getLast? = some last :=
        ⟨_, List.getLast?_eq_some_getLast (List.cons_ne_nil first rest)⟩
      have member := List.mem_of_getLast? final
      obtain ⟨before, split⟩ := List.getLast?_eq_some_iff.mp final
      have most := (inside last member).2
      rw [split] at hasStop ascend
      rcases List.mem_append.mp hasStop with early | same
      · have below := (List.pairwise_append.mp ascend).2.2 stop early last (List.mem_singleton_self _)
        omega
      · rw [final, List.mem_singleton.mp same]

def Tiles (start stop : Int) : List RuntimeSegment → Prop
  | [] => start = stop
  | segment :: rest =>
      segment.start = start ∧ segment.start < segment.stop ∧ Tiles segment.stop stop rest

theorem segmentLoop_tiles (spans : List TimingSpan) (events : List (Int × Nat × Int))
    (maskEvents : List (Int × TaskRuntimeKind × Int)) (point stop : Int) (rest : List Int)
    (active : List (Nat × Int)) (covered : List (TaskRuntimeKind × Int))
    (ascend : (point :: rest).Pairwise (· < ·)) (last : (point :: rest).getLast? = some stop) :
    Tiles point stop (segmentLoop spans events maskEvents (point :: rest) active covered) := by
  induction rest generalizing point active covered with
  | nil => simpa [segmentLoop, Tiles] using last
  | cons next rest ih =>
      have parts := List.pairwise_cons.mp ascend
      have above : point < next := parts.1 next (List.mem_cons_self ..)
      rw [List.getLast?_cons_cons] at last
      simp only [segmentLoop, not_le.mpr above, if_false, Tiles, true_and]
      exact ⟨above, ih next _ _ parts.2 last⟩

theorem mergeFrom_tiles {start stop : Int} {last : RuntimeSegment} {segments : List RuntimeSegment}
    (tiles : Tiles start stop (last :: segments)) :
    Tiles start stop (mergeFrom last segments) := by
  induction segments generalizing start last with
  | nil => exact tiles
  | cons segment rest ih =>
      obtain ⟨opened, grows, touches, grows', later⟩ := tiles
      simp only [mergeFrom]
      split
      · refine ih ⟨opened, ?_, later⟩
        simp only
        omega
      · exact ⟨opened, grows, ih ⟨touches, grows', later⟩⟩

theorem mergeSegments_tiles {start stop : Int} {segments : List RuntimeSegment}
    (tiles : Tiles start stop segments) : Tiles start stop (mergeSegments segments) := by
  cases segments with
  | nil => exact tiles
  | cons segment rest => exact mergeFrom_tiles tiles

/-- Events lie inside the window. -/
theorem spanEvents_inside {start stop : Int} {spans : List TimingSpan} {event : Int × Nat × Int}
    (member : event ∈ allSpanEvents start stop spans) : start ≤ event.1 ∧ event.1 ≤ stop := by
  obtain ⟨entry, -, listed⟩ := List.mem_flatMap.mp member
  simp only [spanEvents] at listed
  split at listed
  · simp at listed
  · split at listed
    · simp at listed
    · rename_i longer
      simp only [List.mem_cons, List.not_mem_nil, or_false] at listed
      rcases listed with rfl | rfl
      · dsimp only
        omega
      · dsimp only
        omega

theorem maskEvents_inside {start stop : Int} {masks : List RuntimeMask}
    {event : Int × TaskRuntimeKind × Int} (member : event ∈ masks.flatMap (maskEvents start stop)) :
    start ≤ event.1 ∧ event.1 ≤ stop := by
  obtain ⟨mask, -, listed⟩ := List.mem_flatMap.mp member
  simp only [maskEvents] at listed
  split at listed
  · simp at listed
  · rename_i longer
    simp only [List.mem_cons, List.not_mem_nil, or_false] at listed
    rcases listed with rfl | rfl
    · dsimp only
      omega
    · dsimp only
      omega

theorem sweepPoints_ends {start stop : Int} {points : List Int} (order : start ≤ stop)
    (inside : ∀ point ∈ points, start ≤ point ∧ point ≤ stop) :
    ∃ rest, sortedPoints (start :: stop :: points) = start :: rest ∧
      (start :: rest).getLast? = some stop := by
  refine ascending_ends (sortedPoints_ascend _) (mem_sortedPoints.mpr (List.mem_cons_self ..))
    (mem_sortedPoints.mpr (List.mem_cons_of_mem _ (List.mem_cons_self ..))) ?_
  intro point member
  rcases List.mem_cons.mp (mem_sortedPoints.mp member) with rfl | later
  · omega
  · rcases List.mem_cons.mp later with rfl | listed
    · omega
    · exact inside point listed

theorem sweep_tiles {start stop : Int} (order : start ≤ stop) (spans : List TimingSpan)
    (masks : List RuntimeMask) : Tiles start stop (sweep start stop spans masks) := by
  have inside : ∀ point ∈ (allSpanEvents start stop spans).map Prod.fst ++
      (masks.flatMap (maskEvents start stop)).map Prod.fst, start ≤ point ∧ point ≤ stop := by
    intro point member
    rcases List.mem_append.mp member with listed | listed
    · obtain ⟨event, found, rfl⟩ := List.mem_map.mp listed
      exact spanEvents_inside found
    · obtain ⟨event, found, rfl⟩ := List.mem_map.mp listed
      exact maskEvents_inside found
  obtain ⟨rest, points, last⟩ := sweepPoints_ends order inside
  have ascend := sortedPoints_ascend (start :: stop :: ((allSpanEvents start stop spans).map Prod.fst ++
      (masks.flatMap (maskEvents start stop)).map Prod.fst))
  simp only [sweep, points] at ascend ⊢
  exact segmentLoop_tiles _ _ _ start stop rest _ _ ascend last

theorem projectedSegments_tiles {input : RuntimeProjectionInput} (order : input.start ≤ input.stop) :
    Tiles input.start input.stop (projectedSegments input) := by
  simp only [projectedSegments, elapsedOf, if_pos order]
  exact sweep_tiles order _ _

end Devproof
