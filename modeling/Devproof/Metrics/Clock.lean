import Devproof.Metrics.Segments

/-!
Every total of the projection is a part of the same wall clock: what the
accumulators hold is what the segments with their label add up to.
-/

namespace Devproof

def spent (chosen : RuntimeSegment → Bool) : List RuntimeSegment → Int
  | [] => 0
  | segment :: rest => (if chosen segment then segment.stop - segment.start else 0) + spent chosen rest

def Grows (segments : List RuntimeSegment) : Prop :=
  ∀ segment ∈ segments, segment.start < segment.stop

def everySegment (_ : RuntimeSegment) : Bool := true

theorem Tiles.grows {start stop : Int} {segments : List RuntimeSegment}
    (tiles : Tiles start stop segments) : Grows segments := by
  induction segments generalizing start with
  | nil => intro segment member; simp at member
  | cons first rest ih =>
      obtain ⟨-, grows, later⟩ := tiles
      intro segment member
      rcases List.mem_cons.mp member with rfl | after
      · exact grows
      · exact ih later segment after

theorem Tiles.spent {start stop : Int} {segments : List RuntimeSegment}
    (tiles : Tiles start stop segments) : spent everySegment segments = stop - start := by
  induction segments generalizing start with
  | nil =>
      have same : start = stop := tiles
      simp [Devproof.spent, same]
  | cons first rest ih =>
      obtain ⟨opened, -, later⟩ := tiles
      simp only [Devproof.spent, everySegment, if_true]
      have rest := ih later
      omega

theorem spent_append (chosen : RuntimeSegment → Bool) (first second : List RuntimeSegment) :
    spent chosen (first ++ second) = spent chosen first + spent chosen second := by
  induction first with
  | nil => simp [spent]
  | cons segment rest ih =>
      simp only [List.cons_append, spent, ih]
      omega

theorem spent_snoc (chosen : RuntimeSegment → Bool) (segments : List RuntimeSegment)
    (segment : RuntimeSegment) :
    spent chosen (segments ++ [segment]) =
      spent chosen segments + if chosen segment then segment.stop - segment.start else 0 := by
  simp [spent_append, spent]

theorem Grows.left {first second : List RuntimeSegment} (grows : Grows (first ++ second)) :
    Grows first :=
  fun segment member => grows segment (List.mem_append_left _ member)

theorem spent_nonneg (chosen : RuntimeSegment → Bool) {segments : List RuntimeSegment}
    (grows : Grows segments) : 0 ≤ spent chosen segments := by
  induction segments with
  | nil => exact le_rfl
  | cons segment rest ih =>
      have later := ih fun other member => grows other (List.mem_cons_of_mem _ member)
      have here := grows segment (List.mem_cons_self ..)
      simp only [spent]
      split <;> omega

theorem spent_le {chosen other : RuntimeSegment → Bool} {segments : List RuntimeSegment}
    (grows : Grows segments) (within : ∀ segment, chosen segment = true → other segment = true) :
    spent chosen segments ≤ spent other segments := by
  induction segments with
  | nil => exact le_rfl
  | cons segment rest ih =>
      have later := ih fun other member => grows other (List.mem_cons_of_mem _ member)
      have here := grows segment (List.mem_cons_self ..)
      simp only [spent]
      cases picked : chosen segment with
      | false =>
          simp only [Bool.false_eq_true, if_false]
          split <;> omega
      | true =>
          simp only [within segment picked, if_true]
          omega

def tagged (chosen : RuntimeSegment → Bool) (tag : RuntimeTag) (segment : RuntimeSegment) : Bool :=
  chosen segment && segment.runtime == tag

/-- The four tags share out every choice. -/
theorem spent_tags (chosen : RuntimeSegment → Bool) (segments : List RuntimeSegment) :
    spent chosen segments =
      spent (tagged chosen .specAnalysis) segments + spent (tagged chosen .browser) segments +
        spent (tagged chosen .unassigned) segments + spent (tagged chosen .overlap) segments := by
  induction segments with
  | nil => rfl
  | cons segment rest ih =>
      obtain ⟨start, stop, activity, runtime⟩ := segment
      simp only [spent, tagged, ih]
      by_cases picked : chosen ⟨start, stop, activity, runtime⟩ = true
      · cases runtime <;> simp [picked] <;> omega
      · simp [picked]

def isActive (activity : TaskActivity) : Bool := activeActivities.contains activity

def isWaiting (activity : TaskActivity) : Bool := waits.contains activity

def isUnknown (activity : TaskActivity) : Bool := activity == .unknown

/-- An activity is work, a wait or unknown. -/
theorem spent_kinds (chosen : RuntimeSegment → Bool) (segments : List RuntimeSegment) :
    spent chosen segments =
      spent (fun segment => chosen segment && isActive segment.activity) segments +
        spent (fun segment => chosen segment && isWaiting segment.activity) segments +
        spent (fun segment => chosen segment && isUnknown segment.activity) segments := by
  induction segments with
  | nil => rfl
  | cons segment rest ih =>
      simp only [spent, ih]
      by_cases picked : chosen segment = true
      case neg => simp [picked]
      case pos =>
          have kinds : (isActive segment.activity = true ∧ isWaiting segment.activity = false ∧
                isUnknown segment.activity = false) ∨
              (isActive segment.activity = false ∧ isWaiting segment.activity = true ∧
                isUnknown segment.activity = false) ∨
              isActive segment.activity = false ∧ isWaiting segment.activity = false ∧
                isUnknown segment.activity = true := by
            cases segment.activity <;> decide
          rcases kinds with ⟨active, waiting, unknown⟩ | ⟨active, waiting, unknown⟩ |
            ⟨active, waiting, unknown⟩ <;>
            simp [picked, active, waiting, unknown] <;> omega

structure Adds (totals : List (TaskActivity × Int)) (chosen : RuntimeSegment → Bool)
    (segments : List RuntimeSegment) : Prop where
  amounts : ∀ activity, amount totals activity =
    spent (fun segment => chosen segment && segment.activity == activity) segments
  kinds : ∀ kind : TaskActivity → Bool, totalOf kind totals =
    spent (fun segment => chosen segment && kind segment.activity) segments
  positive : ∀ entry ∈ totals, 0 < entry.2

theorem Adds.nil (chosen : RuntimeSegment → Bool) : Adds [] chosen [] where
  amounts _ := rfl
  kinds _ := rfl
  positive := by simp

theorem Adds.skip {totals : List (TaskActivity × Int)} {chosen : RuntimeSegment → Bool}
    {segments : List RuntimeSegment} {segment : RuntimeSegment} (adds : Adds totals chosen segments)
    (other : chosen segment = false) : Adds totals chosen (segments ++ [segment]) where
  amounts activity := by simp [spent_snoc, other, adds.amounts]
  kinds kind := by simp [spent_snoc, other, adds.kinds]
  positive := adds.positive

theorem Adds.bump {totals : List (TaskActivity × Int)} {chosen : RuntimeSegment → Bool}
    {segments : List RuntimeSegment} {segment : RuntimeSegment} (adds : Adds totals chosen segments)
    (picked : chosen segment = true) (grows : Grows (segments ++ [segment]))
    (fits : spent everySegment (segments ++ [segment]) ≤ 2 ^ 53) :
    Adds (bump totals segment.activity (segment.stop - segment.start)) chosen
      (segments ++ [segment]) := by
  have here : segment.start < segment.stop := grows segment (by simp)
  have most : amount totals segment.activity ≤ spent everySegment segments := by
    rw [adds.amounts]
    exact spent_le grows.left fun _ _ => rfl
  have least : 0 ≤ amount totals segment.activity := by
    rw [adds.amounts]
    exact spent_nonneg _ grows.left
  rw [spent_snoc] at fits
  simp only [everySegment, if_true] at fits most
  have exact : plus (amount totals segment.activity) (segment.stop - segment.start) =
      amount totals segment.activity + (segment.stop - segment.start) :=
    plus_exact least (by omega) (by omega)
  refine ⟨?_, ?_, ?_⟩
  · intro activity
    rw [Devproof.bump, amount_setEntry, exact, spent_snoc]
    by_cases same : activity = segment.activity
    · subst same
      simp [picked, adds.amounts]
    · simp [same, Ne.symm same, adds.amounts]
  · intro kind
    rw [Devproof.bump, totalOf_setEntry, exact, spent_snoc, adds.kinds]
    simp [picked]
  · intro entry member
    rcases mem_setEntry member with rfl | earlier
    · simp only [exact]
      omega
    · exact adds.positive entry earlier

structure Exact (tally : Tally) (segments : List RuntimeSegment) : Prop where
  totals : Adds tally.activityTotals everySegment segments
  occupied : ∀ tag, tally.occupied tag = spent (tagged everySegment tag) segments
  activities : ∀ tag, Adds (tally.activities tag) (tagged everySegment tag) segments
  active : ∀ tag, (tally.partition tag).activeMs =
    spent (fun segment => tagged everySegment tag segment && isActive segment.activity) segments
  waiting : ∀ tag, (tally.partition tag).waitingMs =
    spent (fun segment => tagged everySegment tag segment && isWaiting segment.activity) segments
  unknown : ∀ tag, (tally.partition tag).unknownMs =
    spent (fun segment => tagged everySegment tag segment && isUnknown segment.activity) segments

theorem Exact.nil : Exact {} [] where
  totals := Adds.nil _
  occupied _ := rfl
  activities _ := Adds.nil _
  active _ := rfl
  waiting _ := rfl
  unknown _ := rfl

theorem plus_spent {chosen : RuntimeSegment → Bool} {segments : List RuntimeSegment}
    {segment : RuntimeSegment} (grows : Grows (segments ++ [segment]))
    (fits : spent everySegment (segments ++ [segment]) ≤ 2 ^ 53) :
    plus (spent chosen segments) (segment.stop - segment.start) =
      spent chosen segments + (segment.stop - segment.start) := by
  have here : segment.start < segment.stop := grows segment (by simp)
  have most : spent chosen segments ≤ spent everySegment segments :=
    spent_le grows.left fun _ _ => rfl
  rw [spent_snoc] at fits
  simp only [everySegment, if_true] at fits most
  exact plus_exact (spent_nonneg _ grows.left) (by omega) (by omega)

theorem Partition.add_activeMs (part : Partition) (activity : TaskActivity) (dt : Int) :
    (part.add activity dt).activeMs =
      if isActive activity then plus part.activeMs dt else part.activeMs := by
  cases activity <;> rfl

theorem Partition.add_waitingMs (part : Partition) (activity : TaskActivity) (dt : Int) :
    (part.add activity dt).waitingMs =
      if isWaiting activity then plus part.waitingMs dt else part.waitingMs := by
  cases activity <;> rfl

theorem Partition.add_unknownMs (part : Partition) (activity : TaskActivity) (dt : Int) :
    (part.add activity dt).unknownMs =
      if isUnknown activity then plus part.unknownMs dt else part.unknownMs := by
  cases activity <;> rfl

theorem partition_add {partition : RuntimeTag → Partition} {segments : List RuntimeSegment}
    {segment : RuntimeSegment} (field : Partition → Int) (kind : TaskActivity → Bool)
    (before : ∀ tag, field (partition tag) =
      spent (fun segment => tagged everySegment tag segment && kind segment.activity) segments)
    (change : ∀ part dt, field (part.add segment.activity dt) =
      if kind segment.activity then plus (field part) dt else field part)
    (grows : Grows (segments ++ [segment]))
    (fits : spent everySegment (segments ++ [segment]) ≤ 2 ^ 53) (tag : RuntimeTag) :
    field (if tag = segment.runtime then
        (partition tag).add segment.activity (segment.stop - segment.start)
      else partition tag) =
      spent (fun segment => tagged everySegment tag segment && kind segment.activity)
        (segments ++ [segment]) := by
  rw [spent_snoc]
  by_cases same : tag = segment.runtime
  · rw [if_pos same, change, before]
    by_cases counted : kind segment.activity = true
    · simp [counted, same, tagged, everySegment, plus_spent grows fits]
    · simp [counted]
  · simp [same, tagged, everySegment, Ne.symm same, before]

theorem Exact.add {tally : Tally} {segments : List RuntimeSegment} {segment : RuntimeSegment}
    (exact : Exact tally segments) (grows : Grows (segments ++ [segment]))
    (fits : spent everySegment (segments ++ [segment]) ≤ 2 ^ 53) :
    Exact (tally.add segment) (segments ++ [segment]) := by
  have here : segment.start < segment.stop := grows segment (by simp)
  have whole : minus segment.stop segment.start = segment.stop - segment.start := by
    have before := spent_nonneg everySegment grows.left
    rw [spent_snoc] at fits
    simp only [everySegment, if_true] at fits before
    exact minus_eq (abs_le.mpr ⟨by omega, by omega⟩)
  simp only [Tally.add, whole]
  refine ⟨exact.totals.bump rfl grows fits, ?_, ?_, ?_, ?_, ?_⟩
  · intro tag
    simp only [exact.occupied, spent_snoc]
    by_cases same : tag = segment.runtime
    · simp [same, tagged, everySegment, plus_spent grows fits]
    · simp [same, tagged, everySegment, Ne.symm same]
  · intro tag
    by_cases same : tag = segment.runtime
    · simp only [same, if_true]
      exact (exact.activities _).bump (by simp [tagged, everySegment]) grows fits
    · simp only [same, if_false]
      exact (exact.activities tag).skip (by simp [tagged, everySegment, Ne.symm same])
  · exact partition_add (Partition.activeMs) isActive exact.active
      (fun part dt => Partition.add_activeMs part segment.activity dt) grows fits
  · exact partition_add (Partition.waitingMs) isWaiting exact.waiting
      (fun part dt => Partition.add_waitingMs part segment.activity dt) grows fits
  · exact partition_add (Partition.unknownMs) isUnknown exact.unknown
      (fun part dt => Partition.add_unknownMs part segment.activity dt) grows fits

theorem tally_exact {segments : List RuntimeSegment} (grows : Grows segments)
    (fits : spent everySegment segments ≤ 2 ^ 53) :
    Exact (segments.foldl Tally.add {}) segments := by
  suffices run : ∀ rest before tally, Exact tally before → segments = before ++ rest →
      Exact (rest.foldl Tally.add tally) segments from run segments [] {} Exact.nil rfl
  intro rest
  induction rest with
  | nil =>
      rintro before tally exact rfl
      simpa using exact
  | cons segment rest ih =>
      rintro before tally exact rfl
      have shape : before ++ segment :: rest = (before ++ [segment]) ++ rest := by simp
      have grows' : Grows (before ++ [segment]) := by
        rw [shape] at grows
        exact grows.left
      have fits' : spent everySegment (before ++ [segment]) ≤ 2 ^ 53 := by
        rw [shape, spent_append] at fits
        have later : 0 ≤ spent everySegment rest := spent_nonneg everySegment
          fun other member => grows other (by simp [member])
        omega
      exact ih _ _ (exact.add grows' fits') shape

end Devproof
