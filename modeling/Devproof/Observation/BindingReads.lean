import Devproof.Observation.BindingPages
import Devproof.Observation.ReviewOnce
import Mathlib.Algebra.BigOperators.Group.List.Basic

/-!
When the pages of `read` together hold every binding and every review once.
-/

namespace Devproof.BindingPages

open ObservationBindings

structure Platform.ReadsBack (platform : Platform) : Prop where
  decoded : ∀ value, platform.decodeToken (platform.encodeToken value) = some value
  nonempty : ∀ value, platform.encodeToken value ≠ ""

structure Stored.Keyed (platform : Platform) (stored : Stored) : Prop where
  bindings : (stored.bindings.map BindingRow.id).Nodup
  events : (stored.events.map fun row => row.event.id).Nodup
  bindingIds : ∀ row ∈ stored.bindings, platform.isUuid row.id = true ∧ row.id ≠ ""
  eventIds : ∀ row ∈ stored.events, platform.isUuid row.event.id = true ∧ row.event.id ≠ ""

section Reads

variable (platform : Platform) (task : ObservationBindings.AgentRuntimeTask) (stored : Stored)

def BindingFits (row : BindingRow) : Prop :=
  platform.byteLength [row.binding] ≤ 20 * 1024

def ReviewFits (review : ComparisonReview) : Prop :=
  platform.reviewsLength [review] ≤ 24 * 1024

variable {platform task stored}

theorem storedBindings_mem {row : BindingRow} (member : row ∈ storedBindings task stored) :
    row ∈ stored.bindings := by
  rw [storedBindings, List.mem_insertionSort] at member
  exact List.mem_of_mem_filter member

theorem storedBindings_sorted (keyed : stored.Keyed platform) :
    (storedBindings task stored).Pairwise fun first second => first.id < second.id :=
  strictly_sorted (keyed.bindings.sublist (List.filter_sublist.map _))

theorem reviewOf_id {row : EventRow} {review : ComparisonReview}
    (found : reviewOf task row = some review) : review.id = row.event.id := by
  unfold reviewOf at found
  split at found
  · obtain ⟨saved, -, rfl⟩ := Option.map_eq_some_iff.mp found
    rfl
  · cases found

theorem reviews_ids (events : List EventRow) :
    ((events.filterMap (reviewOf task)).map (·.id)).Sublist
      (events.map fun row => row.event.id) := by
  induction events with
  | nil => exact List.Sublist.refl _
  | cons row rest ih =>
      cases found : reviewOf task row with
      | none =>
          rw [List.filterMap_cons_none found]
          exact ih.cons _
      | some review =>
          rw [List.filterMap_cons_some found, List.map_cons, List.map_cons, reviewOf_id found]
          exact ih.cons_cons _

theorem storedReviews_sorted (keyed : stored.Keyed platform) :
    (storedReviews task stored).Pairwise fun first second => first.id < second.id :=
  strictly_sorted (keyed.events.sublist (reviews_ids stored.events))

theorem storedReviews_uuid (keyed : stored.Keyed platform) {review : ComparisonReview}
    (member : review ∈ storedReviews task stored) :
    platform.isUuid review.id = true ∧ review.id ≠ "" := by
  rw [storedReviews, List.mem_insertionSort, List.mem_filterMap] at member
  obtain ⟨row, inside, found⟩ := member
  rw [reviewOf_id found]
  exact keyed.eventIds row inside

theorem withinBudget_eq (bindings : List SavedBinding) (rows : List BindingRow) :
    withinBudget platform.toPlatform bindings rows =
      fitting (fun bindings => decide (20 * 1024 < platform.byteLength bindings)) bindings
        (rows.map BindingRow.binding) := by
  induction rows generalizing bindings with
  | nil => simp [withinBudget, fitting]
  | cons row rest ih =>
      rw [withinBudget, List.map_cons, fitting, ih]
      simp only [decide_eq_true_eq]

theorem position_token (back : platform.ReadsBack) {kind : String} {start : ReadKind}
    {after : Option String} (known : kindOf kind = some start)
    (valid : ∀ id, after = some id → platform.isUuid id = true ∧ id ≠ "") :
    position platform task { continuationToken := some (token platform task kind after) } =
      .ok (start, after) := by
  have given : nonempty (some (token platform task kind after)) =
      some (token platform task kind after) := by
    simp [nonempty, token, back.nonempty]
  have kept : nonempty after = after := by
    cases after with
    | none => rfl
    | some id => simp [nonempty, (valid id rfl).2]
  have passed : (after.any fun id => !platform.isUuid id) = false := by
    cases after with
    | none => rfl
    | some id => simp [(valid id rfl).1]
  rw [position, given]
  simp [token, back.decoded, known, kept, passed]

theorem position_none : position platform task {} = .ok (.binding, none) := rfl

theorem reviewPage_spec (keyed : stored.Keyed platform) {front back : List ComparisonReview}
    (split : storedReviews task stored = front ++ back) :
    ∃ count ≤ back.length,
      (∀ first rest, back = first :: rest → ReviewFits platform first → 0 < count) ∧
      (reviewPage platform task stored (front.getLast?.map (·.id))).bindings = [] ∧
      (reviewPage platform task stored (front.getLast?.map (·.id))).reviews = back.take count ∧
      (reviewPage platform task stored (front.getLast?.map (·.id))).continuationToken =
        if 0 < count ∧ count < back.length then
          some (token platform task "REVIEW" ((front ++ back.take count).getLast?.map (·.id)))
        else none := by
  have sorted := @storedReviews_sorted platform task stored keyed
  rw [split] at sorted
  obtain ⟨count, bound, taken, first⟩ := @fitting_take ComparisonReview
    (fun reviews => decide (24 * 1024 < platform.reviewsLength reviews)) [] (back.take 10)
  rw [List.length_take] at bound
  have small : count ≤ 10 := bound.trans (min_le_left _ _)
  rw [List.nil_append, List.take_take, min_eq_left small] at taken
  refine ⟨count, bound.trans (min_le_right _ _), ?_, rfl, ?_, ?_⟩
  · rintro review rest rfl alone
    refine (first review (rest.take 9) rfl).mpr ?_
    simpa [ReviewFits] using alone
  · simp only [reviewPage, split, itemsAfter_last sorted, List.take_take]
    exact taken
  · simp only [reviewPage, split, itemsAfter_last sorted, List.take_take]
    rw [show min 10 11 = 10 from rfl, taken]
    by_cases more : 0 < count ∧ count < back.length
    · have shape : (back.take count).length = count := by
        rw [List.length_take]
        omega
      have some_taken : back.take count ≠ [] := by
        intro empty
        rw [empty, List.length_nil] at shape
        omega
      have longer : (back.take 11).length > (back.take count).length := by
        rw [shape, List.length_take]
        omega
      rw [if_pos more, if_pos ⟨longer, some_taken⟩, List.getLast?_append_of_ne_nil _ some_taken]
    · rw [if_neg more, if_neg]
      rintro ⟨longer, some_taken⟩
      rw [List.length_take, List.length_take] at longer
      refine more ⟨Nat.pos_of_ne_zero ?_, by omega⟩
      rintro rfl
      exact some_taken rfl

theorem bindingPage_spec (keyed : stored.Keyed platform) {front back : List BindingRow}
    (split : storedBindings task stored = front ++ back) :
    (∃ row ∈ back, ¬ BindingFits platform row ∧
        bindingPage platform task stored none (front.getLast?.map BindingRow.id) =
          .error "BINDING_READ_BUDGET_EXCEEDED") ∨
      ∃ page count, bindingPage platform task stored none (front.getLast?.map BindingRow.id) =
          .ok page ∧ count ≤ back.length ∧ (back ≠ [] → 0 < count) ∧
        page.bindings = (back.take count).map BindingRow.binding ∧ page.reviews = [] ∧
        page.continuationToken = some (if count < back.length then
          token platform task "BINDING" ((front ++ back.take count).getLast?.map BindingRow.id)
        else token platform task "REVIEW" none) := by
  have sorted := @storedBindings_sorted platform task stored keyed
  rw [split] at sorted
  obtain ⟨count, bound, taken, first⟩ := @fitting_take SavedBinding
    (fun bindings => decide (20 * 1024 < platform.byteLength bindings)) []
    ((back.take 20).map BindingRow.binding)
  rw [List.length_map, List.length_take] at bound
  have small : count ≤ 20 := bound.trans (min_le_left _ _)
  rw [List.nil_append, ← withinBudget_eq, ← List.map_take, List.take_take,
    min_eq_left small] at taken
  have rows : pageRows task stored none (front.getLast?.map BindingRow.id) = back.take 21 := by
    rw [pageRows, split, itemsAfter_last sorted]
  simp only [bindingPage, rows, List.take_take, show min 20 21 = 20 from rfl, taken]
  cases back with
  | nil => exact Or.inr ⟨_, 0, rfl, le_refl 0, by simp, by simp, rfl, by simp⟩
  | cons row rest =>
      by_cases alone : BindingFits platform row
      · have pos : 0 < count := by
          refine (first row.binding ((rest.take 19).map BindingRow.binding) rfl).mpr ?_
          simpa [BindingFits] using alone
        obtain ⟨before, rfl⟩ := Nat.exists_eq_add_one.mpr pos
        refine Or.inr
          ⟨_, before + 1, rfl, bound.trans (min_le_right _ _), fun _ => pos, rfl, rfl, ?_⟩
        have some_taken : (row :: rest).take (before + 1) ≠ [] := by simp
        have last : (((row :: rest).take (before + 1)).map BindingRow.binding).getLast?.map (·.id) =
            ((front ++ (row :: rest).take (before + 1)).getLast?).map BindingRow.id := by
          rw [List.getLast?_append_of_ne_nil _ some_taken, List.getLast?_map, Option.map_map]
          rfl
        by_cases more : before + 1 < (row :: rest).length
        · have longer : ((row :: rest).take 21).length >
              (((row :: rest).take (before + 1)).map BindingRow.binding).length := by
            rw [List.length_map, List.length_take, List.length_take]
            omega
          simp only [if_pos more, last, Option.isSome_none, Bool.false_eq_true, if_false]
          rw [if_pos ⟨longer, by simp⟩]
        · have short : ¬ (((row :: rest).take 21).length >
              (((row :: rest).take (before + 1)).map BindingRow.binding).length) := by
            rw [List.length_map, List.length_take, List.length_take]
            omega
          simp only [if_neg more, Option.isSome_none, Bool.false_eq_true, if_false]
          rw [if_neg fun both => short both.1]
      · have zero : count = 0 := by
          by_contra some_count
          have fits := (first row.binding ((rest.take 19).map BindingRow.binding) rfl).mp
            (Nat.pos_of_ne_zero some_count)
          exact alone (by simpa [BindingFits] using fits)
        subst zero
        exact Or.inl ⟨row, List.mem_cons_self, alone, rfl⟩

theorem follow_last {start : Option String} {page : Page}
    (made : read platform task stored { continuationToken := start } = .ok page)
    (ends : page.continuationToken = none) (fuel : Nat) :
    follow platform task stored (fuel + 1) start = some (.ok (page.bindings, page.reviews)) := by
  simp only [follow, made, ends]

theorem follow_next {start : Option String} {page : Page} {next : String} {fuel : Nat}
    {result : Collected}
    (made : read platform task stored { continuationToken := start } = .ok page)
    (more : page.continuationToken = some next)
    (followed : follow platform task stored fuel (some next) = some result) :
    follow platform task stored (fuel + 1) start =
      some (result.map fun later => (page.bindings ++ later.1, page.reviews ++ later.2)) := by
  simp only [follow, made, more, followed, Option.map_some]

theorem follow_reviews (readsBack : platform.ReadsBack) (keyed : stored.Keyed platform)
    {front back : List ComparisonReview} (split : storedReviews task stored = front ++ back)
    {start : Option String}
    (placed : position platform task { continuationToken := start } =
      .ok (.review, front.getLast?.map (·.id))) :
    ∃ fuel result, follow platform task stored fuel start = some result ∧
      ((∀ review ∈ back, ReviewFits platform review) → result = .ok ([], back)) := by
  induction length : back.length using Nat.strong_induction_on generalizing front back start with
  | _ length ih =>
    have made : read platform task stored { continuationToken := start } =
        .ok (reviewPage platform task stored (front.getLast?.map (·.id))) := by
      rw [read, placed]
      rfl
    obtain ⟨count, bound, progress, bindings, reviews, next⟩ := reviewPage_spec keyed split
    by_cases more : 0 < count ∧ count < back.length
    · have rest : storedReviews task stored = (front ++ back.take count) ++ back.drop count := by
        rw [List.append_assoc, List.take_append_drop, split]
      have onward := @position_token platform task readsBack "REVIEW" .review
        ((front ++ back.take count).getLast?.map (·.id)) rfl (by
          intro id last
          obtain ⟨review, found, rfl⟩ := Option.map_eq_some_iff.mp last
          refine @storedReviews_uuid platform task stored keyed _ ?_
          rw [rest]
          exact List.mem_append_left _ (List.mem_of_getLast? found))
      obtain ⟨fuel, result, followed, complete⟩ := ih (back.drop count).length
        (by rw [List.length_drop]; omega) rest onward rfl
      rw [if_pos more] at next
      refine ⟨fuel + 1, _, follow_next made next followed, ?_⟩
      · intro fits
        rw [complete fun review member => fits review (List.mem_of_mem_drop member)]
        simp only [Except.map, bindings, reviews, List.append_nil, List.take_append_drop]
    · rw [if_neg more] at next
      refine ⟨1, _, follow_last made next 0, fun fits => ?_⟩
      · rw [bindings, reviews]
        cases back with
        | nil => rw [List.take_nil]
        | cons review rest =>
            have pos := progress review rest rfl (fits review List.mem_cons_self)
            have whole : count = (review :: rest).length := by
              rw [not_and, not_lt] at more
              exact le_antisymm bound (more pos)
            rw [whole, List.take_length]

theorem follow_bindings (readsBack : platform.ReadsBack) (keyed : stored.Keyed platform)
    {front back : List BindingRow} (split : storedBindings task stored = front ++ back)
    {start : Option String}
    (placed : position platform task { continuationToken := start } =
      .ok (.binding, front.getLast?.map BindingRow.id)) :
    ∃ fuel result, follow platform task stored fuel start = some result ∧
      ((∀ row ∈ back, BindingFits platform row) →
        (∀ review ∈ storedReviews task stored, ReviewFits platform review) →
          result = .ok (back.map BindingRow.binding, storedReviews task stored)) := by
  induction length : back.length using Nat.strong_induction_on generalizing front back start with
  | _ length ih =>
    have shape : read platform task stored { continuationToken := start } =
        bindingPage platform task stored none (front.getLast?.map BindingRow.id) := by
      rw [read, placed]
      rfl
    rcases @bindingPage_spec platform task stored keyed _ _ split with
      ⟨row, member, large, failed⟩ | ⟨page, count, made, bound, progress, bindings, reviews, next⟩
    · refine ⟨1, .error "BINDING_READ_BUDGET_EXCEEDED", ?_, fun fits => ?_⟩
      · simp only [follow, shape, failed]
      · exact absurd (fits row member) large
    · by_cases more : count < back.length
      · have pos : 0 < count := progress (by rintro rfl; simp at more)
        have rest : storedBindings task stored =
            (front ++ back.take count) ++ back.drop count := by
          rw [List.append_assoc, List.take_append_drop, split]
        have onward := @position_token platform task readsBack "BINDING" .binding
          ((front ++ back.take count).getLast?.map BindingRow.id) rfl (by
            intro id last
            obtain ⟨row, found, rfl⟩ := Option.map_eq_some_iff.mp last
            refine keyed.bindingIds row (@storedBindings_mem task stored row ?_)
            rw [rest]
            exact List.mem_append_left _ (List.mem_of_getLast? found))
        obtain ⟨fuel, result, followed, complete⟩ := ih (back.drop count).length
          (by rw [List.length_drop]; omega) rest onward rfl
        rw [if_pos more] at next
        refine ⟨fuel + 1, _, follow_next (shape.trans made) next followed, ?_⟩
        · intro fits fitting
          rw [complete (fun row member => fits row (List.mem_of_mem_drop member)) fitting]
          simp only [Except.map, bindings, reviews, List.nil_append, ← List.map_append,
            List.take_append_drop]
      · have onward := @position_token platform task readsBack "REVIEW" .review none rfl
          (by simp)
        obtain ⟨fuel, result, followed, complete⟩ := @follow_reviews platform task stored
          readsBack keyed [] (storedReviews task stored) rfl _ onward
        rw [if_neg more] at next
        refine ⟨fuel + 1, _, follow_next (shape.trans made) next followed, ?_⟩
        · intro _ fitting
          have whole : back.take count = back := List.take_of_length_le (not_lt.mp more)
          rw [complete fitting]
          simp only [Except.map, bindings, reviews, whole, List.nil_append, List.append_nil]

def sought (task : ObservationBindings.AgentRuntimeTask) (stored : Stored) (ids : List String) :
    List BindingRow :=
  (storedBindings task stored).filter fun row => ids.any fun id => uuid id == row.id

def Available (task : ObservationBindings.AgentRuntimeTask) (stored : Stored)
    (ids : List String) : Prop :=
  ∀ id ∈ ids, uuid id = id ∧ ∃ row ∈ storedBindings task stored, row.id = id

theorem sought_mem {ids : List String} (available : Available task stored ids) {row : BindingRow} :
    row ∈ sought task stored ids ↔ row ∈ storedBindings task stored ∧ row.id ∈ ids := by
  simp only [sought, List.mem_filter, List.any_eq_true, beq_iff_eq]
  constructor
  · rintro ⟨inside, id, member, same⟩
    rw [(available id member).1] at same
    exact ⟨inside, same ▸ member⟩
  · rintro ⟨inside, member⟩
    exact ⟨inside, row.id, member, (available row.id member).1⟩

theorem sought_sorted (keyed : stored.Keyed platform) (ids : List String) :
    (sought task stored ids).Pairwise fun first second => first.id < second.id :=
  (storedBindings_sorted keyed).sublist List.filter_sublist

theorem sought_distinct (keyed : stored.Keyed platform) (ids : List String) :
    ((sought task stored ids).map BindingRow.id).Nodup :=
  List.pairwise_map.mpr ((sought_sorted keyed ids).imp fun less => ne_of_lt less)

/-- Each of the ids is found once. -/
theorem sought_perm (keyed : stored.Keyed platform) {ids : List String}
    (available : Available task stored ids) :
    ((sought task stored ids).map BindingRow.id).Perm (uniq ids) := by
  refine (List.perm_ext_iff_of_nodup (sought_distinct keyed ids) (nodup_uniq ids)).mpr fun id => ?_
  rw [mem_uniq, List.mem_map]
  constructor
  · rintro ⟨row, member, rfl⟩
    exact ((sought_mem available).mp member).2
  · intro member
    obtain ⟨row, inside, same⟩ := (available id member).2
    exact ⟨row, (sought_mem available).mpr ⟨inside, same ▸ member⟩, same⟩

theorem read_ids_spec (keyed : stored.Keyed platform) {ids : List String}
    (available : Available task stored ids) (few : ids.length ≤ 20)
    (fits : ∀ row ∈ sought task stored ids, BindingFits platform row) :
    ∃ page count, read platform task stored { bindingIds := some ids } = .ok page ∧
      count ≤ (sought task stored ids).length ∧ (sought task stored ids ≠ [] → 0 < count) ∧
      page.bindings = ((sought task stored ids).take count).map BindingRow.binding ∧
      page.omittedBindingIds = ids.filter fun id =>
        !(((sought task stored ids).take count).map BindingRow.id).contains id := by
  have counted := (sought_perm keyed available).length_eq
  rw [List.length_map] at counted
  have limit : (sought task stored ids).length ≤ 20 := by
    have least := (List.subperm_of_subset (nodup_uniq ids) fun id member =>
      mem_uniq.mp member).length_le
    omega
  obtain ⟨count, bound, taken, first⟩ := @fitting_take SavedBinding
    (fun bindings => decide (20 * 1024 < platform.byteLength bindings)) []
    ((sought task stored ids).map BindingRow.binding)
  rw [List.length_map] at bound
  rw [List.nil_append, ← withinBudget_eq, ← List.map_take] at taken
  have progress : sought task stored ids ≠ [] → 0 < count := by
    intro some_row
    obtain ⟨row, rest, shape⟩ := List.exists_cons_of_ne_nil some_row
    refine (first row.binding (rest.map BindingRow.binding) (by rw [shape]; rfl)).mpr ?_
    have alone := fits row (by rw [shape]; exact List.mem_cons_self)
    simpa [BindingFits] using alone
  have rows : pageRows task stored (some ids) none = sought task stored ids :=
    List.take_of_length_le (by change (sought task stored ids).length ≤ 21; omega)
  have filled : (!(sought task stored ids).isEmpty &&
      (((sought task stored ids).take count).map BindingRow.binding).isEmpty) = false := by
    cases shape : sought task stored ids with
    | nil => rfl
    | cons row rest =>
        obtain ⟨before, rfl⟩ := Nat.exists_eq_add_one.mpr
          (progress (by rw [shape]; exact List.cons_ne_nil row rest))
        rfl
  have whole : (sought task stored ids).take 20 = sought task stored ids :=
    List.take_of_length_le limit
  have made : read platform task stored { bindingIds := some ids } =
      bindingPage platform task stored (some ids) none := rfl
  rw [made]
  simp only [bindingPage, rows, whole, taken, Option.any_some, counted, bne_self_eq_false, filled]
  refine ⟨_, count, rfl, bound.trans counted.le, progress, rfl, ?_⟩
  refine List.filter_congr fun id _ => congrArg Bool.not ?_
  rw [List.any_map, List.contains_eq_any_beq, List.any_map]
  congr 1
  funext row
  change (row.id == id) = (id == row.id)
  rw [Bool.eq_iff_iff, beq_iff_eq, beq_iff_eq]
  exact eq_comm

theorem omitted_sought (keyed : stored.Keyed platform) {ids : List String}
    (available : Available task stored ids) (count : Nat) :
    sought task stored (ids.filter fun id =>
      !(((sought task stored ids).take count).map BindingRow.id).contains id) =
      (sought task stored ids).drop count := by
  have remaining : Available task stored (ids.filter fun id =>
      !(((sought task stored ids).take count).map BindingRow.id).contains id) :=
    fun id member => available id (List.mem_of_mem_filter member)
  have distinct := @sought_distinct platform task stored keyed ids
  rw [← List.take_append_drop count (sought task stored ids), List.map_append,
    List.nodup_append] at distinct
  have order : (sought task stored (ids.filter fun id =>
      !(((sought task stored ids).take count).map BindingRow.id).contains id)).Pairwise
        fun first second => first.id < second.id := sought_sorted keyed _
  have dropped : ((sought task stored ids).drop count).Pairwise
      fun first second => first.id < second.id :=
    (sought_sorted keyed ids).sublist (List.drop_sublist _ _)
  refine List.Perm.eq_of_pairwise
    (fun first second _ _ less more => absurd more (lt_asymm less)) order dropped ?_
  refine (List.perm_ext_iff_of_nodup (order.imp fun less same => ?_)
    (dropped.imp fun less same => ?_)).mpr fun row => ?_
  · exact absurd less (by rw [same]; exact lt_irrefl _)
  · exact absurd less (by rw [same]; exact lt_irrefl _)
  · rw [sought_mem remaining]
    simp only [List.mem_filter, Bool.not_eq_true', List.contains_eq_mem, decide_eq_false_iff_not]
    constructor
    · rintro ⟨inside, member, apart⟩
      have present := (sought_mem available).mpr ⟨inside, member⟩
      rw [← List.take_append_drop count (sought task stored ids)] at present
      exact (List.mem_append.mp present).resolve_left fun taken =>
        apart (List.mem_map_of_mem taken)
    · intro later
      obtain ⟨inside, member⟩ := (sought_mem available).mp (List.mem_of_mem_drop later)
      refine ⟨inside, member, fun taken => ?_⟩
      exact distinct.2.2 row.id taken row.id (List.mem_map_of_mem later) rfl

theorem readAll_sought (keyed : stored.Keyed platform) {ids : List String}
    (available : Available task stored ids) (few : ids.length ≤ 20)
    (fits : ∀ row ∈ sought task stored ids, BindingFits platform row) :
    ∃ fuel, readAll platform task stored fuel ids =
      some (.ok ((sought task stored ids).map BindingRow.binding)) := by
  induction length : (sought task stored ids).length using Nat.strong_induction_on
    generalizing ids with
  | _ length ih =>
    obtain ⟨page, count, made, bound, progress, bindings, omitted⟩ :=
      read_ids_spec keyed available few fits
    by_cases finished : page.omittedBindingIds = []
    · refine ⟨1, ?_⟩
      have nothing := omitted_sought keyed available count
      rw [← omitted, finished] at nothing
      have whole : (sought task stored ids).take count = sought task stored ids := by
        have empty : (sought task stored ids).drop count = [] := by
          rw [← nothing]
          exact List.filter_eq_nil_iff.mpr (by simp)
        exact List.take_of_length_le (List.drop_eq_nil_iff.mp empty)
      simp only [readAll, made, finished, if_true, bindings, whole]
    · have rest := omitted_sought keyed available count
      rw [← omitted] at rest
      have remaining : Available task stored page.omittedBindingIds := by
        rw [omitted]
        exact fun id member => available id (List.mem_of_mem_filter member)
      have fewer : page.omittedBindingIds.length ≤ 20 := by
        rw [omitted]
        exact (List.length_filter_le _ _).trans few
      have some_row : sought task stored ids ≠ [] := by
        intro empty
        obtain ⟨id, member⟩ := List.exists_mem_of_ne_nil _ finished
        obtain ⟨row, inside, same⟩ := (remaining id member).2
        have found : row ∈ sought task stored ids := by
          rw [sought_mem available]
          rw [omitted] at member
          exact ⟨inside, same ▸ List.mem_of_mem_filter member⟩
        rw [empty] at found
        cases found
      have pos := progress some_row
      obtain ⟨fuel, collected⟩ := ih (sought task stored page.omittedBindingIds).length
        (by rw [rest, List.length_drop]; omega) remaining fewer
        (fun row member => fits row (List.mem_of_mem_drop (rest ▸ member))) rfl
      refine ⟨fuel + 1, ?_⟩
      simp only [readAll, made, finished, if_false, collected, Option.map_some, Except.map,
        bindings,
        rest, ← List.map_append, List.take_append_drop]

/-- Pages hold everything once where each row fits into a page; ids are each read once. -/
theorem pages_complete (readsBack : platform.ReadsBack) (keyed : stored.Keyed platform) :
    (∃ fuel result, follow platform task stored fuel none = some result ∧
      ((∀ row ∈ storedBindings task stored, BindingFits platform row) →
        (∀ review ∈ storedReviews task stored, ReviewFits platform review) →
          ∃ bindings reviews, result = .ok (bindings, reviews) ∧
            bindings.Perm (((stored.bindings.filter fun row =>
              ofAttempt task row.runId row.attemptId &&
                isCurrent task row.createdAt)).map BindingRow.binding) ∧
            reviews.Perm (stored.events.filterMap (reviewOf task)))) ∧
    ∀ ids, Available task stored ids → ids.length ≤ 20 →
      (∀ row ∈ storedBindings task stored, row.id ∈ ids → BindingFits platform row) →
        ∃ fuel bindings, readAll platform task stored fuel ids = some (.ok bindings) ∧
          (bindings.map (·.id)).Perm (uniq ids) ∧
          ∀ binding ∈ bindings, ∃ row ∈ stored.bindings, row.binding = binding := by
  constructor
  · obtain ⟨fuel, result, followed, complete⟩ := @follow_bindings platform task stored
      readsBack keyed [] (storedBindings task stored) rfl none position_none
    refine ⟨fuel, result, followed, fun fits fitting => ?_⟩
    exact ⟨_, _, complete fits fitting, (List.perm_insertionSort _ _).map _,
      List.perm_insertionSort _ _⟩
  · intro ids available few fits
    obtain ⟨fuel, collected⟩ := readAll_sought keyed available few fun row member =>
      fits row ((sought_mem available).mp member).1 ((sought_mem available).mp member).2
    refine ⟨fuel, _, collected, ?_, ?_⟩
    · rw [List.map_map]
      exact sought_perm keyed available
    · intro binding member
      obtain ⟨row, inside, same⟩ := List.mem_map.mp member
      exact ⟨row, storedBindings_mem ((sought_mem available).mp inside).1, same⟩

end Reads

/-! Tokens of one attempt, with a code for all others. -/

/-- Each letter behind a dot, so that another mark ends the text. -/
def dotted : List Char → List Char
  | [] => []
  | letter :: rest => '.' :: letter :: dotted rest

def undotted : List Char → List Char × List Char
  | '.' :: letter :: rest => ((undotted rest).1.cons letter, (undotted rest).2)
  | rest => ([], rest)

theorem undotted_dotted (letters : List Char) {rest : List Char} (ends : rest.head? ≠ some '.') :
    undotted (dotted letters ++ rest) = (letters, rest) := by
  induction letters with
  | nil =>
      cases rest with
      | nil => rfl
      | cons mark more =>
          have other : mark ≠ '.' := fun same => ends (by rw [same]; rfl)
          rw [dotted, List.nil_append, undotted]
          intro letter tail same
          exact other (List.cons.inj same).1
  | cons letter letters ih => simp [dotted, undotted, ih]

theorem undotted_bar (letters rest : List Char) :
    undotted (dotted letters ++ '|' :: rest) = (letters, '|' :: rest) :=
  undotted_dotted letters (by simp)

theorem undotted_dash (letters : List Char) :
    undotted (dotted letters ++ ['-']) = (letters, ['-']) :=
  undotted_dotted letters (by decide)

def plainToken (value : TokenValue) : String :=
  String.ofList (dotted value.attemptId.toList ++ '|' :: (dotted value.kind.toList ++
    match value.after with
    | none => ['-']
    | some after => '|' :: dotted after.toList))

def plainValue (text : String) : Option TokenValue :=
  let first := undotted text.toList
  let second := undotted first.2.tail
  let value := TokenValue.mk (String.ofList first.1) (String.ofList second.1)
  if second.2.head? = some '-' then some (value none)
  else some (value (some (String.ofList (undotted second.2.tail).1)))

theorem plainValue_token (value : TokenValue) : plainValue (plainToken value) = some value := by
  obtain ⟨attemptId, kind, after⟩ := value
  cases after with
  | none => simp [plainValue, plainToken, undotted_bar, undotted_dash]
  | some after =>
      have last := undotted_dotted after.toList (show ([] : List Char).head? ≠ some '.' by simp)
      rw [List.append_nil] at last
      simp [plainValue, plainToken, undotted_bar, last]

def reviewValue : TokenValue where
  attemptId := reviewer.attemptId
  kind := "REVIEW"
  after := none

def reviewText : String :=
  "eyJhdHRlbXB0SWQiOiI1YzIwZDdlOS0xOGFiLTRmMzYtYjFjNC05ZTgzZjVhNmQwNzIiLCJraW5kIjoiUkVWSUVXIn0"

def pagePlatform : Platform where
  toPlatform := { reviewPlatform with
    byteLength bindings := 2 + (bindings.map fun binding =>
      900 + ((binding.evidenceRefs.flatMap String.toList).map Char.utf8Size).sum).sum }
  reviewsLength reviews := 2 + 700 * reviews.length
  encodeToken value := if value = reviewValue then reviewText else plainToken value
  decodeToken text := if text = reviewText then some reviewValue else plainValue text
  isUuid text := text.length == 36

theorem reviewText_other (value : TokenValue) : plainToken value ≠ reviewText := by
  intro same
  have first : reviewText.toList.head? = some 'e' := by decide
  obtain ⟨attemptId, kind, after⟩ := value
  rw [← same, plainToken, String.toList_ofList] at first
  dsimp only at first
  generalize attemptId.toList = letters at first
  cases letters with
  | nil => exact absurd (Option.some.inj first) (by decide)
  | cons letter rest => exact absurd (Option.some.inj first) (by decide)

theorem pagePlatform_readsBack : pagePlatform.ReadsBack where
  decoded value := by
    by_cases here : value = reviewValue
    · simp [pagePlatform, here]
    · simp [pagePlatform, here, reviewText_other, plainValue_token]
  nonempty value := by
    by_cases here : value = reviewValue
    · simp [pagePlatform, here, reviewText]
    · rw [show pagePlatform.encodeToken value = plainToken value from if_neg here]
      intro empty
      have letters := congrArg String.toList empty
      rw [plainToken, String.toList_ofList] at letters
      simp at letters

def smallRow : BindingRow :=
  savedToolbar currentId "current" currentCapture "current-shot" .current

def rowWith (evidenceRefs : List String) : BindingRow :=
  { smallRow with facts := { smallRow.facts with evidenceRefs } }

def largeRefs : List String :=
  List.replicate 20 (String.ofList (List.replicate 500 '中'))

def storing (row : BindingRow) : Stored where
  bindings := [row]
  events := []
  evidence := []

theorem storing_keyed {row : BindingRow} (id : row.id = currentId) :
    (storing row).Keyed pagePlatform where
  bindings := List.nodup_singleton _
  events := List.nodup_nil
  bindingIds other member := by
    rw [List.mem_singleton.mp member, id]
    decide
  eventIds other member := absurd member List.not_mem_nil

theorem replicate_bytes (count size : Nat) (letter : Char) :
    (((List.replicate count (String.ofList (List.replicate size letter))).flatMap
      String.toList).map Char.utf8Size).sum = count * (size * letter.utf8Size) := by
  rw [List.flatMap_replicate, List.map_flatten, List.sum_flatten, List.map_replicate,
    List.map_replicate, String.toList_ofList, List.map_replicate, List.sum_replicate,
    List.sum_replicate, Nat.nsmul_eq_mul, Nat.nsmul_eq_mul]

theorem rowWith_fits (refs : List String) (id : String) :
    BindingFits pagePlatform { rowWith refs with id } ↔
      2 + (900 + ((refs.flatMap String.toList).map Char.utf8Size).sum) ≤ 20 * 1024 := by
  simp [BindingFits, pagePlatform, rowWith, BindingRow.binding]

theorem largeRow_exceeds : ¬ BindingFits pagePlatform (rowWith largeRefs) := by
  have size : '中'.utf8Size = 3 := by decide
  rw [show rowWith largeRefs = { rowWith largeRefs with id := currentId } from rfl, rowWith_fits,
    largeRefs, replicate_bytes, size]
  decide

theorem rowWith_unread {refs : List String} (large : ¬ BindingFits pagePlatform (rowWith refs))
    (fuel : Nat) : follow pagePlatform reviewer (storing (rowWith refs)) (fuel + 1) none =
      some (.error "BINDING_READ_BUDGET_EXCEEDED") := by
  rw [BindingFits, not_le] at large
  have rows : pageRows reviewer (storing (rowWith refs)) none none = [rowWith refs] := rfl
  have taken : withinBudget pagePlatform.toPlatform [] [rowWith refs] = [] := by
    rw [withinBudget, List.nil_append, if_pos large]
  have failed : bindingPage pagePlatform reviewer (storing (rowWith refs)) none none =
      .error "BINDING_READ_BUDGET_EXCEEDED" := by
    simp only [bindingPage, rows, show [rowWith refs].take 20 = [rowWith refs] from rfl, taken]
    rfl
  have shape : read pagePlatform reviewer (storing (rowWith refs)) {} =
      bindingPage pagePlatform reviewer (storing (rowWith refs)) none none := rfl
  simp only [follow, shape, failed]

/-- A binding that is too large for a page is never read. -/
theorem largeRow_unread :
    (storing (rowWith largeRefs)).Keyed pagePlatform ∧
      ∀ fuel, follow pagePlatform reviewer (storing (rowWith largeRefs)) (fuel + 1) none =
        some (.error "BINDING_READ_BUDGET_EXCEEDED") :=
  ⟨storing_keyed rfl, rowWith_unread largeRow_exceeds⟩

/-! Two bindings of this width and ten reviews make a page. -/

def numberedId (place : Nat) : String :=
  String.ofList ("a6b1f3d8-2e47-4c95-9a0b-d7c8e5f412".toList ++
    [Nat.digitChar (place / 10), Nat.digitChar (place % 10)])

def wideRefs : List String :=
  List.replicate 6 (String.ofList (List.replicate 500 '中'))

def wideRow (place : Nat) : BindingRow :=
  { rowWith wideRefs with id := numberedId place }

def reviewRow (place : Nat) : EventRow where
  event :=
    { id := numberedId place
      teamId := reviewer.snapshot.teamId
      runId := reviewer.runId
      attemptId := reviewer.attemptId
      taskId := reviewer.id
      actor := .agentRuntime
      body := .visualReviewed
        { comparing deliveryId .equivalent with
          id := "review", criterionId := "toolbar", contractDigest := "digest" } }
  createdAt := 0

def wideStored : Stored where
  bindings := (List.range 24).map wideRow
  events := (List.range 12).map reviewRow
  evidence := []

theorem numberedIds : ((List.range 24).map numberedId).Nodup ∧
    ∀ place < 24, (pagePlatform.isUuid (numberedId place) = true ∧ numberedId place ≠ "") ∧
      uuid (numberedId place) = numberedId place := by
  decide +kernel

theorem wideStored_keyed : wideStored.Keyed pagePlatform where
  bindings := by
    rw [wideStored, List.map_map]
    exact numberedIds.1
  events := by
    rw [wideStored, List.map_map]
    exact numberedIds.1.sublist (((List.range_sublist).mpr (by decide)).map numberedId)
  bindingIds row member := by
    obtain ⟨place, below, rfl⟩ := List.mem_map.mp member
    exact (numberedIds.2 place (List.mem_range.mp below)).1
  eventIds row member := by
    obtain ⟨place, below, rfl⟩ := List.mem_map.mp member
    exact (numberedIds.2 place ((List.mem_range.mp below).trans (by decide))).1

theorem wideRow_fits (place : Nat) : BindingFits pagePlatform (wideRow place) := by
  have size : '中'.utf8Size = 3 := by decide
  rw [wideRow, rowWith_fits, wideRefs, replicate_bytes, size]
  decide

theorem wideRow_ours (place : Nat) : (ofAttempt reviewer (wideRow place).runId
    (wideRow place).attemptId && isCurrent reviewer (wideRow place).createdAt) = true := by
  change (ofAttempt reviewer reviewer.runId reviewer.attemptId && isCurrent reviewer 0) = true
  decide

theorem wideRow_stored {place : Nat} (below : place < 24) :
    wideRow place ∈ storedBindings reviewer wideStored :=
  (List.mem_insertionSort _).mpr (List.mem_filter.mpr
    ⟨List.mem_map_of_mem (List.mem_range.mpr below), wideRow_ours place⟩)

/-- Bindings and reviews of several pages are read, and three bindings by id in two pages. -/
theorem pages_complete_wide :
    (∃ fuel bindings reviews, follow pagePlatform reviewer wideStored fuel none =
      some (.ok (bindings, reviews)) ∧ bindings.length = 24 ∧ reviews.length = 12) ∧
    ∃ fuel bindings, readAll pagePlatform reviewer wideStored fuel ([7, 3, 5].map numberedId) =
      some (.ok bindings) ∧ (bindings.map (·.id)).Perm (uniq ([7, 3, 5].map numberedId)) := by
  have complete := @pages_complete pagePlatform reviewer wideStored pagePlatform_readsBack
    wideStored_keyed
  have fits : ∀ row ∈ storedBindings reviewer wideStored, BindingFits pagePlatform row := by
    intro row member
    obtain ⟨place, -, rfl⟩ := List.mem_map.mp (storedBindings_mem member)
    exact wideRow_fits place
  constructor
  · obtain ⟨fuel, result, followed, whole⟩ := complete.1
    obtain ⟨bindings, reviews, rfl, rows, reviewed⟩ := whole fits fun _ _ => by
      change 2 + 700 * 1 ≤ 24 * 1024
      decide
    refine ⟨fuel, bindings, reviews, followed, rows.length_eq.trans ?_,
      reviewed.length_eq.trans (by decide +kernel)⟩
    rw [List.length_map, List.filter_eq_self.mpr]
    · rfl
    · intro row member
      obtain ⟨place, -, rfl⟩ := List.mem_map.mp member
      exact wideRow_ours place
  · obtain ⟨fuel, bindings, collected, once, -⟩ := complete.2 ([7, 3, 5].map numberedId) (by
      intro id member
      obtain ⟨place, listed, rfl⟩ := List.mem_map.mp member
      have below : place < 24 := by
        simp only [List.mem_cons, List.not_mem_nil, or_false] at listed
        omega
      exact ⟨(numberedIds.2 place below).2, wideRow place, wideRow_stored below, rfl⟩)
      (by decide) fun row member _ => fits row member
    exact ⟨fuel, bindings, collected, once⟩

end Devproof.BindingPages
