import Devproof.Observation.BindingService

/-!
What stays true while calls of the binding service overlap: a delivery is
recorded once, and a review is of the images that its delivery showed.
-/

namespace Devproof

namespace ObservationBindings

inductive Change where
  /-- A capture saves a binding. -/
  | bind (row : BindingRow)
  /-- Another part of the server saves an event of its own kind. -/
  | record (id teamId runId attemptId taskId : String) (actor : EventActor)
  /-- Time passes, leases change, evidence and objects come and go. -/
  | surroundings (now : Int) (tasks : List LeaseRow) (evidence : List RunEvidence)
      (objects : List (String × StoredObject))

def changed : Change → Tables → Tables
  | .bind row, tables =>
      if tables.bindings.any fun other => other.id == uuid row.id then tables
      else { tables with bindings := tables.bindings ++ [{ row with id := uuid row.id }] }
  | .record id teamId runId attemptId taskId actor, tables =>
      createNew { id := uuid id, teamId, runId, attemptId, taskId, actor, body := .other } tables
  | .surroundings now tasks evidence objects, tables =>
      { tables with now, tasks, evidence, objects }

def serve (platform : Platform) : Call → Request
  | .images task bindingIds deliveryId => images platform task bindingIds deliveryId
  | .deliver task input => deliver platform task input
  | .compare task input => compare platform task input

def noRows : Tables :=
  { now := 0, tasks := [], bindings := [], evidence := [], objects := [], events := [] }

structure Later (earlier tables : Tables) : Prop where
  events : earlier.events <+: tables.events
  bindings : earlier.bindings <+: tables.bindings

theorem Later.refl (tables : Tables) : Later tables tables :=
  ⟨List.prefix_refl _, List.prefix_refl _⟩

theorem Later.trans {first second third : Tables} (here : Later first second)
    (there : Later second third) : Later first third :=
  ⟨here.events.trans there.events, here.bindings.trans there.bindings⟩

theorem Later.event {earlier tables : Tables} (later : Later earlier tables) {event : RunEvent}
    (member : event ∈ earlier.events) : event ∈ tables.events :=
  later.events.subset member

theorem Later.found {earlier tables : Tables} {α : Type} {view : RunEvent → Option α} {value : α}
    (later : Later earlier tables) (found : earlier.events.findSome? view = some value) :
    tables.events.findSome? view = some value := by
  obtain ⟨added, whole⟩ := later.events
  rw [← whole, List.findSome?_append, found]
  rfl

section Reads

variable {task : AgentRuntimeTask} {tables : Tables} {event : RunEvent}

theorem preparedBy_some {deliveryId : String} {payload : ImagesPrepared}
    (found : preparedBy task deliveryId event = some payload) :
    event.body = .imagesPrepared payload ∧ event.id = uuid deliveryId ∧
      ofTask task event = true := by
  unfold preparedBy at found
  split at found
  · rename_i prepared body
    split at found
    · rename_i ours
      cases found
      simp only [Bool.and_eq_true, beq_iff_eq] at ours
      exact ⟨body, ours.1.1, ours.1.2⟩
    · cases found
  · cases found

theorem imagesPrepared_some {deliveryId : String} {payload : ImagesPrepared}
    (found : imagesPrepared task deliveryId tables = some payload) :
    ∃ event ∈ tables.events, event.body = .imagesPrepared payload ∧
      event.id = uuid deliveryId ∧ ofTask task event = true := by
  obtain ⟨event, member, here⟩ := List.exists_of_findSome?_eq_some found
  exact ⟨event, member, preparedBy_some here⟩

theorem deliveredBy_some {payload : ModelDelivery} (found : deliveredBy task event = some payload) :
    event.body = .modelDelivered payload ∧ ofTask task event = true := by
  unfold deliveredBy at found
  split at found
  · rename_i delivered body
    split at found
    · cases found
      exact ⟨body, ‹_›⟩
    · cases found
  · cases found

theorem reviewBy_some_iff {review : ComparisonReview} :
    reviewBy task event = some review ↔
      event.body = .visualReviewed review ∧ ofAttempt task event.runId event.attemptId = true := by
  unfold reviewBy
  split
  · rename_i reviewed body
    rw [body, EventBody.visualReviewed.injEq]
    split
    · rename_i ours
      simp [ours]
    · rename_i other
      simp [other]
  · rename_i other
    simp only [reduceCtorEq, false_iff, not_and]
    intro body
    exact absurd body (other review)

theorem savedDelivery_some {requestId : String} {payload : ModelDelivery}
    (found : savedDelivery task requestId tables = some payload) :
    ∃ event ∈ tables.events, event.body = .modelDelivered payload ∧
      ofTask task event = true := by
  obtain ⟨event, member, here⟩ := List.exists_of_findSome?_eq_some found
  split at here
  · exact ⟨event, member, deliveredBy_some here⟩
  · cases here

theorem savedReview_some {reviewId : String} {review : ComparisonReview}
    (found : savedReview task reviewId tables = some review) :
    ∃ event ∈ tables.events, event.body = .visualReviewed review ∧
      ofAttempt task event.runId event.attemptId = true := by
  obtain ⟨event, member, here⟩ := List.exists_of_findSome?_eq_some found
  split at here
  · exact ⟨event, member, reviewBy_some_iff.mp here⟩
  · cases here

theorem reviewOfDelivery_some {deliveryId : String} {review : ComparisonReview}
    (found : reviewOfDelivery task deliveryId tables = some review) :
    ∃ event ∈ tables.events, ∃ payload, event.body = .visualReviewed payload ∧
      ofAttempt task event.runId event.attemptId = true ∧ payload.deliveryId = deliveryId ∧
      review = { payload with id := event.id } := by
  obtain ⟨event, member, here⟩ := List.exists_of_findSome?_eq_some found
  obtain ⟨payload, kept, same⟩ := Option.map_eq_some_iff.mp here
  obtain ⟨mine, delivery⟩ := Option.filter_eq_some_iff.mp kept
  obtain ⟨body, ours⟩ := reviewBy_some_iff.mp mine
  exact ⟨event, member, payload, body, ours, by simpa using delivery, same.symm⟩

theorem reviewOfDelivery_none {deliveryId : String}
    (none : reviewOfDelivery task deliveryId tables = none) {payload : ComparisonReview}
    (member : event ∈ tables.events) (body : event.body = .visualReviewed payload)
    (ours : ofAttempt task event.runId event.attemptId = true) :
    payload.deliveryId ≠ deliveryId := by
  rintro rfl
  have nothing := List.findSome?_eq_none_iff.mp none event member
  rw [reviewBy_some_iff.mpr ⟨body, ours⟩] at nothing
  simp at nothing

theorem ofTask_iff : ofTask task event = true ↔
    event.runId = task.runId ∧ event.attemptId = task.attemptId ∧ event.taskId = task.id := by
  simp [ofTask, ofAttempt, and_assoc]

@[simp] theorem ofTask_eventOf (id : String) (actor : EventActor) (body : EventBody) :
    ofTask task (eventOf task id actor body) = true := by
  simp [ofTask_iff, eventOf]

end Reads

section Checks

variable {platform : Platform} {task : AgentRuntimeTask} {asked : Requested}
  {input : ComparisonInput} {tables earlier : Tables}

structure Checked (platform : Platform) (task : AgentRuntimeTask) (asked : Requested)
    (input : ComparisonInput) (tables : Tables) : Prop where
  found : requested task input.comparisonId = .ok asked
  delivered : checkDelivered task input (imagesPrepared task input.deliveryId tables)
    (imagesDelivered task input.deliveryId tables) = .ok ()
  bindings : checkBindings platform asked input (bindingRows task (idsOf input) tables) = .ok ()
  superseded : ∀ reviewId, input.supersedesReviewId = some reviewId →
    checkSuperseded platform asked input (savedReview task reviewId tables) = .ok ()

theorem checkDelivered_ok {prepared : Option ImagesPrepared} {delivered : Bool}
    (passed : checkDelivered task input prepared delivered = .ok ()) :
    delivered = true ∧ ∃ payload, prepared = some payload ∧ payload.fencingToken = fence task ∧
      ∀ id ∈ idsOf input, id ∈ payload.bindingIds := by
  unfold checkDelivered at passed
  rw [throwIf_ok] at passed
  cases prepared with
  | none => simp at passed
  | some payload =>
      simp only [Option.all_some, Bool.or_eq_false_iff, Bool.not_eq_false', bne_eq_false_iff_eq,
        List.any_eq_false, Bool.not_eq_true', List.contains_eq_mem, decide_eq_false_iff_not,
        not_not] at passed
      exact ⟨passed.1, payload, rfl, passed.2.1, passed.2.2⟩

theorem imagesDelivered_later {deliveryId : String} (later : Later earlier tables)
    (delivered : imagesDelivered task deliveryId earlier = true) :
    imagesDelivered task deliveryId tables = true := by
  unfold imagesDelivered at delivered ⊢
  rw [List.any_eq_true] at delivered ⊢
  obtain ⟨event, member, here⟩ := delivered
  exact ⟨event, later.event member, here⟩

theorem checkDelivered_later {now : Tables} (later : Later earlier now) (onward : Later now tables)
    (passed : checkDelivered task input (imagesPrepared task input.deliveryId earlier)
      (imagesDelivered task input.deliveryId now) = .ok ()) :
    checkDelivered task input (imagesPrepared task input.deliveryId tables)
      (imagesDelivered task input.deliveryId tables) = .ok () := by
  obtain ⟨delivered, payload, prepared, -⟩ := checkDelivered_ok passed
  have stays : imagesPrepared task input.deliveryId tables = some payload :=
    (later.trans onward).found prepared
  rw [delivered, prepared] at passed
  rw [imagesDelivered_later onward delivered, stays]
  exact passed

theorem checkSuperseded_later {reviewId : String} (later : Later earlier tables)
    (passed : checkSuperseded platform asked input (savedReview task reviewId earlier) = .ok ()) :
    checkSuperseded platform asked input (savedReview task reviewId tables) = .ok () := by
  cases previous : savedReview task reviewId earlier with
  | none =>
      rw [previous] at passed
      simp [checkSuperseded, throwIf] at passed
  | some review =>
      have stays : savedReview task reviewId tables = some review := later.found previous
      rw [stays, ← previous]
      exact passed

theorem mem_ownBindings {ids : List String} {row : BindingRow} :
    row ∈ ownBindings task ids tables ↔ row ∈ tables.bindings ∧
      ofAttempt task row.runId row.attemptId = true ∧ ∃ id ∈ ids, uuid id = row.id := by
  simp [ownBindings]

theorem ownBindings_length (distinct : (tables.bindings.map BindingRow.id).Nodup)
    (ids : List String) : (ownBindings task ids tables).length ≤ (uniq ids).length := by
  have apart : ((ownBindings task ids tables).map BindingRow.id).Nodup :=
    distinct.sublist (List.filter_sublist.map _)
  have within : (ownBindings task ids tables).map BindingRow.id ⊆ (uniq ids).map uuid := by
    intro id member
    obtain ⟨row, own, rfl⟩ := List.mem_map.mp member
    obtain ⟨-, -, named, inside, same⟩ := mem_ownBindings.mp own
    exact List.mem_map.mpr ⟨named, mem_uniq.mpr inside, same⟩
  simpa using (List.subperm_of_subset apart within).length_le

theorem bindingRows_length (ids : List String) :
    (bindingRows task ids tables).length ≤ (ownBindings task ids tables).length := by
  unfold bindingRows
  refine (List.length_take_le' _ _).trans ?_
  rw [List.length_insertionSort]
  exact List.length_filter_le _ _

theorem mem_bindingRows {ids : List String} {row : BindingRow}
    (member : row ∈ bindingRows task ids tables) : row ∈ ownBindings task ids tables := by
  have sorted := List.mem_of_mem_take member
  rw [List.mem_insertionSort] at sorted
  exact List.mem_of_mem_filter sorted

theorem bindingRows_later {ids : List String} (later : Later earlier tables)
    (distinct : (tables.bindings.map BindingRow.id).Nodup)
    (complete : (bindingRows task ids earlier).length = (uniq ids).length) :
    bindingRows task ids tables = bindingRows task ids earlier := by
  obtain ⟨added, whole⟩ := later.bindings
  have parts : ownBindings task ids tables =
      ownBindings task ids earlier ++ ownBindings task ids { tables with bindings := added } := by
    unfold ownBindings
    rw [← whole, List.filter_append]
  have most := @ownBindings_length task tables distinct ids
  have least := @bindingRows_length task earlier ids
  rw [parts, List.length_append] at most
  have nothing : ownBindings task ids { tables with bindings := added } = [] :=
    List.eq_nil_of_length_eq_zero (by omega)
  unfold bindingRows
  rw [parts, nothing, List.append_nil]

theorem readBindings_ok {ids : List String} {rows : List BindingRow} {bindings : List SavedBinding}
    (read : readBindings platform ids rows = .ok bindings) :
    rows.length = (uniq ids).length ∧ bindings = withinBudget platform [] (rows.take 20) := by
  unfold readBindings at read
  obtain ⟨_, counted, rest⟩ := bind_ok.mp read
  obtain ⟨_, _, made⟩ := bind_ok.mp rest
  rw [throwIf_ok, bne_eq_false_iff_eq] at counted
  cases made
  exact ⟨counted, rfl⟩

theorem mem_withinBudget {rows : List BindingRow} {bindings : List SavedBinding}
    {binding : SavedBinding} (member : binding ∈ withinBudget platform bindings rows) :
    binding ∈ bindings ∨ ∃ row ∈ rows, row.binding = binding := by
  induction rows generalizing bindings with
  | nil => exact Or.inl member
  | cons row rest ih =>
      unfold withinBudget at member
      split at member
      · exact Or.inl member
      · rcases ih member with inside | ⟨other, later, same⟩
        · rcases List.mem_append.mp inside with known | added
          · exact Or.inl known
          · exact Or.inr ⟨row, List.mem_cons_self .., (List.mem_singleton.mp added).symm⟩
        · exact Or.inr ⟨other, List.mem_cons_of_mem _ later, same⟩

theorem checkBindings_ok {rows : List BindingRow}
    (passed : checkBindings platform asked input rows = .ok ()) :
    ∃ bindings, readBindings platform (idsOf input) rows = .ok bindings ∧
      checkSide platform asked bindings asked.requirement.subjectTargetId input.bindingIds.1 =
        .ok () ∧
      checkSide platform asked bindings asked.requirement.referenceTargetId input.bindingIds.2 =
        .ok () := by
  unfold checkBindings at passed
  obtain ⟨bindings, read, rest⟩ := bind_ok.mp passed
  obtain ⟨_, subject, more⟩ := bind_ok.mp rest
  obtain ⟨_, reference, _⟩ := bind_ok.mp more
  exact ⟨bindings, read, subject, reference⟩

theorem checkBindings_later (later : Later earlier tables)
    (distinct : (tables.bindings.map BindingRow.id).Nodup)
    (passed : checkBindings platform asked input (bindingRows task (idsOf input) earlier) =
      .ok ()) : checkBindings platform asked input (bindingRows task (idsOf input) tables) = .ok () := by
  obtain ⟨bindings, read, -⟩ := checkBindings_ok passed
  rw [bindingRows_later later distinct (readBindings_ok read).1]
  exact passed

theorem Checked.later (checked : Checked platform task asked input earlier)
    (later : Later earlier tables) (distinct : (tables.bindings.map BindingRow.id).Nodup) :
    Checked platform task asked input tables where
  found := checked.found
  delivered := checkDelivered_later (Later.refl _) later checked.delivered
  bindings := checkBindings_later later distinct checked.bindings
  superseded reviewId named := checkSuperseded_later later (checked.superseded reviewId named)

structure ReadyFor (platform : Platform) (task : AgentRuntimeTask) (asked : Requested)
    (targetId bindingId : String) (tables : Tables) : Prop where
  row : ∃ row ∈ tables.bindings, row.id = bindingId ∧
    ofAttempt task row.runId row.attemptId = true ∧ row.facts.targetId = targetId ∧
      row.facts.criterionId = asked.criterion.id ∧
      row.facts.contractDigest = platform.contractDigest asked.contract ∧
      row.facts.readiness = .ready ∧
      ∃ target ∈ asked.contract.targets, target.targetId = targetId ∧
        target.phase = row.facts.phase

theorem checkSide_ready {bindings : List SavedBinding} {targetId bindingId : String}
    (read : readBindings platform (idsOf input) (bindingRows task (idsOf input) tables) =
      .ok bindings)
    (passed : checkSide platform asked bindings targetId bindingId = .ok ()) :
    ReadyFor platform task asked targetId bindingId tables := by
  unfold checkSide at passed
  split at passed
  · cases passed
  · rename_i binding found
    split at passed
    · cases passed
    · rename_i right
      split at passed
      · cases passed
      · rename_i target aimed
        rw [throwIf_ok] at passed
        simp only [Bool.or_eq_true, bne_iff_ne, not_or, not_not] at right
        simp only [Bool.or_eq_false_iff, bne_eq_false_iff_eq] at passed
        have named : binding.id = bindingId := by simpa using List.find?_some found
        have inside := List.mem_of_find?_eq_some found
        rw [(readBindings_ok read).2] at inside
        obtain ⟨row, taken, rfl⟩ := (mem_withinBudget inside).resolve_left List.not_mem_nil
        have own := mem_bindingRows (List.mem_of_mem_take taken)
        obtain ⟨stored, ours, -⟩ := mem_ownBindings.mp own
        have sought : target.targetId = targetId := by simpa using List.find?_some aimed
        exact ⟨row, stored, named, ours, right.1.1, right.2, right.1.2, passed.2, target,
          List.mem_of_find?_eq_some aimed, sought, passed.1.symm⟩

end Checks

end ObservationBindings

end Devproof
