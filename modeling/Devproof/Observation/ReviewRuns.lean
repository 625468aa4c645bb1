import Devproof.Observation.Deliveries

/-!
Overlapping calls of the binding service: one record for each model request,
and, while nobody spells the id of a delivery in two ways, one review for each
delivery.
-/

namespace Devproof

namespace ObservationBindings

section Invariant

variable (platform : Platform) (arrives : Call → Prop)

structure MadeBy (tables : Tables) (event : RunEvent) (review : ComparisonReview)
    (task : AgentRuntimeTask) (asked : Requested) : Prop where
  arrived : arrives (.compare task review.toComparisonInput)
  ours : ofTask task event = true
  row : event.id = review.id
  made : review = reviewFor platform task asked review.toComparisonInput
  checked : Checked platform task asked review.toComparisonInput tables

def Proper (tables : Tables) (event : RunEvent) : Prop :=
  match event.body with
  | .modelDelivered delivery => event.id = uuid delivery.modelRequestId
  | .visualReviewed review => ∃ task asked, MadeBy platform arrives tables event review task asked
  | _ => True

structure Lawful (tables : Tables) : Prop where
  events : (tables.events.map RunEvent.id).Nodup
  bindings : (tables.bindings.map BindingRow.id).Nodup
  proper : ∀ event ∈ tables.events, Proper platform arrives tables event
  once : ∀ first ∈ tables.events, ∀ second ∈ tables.events, ∀ review review',
    first.body = .visualReviewed review → second.body = .visualReviewed review' →
      review.deliveryId = review'.deliveryId → first = second

def Done (call : Call) (result : Except String Answer) (tables : Tables) : Prop :=
  match call, result with
  | _, .error _ => True
  | .images task bindingIds _, .ok (.images deliveryId images) =>
      images.map EvidenceImage.bindingId = bindingIds ∧
        ∃ event ∈ tables.events, event.id = uuid deliveryId ∧ ofTask task event = true ∧
          event.body = .imagesPrepared { bindingIds, fencingToken := fence task }
  | .deliver task input, .ok .accepted =>
      ∃ event ∈ tables.events, event.body = .modelDelivered (deliveryOf task input)
  | .compare task input, .ok (.reviewed review) =>
      review.toComparisonInput = input ∧
        (∃ event ∈ tables.events, ofAttempt task event.runId event.attemptId = true ∧
          event.body = .visualReviewed review) ∧
        ∃ asked, Checked platform task asked input tables
  | _, .ok _ => False

end Invariant

section Tables

variable {platform : Platform} {arrives : Call → Prop} {tables earlier : Tables}
  {event : RunEvent}

theorem MadeBy.later {review : ComparisonReview} {task : AgentRuntimeTask} {asked : Requested}
    (made : MadeBy platform arrives earlier event review task asked) (later : Later earlier tables)
    (distinct : (tables.bindings.map BindingRow.id).Nodup) :
    MadeBy platform arrives tables event review task asked :=
  { made with checked := made.checked.later later distinct }

theorem Proper.later (proper : Proper platform arrives earlier event)
    (later : Later earlier tables) (distinct : (tables.bindings.map BindingRow.id).Nodup) :
    Proper platform arrives tables event := by
  unfold Proper at proper ⊢
  split
  · rename_i delivery body
    simpa only [body] using proper
  · rename_i review body
    simp only [body] at proper
    obtain ⟨task, asked, made⟩ := proper
    exact ⟨task, asked, made.later later distinct⟩
  · trivial

theorem Done.later {call : Call} {result : Except String Answer} (later : Later earlier tables)
    (distinct : (tables.bindings.map BindingRow.id).Nodup)
    (done : Done platform call result earlier) : Done platform call result tables := by
  cases result with
  | error failure => cases call <;> trivial
  | ok answer =>
      cases call with
      | images task bindingIds deliveryId =>
          cases answer with
          | images given images =>
              obtain ⟨loaded, event, member, prepared⟩ := done
              exact ⟨loaded, event, later.event member, prepared⟩
          | _ => exact done
      | deliver task input =>
          cases answer with
          | accepted =>
              obtain ⟨event, member, recorded⟩ := done
              exact ⟨event, later.event member, recorded⟩
          | _ => exact done
      | compare task input =>
          cases answer with
          | reviewed review =>
              obtain ⟨same, ⟨event, member, stored⟩, asked, checked⟩ := done
              exact ⟨same, ⟨event, later.event member, stored⟩, asked,
                checked.later later distinct⟩
          | _ => exact done

/-- An event under a new id is added. -/
theorem Lawful.add (lawful : Lawful platform arrives tables)
    (fresh : ∀ other ∈ tables.events, other.id ≠ event.id)
    (proper : Proper platform arrives { tables with events := tables.events ++ [event] } event)
    (single : ∀ review, event.body = .visualReviewed review → ∀ other ∈ tables.events,
      ∀ review', other.body = .visualReviewed review' → review'.deliveryId ≠ review.deliveryId) :
    Lawful platform arrives { tables with events := tables.events ++ [event] } := by
  have onward : Later tables { tables with events := tables.events ++ [event] } :=
    ⟨List.prefix_append _ _, List.prefix_refl _⟩
  refine ⟨?_, lawful.bindings, ?_, ?_⟩
  · rw [List.map_append, List.map_singleton]
    refine lawful.events.append (List.nodup_singleton _) ?_
    intro id known new
    obtain ⟨other, member, rfl⟩ := List.mem_map.mp known
    exact fresh other member (List.mem_singleton.mp new)
  · intro other member
    rcases List.mem_append.mp member with known | added
    · exact (lawful.proper other known).later onward lawful.bindings
    · rw [List.mem_singleton.mp added]
      exact proper
  · intro first here second there review review' body body' same
    rcases List.mem_append.mp here with known | added <;>
      rcases List.mem_append.mp there with known' | added'
    · exact lawful.once first known second known' review review' body body' same
    · rw [List.mem_singleton.mp added'] at body'
      exact absurd same (single review' body' first known review body)
    · rw [List.mem_singleton.mp added] at body
      exact absurd same.symm (single review body second known' review' body')
    · rw [List.mem_singleton.mp added, List.mem_singleton.mp added']

theorem createNew_cases (event : RunEvent) (tables : Tables) :
    ((∃ other ∈ tables.events, other.id = event.id) ∧ createNew event tables = tables) ∨
      (∀ other ∈ tables.events, other.id ≠ event.id) ∧
        createNew event tables = { tables with events := tables.events ++ [event] } := by
  unfold createNew
  split
  · rename_i taken
    exact Or.inl ⟨by simpa using taken, rfl⟩
  · rename_i free
    exact Or.inr ⟨by simpa using free, rfl⟩

theorem createNew_later (event : RunEvent) (tables : Tables) :
    Later tables (createNew event tables) := by
  rcases createNew_cases event tables with ⟨-, same⟩ | ⟨-, added⟩
  · rw [same]
    exact Later.refl _
  · rw [added]
    exact ⟨List.prefix_append _ _, List.prefix_refl _⟩

theorem changed_lawful (change : Change) (lawful : Lawful platform arrives tables) :
    Lawful platform arrives (changed change tables) ∧ Later tables (changed change tables) := by
  cases change with
  | bind row =>
      simp only [changed]
      split
      · exact ⟨lawful, Later.refl _⟩
      · rename_i free
        simp only [List.any_eq_true, beq_iff_eq, not_exists, not_and] at free
        have distinct : ((tables.bindings ++ [{ row with id := uuid row.id }]).map
            BindingRow.id).Nodup := by
          rw [List.map_append, List.map_singleton]
          refine lawful.bindings.append (List.nodup_singleton _) ?_
          intro id known new
          obtain ⟨other, member, rfl⟩ := List.mem_map.mp known
          exact free other member (List.mem_singleton.mp new)
        have onward : Later tables
            { tables with bindings := tables.bindings ++ [{ row with id := uuid row.id }] } :=
          ⟨List.prefix_refl _, List.prefix_append _ _⟩
        exact ⟨⟨lawful.events, distinct,
          fun event member => (lawful.proper event member).later onward distinct, lawful.once⟩,
          onward⟩
  | record id teamId runId attemptId taskId actor =>
      simp only [changed]
      refine ⟨?_, createNew_later _ _⟩
      rcases createNew_cases _ tables with ⟨-, same⟩ | ⟨fresh, added⟩
      · rw [same]
        exact lawful
      · rw [added]
        exact lawful.add fresh trivial fun review body => by cases body
  | surroundings now tasks evidence objects =>
      have onward : Later tables { tables with now, tasks, evidence, objects } :=
        ⟨List.prefix_refl _, List.prefix_refl _⟩
      exact ⟨⟨lawful.events, lawful.bindings,
        fun event member => (lawful.proper event member).later onward lawful.bindings,
        lawful.once⟩, onward⟩

theorem noRows_lawful : Lawful platform arrives noRows := by
  constructor <;> simp [noRows]

end Tables

section Programs

variable {platform : Platform} {arrives : Call → Prop} {task : AgentRuntimeTask} {tables : Tables}

/-- The call obeys: its steps keep the tables lawful, and its answer says what it should. -/
def Serves (platform : Platform) (arrives : Call → Prop) (call : Call) (request : Request)
    (tables : Tables) : Prop :=
  request.Obeys (Lawful platform arrives) Later (Done platform call) tables

theorem create_ok {event : RunEvent} {after : Tables} (made : create event tables = .ok after) :
    (∀ other ∈ tables.events, other.id ≠ event.id) ∧
      after = { tables with events := tables.events ++ [event] } := by
  unfold create at made
  split at made
  · cases made
  · rename_i free
    cases made
    exact ⟨by simpa using free, rfl⟩

theorem prepareImages_serves {bindingIds : List String} {deliveryId uuid' : String}
    {images : List EvidenceImage} (loaded : images.map EvidenceImage.bindingId = bindingIds) :
    Serves platform arrives (.images task bindingIds uuid')
      (.transaction (prepareImages task bindingIds deliveryId images)) tables := by
  refine Program.obeys_transaction Later.refl ?_ fun _ _ _ _ _ => trivial
  intro now after answer later lawful commits
  obtain ⟨_, -, rest⟩ := bind_ok.mp commits
  obtain ⟨saved, created, made⟩ := bind_ok.mp rest
  obtain ⟨fresh, rfl⟩ := create_ok created
  cases made
  refine ⟨lawful.add fresh trivial fun review body => (by cases body),
    ⟨List.prefix_append _ _, List.prefix_refl _⟩, loaded, _,
    List.mem_append_right _ (List.mem_singleton_self _), rfl, ofTask_eventOf _ _ _, rfl⟩

theorem checkImage_bindingId {bindingId : String} {artifact : RuntimeArtifact}
    {object : Option StoredObject} {image : EvidenceImage}
    (passed : checkImage bindingId artifact object = .ok image) : image.bindingId = bindingId := by
  unfold checkImage at passed
  obtain ⟨_, -, rest⟩ := bind_ok.mp passed
  obtain ⟨_, -, more⟩ := bind_ok.mp rest
  obtain ⟨_, -, made⟩ := bind_ok.mp more
  cases made
  rfl

theorem loadImages_serves {call : Call} {bindings : List SavedBinding}
    {next : List EvidenceImage → Request} {images : List EvidenceImage} {ids : List String}
    (rest : ∀ loaded now, loaded.map EvidenceImage.bindingId =
      images.map EvidenceImage.bindingId ++ ids → Serves platform arrives call (next loaded) now) :
    Serves platform arrives call (loadImages task bindings next images ids) tables := by
  induction ids generalizing images tables with
  | nil => exact rest images tables (by simp)
  | cons id others ih =>
      refine Program.obeys_check (fun binding _ => ?_) fun _ _ => by cases call <;> trivial
      refine Program.obeys_read Later.refl fun now _ _ => ?_
      refine Program.obeys_check (fun artifact _ => ?_) fun _ _ => by cases call <;> trivial
      refine Program.obeys_read Later.refl fun further _ _ => ?_
      refine Program.obeys_check (fun image made => ?_) fun _ _ => by cases call <;> trivial
      apply ih
      intro loaded last whole
      refine rest loaded last ?_
      rw [whole, List.map_append, List.map_singleton, checkImage_bindingId made, List.append_assoc,
        List.singleton_append]

theorem images_serves (bindingIds : List String) (deliveryId : String) :
    Serves platform arrives (.images task bindingIds deliveryId)
      (images platform task bindingIds deliveryId) tables := by
  refine Program.obeys_read Later.refl fun now _ _ => ?_
  refine Program.obeys_check (fun bindings _ => ?_) fun _ _ => trivial
  exact loadImages_serves fun loaded last whole => prepareImages_serves (by simpa using whole)

theorem recordDelivery_serves (apart : ApartDigests platform.sha256) (input : DeliverInput) :
    Serves platform arrives (.deliver task input)
      (.transaction (recordDelivery platform task input)) tables := by
  refine Program.obeys_transaction Later.refl ?_ fun _ _ _ _ _ => trivial
  intro now after answer later lawful commits
  obtain ⟨_, -, rest⟩ := bind_ok.mp commits
  obtain ⟨_, agrees, made⟩ := bind_ok.mp rest
  cases made
  refine ⟨?_, createNew_later _ _, ?_⟩
  · rcases createNew_cases (eventOf task input.modelRequestId .agentRuntime
      (.modelDelivered (deliveryOf task input))) now with ⟨-, same⟩ | ⟨fresh, added⟩
    · rw [same]
      exact lawful
    · rw [added]
      exact lawful.add fresh rfl fun review body => by cases body
  · rw [throwIf_ok] at agrees
    cases found : savedDelivery task input.modelRequestId (createNew (eventOf task
        input.modelRequestId .agentRuntime (.modelDelivered (deliveryOf task input))) now) with
    | none => simp [found] at agrees
    | some saved =>
        rw [found, Option.all_some, bne_eq_false_iff_eq, observationDigest_inj apart
          saved.document_readable (deliveryOf task input).document_readable,
          ModelDelivery.document_inj] at agrees
        obtain ⟨event, member, body, -⟩ := savedDelivery_some found
        exact ⟨event, member, by rw [body, agrees]⟩

theorem deliver_serves (apart : ApartDigests platform.sha256) (input : DeliverInput) :
    Serves platform arrives (.deliver task input) (deliver platform task input) tables := by
  refine Program.obeys_read Later.refl fun now _ _ => ?_
  refine Program.obeys_check (fun _ _ => ?_) fun _ _ => trivial
  split
  · exact recordDelivery_serves apart input
  · refine Program.obeys_read Later.refl fun further _ _ => ?_
    exact Program.obeys_check (fun _ _ => recordDelivery_serves apart input) fun _ _ => trivial

variable {asked : Requested} {input : ComparisonInput}

theorem sameReview_ok {left right : Shape} {review : ComparisonReview} {answer : Answer}
    (apart : ApartDigests platform.sha256) (readable : left.Readable) (readable' : right.Readable)
    (passed : sameReview platform left right review = .ok answer) :
    left = right ∧ answer = .reviewed review := by
  unfold sameReview at passed
  obtain ⟨_, agrees, made⟩ := bind_ok.mp passed
  rw [throwIf_ok, bne_eq_false_iff_eq, observationDigest_inj apart readable readable'] at agrees
  cases made
  exact ⟨agrees, rfl⟩

theorem review_ofAttempt (lawful : Lawful platform arrives tables) {event : RunEvent}
    {review : ComparisonReview} (member : event ∈ tables.events)
    (body : event.body = .visualReviewed review)
    (checked : Checked platform task asked input tables)
    (same : review.deliveryId = input.deliveryId) :
    ofAttempt task event.runId event.attemptId = true := by
  have proper := lawful.proper event member
  simp only [Proper, body] at proper
  obtain ⟨reviewer, about, made⟩ := proper
  obtain ⟨-, payload, prepared, -⟩ := checkDelivered_ok checked.delivered
  obtain ⟨-, payload', prepared', -⟩ := checkDelivered_ok made.checked.delivered
  obtain ⟨shown, here, -, id, ours⟩ := imagesPrepared_some prepared
  obtain ⟨shown', here', -, id', ours'⟩ := imagesPrepared_some prepared'
  have one : shown' = shown :=
    List.inj_on_of_nodup_map lawful.events here' here (by rw [id', id, same])
  rw [one, ofTask_iff] at ours'
  rw [ofTask_iff] at ours
  have mine := ofTask_iff.mp made.ours
  simp [ofAttempt, mine, ← ours', ours]

theorem reviewOfDelivery_eq (lawful : Lawful platform arrives tables) {event : RunEvent}
    {review : ComparisonReview} (member : event ∈ tables.events)
    (body : event.body = .visualReviewed review)
    (ours : ofAttempt task event.runId event.attemptId = true) :
    reviewOfDelivery task review.deliveryId tables = some review := by
  cases found : reviewOfDelivery task review.deliveryId tables with
  | none => exact absurd rfl (reviewOfDelivery_none found member body ours)
  | some other =>
      obtain ⟨event', member', payload, body', -, same, rfl⟩ := reviewOfDelivery_some found
      have one := lawful.once event' member' event member payload review body' body same
      subst one
      rw [body] at body'
      cases body'
      have proper := lawful.proper event' member
      simp only [Proper, body] at proper
      obtain ⟨reviewer, about, made⟩ := proper
      rw [made.row]

theorem reviewIdOf_uuid (apart : ApartDigests platform.sha256) (deliveryId : String) :
    uuid (reviewIdOf platform task deliveryId) = reviewIdOf platform task deliveryId := by
  have lower : ∀ start stop, (between (observationDigest platform.sha256
      (textList [task.attemptId, deliveryId])) start stop).toList.map Char.toLower =
      (between (observationDigest platform.sha256
        (textList [task.attemptId, deliveryId])) start stop).toList := by
    intro start stop
    have digits := congrArg String.toList (apart.lowercase (String.ofList
      (textList [task.attemptId, deliveryId]).render))
    rw [uuid, String.toList_ofList] at digits
    rw [between, String.toList_ofList, List.map_take, List.map_drop, observationDigest, digits]
  apply String.toList_inj.mp
  rw [uuid, String.toList_ofList]
  simp only [reviewIdOf, String.toList_append, List.map_append, lower]
  rfl

theorem recordReview_step (apart : ApartDigests platform.sha256)
    (arrived : arrives (.compare task input)) (lawful : Lawful platform arrives tables)
    (checked : Checked platform task asked input tables) {after : Tables} {answer : Answer}
    (commits : recordReview platform task asked input tables = .ok (after, answer)) :
    Lawful platform arrives after ∧ Later tables after ∧
      Done platform (.compare task input) (.ok answer) after := by
  unfold recordReview at commits
  obtain ⟨_, -, rest⟩ := bind_ok.mp commits
  split at rest
  · rename_i previous found
    obtain ⟨answered, passed, made⟩ := bind_ok.mp rest
    obtain ⟨same, reviewed⟩ := sameReview_ok apart
      previous.toComparisonInput.document_readable input.document_readable passed
    cases made
    subst reviewed
    obtain ⟨event, member, payload, body, ours, -, rfl⟩ := reviewOfDelivery_some found
    have proper := lawful.proper event member
    simp only [Proper, body] at proper
    obtain ⟨reviewer, about, written⟩ := proper
    rw [written.row]
    exact ⟨lawful, Later.refl _, ComparisonInput.document_inj.mp same, ⟨event, member, ours, body⟩,
      asked, checked⟩
  · rename_i absent
    dsimp only at rest
    split at rest
    · cases rest
    · rename_i saved found
      obtain ⟨answered, passed, made⟩ := bind_ok.mp rest
      obtain ⟨same, reviewed⟩ := sameReview_ok apart saved.document_readable
        (reviewFor platform task asked input).document_readable passed
      have whole := ComparisonReview.document_inj.mp same
      cases made
      subst reviewed
      have onward := createNew_later (eventOf task (reviewFor platform task asked input).id
        .agentRuntime (.visualReviewed (reviewFor platform task asked input))) tables
      obtain ⟨event, member, body, ours⟩ := savedReview_some found
      refine ⟨?_, onward, by rw [whole]; rfl, ⟨event, member, ours, body⟩, asked,
        checked.later onward ?_⟩ <;>
      rcases createNew_cases (eventOf task (reviewFor platform task asked input).id
        .agentRuntime (.visualReviewed (reviewFor platform task asked input))) tables with
        ⟨-, kept⟩ | ⟨fresh, added⟩
      · rw [kept]
        exact lawful
      · rw [added] at onward ⊢
        refine lawful.add fresh ⟨task, asked, arrived, ofTask_eventOf _ _ _,
          reviewIdOf_uuid apart _, rfl, checked.later onward lawful.bindings⟩ ?_
        intro review new other known review' body' double
        cases new
        exact reviewOfDelivery_none absent known body'
          (review_ofAttempt lawful known body' checked double) double
      · rw [kept]
        exact lawful.bindings
      · rw [added]
        exact lawful.bindings

theorem recordReview_serves (apart : ApartDigests platform.sha256)
    (arrived : arrives (.compare task input))
    (checked : Checked platform task asked input tables) :
    Serves platform arrives (.compare task input)
      (.transaction (recordReview platform task asked input)) tables := by
  refine Program.obeys_transaction Later.refl ?_ fun _ _ _ _ _ => trivial
  intro now after answer later lawful commits
  exact recordReview_step apart arrived lawful (checked.later later lawful.bindings) commits

theorem compare_serves (apart : ApartDigests platform.sha256)
    (arrived : arrives (.compare task input)) :
    Serves platform arrives (.compare task input) (compare platform task input) tables := by
  refine Program.obeys_check (fun asked found => ?_) fun _ _ => trivial
  refine Program.obeys_read Later.refl fun preparedAt _ _ => ?_
  refine Program.obeys_read Later.refl fun deliveredAt sooner _ => ?_
  refine Program.obeys_check (fun _ delivered => ?_) fun _ _ => trivial
  refine Program.obeys_read Later.refl fun bindingsAt later lawful => ?_
  refine Program.obeys_check (fun _ bindings => ?_) fun _ _ => trivial
  have shown := checkDelivered_later sooner later delivered
  split
  · rename_i unnamed
    refine recordReview_serves apart arrived ⟨found, shown, bindings, ?_⟩
    intro reviewId named
    rw [unnamed] at named
    cases named
  · rename_i named
    refine Program.obeys_read Later.refl fun supersededAt onward lawful' => ?_
    refine Program.obeys_check (fun _ superseded => ?_) fun _ _ => trivial
    refine recordReview_serves apart arrived ⟨found,
      checkDelivered_later sooner (later.trans onward) delivered,
      checkBindings_later onward lawful'.bindings bindings, ?_⟩
    intro reviewId same
    rw [named] at same
    cases same
    exact superseded

theorem serve_rules (apart : ApartDigests platform.sha256) :
    System.Rules (serve platform) changed arrives (Lawful platform arrives) Later
      (Done platform) where
  refl := Later.refl
  transitive := Later.trans
  stable later lawful done := done.later later lawful.bindings
  starts call arrived state := by
    cases call with
    | images task bindingIds deliveryId => exact images_serves bindingIds deliveryId
    | deliver task input => exact deliver_serves apart input
    | compare task input => exact compare_serves apart arrived
  changes change _ lawful := changed_lawful change lawful

def Repeats (review : ComparisonReview) (result : Except String Answer) : Prop :=
  result = .ok (.reviewed review) ∨ result = .error "RUNTIME_LEASE_LOST"

theorem recordReview_repeats {review : ComparisonReview}
    (stored : reviewOfDelivery task input.deliveryId tables = some review)
    (same : review.toComparisonInput = input) :
    (∃ answer, recordReview platform task asked input tables = .ok (tables, answer) ∧
        Repeats review (.ok answer)) ∨
      ∃ failure, recordReview platform task asked input tables = .error failure ∧
        Repeats review (.error failure) := by
  unfold recordReview
  cases leased : assertLease task tables with
  | error failure =>
      refine Or.inr ⟨failure, rfl, Or.inr ?_⟩
      unfold assertLease throwIf at leased
      split at leased <;> cases leased
      rfl
  | ok _ =>
      refine Or.inl ⟨.reviewed review, ?_, Or.inl rfl⟩
      simp [stored, same, sameReview, throwIf, bind, Except.bind, pure, Except.pure]

theorem compare_repeats {review : ComparisonReview} {event : RunEvent}
    (checked : Checked platform task asked input tables) (member : event ∈ tables.events)
    (body : event.body = .visualReviewed review)
    (ours : ofAttempt task event.runId event.attemptId = true)
    (same : review.toComparisonInput = input) :
    (compare platform task input).Obeys (Lawful platform arrives) Later
      (fun result _ => Repeats review result) tables := by
  have recorded : ∀ now, Later tables now →
      Program.Obeys (Lawful platform arrives) Later (fun result _ => Repeats review result)
        (.transaction (recordReview platform task asked input)) now := by
    intro now later
    have stored : ∀ last, Later now last → Lawful platform arrives last →
        reviewOfDelivery task input.deliveryId last = some review := by
      intro last onward lawful
      rw [← same]
      exact reviewOfDelivery_eq lawful ((later.trans onward).event member) body ours
    refine Program.obeys_transaction Later.refl ?_ ?_
    · intro last after answer onward lawful commits
      rcases recordReview_repeats (stored last onward lawful) same with
        ⟨given, recorded, repeats⟩ | ⟨failure, refused, -⟩
      · rw [recorded] at commits
        cases commits
        exact ⟨lawful, Later.refl _, repeats⟩
      · rw [refused] at commits
        cases commits
    · intro last failure onward lawful fails
      rcases recordReview_repeats (stored last onward lawful) same with
        ⟨given, recorded, -⟩ | ⟨reason, refused, repeats⟩
      · rw [recorded] at fails
        cases fails
      · rw [refused] at fails
        cases fails
        exact repeats
  obtain ⟨delivered, payload, prepared, -⟩ := checkDelivered_ok checked.delivered
  refine Program.obeys_check (fun found asks => ?_) fun failure asks => ?_
  · rw [checked.found] at asks
    cases asks
    refine Program.obeys_read Later.refl fun preparedAt sooner _ => ?_
    refine Program.obeys_read Later.refl fun deliveredAt later _ => ?_
    have shown : checkDelivered task input (imagesPrepared task input.deliveryId preparedAt)
        (imagesDelivered task input.deliveryId deliveredAt) = .ok () := by
      have stays : imagesPrepared task input.deliveryId preparedAt = some payload :=
        sooner.found prepared
      rw [stays, imagesDelivered_later (sooner.trans later) delivered, ← prepared, ← delivered]
      exact checked.delivered
    refine Program.obeys_check (fun _ _ => ?_) fun _ refused => ?_
    · refine Program.obeys_read Later.refl fun bindingsAt onward lawful => ?_
      have arrivedAt := (sooner.trans later).trans onward
      refine Program.obeys_check (fun _ _ => ?_) fun _ refused => ?_
      · split
        · exact recorded _ arrivedAt
        · rename_i reviewId named
          refine Program.obeys_read Later.refl fun supersededAt further _ => ?_
          refine Program.obeys_check (fun _ _ => recorded _ (arrivedAt.trans further))
            fun _ refused => ?_
          rw [checkSuperseded_later (arrivedAt.trans further) (checked.superseded reviewId named)]
            at refused
          cases refused
      · rw [(checked.later arrivedAt lawful.bindings).bindings] at refused
        cases refused
    · rw [shown] at refused
      cases refused
  · rw [checked.found] at asks
    cases asks

end Programs

end ObservationBindings

end Devproof
