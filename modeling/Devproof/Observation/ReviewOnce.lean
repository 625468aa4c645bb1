import Devproof.Observation.ReviewRuns

/-!
Every run of the binding service: a request records one delivery, and each
delivery is reviewed once while all comparisons spell its id alike.
-/

namespace Devproof

namespace ObservationBindings

abbrev Service := System Tables Call (Except String Answer)

def reached (platform : Platform) (moves : List (SystemMove Call Change)) : Service :=
  arrival (System.step (serve platform) changed) moves { shared := noRows, running := [] }

def ArrivesIn (moves : List (SystemMove Call Change)) (call : Call) : Prop :=
  SystemMove.start call ∈ moves

def OneSpelling (moves : List (SystemMove Call Change)) : Prop :=
  ∀ task input task' input', SystemMove.start (.compare task input) ∈ moves →
    SystemMove.start (.compare task' input') ∈ moves →
      uuid input.deliveryId = uuid input'.deliveryId → input.deliveryId = input'.deliveryId

theorem reached_append (platform : Platform) (first later : List (SystemMove Call Change)) :
    reached platform (first ++ later) =
      arrival (System.step (serve platform) changed) later (reached platform first) :=
  List.foldl_append

section Alone

variable {platform : Platform} {task : AgentRuntimeTask} {tables : Tables}

theorem createNew_fresh {event : RunEvent} (fresh : ∀ other ∈ tables.events, other.id ≠ event.id) :
    createNew event tables = { tables with events := tables.events ++ [event] } := by
  unfold createNew
  rw [if_neg (by simpa using fresh)]

theorem deliver_alone {input : DeliverInput} {deliveryId : String} {payload : ImagesPrepared}
    (own : (ownBindings task (uniq input.bindingIds) tables).length =
      (uniq input.bindingIds).length)
    (named : input.imageDeliveryId = some deliveryId)
    (prepared : imagesPrepared task deliveryId tables = some payload)
    (fenced : payload.fencingToken = fence task) (leased : assertLease task tables = .ok ())
    (fresh : ∀ other ∈ tables.events, other.id ≠ uuid input.modelRequestId) :
    (deliver platform task input).alone 3 tables =
      ({ tables with events := tables.events ++ [eventOf task input.modelRequestId .agentRuntime
        (.modelDelivered (deliveryOf task input))] }, .answer (.ok .accepted)) := by
  let event := eventOf task input.modelRequestId .agentRuntime
    (.modelDelivered (deliveryOf task input))
  have absent : savedDelivery task input.modelRequestId tables = none := by
    refine List.findSome?_eq_none_iff.mpr fun other member => ?_
    simp [fresh other member]
  have saved : savedDelivery task input.modelRequestId
      { tables with events := tables.events ++ [event] } = some (deliveryOf task input) := by
    unfold savedDelivery at absent ⊢
    rw [List.findSome?_append, absent]
    simp [event, deliveredBy, eventOf, ofTask, ofAttempt]
  have recorded : recordDelivery platform task input tables =
      .ok ({ tables with events := tables.events ++ [event] }, .accepted) := by
    unfold recordDelivery
    have added : createNew event tables = { tables with events := tables.events ++ [event] } :=
      createNew_fresh fresh
    rw [leased]
    simp only [added, event, bind, Except.bind] at saved added ⊢
    simp [saved, throwIf, pure, Except.pure]
  have counted : throwIf ((ownBindings task (uniq input.bindingIds) tables).length !=
      (uniq input.bindingIds).length) "BINDING_NOT_AVAILABLE" = .ok () := by
    simp [own]
  have available : throwIf ((imagesPrepared task deliveryId tables).all fun payload =>
      payload.fencingToken != fence task) "IMAGE_DELIVERY_UNAVAILABLE" = .ok () := by
    simp [prepared, fenced]
  rw [deliver, Program.alone_read, Program.check_ok counted]
  simp only [named]
  rw [Program.alone_read, Program.check_ok available]
  exact Program.alone_transaction recorded

theorem compare_alone {asked : Requested} {input : ComparisonInput}
    (checked : Checked platform task asked input tables) (first : input.supersedesReviewId = none)
    (leased : assertLease task tables = .ok ())
    (unreviewed : reviewOfDelivery task input.deliveryId tables = none)
    (fresh : ∀ other ∈ tables.events, other.id ≠
      uuid (reviewIdOf platform task input.deliveryId)) :
    (compare platform task input).alone 4 tables =
      ({ tables with events := tables.events ++
        [eventOf task (reviewIdOf platform task input.deliveryId) .agentRuntime
          (.visualReviewed (reviewFor platform task asked input))] },
        .answer (.ok (.reviewed (reviewFor platform task asked input)))) := by
  let event := eventOf task (reviewIdOf platform task input.deliveryId) .agentRuntime
    (.visualReviewed (reviewFor platform task asked input))
  have absent : savedReview task (reviewIdOf platform task input.deliveryId) tables = none := by
    refine List.findSome?_eq_none_iff.mpr fun other member => ?_
    simp [fresh other member]
  have saved : savedReview task (reviewIdOf platform task input.deliveryId)
      { tables with events := tables.events ++ [event] } =
        some (reviewFor platform task asked input) := by
    unfold savedReview at absent ⊢
    rw [List.findSome?_append, absent]
    simp [event, reviewBy, eventOf, ofAttempt]
  have recorded : recordReview platform task asked input tables =
      .ok ({ tables with events := tables.events ++ [event] },
        .reviewed (reviewFor platform task asked input)) := by
    have added : createNew event tables = { tables with events := tables.events ++ [event] } :=
      createNew_fresh fresh
    simp only [recordReview, leased, unreviewed, reviewFor, event, bind, Except.bind]
      at added saved ⊢
    simp [added, saved, sameReview, throwIf, bind, Except.bind, pure, Except.pure]
  rw [compare, Program.check_ok checked.found, Program.alone_read, Program.alone_read,
    Program.check_ok checked.delivered, Program.alone_read, Program.check_ok checked.bindings]
  simp only [first]
  exact Program.alone_transaction recorded

theorem reached_next {moves : List (SystemMove Call Change)} {place count : Nat} {call : Call}
    {after : Tables} {rest : Request}
    (here : (reached platform moves).shared = tables ∧
      (reached platform moves).running.length = place)
    (runs : (serve platform call).alone count tables = (after, rest)) :
    (reached platform (moves ++ .start call :: List.replicate count (.tick place))).shared = after ∧
      (reached platform
        (moves ++ .start call :: List.replicate count (.tick place))).running.length =
          place + 1 := by
  obtain ⟨rfl, rfl⟩ := here
  rw [reached_append, System.start_alone, runs]
  exact ⟨rfl, by simp⟩

end Alone

/-- The review names ready bindings of the two targets of its comparison, and the delivery it
    names prepared the images of both. -/
structure Justified (platform : Platform) (tables : Tables) (event : RunEvent)
    (review : ComparisonReview) (task : AgentRuntimeTask) (asked : Requested) : Prop where
  ours : ofTask task event = true
  found : requested task review.comparisonId = .ok asked
  criterion : review.criterionId = asked.criterion.id
  contract : review.contractDigest = platform.contractDigest asked.contract
  subject : ReadyFor platform task asked asked.requirement.subjectTargetId review.bindingIds.1
    tables
  reference : ReadyFor platform task asked asked.requirement.referenceTargetId review.bindingIds.2
    tables
  shown : ∃ prepared ∈ tables.events, ∃ payload, prepared.body = .imagesPrepared payload ∧
    prepared.id = uuid review.deliveryId ∧ ofTask task prepared = true ∧
      ∀ id ∈ idsOf review.toComparisonInput, id ∈ payload.bindingIds

structure Settled (platform : Platform) (service : Service) : Prop where
  /-- A model request records one delivery. -/
  deliveries : ∀ first ∈ service.shared.events, ∀ second ∈ service.shared.events,
    ∀ delivery delivery', first.body = .modelDelivered delivery →
      second.body = .modelDelivered delivery' →
        uuid delivery.modelRequestId = uuid delivery'.modelRequestId → first = second
  /-- It is the one its call was accepted for. -/
  accepted : ∀ place task input answer,
    service.Answered place (.deliver task input) (.ok answer) →
      ∃ event ∈ service.shared.events, event.body = .modelDelivered (deliveryOf task input)
  /-- A delivery of images has one review. -/
  reviews : ∀ first ∈ service.shared.events, ∀ second ∈ service.shared.events,
    ∀ review review', first.body = .visualReviewed review → second.body = .visualReviewed review' →
      uuid review.deliveryId = uuid review'.deliveryId → first = second
  /-- A comparison is answered with the stored review of its own input. -/
  reviewed : ∀ place task input answer,
    service.Answered place (.compare task input) (.ok answer) →
      ∃ event ∈ service.shared.events, ∃ review, event.body = .visualReviewed review ∧
        answer = .reviewed review ∧ review.toComparisonInput = input
  /-- Any other input for a reviewed delivery is refused. -/
  refused : ∀ event ∈ service.shared.events, ∀ review, event.body = .visualReviewed review →
    ∀ place task input result, service.Answered place (.compare task input) result →
      uuid input.deliveryId = uuid review.deliveryId → input ≠ review.toComparisonInput →
        ∃ failure, result = .error failure
  justified : ∀ event ∈ service.shared.events, ∀ review, event.body = .visualReviewed review →
    ∃ task asked, Justified platform service.shared event review task asked
  /-- The call that prepared the images of a review showed both of them. -/
  pictured : ∀ event ∈ service.shared.events, ∀ review, event.body = .visualReviewed review →
    ∀ place task bindingIds fresh deliveryId images,
      service.Answered place (.images task bindingIds fresh) (.ok (.images deliveryId images)) →
        uuid deliveryId = uuid review.deliveryId →
          ∀ id ∈ idsOf review.toComparisonInput, id ∈ images.map EvidenceImage.bindingId

section Settling

variable {platform : Platform} {moves : List (SystemMove Call Change)}

theorem reached_orderly (apart : ApartDigests platform.sha256)
    {arrives : Call → Prop} (arrived : ∀ call, SystemMove.start call ∈ moves → arrives call) :
    System.Orderly (Lawful platform arrives) Later (Done platform) (reached platform moves) :=
  (System.orderly_run (serve_rules apart) ⟨noRows_lawful, by simp⟩ arrived).1

def Accepts (_ : Call) (result : Except String Answer) : Prop := ∃ answer, result = .ok answer

theorem careful (platform : Platform) (call : Call) :
    (serve platform call).ChangesWith (Accepts call) := by
  have loading : ∀ task bindings (next : List EvidenceImage → Request) images ids,
      (∀ loaded, (next loaded).ChangesWith (Accepts call)) →
        (loadImages task bindings next images ids).ChangesWith (Accepts call) := by
    intro task bindings next images ids rest
    induction ids generalizing images with
    | nil => exact rest images
    | cons id others ih =>
        refine Program.every_check fun binding => Program.changesWith_read fun found => ?_
        refine Program.every_check fun artifact => Program.changesWith_read fun object => ?_
        exact Program.every_check fun image => ih _
  cases call with
  | images task bindingIds deliveryId =>
      simp only [serve, images]
      refine Program.changesWith_read fun rows => Program.every_check fun bindings => ?_
      exact loading _ _ _ _ _ fun _ => Program.changesWith_transaction
  | deliver task input =>
      simp only [serve, deliver]
      refine Program.changesWith_read fun own => Program.every_check fun _ => ?_
      split
      · exact Program.changesWith_transaction
      · refine Program.changesWith_read fun prepared => Program.every_check fun _ => ?_
        exact Program.changesWith_transaction
  | compare task input =>
      simp only [serve, compare]
      refine Program.every_check fun asked => Program.changesWith_read fun prepared => ?_
      refine Program.changesWith_read fun delivered => Program.every_check fun _ => ?_
      refine Program.changesWith_read fun rows => Program.every_check fun _ => ?_
      split
      · exact Program.changesWith_transaction
      · refine Program.changesWith_read fun previous => Program.every_check fun _ => ?_
        exact Program.changesWith_transaction

theorem MadeBy.justified {arrives : Call → Prop} {tables : Tables} {event : RunEvent}
    {review : ComparisonReview} {task : AgentRuntimeTask} {asked : Requested}
    (made : MadeBy platform arrives tables event review task asked) :
    Justified platform tables event review task asked := by
  obtain ⟨-, payload, prepared, -, within⟩ := checkDelivered_ok made.checked.delivered
  obtain ⟨shown, member, body, id, ours⟩ := imagesPrepared_some prepared
  obtain ⟨bindings, read, subject, reference⟩ := checkBindings_ok made.checked.bindings
  exact {
    ours := made.ours
    found := made.checked.found
    criterion := by rw [made.made]; rfl
    contract := by rw [made.made]; rfl
    subject := checkSide_ready read subject
    reference := checkSide_ready read reference
    shown := ⟨shown, member, payload, body, id, ours, within⟩ }

theorem Lawful.delivered_once {arrives : Call → Prop} {tables : Tables}
    (lawful : Lawful platform arrives tables) {first second : RunEvent}
    (here : first ∈ tables.events) (there : second ∈ tables.events)
    {delivery delivery' : ModelDelivery} (body : first.body = .modelDelivered delivery)
    (body' : second.body = .modelDelivered delivery')
    (same : uuid delivery.modelRequestId = uuid delivery'.modelRequestId) : first = second := by
  have named := lawful.proper first here
  have named' := lawful.proper second there
  simp only [Proper, body] at named
  simp only [Proper, body'] at named'
  exact List.inj_on_of_nodup_map lawful.events here there (by rw [named, named', same])

theorem Lawful.reviewed_once {tables : Tables}
    (lawful : Lawful platform (ArrivesIn moves) tables)
    (spelled : OneSpelling moves) {first second : RunEvent} (here : first ∈ tables.events)
    (there : second ∈ tables.events) {review review' : ComparisonReview}
    (body : first.body = .visualReviewed review) (body' : second.body = .visualReviewed review')
    (same : uuid review.deliveryId = uuid review'.deliveryId) : first = second := by
  have proper := lawful.proper first here
  have proper' := lawful.proper second there
  simp only [Proper, body] at proper
  simp only [Proper, body'] at proper'
  obtain ⟨task, asked, made⟩ := proper
  obtain ⟨task', asked', made'⟩ := proper'
  exact lawful.once first here second there review review' body body'
    (spelled task _ task' _ made.arrived made'.arrived same)

theorem Lawful.pictured {arrives : Call → Prop} {tables : Tables}
    (lawful : Lawful platform arrives tables) {event : RunEvent} {review : ComparisonReview}
    (member : event ∈ tables.events) (body : event.body = .visualReviewed review)
    {task : AgentRuntimeTask} {bindingIds : List String} {fresh deliveryId : String}
    {images : List EvidenceImage}
    (done : Done platform (.images task bindingIds fresh) (.ok (.images deliveryId images)) tables)
    (same : uuid deliveryId = uuid review.deliveryId) :
    ∀ id ∈ idsOf review.toComparisonInput, id ∈ images.map EvidenceImage.bindingId := by
  have proper := lawful.proper event member
  simp only [Proper, body] at proper
  obtain ⟨reviewer, asked, made⟩ := proper
  obtain ⟨shown, here, payload, prepared, id, -, within⟩ := made.justified.shown
  obtain ⟨loaded, shown', here', id', -, prepared'⟩ := done
  have one : shown' = shown :=
    List.inj_on_of_nodup_map lawful.events here' here (by rw [id', id, same])
  rw [one, prepared] at prepared'
  cases prepared'
  rw [loaded]
  exact within

/-- In every run in which no two comparisons spell one delivery differently, requests and
    deliveries are settled once, what is stored stays, a refused call changes nothing, and a
    repeated comparison gets its review again as long as its lease holds. -/
theorem deliveries_reviewed_once (apart : ApartDigests platform.sha256)
    (spelled : OneSpelling moves) :
    Settled platform (reached platform moves) ∧
      (∀ first later, moves = first ++ later →
        (reached platform first).shared.events <+: (reached platform moves).shared.events) ∧
      (∀ first place later call failure, moves = first ++ .tick place :: later →
        (reached platform moves).Answered place call (.error failure) →
          (reached platform (first ++ [.tick place])).shared = (reached platform first).shared) ∧
      ∀ first later place task input review,
        moves = first ++ .start (.compare task input) :: later →
          (reached platform first).Answered place (.compare task input) (.ok (.reviewed review)) →
            ∀ result, (reached platform moves).Answered (reached platform first).running.length
              (.compare task input) result → Repeats review result := by
  have orderly : System.Orderly (Lawful platform (ArrivesIn moves)) Later (Done platform)
      (reached platform moves) := reached_orderly apart fun _ member => member
  have lawful := orderly.shared
  refine ⟨?_, ?_, ?_, ?_⟩
  · have reviewed : ∀ place task input answer,
        (reached platform moves).Answered place (.compare task input) (.ok answer) →
          ∃ event ∈ (reached platform moves).shared.events, ∃ review,
            event.body = .visualReviewed review ∧ answer = .reviewed review ∧
              review.toComparisonInput = input := by
      intro place task input answer answered
      have done := orderly.answered answered
      cases answer with
      | reviewed review =>
          obtain ⟨same, ⟨event, member, -, body⟩, -⟩ := done
          exact ⟨event, member, review, body, rfl, same⟩
      | _ => exact done.elim
    refine ⟨?_, ?_, ?_, reviewed, ?_, ?_, ?_⟩
    · intro first here second there delivery delivery' body body' same
      exact lawful.delivered_once here there body body' same
    · intro place task input answer answered
      have done := orderly.answered answered
      cases answer with
      | accepted => exact done
      | _ => exact done.elim
    · intro first here second there review review' body body' same
      exact lawful.reviewed_once spelled here there body body' same
    · intro event member review body place task input result answered same different
      cases result with
      | error failure => exact ⟨failure, rfl⟩
      | ok answer =>
          obtain ⟨event', member', review', body', -, rfl⟩ :=
            reviewed place task input answer answered
          have one := lawful.reviewed_once spelled member' member body' body same
          rw [one, body] at body'
          cases body'
          exact absurd rfl different
    · intro event member review body
      have proper := lawful.proper event member
      simp only [Proper, body] at proper
      obtain ⟨task, asked, made⟩ := proper
      exact ⟨task, asked, made.justified⟩
    · intro event member review body place task bindingIds fresh deliveryId images answered same
      exact lawful.pictured member body (orderly.answered answered) same
  · rintro first later rfl
    have before : System.Orderly (Lawful platform (ArrivesIn (first ++ later))) Later
        (Done platform) (reached platform first) :=
      reached_orderly apart fun _ member => List.mem_append_left _ member
    rw [reached_append]
    exact (System.orderly_run (serve_rules apart) before fun _ member =>
      List.mem_append_right _ member).2.events
  · rintro first place later call failure rfl answered
    have before : System.Careful (fun call => fun state after rest => after ≠ state →
        ∃ result, rest = .answer result ∧ Accepts call result) (reached platform first) :=
      System.careful_run (careful platform) (fun _ member => by cases member) first
    rw [reached_append] at answered ⊢
    refine System.refused_changes_nothing before ?_ answered
    rintro ⟨answer, accepted⟩
    cases accepted
  · rintro first later place task input review rfl answered result final
    let arrives := ArrivesIn (first ++ .start (.compare task input) :: later)
    have before : System.Orderly (Lawful platform arrives) Later (Done platform)
        (reached platform first) :=
      reached_orderly apart fun _ member => List.mem_append_left _ member
    have here : ∀ call, (.start (.compare task input) : SystemMove Call Change) = .start call →
        arrives call := by
      rintro call same
      cases same
      exact List.mem_append_right _ (List.mem_cons_self ..)
    have started := (System.orderly_step (serve_rules apart) before here).1
    obtain ⟨same, ⟨event, member, ours, body⟩, asked, checked⟩ := before.answered answered
    have repeats : (compare platform task input).Obeys (Lawful platform arrives) Later
        (fun result _ => Repeats review result) (reached platform first).shared :=
      compare_repeats checked member body ours same
    have arrived : (System.step (serve platform) changed (.start (.compare task input))
        (reached platform first)).state.running[(reached platform first).running.length]? =
        some { call := .compare task input, program := compare platform task input } := by
      simp [System.step, serve]
    obtain ⟨rest, left, obeys⟩ := System.place_run (serve_rules apart)
      (fun _ _ _ _ _ kept => kept) started ⟨_, arrived, repeats⟩
      fun call member => List.mem_append_right _ (List.mem_cons_of_mem _ member)
    rw [reached_append] at final
    have program := left.symm.trans final
    simp only [Option.some.injEq, Running.mk.injEq, true_and] at program
    rw [program] at obeys
    exact obeys

end Settling

/-! One pair of images, compared under its id in small letters and in capitals. -/

def toolbar : ReviewContract where
  targets :=
    [.v3 { targetId := "current", label := "Current toolbar", identity := { text := "Toolbar" }
           phase := .current, assertions := [], requiredEvidenceKinds := [.screenshot] },
     .v3 { targetId := "reference", label := "Reference toolbar", identity := { text := "Toolbar" }
           phase := .reopened, assertions := [], requiredEvidenceKinds := [.screenshot] }]
  comparisons :=
    [{ comparisonId := "same-toolbar", subjectTargetId := "current"
       referenceTargetId := "reference", dimensions := ["layout"] }]

def reviewer : AgentRuntimeTask where
  id := "7f3a1c52-94be-4d07-8a61-2c5d9e0b41f8"
  runId := "0b9e6d14-3f72-4c8a-9d55-61a7e8c2b390"
  attemptId := "5c20d7e9-18ab-4f36-b1c4-9e83f5a6d072"
  fencingToken := 1
  leaseToken := some "e1d4b8a6-72c3-4590-8f1e-3ab6c9d05274"
  leaseOwner := some "worker-1"
  snapshot := {
    teamId := "c84f02b1-6e9d-4a73-b5d8-17f0a2e3c946"
    criteria := [{ id := "toolbar", observationContract := some toolbar }] }

def currentId : String := "a6b1f3d8-2e47-4c95-9a0b-d7c8e5f41263"
def referenceId : String := "d93c7a05-b8f6-4e12-8c74-0f5b2a9e6d1c"
def deliveryId : String := "3e8d5b7c-f0a2-4196-b3e7-c4d9a1f6082b"
def upperDeliveryId : String := "3E8D5B7C-F0A2-4196-B3E7-C4D9A1F6082B"

def delivering (request : String) (delivery : String) : DeliverInput :=
  { modelRequestId := request, bindingIds := [currentId, referenceId]
    imageDeliveryId := some delivery }

def comparing (delivery : String) (verdict : ReviewVerdict) : ComparisonInput :=
  { comparisonId := "same-toolbar", bindingIds := (currentId, referenceId), deliveryId := delivery
    verdict, rationale := "Both toolbars", dimensions := ["layout"] }

def firstRequest : String := "16f4c9e2-5d83-47ab-92c0-e7b8a3d5f614"
def secondRequest : String := "b27e90d5-84c1-4f6a-a3d9-5e0c1f72b8a6"

def marked (char : Char) : List Char :=
  [char.toLower, if char.toLower = char then '0' else '1']

def standIn (text : String) : String :=
  String.ofList (List.replicate 65 '0' ++ text.toList.flatMap marked)

def smallKey : String :=
  "[\"5c20d7e9-18ab-4f36-b1c4-9e83f5a6d072\",\"3e8d5b7c-f0a2-4196-b3e7-c4d9a1f6082b\"]"

def capitalKey : String :=
  "[\"5c20d7e9-18ab-4f36-b1c4-9e83f5a6d072\",\"3E8D5B7C-F0A2-4196-B3E7-C4D9A1F6082B\"]"

def smallDigest : String := "d1e1d5325ee33c2c108421cc8686de19f30f516417bc63aae6ac3a4add1519da"

def capitalDigest : String := "99ae90c16f32b2447f0292fddbe439f561cc50c729bc81b7cb17b147bc6dd237"

/-- Digests of the review keys in use; every other text has a longer stand-in of its own. -/
def reviewDigest (text : String) : String :=
  if text = smallKey then smallDigest
  else if text = capitalKey then capitalDigest
  else standIn text

def reviewPlatform : Platform where
  sha256 := reviewDigest
  contractDigest _ := "d70bf8d635135ed5ef55b5d0d9c14424acbcfee18c0a68edb85448c1e0d3fa6e"
  byteLength bindings := 2 + 900 * bindings.length

def savedToolbar (id targetId captureId evidenceRef : String) (phase : TargetPhase) :
    BindingRow where
  id
  runId := reviewer.runId
  attemptId := reviewer.attemptId
  createdAt := 0
  facts := {
    targetId, scopeIdentity := "page", entityKey := "toolbar", phase, phaseProven := true
    regionEpoch := none, facts := [], evaluation := .matched, readiness := .ready, reasons := []
    id, criterionId := "toolbar"
    contractDigest := "d70bf8d635135ed5ef55b5d0d9c14424acbcfee18c0a68edb85448c1e0d3fa6e"
    captureId, evidenceRefs := [evidenceRef] }

def currentCapture : String := "92b7e4c0-3d18-4f5a-86e9-b0c1d7a3f524"
def referenceCapture : String := "f05a6c3e-7b91-42d8-a4e0-8c9d1b5f7236"

def screenshotOf (externalId artifactId captureId storageKey : String) : RunEvidence where
  runId := reviewer.runId
  attemptId := reviewer.attemptId
  externalId
  kind := .screenshot
  runtimeArtifact := some {
    id := artifactId, byteSize := 3, contentType := "image/png", sha256 := none, storageKey
    captureId := some captureId
    visualObservation := some {
      observationId := captureId, capturedAt := "2026-01-01T00:00:00.000Z"
      width := 1280, height := 720 } }

def leased : LeaseRow where
  id := reviewer.id
  attemptId := reviewer.attemptId
  fencingToken := 1
  leaseToken := reviewer.leaseToken
  leaseOwner := reviewer.leaseOwner
  leaseExpiresAt := some 60000
  status := .running
  runLifecycle := .running

def shownTables : Tables where
  now := 0
  tasks := [leased]
  bindings :=
    [savedToolbar currentId "current" currentCapture "current-shot" .current,
      savedToolbar referenceId "reference" referenceCapture "reference-shot" .reopened]
  evidence :=
    [screenshotOf "current-shot" "4d0f8b2a-c6e1-4973-b5a8-29e7d3c0f1b6" currentCapture "current",
      screenshotOf "reference-shot" "e7c3a9d5-08f4-4b62-9d1e-6a5b0c8f2347" referenceCapture
        "reference"]
  objects := [("current", ⟨"AAAA", 3, ""⟩), ("reference", ⟨"AAAB", 3, ""⟩)]
  events := []

def captured : List (SystemMove Call Change) :=
  [.change (.surroundings 0 [leased] shownTables.evidence shownTables.objects)] ++
    shownTables.bindings.map fun row => .change (.bind row)

def toolbarAsked : Requested where
  criterion := { id := "toolbar", observationContract := some toolbar }
  contract := toolbar
  requirement := { comparisonId := "same-toolbar", subjectTargetId := "current"
                   referenceTargetId := "reference", dimensions := ["layout"] }

def preparedImages : ImagesPrepared :=
  { bindingIds := [currentId, referenceId], fencingToken := "1" }

def preparedEvent : RunEvent :=
  { id := deliveryId, teamId := reviewer.snapshot.teamId, runId := reviewer.runId
    attemptId := reviewer.attemptId, taskId := reviewer.id, actor := .api
    body := .imagesPrepared preparedImages }

def shownRun : List (SystemMove Call Change) :=
  captured ++ .start (.images reviewer [currentId, referenceId] deliveryId) ::
    List.replicate 6 (.tick 0)

def delivered (request delivery : String) : RunEvent :=
  eventOf reviewer request .agentRuntime
    (.modelDelivered (deliveryOf reviewer (delivering request delivery)))

def reviewed (delivery : String) (verdict : ReviewVerdict) : RunEvent :=
  eventOf reviewer (reviewIdOf reviewPlatform reviewer delivery) .agentRuntime
    (.visualReviewed (reviewFor reviewPlatform reviewer toolbarAsked (comparing delivery verdict)))

def comparedRun : List (SystemMove Call Change) :=
  (shownRun ++ .start (.deliver reviewer (delivering firstRequest deliveryId)) ::
    List.replicate 3 (.tick 1)) ++
    .start (.compare reviewer (comparing deliveryId .equivalent)) :: List.replicate 4 (.tick 2)

def comparedTwice : List (SystemMove Call Change) :=
  (comparedRun ++ .start (.deliver reviewer (delivering secondRequest upperDeliveryId)) ::
    List.replicate 3 (.tick 3)) ++
    .start (.compare reviewer (comparing upperDeliveryId .different)) :: List.replicate 4 (.tick 4)

def tablesWith (events : List RunEvent) : Tables := { shownTables with events }

theorem comparedRun_reached :
    (reached reviewPlatform comparedRun).shared = tablesWith [preparedEvent,
        delivered firstRequest deliveryId, reviewed deliveryId .equivalent] ∧
      (reached reviewPlatform comparedRun).running.length = 3 := by
  have shown : (reached reviewPlatform shownRun).shared = tablesWith [preparedEvent] ∧
      (reached reviewPlatform shownRun).running.length = 1 := ⟨rfl, rfl⟩
  have sends : (deliver reviewPlatform reviewer (delivering firstRequest deliveryId)).alone 3
      (tablesWith [preparedEvent]) =
        (tablesWith [preparedEvent, delivered firstRequest deliveryId], .answer (.ok .accepted)) :=
    deliver_alone (by decide +kernel) rfl
      (by decide +kernel : imagesPrepared reviewer deliveryId (tablesWith [preparedEvent]) =
        some preparedImages) (by decide +kernel) (by decide +kernel) (by decide +kernel)
  have checked : Checked reviewPlatform reviewer toolbarAsked (comparing deliveryId .equivalent)
      (tablesWith [preparedEvent, delivered firstRequest deliveryId]) :=
    ⟨rfl, by decide +kernel, by decide +kernel, fun _ named => by cases named⟩
  exact reached_next (reached_next shown sends)
    (compare_alone checked rfl (by decide +kernel) (by decide +kernel) (by decide +kernel))

theorem comparedTwice_reached :
    (reached reviewPlatform comparedTwice).shared = tablesWith [preparedEvent,
      delivered firstRequest deliveryId, reviewed deliveryId .equivalent,
      delivered secondRequest upperDeliveryId, reviewed upperDeliveryId .different] := by
  let earlier := [preparedEvent, delivered firstRequest deliveryId,
    reviewed deliveryId .equivalent]
  let between := tablesWith (earlier ++ [delivered secondRequest upperDeliveryId])
  have sends : (serve reviewPlatform
      (.deliver reviewer (delivering secondRequest upperDeliveryId))).alone 3 (tablesWith earlier) =
        (between, .answer (.ok .accepted)) :=
    deliver_alone (by decide +kernel) rfl
      (by decide +kernel : imagesPrepared reviewer upperDeliveryId (tablesWith earlier) =
        some preparedImages) (by decide +kernel) (by decide +kernel) (by decide +kernel)
  have checked : Checked reviewPlatform reviewer toolbarAsked
      (comparing upperDeliveryId .different) between :=
    ⟨rfl, by decide +kernel, by decide +kernel, fun _ named => by cases named⟩
  have compares : (serve reviewPlatform
      (.compare reviewer (comparing upperDeliveryId .different))).alone 4 between =
        ({ between with events := between.events ++ [reviewed upperDeliveryId .different] },
          .answer (.ok (.reviewed (reviewFor reviewPlatform reviewer toolbarAsked
            (comparing upperDeliveryId .different))))) :=
    compare_alone checked rfl (by decide +kernel) (by decide +kernel) (by decide +kernel)
  have last := reached_next (reached_next comparedRun_reached sends) compares
  exact last.1

theorem toLower_inj {char other : Char} (capital : char.toLower ≠ char)
    (capital' : other.toLower ≠ other) (same : char.toLower = other.toLower) : char = other := by
  unfold Char.toLower at capital capital' same
  split at capital <;> split at capital' <;> try contradiction
  rename_i upper upper'
  rw [dif_pos upper, dif_pos upper'] at same
  have codes := congrArg Char.val same
  exact Char.ext (by simpa using codes)

theorem marked_injective {text other : List Char}
    (same : text.flatMap marked = other.flatMap marked) : text = other := by
  induction text generalizing other with
  | nil =>
      cases other with
      | nil => rfl
      | cons => simp [marked] at same
  | cons char rest ih =>
      cases other with
      | nil => simp [marked] at same
      | cons char' rest' =>
          simp only [List.flatMap_cons, marked, List.cons_append, List.nil_append,
            List.cons.injEq] at same
          obtain ⟨letter, mark, rests⟩ := same
          rw [ih rests]
          by_cases small : char.toLower = char <;> by_cases small' : char'.toLower = char'
          · rw [← small, ← small', letter]
          · simp [small, small'] at mark
          · simp [small, small'] at mark
          · rw [toLower_inj small small' letter]

theorem standIn_injective {text other : String} (same : standIn text = standIn other) :
    text = other := by
  have texts := List.append_cancel_left (String.ofList_injective same)
  exact String.toList_inj.mp (marked_injective texts)

theorem standIn_ne {text digest : String} (short : digest.toList.length = 64) :
    standIn text ≠ digest := by
  rintro rfl
  rw [standIn, String.toList_ofList, List.length_append, List.length_replicate] at short
  omega

theorem standIn_lowercase (text : String) : uuid (standIn text) = standIn text := by
  have marks : ∀ chars : List Char,
      (chars.flatMap marked).map Char.toLower = chars.flatMap marked := by
    intro chars
    induction chars with
    | nil => rfl
    | cons char rest ih =>
        simp only [List.flatMap_cons, List.map_append, ih, marked, List.map_cons,
          toLower_toLower, List.map_nil]
        split <;> rfl
  rw [uuid, standIn, String.toList_ofList, List.map_append, marks, List.map_replicate]
  rfl

theorem reviewDigest_cases (text : String) :
    text = smallKey ∧ reviewDigest text = smallDigest ∨
      text = capitalKey ∧ reviewDigest text = capitalDigest ∨
        reviewDigest text = standIn text := by
  by_cases small : text = smallKey
  · exact Or.inl ⟨small, if_pos small⟩
  · by_cases capital : text = capitalKey
    · exact Or.inr (Or.inl ⟨capital, (if_neg small).trans (if_pos capital)⟩)
    · exact Or.inr (Or.inr ((if_neg small).trans (if_neg capital)))

theorem reviewDigest_apart : ApartDigests reviewDigest where
  injective := by
    have small : smallDigest.toList.length = 64 := by decide
    have capital : capitalDigest.toList.length = 64 := by decide
    have differ : smallDigest ≠ capitalDigest := by decide
    intro first second same
    rcases reviewDigest_cases first with ⟨key, digest⟩ | ⟨key, digest⟩ | digest <;>
      rcases reviewDigest_cases second with ⟨key', digest'⟩ | ⟨key', digest'⟩ | digest' <;>
      rw [digest, digest'] at same
    · rw [key, key']
    · exact absurd same differ
    · exact absurd same.symm (standIn_ne small)
    · exact absurd same.symm differ
    · rw [key, key']
    · exact absurd same.symm (standIn_ne capital)
    · exact absurd same (standIn_ne small)
    · exact absurd same (standIn_ne capital)
    · exact standIn_injective same
  lowercase text := by
    rcases reviewDigest_cases text with ⟨-, digest⟩ | ⟨-, digest⟩ | digest <;> rw [digest]
    · decide +kernel
    · decide +kernel
    · exact standIn_lowercase text

theorem comparedRun_spelled : OneSpelling comparedRun := by
  have only : ∀ task input, SystemMove.start (.compare task input) ∈ comparedRun →
      input.deliveryId = deliveryId := by
    intro task input member
    simp [comparedRun, shownRun, captured] at member
    rw [member.2]
    rfl
  intro task input task' input' here there _
  rw [only task input here, only task' input' there]

theorem comparedRun_reviewed_once :
    Settled reviewPlatform (reached reviewPlatform comparedRun) ∧
      reviewed deliveryId .equivalent ∈ (reached reviewPlatform comparedRun).shared.events :=
  ⟨(deliveries_reviewed_once reviewDigest_apart comparedRun_spelled).1, by
    rw [comparedRun_reached.1]
    simp [tablesWith]⟩

/-- Spelled in two ways, one delivery is reviewed twice, to opposite verdicts. -/
theorem capitals_reviewed_twice :
    ApartDigests reviewPlatform.sha256 ∧
      ∃ first ∈ (reached reviewPlatform comparedTwice).shared.events,
        ∃ second ∈ (reached reviewPlatform comparedTwice).shared.events,
          ∃ review review', first.body = .visualReviewed review ∧
            second.body = .visualReviewed review' ∧
              uuid review.deliveryId = uuid review'.deliveryId ∧
                review.verdict = .equivalent ∧ review'.verdict = .different := by
  rw [comparedTwice_reached]
  refine ⟨reviewDigest_apart, reviewed deliveryId .equivalent, by simp [tablesWith],
    reviewed upperDeliveryId .different, by simp [tablesWith], _, _, rfl, rfl, ?_, rfl, rfl⟩
  decide +kernel

end ObservationBindings

end Devproof
