import Devproof.Observation.BoundEvidence

/-!
What the evidence of an attempt is worth after any calls: what may be submitted was shown to the
model, and a target's failures are counted for itself.
-/

namespace Devproof

namespace BoundEvidence

open Parsing

inductive Inside : Nat → Value → Value → Prop
  | here {depth : Nat} {value : Value} : Inside (depth + 1) value value
  | text {depth : Nat} {text : Text} {value part : Value} (opens : Evidence.opensJson text = true)
      (parsed : parse text = some value) (inside : Inside depth value part) :
      Inside (depth + 1) (.str text) part
  | item {depth : Nat} {items : List Value} {item part : Value} (member : item ∈ items)
      (inside : Inside depth item part) : Inside (depth + 1) (.arr items) part
  | member {depth : Nat} {members : List (Text × Value)} {entry : Text × Value} {part : Value}
      (listed : entry ∈ members) (inside : Inside depth entry.2 part) :
      Inside (depth + 1) (.obj members) part

variable {setting : Setting} {evidence : Evidence}

def Copied (setting : Setting) (evidence : Evidence) (messages : Value) (id : String) : Prop :=
  ∃ part parsed saved, Inside 31 messages part ∧ setting.readBinding part = some parsed ∧
    (id, saved) ∈ evidence.bindings ∧
    setting.bindingDigest parsed = setting.bindingDigest saved

theorem shown_copy {value : Value} {members : List (Text × Value)} {id : String}
    (shown : evidence.shown setting value members = some id) :
    ∃ parsed saved, setting.readBinding value = some parsed ∧ (id, saved) ∈ evidence.bindings ∧
      setting.bindingDigest parsed = setting.bindingDigest saved := by
  unfold Evidence.shown at shown
  split at shown
  next text named =>
    split at shown
    next found saved known =>
      split at shown
      next parsed read =>
        split at shown
        next same =>
          cases shown
          exact ⟨parsed, saved, read, List.mem_of_find?_eq_some known, same⟩
        next => cases shown
      next => cases shown
    next => cases shown
  next => cases shown

theorem inspect_inside {depth : Nat} {value : Value} {id : String}
    (found : id ∈ evidence.inspect setting depth value) :
    ∃ part parsed saved, Inside depth value part ∧ setting.readBinding part = some parsed ∧
      (id, saved) ∈ evidence.bindings ∧
      setting.bindingDigest parsed = setting.bindingDigest saved := by
  induction depth generalizing value with
  | zero => simp [Evidence.inspect] at found
  | succ depth ih =>
      cases value with
      | null => simp [Evidence.inspect] at found
      | bool value => simp [Evidence.inspect] at found
      | num value => simp [Evidence.inspect] at found
      | str text =>
          rw [Evidence.inspect] at found
          split at found
          next opens =>
            split at found
            next value parsed =>
              obtain ⟨part, copy, saved, inside, rest⟩ := ih found
              exact ⟨part, copy, saved, .text opens parsed inside, rest⟩
            next => cases found
          next => cases found
      | arr items =>
          rw [Evidence.inspect] at found
          obtain ⟨item, member, found⟩ := List.mem_flatMap.mp found
          obtain ⟨part, copy, saved, inside, rest⟩ := ih found
          exact ⟨part, copy, saved, .item member inside, rest⟩
      | obj members =>
          rw [Evidence.inspect] at found
          rcases List.mem_append.mp found with own | deeper
          · obtain ⟨parsed, saved, rest⟩ := shown_copy (Option.mem_toList.mp own)
            exact ⟨.obj members, parsed, saved, .here, rest⟩
          · obtain ⟨entry, member, found⟩ := List.mem_flatMap.mp deeper
            obtain ⟨part, copy, saved, inside, rest⟩ := ih found
            exact ⟨part, copy, saved, .member member inside, rest⟩

structure Lawful (setting : Setting) (bindings : List (String × Binding)) : Prop where
  distinct : (bindings.map Prod.fst).Nodup
  named : ∀ entry ∈ bindings, entry.2.id = entry.1
  own : ∀ entry ∈ bindings, entry.2.runId = setting.runId ∧
    entry.2.attemptId = setting.attemptId ∧
    ∃ contract, setting.contractOf entry.2.criterionId = some contract ∧
      entry.2.contractDigest = setting.contractDigest contract.toObservationContract

theorem addBinding_lawful (lawful : Lawful setting evidence.bindings) (binding : Binding) :
    Lawful setting (evidence.addBinding setting binding).bindings := by
  unfold Evidence.addBinding
  split
  next accepted =>
    obtain ⟨run, attempt, contract⟩ := accepted
    obtain ⟨known, found, digest⟩ := (Option.any_eq_true _ _).mp contract
    refine ⟨keys_setEntry lawful.distinct _ _, fun entry member => ?_, fun entry member => ?_⟩
    · rcases mem_setEntry member with rfl | former
      · rfl
      · exact lawful.named entry former
    · rcases mem_setEntry member with rfl | former
      · exact ⟨run, attempt, known, found, beq_iff_eq.mp digest⟩
      · exact lawful.own entry former
  next => exact lawful

structure Ingested (setting : Setting) (before after : Evidence) : Prop where
  lawful : Lawful setting before.bindings → Lawful setting after.bindings
  delivered : after.delivered = before.delivered
  failures : after.bindingFailures = before.bindingFailures

theorem Ingested.refl (evidence : Evidence) : Ingested setting evidence evidence :=
  ⟨id, rfl, rfl⟩

theorem Ingested.trans {first second third : Evidence} (here : Ingested setting first second)
    (there : Ingested setting second third) : Ingested setting first third :=
  ⟨there.lawful ∘ here.lawful, there.delivered.trans here.delivered,
    there.failures.trans here.failures⟩

theorem foldl_ingested {Item : Type} {add : Evidence → Item → Evidence}
    (each : ∀ evidence item, Ingested setting evidence (add evidence item)) (items : List Item)
    (evidence : Evidence) : Ingested setting evidence (items.foldl add evidence) :=
  foldl_invariant (Ingested setting evidence) (.refl evidence)
    fun state item _ kept => kept.trans (each state item)

theorem addDiagnostic_ingested (evidence : Evidence) (diagnostic : Diagnostic) :
    Ingested setting evidence (evidence.addDiagnostic setting diagnostic) := by
  unfold Evidence.addDiagnostic
  split <;> exact ⟨id, rfl, rfl⟩

theorem addBinding_ingested (evidence : Evidence) (binding : Binding) :
    Ingested setting evidence (evidence.addBinding setting binding) := by
  refine ⟨fun lawful => addBinding_lawful lawful binding, ?_, ?_⟩ <;>
    (unfold Evidence.addBinding; split <;> rfl)

theorem addReview_ingested (evidence : Evidence) (review : VisualComparisonReview) :
    Ingested setting evidence (evidence.addReview setting review) := by
  unfold Evidence.addReview
  split <;> exact ⟨id, rfl, rfl⟩

theorem ingest_ingested (setting : Setting) (evidence : Evidence) (response : Response) :
    Ingested setting evidence (evidence.ingest setting response) :=
  ((foldl_ingested addDiagnostic_ingested _ evidence).trans
    (foldl_ingested addBinding_ingested _ _)).trans (foldl_ingested addReview_ingested _ _)

def Shown (setting : Setting) (calls : List Call) (id : String) : Prop :=
  ∃ before messages currentImage after,
    calls = before ++ .deliveredRequest messages currentImage :: after ∧
    Copied setting (gathered setting before) messages id

theorem Shown.later {calls : List Call} {id : String} (shown : Shown setting calls id)
    (call : Call) : Shown setting (calls ++ [call]) id := by
  obtain ⟨before, messages, currentImage, after, rfl, copied⟩ := shown
  exact ⟨before, messages, currentImage, after ++ [call], by simp, copied⟩

structure Traced (setting : Setting) (calls : List Call) (evidence : Evidence) : Prop where
  reached : evidence = gathered setting calls
  lawful : Lawful setting evidence.bindings
  shown : ∀ id ∈ evidence.delivered, Shown setting calls id

theorem serve_traced (calls : List Call) (call : Call) (evidence : Evidence)
    (traced : Traced setting calls evidence) :
    Traced setting (calls ++ [call]) (serve setting call evidence).1 := by
  have reached : (serve setting call evidence).1 = gathered setting (calls ++ [call]) := by
    rw [gathered, Refinement.final_snoc, traced.reached, gathered]
  have still : ∀ next : Evidence, (serve setting call evidence).1 = next →
      Lawful setting next.bindings → next.delivered = evidence.delivered →
      Traced setting (calls ++ [call]) (serve setting call evidence).1 := by
    rintro next rfl lawful same
    exact ⟨reached, lawful, fun id member => (traced.shown id (same ▸ member)).later call⟩
  cases call with
  | bindingResult targetId stateKey response =>
      refine still _ rfl ?_ ?_ <;>
        (simp only [serve, Evidence.bindingResult]; split)
      · exact traced.lawful
      · exact traced.lawful
      · rfl
      · rfl
  | ingest response =>
      have kept := ingest_ingested setting evidence response
      exact still _ rfl (kept.lawful traced.lawful) kept.delivered
  | imageResponse read => exact still _ rfl traced.lawful rfl
  | review review => exact still _ rfl traced.lawful rfl
  | clearImages => exact still _ rfl traced.lawful rfl
  | deliveredRequest messages currentImage =>
      refine ⟨reached, traced.lawful, fun id member => ?_⟩
      simp only [serve, Evidence.deliveredRequest, mem_uniq, List.mem_append] at member
      rcases member with former | now
      · exact (traced.shown id former).later _
      · obtain ⟨part, parsed, saved, copied⟩ := inspect_inside now
        rw [traced.reached] at copied
        exact ⟨calls, messages, currentImage, [], rfl, part, parsed, saved, copied⟩

theorem gathered_traced (setting : Setting) (calls : List Call) :
    Traced setting calls (gathered setting calls) := by
  have start : Traced setting [] {} :=
    ⟨rfl, ⟨List.nodup_nil, List.forall_mem_nil _, List.forall_mem_nil _⟩, List.forall_mem_nil _⟩
  exact Refinement.history start serve_traced calls

theorem Lawful.getEntry {bindings : List (String × Binding)} (lawful : Lawful setting bindings)
    {entry : String × Binding} (member : entry ∈ bindings) :
    getEntry bindings entry.1 = some entry.2 := by
  have distinct := lawful.distinct
  clear lawful
  induction bindings with
  | nil => cases member
  | cons first rest ih =>
      obtain ⟨key, value⟩ := first
      obtain ⟨absent, distinct⟩ := List.nodup_cons.mp distinct
      rw [Devproof.getEntry, lookup_entry]
      rcases List.mem_cons.mp member with rfl | later
      · rw [if_pos rfl]
      · have other : entry.1 ≠ key := by
          rintro rfl
          exact absent (List.mem_map.mpr ⟨entry, later, rfl⟩)
        rw [if_neg other]
        exact ih later distinct

/-- What may be cited for a criterion: a saved binding of it, of this attempt, that was shown. -/
def Citable (setting : Setting) (calls : List Call) (criterionId id : String) : Prop :=
  Shown setting calls id ∧ ∃ binding, getEntry (gathered setting calls).bindings id = some binding ∧
    binding.criterionId = criterionId ∧ binding.runId = setting.runId ∧
    binding.attemptId = setting.attemptId

theorem Traced.citable {calls : List Call} {entry : String × Binding}
    (traced : Traced setting calls (gathered setting calls))
    (member : entry ∈ (gathered setting calls).bindings)
    (delivered : entry.1 ∈ (gathered setting calls).delivered) :
    Citable setting calls entry.2.criterionId entry.1 := by
  obtain ⟨run, attempt, -⟩ := traced.lawful.own entry member
  exact ⟨traced.shown _ delivered, entry.2, traced.lawful.getEntry member, rfl, run, attempt⟩

theorem hasDelivered_mem {ids : List String} (delivered : evidence.hasDelivered ids = true)
    {id : String} (member : id ∈ ids) : id ∈ evidence.delivered := by
  have both := List.all_eq_true.mp delivered id member
  simp only [Bool.and_eq_true, List.contains_eq_mem, decide_eq_true_eq] at both
  exact both.1

/-- A verdict without an error cites saved bindings of its criterion only. -/
theorem judged_saved {contract : ObservationContract} {criterionId status : String}
    {citation : Citation}
    (fine : (evidence.judged setting contract criterionId).boundCriterionError status citation =
      none) {id : String} (cited : id ∈ citation.bindingIds) :
    ∃ entry ∈ evidence.bindings, entry.2.id = id ∧ entry.2.criterionId = criterionId := by
  unfold Criterion.boundCriterionError at fine
  split at fine
  next => cases fine
  next available =>
    simp only [List.any_eq_true, Bool.not_eq_true', not_exists, not_and,
      Bool.not_eq_false] at available
    obtain ⟨binding, selected, same⟩ := List.any_eq_true.mp (available id cited)
    obtain ⟨owned, -⟩ := List.mem_filter.mp selected
    obtain ⟨stored, own⟩ := List.mem_filter.mp owned
    obtain ⟨entry, member, rfl⟩ := List.mem_map.mp stored
    simp only [Bool.and_eq_true, beq_iff_eq] at own
    exact ⟨entry, member, beq_iff_eq.mp same, own.1⟩

theorem submissionRefs_cited {criterionId : String} {citation : Citation}
    (given : evidence.submissionRefs setting criterionId = some citation) {id : String}
    (cited : id ∈ citation.bindingIds) :
    ∃ entry ∈ evidence.bindings, entry.2.id = id ∧ entry.2.criterionId = criterionId ∧
      entry.2.readiness = .ready ∧ id ∈ evidence.delivered := by
  unfold Evidence.submissionRefs at given
  split at given
  next contract found =>
    split at given
    next => cases given
    next =>
      cases given
      obtain ⟨binding, kept, rfl⟩ := List.mem_map.mp cited
      obtain ⟨stored, chosen⟩ := List.mem_filter.mp kept
      obtain ⟨entry, member, rfl⟩ := List.mem_map.mp stored
      simp only [Bool.and_eq_true, beq_iff_eq, List.contains_eq_mem, decide_eq_true_eq,
        ready] at chosen
      exact ⟨entry, member, rfl, chosen.1.1, chosen.1.2, chosen.2⟩
  next => cases given

theorem submissionRefs_reviewed {criterionId : String} {citation : Citation}
    (given : evidence.submissionRefs setting criterionId = some citation) {id : String}
    (cited : id ∈ citation.comparisonReviewIds) :
    ∃ entry ∈ evidence.reviews, entry.2.id = id ∧ entry.2.criterionId = criterionId ∧
      entry.2.bindingIds ⊆ citation.bindingIds ∧
      ∀ other ∈ evidence.reviews, stamp other.2.supersedesReviewId ≠ some id := by
  unfold Evidence.submissionRefs at given
  split at given
  next contract found =>
    split at given
    next => cases given
    next =>
      cases given
      obtain ⟨review, kept, rfl⟩ := List.mem_map.mp cited
      obtain ⟨stored, chosen⟩ := List.mem_filter.mp kept
      obtain ⟨entry, member, rfl⟩ := List.mem_map.mp stored
      simp only [Bool.and_eq_true, beq_iff_eq, Bool.not_eq_true', List.all_eq_true] at chosen
      obtain ⟨⟨own, standing⟩, about⟩ := chosen
      refine ⟨entry, member, rfl, own, fun bound listed => ?_, fun other listed supersedes => ?_⟩
      · simpa using about bound listed
      · have named : entry.2.id ∈ (evidence.reviews.map Prod.snd).filterMap
            fun review => stamp review.supersedesReviewId :=
          List.mem_filterMap.mpr ⟨other.2, List.mem_map.mpr ⟨other, listed, rfl⟩, supersedes⟩
        simp only [List.contains_eq_mem, decide_eq_false_iff_not] at standing
        exact standing named
  next => cases given

/-- After any calls: the bindings that may be submitted for a criterion are ready and citable, and
    the reviews are not superseded and only of such bindings; and a verdict that is accepted cites
    citable bindings only, and its evidence is theirs. -/
theorem submissions_shown (setting : Setting) (calls : List Call) :
    let evidence := gathered setting calls
    (∀ criterionId citation, evidence.submissionRefs setting criterionId = some citation →
      evidence.hasDelivered citation.bindingIds = true ∧
      (∀ id ∈ citation.bindingIds, Citable setting calls criterionId id ∧
        ∃ binding, getEntry evidence.bindings id = some binding ∧ binding.readiness = .ready) ∧
      ∀ id ∈ citation.comparisonReviewIds, ∃ entry ∈ evidence.reviews, entry.2.id = id ∧
        entry.2.criterionId = criterionId ∧ entry.2.bindingIds ⊆ citation.bindingIds ∧
        ∀ other ∈ evidence.reviews, stamp other.2.supersedesReviewId ≠ some id) ∧
    ∀ criterionId status citation refs, (setting.contractOf criterionId).isSome = true →
      evidence.resolve setting criterionId status citation = .ok refs →
      (∀ id ∈ citation.bindingIds, Citable setting calls criterionId id) ∧
      ∀ ref ∈ refs, ∃ id ∈ citation.bindingIds, ∃ binding,
        getEntry evidence.bindings id = some binding ∧ ref ∈ binding.evidenceRefs := by
  intro evidence
  have traced := gathered_traced setting calls
  refine ⟨fun criterionId citation given => ?_,
    fun criterionId status citation refs known given => ?_⟩
  · have saved : ∀ id ∈ citation.bindingIds, id ∈ evidence.delivered ∧ ∃ binding,
        getEntry evidence.bindings id = some binding ∧ binding.criterionId = criterionId ∧
        binding.readiness = .ready := by
      intro id cited
      obtain ⟨entry, member, rfl, own, ready, delivered⟩ := submissionRefs_cited given cited
      rw [traced.lawful.named entry member] at delivered ⊢
      exact ⟨delivered, entry.2, traced.lawful.getEntry member, own, ready⟩
    refine ⟨List.all_eq_true.mpr fun id cited => ?_, fun id cited => ?_,
      fun id cited => submissionRefs_reviewed given cited⟩
    · obtain ⟨delivered, binding, found, -⟩ := saved id cited
      simp [delivered, found]
    · obtain ⟨delivered, binding, found, own, ready⟩ := saved id cited
      have citable := traced.citable (mem_of_getEntry found) delivered
      rw [own] at citable
      exact ⟨citable, binding, found, ready⟩
  · unfold Evidence.resolve at given
    split at given
    next none =>
      rw [none] at known
      cases known
    next contract found =>
      split at given
      next => cases given
      next delivered =>
        split at given
        next => cases given
        next fine =>
          cases given
          have shown := Bool.eq_true_of_not_eq_false delivered
          refine ⟨fun id cited => ?_, fun ref listed => ?_⟩
          · obtain ⟨entry, member, rfl, own⟩ := judged_saved fine cited
            rw [traced.lawful.named entry member] at cited ⊢
            rw [← own]
            exact traced.citable member (hasDelivered_mem shown cited)
          · obtain ⟨id, cited, listed⟩ := List.mem_flatMap.mp (mem_uniq.mp listed)
            refine ⟨id, cited, ?_⟩
            cases saved : getEntry evidence.bindings id with
            | none => simp [evidence, saved] at listed
            | some binding => exact ⟨binding, rfl, by simpa [evidence, saved] using listed⟩

/-- How often the target failed in this state since it was ready or in another one; the latest
    call comes first. -/
def failuresBefore (targetId stateKey : String) : List Call → Nat
  | [] => 0
  | .bindingResult other key response :: earlier =>
      if other = targetId then
        if response.anyReady targetId then 0
        else if key = stateKey then failuresBefore targetId stateKey earlier + 1
        else 0
      else failuresBefore targetId stateKey earlier
  | _ :: earlier => failuresBefore targetId stateKey earlier

def Counted (calls : List Call) (evidence : Evidence) : Prop :=
  ∀ targetId stateKey, evidence.attempts targetId stateKey =
    failuresBefore targetId stateKey calls.reverse + 1

theorem bindingResult_counted {calls : List Call} (counted : Counted calls evidence)
    (targetId stateKey : String) (response : BindingResponse) :
    Counted (calls ++ [.bindingResult targetId stateKey response])
      (evidence.bindingResult setting targetId stateKey response).1 := by
  intro target key
  rw [List.reverse_append, List.reverse_singleton, List.singleton_append, failuresBefore]
  unfold Evidence.bindingResult
  by_cases own : targetId = target
  · subst own
    split
    next reached =>
      simp [Evidence.attempts, getEntry_deleteEntry]
    next failed =>
      by_cases same : stateKey = key
      · subst same
        simp [Evidence.attempts, getEntry_setEntry, ← counted targetId stateKey]
      · simp [Evidence.attempts, getEntry_setEntry, same]
  · rw [if_neg own, ← counted target key]
    split
    next => simp [Evidence.attempts, getEntry_deleteEntry, Ne.symm own]
    next => simp [Evidence.attempts, getEntry_setEntry, Ne.symm own]

theorem serve_counted (setting : Setting) (calls : List Call) (call : Call)
    (evidence : Evidence) (counted : Counted calls evidence) :
    Counted (calls ++ [call]) (serve setting call evidence).1 := by
  have still : ∀ next : Evidence, next.bindingFailures = evidence.bindingFailures →
      (∀ targetId stateKey, failuresBefore targetId stateKey (call :: calls.reverse) =
        failuresBefore targetId stateKey calls.reverse) → Counted (calls ++ [call]) next := by
    intro next same quiet targetId stateKey
    rw [List.reverse_append, List.reverse_singleton, List.singleton_append, quiet,
      ← counted targetId stateKey, Evidence.attempts, same, Evidence.attempts]
  cases call with
  | bindingResult targetId stateKey response =>
      exact bindingResult_counted counted targetId stateKey response
  | ingest response =>
      exact still _ (ingest_ingested setting evidence response).failures
        fun _ _ => rfl
  | imageResponse read => exact still _ rfl fun _ _ => rfl
  | review review => exact still _ rfl fun _ _ => rfl
  | clearImages => exact still _ rfl fun _ _ => rfl
  | deliveredRequest messages currentImage => exact still _ rfl fun _ _ => rfl

/-- After any calls: a target without a ready binding is told its failures in a row in this state,
    and that it may not be tried again exactly when the service says so, the expected state has
    another type, or this is the third one. -/
theorem failures_counted (setting : Setting) (calls : List Call) :
    let evidence := gathered setting calls
    ∀ targetId stateKey response,
      let result := (evidence.bindingResult setting targetId stateKey response).2
      let failures := failuresBefore targetId stateKey calls.reverse + 1
      result.accepted = response.anyReady targetId ∧
      result.attempts = (if response.anyReady targetId then none else some failures) ∧
      (result.retryable = some false ↔ response.anyReady targetId = false ∧
        (response.terminal = true ∨ response.invalidStateType targetId = true ∨ 3 ≤ failures)) := by
  intro evidence targetId stateKey response result failures
  have start : Counted [] ({} : Evidence) := fun _ _ => rfl
  have counted : evidence.attempts targetId stateKey = failures :=
    Refinement.history start (serve_counted setting) calls targetId stateKey
  cases reached : response.anyReady targetId with
  | true => simp [result, Evidence.bindingResult, reached]
  | false =>
      refine ⟨by simp [result, Evidence.bindingResult, reached],
        by simp [result, Evidence.bindingResult, reached, counted], ?_⟩
      have told : result.retryable = some !(response.terminal ||
          response.invalidStateType targetId || decide (3 ≤ failures)) := by
        simp [result, Evidence.bindingResult, reached, counted]
      rw [told]
      simp only [Option.some.injEq, Bool.not_eq_false', Bool.or_eq_true, decide_eq_true_eq, true_and,
        or_assoc]

end BoundEvidence

end Devproof
