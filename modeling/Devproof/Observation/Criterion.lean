import Devproof.Observation.Verdict

/-!
The verdict of a criterion on its saved bindings and reviews (`observationCoverage`,
`boundCriterionError`), and when the same evidence supports both verdicts.
-/

namespace Devproof

inductive CoverageReadiness where
  | conflict
  | ready
  | partly
  | missing
  deriving Repr, DecidableEq

structure TargetCoverage where
  targetId : String
  label : String
  readiness : CoverageReadiness
  evaluation : Evaluation
  bindingIds : List String
  reasons : List String
  deriving Repr, DecidableEq

def isReady (binding : ObservationBinding) : Bool := binding.readiness == .ready

def bindingsFor (targetId : String) (bindings : List ObservationBinding) :
    List ObservationBinding :=
  bindings.filter fun binding => binding.targetId == targetId

def contradicts (left right : ObservationBinding) : Bool :=
  left.entityKey == right.entityKey && left.phase == right.phase &&
    left.evaluation != right.evaluation

def hasConflict (targetId : String) (bindings : List ObservationBinding) : Bool :=
  let ready := (bindingsFor targetId bindings).filter isReady
  ready.any fun left => ready.any (contradicts left)

def targetCoverage (bindings : List ObservationBinding) (target : ObservationTarget) :
    TargetCoverage :=
  let facts := bindingsFor target.targetId bindings
  let ready := facts.filter isReady
  let mismatched := ready.filter fun binding => binding.evaluation == .mismatched
  let conflict := hasConflict target.targetId bindings
  { targetId := target.targetId
    label := target.label
    readiness :=
      if conflict then .conflict
      else if !ready.isEmpty then .ready
      else if !facts.isEmpty then .partly
      else .missing
    evaluation :=
      if conflict then .unknown
      else
        match ready.getLast? with
        | some binding => binding.evaluation
        | none => .unknown
    bindingIds :=
      uniq (((ready.head?.toList ++ ready.getLast?.toList ++ mismatched.take 2 ++
        facts.getLast?.toList).map (·.id)).filter (· != ""))
    reasons :=
      match facts.getLast? with
      | some binding => uniq binding.reasons
      | none => [] }

def observationCoverage (contract : ObservationContract) (bindings : List ObservationBinding) :
    List TargetCoverage :=
  contract.targets.map (targetCoverage bindings)

structure Criterion where
  contract : ObservationContract
  contractDigest : String
  criterionId : String
  bindings : List ObservationBinding
  reviews : List VisualComparisonReview

structure Citation where
  bindingIds : List String
  comparisonReviewIds : List String

namespace Criterion

variable (criterion : Criterion)

def own : List ObservationBinding :=
  criterion.bindings.filter fun binding =>
    binding.criterionId == criterion.criterionId &&
      binding.contractDigest == criterion.contractDigest

def selected (citation : Citation) : List ObservationBinding :=
  criterion.own.filter fun binding => citation.bindingIds.contains binding.id

def superseded : List String :=
  criterion.reviews.filterMap fun review => stamp review.supersedesReviewId

def activeReviews : List VisualComparisonReview :=
  criterion.reviews.filter fun review =>
    review.criterionId == criterion.criterionId &&
      review.contractDigest == criterion.contractDigest &&
      !criterion.superseded.contains review.id

def citedReviews (citation : Citation) : List VisualComparisonReview :=
  criterion.activeReviews.filter fun review => citation.comparisonReviewIds.contains review.id

def lists (bindings : List ObservationBinding) (id : String) : Bool :=
  bindings.any fun binding => binding.id == id

def confirms (targetId : String) (binding : ObservationBinding) : Bool :=
  binding.targetId == targetId && isReady binding && binding.evaluation == .matched

def targetError (citation : Citation) (target : ObservationTarget) : Option String :=
  let coverage := observationCoverage criterion.contract criterion.own
  if (coverage.find? fun item => item.targetId == target.targetId).any fun item =>
      item.readiness == .conflict then
    some ("BINDING_CONFLICT:" ++ target.targetId)
  else if !(criterion.selected citation).any (confirms target.targetId) then
    some ("TARGET_NOT_CONFIRMED:" ++ target.targetId)
  else none

def verdictsConflict (comparisonId : String) : Bool :=
  criterion.activeReviews.any fun left =>
    left.comparisonId == comparisonId &&
      criterion.activeReviews.any fun right =>
        right.comparisonId == left.comparisonId && left.verdict != right.verdict

def comparisonError (citation : Citation) (comparison : VisualComparison) : Option String :=
  let matching := (criterion.citedReviews citation).filter fun review =>
    review.comparisonId == comparison.comparisonId
  if criterion.verdictsConflict comparison.comparisonId then
    some ("COMPARISON_REVIEW_CONFLICT:" ++ comparison.comparisonId)
  else if matching.isEmpty || matching.any fun review => review.verdict != .equivalent then
    some ("COMPARISON_NOT_REVIEWED:" ++ comparison.comparisonId)
  else if matching.any fun review =>
      review.bindingIds.any fun id => !lists (criterion.selected citation) id then
    some ("COMPARISON_BINDING_REQUIRED:" ++ comparison.comparisonId)
  else none

def citesCounterexample (citation : Citation) : Bool :=
  (criterion.selected citation).any (fun binding =>
    isReady binding && binding.evaluation == .mismatched) ||
    (criterion.citedReviews citation).any fun review => review.verdict == .different

def boundCriterionError (status : String) (citation : Citation) : Option String :=
  if citation.bindingIds.any fun id => !lists (criterion.selected citation) id then
    some "BINDING_NOT_AVAILABLE: only this criterion's saved bindings may be used."
  else if citation.comparisonReviewIds.any fun id =>
      !(criterion.citedReviews citation).any fun review => review.id == id then
    some "COMPARISON_NOT_REVIEWED"
  else if status = "INCONCLUSIVE" then none
  else if status = "FAILED" then
    if criterion.citesCounterexample citation then none else some "COUNTEREXAMPLE_REQUIRED"
  else
    (criterion.contract.targets.findSome? (criterion.targetError citation)).or
      (criterion.contract.comparisons.findSome? (criterion.comparisonError citation))

def Produced (host : Host) : Prop :=
  ∀ binding ∈ criterion.bindings, ∃ target ∈ criterion.contract.targets,
    ∃ observation evidenceKinds selection,
      evaluateObservationTarget host target observation evidenceKinds selection =
        .ok binding.toBindingEvaluation

def Confirmed (target : ObservationTarget) : Prop :=
  hasConflict target.targetId criterion.own = false ∧
    ∃ binding ∈ criterion.own, confirms target.targetId binding = true

def usableReview (id : String) : Bool :=
  criterion.activeReviews.all fun review =>
    review.id != id ||
      !criterion.contract.comparisons.any (fun comparison =>
        comparison.comparisonId == review.comparisonId) ||
      (review.verdict == .equivalent && review.bindingIds.all (lists criterion.own))

def Reviewed (comparison : VisualComparison) : Prop :=
  criterion.verdictsConflict comparison.comparisonId = false ∧
    ∃ review ∈ criterion.activeReviews, review.comparisonId = comparison.comparisonId ∧
      criterion.usableReview review.id = true

def NamesDisagree (matched mismatched : ObservationBinding) : Prop :=
  matched.targetId = mismatched.targetId ∧ isReady matched = true ∧ isReady mismatched = true ∧
    matched.evaluation = .matched ∧ mismatched.evaluation = .mismatched ∧
    matched.entityKey ≠ mismatched.entityKey

def StrayDifference (review : VisualComparisonReview) : Prop :=
  review.verdict = .different ∧ ∀ comparison ∈ criterion.contract.comparisons,
    comparison.comparisonId ≠ review.comparisonId

def Unequivocal : Prop :=
  (∀ target ∈ criterion.contract.targets, criterion.Confirmed target) →
    (∀ comparison ∈ criterion.contract.comparisons, criterion.Reviewed comparison) →
      (∀ matched ∈ criterion.own, ∀ mismatched ∈ criterion.own,
        ¬NamesDisagree matched mismatched) ∧
        ∀ review ∈ criterion.activeReviews, ¬criterion.StrayDifference review

variable {criterion}

theorem coverage_conflict {bindings : List ObservationBinding} {target : ObservationTarget}
    (member : target ∈ criterion.contract.targets) :
    ((observationCoverage criterion.contract bindings).find? fun item =>
      item.targetId == target.targetId).any (fun item => item.readiness == .conflict) =
        hasConflict target.targetId bindings := by
  have found : ∃ item, (observationCoverage criterion.contract bindings).find?
      (fun item => item.targetId == target.targetId) = some item := by
    rw [← Option.isSome_iff_exists, List.find?_isSome]
    exact ⟨targetCoverage bindings target, List.mem_map.mpr ⟨target, member, rfl⟩, by
      simp [targetCoverage]⟩
  obtain ⟨item, first⟩ := found
  have named := List.find?_some first
  obtain ⟨source, _, made⟩ := List.mem_map.mp (List.mem_of_find?_eq_some first)
  subst made
  have sameId : source.targetId = target.targetId := by simpa [targetCoverage] using named
  rw [first]
  cases conflict : hasConflict source.targetId bindings <;>
    simp only [Option.any_some, targetCoverage, conflict, ← sameId]
  · simp only [Bool.false_eq_true, if_false]
    split
    · rfl
    · split <;> rfl
  · rfl

theorem targetError_none {citation : Citation} {target : ObservationTarget}
    (member : target ∈ criterion.contract.targets) :
    criterion.targetError citation target = none ↔
      hasConflict target.targetId criterion.own = false ∧
        ∃ binding ∈ criterion.selected citation, confirms target.targetId binding = true := by
  simp only [targetError, coverage_conflict member]
  cases hasConflict target.targetId criterion.own with
  | true => simp
  | false =>
      simp only [Bool.false_eq_true, if_false, true_and]
      rw [← List.any_eq_true]
      cases (criterion.selected citation).any (confirms target.targetId) <;> simp

theorem comparisonError_none {citation : Citation} {comparison : VisualComparison} :
    criterion.comparisonError citation comparison = none ↔
      criterion.verdictsConflict comparison.comparisonId = false ∧
        (∃ review ∈ criterion.citedReviews citation,
          review.comparisonId = comparison.comparisonId) ∧
        ∀ review ∈ criterion.citedReviews citation,
          review.comparisonId = comparison.comparisonId → review.verdict = .equivalent ∧
            ∀ id ∈ review.bindingIds, lists (criterion.selected citation) id = true := by
  unfold comparisonError
  cases criterion.verdictsConflict comparison.comparisonId with
  | true => simp
  | false =>
      simp only [Bool.false_eq_true, if_false, true_and]
      constructor
      · intro accepted
        split at accepted
        · simp at accepted
        · rename_i reviewed
          split at accepted
          · simp at accepted
          · rename_i bound
            simp only [Bool.or_eq_true, not_or, List.any_eq_true, List.mem_filter, beq_iff_eq,
              bne_iff_ne, not_exists, not_and, not_not, and_imp, List.isEmpty_iff,
              List.filter_eq_nil_iff, not_forall] at reviewed
            simp only [List.any_eq_true, List.mem_filter, beq_iff_eq, not_exists, not_and,
              and_imp, Bool.not_eq_true', Bool.not_eq_false] at bound
            obtain ⟨⟨review, member, matching⟩, equivalent⟩ := reviewed
            exact ⟨⟨review, member, matching⟩, fun other listed about =>
              ⟨equivalent other listed about, bound other listed about⟩⟩
      · rintro ⟨⟨review, member, matching⟩, all⟩
        have cited : ((criterion.citedReviews citation).filter fun review =>
            review.comparisonId == comparison.comparisonId).isEmpty = false := by
          rw [List.isEmpty_eq_false_iff_exists_mem]
          exact ⟨review, List.mem_filter.mpr ⟨member, by simp [matching]⟩⟩
        have agreeing : ((criterion.citedReviews citation).filter fun review =>
            review.comparisonId == comparison.comparisonId).any
              (fun review => review.verdict != .equivalent) = false := by
          simp only [List.any_eq_false, List.mem_filter, beq_iff_eq, bne_iff_ne, not_not, and_imp]
          exact fun other listed about => (all other listed about).1
        have bound : ((criterion.citedReviews citation).filter fun review =>
            review.comparisonId == comparison.comparisonId).any (fun review =>
              review.bindingIds.any fun id => !lists (criterion.selected citation) id) = false := by
          simp only [List.any_eq_false, List.mem_filter, beq_iff_eq, and_imp, Bool.not_eq_true',
            Bool.not_eq_false, List.any_eq_true, not_exists, not_and]
          exact fun other listed about => (all other listed about).2
        simp [cited, agreeing, bound]

def Available (criterion : Criterion) (citation : Citation) : Prop :=
  (∀ id ∈ citation.bindingIds, lists (criterion.selected citation) id = true) ∧
    ∀ id ∈ citation.comparisonReviewIds,
      ∃ review ∈ criterion.citedReviews citation, review.id = id

theorem unavailable_iff {citation : Citation} :
    criterion.Available citation ↔
      citation.bindingIds.any (fun id => !lists (criterion.selected citation) id) = false ∧
        citation.comparisonReviewIds.any (fun id =>
          !(criterion.citedReviews citation).any fun review => review.id == id) = false := by
  simp [Available]

theorem passed_iff {citation : Citation} :
    criterion.boundCriterionError "PASSED" citation = none ↔
      criterion.Available citation ∧
        (∀ target ∈ criterion.contract.targets, criterion.targetError citation target = none) ∧
        ∀ comparison ∈ criterion.contract.comparisons,
          criterion.comparisonError citation comparison = none := by
  rw [unavailable_iff]
  unfold boundCriterionError
  cases citation.bindingIds.any (fun id => !lists (criterion.selected citation) id) with
  | true => simp
  | false =>
      cases citation.comparisonReviewIds.any (fun id =>
          !(criterion.citedReviews citation).any fun review => review.id == id) with
      | true => simp
      | false => simp [Option.or_eq_none_iff, List.findSome?_eq_none_iff]

theorem failed_iff {citation : Citation} :
    criterion.boundCriterionError "FAILED" citation = none ↔
      criterion.Available citation ∧ criterion.citesCounterexample citation = true := by
  rw [unavailable_iff]
  unfold boundCriterionError
  cases citation.bindingIds.any (fun id => !lists (criterion.selected citation) id) with
  | true => simp
  | false =>
      cases citation.comparisonReviewIds.any (fun id =>
          !(criterion.citedReviews citation).any fun review => review.id == id) with
      | true => simp
      | false => simp

/-! Citing everything that may be cited. -/

variable (criterion) in
def usableReviews : List VisualComparisonReview :=
  criterion.activeReviews.filter fun review => criterion.usableReview review.id

variable (criterion) in
def fullCitation : Citation :=
  { bindingIds := criterion.own.map (·.id)
    comparisonReviewIds := criterion.usableReviews.map (·.id) }

theorem selected_full : criterion.selected criterion.fullCitation = criterion.own := by
  rw [selected, List.filter_eq_self]
  intro binding member
  simp only [fullCitation, List.contains_eq_mem, decide_eq_true_eq]
  exact List.mem_map_of_mem member

theorem mem_citedReviews_full {review : VisualComparisonReview} :
    review ∈ criterion.citedReviews criterion.fullCitation ↔
      review ∈ criterion.activeReviews ∧ criterion.usableReview review.id = true := by
  simp only [citedReviews, fullCitation, usableReviews, List.mem_filter, List.contains_eq_mem,
    List.mem_map, decide_eq_true_eq]
  constructor
  · rintro ⟨member, other, ⟨_, usable⟩, same⟩
    exact ⟨member, same ▸ usable⟩
  · rintro ⟨member, usable⟩
    exact ⟨member, review, ⟨member, usable⟩, rfl⟩

theorem available_full : criterion.Available criterion.fullCitation := by
  refine ⟨?_, ?_⟩
  · intro id listed
    obtain ⟨binding, member, same⟩ := List.mem_map.mp listed
    rw [selected_full]
    exact List.any_eq_true.mpr ⟨binding, member, by simp [same]⟩
  · intro id listed
    obtain ⟨review, member, same⟩ := List.mem_map.mp listed
    exact ⟨review, mem_citedReviews_full.mpr (List.mem_filter.mp member), same⟩

theorem usableReview_about {review : VisualComparisonReview} {comparison : VisualComparison}
    (member : review ∈ criterion.activeReviews) (usable : criterion.usableReview review.id = true)
    (listed : comparison ∈ criterion.contract.comparisons)
    (about : review.comparisonId = comparison.comparisonId) :
    review.verdict = .equivalent ∧ ∀ id ∈ review.bindingIds, lists criterion.own id = true := by
  have checked := List.all_eq_true.mp usable review member
  have known : criterion.contract.comparisons.any
      (fun comparison => comparison.comparisonId == review.comparisonId) = true :=
    List.any_eq_true.mpr ⟨comparison, listed, by simp [about]⟩
  simpa [known] using checked

theorem passed_full
    (confirmed : ∀ target ∈ criterion.contract.targets, criterion.Confirmed target)
    (reviewed : ∀ comparison ∈ criterion.contract.comparisons, criterion.Reviewed comparison) :
    criterion.boundCriterionError "PASSED" criterion.fullCitation = none := by
  refine passed_iff.mpr ⟨available_full, ?_, ?_⟩
  · intro target member
    rw [targetError_none member, selected_full]
    exact confirmed target member
  · intro comparison member
    obtain ⟨agreed, review, listed, about, usable⟩ := reviewed comparison member
    refine comparisonError_none.mpr ⟨agreed, ?_, ?_⟩
    · exact ⟨review, mem_citedReviews_full.mpr ⟨listed, usable⟩, about⟩
    · intro other cited about
      obtain ⟨listed, usable⟩ := mem_citedReviews_full.mp cited
      rw [selected_full]
      exact usableReview_about listed usable member about

theorem failed_of_mismatched {binding : ObservationBinding} (member : binding ∈ criterion.own)
    (ready : isReady binding = true) (mismatched : binding.evaluation = .mismatched) :
    criterion.boundCriterionError "FAILED"
      { bindingIds := [binding.id], comparisonReviewIds := [] } = none := by
  have cited : binding ∈ criterion.selected
      { bindingIds := [binding.id], comparisonReviewIds := [] } :=
    List.mem_filter.mpr ⟨member, by simp⟩
  refine failed_iff.mpr ⟨⟨?_, by simp⟩, ?_⟩
  · intro id listed
    rw [List.mem_singleton.mp listed]
    exact List.any_eq_true.mpr ⟨binding, cited, by simp⟩
  · exact Bool.or_eq_true_iff.mpr
      (Or.inl (List.any_eq_true.mpr ⟨binding, cited, by simp [ready, mismatched]⟩))

theorem failed_of_different {review : VisualComparisonReview}
    (member : review ∈ criterion.activeReviews) (different : review.verdict = .different) :
    criterion.boundCriterionError "FAILED"
      { bindingIds := [], comparisonReviewIds := [review.id] } = none := by
  have cited : review ∈ criterion.citedReviews
      { bindingIds := [], comparisonReviewIds := [review.id] } :=
    List.mem_filter.mpr ⟨member, by simp⟩
  refine failed_iff.mpr ⟨⟨by simp, ?_⟩, ?_⟩
  · intro id listed
    exact ⟨review, cited, (List.mem_singleton.mp listed).symm⟩
  · exact Bool.or_eq_true_iff.mpr
      (Or.inr (List.any_eq_true.mpr ⟨review, cited, by simp [different]⟩))

theorem evaluated_identity {host : Host} {target : ObservationTarget}
    {observation : StructuredObservation} {evidenceKinds : List String}
    {selection : Option Selection} {binding : BindingEvaluation}
    (evaluated : evaluateObservationTarget host target observation evidenceKinds selection =
      .ok binding) : binding.targetId = target.targetId ∧ binding.phase = target.phase := by
  obtain ⟨_, _, _, parts⟩ := evaluateObservationTarget_evaluated host evaluated
  rw [parts.bound]
  exact ⟨rfl, rfl⟩

theorem own_mem {binding : ObservationBinding} (member : binding ∈ criterion.own) :
    binding ∈ criterion.bindings :=
  (List.mem_filter.mp member).1

theorem produced_same_phase {host : Host} (produced : criterion.Produced host)
    {left right : ObservationBinding} (leftMember : left ∈ criterion.own)
    (rightMember : right ∈ criterion.own) (same : left.targetId = right.targetId) :
    left.phase = right.phase := by
  obtain ⟨first, firstListed, _, _, _, firstMade⟩ := produced left (own_mem leftMember)
  obtain ⟨second, secondListed, _, _, _, secondMade⟩ := produced right (own_mem rightMember)
  obtain ⟨firstId, firstPhase⟩ := evaluated_identity firstMade
  obtain ⟨secondId, secondPhase⟩ := evaluated_identity secondMade
  have sameTarget : first = second :=
    List.inj_on_of_nodup_map criterion.contract.distinctTargets firstListed secondListed
      (firstId.symm.trans (same.trans secondId))
  rw [firstPhase, secondPhase, sameTarget]

theorem passed_confirmed {citation : Citation}
    (passed : criterion.boundCriterionError "PASSED" citation = none) :
    ∀ target ∈ criterion.contract.targets, criterion.Confirmed target := by
  intro target member
  obtain ⟨_, targets, _⟩ := passed_iff.mp passed
  obtain ⟨agreed, binding, cited, confirmed⟩ := (targetError_none member).mp (targets target member)
  exact ⟨agreed, binding, (List.mem_filter.mp cited).1, confirmed⟩

theorem passed_reviewed {citation : Citation}
    (passed : criterion.boundCriterionError "PASSED" citation = none) :
    ∀ comparison ∈ criterion.contract.comparisons, criterion.Reviewed comparison := by
  intro comparison member
  obtain ⟨_, _, comparisons⟩ := passed_iff.mp passed
  obtain ⟨agreed, ⟨review, cited, about⟩, _⟩ := comparisonError_none.mp (comparisons comparison member)
  obtain ⟨listed, mentioned⟩ := List.mem_filter.mp cited
  refine ⟨agreed, review, listed, about, ?_⟩
  simp only [usableReview, List.all_eq_true, Bool.or_eq_true, bne_iff_ne, Bool.not_eq_true',
    Bool.and_eq_true, beq_iff_eq]
  intro other otherListed
  by_cases same : other.id = review.id
  · by_cases known : ∃ item ∈ criterion.contract.comparisons,
        item.comparisonId = other.comparisonId
    · obtain ⟨item, itemListed, itemAbout⟩ := known
      obtain ⟨_, _, all⟩ := comparisonError_none.mp (comparisons item itemListed)
      have otherCited : other ∈ criterion.citedReviews citation :=
        List.mem_filter.mpr ⟨otherListed, same ▸ mentioned⟩
      obtain ⟨equivalent, bound⟩ := all other otherCited itemAbout.symm
      refine Or.inr ⟨equivalent, ?_⟩
      intro id used
      obtain ⟨binding, found, here⟩ := List.any_eq_true.mp (bound id used)
      exact List.any_eq_true.mpr ⟨binding, (List.mem_filter.mp found).1, here⟩
    · refine Or.inl (Or.inr ?_)
      simpa [List.any_eq_false] using known
  · exact Or.inl (Or.inl same)

theorem mismatched_names_disagree {host : Host} (produced : criterion.Produced host)
    (confirmed : ∀ target ∈ criterion.contract.targets, criterion.Confirmed target)
    {mismatched : ObservationBinding} (member : mismatched ∈ criterion.own)
    (ready : isReady mismatched = true) (opposite : mismatched.evaluation = .mismatched) :
    ∃ matched ∈ criterion.own, NamesDisagree matched mismatched := by
  obtain ⟨target, listed, _, _, _, made⟩ := produced mismatched (own_mem member)
  have about := (evaluated_identity made).1
  obtain ⟨agreed, matched, matchedMember, confirms⟩ := confirmed target listed
  simp only [Criterion.confirms, Bool.and_eq_true, beq_iff_eq] at confirms
  obtain ⟨⟨matchedId, matchedReady⟩, matching⟩ := confirms
  refine ⟨matched, matchedMember, matchedId.trans about.symm, matchedReady, ready, matching,
    opposite, ?_⟩
  intro sameName
  have samePhase := produced_same_phase produced matchedMember member (matchedId.trans about.symm)
  have conflict : hasConflict target.targetId criterion.own = true := by
    simp only [hasConflict, bindingsFor, List.any_eq_true, List.mem_filter, beq_iff_eq]
    refine ⟨matched, ⟨⟨matchedMember, matchedId⟩, matchedReady⟩, mismatched,
      ⟨⟨member, about⟩, ready⟩, ?_⟩
    simp [contradicts, sameName, samePhase, matching, opposite]
  simp [conflict] at agreed

theorem different_is_stray
    (reviewed : ∀ comparison ∈ criterion.contract.comparisons, criterion.Reviewed comparison)
    {review : VisualComparisonReview} (member : review ∈ criterion.activeReviews)
    (different : review.verdict = .different) : criterion.StrayDifference review := by
  refine ⟨different, ?_⟩
  intro comparison listed about
  obtain ⟨agreed, usable, usableListed, usableAbout, usableFits⟩ := reviewed comparison listed
  obtain ⟨equivalent, _⟩ := usableReview_about usableListed usableFits listed usableAbout
  have conflict : criterion.verdictsConflict comparison.comparisonId = true := by
    simp only [verdictsConflict, List.any_eq_true, Bool.and_eq_true, beq_iff_eq, bne_iff_ne]
    exact ⟨review, member, about.symm, usable, usableListed, usableAbout.trans about,
      by simp [different, equivalent]⟩
  simp [conflict] at agreed

variable (criterion) in
/-- The same saved evidence supports one verdict only exactly when no equivalent name and
no review outside the contract hides a contradiction. -/
theorem verdict_unequivocal_iff (host : Host) (produced : criterion.Produced host) :
    (¬∃ passing failing, criterion.boundCriterionError "PASSED" passing = none ∧
        criterion.boundCriterionError "FAILED" failing = none) ↔
      criterion.Unequivocal := by
  constructor
  · intro exclusive confirmed reviewed
    have passed := passed_full confirmed reviewed
    refine ⟨?_, ?_⟩
    · rintro matched _ mismatched member ⟨_, _, ready, _, opposite, _⟩
      exact exclusive ⟨_, _, passed, failed_of_mismatched member ready opposite⟩
    · rintro review member ⟨different, _⟩
      exact exclusive ⟨_, _, passed, failed_of_different member different⟩
  · rintro unequivocal ⟨passing, failing, passed, failed⟩
    have confirmed := passed_confirmed passed
    have reviewed := passed_reviewed passed
    obtain ⟨named, strays⟩ := unequivocal confirmed reviewed
    obtain ⟨_, counterexample⟩ := failed_iff.mp failed
    rcases Bool.or_eq_true_iff.mp counterexample with binding | review
    · obtain ⟨mismatched, cited, opposite⟩ := List.any_eq_true.mp binding
      simp only [Bool.and_eq_true, beq_iff_eq] at opposite
      obtain ⟨matched, matchedMember, disagree⟩ := mismatched_names_disagree produced confirmed
        (List.mem_filter.mp cited).1 opposite.1 opposite.2
      exact named matched matchedMember mismatched (List.mem_filter.mp cited).1 disagree
    · obtain ⟨review, cited, different⟩ := List.any_eq_true.mp review
      have listed := (List.mem_filter.mp cited).1
      exact strays review listed
        (different_is_stray reviewed listed (by simpa using different))

end Criterion

/-! One object under two equivalent names. -/

def configDialog : ObservedNode :=
  { nodeId := "dialog", ref := some "d", frameId := "frame", documentEpoch := "doc", tag := "div",
    role := some "dialog", name := some "Config", visible := true }

def typeSelect (label : String) : ObservedNode :=
  { nodeId := "type", ref := some "t", parentId := some "dialog", frameId := "frame",
    documentEpoch := "doc", tag := "select", name := some "Type", selectedLabel := some label,
    selectedLabelSource := some .nativeSelect, visible := true }

def enabledSwitch (checked : Bool) : ObservedNode :=
  { nodeId := "enabled", ref := some "e", parentId := some "dialog", frameId := "frame",
    documentEpoch := "doc", tag := "div", role := some "switch", name := some "Enabled",
    checked := some checked, visible := true }

def configPage (label : String) (checked : Bool) : StructuredObservation :=
  { captureId := "capture", capturedFrom := "2026-01-01T00:00:00.000Z",
    capturedUntil := "2026-01-01T00:00:00.000Z", pageIdentity := "https://fixture.test",
    nodes := [configDialog, typeSelect label, enabledSwitch checked], consistency := .verified,
    coverage := { scope := .viewport, completeWithinScope := true, truncated := false } }

def configTarget : ObservationTarget :=
  .v2
    { targetId := "mapping", label := "Mapping", scope := { kind := .dialog, names := ["Config"] },
      entity :=
        { controlKind := .select, label := "Type", property := .selectedLabel,
          oneOf := ["Alpha", "Type Alpha"] },
      phase := .current,
      assertions := [
        { assertionId := "enabled", subject := { kind := .switch, label := "Enabled" },
          expectation := .flag .checked true }],
      requiredEvidenceKinds := [.dom] }

def configContract : ObservationContract :=
  { targets := [configTarget], comparisons := [] }

def configBinding (id label : String) (checked : Bool) : ObservationBinding :=
  { id, criterionId := "check", contractDigest := "digest", targetId := "mapping",
    scopeIdentity := "dialog", entityKey := label, phase := .current, phaseProven := true,
    regionEpoch := none,
    facts := [
      { assertionId := "enabled", nodeId := "enabled", property := .checked,
        actual := some (.flag checked),
        evaluation := if checked then .matched else .mismatched }],
    evaluation := if checked then .matched else .mismatched, readiness := .ready, reasons := [] }

def configCriterion : Criterion :=
  { contract := configContract, contractDigest := "digest", criterionId := "check",
    bindings := [configBinding "on" "Alpha" true, configBinding "off" "Type Alpha" false],
    reviews := [] }

theorem configCriterion_produced : configCriterion.Produced namingHost := by
  intro binding member
  refine ⟨configTarget, List.mem_singleton_self _, ?_⟩
  simp only [configCriterion, List.mem_cons, List.not_mem_nil, or_false] at member
  rcases member with same | same
  · subst same
    exact ⟨configPage "Alpha" true, ["DOM"], none, by decide⟩
  · subst same
    exact ⟨configPage "Type Alpha" false, ["DOM"], none, by decide⟩

/-- The switch read on and off under two names of one object passes and fails the criterion. -/
theorem equivalent_names_support_both :
    configCriterion.Produced namingHost ∧
      ∃ passing failing, configCriterion.boundCriterionError "PASSED" passing = none ∧
        configCriterion.boundCriterionError "FAILED" failing = none :=
  ⟨configCriterion_produced, { bindingIds := ["on"], comparisonReviewIds := [] },
    { bindingIds := ["off"], comparisonReviewIds := [] }, by decide, by decide⟩

theorem config_verdict_iff :
    (¬∃ passing failing, configCriterion.boundCriterionError "PASSED" passing = none ∧
        configCriterion.boundCriterionError "FAILED" failing = none) ↔
      configCriterion.Unequivocal :=
  configCriterion.verdict_unequivocal_iff namingHost configCriterion_produced

end Devproof
