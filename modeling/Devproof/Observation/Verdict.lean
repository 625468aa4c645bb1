import Devproof.Observation.Evaluator

/-!
What a verdict rests on: every fact of a matched binding is read inside the one
chosen scope, and a selection never changes a verdict the page determines alone.
-/

namespace Devproof

inductive ParentChain (nodes : List ObservedNode) : ObservedNode → ObservedNode → Prop where
  | here (node) : ParentChain nodes node node
  | up {node parent root} : nodeById nodes node.parentId = some parent →
      ParentChain nodes parent root → ParentChain nodes node root

structure LiesIn (nodes : List ObservedNode) (node root : ObservedNode) : Prop where
  sameFrame : node.frameId = root.frameId
  sameEpoch : node.documentEpoch = root.documentEpoch
  chain : ParentChain nodes node root

theorem nodeById_mem {nodes : List ObservedNode} {id : Option String} {node : ObservedNode}
    (found : nodeById nodes id = some node) : node ∈ nodes :=
  List.mem_reverse.mp (List.mem_of_find?_eq_some found)

theorem climb_chain {nodes : List ObservedNode} {target : String} (fuel : Nat)
    (seen : List String) (node : ObservedNode) (member : node ∈ nodes)
    (reached : climb nodes (fun current => if current.nodeId = target then some true else none)
      fuel seen node = some true) :
    ∃ root ∈ nodes, root.nodeId = target ∧ ParentChain nodes node root := by
  induction fuel generalizing seen node with
  | zero => simp [climb] at reached
  | succ fuel ih =>
      unfold climb at reached
      by_cases visited : seen.contains node.nodeId = true
      · rw [if_pos visited] at reached
        simp at reached
      · by_cases arrived : node.nodeId = target
        · exact ⟨node, member, arrived, ParentChain.here node⟩
        · simp only [visited, Bool.false_eq_true, if_false, arrived] at reached
          cases parent : nodeById nodes node.parentId with
          | none => simp [parent] at reached
          | some above =>
              simp only [parent] at reached
              obtain ⟨root, rootMember, rootId, chain⟩ := ih _ above (nodeById_mem parent) reached
              exact ⟨root, rootMember, rootId, ParentChain.up parent chain⟩

section Distinct

variable {nodes : List ObservedNode}

theorem eq_of_nodeId (distinct : (nodes.map (·.nodeId)).Nodup) {left right : ObservedNode}
    (leftMember : left ∈ nodes) (rightMember : right ∈ nodes) (same : left.nodeId = right.nodeId) :
    left = right :=
  List.inj_on_of_nodup_map distinct leftMember rightMember same

theorem within_liesIn (distinct : (nodes.map (·.nodeId)).Nodup) {node root : ObservedNode}
    (member : node ∈ nodes) (rootMember : root ∈ nodes) (inside : within nodes node root = true) :
    LiesIn nodes node root := by
  simp only [within, reaches, Bool.and_eq_true, beq_iff_eq] at inside
  obtain ⟨⟨sameFrame, sameEpoch⟩, reached⟩ := inside
  obtain ⟨found, foundMember, foundId, chain⟩ := climb_chain _ [] node member reached
  have same := eq_of_nodeId distinct foundMember rootMember foundId
  subst same
  exact ⟨sameFrame, sameEpoch, chain⟩

end Distinct

def Property.truncation : Property → Option TruncatedProperty
  | .value => some .value
  | .text => some .text
  | .selectedLabel => some .selectedLabel
  | .checked | .visible | .enabled => none

theorem untruncated_eq_some {property : TruncatedProperty} {value : Option String}
    {node : ObservedNode} {text : String} (read : untruncated property value node = some text) :
    node.truncates property = false ∧ value = some text := by
  unfold untruncated at read
  split at read
  · simp at read
  · rename_i whole
    exact ⟨by simpa using whole, read⟩

theorem readProperty_untruncated {property : Property} {node : ObservedNode} {value : FactValue}
    (read : readProperty property node = some value) :
    ∀ flag, property.truncation = some flag → node.truncates flag = false := by
  intro flag same
  cases property <;> simp only [Property.truncation, Option.some.injEq, reduceCtorEq] at same
  all_goals
    subst same
    obtain ⟨text, found, _⟩ := Option.map_eq_some_iff.mp read
    exact (untruncated_eq_some found).1

section Host

variable (host : Host)

structure ReadFromPage (observation : StructuredObservation) (scope : ObservedNode)
    (assertion : Assertion) (fact : Fact) : Prop where
  source : ∃ node ∈ observation.nodes, fact.nodeId = node.nodeId ∧ node.visible = true ∧
    LiesIn observation.nodes node scope ∧ fact.property = assertedProperty assertion node ∧
    (∀ flag, fact.property.truncation = some flag → node.truncates flag = false) ∧
    ∃ value, readProperty fact.property node = some value ∧ fact.actual = some value ∧
      satisfies host assertion fact.property value = true

structure ProvedAbsent (observation : StructuredObservation) (scope : ObservedNode)
    (assertion : Assertion) (fact : Fact) : Prop where
  hidden : assertion.property = some .visible ∧ assertion.expected = some (.flag false)
  recorded : fact = absenceFact scope assertion
  complete : observation.coverage.scope = .region ∧
    observation.coverage.rootNodeId = some scope.nodeId ∧
    observation.coverage.completeWithinScope = true ∧ observation.coverage.truncated = false ∧
    observation.coverage.unavailableFrames = []
  unnamed : ∀ node ∈ observation.nodes, inScope observation.nodes scope node = true →
    named observation.nodes node assertion.label = false

theorem provesAbsence_absent {observation : StructuredObservation} {scope : ObservedNode}
    {assertion : Assertion} (proved : provesAbsence observation scope assertion = true) :
    ProvedAbsent observation scope assertion (absenceFact scope assertion) := by
  simp only [provesAbsence, Bool.and_eq_true, beq_iff_eq, Bool.not_eq_true',
    List.isEmpty_iff, List.any_eq_false, not_and, Bool.not_eq_true] at proved
  obtain ⟨⟨⟨⟨⟨⟨⟨⟨property, expected⟩, region⟩, root⟩, complete⟩, whole⟩, frames⟩, unnamed⟩, _⟩ :=
    proved
  exact ⟨⟨property, expected⟩, rfl, ⟨region, root, complete, whole, frames⟩, unnamed⟩

theorem evaluateValue_matched {assertion : Assertion} {property : Property}
    {actual : Option FactValue}
    (matched : evaluateValue host assertion property actual = .matched) :
    ∃ value, actual = some value ∧ satisfies host assertion property value = true := by
  cases actual with
  | none => simp [evaluateValue] at matched
  | some value =>
      refine ⟨value, rfl, ?_⟩
      by_contra unsatisfied
      simp [evaluateValue, unsatisfied] at matched

/-- What one reading can be. -/
theorem readAssertion_fact {target : ObservationTarget} {observation : StructuredObservation}
    {selection : Option Selection} {scope entity : ObservedNode} {assertion : Assertion}
    {fact : Fact}
    (read : readAssertion host target observation selection scope entity assertion = .fact fact) :
    (stateCandidates target observation.nodes selection scope entity assertion = [] ∧
        provesAbsence observation scope assertion = true ∧ fact = absenceFact scope assertion) ∨
      ∃ node, stateCandidates target observation.nodes selection scope entity assertion = [node] ∧
        fact = stateFact host assertion node := by
  unfold readAssertion at read
  split at read
  · rename_i none
    split at read
    · rename_i absent
      exact Or.inl ⟨none, absent, (Reading.fact.inj read).symm⟩
    · simp at read
  · rename_i node one
    split at read
    · simp at read
    · exact Or.inr ⟨node, one, (Reading.fact.inj read).symm⟩
  · simp at read

theorem mem_stateCandidates {target : ObservationTarget} {nodes : List ObservedNode}
    {selection : Option Selection} {scope entity : ObservedNode} {assertion : Assertion}
    {node : ObservedNode}
    (member : node ∈ stateCandidates target nodes selection scope entity assertion) :
    node ∈ nodes ∧ node.visible = true ∧ within nodes node scope = true := by
  simp only [stateCandidates, List.mem_filter, Bool.and_eq_true, inScope] at member
  exact ⟨member.1, member.2.1.1.1.1⟩

theorem readAssertion_supported {target : ObservationTarget} {observation : StructuredObservation}
    {selection : Option Selection} {scope entity : ObservedNode} {assertion : Assertion}
    {fact : Fact} (distinct : (observation.nodes.map (·.nodeId)).Nodup)
    (scopeMember : scope ∈ observation.nodes)
    (read : readAssertion host target observation selection scope entity assertion = .fact fact)
    (matched : fact.evaluation = .matched) :
    fact.assertionId = assertion.assertionId ∧
      (ReadFromPage host observation scope assertion fact ∨
        ProvedAbsent observation scope assertion fact) := by
  rcases readAssertion_fact host read with ⟨_, absent, same⟩ | ⟨node, one, same⟩
  · subst same
    exact ⟨rfl, Or.inr (provesAbsence_absent absent)⟩
  · subst same
    obtain ⟨member, visible, inside⟩ := mem_stateCandidates (one ▸ List.mem_singleton_self node)
    obtain ⟨value, found, satisfied⟩ := evaluateValue_matched host matched
    refine ⟨rfl, Or.inl ⟨node, member, rfl, visible, ?_, rfl, ?_, value, found, found, satisfied⟩⟩
    · exact within_liesIn distinct member scopeMember inside
    · exact readProperty_untruncated found

theorem readAssertions_facts {read : Assertion → Reading} {assertions : List Assertion}
    {readings : Readings} (taken : readAssertions read assertions = .ok readings)
    (unreasoned : readings.reasons = []) :
    List.Forall₂ (fun assertion fact => read assertion = .fact fact) assertions readings.facts := by
  induction assertions generalizing readings with
  | nil =>
      simp only [readAssertions, Except.ok.injEq] at taken
      subst taken
      exact List.Forall₂.nil
  | cons assertion rest ih =>
      unfold readAssertions at taken
      cases first : read assertion with
      | ambiguous refs => simp [first] at taken
      | fact fact =>
          simp only [first, bind, Except.bind, pure, Except.pure] at taken
          split at taken
          · simp at taken
          · rename_i others found
            simp only [Except.ok.injEq] at taken
            subst taken
            exact List.Forall₂.cons first (ih found unreasoned)
      | reason text =>
          simp only [first, bind, Except.bind, pure, Except.pure] at taken
          split at taken
          · simp at taken
          · simp only [Except.ok.injEq] at taken
            subst taken
            simp at unreasoned

structure Evaluated (target : ObservationTarget) (observation : StructuredObservation)
    (evidenceKinds : List String) (selection : Option Selection) (binding : BindingEvaluation)
    (scope entity : ObservedNode) (readings : Readings) : Prop where
  scopes : (candidateScopes host target observation).filter
    (allowsScope host target observation.nodes selection) = [scope]
  entities : entitiesIn host target observation.nodes selection scope = [entity]
  read : readAssertions (readAssertion host target observation selection scope entity)
    target.assertions = .ok readings
  bound : binding = bindingOf target observation evidenceKinds scope entity readings

theorem evaluateObservationTarget_evaluated {target : ObservationTarget}
    {observation : StructuredObservation} {evidenceKinds : List String}
    {selection : Option Selection} {binding : BindingEvaluation}
    (evaluated : evaluateObservationTarget host target observation evidenceKinds selection =
      .ok binding) :
    ∃ scope entity readings,
      Evaluated host target observation evidenceKinds selection binding scope entity readings := by
  simp only [evaluateObservationTarget] at evaluated
  split at evaluated
  · simp at evaluated
  · split at evaluated
    · rename_i scope scopes
      split at evaluated
      · rename_i entity entities
        simp only [bind, Except.bind, pure, Except.pure] at evaluated
        split at evaluated
        · simp at evaluated
        · rename_i readings read
          simp only [Except.ok.injEq] at evaluated
          exact ⟨scope, entity, readings, scopes, entities, read, evaluated.symm⟩
      · simp at evaluated
    · simp at evaluated

theorem innermost_subset {nodes scopes : List ObservedNode} {node : ObservedNode}
    (member : node ∈ innermost nodes scopes) : node ∈ scopes :=
  (List.mem_filter.mp member).1

theorem candidateScopes_mem {target : ObservationTarget} {observation : StructuredObservation}
    {scope : ObservedNode} (member : scope ∈ candidateScopes host target observation) :
    scope ∈ observation.nodes := by
  unfold candidateScopes at member
  cases target with
  | v2 legacy =>
      simp only at member
      split at member
      · exact (List.mem_filter.mp (innermost_subset member)).1
      · exact (List.mem_filter.mp member).1
  | v3 business =>
      have chosen := innermost_subset member
      split at chosen
      · exact (List.mem_filter.mp chosen).1
      · exact (List.mem_filter.mp chosen).1

namespace Evaluated

variable {host} {target : ObservationTarget} {observation : StructuredObservation}
  {evidenceKinds : List String} {selection : Option Selection} {binding : BindingEvaluation}
  {scope entity : ObservedNode} {readings : Readings}

theorem scope_mem
    (parts : Evaluated host target observation evidenceKinds selection binding scope entity
      readings) : scope ∈ observation.nodes := by
  have listed : scope ∈ (candidateScopes host target observation).filter
      (allowsScope host target observation.nodes selection) := by
    rw [parts.scopes]
    exact List.mem_singleton_self scope
  exact candidateScopes_mem host (List.mem_filter.mp listed).1

theorem ready_reasons
    (parts : Evaluated host target observation evidenceKinds selection binding scope entity
      readings) (ready : binding.readiness = .ready) :
    readings.reasons = [] ∧
      captureReasons target observation evidenceKinds scope readings.facts
        (phaseProven target observation (regionOf target observation scope) readings.facts) = [] := by
  have same := parts.bound
  subst same
  simp only [bindingOf] at ready
  split at ready
  · rename_i empty
    exact List.append_eq_nil_iff.mp (List.isEmpty_iff.mp empty)
  · simp at ready

end Evaluated

theorem flagged_eq_nil {present : Bool} {reason : String} :
    flagged present reason = [] ↔ present = false := by
  cases present <;> simp [flagged]

theorem captureReasons_nil {target : ObservationTarget} {observation : StructuredObservation}
    {evidenceKinds : List String} {scope : ObservedNode} {facts : List Fact} {proven : Bool}
    (none : captureReasons target observation evidenceKinds scope facts proven = []) :
    proven = true ∧ missesEvidence target evidenceKinds = false ∧ hasUnknown facts = false := by
  simp only [captureReasons, List.append_eq_nil_iff, flagged_eq_nil, Bool.not_eq_false'] at none
  obtain ⟨⟨⟨⟨⟨proven, _⟩, _⟩, evidence⟩, _⟩, known⟩ := none
  exact ⟨proven, evidence, known⟩

theorem evaluateFacts_matched {expected : Nat} {facts : List Fact}
    (matched : evaluateFacts expected facts = .matched) :
    ∀ fact ∈ facts, fact.evaluation = .matched := by
  intro fact member
  unfold evaluateFacts at matched
  split at matched
  · simp at matched
  · rename_i counted
    simp only [not_or, hasUnknown, List.any_eq_true, beq_iff_eq, not_exists, not_and] at counted
    split at matched
    · simp at matched
    · rename_i agreeing
      simp only [List.any_eq_true, beq_iff_eq, not_exists, not_and] at agreeing
      have known := counted.2 fact member
      have agrees := agreeing fact member
      cases value : fact.evaluation with
      | matched => rfl
      | mismatched => exact absurd value agrees
      | unknown => exact absurd value known

/-- The node is a visible entity of the target inside the scope that the selection allows. -/
def ConfirmedEntity (target : ObservationTarget) (observation : StructuredObservation)
    (selection : Option Selection) (scope node : ObservedNode) : Prop :=
  node ∈ entityCandidates host target observation.nodes ∧
    within observation.nodes node scope = true ∧ allowsEntity selection node = true

structure ProvedOnPage (target : ObservationTarget) (observation : StructuredObservation)
    (evidenceKinds : List String) (selection : Option Selection) (binding : BindingEvaluation)
    (scope : ObservedNode) : Prop where
  scope_mem : scope ∈ observation.nodes
  identity : scope.nodeId = binding.scopeIdentity
  single : (candidateScopes host target observation).filter
    (allowsScope host target observation.nodes selection) = [scope]
  facts : List.Forall₂ (fun assertion fact => fact.assertionId = assertion.assertionId ∧
      (ReadFromPage host observation scope assertion fact ∨
        ProvedAbsent observation scope assertion fact)) target.assertions binding.facts
  entity : ∃! node, ConfirmedEntity host target observation selection scope node
  phase : binding.phaseProven = true
  evidence : ∀ kind ∈ target.requiredEvidenceKinds, kind.name ∈ evidenceKinds

theorem matched_binding_proved {target : ObservationTarget} {observation : StructuredObservation}
    {evidenceKinds : List String} {selection : Option Selection} {binding : BindingEvaluation}
    (distinct : (observation.nodes.map (·.nodeId)).Nodup)
    (evaluated : evaluateObservationTarget host target observation evidenceKinds selection =
      .ok binding)
    (ready : binding.readiness = .ready) (matched : binding.evaluation = .matched) :
    ∃ scope, ProvedOnPage host target observation evidenceKinds selection binding scope := by
  obtain ⟨scope, entity, readings, parts⟩ := evaluateObservationTarget_evaluated host evaluated
  obtain ⟨unreasoned, captured⟩ := parts.ready_reasons ready
  obtain ⟨proven, evidence, _⟩ := captureReasons_nil captured
  have same := parts.bound
  subst same
  have agreeing := evaluateFacts_matched matched
  have paired := readAssertions_facts parts.read unreasoned
  refine ⟨scope, parts.scope_mem, rfl, parts.scopes, ?_, ?_, proven, ?_⟩
  · refine (List.forall₂_iff_get.mpr ⟨paired.length_eq, ?_⟩)
    intro index left right
    exact readAssertion_supported host distinct parts.scope_mem (paired.get left right)
      (agreeing _ (List.get_mem ..))
  · have listed (node : ObservedNode) :
        ConfirmedEntity host target observation selection scope node ↔ node ∈ [entity] := by
      rw [← parts.entities]
      simp [ConfirmedEntity, entitiesIn]
    exact ⟨entity, (listed entity).mpr (List.mem_singleton_self entity), fun node confirmed =>
      List.mem_singleton.mp ((listed node).mp confirmed)⟩
  · intro kind member
    simp only [missesEvidence, List.any_eq_false, Bool.not_eq_true', Bool.not_eq_false,
      List.contains_eq_mem, decide_eq_true_eq] at evidence
    exact evidence kind member

theorem filter_narrowed {α : Type} {items : List α} {keep narrow : α → Bool} {wide small : α}
    (all : items.filter keep = [wide])
    (some : items.filter (fun item => keep item && narrow item) = [small]) : small = wide := by
  have member : small ∈ items.filter fun item => keep item && narrow item := by
    rw [some]
    exact List.mem_singleton_self small
  obtain ⟨listed, kept⟩ := List.mem_filter.mp member
  have wideMember : small ∈ items.filter keep :=
    List.mem_filter.mpr ⟨listed, (Bool.and_eq_true_iff.mp kept).1⟩
  rw [all] at wideMember
  exact List.mem_singleton.mp wideMember

theorem bindingOf_facts {target : ObservationTarget} {observation : StructuredObservation}
    {evidenceKinds : List String} {scope entity : ObservedNode} {left right : Readings}
    (same : left.facts = right.facts) :
    (bindingOf target observation evidenceKinds scope entity left).facts =
        (bindingOf target observation evidenceKinds scope entity right).facts ∧
      (bindingOf target observation evidenceKinds scope entity left).evaluation =
        (bindingOf target observation evidenceKinds scope entity right).evaluation :=
  ⟨same, congrArg (evaluateFacts target.assertions.length) same⟩

section States

variable {nodes : List ObservedNode} {target : ObservationTarget} {scope entity : ObservedNode}
  {assertion : Assertion} {selection : Selection}

theorem labeledStateExists_of_mem {state : ObservedNode} (modern : assertion.modern = true)
    (member : state ∈ stateCandidates target nodes none scope entity assertion) :
    labeledStateExists nodes scope assertion = true := by
  simp only [stateCandidates, List.mem_filter, Bool.and_eq_true] at member
  obtain ⟨listed, ⟨⟨⟨here, _⟩, shown⟩, _⟩, _⟩ := member
  cases assertion with
  | v2 legacy => simp [Assertion.modern] at modern
  | v3 current =>
      simp only [showsState, bearsLabel, Option.isSome_none, Bool.false_and, Bool.false_eq_true,
        if_false, Bool.and_eq_true, fitsExpectation] at shown
      obtain ⟨label, fits⟩ := shown
      simp only [labeledStateExists, Assertion.modern, Bool.true_and, List.any_eq_true,
        Bool.and_eq_true, Bool.or_eq_true]
      refine ⟨state, listed, ⟨here, label⟩, ?_⟩
      by_cases visible : (Assertion.v3 current).property = some .visible
      · exact Or.inl (Or.inl (by simp [visible]))
      · by_cases flag : expectsFlag (.v3 current) = true
        · simp only [flag, bne_iff_ne, ne_eq, visible, not_false_eq_true] at fits
          exact Or.inr fits
        · exact Or.inl (Or.inr (by simpa using flag))

theorem stateCandidates_narrowed
    (readable : assertion.modern = true → labeledStateExists nodes scope assertion = true ∨
      assertion.property = some .visible) :
    stateCandidates target nodes (some selection) scope entity assertion =
      (stateCandidates target nodes none scope entity assertion).filter
        (allowsState (some selection) assertion) := by
  have sameLabel (node : ObservedNode) :
      showsState nodes (some selection) scope assertion node =
        showsState nodes none scope assertion node := by
    cases assertion with
    | v2 legacy => rfl
    | v3 current =>
        have plain : bearsLabel nodes (some selection) scope (.v3 current) node =
            named nodes node (Assertion.v3 current).label := by
          unfold bearsLabel
          rcases readable rfl with found | visible
          · simp [found]
          · simp [visible]
        simp only [showsState, plain]
        simp [bearsLabel]
  simp only [stateCandidates, List.filter_filter]
  congr 1
  funext node
  rw [sameLabel node]
  simp only [allowsState, Bool.and_true]
  ac_rfl

/-- An absence is proved only where no visible node carries the label. -/
theorem absence_excludes_states {observation : StructuredObservation} {narrowed : Option Selection}
    (absent : provesAbsence observation scope assertion = true) :
    stateCandidates target observation.nodes narrowed scope entity assertion = [] := by
  have proved := provesAbsence_absent absent
  rw [stateCandidates, List.filter_eq_nil_iff]
  intro node member shown
  simp only [Bool.and_eq_true] at shown
  obtain ⟨⟨⟨⟨here, _⟩, state⟩, _⟩, _⟩ := shown
  have unnamed := proved.unnamed node member here
  have label : named observation.nodes node assertion.label = true := by
    cases assertion with
    | v2 legacy =>
        simp only [showsState, showsSubject, Bool.and_eq_true] at state
        exact state.1
    | v3 current =>
        simp only [showsState, bearsLabel, proved.hidden.1, bne_self_eq_false, Bool.and_false,
          Bool.false_eq_true, if_false, Bool.and_eq_true] at state
        exact state.1
  simp [label] at unnamed

end States

theorem readAssertion_narrowed {target : ObservationTarget} {observation : StructuredObservation}
    {selection : Selection} {scope entity : ObservedNode} {assertion : Assertion}
    {first second : Fact}
    (free : readAssertion host target observation none scope entity assertion = .fact first)
    (chosen : readAssertion host target observation (some selection) scope entity assertion =
      .fact second) : first = second := by
  rcases readAssertion_fact host free with ⟨_, absent, same⟩ | ⟨node, one, same⟩
  · have none : stateCandidates target observation.nodes (some selection) scope entity assertion =
        [] := absence_excludes_states absent
    rcases readAssertion_fact host chosen with ⟨_, _, other⟩ | ⟨node, one, _⟩
    · exact same.trans other.symm
    · simp [one] at none
  · have member : node ∈ stateCandidates target observation.nodes none scope entity assertion := by
      rw [one]
      exact List.mem_singleton_self node
    have narrowed :
        stateCandidates target observation.nodes (some selection) scope entity assertion =
          (stateCandidates target observation.nodes none scope entity assertion).filter
            (allowsState (some selection) assertion) :=
      stateCandidates_narrowed fun modern => Or.inl (labeledStateExists_of_mem modern member)
    rcases readAssertion_fact host chosen with ⟨_, absent, _⟩ | ⟨other, otherOne, otherSame⟩
    · have empty : stateCandidates target observation.nodes none scope entity assertion = [] :=
        absence_excludes_states absent
      simp [one] at empty
    · rw [narrowed, one] at otherOne
      have kept : other ∈ [node].filter (allowsState (some selection) assertion) := by
        rw [otherOne]
        exact List.mem_singleton_self other
      have sameNode := List.mem_singleton.mp (List.mem_filter.mp kept).1
      rw [same, otherSame, sameNode]

theorem forall₂_same_facts {assertions : List Assertion} {free chosen : Assertion → Reading}
    {first second : List Fact}
    (agree : ∀ assertion left right, free assertion = .fact left → chosen assertion = .fact right →
      left = right)
    (freeFacts : List.Forall₂ (fun assertion fact => free assertion = .fact fact) assertions first)
    (chosenFacts :
      List.Forall₂ (fun assertion fact => chosen assertion = .fact fact) assertions second) :
    first = second := by
  induction freeFacts generalizing second with
  | nil =>
      cases chosenFacts
      rfl
  | cons head _ ih =>
      cases chosenFacts with
      | cons otherHead otherTail => rw [agree _ _ _ head otherHead, ih otherTail]

/-- A selection never changes a verdict the page determines on its own. -/
theorem selection_keeps_verdict {target : ObservationTarget} {observation : StructuredObservation}
    {evidenceKinds : List String} {selection : Selection} {free chosen : BindingEvaluation}
    (freely : evaluateObservationTarget host target observation evidenceKinds none = .ok free)
    (freeReady : free.readiness = .ready)
    (selected : evaluateObservationTarget host target observation evidenceKinds (some selection) =
      .ok chosen)
    (chosenReady : chosen.readiness = .ready) :
    chosen.scopeIdentity = free.scopeIdentity ∧ chosen.entityKey = free.entityKey ∧
      chosen.facts = free.facts ∧ chosen.evaluation = free.evaluation := by
  obtain ⟨scope, entity, readings, parts⟩ := evaluateObservationTarget_evaluated host freely
  obtain ⟨chosenScope, chosenEntity, chosenReadings, chosenParts⟩ :=
    evaluateObservationTarget_evaluated host selected
  have sameScope : chosenScope = scope :=
    filter_narrowed parts.scopes (by simpa [allowsScope] using chosenParts.scopes)
  subst sameScope
  have sameEntity : chosenEntity = entity := by
    have narrowed : (entityCandidates host target observation.nodes).filter (fun node =>
        (within observation.nodes node chosenScope && allowsEntity none node) &&
          allowsEntity (some selection) node) = [chosenEntity] := by
      rw [← chosenParts.entities]
      simp [entitiesIn, allowsEntity]
    exact filter_narrowed parts.entities narrowed
  subst sameEntity
  have sameFacts : chosenReadings.facts = readings.facts :=
    (forall₂_same_facts (fun _ _ _ => readAssertion_narrowed host)
      (readAssertions_facts parts.read (parts.ready_reasons freeReady).1)
      (readAssertions_facts chosenParts.read (chosenParts.ready_reasons chosenReady).1)).symm
  rw [parts.bound, chosenParts.bound]
  exact ⟨rfl, rfl, bindingOf_facts sameFacts⟩

end Host

def namingHost : Host := .ofTables {}

def saveDialog : ObservedNode :=
  { nodeId := "dialog", ref := some "d", frameId := "frame", documentEpoch := "doc", tag := "div",
    role := some "dialog", visible := true }

def saveButton (id : String) : ObservedNode :=
  { nodeId := id, ref := some id, parentId := some "dialog", frameId := "frame",
    documentEpoch := "doc", tag := "button", name := some "Save", nameSource := some .aria,
    visible := true }

def savePage (buttons : List String) : StructuredObservation :=
  { captureId := "capture", capturedFrom := "2026-01-01T00:00:00.000Z",
    capturedUntil := "2026-01-01T00:00:00.000Z", pageIdentity := "https://fixture.test",
    nodes := saveDialog :: buttons.map saveButton, consistency := .verified,
    coverage := { scope := .viewport, completeWithinScope := true, truncated := false } }

def saveTarget : ObservationTarget :=
  .v3
    { targetId := "save", label := "Save", identity := { text := "Save" }, phase := .current,
      assertions := [
        { assertionId := "shown", property := some .visible, label := "Save",
          expected := some (.flag true) }],
      requiredEvidenceKinds := [.dom] }

def saveSelection : Selection :=
  { scopeRef := "d", entityRef := "first", assertionRefs := [("shown", "first")] }

def saveBinding : BindingEvaluation :=
  { targetId := "save", scopeIdentity := "dialog", entityKey := "Save", phase := .current,
    phaseProven := true, regionEpoch := none,
    facts := [
      { assertionId := "shown", nodeId := "first", property := .visible,
        actual := some (.flag true), evaluation := .matched }],
    evaluation := .matched, readiness := .ready, reasons := [] }

theorem saveBinding_selected :
    evaluateObservationTarget namingHost saveTarget (savePage ["first", "second"]) ["DOM"]
      (some saveSelection) = .ok saveBinding := by
  decide

/-- A selection may confirm one of two visible entities of the same name. -/
theorem selected_entity_not_single :
    let page := savePage ["first", "second"]
    (page.nodes.map (·.nodeId)).Nodup ∧ (page.nodes.map (·.ref)).Nodup ∧
      (∃ binding, evaluateObservationTarget namingHost saveTarget page ["DOM"]
        (some saveSelection) = .ok binding ∧ binding.readiness = .ready ∧
        binding.evaluation = .matched ∧ binding.scopeIdentity = saveDialog.nodeId) ∧
      ¬∃! node, ConfirmedEntity namingHost saveTarget page none saveDialog node := by
  refine ⟨by decide, by decide, ⟨saveBinding, saveBinding_selected, rfl, rfl, rfl⟩, ?_⟩
  rintro ⟨node, _, unique⟩
  have first := unique (saveButton "first") (by unfold ConfirmedEntity; decide)
  have second := unique (saveButton "second") (by unfold ConfirmedEntity; decide)
  exact absurd (first.trans second.symm) (by decide)

theorem selected_save_proved :
    ∃ scope, ProvedOnPage namingHost saveTarget (savePage ["first", "second"]) ["DOM"]
      (some saveSelection) saveBinding scope :=
  matched_binding_proved namingHost (by decide) saveBinding_selected rfl rfl

theorem single_save_free :
    evaluateObservationTarget namingHost saveTarget (savePage ["first"]) ["DOM"] none =
      .ok saveBinding := by
  decide

theorem single_save_selected :
    evaluateObservationTarget namingHost saveTarget (savePage ["first"]) ["DOM"]
      (some saveSelection) = .ok saveBinding := by
  decide

theorem single_save_verdict :
    ∃ free chosen,
      evaluateObservationTarget namingHost saveTarget (savePage ["first"]) ["DOM"] none =
        .ok free ∧
      evaluateObservationTarget namingHost saveTarget (savePage ["first"]) ["DOM"]
        (some saveSelection) = .ok chosen ∧
      chosen.scopeIdentity = free.scopeIdentity ∧ chosen.entityKey = free.entityKey ∧
        chosen.facts = free.facts ∧ chosen.evaluation = free.evaluation :=
  ⟨saveBinding, saveBinding, single_save_free, single_save_selected,
    selection_keeps_verdict namingHost single_save_free rfl single_save_selected rfl⟩

end Devproof
