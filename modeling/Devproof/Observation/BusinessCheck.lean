import Devproof.Observation.Frozen

/-!
Business checks (`observation-contract.ts`): what the generator states, and the
version 3 contract compiled from it.
-/

namespace Devproof

structure BusinessState where
  property : Option PropertyV3 := none
  matchMode : Option MatchMode := none
  label : String
  equals : ExpectedV3
  deriving Repr, DecidableEq

structure BusinessCheckInput where
  subjects : List String
  identityMatchMode : Option MatchMode := none
  state : BusinessState
  when : Option TargetPhase := none
  compareWith : Option String := none
  dimensions : Option (List String) := none
  deriving Repr, DecidableEq

structure BusinessCheck where
  subjects : List String
  identityMatchMode : Option MatchMode
  state : BusinessState
  when : TargetPhase
  compareWith : Option String
  dimensions : List String
  deriving Repr, DecidableEq

def BusinessCheckInput.clean (input : BusinessCheckInput) : BusinessCheck where
  subjects := input.subjects.map trim
  identityMatchMode := input.identityMatchMode
  state := { input.state with label := trim input.state.label }
  when := input.when.getD .current
  compareWith := input.compareWith.map trim
  dimensions := (input.dimensions.getD []).map trim

namespace PropertyV3

def flagged : PropertyV3 → Bool
  | .checked => true
  | .visible => true
  | .text => false
  | .value => false

end PropertyV3

namespace ExpectedV3

def isFlag : ExpectedV3 → Bool
  | .flag _ => true
  | .text _ => false

def fits : ExpectedV3 → Bool
  | .flag _ => true
  | .text expected => decide (units expected ≤ 500)

end ExpectedV3

namespace BusinessCheck

def fits (check : BusinessCheck) : Bool :=
  (filled 20 check.subjects && check.subjects.all (textFits 120)) &&
    textFits 80 check.state.label && check.state.equals.fits &&
    check.compareWith.all (textFits 120) &&
    (decide (check.dimensions.length ≤ 8) && check.dimensions.all (textFits 80))

def reference (check : BusinessCheck) : Option String :=
  check.compareWith.filter fun name => name != ""

def issues (check : BusinessCheck) : List SchemaIssue :=
  issueIf (check.state.matchMode == some .displayText && check.state.property != some .text)
      "DISPLAY_TEXT is only valid for TEXT assertions." ["state", "matchMode"] ++
    issueIf (check.state.property.any fun property =>
        property.flagged != check.state.equals.isFlag)
      "CHECKED/VISIBLE require a boolean; TEXT/VALUE require a string." ["state", "equals"] ++
    issueIf (repeated check.subjects) "Business subjects must be unique." ++
    issueIf (check.reference.any check.subjects.contains)
      "Comparison reference must differ from the subjects." ++
    issueIf (check.reference.isSome != !check.dimensions.isEmpty)
      "Comparison reference and dimensions must be supplied together."

end BusinessCheck

def businessCheckSchema (input : BusinessCheckInput) : Except Rejection BusinessCheck :=
  if input.clean.fits then
    if input.clean.issues = [] then .ok input.clean else .error (.rules input.clean.issues)
  else .error .fields

/-- The object that is spread into every comparison.  `others` names its members besides the
two; none of them is a member of the comparison, which it would replace. -/
structure ComparisonBasis where
  sourceRef : String
  quote : String
  others : List String := []
  foreign : ∀ name ∈ others, name ∉ ["comparisonId", "subjectTargetId", "referenceTargetId",
    "dimensions", "sourceRef", "quote"] := by decide
  deriving DecidableEq

namespace ComparisonBasis

def clean (basis : ComparisonBasis) : ComparisonBasis :=
  { basis with sourceRef := trim basis.sourceRef, quote := trim basis.quote }

def Fits (basis : ComparisonBasis) : Prop :=
  labelFits basis.clean.sourceRef = true ∧ textFits 2000 basis.clean.quote = true

instance (basis : ComparisonBasis) : Decidable basis.Fits :=
  inferInstanceAs (Decidable (_ ∧ _))

end ComparisonBasis

def subjectName (index : Nat) : String :=
  "subject-" ++ toString (index + 1)

def comparisonName (index : Nat) : String :=
  "comparison-" ++ toString (index + 1)

namespace BusinessCheck

section Compile

variable (check : BusinessCheck) (basis : ComparisonBasis) (kinds : List String)

def identities : List String :=
  check.subjects ++ check.reference.toList

def target (index : Nat) (subject : String) : TargetV3 where
  targetId := subjectName index
  label := subject
  identity := { text := subject, matchMode := check.identityMatchMode }
  phase := if index < check.subjects.length then check.when else .current
  assertions := [{
    assertionId := "state"
    label := check.state.label
    property := check.state.property
    matchMode := check.state.matchMode
    expected := if index < check.subjects.length then some check.state.equals else none }]
  requiredEvidenceKinds :=
    .dom :: if check.reference.isSome || kinds.contains "SCREENSHOT" then [.screenshot] else []

def comparison (index : Nat) : VisualComparisonRequirement where
  comparisonId := comparisonName index
  subjectTargetId := subjectName index
  referenceTargetId := "subject-" ++ toString check.identities.length
  dimensions := check.dimensions
  sourceRef := basis.sourceRef
  quote := basis.quote

def plan : Contract TargetV3 where
  targets := check.identities.mapIdx (check.target kinds)
  comparisons :=
    if check.reference.isSome then check.subjects.mapIdx fun index _ => check.comparison basis index
    else []

end Compile

end BusinessCheck

/-- The schema of a comparison is strict: it refuses members of other names. -/
def compileBusinessCheck (check : BusinessCheck) (basis : ComparisonBasis) (kinds : List String) :
    Except Rejection (Contract TargetV3) :=
  if !(check.plan basis kinds).comparisons.isEmpty && !basis.others.isEmpty then .error .fields
  else observationContractV3Schema (check.plan basis kinds)

namespace BusinessCheck

structure Accepted (check : BusinessCheck) : Prop where
  few : 1 ≤ check.subjects.length ∧ check.subjects.length ≤ 20
  subjects : ∀ subject ∈ check.subjects, trim subject = subject ∧ textFits 120 subject = true
  label : trim check.state.label = check.state.label ∧ textFits 80 check.state.label = true
  equals : check.state.equals.fits = true
  named : ∀ name, check.compareWith = some name → trim name = name ∧ textFits 120 name = true
  fewDimensions : check.dimensions.length ≤ 8
  dimensions : ∀ dimension ∈ check.dimensions,
    trim dimension = dimension ∧ textFits 80 dimension = true
  displayText : check.state.matchMode = some .displayText → check.state.property = some .text
  distinct : check.subjects.Nodup
  different : ∀ name, check.compareWith = some name → name ∉ check.subjects
  together : check.compareWith.isSome = !check.dimensions.isEmpty

theorem reference_eq {check : BusinessCheck}
    (named : ∀ name, check.compareWith = some name → textFits 120 name = true) :
    check.reference = check.compareWith := by
  cases given : check.compareWith with
  | none => simp [reference, given]
  | some name =>
      have filled : name ≠ "" := by
        rintro rfl
        exact absurd (named "" given) (by decide)
      simp [reference, given, filled]

theorem accepted_of_schema {input : BusinessCheckInput} {check : BusinessCheck}
    (parsed : businessCheckSchema input = .ok check) : check.Accepted := by
  unfold businessCheckSchema at parsed
  split at parsed
  · rename_i bounded
    split at parsed
    · rename_i valid
      cases parsed
      simp only [fits, filled, Bool.and_eq_true, decide_eq_true_eq, List.all_eq_true,
        Option.all_eq_true] at bounded
      obtain ⟨⟨⟨⟨⟨few, subjects⟩, label⟩, equals⟩, named⟩, fewDimensions, dimensions⟩ := bounded
      have same := reference_eq named
      simp only [issues, List.append_eq_nil_iff, issueIf_eq_nil, repeated_eq_false, same] at valid
      obtain ⟨⟨⟨⟨displayText, -⟩, distinct⟩, different⟩, together⟩ := valid
      have trimmed : ∀ items : List String, ∀ item ∈ items.map trim, trim item = item := by
        intro items item member
        obtain ⟨old, -, rfl⟩ := List.mem_map.mp member
        exact trim_trim old
      refine {
        few := few
        subjects := fun subject member => ⟨trimmed _ subject member, subjects subject member⟩
        label := ⟨trim_trim _, label⟩
        equals := equals
        named := fun name given => ⟨?_, named name given⟩
        fewDimensions := fewDimensions
        dimensions := fun dimension member =>
          ⟨trimmed _ dimension member, dimensions dimension member⟩
        displayText := ?_
        distinct := distinct
        different := ?_
        together := ?_ }
      · obtain ⟨old, -, rfl⟩ := Option.map_eq_some_iff.mp given
        exact trim_trim old
      · intro mode
        simpa [mode] using displayText
      · intro name given
        simpa [given] using different
      · exact bne_eq_false_iff_eq.mp together
    · cases parsed
  · cases parsed

theorem subjectName_identifier :
    ∀ index < 21, trim (subjectName index) = subjectName index ∧
      identifierFits (subjectName index) = true := by
  decide

theorem comparisonName_identifier :
    ∀ index < 20, trim (comparisonName index) = comparisonName index ∧
      identifierFits (comparisonName index) = true := by
  decide

theorem subjectName_injective : Function.Injective subjectName := by
  intro left right same
  have numbers := toString_injective (append_left_injective _ same)
  omega

theorem comparisonName_injective : Function.Injective comparisonName := by
  intro left right same
  have numbers := toString_injective (append_left_injective _ same)
  omega

theorem textFits_weaken {limit larger : Nat} (wider : limit ≤ larger) {text : String}
    (bounded : textFits limit text = true) : textFits larger text = true := by
  simp only [textFits, Bool.and_eq_true, decide_eq_true_eq] at bounded ⊢
  omega

section Plan

variable {check : BusinessCheck} {basis : ComparisonBasis} {kinds : List String}
  (accepted : check.Accepted)

include accepted

theorem Accepted.reference_eq : check.reference = check.compareWith :=
  BusinessCheck.reference_eq fun name given => (accepted.named name given).2

theorem Accepted.identities_eq : check.identities = check.subjects ++ check.compareWith.toList := by
  rw [identities, accepted.reference_eq]

theorem Accepted.identity {identity : String} (member : identity ∈ check.identities) :
    trim identity = identity ∧ textFits 120 identity = true := by
  rw [accepted.identities_eq, List.mem_append, Option.mem_toList] at member
  rcases member with subject | reference
  · exact accepted.subjects identity subject
  · exact accepted.named identity reference

theorem Accepted.identities_few :
    1 ≤ check.identities.length ∧ check.identities.length ≤ 21 := by
  rw [accepted.identities_eq, List.length_append]
  have few := accepted.few
  cases check.compareWith <;> simp <;> omega

theorem Accepted.identities_distinct : check.identities.Nodup := by
  rw [accepted.identities_eq]
  cases given : check.compareWith with
  | none => simpa using accepted.distinct
  | some name =>
      exact List.Nodup.append accepted.distinct (List.nodup_singleton name)
        (List.disjoint_singleton.mpr (accepted.different name given))

theorem target_keeps {index : Nat} (bound : index < 21) {identity : String}
    (member : identity ∈ check.identities) :
    (check.target kinds index identity).clean = check.target kinds index identity ∧
      (check.target kinds index identity).fits = true := by
  obtain ⟨trimmed, short⟩ := accepted.identity member
  obtain ⟨trimmed', short'⟩ := subjectName_identifier index bound
  have label := accepted.label
  have longer := @textFits_weaken _ 500 (by omega) _ short
  constructor
  · simp only [target, TargetV3.clean, AssertionV3.clean, List.map_cons, List.map_nil, trimmed,
      trimmed', label.1]
    rfl
  · have expected : (check.target kinds index identity).assertions.all AssertionV3.fits = true := by
      simp only [target, List.all_cons, List.all_nil, AssertionV3.fits, Bool.and_true,
        Bool.and_eq_true]
      refine ⟨⟨by decide, textFits_weaken (by omega) label.2⟩, ?_⟩
      have bounded := accepted.equals
      split
      · rename_i text given
        split at given
        · rw [Option.some.injEq] at given
          rw [given] at bounded
          exact bounded
        · cases given
      · rfl
    simp only [TargetV3.fits, expected, Bool.and_true, Bool.and_eq_true]
    refine ⟨⟨⟨⟨short', longer⟩, longer⟩, rfl⟩, ?_⟩
    simp only [target]
    split <;> decide

omit accepted in
/-- The reference follows the subjects. -/
theorem reference_name (compared : check.reference.isSome = true) :
    "subject-" ++ toString check.identities.length = subjectName check.subjects.length := by
  obtain ⟨name, given⟩ := Option.isSome_iff_exists.mp compared
  rw [identities, given, List.length_append]
  rfl

theorem Accepted.dimensions_given (compared : check.reference.isSome = true) :
    1 ≤ check.dimensions.length := by
  rw [accepted.reference_eq, accepted.together] at compared
  cases none : check.dimensions with
  | nil => simp [none] at compared
  | cons first rest => simp

theorem comparison_keeps (fits : basis.Fits) (compared : check.reference.isSome = true)
    {index : Nat} (bound : index < check.subjects.length) :
    (check.comparison basis index).clean = check.comparison basis.clean index ∧
      (check.comparison basis.clean index).fits = true := by
  have few := accepted.few
  have reference := subjectName_identifier check.subjects.length (by omega)
  have subject := subjectName_identifier index (by omega)
  have named := comparisonName_identifier index (by omega)
  rw [← reference_name compared] at reference
  have dimensions : check.dimensions.map trim = check.dimensions :=
    (List.map_congr_left fun dimension member => (accepted.dimensions dimension member).1).trans
      (List.map_id' _)
  constructor
  · simp only [comparison, VisualComparisonRequirement.clean, named.1, subject.1, reference.1,
      dimensions, ComparisonBasis.clean]
  · have short : check.dimensions.all labelFits = true :=
      List.all_eq_true.mpr fun dimension member =>
        textFits_weaken (by omega) (accepted.dimensions dimension member).2
    have given := accepted.dimensions_given compared
    simp only [comparison, VisualComparisonRequirement.fits, filled, Bool.and_eq_true]
    exact ⟨⟨⟨⟨⟨named.2, subject.2⟩, reference.2⟩,
      ⟨decide_eq_true given, decide_eq_true accepted.fewDimensions⟩, short⟩, fits.1⟩, fits.2⟩

theorem plan_keeps (fits : basis.Fits) :
    (check.plan basis kinds).clean = check.plan basis.clean kinds ∧
      (check.plan basis.clean kinds).fits 21 = true := by
  have few := accepted.few
  have bounds := accepted.identities_few
  have targets : ∀ target ∈ (check.plan basis kinds).targets,
      target.clean = target ∧ target.fits = true :=
    forall_mapIdx fun index bound identity member => target_keeps accepted (by omega) member
  have cleaned : (check.plan basis kinds).targets.map ContractTarget.clean =
      (check.plan basis.clean kinds).targets :=
    (List.map_congr_left fun target member => (targets target member).1).trans (List.map_id' _)
  have small : (filled 21 (check.plan basis.clean kinds).targets = true) ∧
      (check.plan basis.clean kinds).targets.all ContractTarget.fits = true := by
    constructor
    · simpa [filled, plan] using bounds
    · exact List.all_eq_true.mpr fun target member => (targets target member).2
  by_cases compared : check.reference.isSome = true
  · have comparisons : (check.plan basis kinds).comparisons.map
        VisualComparisonRequirement.clean = (check.plan basis.clean kinds).comparisons := by
      simp only [plan, if_pos compared, map_mapIdx]
      apply List.ext_getElem
      · simp
      · intro index bound bound'
        have inside : index < check.subjects.length := by simpa using bound
        simp only [List.getElem_mapIdx]
        exact (comparison_keeps accepted fits compared inside).1
    have fitting : (check.plan basis.clean kinds).comparisons.all
        VisualComparisonRequirement.fits = true := by
      refine List.all_eq_true.mpr ?_
      simp only [plan, if_pos compared]
      exact forall_mapIdx fun index bound _ _ =>
        (comparison_keeps accepted fits compared bound).2
    have count : (check.plan basis.clean kinds).comparisons.length ≤ 100 := by
      simp only [plan, if_pos compared, List.length_mapIdx]
      omega
    constructor
    · exact (Contract.mk.injEq ..).mpr ⟨cleaned, comparisons⟩
    · rw [Contract.fits, small.1, small.2, fitting]
      simp [count]
  · have none : ∀ basis, (check.plan basis kinds).comparisons = [] := by
      intro basis
      simp only [plan, if_neg compared]
    have comparisons : (check.plan basis kinds).comparisons.map
        VisualComparisonRequirement.clean = (check.plan basis.clean kinds).comparisons := by
      rw [none, none]
      rfl
    constructor
    · exact (Contract.mk.injEq ..).mpr ⟨cleaned, comparisons⟩
    · rw [Contract.fits, small.1, small.2, none]
      rfl

omit accepted in
theorem plan_targetIds : (check.plan basis kinds).targetIds.Nodup := by
  rw [Contract.targetIds, plan, map_mapIdx]
  exact names_nodup subjectName_injective check.identities

omit accepted in
theorem plan_texts :
    ((check.plan basis kinds).targets.map fun target => target.identity.text) =
      check.identities := by
  rw [plan, map_mapIdx]
  exact (mapIdx_const _ fun identity => identity).trans (List.map_id' _)

theorem Accepted.reference_position {index : Nat} (bound : index < check.identities.length)
    (later : ¬ index < check.subjects.length) :
    check.reference.isSome = true ∧ index = check.subjects.length := by
  rw [accepted.identities_eq, List.length_append] at bound
  rw [accepted.reference_eq]
  cases given : check.compareWith with
  | none =>
      rw [given] at bound
      simp at bound
      omega
  | some name =>
      rw [given] at bound
      simp at bound
      exact ⟨rfl, by omega⟩

theorem target_issues {index : Nat} (bound : index < check.identities.length)
    (identity : String) :
    (check.target kinds index identity).issues (check.plan basis kinds).comparisons = [] := by
  simp only [TargetV3.issues, List.append_eq_nil_iff, issueIf_eq_nil, List.flatMap_eq_nil_iff]
  refine ⟨⟨⟨?_, ?_⟩, ?_⟩, ?_⟩
  · intro assertion member
    rw [target, List.mem_singleton] at member
    subst member
    cases mode : check.state.matchMode with
    | none => rfl
    | some mode' =>
        cases mode' with
        | exact => rfl
        | displayText => simp [accepted.displayText mode]
  · by_cases subject : index < check.subjects.length
    · simp [target, subject]
    · obtain ⟨compared, here⟩ := accepted.reference_position bound subject
      subst here
      have referred : (check.plan basis kinds).comparisons.any (fun comparison =>
          comparison.referenceTargetId == subjectName check.subjects.length) = true := by
        simp only [plan, if_pos compared]
        refine List.any_eq_true.mpr
          ⟨check.comparison basis 0, List.mem_mapIdx.mpr ⟨0, accepted.few.1, rfl⟩, ?_⟩
        rw [comparison, reference_name compared]
        exact beq_self_eq_true _
      have apart : (check.plan basis kinds).comparisons.any (fun comparison =>
          comparison.subjectTargetId == subjectName check.subjects.length) = false := by
        simp only [plan, if_pos compared]
        refine List.any_eq_false.mpr (forall_mapIdx fun place inside _ _ same => ?_)
        have here := subjectName_injective (beq_iff_eq.mp same)
        omega
      simp [target, referred, apart]
  · simp [target]
  · rw [repeated_eq_false]
    exact List.nodup_singleton _

omit accepted in
theorem plan_photographed (compared : check.reference.isSome = true) {index : Nat}
    (bound : index < check.identities.length) :
    (check.plan basis kinds).photographed (subjectName index) = true := by
  refine (Contract.photographed_iff plan_targetIds).mpr
    ⟨_, List.mem_mapIdx.mpr ⟨index, bound, rfl⟩, rfl, ?_⟩
  simp [ContractTarget.requiredEvidenceKinds, target, compared]

theorem plan_issues : (check.plan basis kinds).issuesV3 = [] := by
  simp only [Contract.issuesV3, List.append_eq_nil_iff, issueIf_eq_nil, repeated_eq_false,
    bne_eq_false_iff_eq, List.flatMap_eq_nil_iff]
  refine ⟨⟨⟨plan_targetIds, ?_⟩, ?_⟩, ?_⟩
  · rw [plan_texts, accepted.identities_distinct.dedup, plan_targetIds.dedup]
    simp [Contract.targetIds, plan]
  · intro target member
    obtain ⟨index, bound, rfl⟩ := List.mem_mapIdx.mp member
    exact target_issues accepted bound _
  · refine Contract.comparisonIssues_eq_nil.mpr ?_
    by_cases compared : check.reference.isSome = true
    · have last : check.subjects.length < check.identities.length := by
        obtain ⟨name, given⟩ := Option.isSome_iff_exists.mp compared
        simp [identities, given]
      constructor
      · simp only [Contract.comparisonIds, plan, if_pos compared, map_mapIdx]
        exact names_nodup comparisonName_injective check.subjects
      · simp only [plan, if_pos compared]
        refine forall_mapIdx fun index bound _ _ => ?_
        rw [comparison, reference_name compared]
        refine ⟨fun same => ?_, @plan_photographed check basis kinds compared _ (by omega),
          @plan_photographed check basis kinds compared _ last⟩
        have here := subjectName_injective same
        omega
    · have none : (check.plan basis kinds).comparisons = [] := by
        simp only [plan, if_neg compared]
      simp [Contract.comparisonIds, none]

end Plan

end BusinessCheck

theorem compileBusinessCheck_eq {check : BusinessCheck} (accepted : check.Accepted)
    {basis : ComparisonBasis} (fits : basis.Fits) (kinds : List String)
    (plain : check.compareWith = none ∨ basis.others = []) :
    compileBusinessCheck check basis kinds = .ok (check.plan basis.clean kinds) := by
  obtain ⟨cleaned, bounded⟩ := @BusinessCheck.plan_keeps check basis kinds accepted fits
  have spread : (!(check.plan basis kinds).comparisons.isEmpty && !basis.others.isEmpty) = false := by
    rcases plain with alone | none
    · simp [BusinessCheck.plan, accepted.reference_eq, alone]
    · simp [none]
  rw [compileBusinessCheck, spread, if_neg Bool.false_ne_true, observationContractV3Schema,
    parseContract, cleaned, if_pos bounded, if_pos (BusinessCheck.plan_issues accepted)]

theorem compileBusinessCheck_spread {check : BusinessCheck} (accepted : check.Accepted)
    {basis : ComparisonBasis} (kinds : List String) (compared : check.compareWith ≠ none)
    (spread : basis.others ≠ []) : compileBusinessCheck check basis kinds = .error .fields := by
  have shown : check.reference.isSome = true := by
    rw [accepted.reference_eq]
    exact Option.isSome_iff_ne_none.mpr compared
  have subjects : check.subjects ≠ [] := List.ne_nil_of_length_pos accepted.few.1
  rw [compileBusinessCheck, if_pos]
  simp [BusinessCheck.plan, shown, subjects, spread]

namespace BusinessCheck

structure Carries (check : BusinessCheck) (expected : Option ExpectedV3) (assertion : AssertionV3) :
    Prop where
  label : assertion.label = check.state.label
  property : assertion.property = check.state.property
  matchMode : assertion.matchMode = check.state.matchMode
  expected : assertion.expected = expected

structure Asserts (check : BusinessCheck) (identity : String) (phase : TargetPhase)
    (expected : Option ExpectedV3) (target : TargetV3) : Prop where
  label : target.label = identity
  identity : target.identity = { text := identity, matchMode := check.identityMatchMode }
  phase : target.phase = phase
  single : ∃ assertion, target.assertions = [assertion] ∧ check.Carries expected assertion

structure Compares (check : BusinessCheck) (basis : ComparisonBasis)
    (comparison : VisualComparisonRequirement) (subject reference : TargetV3) : Prop where
  subject : comparison.subjectTargetId = subject.targetId
  reference : comparison.referenceTargetId = reference.targetId
  dimensions : comparison.dimensions = check.dimensions
  sourceRef : comparison.sourceRef = basis.clean.sourceRef
  quote : comparison.quote = basis.clean.quote

structure Obliged (check : BusinessCheck) (basis : ComparisonBasis) (contract : Contract TargetV3) :
    Prop where
  count : contract.targets.length = check.subjects.length + check.compareWith.toList.length
  subjects : ∀ (index : Nat) (subject : String), check.subjects[index]? = some subject →
    ∃ target, contract.targets[index]? = some target ∧
      check.Asserts subject check.when (some check.state.equals) target
  reference : ∀ name, check.compareWith = some name →
    ∃ reference, contract.targets[check.subjects.length]? = some reference ∧
      check.Asserts name .current none reference ∧
      contract.comparisons.length = check.subjects.length ∧
      ∀ index < check.subjects.length, ∃ subject comparison,
        contract.targets[index]? = some subject ∧ contract.comparisons[index]? = some comparison ∧
          check.Compares basis comparison subject reference
  alone : check.compareWith = none → contract.comparisons = []

theorem target_asserts (check : BusinessCheck) (kinds : List String) (index : Nat)
    (identity : String) :
    check.Asserts identity (if index < check.subjects.length then check.when else .current)
      (if index < check.subjects.length then some check.state.equals else none)
      (check.target kinds index identity) where
  label := rfl
  identity := rfl
  phase := rfl
  single := ⟨_, rfl, rfl, rfl, rfl, rfl⟩

theorem plan_target_at {check : BusinessCheck} {basis : ComparisonBasis} {kinds : List String}
    {index : Nat} {identity : String} (found : check.identities[index]? = some identity) :
    (check.plan basis kinds).targets[index]? = some (check.target kinds index identity) := by
  rw [plan, List.getElem?_mapIdx, found]
  rfl

theorem plan_obliged {check : BusinessCheck} (accepted : check.Accepted) {basis : ComparisonBasis}
    {kinds : List String} : check.Obliged basis (check.plan basis.clean kinds) where
  count := by
    rw [plan, List.length_mapIdx, accepted.identities_eq, List.length_append]
  subjects := by
    intro index subject found
    obtain ⟨bound, -⟩ := List.getElem?_eq_some_iff.mp found
    have place : check.identities[index]? = some subject := by
      rw [identities, List.getElem?_append_left bound, found]
    have asserts := target_asserts check kinds index subject
    rw [if_pos bound, if_pos bound] at asserts
    exact ⟨_, plan_target_at place, asserts⟩
  reference := by
    intro name given
    have compared : check.reference.isSome = true := by
      rw [accepted.reference_eq, given]
      rfl
    have place : check.identities[check.subjects.length]? = some name := by
      rw [accepted.identities_eq, given]
      simp
    have asserts := target_asserts check kinds check.subjects.length name
    rw [if_neg (Nat.lt_irrefl _), if_neg (Nat.lt_irrefl _)] at asserts
    refine ⟨_, plan_target_at place, asserts, ?_, ?_⟩
    · simp only [plan, if_pos compared, List.length_mapIdx]
    · intro index bound
      have here : check.identities[index]? = some check.subjects[index] := by
        rw [identities, List.getElem?_append_left bound, List.getElem?_eq_getElem bound]
      refine ⟨_, check.comparison basis.clean index, plan_target_at here, ?_, rfl, ?_, rfl, rfl,
        rfl⟩
      · simp [plan, if_pos compared, bound]
      · exact reference_name compared
  alone := by
    intro absent
    simp [plan, accepted.reference_eq, absent]

end BusinessCheck

/-- An accepted check compiles to its obligations just when it compares nothing or the basis has
no members besides its source and its quote. -/
theorem business_check_compiled_iff {input : BusinessCheckInput} {check : BusinessCheck}
    (parsed : businessCheckSchema input = .ok check) {basis : ComparisonBasis}
    (fits : basis.Fits) (kinds : List String) :
    (∃ contract, compileBusinessCheck check basis kinds = .ok contract ∧
      check.Obliged basis contract) ↔ check.compareWith = none ∨ basis.others = [] := by
  have accepted := BusinessCheck.accepted_of_schema parsed
  constructor
  · rintro ⟨contract, compiled, -⟩
    by_contra spread
    obtain ⟨compared, others⟩ := not_or.mp spread
    rw [compileBusinessCheck_spread accepted kinds compared others] at compiled
    cases compiled
  · intro plain
    exact ⟨_, compileBusinessCheck_eq accepted fits kinds plain,
      BusinessCheck.plan_obliged accepted⟩

/-! A check of two switches against a third one. -/

def shownCheck : BusinessCheck where
  subjects := ["Notify", "Archive"]
  identityMatchMode := none
  state := { property := some .checked, label := "enabled", equals := .flag true }
  when := .initialAfterOpen
  compareWith := some "Sync"
  dimensions := ["colour"]

def shownInput : BusinessCheckInput where
  subjects := [" Notify", "Archive "]
  state := { property := some .checked, label := "enabled", equals := .flag true }
  when := some .initialAfterOpen
  compareWith := some "Sync"
  dimensions := some ["colour"]

def shownBasis : ComparisonBasis where
  sourceRef := "requirement"
  quote := "the switches look alike"

theorem shown_check_compiled :
    ∃ contract, compileBusinessCheck shownCheck shownBasis ["DOM"] = .ok contract ∧
      shownCheck.Obliged shownBasis contract :=
  (@business_check_compiled_iff shownInput shownCheck (by decide) shownBasis
    (by decide) ["DOM"]).mpr (Or.inr rfl)

/-- A requirement of the specification, as it is passed for the basis. -/
def requirementBasis : ComparisonBasis where
  sourceRef := "requirement"
  quote := "the switches look alike"
  others := ["id", "description"]

theorem shown_check_refused :
    businessCheckSchema shownInput = .ok shownCheck ∧ requirementBasis.Fits ∧
      compileBusinessCheck shownCheck requirementBasis ["DOM"] = .error .fields := by
  decide

end Devproof
