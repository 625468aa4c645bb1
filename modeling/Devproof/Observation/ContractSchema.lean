import Mathlib.Data.List.Dedup
import Devproof.Observation.Contract

/-!
The schemas of observation contracts (`observation-contract.ts`), versions 2 and 3.
A schema trims the strings it is given, checks the bounds of the fields, and then
the rules between them.
-/

namespace Devproof

structure VisualComparisonRequirement extends VisualComparison where
  dimensions : List String
  sourceRef : String
  quote : String
  deriving Repr, DecidableEq

structure Contract (Target : Type) where
  targets : List Target
  comparisons : List VisualComparisonRequirement := []
  deriving Repr, DecidableEq

inductive ContractDocument where
  | v2 (contract : Contract TargetV2)
  | v3 (contract : Contract TargetV3)
  deriving Repr, DecidableEq

structure SchemaIssue where
  message : String
  path : List String := []
  deriving Repr, DecidableEq

inductive Rejection where
  | fields
  | rules (issues : List SchemaIssue)
  deriving Repr, DecidableEq

def textFits (limit : Nat) (text : String) : Bool :=
  decide (1 ≤ units text) && decide (units text ≤ limit)

def identifierFits (text : String) : Bool := textFits 160 text

def labelFits (text : String) : Bool := textFits 500 text

def filled {α : Type} (limit : Nat) (items : List α) : Bool :=
  decide (1 ≤ items.length) && decide (items.length ≤ limit)

def repeated (items : List String) : Bool :=
  items.dedup.length != items.length

theorem repeated_eq_false {items : List String} : repeated items = false ↔ items.Nodup := by
  rw [repeated, bne_eq_false_iff_eq, ← List.dedup_eq_self]
  constructor
  · intro size
    exact (List.dedup_sublist items).eq_of_length size
  · intro same
    rw [same]

def issueIf (broken : Bool) (message : String) (path : List String := []) : List SchemaIssue :=
  if broken then [{ message, path }] else []

@[simp] theorem issueIf_eq_nil {broken : Bool} {message : String} {path : List String} :
    issueIf broken message path = [] ↔ broken = false := by
  cases broken <;> simp [issueIf]

namespace AssertionV2

def clean (assertion : AssertionV2) : AssertionV2 :=
  { assertion with
    assertionId := trim assertion.assertionId
    subject := { assertion.subject with label := trim assertion.subject.label } }

def fits (assertion : AssertionV2) : Bool :=
  identifierFits assertion.assertionId && labelFits assertion.subject.label &&
    match assertion.expectation with
    | .flag _ _ => true
    | .equals _ expected => decide (units expected ≤ 500)
    | .oneOf _ expected =>
        filled 10 expected && expected.all fun text => decide (units text ≤ 500)

end AssertionV2

namespace AssertionV3

def clean (assertion : AssertionV3) : AssertionV3 :=
  { assertion with
    assertionId := trim assertion.assertionId
    label := trim assertion.label }

def fits (assertion : AssertionV3) : Bool :=
  identifierFits assertion.assertionId && labelFits assertion.label &&
    match assertion.expected with
    | some (.text expected) => decide (units expected ≤ 500)
    | _ => true

end AssertionV3

namespace TargetV2

def clean (target : TargetV2) : TargetV2 :=
  { target with
    targetId := trim target.targetId
    label := trim target.label
    scope := { target.scope with names := target.scope.names.map trim }
    entity := { target.entity with
      label := trim target.entity.label
      oneOf := target.entity.oneOf.map trim }
    assertions := target.assertions.map AssertionV2.clean }

def fits (target : TargetV2) : Bool :=
  identifierFits target.targetId && labelFits target.label &&
    (filled 10 target.scope.names && target.scope.names.all labelFits) &&
    labelFits target.entity.label &&
    (filled 10 target.entity.oneOf && target.entity.oneOf.all labelFits) &&
    (filled 8 target.assertions && target.assertions.all AssertionV2.fits) &&
    filled 2 target.requiredEvidenceKinds

def issues (target : TargetV2) : List SchemaIssue :=
  issueIf (repeated (target.assertions.map AssertionV2.assertionId))
      "Assertion IDs must be unique within a target." ++
    issueIf (target.entity.property == .selectedLabel && target.entity.controlKind != .select)
      "SELECTED_LABEL requires a SELECT entity." ++
    issueIf (!target.requiredEvidenceKinds.contains .dom)
      "Structured assertions require DOM evidence."

end TargetV2

namespace TargetV3

def clean (target : TargetV3) : TargetV3 :=
  { target with
    targetId := trim target.targetId
    label := trim target.label
    identity := { target.identity with text := trim target.identity.text }
    assertions := target.assertions.map AssertionV3.clean }

def fits (target : TargetV3) : Bool :=
  identifierFits target.targetId && labelFits target.label && labelFits target.identity.text &&
    (filled 8 target.assertions && target.assertions.all AssertionV3.fits) &&
    filled 2 target.requiredEvidenceKinds

def issues (comparisons : List VisualComparisonRequirement) (target : TargetV3) : List SchemaIssue :=
  target.assertions.flatMap (fun assertion =>
      issueIf (assertion.matchMode == some .displayText && assertion.property != some .text)
        "DISPLAY_TEXT is only valid for TEXT assertions.") ++
    issueIf (target.assertions.any (fun assertion => assertion.expected.isNone) &&
        (!comparisons.any (fun comparison => comparison.referenceTargetId == target.targetId) ||
          comparisons.any fun comparison => comparison.subjectTargetId == target.targetId))
      "Capture-only assertions are reserved for visual reference targets." ++
    issueIf (!target.requiredEvidenceKinds.contains .dom)
      "Business state requires DOM evidence." ++
    issueIf (repeated (target.assertions.map AssertionV3.assertionId))
      "Assertion IDs must be unique within a target."

end TargetV3

namespace VisualComparisonRequirement

def clean (comparison : VisualComparisonRequirement) : VisualComparisonRequirement :=
  { comparison with
    comparisonId := trim comparison.comparisonId
    subjectTargetId := trim comparison.subjectTargetId
    referenceTargetId := trim comparison.referenceTargetId
    dimensions := comparison.dimensions.map trim
    sourceRef := trim comparison.sourceRef
    quote := trim comparison.quote }

def fits (comparison : VisualComparisonRequirement) : Bool :=
  identifierFits comparison.comparisonId && identifierFits comparison.subjectTargetId &&
    identifierFits comparison.referenceTargetId &&
    (filled 8 comparison.dimensions && comparison.dimensions.all labelFits) &&
    labelFits comparison.sourceRef && textFits 2000 comparison.quote

end VisualComparisonRequirement

class ContractTarget (Target : Type) where
  targetId : Target → String
  label : Target → String
  assertionIds : Target → List String
  requiredEvidenceKinds : Target → List EvidenceKind
  clean : Target → Target
  fits : Target → Bool
  /-- The rules for one target of a contract with the given comparisons. -/
  issues : List VisualComparisonRequirement → Target → List SchemaIssue
  /-- The target under another identifier. -/
  retarget : String → Target → Target
  /-- The target under another identifier, with its assertions named by position. -/
  withIds : String → (Nat → String) → Target → Target

instance : ContractTarget TargetV2 where
  targetId := TargetV2.targetId
  label := TargetV2.label
  assertionIds target := target.assertions.map AssertionV2.assertionId
  requiredEvidenceKinds := TargetV2.requiredEvidenceKinds
  clean := TargetV2.clean
  fits := TargetV2.fits
  issues _ := TargetV2.issues
  retarget targetId target := { target with targetId }
  withIds targetId assertionId target :=
    { target with
      targetId
      assertions := target.assertions.mapIdx fun index assertion =>
        { assertion with assertionId := assertionId index } }

instance : ContractTarget TargetV3 where
  targetId := TargetV3.targetId
  label := TargetV3.label
  assertionIds target := target.assertions.map AssertionV3.assertionId
  requiredEvidenceKinds := TargetV3.requiredEvidenceKinds
  clean := TargetV3.clean
  fits := TargetV3.fits
  issues := TargetV3.issues
  retarget targetId target := { target with targetId }
  withIds targetId assertionId target :=
    { target with
      targetId
      assertions := target.assertions.mapIdx fun index assertion =>
        { assertion with assertionId := assertionId index } }

namespace Contract

section Targets

variable {Target : Type} [ContractTarget Target]

def targetIds (contract : Contract Target) : List String :=
  contract.targets.map ContractTarget.targetId

def comparisonIds (contract : Contract Target) : List String :=
  contract.comparisons.map fun comparison => comparison.comparisonId

def clean (contract : Contract Target) : Contract Target where
  targets := contract.targets.map ContractTarget.clean
  comparisons := contract.comparisons.map VisualComparisonRequirement.clean

def fits (limit : Nat) (contract : Contract Target) : Bool :=
  (filled limit contract.targets && contract.targets.all ContractTarget.fits) &&
    (decide (contract.comparisons.length ≤ 100) &&
      contract.comparisons.all VisualComparisonRequirement.fits)

def get (contract : Contract Target) (targetId : String) : Option Target :=
  contract.targets.reverse.find? fun target => ContractTarget.targetId target == targetId

def photographed (contract : Contract Target) (targetId : String) : Bool :=
  (contract.get targetId).any fun target =>
    (ContractTarget.requiredEvidenceKinds target).contains .screenshot

def comparisonIssues (twoTargets : String) (contract : Contract Target) : List SchemaIssue :=
  issueIf (repeated contract.comparisonIds) "Comparison IDs must be unique." ++
    contract.comparisons.flatMap fun comparison =>
      issueIf (comparison.subjectTargetId == comparison.referenceTargetId) twoTargets ++
        [comparison.subjectTargetId, comparison.referenceTargetId].flatMap fun targetId =>
          issueIf (!contract.photographed targetId)
            "Comparison targets must exist and require screenshots."

end Targets

def issuesV2 (contract : Contract TargetV2) : List SchemaIssue :=
  issueIf (repeated contract.targetIds) "Target IDs must be unique." ++
    contract.targets.flatMap TargetV2.issues ++
    contract.comparisonIssues "A comparison requires two different targets."

def issuesV3 (contract : Contract TargetV3) : List SchemaIssue :=
  issueIf (repeated contract.targetIds) "Target IDs must be unique." ++
    issueIf ((contract.targets.map fun target => target.identity.text).dedup.length !=
        contract.targetIds.dedup.length)
      "Each target must identify a distinct business subject." ++
    contract.targets.flatMap (TargetV3.issues contract.comparisons) ++
    contract.comparisonIssues "Comparison requires two different targets."

end Contract

def parseContract {Target : Type} [ContractTarget Target] (limit : Nat)
    (rules : Contract Target → List SchemaIssue) (raw : Contract Target) :
    Except Rejection (Contract Target) :=
  if raw.clean.fits limit then
    if rules raw.clean = [] then .ok raw.clean else .error (.rules (rules raw.clean))
  else .error .fields

def observationContractV2Schema : Contract TargetV2 → Except Rejection (Contract TargetV2) :=
  parseContract 20 Contract.issuesV2

def observationContractV3Schema : Contract TargetV3 → Except Rejection (Contract TargetV3) :=
  parseContract 21 Contract.issuesV3

def observationContractSchema : ContractDocument → Except Rejection ContractDocument
  | .v2 contract => .v2 <$> observationContractV2Schema contract
  | .v3 contract => .v3 <$> observationContractV3Schema contract

end Devproof
