import Devproof.Observation.BusinessCheck

/-!
The catalog of acceptance checks that a model defines in batches (`spec-check-catalog.ts`),
and the expansion of a check into a criterion (`spec-draft.ts`).
-/

namespace Devproof

namespace SpecChecks

structure SpecRequirement where
  id : String
  sourceRef : String
  quote : String
  deriving Repr, DecidableEq

structure LegacyTarget where
  label : String
  expectedText : String
  matchMode : Option MatchMode := none
  alternatives : Option (List String) := none
  deriving Repr, DecidableEq

structure Check where
  requirementId : String
  description : String
  observationTargets : Option (List LegacyTarget) := none
  observationContract : Option ContractDocument := none
  businessCheck : Option BusinessCheck := none
  supportingSourceRefs : List String := []
  requiredEvidenceKinds : List String := ["DOM"]
  deriving Repr, DecidableEq

structure Basis where
  sourceRef : String
  quote : String
  observationTarget : String
  deriving Repr, DecidableEq

structure Criterion where
  id : String
  requirementId : String
  description : String
  observationTargets : Option (List LegacyTarget)
  observationContract : Option ContractDocument
  requiredEvidenceKinds : List String
  sourceRefs : List String
  basis : Basis
  deriving Repr, DecidableEq

structure SpecCheckIssue where
  code : String
  path : String
  message : String
  deriving Repr, DecidableEq

structure CatalogIssue extends SpecCheckIssue where
  inputIndex : Nat
  checkId : Option String := none
  requirementId : Option String := none
  deriving Repr, DecidableEq

structure Saved where
  inputIndex : Nat
  checkId : String
  requirementId : String
  deriving Repr, DecidableEq

inductive Thrown where
  /-- The batch is malformed. -/
  | batch
  /-- The expected revision is not the current one. -/
  | revision (message : String)
  /-- The expansion of an item. -/
  | expansion
  deriving Repr, DecidableEq

/-! `expandSpecCheck`. -/

def labelsOf : ContractDocument → List String
  | .v2 contract => contract.targets.map TargetV2.label
  | .v3 contract => contract.targets.map TargetV3.label

def kindsOf : ContractDocument → List String
  | .v2 contract => contract.targets.flatMap fun target =>
      target.requiredEvidenceKinds.map EvidenceKind.name
  | .v3 contract => contract.targets.flatMap fun target =>
      target.requiredEvidenceKinds.map EvidenceKind.name

namespace Criterion

def clean (criterion : Criterion) : Criterion :=
  { criterion with
    id := trim criterion.id
    requirementId := trim criterion.requirementId
    description := trim criterion.description
    sourceRefs := criterion.sourceRefs.map trim
    basis := {
      sourceRef := trim criterion.basis.sourceRef
      quote := trim criterion.basis.quote
      observationTarget := trim criterion.basis.observationTarget } }

def fits (criterion : Criterion) : Bool :=
  textFits 160 criterion.id && textFits 100 criterion.requirementId &&
    textFits 5000 criterion.description &&
    criterion.observationTargets.all (filled 20) &&
    filled 6 criterion.requiredEvidenceKinds &&
    (filled 100 criterion.sourceRefs && criterion.sourceRefs.all (textFits 500)) &&
    textFits 500 criterion.basis.sourceRef && textFits 2000 criterion.basis.quote &&
    textFits 500 criterion.basis.observationTarget &&
    !(criterion.observationContract.isSome && criterion.observationTargets.any (· != []))

end Criterion

def runtimeSpecCriterionSchema (criterion : Criterion) : Except Thrown Criterion :=
  if criterion.clean.fits then
    match criterion.observationContract with
    | none => .ok criterion.clean
    | some contract =>
        match observationContractSchema contract with
        | .ok parsed => .ok { criterion.clean with observationContract := some parsed }
        | .error _ => .error .expansion
  else .error .expansion

theorem requirement_foreign : ∀ name ∈ ["id", "description"],
    name ∉ ["comparisonId", "subjectTargetId", "referenceTargetId", "dimensions", "sourceRef",
      "quote"] := by
  decide

/-- The requirement is passed to the compiler as a whole. -/
def SpecRequirement.comparisonBasis (requirement : SpecRequirement) : ComparisonBasis where
  sourceRef := requirement.sourceRef
  quote := requirement.quote
  others := ["id", "description"]
  foreign := requirement_foreign

def contractOf (check : Check) (requirement : SpecRequirement) :
    Except Thrown (Option ContractDocument) :=
  match check.businessCheck with
  | none => .ok check.observationContract
  | some business =>
      match compileBusinessCheck business requirement.comparisonBasis
          check.requiredEvidenceKinds with
      | .ok contract => .ok (some (.v3 contract))
      | .error _ => .error .expansion

def targetLabels (contract : Option ContractDocument) (check : Check) : List String :=
  match contract with
  | some contract => labelsOf contract
  | none => (check.observationTargets.getD []).map LegacyTarget.label

def expandSpecCheck (check : Check) (requirement : SpecRequirement) (id : String) :
    Except Thrown Criterion := do
  throwIf (check.businessCheck.isSome &&
    (check.observationContract.isSome || check.observationTargets.isSome)) .expansion
  let contract ← contractOf check requirement
  runtimeSpecCriterionSchema {
    id
    requirementId := check.requirementId
    description := check.description
    observationTargets := check.observationTargets
    observationContract := contract
    requiredEvidenceKinds :=
      (check.requiredEvidenceKinds ++ (contract.map kindsOf).getD []).eraseDups
    sourceRefs := (requirement.sourceRef :: check.supportingSourceRefs).eraseDups
    basis := {
      sourceRef := requirement.sourceRef
      quote := requirement.quote
      observationTarget := slice ("、".intercalate (targetLabels contract check)) 500 } }

/-- A business check with a reference is never expanded. -/
theorem expandSpecCheck_compared {input : BusinessCheckInput} {business : BusinessCheck}
    {check : Check} {requirement : SpecRequirement} {id : String}
    (parsed : businessCheckSchema input = .ok business)
    (given : check.businessCheck = some business) (compared : business.compareWith ≠ none) :
    expandSpecCheck check requirement id = .error .expansion := by
  have further : requirement.comparisonBasis.others ≠ [] := by
    simp [SpecRequirement.comparisonBasis]
  have refused := compileBusinessCheck_spread (BusinessCheck.accepted_of_schema parsed)
    check.requiredEvidenceKinds compared further
  unfold expandSpecCheck
  cases conflicts : (check.businessCheck.isSome &&
      (check.observationContract.isSome || check.observationTargets.isSome)) with
  | true => rfl
  | false =>
      simp only [throwIf, contractOf, given, refused]
      rfl

structure Host (Item : Type) where
  /-- `checkUpdateSchema.safeParse`, with its actionable issues. -/
  parse : Item → Except (List SpecCheckIssue) (Option String × Check)
  /-- `specCriterionIssues`. -/
  criterionIssues : Criterion → List (String × String) → List SpecCheckIssue
  /-- A schema that refuses says why. -/
  reports : ∀ item issues, parse item = .error issues → issues ≠ []

structure Catalog where
  checks : List (String × Check) := []
  revision : Nat := 0
  deriving Repr, DecidableEq

structure Batch (Item : Type) where
  expectedRevision : Nat
  items : Option (List Item)

structure Loop where
  checks : List (String × Check)
  accepted : List Saved := []
  issues : List CatalogIssue := []
  updated : List String := []
  changed : Bool := false
  deriving Repr, DecidableEq

def stored (id : String) (checks : List (String × Check)) : Option Check :=
  (checks.find? fun entry => entry.1 == id).map Prod.snd

def store (id : String) (check : Check) (checks : List (String × Check)) :
    List (String × Check) :=
  if checks.any fun entry => entry.1 == id then
    checks.map fun entry => if entry.1 == id then (id, check) else entry
  else checks ++ [(id, check)]

def contracted (check : Check) : Bool :=
  check.observationContract.isSome || check.businessCheck.isSome

section Define

variable {Item : Type} (host : Host Item) (businessChecksEnabled : Bool)
  (requirements : List SpecRequirement) (sources : List (String × String))

def requirementOf (id : String) : Option SpecRequirement :=
  (requirements.filter fun requirement => requirement.id == id).getLast?

def refusal (loop : Loop) (checkId : Option String) (check : Check) : Option SpecCheckIssue :=
  let before := checkId.bind fun id => stored id loop.checks
  if checkId.any (fun id => (stored id loop.checks).isNone || loop.updated.contains id) then
    some ⟨"INVALID_CHECK_ID", "checkId", "checkId 必须来自已保存的标准表，且同一批次不能重复修改。"⟩
  else if !businessChecksEnabled && (check.businessCheck.isSome ||
      check.observationContract.any fun contract => contract matches .v3 _) then
    some ⟨"CONTRACT_UNSUPPORTED", "businessCheck",
      "当前控制面未启用业务验收格式，请使用本任务协商的格式。"⟩
  else if (requirementOf requirements check.requirementId).isNone then
    some ⟨"UNKNOWN_REQUIREMENT", "requirementId", "请使用 define_requirements 返回的需求编号。"⟩
  else if before.any (fun old => old.requirementId != check.requirementId) then
    some ⟨"REQUIREMENT_CHANGED", "requirementId",
      "已保存标准的需求映射不可更换；不同需求请定义新标准。"⟩
  else if before.any (fun old => contracted old && !contracted check) then
    some ⟨"CONTRACT_DOWNGRADE", "observationContract",
      "已保存的对象状态契约不能退回文字目标；请修正原 observationContract。"⟩
  else if check.businessCheck.isSome &&
      (check.observationContract.isSome || check.observationTargets.isSome) then
    some ⟨"CONFLICTING_CHECK_FORMAT", "businessCheck",
      "业务验收不能同时声明旧版观察目标或契约。"⟩
  else none

def complain (index : Nat) (checkId requirementId : Option String) (issue : SpecCheckIssue) :
    CatalogIssue :=
  { issue with inputIndex := index, checkId, requirementId }

/-- Save a check that has passed, under its own identifier, that of an identical one, or a new
    one. -/
def save (index : Nat) (checkId : Option String) (check : Check) (loop : Loop) : Loop :=
  let existing := checkId.or
    ((loop.checks.find? fun entry => entry.2 == check).map Prod.fst)
  if existing.isNone && decide (500 ≤ loop.checks.length) then
    { loop with
      issues := loop.issues ++ [complain index checkId (some check.requirementId)
        ⟨"CHECK_LIMIT", "checks", "验收标准表最多保存 500 项。"⟩] }
  else
    let id := existing.getD ("check-" ++ toString (loop.checks.length + 1))
    let differs := stored id loop.checks != some check
    { loop with
      checks := if differs then store id check loop.checks else loop.checks
      changed := loop.changed || differs
      updated := loop.updated ++ [id]
      accepted := loop.accepted ++ [⟨index, id, check.requirementId⟩] }

def defineItem (index : Nat) (item : Item) (loop : Loop) : Except Thrown Loop :=
  match host.parse item with
  | .error issues =>
      .ok { loop with issues := loop.issues ++ (issues.take 30).map (complain index none none) }
  | .ok (checkId, check) =>
      match refusal businessChecksEnabled requirements loop checkId check with
      | some issue =>
          .ok { loop with
            issues := loop.issues ++ [complain index checkId (some check.requirementId) issue] }
      | none =>
          match requirementOf requirements check.requirementId with
          | none => .ok loop
          | some requirement =>
              match expandSpecCheck check requirement
                  (checkId.getD ("input-" ++ toString index)) with
              | .error thrown => .error thrown
              | .ok criterion =>
                  match host.criterionIssues criterion sources with
                  | [] => .ok (save index checkId check loop)
                  | issues =>
                      .ok { loop with
                        issues := loop.issues ++
                          issues.map (complain index checkId (some check.requirementId)) }

def defineItems : Nat → List Item → Loop → Loop × Option Thrown
  | _, [], loop => (loop, none)
  | index, item :: rest, loop =>
      match defineItem host businessChecksEnabled requirements sources index item loop with
      | .ok next => defineItems (index + 1) rest next
      | .error thrown => (loop, some thrown)

structure Answer where
  accepted : Bool
  revision : Nat
  saved : List Saved
  issues : List CatalogIssue
  deriving Repr, DecidableEq

def define (batch : Batch Item) (catalog : Catalog) : Catalog × Except Thrown Answer :=
  match batch.items with
  | none => (catalog, .error .batch)
  | some items =>
      if !filled 100 items then (catalog, .error .batch)
      else if batch.expectedRevision ≠ catalog.revision then
        (catalog, .error (.revision ("验收标准表版本已变化：expectedRevision 必须为 " ++
          toString catalog.revision ++ "；请仅修正失败条目。")))
      else
        match defineItems host businessChecksEnabled requirements sources 0 items
            { checks := catalog.checks } with
        | (loop, some thrown) => ({ catalog with checks := loop.checks }, .error thrown)
        | (loop, none) =>
            let revision := if loop.changed then catalog.revision + 1 else catalog.revision
            ({ checks := loop.checks, revision },
              .ok { accepted := loop.issues.isEmpty, revision, saved := loop.accepted
                    issues := loop.issues })

end Define

end SpecChecks

end Devproof
