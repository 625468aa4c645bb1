import Devproof.ExecutionState
import Devproof.Lib.Machine

/-!
Plans that assign test accounts to the roles of a case (`test-accounts.ts`,
`case-account-definition.ts`).
-/

namespace Devproof

namespace TestAccounts

/-- `/^[a-zA-Z][a-zA-Z0-9_-]{0,79}$/`. -/
def isRole (text : String) : Bool :=
  match text.toList with
  | [] => false
  | first :: rest =>
      first.isAlpha && rest.length ≤ 79 &&
        rest.all fun char => char.isAlphanum || char == '_' || char == '-'

structure AccountRequirement where
  role : String
  label : String
  count : Nat
  usage : AccountUsage
  requiredTypes : List String
  constraints : List String
  rationale : String
  subjectBinding : Option Json := none

structure AccountRequirements where
  items : List AccountRequirement
  named : ∀ item ∈ items, isRole item.role = true
  distinct : (items.map AccountRequirement.role).Nodup

structure AccountSlot extends AccountRequirement where
  slotId : String

def slotOf (requirement : AccountRequirement) (index : Nat) : AccountSlot :=
  { requirement with
    slotId := requirement.role ++ ":" ++ toString (index + 1)
    label :=
      if requirement.count = 1 then requirement.label
      else requirement.label ++ " " ++ toString (index + 1) }

def testAccountSlots (requirements : List AccountRequirement) : List AccountSlot :=
  requirements.flatMap fun requirement => (List.range requirement.count).map (slotOf requirement)

inductive ResolutionKind where
  | declared
  | reviewedCorrection
  deriving Repr, DecidableEq

structure PlanResolution where
  definitionHash : String
  effectiveAuthRole : String
  kind : ResolutionKind
  removedRoles : List String
  reason : String
  deriving Repr, DecidableEq

structure TestAccountPlan where
  /-- Missing in version 1. -/
  resolution : Option PlanResolution
  revision : String
  requirements : AccountRequirements
  bindings : List TestAccountBinding
  requestedAt : Int
  expiresAt : Option Int

def isBound (bindings : List TestAccountBinding) (slotId : String) : Bool :=
  bindings.any fun binding => binding.slotId == slotId

def missingAccountSlots (plan : TestAccountPlan) : List AccountSlot :=
  (testAccountSlots plan.requirements.items).filter fun slot => !isBound plan.bindings slot.slotId

inductive Failure where
  | badRequest (message : String)
  | conflict (message : String)
  | notFound (message : String)
  /-- A schema does not accept its input. -/
  | schema
  deriving Repr, DecidableEq

/-- What the code around the plans makes of a case's definition. -/
structure Definitions where
  /-- `specificationDefinitionHash`, of the values it is used on. -/
  definitionHash : Json → String
  requirementsHash : List AccountRequirement → String
  requirementHash : AccountRequirement → String
  typesHash : List String → String
  caseAccountRequirements : Json → Except Failure AccountRequirements
  /-- `String(definition.authRole ?? "default")`. -/
  authRole : Json → String

section Definitions

variable (host : Host) (definitions : Definitions)

/-- `testAccountBindingsSchema.parse(bindings)` of stored bindings.  They were parsed when they
    were made, so that they come out unchanged unless they are refused. -/
def parseBindings (bindings : List TestAccountBinding) :
    Except Failure (List TestAccountBinding) :=
  match (testAccountBindingsSchema host).parse bindings with
  | some _ => .ok bindings
  | none => .error .schema

/-- `readAccountPlan(value)` of a stored plan.  The requirements were parsed with the definition;
    a binding can be refused, because the label of a slot may be longer than that of its role. -/
def readAccountPlan (plan : TestAccountPlan) : Except Failure TestAccountPlan :=
  match (testAccountBindingsSchema host).parse plan.bindings with
  | some _ => .ok plan
  | none => .error (.conflict "测试账号计划无效，不能回退到原始账号需求。")

/-- `resolveCaseExecutionDefinition`: it throws when the plan does not fit the definition. -/
def resolveCaseExecutionDefinition (definition : Json) (plan : TestAccountPlan) :
    Except Failure Unit := do
  let plan ← readAccountPlan host plan
  match plan.resolution with
  | none => return
  | some resolution =>
      throwIf (resolution.definitionHash != definitions.definitionHash definition)
        (.conflict "测试账号计划与用例定义不一致，请重新核对需求。")
      let requirements ← definitions.caseAccountRequirements definition
      let removed := resolution.removedRoles
      throwIf ((resolution.kind == .declared && !removed.isEmpty) ||
        (removed.any fun role => !requirements.items.any fun item => item.role == role) ||
        definitions.requirementsHash
            (requirements.items.filter fun item => !removed.contains item.role) !=
          definitions.requirementsHash plan.requirements.items)
        (.conflict "测试账号计划不能修改角色用途或未声明的需求。")

def unassignedTestAccountPlan (definition : Json) (timeoutSeconds : Nat) (now : Int)
    (revision : String) (previousValue : Option TestAccountPlan) :
    Except Failure TestAccountPlan := do
  let previous ← previousValue.mapM (readAccountPlan host)
  match previous with
  | some plan => resolveCaseExecutionDefinition host definitions definition plan
  | none => pure ()
  let requirements ← definitions.caseAccountRequirements definition
  let fresh : TestAccountPlan := {
    resolution := some {
      definitionHash := definitions.definitionHash definition
      effectiveAuthRole := definitions.authRole definition
      kind := .declared
      removedRoles := []
      reason := "按当前用例准备业务测试对象。" }
    revision, requirements, bindings := [], requestedAt := now
    expiresAt := some (now + timeoutSeconds * 1000) }
  match previous with
  | some plan =>
      if plan.resolution.isSome then
        return { fresh with resolution := plan.resolution, requirements := plan.requirements }
      else return fresh
  | none => return fresh

end Definitions

theorem isRole_plain {text : String} (role : isRole text = true) : ':' ∉ text.toList := by
  unfold isRole at role
  split at role
  · cases role
  · rename_i first rest text
    simp only [Bool.and_eq_true, List.all_eq_true] at role
    rw [text]
    intro colon
    rcases List.mem_cons.mp colon with same | later
    · rw [← same] at role
      exact absurd role.1.1 (by decide)
    · exact absurd (role.2 _ later) (by decide)

theorem slotId_injective {first second : AccountRequirement} {index index' : Nat}
    (role : isRole first.role = true) (role' : isRole second.role = true)
    (same : (slotOf first index).slotId = (slotOf second index').slotId) :
    first.role = second.role ∧ index = index' := by
  have plain : ∀ char ∈ first.role.toList, (char != ':') = true := by
    intro char member
    simp only [bne_iff_ne, ne_eq]
    rintro rfl
    exact isRole_plain role member
  have plain' : ∀ char ∈ second.role.toList, (char != ':') = true := by
    intro char member
    simp only [bne_iff_ne, ne_eq]
    rintro rfl
    exact isRole_plain role' member
  have texts := congrArg String.toList same
  simp only [slotOf, String.toList_append, List.append_assoc] at texts
  have names := congrArg (List.takeWhile (· != ':')) texts
  rw [List.takeWhile_append_of_pos plain, List.takeWhile_append_of_pos plain'] at names
  have head : ∀ rest : List Char, List.takeWhile (· != ':') (":".toList ++ rest) = [] := by
    intro rest
    rfl
  rw [head, head, List.append_nil, List.append_nil] at names
  rw [names] at texts
  have numbers : toString (index + 1) = toString (index' + 1) :=
    String.toList_injective (List.append_cancel_left (List.append_cancel_left texts))
  exact ⟨String.toList_injective names, Nat.succ.inj (toString_injective numbers)⟩

theorem slotIds_distinct (requirements : AccountRequirements) :
    ((testAccountSlots requirements.items).map AccountSlot.slotId).Nodup := by
  obtain ⟨items, named, distinct⟩ := requirements
  rw [testAccountSlots, List.map_flatMap, List.nodup_flatMap]
  constructor
  · intro requirement member
    rw [List.map_map]
    refine List.Nodup.map_on ?_ List.nodup_range
    intro index _ index' _ same
    exact (slotId_injective (named _ member) (named _ member) same).2
  · refine (List.pairwise_map.mp distinct).imp_of_mem ?_
    intro first second member member' differ slotId here there
    simp only [List.map_map, List.mem_map, Function.comp_apply] at here there
    obtain ⟨index, -, rfl⟩ := here
    obtain ⟨index', -, same⟩ := there
    exact differ (slotId_injective (named _ member') (named _ member) same).1.symm

end TestAccounts

end Devproof
