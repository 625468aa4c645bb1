import Devproof.Rerun.AccountRequirements

/-!
Which definition a case is executed with (`case-account-definition.ts`), and what a rerun
copies of a case (`task-case-rerun.ts`).
-/

namespace Devproof.CaseRerun

open Parsing Schemas Patterns

inductive Failure where
  | conflict (message : String)
  /-- A schema refuses the value. -/
  | schema
  deriving DecidableEq

section Platform

variable (platform : Platform)

/-! The digest of a definition (`test-domain/src/index.ts`). -/

def Platform.before (left right : Text) : Prop :=
  platform.localeCompare left right ≤ 0

instance : DecidableRel platform.before := fun _ _ => inferInstanceAs (Decidable (_ ≤ _))

def sortEntries {α : Type} (members : List (Text × α)) : List (Text × α) :=
  ofMembers (byName platform.before members)

def sortJson (value : Value) : Value :=
  value.transform .num (sortEntries platform)

def canonicalJson (value : Value) : Text :=
  stringify platform.formatNumber (sortJson platform value)

def specificationDefinitionHash (value : Value) : Text :=
  platform.sha256 (canonicalJson platform value)

def businessTestAccountSchema : Schema :=
  string fun text => (trimSized 1 200 text).filter platform.isAccount

def testAccountBindingSchema : Schema :=
  objectOf [
    required "slotId" (string (sized 1 100)),
    optional "label" (string (sized 0 200)),
    required "account" (businessTestAccountSchema platform),
    byDefault "aliases" (.arr []) (array 0 20 (businessTestAccountSchema platform)),
    required "usage" (oneOf ["CREATE_OR_MODIFY", "READ_EXISTING"]),
    byDefault "requiredTypes" (.arr []) notes]

def planFields (version : Rat) : List Field := [
  required "version" (number (· == .finite version)),
  required "revision" (string (matching platform.isUuid)),
  required "requirements" testAccountRequirementsSchema,
  required "bindings" (array 0 50 (testAccountBindingSchema platform)),
  required "requestedAt" (string (matching platform.isDateTime)),
  optional "expiresAt" (string (matching platform.isDateTime))]

/-- `/^[a-f0-9]{64}$/u` -/
def isDigest (text : Text) : Bool :=
  decide (text.length = 64) && text.all fun unit =>
    Parsing.isDigit unit || (code 'a' ≤ unit && unit ≤ code 'f')

def resolutionSchema : Schema :=
  objectOf [
    required "kind" (oneOf ["DECLARED", "REVIEWED_CORRECTION"]),
    required "removedRoles" (array 0 20 (string (sized 1 80))),
    required "reason" (string (trimSized 1 1000))]

def planFieldsTwo : List Field :=
  planFields platform 2 ++ [
    required "definitionHash" (string (matching isDigest)),
    required "effectiveAuthRole" (string (trimSized 1 120)),
    required "resolution" resolutionSchema]

def testAccountPlanSchema (value : Value) : Option Value :=
  if isTwo (member "version" value) then objectOf (planFieldsTwo platform) value
  else objectOf (planFields platform 1) value

def readAccountPlan : Value → Except Failure (Option Value)
  | .null => .ok none
  | value =>
      match testAccountPlanSchema platform value with
      | some plan => .ok (some plan)
      | none => .error (.conflict "测试账号计划无效，不能回退到原始账号需求。")

def textItems : Option Value → List Text
  | some (.arr items) => items.filterMap textOf
  | _ => []

def removedRoles (plan : Value) : List Text :=
  textItems ((member "resolution" plan).bind (member "removedRoles"))

def keptRequirements (plan : Value) (requirements : List Value) : List Value :=
  requirements.filter fun item => !(removedRoles plan).contains (textMember "role" item)

def changesRequirements (plan : Value) (requirements : List Value) : Bool :=
  ((member "resolution" plan).map (textMember "kind") == some (key "DECLARED") &&
      !(removedRoles plan).isEmpty) ||
    (removedRoles plan).any (fun role =>
      !requirements.any fun item => textMember "role" item == role) ||
    specificationDefinitionHash platform (.arr (keptRequirements plan requirements)) !=
      specificationDefinitionHash platform ((member "requirements" plan).getD .null)

def checkPlan (definition : List (Text × Value)) (plan : Value) : Except Failure Unit :=
  if textMember "definitionHash" plan ≠ specificationDefinitionHash platform (.obj definition) then
    .error (.conflict "测试账号计划与用例定义不一致，请重新核对需求。")
  else
    match caseAccountRequirements platform definition with
    | none => .error .schema
    | some requirements =>
        if changesRequirements platform plan requirements then
          .error (.conflict "测试账号计划不能修改角色用途或未声明的需求。")
        else .ok ()

def effectiveDefinition (definition : List (Text × Value)) (plan : Value) : List (Text × Value) :=
  let required := setMember definition
    (key "accountRequirements", (member "requirements" plan).getD .null)
  if isTwo (member "version" plan) then
    setMember required (key "authRole", (member "effectiveAuthRole" plan).getD .null)
  else required

def resolveCaseExecutionDefinition (definition : List (Text × Value)) (value : Value) :
    Except Failure (List (Text × Value)) :=
  match readAccountPlan platform value with
  | .error failure => .error failure
  | .ok none => .ok definition
  | .ok (some plan) =>
      if isTwo (member "version" plan) then
        match checkPlan platform definition plan with
        | .error failure => .error failure
        | .ok _ => .ok (effectiveDefinition definition plan)
      else .ok (effectiveDefinition definition plan)

end Platform

def sourcePrefix : Text :=
  key "analysis-source://"

def isUuidUnit (unit : UInt16) : Bool :=
  Parsing.isDigit unit || (code 'a' ≤ unit && unit ≤ code 'f') || unit == code '-'

def Reference (text : Text) : Prop :=
  ∃ attempt source : Text, text = sourcePrefix ++ attempt ++ code '/' :: source ∧
    (attempt.length = 36 ∧ source.length = 36) ∧
      ∀ unit ∈ attempt ++ source, isUuidUnit unit = true

structure SourceMap where
  entries : List (Text × Text)
  references : ∀ entry ∈ entries, Reference entry.1 ∧ Reference entry.2

def missingSource : Failure :=
  .conflict "原用例的分析来源已缺失，无法复用规格，请重新创建完整任务。"

section Copy

variable (references : SourceMap)

mutual
def remapSourceReferences : Value → Except Failure Value
  | .str value =>
      match references.entries.lookup value with
      | some reference => .ok (.str reference)
      | none => if sourcePrefix.isPrefixOf value then .error missingSource else .ok (.str value)
  | .arr items => (remapItems items).map .arr
  | .obj members => (remapMembers members).map .obj
  | value => .ok value

def remapItems : List Value → Except Failure (List Value)
  | [] => .ok []
  | item :: rest =>
      (remapSourceReferences item).bind fun first => (remapItems rest).map (first :: ·)

def remapMembers : List (Text × Value) → Except Failure (List (Text × Value))
  | [] => .ok []
  | (name, value) :: rest =>
      (remapSourceReferences value).bind fun first => (remapMembers rest).map ((name, first) :: ·)
end

structure Renewal where
  revision : Text
  requestedAt : Text
  expiresAt : Text

def Renewal.members (renewal : Renewal) (definitionHash : Text) : List (Text × Value) := [
  (key "definitionHash", .str definitionHash),
  (key "revision", .str renewal.revision),
  (key "requestedAt", .str renewal.requestedAt),
  (key "expiresAt", .str renewal.expiresAt)]

def membersOf : Value → List (Text × Value)
  | .obj members => members
  | _ => []

variable (platform : Platform)

def copyCase (renewal : Renewal) (definition : List (Text × Value)) (testAccountPlan : Value) :
    Except Failure (List (Text × Value) × Value) := do
  let copy ← remapMembers references definition
  let definitionHash := specificationDefinitionHash platform (.obj copy)
  match ← readAccountPlan platform testAccountPlan with
  | none => .ok (copy, .null)
  | some plan =>
      if isTwo (member "version" plan) then do
        let _ ← resolveCaseExecutionDefinition platform definition plan
        let renamed ← remapSourceReferences references plan
        .ok (copy, .obj ((renewal.members definitionHash).foldl setMember (membersOf renamed)))
      else .ok (copy, .null)

end Copy

end Devproof.CaseRerun
