import Devproof.Lib.Patterns

/-!
The account requirements of a case definition (`test-accounts.ts`).  A definition is a JSON
object; a requirement is a value as the schema returns it.
-/

namespace Devproof.CaseRerun

open Parsing Schemas Patterns

def key (name : String) : Text :=
  name.toList.map code

structure Platform where
  /-- `createHash("sha256").update(text).digest("hex")`. -/
  sha256 : Text → Text
  /-- `String(number)`. -/
  formatNumber : Rat → Text
  /-- `left.localeCompare(right)`. -/
  localeCompare : Text → Text → Int
  /-- The pattern and the refinement of `businessTestAccountSchema`. -/
  isAccount : Text → Bool
  /-- `z.string().uuid()`. -/
  isUuid : Text → Bool
  /-- `z.string().datetime()`. -/
  isDateTime : Text → Bool

def member (name : String) : Value → Option Value
  | .obj members => members.lookup (key name)
  | _ => none

def textMember (name : String) (value : Value) : Text :=
  match member name value with
  | some (.str text) => text
  | _ => []

def textOf : Value → Option Text
  | .str text => some text
  | _ => none

def required (name : String) (shape : Schema) : Field :=
  ⟨key name, .required, shape⟩

def optional (name : String) (shape : Schema) : Field :=
  ⟨key name, .optional, shape⟩

def byDefault (name : String) (value : Value) (shape : Schema) : Field :=
  ⟨key name, .byDefault value, shape⟩

def oneOf (choices : List String) : Schema :=
  string (matching fun text => (choices.map key).contains text)

def integer (least most : Int) : Schema :=
  number fun
    | .finite value => value.den == 1 && decide (least ≤ value.num) && decide (value.num ≤ most)
    | _ => false

def maxSafeInteger : Int :=
  2 ^ 53 - 1

def notes : Schema :=
  array 0 20 (string (trimSized 1 1000))

def accountSubjectBindingSchema : Schema :=
  objectOf [
    required "kind" (oneOf ["BUSINESS_INPUT", "BUSINESS_RECORD", "AUTH_SUBJECT"]),
    required "target" (string (trimSized 1 300)),
    required "stepOrders" (array 1 100 (integer 1 maxSafeInteger)),
    optional "criterionIds" (array 0 100 (string (sized 1 160))),
    required "basis" (objectOf [
      required "sourceRef" (string (sized 1 500)),
      required "quote" (string (trimSized 1 2000))])]

def isLower (unit : UInt16) : Bool :=
  code 'a' ≤ unit && unit ≤ code 'z'

def isUpper (unit : UInt16) : Bool :=
  code 'A' ≤ unit && unit ≤ code 'Z'

/-- `/^[a-zA-Z][a-zA-Z0-9_-]{0,79}$/` -/
def isRole : Text → Bool
  | [] => false
  | unit :: rest =>
      (isLower unit || isUpper unit) && decide (rest.length ≤ 79) && rest.all fun unit =>
        isLower unit || isUpper unit || Parsing.isDigit unit || unit == code '_' || unit == code '-'

def testAccountRequirementSchema : Schema :=
  objectOf [
    optional "subjectBinding" accountSubjectBindingSchema,
    required "role" (string (matching isRole)),
    required "label" (string (trimSized 1 200)),
    byDefault "count" (.num (.finite 1)) (integer 1 20),
    required "usage" (oneOf ["CREATE_OR_MODIFY", "READ_EXISTING"]),
    byDefault "requiredTypes" (.arr []) notes,
    byDefault "constraints" (.arr []) notes,
    required "rationale" (string (trimSized 1 1000))]

def countOf (requirement : Value) : Rat :=
  match member "count" requirement with
  | some (.num (.finite value)) => value
  | _ => 0

def validRequirementCounts : Value → Bool
  | .arr items =>
      decide (items.map (textMember "role")).Nodup && decide ((items.map countOf).sum ≤ 50)
  | _ => false

def testAccountRequirementsSchema : Schema :=
  refined (array 0 20 testAccountRequirementSchema) validRequirementCounts

def itemsOf (shape : Schema) (value : Option Value) : Option (List Value) :=
  match value.bind shape with
  | some (.arr items) => some items
  | _ => none

def foldCase (unit : UInt16) : UInt16 :=
  if isUpper unit then unit + 32 else unit

def namesLogin (text : Text) : Bool :=
  anyOf ["登录用", "后台登录账号", "后台登录身份", "浏览器登录身份", "浏览器身份", "执行者登录",
    "执行用登录", "执行者的登录", "执行用的登录"] anything text ||
  (fixed "login" (spaces (anyOf ["identity", "account"] anything)) text ||
    fixed "authentication" (spaces (fixed "identity" anything)) text)

def disclaimsSubject (text : Text) : Bool :=
  anyOf ["仅用于", "仅用作", "仅作为"] (upTo 12 (anyOf ["登录", "后台登录"] anything)) text ||
  (anyOf ["不是业务测试对象"] anything text ||
    fixed "不作为" (upTo 8 (anyOf ["业务对象", "业务测试对象"] anything)) text)

def isLoginOnlyAccountRequirement (requirement : Value) : Bool :=
  if (member "subjectBinding" requirement).map (textMember "kind") = some (key "AUTH_SUBJECT") then
    false
  else
    occurs namesLogin ((textMember "label" requirement).map foldCase) ||
      occurs disclaimsSubject ((textMember "rationale" requirement).map foldCase)

/-! Requirements of definitions from before they were declared. -/

section Platform

variable (platform : Platform)

/-! `String(value)`; an object with a member of that name has no `toString`. -/

def numberString : Number → Text
  | .finite value => platform.formatNumber value
  | .negativeZero => platform.formatNumber 0
  | .infinite false => key "Infinity"
  | .infinite true => key "-Infinity"

mutual
def stringOf : Value → Option Text
  | .null => some (key "null")
  | .bool value => some (key (if value then "true" else "false"))
  | .num value => some (numberString platform value)
  | .str value => some value
  | .arr items => (joinedStrings items).map Parsing.joined
  | .obj members =>
      if key "toString" ∈ members.map Prod.fst then none else some (key "[object Object]")

def joinedStrings : List Value → Option (List Text)
  | [] => some []
  | .null :: rest => (joinedStrings rest).map ([] :: ·)
  | item :: rest =>
      (stringOf item).bind fun text => (joinedStrings rest).map (text :: ·)
end

def legacyText (definition : List (Text × Value)) : Text :=
  stringify platform.formatNumber (.arr (["name", "preconditions", "testData", "steps"].map
    fun name => (definition.lookup (key name)).getD .null))

def declinesAccounts : Text → Bool :=
  occurs (anyOf ["不需要业务测试账号", "无需业务测试账号", "本用例不写入数据", "本用例未产生写入"]
    anything)

def startsUpper (text : Text) : Bool :=
  text.head?.any isUpper

def mentionsAccounts : Text → Bool :=
  occurs fun text => anyOf ["测试账号", "业务账号"] anything text ||
    (fixed "独立" (upTo 8 (fixed "账号" anything)) text || fixed "账号" startsUpper text)

def roleAt (text : Text) : Option Text :=
  (after (key "账号") text).bind fun rest =>
    match rest.dropWhile isWhiteSpace with
    | [] => none
    | unit :: later =>
        if isUpper unit && !later.head?.any (fun next => isLower next || isUpper next) then
          some (key "账号" ++ [unit])
        else none

def legacyRoles (text : Text) : List Text :=
  (occurrences roleAt text).eraseDups

def legacyLabel (roles : List Text) : Text :=
  if roles = [] then key "业务测试对象" else (roles.intersperse (key "、")).flatten

def mentionsReading : Text → Bool :=
  occurs (anyOf ["只读", "READ_EXISTING"] anything)

def legacyConstraints (definition : List (Text × Value)) : List Text :=
  match definition.lookup (key "testData") with
  | some (.arr items) =>
      ((items.filterMap textOf).map (List.take 1000)).take 20
  | _ => []

def legacyRequirement (roles : List Text) (readsOnly : Bool) (constraints : List Text) : Value :=
  .obj [
    (key "role", .str (key "test_subject")),
    (key "label", .str (legacyLabel roles)),
    (key "count", .num (.finite (max 1 roles.length : Nat))),
    (key "usage", .str (key (if readsOnly then "READ_EXISTING" else "CREATE_OR_MODIFY"))),
    (key "requiredTypes", .arr []),
    (key "constraints", .arr (constraints.map .str)),
    (key "rationale", .str (key "历史 Spec 声明的业务测试账号；执行前核对其用途和数据前置条件。"))]

def nameText (definition : List (Text × Value)) : Option Text :=
  match definition.lookup (key "name") with
  | some value => stringOf platform value
  | none => some (key "undefined")

def legacyRequirements (definition : List (Text × Value)) : Option (List Value) :=
  let text := legacyText platform definition
  if declinesAccounts text then some []
  else if !mentionsAccounts text then some []
  else
    (nameText platform definition).bind fun name =>
      itemsOf testAccountRequirementsSchema (some (.arr [legacyRequirement (legacyRoles text)
        (mentionsReading name) (legacyConstraints definition)]))

def isTwo : Option Value → Bool
  | some (.num (.finite value)) => value == 2
  | _ => false

def caseAccountRequirements (definition : List (Text × Value)) : Option (List Value) :=
  if isTwo (definition.lookup (key "accountRequirementsVersion")) then
    itemsOf testAccountRequirementsSchema (definition.lookup (key "accountRequirements"))
  else
    match definition.lookup (key "accountRequirements") with
    | some value =>
        (itemsOf testAccountRequirementsSchema (some value)).map
          (List.filter fun item => !isLoginOnlyAccountRequirement item)
    | none => legacyRequirements platform definition

end Platform

end Devproof.CaseRerun
