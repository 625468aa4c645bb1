import Devproof.Lib.Paths
import Devproof.ExecutionState

/-!
The resources an execution claims before it starts, and when two claims
conflict (`execution-concurrency.ts`).
-/

namespace Devproof

structure Target where
  protocol : String
  hostname : String
  origin : String
  deriving Repr, DecidableEq

structure Deployment where
  host : Host
  /-- `process.env.BROWSER_EXECUTION_DATA_LOCKS_ENABLED`. -/
  dataLocks : Option String
  /-- `process.env.BROWSER_EXECUTION_ENVIRONMENTS_JSON`. -/
  environments : Option String
  /-- `new URL(text)`; `none` where it throws. -/
  parseTarget : String → Option Target
  /-- `text.toLowerCase()`. -/
  toLowerCase : String → String
  /-- `left.localeCompare(right)`. -/
  localeCompare : String → String → Int

inductive ClaimMode where
  | read
  | write
  deriving Repr, DecidableEq

structure ResourceClaim where
  rootKey : String
  resourceKey : String
  mode : ClaimMode
  origin : Option String := none
  deriving Repr, DecidableEq

inductive AccessMode where
  | readOnly
  | mutating
  | unknown
  deriving Repr, DecidableEq

structure ExecutionConcurrencyPolicy where
  accessMode : AccessMode
  resourceScopes : Option (List String) := none
  dependsOnCaseIds : Option (List String) := none
  provenance : Option String := none
  version : Option Int := none
  deriving Repr, DecidableEq

structure EnvironmentRule where
  hostname : String
  key : String
  deriving Repr, DecidableEq

structure AccountAssignment where
  account : String
  aliases : List String
  requiredTypes : List String
  usage : AccountUsage
  deriving Repr, DecidableEq

structure Execution where
  targetUrl : Option String
  concurrency : Option Json
  executionPolicy : Option Json

def accessModeSchema : Codec AccessMode :=
  Codec.enumeration
    (fun
      | .readOnly => "READ_ONLY"
      | .mutating => "MUTATING"
      | .unknown => "UNKNOWN")
    [.readOnly, .mutating, .unknown]
    (by intro value; cases value <;> decide)

def scopePattern (value : String) : Bool :=
  match value.toList with
  | [] => false
  | first :: rest =>
      first.isAlphanum && rest.all fun char => char.isAlphanum || "._:/-".toList.contains char

def scopeText (value : String) : Option String :=
  (trimmedText 300 value).filter scopePattern

theorem scopeText_stable (value result : String) (accepted : scopeText value = some result) :
    scopeText result = some result := by
  simp only [scopeText, Option.filter_eq_some_iff] at accepted ⊢
  exact ⟨trimmedText_stable 300 value result accepted.1, accepted.2⟩

def scopeSchema : Codec String :=
  Codec.string scopeText scopeText_stable

def concurrencyFields (host : Host) :=
  Fields.cons "accessMode" (.required accessModeSchema) <|
    .cons "resourceScopes" (.optional (Codec.list scopeSchema 0 50)) <|
    .cons "dependsOnCaseIds" (.optional (Codec.list (uuidSchema host) 0 100)) <|
    .cons "provenance" (.optional (trimmed 200)) <|
    .cons "version" (.optional (Codec.integer fun value => 0 < value)) <|
    .nil

def executionConcurrencyPolicySchema (host : Host) (value : Json) :
    Option ExecutionConcurrencyPolicy :=
  match value with
  | .obj members =>
      if members.all fun entry => (concurrencyFields host).names.contains entry.1 then
        ((concurrencyFields host).read members).map
          fun (accessMode, resourceScopes, dependsOnCaseIds, provenance, version, ()) =>
            { accessMode, resourceScopes, dependsOnCaseIds, provenance, version }
      else none
  | _ => none

section Deployment

variable (deployment : Deployment)

def businessDataLocksEnabled : Bool :=
  deployment.dataLocks != some "false"

def environmentRule (rule : Json) : Except String EnvironmentRule :=
  match rule with
  | .obj members =>
      match Members.get members "hostname", Members.get members "key" with
      | some (.str hostname), some (.str key) =>
          if trim key = "" then .error "Execution environment rules require hostname and key."
          else .ok { hostname := deployment.toLowerCase hostname, key := trim key }
      | _, _ => .error "Execution environment rules require hostname and key."
  | _ => .error "Execution environment rules require hostname and key."

def ruleMatches (target : Target) (rule : EnvironmentRule) : Bool :=
  rule.hostname == deployment.toLowerCase target.hostname ||
    ("*.".toList.isPrefixOf rule.hostname.toList &&
      (rule.hostname.toList.drop 1).isSuffixOf (deployment.toLowerCase target.hostname).toList)

/-- The comparison function given to `sort`: an exact host, then the longer name, then the key. -/
def compareRules (target : Target) (left right : EnvironmentRule) : Int :=
  let exact (rule : EnvironmentRule) : Int := if rule.hostname = target.hostname then 1 else 0
  if exact right - exact left ≠ 0 then exact right - exact left
  else if (units right.hostname : Int) - units left.hostname ≠ 0 then
    (units right.hostname : Int) - units left.hostname
  else deployment.localeCompare left.key right.key

def configuredEnvironment (target : Target) (configuration : String) :
    Except String (Option String) :=
  match deployment.host.parseJson configuration with
  | none => .error "BROWSER_EXECUTION_ENVIRONMENTS_JSON must be valid JSON."
  | some (.arr rules) => do
      let valid ← rules.mapM (environmentRule deployment)
      let sorted := (valid.filter (ruleMatches deployment target)).mergeSort
        fun left right => compareRules deployment target left right ≤ 0
      return sorted.head?.map (·.key)
  | some _ => .error "BROWSER_EXECUTION_ENVIRONMENTS_JSON must be an array."

def businessEnvironmentKey (targetUrl : Option String) : Except String String :=
  match (truthy targetUrl).bind deployment.parseTarget with
  | none => .ok "*"
  | some target =>
      if !(["http:", "https:"].contains target.protocol) then .ok "*"
      else do
        let configured ← match truthy deployment.environments with
          | some configuration => configuredEnvironment deployment target configuration
          | none => .ok none
        match configured with
        | some key => return "environment:" ++ key
        | none => return "origin:" ++ deployment.toLowerCase target.origin

def concurrencyPolicy (value : Option Json) : ExecutionConcurrencyPolicy :=
  match value.bind (executionConcurrencyPolicySchema deployment.host) with
  | some policy => policy
  | none => { accessMode := .unknown }

def scopePath (scope : String) : List (List Char) :=
  (scope.toList.splitOn '/').filter fun segment => segment != []

def keyOf (path : List (List Char)) : String :=
  String.ofList (joined '/' path)

def declaredScopes (policy : ExecutionConcurrencyPolicy) : List String :=
  match policy.resourceScopes with
  | some (scope :: scopes) => scope :: scopes
  | _ => [""]

def resourceClaims (targetUrl : Option String) (value : Option Json) :
    Except String (List ResourceClaim) := do
  let rootKey ← businessEnvironmentKey deployment targetUrl
  let policy := concurrencyPolicy deployment value
  if rootKey = "*" ∨ policy.accessMode = .unknown then
    return [{ rootKey, resourceKey := "", mode := .write }]
  else
    let scopes := (uniq ((declaredScopes policy).map fun scope => keyOf (scopePath scope))).mergeSort
      fun left right => left ≤ right
    return scopes.map fun resourceKey =>
      { rootKey, resourceKey, mode := if policy.accessMode = .readOnly then .read else .write }

def normalized (text : String) : String :=
  deployment.toLowerCase (trim text)

def hash (text : String) : String :=
  deployment.host.sha256 (normalized deployment text)

def accountPath (account type : String) : List (List Char) :=
  ["accounts".toList, (hash deployment account).toList] ++
    if type = "" then [] else [(hash deployment type).toList]

def requiredTypesOrAny (assignment : AccountAssignment) : List String :=
  if assignment.requiredTypes = [] then [""] else assignment.requiredTypes

def usageMode (usage : AccountUsage) : ClaimMode :=
  match usage with
  | .readExisting => .read
  | .createOrModify => .write

def assignmentClaims (rootKey : String) (assignment : AccountAssignment) : List ResourceClaim :=
  (uniq (assignment.account :: assignment.aliases)).flatMap fun account =>
    (requiredTypesOrAny assignment).map fun type =>
      { rootKey
        resourceKey := keyOf (accountPath deployment account type)
        mode := usageMode assignment.usage
        origin := some "ACCOUNT_COORDINATION" }

def sameClaimKey (left right : ResourceClaim) : Bool :=
  left.rootKey == right.rootKey && left.resourceKey == right.resourceKey

def keepClaim (claim : ResourceClaim) : List ResourceClaim → List ResourceClaim
  | [] => [claim]
  | kept :: rest =>
      if sameClaimKey kept claim then
        (if kept.mode = .write then kept else claim) :: rest
      else kept :: keepClaim claim rest

def uniqueClaims (claims : List ResourceClaim) : List ResourceClaim :=
  claims.foldl (fun unique claim => keepClaim claim unique) []

def assignmentOf (binding : TestAccountBinding) : AccountAssignment where
  account := binding.account
  aliases := binding.aliases
  requiredTypes := binding.requiredTypes
  usage := binding.usage

def stateAssignments (policy : Members) : List AccountAssignment :=
  let state := readExecutionState deployment.host policy
  match truthy state.account with
  | some account =>
      [{ account, aliases := state.accountAliases, requiredTypes := [], usage := .createOrModify }]
  | none => []

def assignedBindings (policy : Members) : Option (List TestAccountBinding) :=
  (policy.get "testAccounts").bind (testAccountBindingsSchema deployment.host).read

def boundAccounts (policy : Members) (bindings : List TestAccountBinding) :
    List AccountAssignment :=
  if bindings = [] then stateAssignments deployment policy else bindings.map assignmentOf

def executionResourceClaims (execution : Execution) : Except String (List ResourceClaim) := do
  let claims ←
    if businessDataLocksEnabled deployment then
      resourceClaims deployment execution.targetUrl execution.concurrency
    else pure []
  let policy := object execution.executionPolicy
  match assignedBindings deployment policy with
  | none => return claims
  | some bindings => do
      let rootKey ← businessEnvironmentKey deployment execution.targetUrl
      return uniqueClaims
        (claims ++ (boundAccounts deployment policy bindings).flatMap
          (assignmentClaims deployment rootKey))

end Deployment

def startsBelow (key above : String) : Bool :=
  (above.toList ++ ['/']).isPrefixOf key.toList

def resourcesConflict (left right : ResourceClaim) : Bool :=
  if left.rootKey != right.rootKey && left.rootKey != "*" && right.rootKey != "*" then false
  else if left.mode == .read && right.mode == .read then false
  else if left.rootKey == "*" || right.rootKey == "*" then true
  else
    left.resourceKey == "" || right.resourceKey == "" || left.resourceKey == right.resourceKey ||
      startsBelow left.resourceKey right.resourceKey ||
      startsBelow right.resourceKey left.resourceKey

end Devproof
