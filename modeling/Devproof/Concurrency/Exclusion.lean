import Mathlib.Logic.Equiv.List
import Devproof.Concurrency.Conflicts

/-!
Whole executions against each other: with the broad locks off only shared
accounts exclude, with them on declared scopes and accounts share one tree.
-/

namespace Devproof

/-! A deployment with the real digests of the names below. -/

/-- Digests of the names in use; every other text has a longer stand-in of its own. -/
def officeDigest (text : String) : String :=
  if text = "ann" then "49915e0d7d4b402e3017d010bc1c0e83cac6c797d6c16e66340fe3268693a6a1"
  else if text = "bo" then "3d099d0f13df9d0bb4427a6ce99d61b988861761e286d6e34b17d6371b46b13f"
  else if text = "mapping" then "a6375ee99716acf4635ba3c192f7578a85ad4b479d09174e7d80d01aa91443af"
  else String.ofList (List.replicate (65 + Encodable.encode (text.toList.map Char.toNat)) '1')

theorem encode_text_injective {first second : String}
    (same : Encodable.encode (first.toList.map Char.toNat) =
      Encodable.encode (second.toList.map Char.toNat)) : first = second := by
  have codes := Encodable.encode_injective same
  have injective : Function.Injective Char.toNat := fun _ _ equal => Char.toNat_inj.mp equal
  exact String.toList_inj.mp (injective.list_map codes)

theorem long_ne {count : Nat} {digest : String} (short : digest.toList.length = 64) :
    String.ofList (List.replicate (65 + count) '1') ≠ digest := by
  rintro rfl
  rw [String.toList_ofList, List.length_replicate] at short
  omega

theorem officeDigest_hex : HexDigests officeDigest where
  injective := by
    intro first second same
    unfold officeDigest at same
    split_ifs at same <;> try first
      | (subst_vars; rfl)
      | exact absurd same (by decide)
      | exact absurd same (long_ne (by decide))
      | exact absurd same.symm (long_ne (by decide))
    have lengths := congrArg (fun text => text.toList.length) same
    simp only [String.toList_ofList, List.length_replicate] at lengths
    exact encode_text_injective (by omega)
  nonempty text := by
    unfold officeDigest
    split_ifs
    · decide
    · decide
    · decide
    · intro empty
      have lengths := congrArg (fun text => text.toList.length) empty
      simp only [String.toList_ofList, List.length_replicate, String.toList_empty,
        List.length_nil] at lengths
      omega
  digits text char member := by
    unfold officeDigest at member
    split_ifs at member
    · exact List.all_eq_true.mp (by decide) char member
    · exact List.all_eq_true.mp (by decide) char member
    · exact List.all_eq_true.mp (by decide) char member
    · rw [String.toList_ofList] at member
      rw [List.eq_of_mem_replicate member]
      decide

def office (locks : Option String) : Deployment where
  host := { Host.ofTables {} with sha256 := officeDigest }
  dataLocks := locks
  environments := none
  parseTarget text :=
    if text = "https://app.test" then
      some { protocol := "https:", hostname := "app.test", origin := "https://app.test" }
    else none
  toLowerCase text := String.ofList (text.toList.map Char.toLower)
  localeCompare _ _ := 0

section Executions

variable (deployment : Deployment)

def accountBindings (execution : Execution) : List AccountAssignment :=
  match assignedBindings deployment (object execution.executionPolicy) with
  | none => []
  | some bindings => boundAccounts deployment (object execution.executionPolicy) bindings

def accountClaims (root : String) (execution : Execution) : List ResourceClaim :=
  (accountBindings deployment execution).flatMap (assignmentClaims deployment root)

variable {deployment}

theorem trimmed_parse_ne {limit : Nat} {value result : String}
    (parsed : (trimmed limit).parse value = some result) : result ≠ "" := by
  rintro rfl
  have long := (trimmed_parse.mp parsed).2.1
  simp [units, unitsOf] at long

theorem testAccountBindingSchema_typed {host : Host} {binding : TestAccountBinding}
    (valid : (testAccountBindingSchema host).Valid binding) : "" ∉ binding.requiredTypes := by
  rw [Codec.Valid, testAccountBindingSchema, Codec.object_parse_eq_some fun _ => rfl] at valid
  simp only [Fields.parse_cons_eq_some] at valid
  obtain ⟨-, -, -, -, -, types, -⟩ := valid
  have each := (Codec.list_parse_eq_some.mp types).2
  intro listed
  obtain ⟨source, -, parsed⟩ := forall₂_source each listed
  exact trimmed_parse_ne parsed rfl

theorem assignedBindings_typed {policy : Members} {bindings : List TestAccountBinding}
    (assigned : assignedBindings deployment policy = some bindings)
    {binding : TestAccountBinding} (member : binding ∈ bindings) :
    "" ∉ binding.requiredTypes := by
  obtain ⟨json, -, read⟩ := Option.bind_eq_some_iff.mp assigned
  have valid := (testAccountBindingsSchema deployment.host).parse_read json bindings read
  obtain ⟨source, -, parsed⟩ :=
    forall₂_source (Codec.list_parse_eq_some.mp valid).2 member
  exact testAccountBindingSchema_typed (Codec.valid_of_parse _ parsed)

theorem accountBindings_typed (execution : Execution) :
    Typed (accountBindings deployment execution) := by
  intro assignment member
  unfold accountBindings at member
  split at member
  · simp at member
  · rename_i bindings assigned
    unfold boundAccounts at member
    split at member
    · simp only [stateAssignments] at member
      split at member
      · obtain rfl := List.mem_singleton.mp member
        exact List.not_mem_nil
      · simp at member
    · obtain ⟨binding, listed, rfl⟩ := List.mem_map.mp member
      exact assignedBindings_typed assigned listed

/-- With the broad locks off an execution claims its accounts and nothing else. -/
theorem executionResourceClaims_unlocked {execution : Execution} {root : String}
    (unlocked : businessDataLocksEnabled deployment = false)
    (environment : businessEnvironmentKey deployment execution.targetUrl = .ok root) :
    ∃ claims, executionResourceClaims deployment execution = .ok claims ∧
      ∀ others, Meets claims others ↔ Meets (accountClaims deployment root execution) others := by
  simp only [executionResourceClaims, unlocked, Bool.false_eq_true, if_false, pure_bind,
    accountClaims, accountBindings]
  cases assigned : assignedBindings deployment (object execution.executionPolicy) with
  | none => exact ⟨[], rfl, fun _ => Iff.rfl⟩
  | some bindings =>
      simp only [environment]
      exact ⟨_, rfl, fun _ => meets_uniqueClaims_left⟩

theorem executionResourceClaims_locked {execution : Execution} {root : String}
    {business : List ResourceClaim} (locked : businessDataLocksEnabled deployment = true)
    (environment : businessEnvironmentKey deployment execution.targetUrl = .ok root)
    (claimed : resourceClaims deployment execution.targetUrl execution.concurrency = .ok business) :
    ∃ claims, executionResourceClaims deployment execution = .ok claims ∧
      ∀ others, Meets claims others ↔
        Meets (business ++ accountClaims deployment root execution) others := by
  simp only [executionResourceClaims, locked, if_true, claimed, accountClaims, accountBindings]
  cases assigned : assignedBindings deployment (object execution.executionPolicy) with
  | none => exact ⟨business, rfl, fun _ => by simp⟩
  | some bindings =>
      simp only [environment]
      exact ⟨_, rfl, fun _ => meets_uniqueClaims_left⟩

/-- Executions in one environment exclude each other exactly when their accounts clash. -/
theorem unlocked_executions_conflict_iff {root : String} {first second : Execution}
    (digests : HexDigests deployment.host.sha256)
    (unlocked : businessDataLocksEnabled deployment = false) (known : root ≠ "*")
    (firstEnvironment : businessEnvironmentKey deployment first.targetUrl = .ok root)
    (secondEnvironment : businessEnvironmentKey deployment second.targetUrl = .ok root) :
    ∃ lefts rights, executionResourceClaims deployment first = .ok lefts ∧
      executionResourceClaims deployment second = .ok rights ∧
      (Meets lefts rights ↔
        AccountsClash deployment (accountBindings deployment first)
          (accountBindings deployment second)) := by
  obtain ⟨lefts, leftClaims, leftMeets⟩ :=
    executionResourceClaims_unlocked unlocked firstEnvironment
  obtain ⟨rights, rightClaims, rightMeets⟩ :=
    executionResourceClaims_unlocked unlocked secondEnvironment
  refine ⟨lefts, rights, leftClaims, rightClaims, ?_⟩
  rw [leftMeets, meets_comm, rightMeets, meets_comm]
  exact assignmentClaims_meet_iff digests known (accountBindings_typed first)
    (accountBindings_typed second)

def declaredAccounts (deployment : Deployment) (execution : Execution) : List AccountAssignment :=
  let policy := object execution.executionPolicy
  boundAccounts deployment policy ((assignedBindings deployment policy).getD [])

def DeclaredClash (deployment : Deployment) (first second : Execution) : Prop :=
  ∃ left ∈ declaredAccounts deployment first, ∃ right ∈ declaredAccounts deployment second,
    SharesIdentity deployment left right ∧
      (left.requiredTypes = [] ∨ right.requiredTypes = [] ∨
        ∃ type ∈ left.requiredTypes, type ∈ right.requiredTypes) ∧
      ¬BothRead left right

instance (first second : Execution) : Decidable (DeclaredClash deployment first second) := by
  unfold DeclaredClash
  infer_instance

def appExecution (concurrency : Option Json) (policy : Members) : Execution where
  targetUrl := some "https://app.test"
  concurrency := concurrency
  executionPolicy := some (.obj policy)

def subject (account type : String) : Members :=
  [("testAccounts", .arr [.obj [("slotId", .str "s"), ("account", .str account),
    ("usage", .str "CREATE_OR_MODIFY"), ("requiredTypes", .arr [.str type])]])]

/-- Policies without a list claim nothing, and types are compared without regard to case. -/
theorem declared_accounts_conflict_differently :
    (∃ lefts ∈ (executionResourceClaims (office (some "false"))
        (appExecution none [("executionState", .obj [("account", .str "ann")])])).toOption,
      ∃ rights ∈ (executionResourceClaims (office (some "false"))
        (appExecution none [("executionState", .obj [("account", .str "bo"),
          ("accountAliases", .arr [.str "ANN"])])])).toOption,
        ¬(Meets lefts rights ↔ DeclaredClash (office (some "false"))
          (appExecution none [("executionState", .obj [("account", .str "ann")])])
          (appExecution none [("executionState", .obj [("account", .str "bo"),
            ("accountAliases", .arr [.str "ANN"])])]))) ∧
      ∃ lefts ∈ (executionResourceClaims (office (some "false"))
          (appExecution none (subject "ann" "MAPPING"))).toOption,
        ∃ rights ∈ (executionResourceClaims (office (some "false"))
          (appExecution none (subject "ann" "mapping"))).toOption,
          ¬(Meets lefts rights ↔ DeclaredClash (office (some "false"))
            (appExecution none (subject "ann" "MAPPING"))
            (appExecution none (subject "ann" "mapping"))) := by
  decide +kernel

theorem unlocked_office_conflict_iff :
    ∃ lefts rights,
      executionResourceClaims (office (some "false"))
        (appExecution none (subject "ann" "MAPPING")) = .ok lefts ∧
      executionResourceClaims (office (some "false"))
        (appExecution none (subject "bo" "mapping")) = .ok rights ∧
      (Meets lefts rights ↔
        AccountsClash (office (some "false"))
          (accountBindings (office (some "false")) (appExecution none (subject "ann" "MAPPING")))
          (accountBindings (office (some "false")) (appExecution none (subject "bo" "mapping")))) :=
  unlocked_executions_conflict_iff officeDigest_hex (by decide) (by decide) rfl rfl

/-! Declared scopes beside account assignments. -/

variable (deployment)

def ScopeMeetsAccount (policy : ExecutionConcurrencyPolicy) (assignments : List AccountAssignment)
    (path : List (List Char)) : Prop :=
  path ∈ declaredPaths policy ∧ ∃ assignment ∈ assignments,
    ¬(policy.accessMode = .readOnly ∧ assignment.usage = .readExisting) ∧
      ∃ account ∈ assignment.account :: assignment.aliases,
        ∃ type ∈ requiredTypesOrAny assignment,
          Overlap path (accountPath deployment account type)

/-- Both executions only read, one of them everywhere; the other has an account to modify. -/
def StrayRootRead (reader holder : Execution) : Prop :=
  (concurrencyPolicy deployment reader.concurrency).accessMode = .readOnly ∧
    (concurrencyPolicy deployment holder.concurrency).accessMode = .readOnly ∧
    [] ∈ declaredPaths (concurrencyPolicy deployment reader.concurrency) ∧
    ∃ assignment ∈ accountBindings deployment holder, assignment.usage = .createOrModify

/-- A scope declared below `accounts` overlaps the path of an account assigned to the other. -/
def StrayAccountScope (claimant holder : Execution) : Prop :=
  ¬BusinessClash (concurrencyPolicy deployment claimant.concurrency)
      (concurrencyPolicy deployment holder.concurrency) ∧
    ∃ below, ScopeMeetsAccount deployment (concurrencyPolicy deployment claimant.concurrency)
      (accountBindings deployment holder) ("accounts".toList :: below)

/-- A scope of the one and an account of the other meet where nothing else keeps them apart. -/
def Entangled (first second : Execution) : Prop :=
  ¬AccountsClash deployment (accountBindings deployment first)
      (accountBindings deployment second) ∧
    (StrayRootRead deployment first second ∨ StrayRootRead deployment second first ∨
      StrayAccountScope deployment first second ∨ StrayAccountScope deployment second first)

variable {deployment}

theorem businessClash_comm {first second : ExecutionConcurrencyPolicy} :
    BusinessClash first second ↔ BusinessClash second first := by
  constructor <;>
  · rintro ⟨writer, path, declared, other, declared', overlap⟩
    exact ⟨fun readers => writer readers.symm, other, declared', path, declared,
      overlap_comm.mp overlap⟩

/-- The business claims of two executions conflict exactly when their scopes clash. -/
theorem businessClaims_meet_iff {root : String} {first second : ExecutionConcurrencyPolicy}
    {lefts rights : List ResourceClaim} (known : root ≠ "*")
    (leftSpec : ClaimsDeclared root first lefts) (rightSpec : ClaimsDeclared root second rights) :
    Meets lefts rights ↔ BusinessClash first second := by
  constructor
  · rintro ⟨left, leftClaim, right, rightClaim, conflict⟩
    obtain ⟨path, declared, rfl⟩ := (leftSpec left).mp leftClaim
    obtain ⟨other, declared', rfl⟩ := (rightSpec right).mp rightClaim
    rw [resourcesConflict_iff known rfl rfl rfl rfl (declaredPaths_plain declared)
      (declaredPaths_plain declared')] at conflict
    simp only [accessClaimMode_eq_read_iff] at conflict
    exact ⟨conflict.1, path, declared, other, declared', conflict.2⟩
  · rintro ⟨writer, path, declared, other, declared', overlap⟩
    refine ⟨_, (leftSpec _).mpr ⟨path, declared, rfl⟩, _,
      (rightSpec _).mpr ⟨other, declared', rfl⟩, ?_⟩
    rw [resourcesConflict_iff known rfl rfl rfl rfl (declaredPaths_plain declared)
      (declaredPaths_plain declared')]
    simp only [accessClaimMode_eq_read_iff]
    exact ⟨writer, overlap⟩

theorem scopes_meet_accounts_iff (digests : HexDigests deployment.host.sha256) {root : String}
    {policy : ExecutionConcurrencyPolicy} {holder : Execution} {business : List ResourceClaim}
    (known : root ≠ "*") (spec : ClaimsDeclared root policy business) :
    Meets business (accountClaims deployment root holder) ↔
      ∃ path, ScopeMeetsAccount deployment policy (accountBindings deployment holder) path := by
  constructor
  · rintro ⟨scope, scopeClaim, claim, accountClaim, conflict⟩
    obtain ⟨path, declared, rfl⟩ := (spec scope).mp scopeClaim
    obtain ⟨assignment, assigned, member⟩ := List.mem_flatMap.mp accountClaim
    obtain ⟨account, named, type, typed, rfl⟩ := mem_assignmentClaims.mp member
    rw [resourcesConflict_iff known rfl rfl rfl rfl (declaredPaths_plain declared)
      (accountPath_plain digests account type)] at conflict
    simp only [accessClaimMode_eq_read_iff, usageMode_eq_read_iff] at conflict
    exact ⟨path, declared, assignment, assigned, conflict.1, account, named, type, typed, conflict.2⟩
  · rintro ⟨path, declared, assignment, assigned, writer, account, named, type, typed, overlap⟩
    refine ⟨_, (spec _).mpr ⟨path, declared, rfl⟩, _, List.mem_flatMap.mpr
      ⟨assignment, assigned, mem_assignmentClaims.mpr ⟨account, named, type, typed, rfl⟩⟩, ?_⟩
    rw [resourcesConflict_iff known rfl rfl rfl rfl (declaredPaths_plain declared)
      (accountPath_plain digests account type)]
    simp only [accessClaimMode_eq_read_iff, usageMode_eq_read_iff]
    exact ⟨writer, overlap⟩

theorem requiredTypesOrAny_ne_nil (assignment : AccountAssignment) :
    requiredTypesOrAny assignment ≠ [] := by
  unfold requiredTypesOrAny
  split
  · simp
  · assumption

theorem scope_meets_account_cases {claimant holder : Execution}
    (apart : ¬BusinessClash (concurrencyPolicy deployment claimant.concurrency)
      (concurrencyPolicy deployment holder.concurrency)) :
    (∃ path, ScopeMeetsAccount deployment (concurrencyPolicy deployment claimant.concurrency)
        (accountBindings deployment holder) path) ↔
      StrayRootRead deployment claimant holder ∨ StrayAccountScope deployment claimant holder := by
  constructor
  · rintro ⟨path, meeting⟩
    cases path with
    | nil =>
        obtain ⟨declared, assignment, assigned, writer, -⟩ := meeting
        obtain ⟨other, declared'⟩ := List.exists_mem_of_ne_nil _
          (declaredPaths_ne_nil (concurrencyPolicy deployment holder.concurrency))
        have readers : (concurrencyPolicy deployment claimant.concurrency).accessMode = .readOnly ∧
            (concurrencyPolicy deployment holder.concurrency).accessMode = .readOnly := by
          by_contra writes
          exact apart ⟨writes, [], declared, other, declared', overlap_nil other⟩
        have modifies : assignment.usage = .createOrModify := by
          cases usage : assignment.usage with
          | createOrModify => rfl
          | readExisting => exact absurd ⟨readers.1, usage⟩ writer
        exact Or.inl ⟨readers.1, readers.2, declared, assignment, assigned, modifies⟩
    | cons head below =>
        have named : head = "accounts".toList := by
          obtain ⟨-, -, -, -, account, -, type, -, overlap⟩ := meeting
          exact (overlap_cons_iff.mp overlap).1
        exact Or.inr ⟨apart, below, named ▸ meeting⟩
  · rintro (⟨reads, -, declared, assignment, assigned, modifies⟩ | ⟨-, below, meeting⟩)
    · obtain ⟨type, typed⟩ :=
        List.exists_mem_of_ne_nil _ (requiredTypesOrAny_ne_nil assignment)
      refine ⟨[], declared, assignment, assigned, ?_, assignment.account, List.mem_cons_self ..,
        type, typed, overlap_nil _⟩
      simp [modifies]
    · exact ⟨_, meeting⟩

/-- With the broad locks on, business and account claims stay apart unless entangled. -/
theorem locked_executions_conflict_iff {root : String} {first second : Execution}
    (digests : HexDigests deployment.host.sha256)
    (locked : businessDataLocksEnabled deployment = true) (known : root ≠ "*")
    (firstEnvironment : businessEnvironmentKey deployment first.targetUrl = .ok root)
    (secondEnvironment : businessEnvironmentKey deployment second.targetUrl = .ok root) :
    ∃ lefts rights leftBusiness rightBusiness,
      executionResourceClaims deployment first = .ok lefts ∧
      executionResourceClaims deployment second = .ok rights ∧
      resourceClaims deployment first.targetUrl first.concurrency = .ok leftBusiness ∧
      resourceClaims deployment second.targetUrl second.concurrency = .ok rightBusiness ∧
      ((Meets lefts rights ↔
          Meets leftBusiness rightBusiness ∨
            Meets (accountClaims deployment root first) (accountClaims deployment root second)) ↔
        ¬Entangled deployment first second) := by
  obtain ⟨leftBusiness, leftClaimed, leftSpec⟩ :=
    resourceClaims_spec first.concurrency known firstEnvironment
  obtain ⟨rightBusiness, rightClaimed, rightSpec⟩ :=
    resourceClaims_spec second.concurrency known secondEnvironment
  obtain ⟨lefts, leftClaims, leftMeets⟩ :=
    executionResourceClaims_locked locked firstEnvironment leftClaimed
  obtain ⟨rights, rightClaims, rightMeets⟩ :=
    executionResourceClaims_locked locked secondEnvironment rightClaimed
  refine ⟨lefts, rights, leftBusiness, rightBusiness, leftClaims, rightClaims, leftClaimed,
    rightClaimed, ?_⟩
  have parts : Meets lefts rights ↔
      (Meets leftBusiness rightBusiness ∨
        Meets (accountClaims deployment root first) rightBusiness) ∨
      Meets leftBusiness (accountClaims deployment root second) ∨
        Meets (accountClaims deployment root first) (accountClaims deployment root second) := by
    rw [leftMeets, meets_comm, rightMeets, meets_comm, meets_append_right, meets_append_left,
      meets_append_left]
  rw [parts, @meets_comm (accountClaims deployment root first) rightBusiness,
    businessClaims_meet_iff known leftSpec rightSpec,
    scopes_meet_accounts_iff digests known leftSpec,
    scopes_meet_accounts_iff digests known rightSpec]
  have accounts : Meets (accountClaims deployment root first)
      (accountClaims deployment root second) ↔ _ :=
    assignmentClaims_meet_iff digests known (accountBindings_typed first)
      (accountBindings_typed second)
  rw [accounts]
  by_cases clash : BusinessClash (concurrencyPolicy deployment first.concurrency)
      (concurrencyPolicy deployment second.concurrency)
  · have readers := clash.1
    have clash' := businessClash_comm.mp clash
    simp only [Entangled, StrayRootRead, StrayAccountScope, clash, clash', true_or, not_true,
      false_and, or_false, true_iff]
    rintro ⟨-, stray | stray⟩
    · exact readers ⟨stray.1, stray.2.1⟩
    · exact readers ⟨stray.2.1, stray.1⟩
  · have clash' := fun reversed => clash (businessClash_comm.mp reversed)
    rw [scope_meets_account_cases clash, scope_meets_account_cases clash']
    simp only [Entangled, clash, false_or]
    by_cases shared : AccountsClash deployment (accountBindings deployment first)
        (accountBindings deployment second)
    · simp only [shared, or_true, not_true, false_and, not_false_eq_true]
    · simp only [shared, or_false, iff_false, not_false_eq_true, true_and]
      refine not_congr ⟨?_, ?_⟩
      · rintro ((root | scope) | (root | scope))
        · exact Or.inr (Or.inl root)
        · exact Or.inr (Or.inr (Or.inr scope))
        · exact Or.inl root
        · exact Or.inr (Or.inr (Or.inl scope))
      · rintro (root | root | scope | scope)
        · exact Or.inr (Or.inl root)
        · exact Or.inl (Or.inl root)
        · exact Or.inr (Or.inr scope)
        · exact Or.inl (Or.inr scope)

/-- A read of everything meets an account that another reading execution may modify. -/
theorem reading_execution_waits_for_account :
    ∃ lefts ∈ (executionResourceClaims (office none)
        (appExecution (some (.obj [("accessMode", .str "READ_ONLY")])) [])).toOption,
      ∃ rights ∈ (executionResourceClaims (office none)
          (appExecution (some (.obj [("accessMode", .str "READ_ONLY"),
            ("resourceScopes", .arr [.str "orders"])])) (subject "ann" "MAPPING"))).toOption,
        ∃ leftBusiness ∈ (resourceClaims (office none) (some "https://app.test")
            (some (.obj [("accessMode", .str "READ_ONLY")]))).toOption,
          ∃ rightBusiness ∈ (resourceClaims (office none) (some "https://app.test")
              (some (.obj [("accessMode", .str "READ_ONLY"),
                ("resourceScopes", .arr [.str "orders"])]))).toOption,
            ¬(Meets lefts rights ↔ Meets leftBusiness rightBusiness ∨
              Meets
                (accountClaims (office none) "origin:https://app.test"
                  (appExecution (some (.obj [("accessMode", .str "READ_ONLY")])) []))
                (accountClaims (office none) "origin:https://app.test"
                  (appExecution (some (.obj [("accessMode", .str "READ_ONLY"),
                    ("resourceScopes", .arr [.str "orders"])])) (subject "ann" "MAPPING")))) := by
  decide +kernel

theorem locked_office_conflict_iff :
    ∃ lefts rights leftBusiness rightBusiness,
      executionResourceClaims (office none)
        (appExecution none (subject "ann" "MAPPING")) = .ok lefts ∧
      executionResourceClaims (office none)
        (appExecution none (subject "bo" "mapping")) = .ok rights ∧
      resourceClaims (office none) (some "https://app.test") none = .ok leftBusiness ∧
      resourceClaims (office none) (some "https://app.test") none = .ok rightBusiness ∧
      ((Meets lefts rights ↔
          Meets leftBusiness rightBusiness ∨
            Meets
              (accountClaims (office none) "origin:https://app.test"
                (appExecution none (subject "ann" "MAPPING")))
              (accountClaims (office none) "origin:https://app.test"
                (appExecution none (subject "bo" "mapping")))) ↔
        ¬Entangled (office none) (appExecution none (subject "ann" "MAPPING"))
          (appExecution none (subject "bo" "mapping"))) :=
  locked_executions_conflict_iff officeDigest_hex (by decide) (by decide) rfl rfl

end Executions

end Devproof
