import Devproof.Concurrency.ResourceClaims
import Devproof.ExecutionSchema

/-!
Which executions exclude each other.  Keys are paths in one tree, so two claims
conflict when their regions meet and one of them writes.
-/

namespace Devproof

def Meets (lefts rights : List ResourceClaim) : Prop :=
  ∃ left ∈ lefts, ∃ right ∈ rights, resourcesConflict left right = true

instance (lefts rights : List ResourceClaim) : Decidable (Meets lefts rights) :=
  inferInstanceAs (Decidable (∃ left ∈ lefts, ∃ right ∈ rights, resourcesConflict left right = true))

structure Subsumes (kept claim : ResourceClaim) : Prop where
  root : kept.rootKey = claim.rootKey
  resource : kept.resourceKey = claim.resourceKey
  write : claim.mode = .write → kept.mode = .write

theorem Subsumes.refl (claim : ResourceClaim) : Subsumes claim claim :=
  ⟨rfl, rfl, id⟩

theorem Subsumes.trans {first second third : ResourceClaim} (upper : Subsumes first second)
    (lower : Subsumes second third) : Subsumes first third where
  root := upper.root.trans lower.root
  resource := upper.resource.trans lower.resource
  write := upper.write ∘ lower.write

theorem ClaimMode.ne_write_iff {mode : ClaimMode} : mode ≠ .write ↔ mode = .read := by
  cases mode <;> simp

theorem resourcesConflict_subsumes {kept claim other : ResourceClaim} (above : Subsumes kept claim)
    (conflict : resourcesConflict claim other = true) : resourcesConflict kept other = true := by
  have mode : kept.mode = .read → claim.mode = .read := by
    intro reads
    rw [← ClaimMode.ne_write_iff] at reads ⊢
    exact fun writes => reads (above.write writes)
  unfold resourcesConflict at conflict ⊢
  rw [above.root, above.resource]
  split at conflict
  · simp at conflict
  · rename_i related
    rw [if_neg related]
    by_cases readers : (kept.mode == .read && other.mode == .read) = true
    · simp only [Bool.and_eq_true, beq_iff_eq] at readers
      rw [if_pos (by simp [mode readers.1, readers.2])] at conflict
      simp at conflict
    · rw [if_neg readers]
      split at conflict
      · simp at conflict
      · exact conflict

theorem resourcesConflict_comm (left right : ResourceClaim) :
    resourcesConflict left right = resourcesConflict right left := by
  unfold resourcesConflict
  congr 1
  · simp only [bne_iff_ne, Bool.and_eq_true, ne_eq, eq_iff_iff]
    tauto
  · congr 1
    · simp only [Bool.and_eq_true, beq_iff_eq, eq_iff_iff]
      tauto
    · congr 1
      · simp only [Bool.or_eq_true, beq_iff_eq, eq_iff_iff]
        tauto
      · rw [Bool.eq_iff_iff]
        simp only [Bool.or_eq_true, beq_iff_eq]
        have swap := eq_comm (a := left.resourceKey) (b := right.resourceKey)
        tauto

theorem meets_comm {lefts rights : List ResourceClaim} :
    Meets lefts rights ↔ Meets rights lefts := by
  constructor <;>
  · rintro ⟨first, inFirst, second, inSecond, conflict⟩
    exact ⟨second, inSecond, first, inFirst, resourcesConflict_comm _ _ ▸ conflict⟩

theorem meets_append_left {first second rights : List ResourceClaim} :
    Meets (first ++ second) rights ↔ Meets first rights ∨ Meets second rights := by
  simp only [Meets, List.mem_append, or_and_right, exists_or]

theorem meets_append_right {lefts first second : List ResourceClaim} :
    Meets lefts (first ++ second) ↔ Meets lefts first ∨ Meets lefts second := by
  rw [meets_comm, meets_append_left, meets_comm, @meets_comm second]

/-! The map of claims keeps a claim that subsumes each one it was given. -/

theorem mem_keepClaim {claim kept : ResourceClaim} {unique : List ResourceClaim}
    (member : kept ∈ keepClaim claim unique) : kept = claim ∨ kept ∈ unique := by
  induction unique with
  | nil => exact Or.inl (List.mem_singleton.mp member)
  | cons head rest ih =>
      simp only [keepClaim] at member
      split at member
      · rcases List.mem_cons.mp member with here | later
        · split at here
          · exact Or.inr (here ▸ List.mem_cons_self ..)
          · exact Or.inl here
        · exact Or.inr (List.mem_cons_of_mem _ later)
      · rcases List.mem_cons.mp member with here | later
        · exact Or.inr (here ▸ List.mem_cons_self ..)
        · exact (ih later).imp_right (List.mem_cons_of_mem _)

theorem keepClaim_subsumes (claim : ResourceClaim) (unique : List ResourceClaim)
    {given : ResourceClaim} (member : given = claim ∨ given ∈ unique) :
    ∃ kept ∈ keepClaim claim unique, Subsumes kept given := by
  induction unique with
  | nil =>
      have same : given = claim := by simpa using member
      exact ⟨claim, List.mem_singleton_self _, same ▸ Subsumes.refl claim⟩
  | cons head rest ih =>
      simp only [keepClaim, sameClaimKey, Bool.and_eq_true, beq_iff_eq]
      by_cases same : head.rootKey = claim.rootKey ∧ head.resourceKey = claim.resourceKey
      · rw [if_pos same]
        rcases member with rfl | member
        · refine ⟨_, List.mem_cons_self .., ?_⟩
          split
          · rename_i writes
            exact ⟨same.1, same.2, fun _ => writes⟩
          · exact Subsumes.refl given
        · rcases List.mem_cons.mp member with rfl | later
          · refine ⟨_, List.mem_cons_self .., ?_⟩
            split
            · exact Subsumes.refl given
            · rename_i reads
              exact ⟨same.1.symm, same.2.symm, fun writes => absurd writes reads⟩
          · exact ⟨given, List.mem_cons_of_mem _ later, Subsumes.refl given⟩
      · rw [if_neg same]
        by_cases here : given = head
        · exact ⟨head, List.mem_cons_self .., here ▸ Subsumes.refl head⟩
        · have later : given = claim ∨ given ∈ rest :=
            member.imp_right fun found => (List.mem_cons.mp found).resolve_left here
          obtain ⟨kept, found, above⟩ := ih later
          exact ⟨kept, List.mem_cons_of_mem _ found, above⟩

theorem mem_foldl_keepClaim {claims unique : List ResourceClaim} {kept : ResourceClaim}
    (member : kept ∈ claims.foldl (fun unique claim => keepClaim claim unique) unique) :
    kept ∈ unique ∨ kept ∈ claims := by
  induction claims generalizing unique with
  | nil => exact Or.inl member
  | cons claim rest ih =>
      rcases ih member with found | later
      · rcases mem_keepClaim found with rfl | earlier
        · exact Or.inr (List.mem_cons_self ..)
        · exact Or.inl earlier
      · exact Or.inr (List.mem_cons_of_mem _ later)

theorem foldl_keepClaim_subsumes {claims : List ResourceClaim} (unique : List ResourceClaim)
    {given : ResourceClaim}
    (member : given ∈ unique ∨ given ∈ claims) :
    ∃ kept ∈ claims.foldl (fun unique claim => keepClaim claim unique) unique,
      Subsumes kept given := by
  induction claims generalizing unique given with
  | nil => exact ⟨given, by simpa using member, Subsumes.refl given⟩
  | cons claim rest ih =>
      rcases member with earlier | member
      · obtain ⟨kept, found, above⟩ := keepClaim_subsumes claim unique (Or.inr earlier)
        obtain ⟨last, final, further⟩ := ih _ (Or.inl found)
        exact ⟨last, final, further.trans above⟩
      · rcases List.mem_cons.mp member with rfl | later
        · obtain ⟨kept, found, above⟩ :=
            keepClaim_subsumes given unique (Or.inl rfl)
          obtain ⟨last, final, further⟩ := ih _ (Or.inl found)
          exact ⟨last, final, further.trans above⟩
        · exact ih _ (Or.inr later)

theorem meets_uniqueClaims_left {claims rights : List ResourceClaim} :
    Meets (uniqueClaims claims) rights ↔ Meets claims rights := by
  constructor
  · rintro ⟨left, member, right, other, conflict⟩
    exact ⟨left, (mem_foldl_keepClaim member).resolve_left (List.not_mem_nil), right, other, conflict⟩
  · rintro ⟨left, member, right, other, conflict⟩
    obtain ⟨kept, found, above⟩ := foldl_keepClaim_subsumes [] (Or.inr member)
    exact ⟨kept, found, right, other, resourcesConflict_subsumes above conflict⟩

theorem keyOf_toList (path : List (List Char)) : (keyOf path).toList = joined '/' path := by
  simp [keyOf]

theorem startsBelow_iff {below above : List (List Char)} :
    startsBelow (keyOf below) (keyOf above) = true ↔
      joined '/' above ++ ['/'] <+: joined '/' below := by
  simp [startsBelow, keyOf_toList, List.isPrefixOf_iff_prefix]

theorem keyOf_eq_iff {left right : List (List Char)} :
    keyOf left = keyOf right ↔ joined '/' left = joined '/' right := by
  rw [← String.toList_inj, keyOf_toList, keyOf_toList]

theorem keyOf_eq_empty_iff {path : List (List Char)} : keyOf path = "" ↔ joined '/' path = [] := by
  rw [← String.toList_inj, keyOf_toList]
  rfl

theorem resourcesConflict_iff {root : String} {left right : ResourceClaim}
    {leftPath rightPath : List (List Char)} (known : root ≠ "*") (leftRoot : left.rootKey = root)
    (rightRoot : right.rootKey = root) (leftKey : left.resourceKey = keyOf leftPath)
    (rightKey : right.resourceKey = keyOf rightPath) (leftPlain : Plain '/' leftPath)
    (rightPlain : Plain '/' rightPath) :
    resourcesConflict left right = true ↔
      ¬(left.mode = .read ∧ right.mode = .read) ∧ Overlap leftPath rightPath := by
  unfold resourcesConflict
  rw [leftRoot, rightRoot, leftKey, rightKey]
  simp only [bne_self_eq_false, Bool.false_and, Bool.false_eq_true, if_false, beq_iff_eq, known,
    Bool.or_self, Bool.and_eq_true, ← joined_overlap_iff leftPlain rightPlain]
  split
  · rename_i readers
    simp [readers]
  · rename_i writer
    simp [writer, startsBelow_iff, keyOf_eq_iff, keyOf_eq_empty_iff, or_assoc]

/-- `createHash("sha256")` gives hexadecimal digests, taken to differ for different texts. -/
structure HexDigests (sha256 : String → String) : Prop where
  injective : Function.Injective sha256
  nonempty : ∀ text, sha256 text ≠ ""
  digits : ∀ text, ∀ char ∈ (sha256 text).toList, isHexDigit char

section Accounts

variable (deployment : Deployment)

def SharesIdentity (left right : AccountAssignment) : Prop :=
  ∃ name ∈ left.account :: left.aliases, ∃ other ∈ right.account :: right.aliases,
    normalized deployment name = normalized deployment other

def TypesOverlap (left right : AccountAssignment) : Prop :=
  left.requiredTypes = [] ∨ right.requiredTypes = [] ∨
    ∃ type ∈ left.requiredTypes, ∃ other ∈ right.requiredTypes,
      normalized deployment type = normalized deployment other

def BothRead (left right : AccountAssignment) : Prop :=
  left.usage = .readExisting ∧ right.usage = .readExisting

instance (left right : AccountAssignment) : Decidable (SharesIdentity deployment left right) := by
  unfold SharesIdentity
  infer_instance

instance (left right : AccountAssignment) : Decidable (BothRead left right) :=
  inferInstanceAs (Decidable (_ ∧ _))

def AccountsClash (lefts rights : List AccountAssignment) : Prop :=
  ∃ left ∈ lefts, ∃ right ∈ rights,
    SharesIdentity deployment left right ∧ TypesOverlap deployment left right ∧
      ¬BothRead left right

def Typed (assignments : List AccountAssignment) : Prop :=
  ∀ assignment ∈ assignments, "" ∉ assignment.requiredTypes

theorem usageMode_eq_read_iff {usage : AccountUsage} :
    usageMode usage = .read ↔ usage = .readExisting := by
  cases usage <;> simp [usageMode]

variable {deployment}

theorem hash_plain (digests : HexDigests deployment.host.sha256) (text : String) :
    (hash deployment text).toList ≠ [] ∧ '/' ∉ (hash deployment text).toList := by
  constructor
  · intro empty
    exact digests.nonempty _ (String.toList_inj.mp (empty.trans String.toList_empty.symm))
  · intro slash
    have digit := digests.digits _ '/' slash
    revert digit
    decide

theorem hash_eq_iff (digests : HexDigests deployment.host.sha256) {first second : String} :
    (hash deployment first).toList = (hash deployment second).toList ↔
      normalized deployment first = normalized deployment second := by
  rw [String.toList_inj]
  exact digests.injective.eq_iff

theorem accountPath_plain (digests : HexDigests deployment.host.sha256) (account type : String) :
    Plain '/' (accountPath deployment account type) := by
  intro segment member
  simp only [accountPath, List.mem_append, List.mem_cons, List.not_mem_nil, or_false] at member
  rcases member with (rfl | rfl) | member
  · decide
  · exact hash_plain digests account
  · split at member
    · simp at member
    · obtain rfl := List.mem_singleton.mp member
      exact hash_plain digests type

theorem accountPath_overlap_iff (digests : HexDigests deployment.host.sha256)
    {account type account' type' : String} :
    Overlap (accountPath deployment account type) (accountPath deployment account' type') ↔
      normalized deployment account = normalized deployment account' ∧
        (type = "" ∨ type' = "" ∨ normalized deployment type = normalized deployment type') := by
  simp only [accountPath, List.cons_append, List.nil_append, overlap_cons_iff, true_and,
    hash_eq_iff digests]
  apply and_congr_right
  intro _
  by_cases whole : type = ""
  · simp [whole, overlap_nil]
  · by_cases whole' : type' = ""
    · simp [whole', overlap_comm.mp (overlap_nil _)]
    · simp [whole, whole', overlap_cons_iff, overlap_nil, hash_eq_iff digests]

theorem mem_assignmentClaims {root : String} {assignment : AccountAssignment}
    {claim : ResourceClaim} :
    claim ∈ assignmentClaims deployment root assignment ↔
      ∃ account ∈ assignment.account :: assignment.aliases,
        ∃ type ∈ requiredTypesOrAny assignment,
          claim =
            { rootKey := root
              resourceKey := keyOf (accountPath deployment account type)
              mode := usageMode assignment.usage
              origin := some "ACCOUNT_COORDINATION" } := by
  simp only [assignmentClaims, List.mem_flatMap, List.mem_map, uniq, List.mem_eraseDups, eq_comm]

theorem types_overlap_iff {left right : AccountAssignment} (typedLeft : "" ∉ left.requiredTypes)
    (typedRight : "" ∉ right.requiredTypes) :
    (∃ type ∈ requiredTypesOrAny left, ∃ other ∈ requiredTypesOrAny right,
        type = "" ∨ other = "" ∨ normalized deployment type = normalized deployment other) ↔
      TypesOverlap deployment left right := by
  unfold TypesOverlap requiredTypesOrAny
  by_cases openLeft : left.requiredTypes = []
  · have some : ∃ other, other ∈ if right.requiredTypes = [] then [""] else right.requiredTypes := by
      split
      · exact ⟨"", List.mem_singleton_self _⟩
      · rename_i listed
        exact List.exists_mem_of_ne_nil _ listed
    obtain ⟨other, member⟩ := some
    simp only [openLeft, if_true, List.mem_singleton, true_or, iff_true]
    exact ⟨"", rfl, other, member, Or.inl rfl⟩
  · by_cases openRight : right.requiredTypes = []
    · obtain ⟨type, member⟩ := List.exists_mem_of_ne_nil _ openLeft
      simp only [openLeft, openRight, if_true, if_false, List.mem_singleton, true_or, or_true,
        iff_true]
      exact ⟨type, member, "", rfl, Or.inr (Or.inl rfl)⟩
    · simp only [openLeft, openRight, if_false, false_or]
      apply exists_congr
      intro type
      apply and_congr_right
      intro listed
      apply exists_congr
      intro other
      apply and_congr_right
      intro listed'
      have named : type ≠ "" := fun empty => typedLeft (empty ▸ listed)
      have named' : other ≠ "" := fun empty => typedRight (empty ▸ listed')
      simp [named, named']

/-- The account claims of two executions conflict exactly when their accounts clash. -/
theorem assignmentClaims_meet_iff (digests : HexDigests deployment.host.sha256) {root : String}
    (known : root ≠ "*") {lefts rights : List AccountAssignment} (typedLeft : Typed lefts)
    (typedRight : Typed rights) :
    Meets (lefts.flatMap (assignmentClaims deployment root))
        (rights.flatMap (assignmentClaims deployment root)) ↔
      AccountsClash deployment lefts rights := by
  simp only [Meets, List.mem_flatMap, AccountsClash]
  constructor
  · rintro ⟨claim, ⟨left, inLeft, member⟩, claim', ⟨right, inRight, member'⟩, conflict⟩
    obtain ⟨account, named, type, typed, rfl⟩ := mem_assignmentClaims.mp member
    obtain ⟨account', named', type', typed', rfl⟩ := mem_assignmentClaims.mp member'
    rw [resourcesConflict_iff known rfl rfl rfl rfl (accountPath_plain digests account type)
      (accountPath_plain digests account' type'), accountPath_overlap_iff digests] at conflict
    obtain ⟨writer, same, types⟩ := conflict
    refine ⟨left, inLeft, right, inRight, ⟨account, named, account', named', same⟩, ?_, ?_⟩
    · exact (types_overlap_iff (typedLeft left inLeft) (typedRight right inRight)).mp
        ⟨type, typed, type', typed', types⟩
    · simpa only [BothRead, usageMode_eq_read_iff] using writer
  · rintro ⟨left, inLeft, right, inRight, ⟨account, named, account', named', same⟩, types, writer⟩
    obtain ⟨type, typed, type', typed', overlap⟩ :=
      (types_overlap_iff (typedLeft left inLeft) (typedRight right inRight)).mpr types
    refine ⟨_, ⟨left, inLeft, mem_assignmentClaims.mpr ⟨account, named, type, typed, rfl⟩⟩,
      _, ⟨right, inRight, mem_assignmentClaims.mpr ⟨account', named', type', typed', rfl⟩⟩, ?_⟩
    rw [resourcesConflict_iff known rfl rfl rfl rfl (accountPath_plain digests account type)
      (accountPath_plain digests account' type'), accountPath_overlap_iff digests]
    exact ⟨by simpa only [BothRead, usageMode_eq_read_iff] using writer, same, overlap⟩

end Accounts

section Scopes

variable (deployment : Deployment)

def declaredPaths (policy : ExecutionConcurrencyPolicy) : List (List (List Char)) :=
  if policy.accessMode = .unknown then [[]] else (declaredScopes policy).map scopePath

def accessClaimMode (policy : ExecutionConcurrencyPolicy) : ClaimMode :=
  if policy.accessMode = .readOnly then .read else .write

theorem accessClaimMode_eq_read_iff {policy : ExecutionConcurrencyPolicy} :
    accessClaimMode policy = .read ↔ policy.accessMode = .readOnly := by
  simp [accessClaimMode]

def BusinessClash (first second : ExecutionConcurrencyPolicy) : Prop :=
  ¬(first.accessMode = .readOnly ∧ second.accessMode = .readOnly) ∧
    ∃ path ∈ declaredPaths first, ∃ other ∈ declaredPaths second, Overlap path other

theorem declaredPaths_ne_nil (policy : ExecutionConcurrencyPolicy) : declaredPaths policy ≠ [] := by
  unfold declaredPaths declaredScopes
  split
  · simp
  · split <;> simp

theorem declaredPaths_plain {policy : ExecutionConcurrencyPolicy} {path : List (List Char)}
    (declared : path ∈ declaredPaths policy) : Plain '/' path := by
  unfold declaredPaths at declared
  split at declared
  · obtain rfl := List.mem_singleton.mp declared
    intro segment member
    exact absurd member List.not_mem_nil
  · obtain ⟨scope, -, rfl⟩ := List.mem_map.mp declared
    exact segments_plain '/' scope.toList

def ClaimsDeclared (root : String) (policy : ExecutionConcurrencyPolicy)
    (claims : List ResourceClaim) : Prop :=
  ∀ claim, claim ∈ claims ↔ ∃ path ∈ declaredPaths policy,
    claim = { rootKey := root, resourceKey := keyOf path, mode := accessClaimMode policy }

variable {deployment}

/-- Each declared path becomes one claim. -/
theorem resourceClaims_spec {targetUrl : Option String} (value : Option Json) {root : String}
    (known : root ≠ "*")
    (environment : businessEnvironmentKey deployment targetUrl = .ok root) :
    ∃ claims, resourceClaims deployment targetUrl value = .ok claims ∧
      ClaimsDeclared root (concurrencyPolicy deployment value) claims := by
  simp only [resourceClaims, environment]
  by_cases unknown : (concurrencyPolicy deployment value).accessMode = .unknown
  · refine ⟨[{ rootKey := root, resourceKey := "", mode := .write }], ?_, ?_⟩
    · simp [bind, Except.bind, unknown, pure, Except.pure]
    · intro claim
      simp [declaredPaths, unknown, accessClaimMode, keyOf]
  · refine ⟨_, by simp [bind, Except.bind, known, unknown, pure, Except.pure]; rfl, ?_⟩
    intro claim
    simp only [declaredPaths, unknown, if_false, List.mem_map, List.mem_mergeSort, uniq,
      List.mem_eraseDups, accessClaimMode]
    constructor
    · rintro ⟨key, ⟨scope, listed, rfl⟩, rfl⟩
      exact ⟨_, ⟨scope, listed, rfl⟩, rfl⟩
    · rintro ⟨path, ⟨scope, listed, rfl⟩, rfl⟩
      exact ⟨_, ⟨scope, listed, rfl⟩, rfl⟩

end Scopes

end Devproof
