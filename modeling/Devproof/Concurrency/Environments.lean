import Mathlib.Data.List.Sort
import Mathlib.Data.String.Basic
import Devproof.Concurrency.Exclusion

/-!
What two concurrency policies of one environment exclude, and that the order in
which a deployment lists its environment rules does not show.
-/

namespace Devproof

def Unscoped (policy : ExecutionConcurrencyPolicy) : Prop :=
  policy.accessMode = .unknown ∨ (policy.resourceScopes.getD []) = []

def PolicyClash (first second : ExecutionConcurrencyPolicy) : Prop :=
  ¬(first.accessMode = .readOnly ∧ second.accessMode = .readOnly) ∧
    (Unscoped first ∨ Unscoped second ∨
      ∃ scope ∈ first.resourceScopes.getD [], ∃ other ∈ second.resourceScopes.getD [],
        Overlap (scopePath scope) (scopePath other))

instance (policy : ExecutionConcurrencyPolicy) : Decidable (Unscoped policy) :=
  inferInstanceAs (Decidable (_ ∨ _))

instance (first second : ExecutionConcurrencyPolicy) : Decidable (PolicyClash first second) :=
  inferInstanceAs (Decidable (_ ∧ _))

structure SameScopes (first second : ExecutionConcurrencyPolicy) : Prop where
  mode : first.accessMode = second.accessMode
  scopes : ∀ path, path ∈ (first.resourceScopes.getD []).map scopePath ↔
    path ∈ (second.resourceScopes.getD []).map scopePath

theorem declaredScopes_eq {policy : ExecutionConcurrencyPolicy}
    (listed : policy.resourceScopes.getD [] ≠ []) :
    declaredScopes policy = policy.resourceScopes.getD [] := by
  unfold declaredScopes
  cases scopes : policy.resourceScopes with
  | none => exact absurd (by rw [scopes]; rfl) listed
  | some scopes' =>
      cases scopes' with
      | nil => exact absurd (by rw [scopes]; rfl) listed
      | cons scope rest => rfl

theorem unscoped_paths {policy : ExecutionConcurrencyPolicy} (unscoped : Unscoped policy) :
    declaredPaths policy = [[]] := by
  unfold declaredPaths
  split
  · rfl
  · rename_i known
    have none : policy.resourceScopes.getD [] = [] := unscoped.resolve_left known
    have root : declaredScopes policy = [""] := by
      unfold declaredScopes
      cases scopes : policy.resourceScopes with
      | none => rfl
      | some scopes' =>
          rw [scopes, Option.getD_some] at none
          rw [none]
    rw [root]
    decide

theorem scoped_paths {policy : ExecutionConcurrencyPolicy} (limited : ¬Unscoped policy) :
    declaredPaths policy = (policy.resourceScopes.getD []).map scopePath := by
  obtain ⟨known, listed⟩ := not_or.mp limited
  rw [declaredPaths, if_neg known, declaredScopes_eq listed]

theorem exists_declaredPath (policy : ExecutionConcurrencyPolicy) :
    ∃ path, path ∈ declaredPaths policy :=
  List.exists_mem_of_ne_nil _ (declaredPaths_ne_nil policy)

theorem businessClash_iff {first second : ExecutionConcurrencyPolicy} :
    BusinessClash first second ↔ PolicyClash first second := by
  apply and_congr_right
  intro _
  by_cases unscoped : Unscoped first
  · obtain ⟨other, declared⟩ := exists_declaredPath second
    simp only [unscoped, true_or, iff_true, unscoped_paths unscoped, List.mem_singleton]
    exact ⟨[], rfl, other, declared, overlap_nil other⟩
  · by_cases unscoped' : Unscoped second
    · obtain ⟨path, declared⟩ := exists_declaredPath first
      simp only [unscoped', true_or, or_true, iff_true, unscoped_paths unscoped', List.mem_singleton]
      exact ⟨path, declared, [], rfl, overlap_comm.mp (overlap_nil path)⟩
    · simp only [unscoped, unscoped', false_or, scoped_paths unscoped, scoped_paths unscoped',
        List.mem_map, exists_exists_and_eq_and]

theorem sameScopes_paths {first second : ExecutionConcurrencyPolicy}
    (same : SameScopes first second) (path : List (List Char)) :
    path ∈ declaredPaths first ↔ path ∈ declaredPaths second := by
  have unlisted : first.resourceScopes.getD [] = [] ↔ second.resourceScopes.getD [] = [] := by
    rw [← List.map_eq_nil_iff (f := scopePath), ← List.map_eq_nil_iff (f := scopePath),
      List.eq_nil_iff_forall_not_mem, List.eq_nil_iff_forall_not_mem]
    exact forall_congr' fun path => not_congr (same.scopes path)
  have unscoped : Unscoped first ↔ Unscoped second :=
    or_congr (by rw [same.mode]) unlisted
  by_cases whole : Unscoped first
  · rw [unscoped_paths whole, unscoped_paths (unscoped.mp whole)]
  · rw [scoped_paths whole, scoped_paths fun other => whole (unscoped.mpr other), same.scopes]

theorem claimsDeclared_same {root : String} {first second : ExecutionConcurrencyPolicy}
    {lefts rights : List ResourceClaim} (same : SameScopes first second)
    (leftSpec : ClaimsDeclared root first lefts) (rightSpec : ClaimsDeclared root second rights)
    (claim : ResourceClaim) : claim ∈ lefts ↔ claim ∈ rights := by
  have mode : accessClaimMode first = accessClaimMode second := by
    rw [accessClaimMode, accessClaimMode, same.mode]
  rw [leftSpec claim, rightSpec claim, mode]
  simp only [sameScopes_paths same]

structure StrictOrder (localeCompare : String → String → Int) : Prop where
  reversed : ∀ left right, localeCompare left right < 0 ↔ 0 < localeCompare right left
  transitive : ∀ first second third, localeCompare first second ≤ 0 →
    localeCompare second third ≤ 0 → localeCompare first third ≤ 0
  separates : ∀ left right, localeCompare left right = 0 → left = right

section Rules

variable {deployment : Deployment} (order : StrictOrder deployment.localeCompare) (target : Target)

def exactRank (target : Target) (rule : EnvironmentRule) : Int :=
  if rule.hostname = target.hostname then 1 else 0

theorem compareRules_le_iff {left right : EnvironmentRule} :
    compareRules deployment target left right ≤ 0 ↔
      exactRank target right < exactRank target left ∨
        (exactRank target right = exactRank target left ∧
          ((units right.hostname : Int) < units left.hostname ∨
            ((units right.hostname : Int) = units left.hostname ∧
              deployment.localeCompare left.key right.key ≤ 0))) := by
  unfold compareRules
  simp only [exactRank]
  split
  · omega
  · split
    · omega
    · omega

include order

theorem compareRules_total (left right : EnvironmentRule) :
    compareRules deployment target left right ≤ 0 ∨ compareRules deployment target right left ≤ 0 := by
  have reversed := order.reversed right.key left.key
  rw [compareRules_le_iff, compareRules_le_iff]
  omega

theorem compareRules_trans {first second third : EnvironmentRule}
    (before : compareRules deployment target first second ≤ 0)
    (after : compareRules deployment target second third ≤ 0) :
    compareRules deployment target first third ≤ 0 := by
  have transitive := order.transitive first.key second.key third.key
  rw [compareRules_le_iff] at before after ⊢
  omega

theorem compareRules_antisymm {left right : EnvironmentRule}
    (before : compareRules deployment target left right ≤ 0)
    (after : compareRules deployment target right left ≤ 0) : left.key = right.key := by
  have reversed := order.reversed left.key right.key
  rw [compareRules_le_iff] at before after
  refine order.separates _ _ ?_
  omega

theorem sortedKey_perm {rules others : List EnvironmentRule} (same : rules.Perm others) :
    (rules.mergeSort fun left right => compareRules deployment target left right ≤ 0).head?.map
        (·.key) =
      (others.mergeSort fun left right => compareRules deployment target left right ≤ 0).head?.map
        (·.key) := by
  -- the first of a sorted list stands before every rule
  have least : ∀ {rules : List EnvironmentRule} {first : EnvironmentRule},
      (rules.mergeSort fun left right =>
        compareRules deployment target left right ≤ 0).head? = some first →
      first ∈ rules ∧ ∀ rule ∈ rules, compareRules deployment target first rule ≤ 0 := by
    intro rules first found
    have sorted := @List.pairwise_mergeSort _
      (fun left right => decide (compareRules deployment target left right ≤ 0))
      (fun first second third before after => by
        simpa using compareRules_trans order target (by simpa using before) (by simpa using after))
      (fun left right => by simpa using compareRules_total order target left right) rules
    obtain ⟨rest, shape⟩ := List.head?_eq_some_iff.mp found
    rw [shape] at sorted
    refine ⟨List.mem_mergeSort.mp (shape ▸ List.mem_cons_self ..), fun rule member => ?_⟩
    have placed := shape ▸ List.mem_mergeSort.mpr member
    rcases List.mem_cons.mp placed with rfl | later
    · have itself := compareRules_total order target rule rule
      omega
    · simpa using (List.pairwise_cons.mp sorted).1 rule later
  have nonempty : ∀ {rules : List EnvironmentRule},
      (rules.mergeSort fun left right =>
        compareRules deployment target left right ≤ 0).head? = none ↔ rules = [] := by
    intro rules
    rw [List.head?_eq_none_iff, ← List.length_eq_zero_iff, List.length_mergeSort,
      List.length_eq_zero_iff]
  cases first : (rules.mergeSort fun left right =>
      compareRules deployment target left right ≤ 0).head? with
  | none =>
      have empty : others = [] := (nonempty.mp first ▸ same).nil_eq.symm
      rw [nonempty.mpr empty]
  | some rule =>
      obtain ⟨member, before⟩ := least first
      cases second : (others.mergeSort fun left right =>
          compareRules deployment target left right ≤ 0).head? with
      | none =>
          rw [nonempty.mp second] at same
          exact absurd (same.mem_iff.mp member) List.not_mem_nil
      | some other =>
          obtain ⟨member', before'⟩ := least second
          exact congrArg some (compareRules_antisymm order target
            (before other (same.mem_iff.mpr member')) (before' rule (same.mem_iff.mp member)))

omit order

theorem environmentRule_cases (rule : Json) :
    environmentRule deployment rule =
        .error "Execution environment rules require hostname and key." ∨
      ∃ valid, environmentRule deployment rule = .ok valid := by
  unfold environmentRule
  split
  · split
    · split
      · exact Or.inl rfl
      · exact Or.inr ⟨_, rfl⟩
    · exact Or.inl rfl
  · exact Or.inl rfl

theorem mapM_environmentRule_cases (rules : List Json) :
    rules.mapM (environmentRule deployment) =
        .error "Execution environment rules require hostname and key." ∨
      ∃ valid, rules.mapM (environmentRule deployment) = .ok valid := by
  induction rules with
  | nil => exact Or.inr ⟨[], rfl⟩
  | cons rule rest ih =>
      rw [List.mapM_cons]
      rcases @environmentRule_cases deployment rule with refused | ⟨first, accepted⟩
      · rw [refused]
        exact Or.inl rfl
      · rw [accepted]
        rcases ih with refused | ⟨valid, later⟩
        · rw [refused]
          exact Or.inl rfl
        · rw [later]
          exact Or.inr ⟨first :: valid, rfl⟩

theorem mapM_environmentRule_perm {rules others : List Json} (same : rules.Perm others) :
    (rules.mapM (environmentRule deployment) =
        .error "Execution environment rules require hostname and key." ∧
      others.mapM (environmentRule deployment) =
        .error "Execution environment rules require hostname and key.") ∨
      ∃ valid valid', rules.mapM (environmentRule deployment) = .ok valid ∧
        others.mapM (environmentRule deployment) = .ok valid' ∧ valid.Perm valid' := by
  induction same with
  | nil => exact Or.inr ⟨[], [], rfl, rfl, .nil⟩
  | cons rule _ ih =>
      rw [List.mapM_cons, List.mapM_cons]
      rcases @environmentRule_cases deployment rule with refused | ⟨first, accepted⟩
      · rw [refused]
        exact Or.inl ⟨rfl, rfl⟩
      · rw [accepted]
        rcases ih with ⟨left, right⟩ | ⟨valid, valid', left, right, perm⟩
        · rw [left, right]
          exact Or.inl ⟨rfl, rfl⟩
        · rw [left, right]
          exact Or.inr ⟨first :: valid, first :: valid', rfl, rfl, perm.cons first⟩
  | swap rule other rest =>
      rw [List.mapM_cons, List.mapM_cons, List.mapM_cons, List.mapM_cons]
      rcases @environmentRule_cases deployment rule with refused | ⟨first, accepted⟩ <;>
      rcases @environmentRule_cases deployment other with refused' | ⟨second, accepted'⟩
      · rw [refused, refused']
        exact Or.inl ⟨rfl, rfl⟩
      · rw [refused, accepted']
        exact Or.inl ⟨rfl, rfl⟩
      · rw [accepted, refused']
        exact Or.inl ⟨rfl, rfl⟩
      · rw [accepted, accepted']
        rcases @mapM_environmentRule_cases deployment rest with refused | ⟨valid, later⟩
        · rw [refused]
          exact Or.inl ⟨rfl, rfl⟩
        · rw [later]
          exact Or.inr ⟨_, _, rfl, rfl, .swap first second valid⟩
  | trans _ _ ih ih' =>
      rcases ih with ⟨left, right⟩ | ⟨valid, valid', left, right, perm⟩
      · rcases ih' with ⟨left', right'⟩ | ⟨valid, valid', left', right', perm⟩
        · exact Or.inl ⟨left, right'⟩
        · rw [right] at left'
          cases left'
      · rcases ih' with ⟨left', right'⟩ | ⟨middle, last, left', right', perm'⟩
        · rw [right] at left'
          cases left'
        · rw [right, Except.ok.injEq] at left'
          exact Or.inr ⟨valid, last, left, right', perm.trans (left' ▸ perm')⟩

include order

theorem configuredEnvironment_perm {configuration configuration' : String} {rules others : List Json}
    (parsed : deployment.host.parseJson configuration = some (.arr rules))
    (parsed' : deployment.host.parseJson configuration' = some (.arr others))
    (same : rules.Perm others) : configuredEnvironment deployment target configuration =
      configuredEnvironment deployment target configuration' := by
  simp only [configuredEnvironment, parsed, parsed']
  rcases @mapM_environmentRule_perm deployment _ _ same with
    ⟨left, right⟩ | ⟨valid, valid', left, right, perm⟩
  · rw [left, right]
  · rw [left, right]
    exact congrArg Except.ok (sortedKey_perm order target (perm.filter _))

end Rules

def Deployment.withEnvironments (deployment : Deployment) (configuration : String) : Deployment :=
  { deployment with environments := some configuration }

theorem businessEnvironmentKey_perm {deployment : Deployment}
    (order : StrictOrder deployment.localeCompare) (blank : deployment.host.parseJson "" = none)
    {configuration configuration' : String} {rules others : List Json}
    (parsed : deployment.host.parseJson configuration = some (.arr rules))
    (parsed' : deployment.host.parseJson configuration' = some (.arr others))
    (same : rules.Perm others) (targetUrl : Option String) :
    businessEnvironmentKey (deployment.withEnvironments configuration) targetUrl =
      businessEnvironmentKey (deployment.withEnvironments configuration') targetUrl := by
  have solid : ∀ {text : String} {rules : List Json},
      deployment.host.parseJson text = some (.arr rules) → truthy (some text) = some text := by
    intro text rules parsed
    have named : text ≠ "" := by
      rintro rfl
      rw [blank] at parsed
      cases parsed
    simp [truthy, named]
  have configured : ∀ target,
      configuredEnvironment (deployment.withEnvironments configuration) target configuration =
        configuredEnvironment (deployment.withEnvironments configuration') target configuration' :=
    fun target => configuredEnvironment_perm order target parsed parsed' same
  unfold businessEnvironmentKey
  simp only [Deployment.withEnvironments, solid parsed, solid parsed'] at configured ⊢
  split
  · rfl
  · split
    · rfl
    · rw [configured]

/-- Policies conflict by their scopes as segments, and the environment is found by the rules as a
set. -/
theorem policies_conflict_iff (deployment : Deployment)
    (order : StrictOrder deployment.localeCompare) (blank : deployment.host.parseJson "" = none) :
    (∀ targetUrl targetUrl' value value' root, root ≠ "*" →
      businessEnvironmentKey deployment targetUrl = .ok root →
      businessEnvironmentKey deployment targetUrl' = .ok root →
      ∃ lefts rights, resourceClaims deployment targetUrl value = .ok lefts ∧
        resourceClaims deployment targetUrl' value' = .ok rights ∧
        (Meets lefts rights ↔
          PolicyClash (concurrencyPolicy deployment value) (concurrencyPolicy deployment value')) ∧
        (SameScopes (concurrencyPolicy deployment value) (concurrencyPolicy deployment value') →
          ∀ others, Meets lefts others ↔ Meets rights others)) ∧
      ∀ configuration configuration' rules others,
        deployment.host.parseJson configuration = some (.arr rules) →
        deployment.host.parseJson configuration' = some (.arr others) → rules.Perm others →
        ∀ targetUrl, businessEnvironmentKey (deployment.withEnvironments configuration) targetUrl =
          businessEnvironmentKey (deployment.withEnvironments configuration') targetUrl := by
  constructor
  · intro targetUrl targetUrl' value value' root known environment environment'
    obtain ⟨lefts, left, leftSpec⟩ := resourceClaims_spec value known environment
    obtain ⟨rights, right, rightSpec⟩ := resourceClaims_spec value' known environment'
    refine ⟨lefts, rights, left, right, ?_, fun same others => ?_⟩
    · rw [businessClaims_meet_iff known leftSpec rightSpec, businessClash_iff]
    · simp only [Meets, claimsDeclared_same same leftSpec rightSpec]
  · intro configuration configuration' rules others parsed parsed' same targetUrl
    exact businessEnvironmentKey_perm order blank parsed parsed' same targetUrl

section App

def ruleFor (key : String) : Json :=
  .obj [("hostname", .str "app.test"), ("key", .str key)]

def rulesText (rules : List Json) : String :=
  String.ofList (render (.arr rules))

def letterCompare (left right : String) : Int :=
  if left < right then -1 else if right < left then 1 else 0

def app : Deployment where
  host := Host.ofTables
    { values := [.arr [ruleFor "a", ruleFor "b"], .arr [ruleFor "b", ruleFor "a"]] }
  dataLocks := none
  environments := none
  parseTarget text :=
    if text = "https://app.test" then
      some { protocol := "https:", hostname := "app.test", origin := "https://app.test" }
    else none
  toLowerCase text := String.ofList (text.toList.map Char.toLower)
  localeCompare := letterCompare

theorem letterCompare_order : StrictOrder letterCompare := by
  have compares : ∀ left right : String, letterCompare left right ≤ 0 ↔ left ≤ right := by
    intro left right
    rw [← not_lt]
    have asymmetric := @lt_asymm _ _ left right
    unfold letterCompare
    split_ifs with before after
    · exact iff_of_true (by decide) (asymmetric before)
    · exact iff_of_false (by decide) (not_not_intro after)
    · exact iff_of_true (by decide) after
  refine ⟨fun left right => ?_, fun first second third => ?_, fun left right same => ?_⟩
  · have asymmetric := @lt_asymm _ _ left right
    unfold letterCompare
    split_ifs <;> simp_all
  · rw [compares, compares, compares]
    exact le_trans
  · refine le_antisymm ((compares left right).mp same.le) (not_lt.mp fun before => ?_)
    rw [letterCompare, if_neg (not_lt_of_gt before), if_pos before] at same
    cases same

theorem app_parses (rules : List Json)
    (listed : rules = [ruleFor "a", ruleFor "b"] ∨ rules = [ruleFor "b", ruleFor "a"]) :
    app.host.parseJson (rulesText rules) = some (.arr rules) := by
  have other : (rulesText [ruleFor "a", ruleFor "b"] == rulesText [ruleFor "b", ruleFor "a"]) =
      false := by decide
  have first : app.host.parseJson (rulesText rules) =
      [Json.arr [ruleFor "a", ruleFor "b"], .arr [ruleFor "b", ruleFor "a"]].find? fun value =>
        String.ofList (render value) == rulesText rules := rfl
  rw [first]
  rcases listed with rfl | rfl
  · exact List.find?_cons_of_pos (beq_self_eq_true _)
  · exact (List.find?_cons_of_neg (Bool.not_eq_true _ ▸ other)).trans
      (List.find?_cons_of_pos (beq_self_eq_true _))

def writing (scopes : List String) : Json :=
  .obj [("accessMode", .str "MUTATING"), ("resourceScopes", .arr (scopes.map .str))]

/-- Orders clash with their items, and not with an archive of a longer name. -/
theorem policies_conflict_iff_app :
    (∃ lefts rights, resourceClaims app (some "https://app.test") (writing ["stock", "orders"]) =
        .ok lefts ∧
      resourceClaims app (some "https://app.test") (writing ["orders/items", "users"]) =
        .ok rights ∧ Meets lefts rights) ∧
    (∃ lefts rights, resourceClaims app (some "https://app.test") (writing ["stock", "orders"]) =
        .ok lefts ∧
      resourceClaims app (some "https://app.test") (writing ["orders-archive"]) = .ok rights ∧
        ¬ Meets lefts rights) ∧
      businessEnvironmentKey (app.withEnvironments (rulesText [ruleFor "a", ruleFor "b"]))
          (some "https://app.test") =
        businessEnvironmentKey (app.withEnvironments (rulesText [ruleFor "b", ruleFor "a"]))
          (some "https://app.test") := by
  have blank : app.host.parseJson "" = none := by decide
  obtain ⟨claims, keys⟩ := policies_conflict_iff app letterCompare_order blank
  have found : businessEnvironmentKey app (some "https://app.test") =
      .ok "origin:https://app.test" := by decide
  refine ⟨?_, ?_, keys _ _ _ _ (app_parses _ (Or.inl rfl)) (app_parses _ (Or.inr rfl))
    (.swap _ _ _) _⟩
  · obtain ⟨lefts, rights, left, right, clash, -⟩ := claims _ _ (writing ["stock", "orders"])
      (writing ["orders/items", "users"]) _ (by decide) found found
    exact ⟨lefts, rights, left, right, clash.mpr (by decide +kernel)⟩
  · obtain ⟨lefts, rights, left, right, clash, -⟩ := claims _ _ (writing ["stock", "orders"])
      (writing ["orders-archive"]) _ (by decide) found found
    exact ⟨lefts, rights, left, right, fun meets => absurd (clash.mp meets) (by decide +kernel)⟩

end App

end Devproof
