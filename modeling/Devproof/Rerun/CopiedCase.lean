import Devproof.Evidence.Quotation
import Devproof.Rerun.CopiedPlan

/-!
A copied case resolves to the definition of the original with its references renamed.
-/

namespace Devproof.CaseRerun

open Parsing Schemas Patterns

section Copies

variable {references : SourceMap} {platform : Platform}

/-! What a resolved plan has been checked for. -/

theorem resolve_two {definition effective : List (Text × Value)} {value plan : Value}
    (read : readAccountPlan platform value = .ok (some plan))
    (two : isTwo (member "version" plan) = true) :
    resolveCaseExecutionDefinition platform definition value = .ok effective ↔
      checkPlan platform definition plan = .ok () ∧
        effective = effectiveDefinition definition plan := by
  simp only [resolveCaseExecutionDefinition, read, two, if_true]
  cases checkPlan platform definition plan with
  | error failure => simp
  | ok _ => simp [eq_comm]

theorem checkPlan_ok {definition : List (Text × Value)} {plan : Value} :
    checkPlan platform definition plan = .ok () ↔
      textMember "definitionHash" plan = specificationDefinitionHash platform (.obj definition) ∧
      ∃ requirements, caseAccountRequirements platform definition = some requirements ∧
        changesRequirements platform plan requirements = false := by
  unfold checkPlan
  split
  next differs => simp [differs]
  next same =>
    rw [not_not] at same
    cases caseAccountRequirements platform definition with
    | none => simp
    | some requirements =>
        simp only [same, true_and, Option.some.injEq, exists_eq_left']
        cases changesRequirements platform plan requirements <;> simp

theorem changes_false {plan : Value} {requirements : List Value} :
    changesRequirements platform plan requirements = false ↔
      ((member "resolution" plan).map (textMember "kind") = some (key "DECLARED") →
        removedRoles plan = []) ∧
      (∀ role ∈ removedRoles plan, ∃ item ∈ requirements, textMember "role" item = role) ∧
      specificationDefinitionHash platform (.arr (keptRequirements plan requirements)) =
        specificationDefinitionHash platform ((member "requirements" plan).getD .null) := by
  simp only [changesRequirements, Bool.or_eq_false_iff, Bool.and_eq_false_imp, beq_iff_eq,
    List.any_eq_false, bne_eq_false_iff_eq, Bool.not_eq_eq_eq_not, Bool.not_true, and_assoc]
  simp

theorem requirements_roles {definition : List (Text × Value)} {items : List Value}
    (read : caseAccountRequirements platform definition = some items) :
    ∀ item ∈ items, textMember "role" (mapText (rename references) item) = textMember "role" item ∧
      isRole (textMember "role" item) = true := by
  simp only [caseAccountRequirements] at read
  split at read
  next => exact fun item member => roles_rename read member
  next =>
    cases found : definition.lookup (key "accountRequirements") with
    | none =>
        rw [found] at read
        simp only [legacyRequirements] at read
        split at read
        next =>
          cases read
          simp
        next =>
          split at read
          next =>
            cases read
            simp
          next =>
            obtain ⟨name, -, read⟩ := Option.bind_eq_some_iff.mp read
            exact fun item member => roles_rename read member
    | some value =>
        rw [found] at read
        obtain ⟨all, known, rfl⟩ := Option.map_eq_some_iff.mp read
        exact fun item member => roles_rename known (List.mem_filter.mp member).1

theorem textItems_mapText (change : Text → Text) (value : Option Value) :
    textItems (value.map (mapText change)) = (textItems value).map change := by
  cases value with
  | none => rfl
  | some known =>
      cases known with
      | arr items =>
          simp only [Option.map_some, mapText, mapItems_eq, textItems, List.filterMap_map,
            List.map_filterMap]
          refine List.filterMap_congr fun item _ => ?_
          cases item <;> rfl
      | null | bool | num | str | obj => rfl

theorem removedRoles_copied {text : Text} {plan read : Value}
    (copied : Copied references platform text plan read) {requirements : List Value}
    (roles : ∀ item ∈ requirements, isRole (textMember "role" item) = true)
    (declared : ∀ role ∈ removedRoles plan, ∃ item ∈ requirements, textMember "role" item = role) :
    removedRoles read = removedRoles plan := by
  have renamed : removedRoles read = (removedRoles plan).map (rename references) := by
    rw [removedRoles, copied.resolution, removedRoles, ← textItems_mapText]
    cases member "resolution" plan with
    | none => rfl
    | some resolution => simp only [Option.map_some, Option.bind_some, member_mapText]
  rw [renamed]
  refine (List.map_congr_left fun role member => ?_).trans (List.map_id _)
  obtain ⟨item, known, rfl⟩ := declared role member
  exact rename_role (roles item known)

theorem kind_copied {text : Text} {plan read : Value}
    (copied : Copied references platform text plan read) :
    (member "resolution" read).map (textMember "kind") = some (key "DECLARED") ↔
      (member "resolution" plan).map (textMember "kind") = some (key "DECLARED") := by
  rw [copied.resolution]
  cases member "resolution" plan with
  | none => rfl
  | some resolution =>
      have seen := @test_member references (fun text => decide (text = key "DECLARED"))
        (fun text reference => decide_eq_false fun same => by
          have size := reference.length
          rw [same] at size
          exact absurd size (by decide)) "kind" resolution
      simpa using seen

theorem keptRequirements_copied {plan read : Value} {requirements : List Value}
    (removed : removedRoles read = removedRoles plan)
    (roles : ∀ item ∈ requirements,
      textMember "role" (mapText (rename references) item) = textMember "role" item) :
    keptRequirements read (requirements.map (mapText (rename references))) =
      (keptRequirements plan requirements).map (mapText (rename references)) := by
  rw [keptRequirements, keptRequirements, removed, List.filter_map]
  refine congrArg _ (List.filter_congr fun item member => ?_)
  simp only [Function.comp_apply, roles item member]

/-! Requirements come out of JSON documents. -/

theorem legacy_count {roles : List Text} {readsOnly : Bool} {constraints : List Text} {item : Value}
    (accepted : testAccountRequirementSchema (legacyRequirement roles readsOnly constraints) =
      some item) : max 1 roles.length ≤ 20 := by
  obtain ⟨members, known, same, -, found⟩ := object_eq_some accepted
  obtain rfl := (Value.obj.inj same).symm
  have looked := readFields_lookup (by decide) found
    (show byDefault "count" (.num (.finite 1)) (integer 1 20) ∈ _ by simp)
  rcases Field.read_cases looked with ⟨value, read, there, accepts, -⟩ | ⟨-, optional, -⟩ |
    ⟨_, absent, -, -⟩
  · have given : value = .num (.finite (max 1 roles.length : Nat)) :=
      Option.some.inj (there.symm.trans rfl)
    subst given
    simp only [byDefault, integer, Schemas.number] at accepts
    split at accepts
    next bounds =>
      have most := of_decide_eq_true (Bool.and_eq_true_iff.mp bounds).2
      rw [Rat.num_natCast] at most
      omega
    next => cases accepts
  · cases optional
  · cases absent

theorem readable_small {count : Nat} (small : count ≤ 20) :
    Number.Readable (.finite (count : Rat)) := by
  have tokens : ∀ count ≤ 20,
      readNumber ((Nat.repr count).toList.map code) = some (.finite (count : Rat)) := by
    decide +kernel
  exact ⟨_, tokens count small⟩

theorem legacy_well {roles : List Text} {readsOnly : Bool} {constraints : List Text}
    (small : max 1 roles.length ≤ 20) :
    (legacyRequirement roles readsOnly constraints).Well Number.Readable fun _ => True := by
  refine .obj trivial ?_
  simp only [List.forall_mem_cons]
  refine ⟨.str _, .str _, .num (readable_small small), .str _, .arr (by simp), .arr ?_, .str _,
    by simp⟩
  intro item member
  obtain ⟨text, -, rfl⟩ := List.mem_map.mp member
  exact .str text

theorem well_lookup {definition : List (Text × Value)} {name : Text} {value : Value}
    (well : (Value.obj definition).Well Number.Readable fun _ => True)
    (found : definition.lookup name = some value) : value.Well Number.Readable fun _ => True :=
  (well_obj_iff.mp well).2 (name, value) (mem_of_lookup found)

theorem caseAccountRequirements_well {definition : List (Text × Value)} {items : List Value}
    (well : (Value.obj definition).Well Number.Readable fun _ => True)
    (read : caseAccountRequirements platform definition = some items) :
    ∀ item ∈ items, item.Well Number.Readable fun _ => True := by
  simp only [caseAccountRequirements] at read
  split at read
  next =>
    cases found : definition.lookup (key "accountRequirements") with
    | none => simp [itemsOf, found] at read
    | some value =>
        rw [found] at read
        exact requirements_well read (well_lookup well found)
  next =>
    cases found : definition.lookup (key "accountRequirements") with
    | none =>
        rw [found] at read
        simp only [legacyRequirements] at read
        split at read
        next =>
          cases read
          simp
        next =>
          split at read
          next =>
            cases read
            simp
          next =>
            obtain ⟨name, -, read⟩ := Option.bind_eq_some_iff.mp read
            have accepted := itemsOf_eq_some.mp read
            obtain ⟨checked, -⟩ := Option.filter_eq_some_iff.mp accepted
            obtain ⟨given, known, same, -, -, each⟩ := array_eq_some checked
            obtain rfl := (Value.arr.inj same).symm
            cases each with
            | cons first _ =>
                exact requirements_well read
                  (.arr (by simpa using legacy_well (legacy_count first)))
    | some value =>
        rw [found] at read
        obtain ⟨all, known, rfl⟩ := Option.map_eq_some_iff.mp read
        exact fun item member =>
          requirements_well known (well_lookup well found) item (List.mem_filter.mp member).1

theorem strings_setMember {held : Text → Prop} {members : List (Text × Value)}
    {entry : Text × Value} (known : Strings held (.obj members)) (fits : Strings held entry.2) :
    Strings held (.obj (setMember members entry)) := by
  cases known with
  | obj known =>
      refine .obj fun found member => ?_
      rcases mem_setMember member with before | rfl
      · exact known found before
      · exact fits

theorem strings_getD {held : Text → Prop} {name : String} {value : Value}
    (known : Strings held value) : Strings held ((member name value).getD .null) := by
  cases found : member name value with
  | none => exact .null
  | some inner =>
      cases value with
      | obj members => exact strings_lookup known found
      | null | bool | num | str | arr => cases found

theorem effective_known {definition : List (Text × Value)} {plan : Value}
    (first : Strings (Known references) (.obj definition))
    (second : Strings (Known references) plan) :
    Strings (Known references) (.obj (effectiveDefinition definition plan)) := by
  have declared := @strings_setMember _ _
    (key "accountRequirements", (member "requirements" plan).getD .null) first (strings_getD second)
  unfold effectiveDefinition
  simp only
  split
  next => exact strings_setMember declared (strings_getD second)
  next => exact declared

theorem getD_mapText (change : Text → Text) (value : Option Value) :
    (value.map (mapText change)).getD .null = mapText change (value.getD .null) := by
  cases value <;> rfl

theorem effective_copied {text : Text} {definition : List (Text × Value)} {plan read : Value}
    (copied : Copied references platform text plan read) :
    effectiveDefinition (renamed references definition) read =
      renamed references (effectiveDefinition definition plan) := by
  simp only [effectiveDefinition, copied.version, copied.requirements, copied.authRole,
    isTwo_mapText, getD_mapText, renamed]
  split
  next =>
    rw [setMember_map, setMember_map]
    rfl
  next =>
    rw [setMember_map]
    rfl

/-- The requirements that are left of the definition's and those of the plan have one digest only
if they have one text. -/
def CollisionFree (platform : Platform) (definition : List (Text × Value)) (plan : Value) : Prop :=
  ∀ requirements, caseAccountRequirements platform definition = some requirements →
    specificationDefinitionHash platform (.arr (keptRequirements plan requirements)) =
      specificationDefinitionHash platform ((member "requirements" plan).getD .null) →
    canonicalJson platform (.arr (keptRequirements plan requirements)) =
      canonicalJson platform ((member "requirements" plan).getD .null)

theorem checkPlan_copied (standard : platform.Standard) {definition : List (Text × Value)}
    {plan read : Value}
    (saved : (Value.obj definition).Well Number.Readable fun _ => True)
    (planned : plan.Well Number.Readable fun _ => True)
    (sheltered : Strings Sheltered (.obj definition))
    (copied : Copied references platform
      (specificationDefinitionHash platform (.obj (renamed references definition))) plan read)
    (collisionFree : CollisionFree platform definition plan)
    (checked : checkPlan platform definition plan = .ok ()) :
    checkPlan platform (renamed references definition) read = .ok () := by
  obtain ⟨-, requirements, found, unchanged⟩ := checkPlan_ok.mp checked
  obtain ⟨declared, removable, digests⟩ := changes_false.mp unchanged
  have roles := @requirements_roles references platform definition requirements found
  have removed := removedRoles_copied copied (fun item member => (roles item member).2) removable
  have kept := keptRequirements_copied removed fun item member => (roles item member).1
  refine checkPlan_ok.mpr ⟨copied.hash, _, caseAccountRequirements_renamed platform sheltered found,
    changes_false.mpr ⟨?_, ?_, ?_⟩⟩
  · intro kind
    rw [removed]
    exact declared ((kind_copied copied).mp kind)
  · intro role member
    rw [removed] at member
    obtain ⟨item, inside, same⟩ := removable role member
    exact ⟨_, List.mem_map_of_mem inside, ((roles item inside).1).trans same⟩
  · have items := caseAccountRequirements_well saved found
    have first : (Value.arr (keptRequirements plan requirements)).Well Number.Readable
        fun _ => True :=
      .arr fun item member => items item (List.mem_filter.mp member).1
    have second : ((member "requirements" plan).getD .null).Well Number.Readable fun _ => True := by
      cases inner : member "requirements" plan with
      | none => exact .null
      | some value =>
          cases plan with
          | obj members => exact well_lookup planned inner
          | null | bool | num | str | arr => cases inner
    have texts := canonicalJson_mapText platform standard.numbers (rename references) first second
      (collisionFree requirements found digests)
    rw [kept, copied.requirements, getD_mapText]
    rw [mapText, mapItems_eq] at texts
    exact congrArg platform.sha256 texts

theorem readAccountPlan_settled {plan : Value}
    (settled : objectOf (planFieldsTwo platform) plan = some plan)
    (two : isTwo (member "version" plan) = true) :
    readAccountPlan platform plan = .ok (some plan) := by
  obtain ⟨members, -, rfl, -, -⟩ := object_eq_some settled
  simp only [readAccountPlan, testAccountPlanSchema, two, if_true, settled]

/-- Copying fails on a missing source only. -/
theorem copyCase_cases (renewal : Renewal) {definition : List (Text × Value)} {value plan : Value}
    (read : readAccountPlan platform value = .ok (some plan))
    (two : isTwo (member "version" plan) = true)
    (settled : objectOf (planFieldsTwo platform) plan = some plan)
    (checked : checkPlan platform definition plan = .ok ()) :
    copyCase references platform renewal definition value = .error missingSource ∨
      Strings (Known references) (.obj definition) ∧ Strings (Known references) plan ∧
        copyCase references platform renewal definition value =
          .ok (renamed references definition, .obj ((renewal.members (specificationDefinitionHash
            platform (.obj (renamed references definition)))).foldl setMember
              (membersOf (mapText (rename references) plan)))) := by
  have resolves := (resolve_two (readAccountPlan_settled settled two) two).mpr ⟨checked, rfl⟩
  have whole : remapSourceReferences references (.obj definition) =
      (remapMembers references definition).map Value.obj := by
    rw [remapSourceReferences]
  cases members : remapMembers references definition with
  | error failure =>
      rw [members] at whole
      obtain rfl := remap_error whole
      exact Or.inl (by simp only [copyCase, members, bind, Except.bind])
  | ok copy =>
      rw [members] at whole
      obtain ⟨first, same⟩ := remap_eq_ok whole
      obtain rfl : copy = renamed references definition := by
        rw [mapText, mapMembers_eq] at same
        exact Value.obj.inj same
      cases plans : remapSourceReferences references plan with
      | error failure =>
          obtain rfl := remap_error plans
          exact Or.inl (by simp only [copyCase, members, read, two, resolves, plans, bind,
            Except.bind, if_true])
      | ok renamedPlan =>
          obtain ⟨second, rfl⟩ := remap_eq_ok plans
          exact Or.inr ⟨first, second, by simp only [copyCase, members, read, two, resolves, plans,
            bind, Except.bind, if_true]⟩

/-- A copied case resolves, to the original's definition with the references renamed. -/
theorem copyCase_resolves (standard : platform.Standard) {renewal : Renewal}
    (valid : renewal.Valid platform) {definition effective : List (Text × Value)}
    {value plan : Value}
    (saved : (Value.obj definition).Well Number.Readable fun _ => True)
    (savedPlan : value.Well Number.Readable fun _ => True)
    (unpadded : Strings Unpadded (.obj definition))
    (read : readAccountPlan platform value = .ok (some plan))
    (two : isTwo (member "version" plan) = true)
    (collisionFree : CollisionFree platform definition plan)
    (resolved : resolveCaseExecutionDefinition platform definition value = .ok effective)
    (found : copyCase references platform renewal definition value ≠ .error missingSource) :
    ∃ copy stored remapped,
      copyCase references platform renewal definition value = .ok (copy, stored) ∧
      resolveCaseExecutionDefinition platform copy stored = .ok remapped ∧
      remapSourceReferences references (.obj effective) = .ok (.obj remapped) := by
  obtain ⟨checked, rfl⟩ := (resolve_two read two).mp resolved
  have accepted := plan_read read two
  have settled := (@lawful_plan references platform standard).settles accepted
  have planned := (@lawful_plan references platform standard).well accepted savedPlan
  obtain ⟨first, second, copies⟩ := (copyCase_cases renewal read two settled checked).resolve_left
    found
  obtain ⟨copied, reads, kept⟩ := @copied_plan references platform standard renewal valid
    (canonicalJson platform (.obj (renamed references definition))) plan settled two
  have sheltered := unpadded.and first fun _ => sheltered_of_known
  have passes := checkPlan_copied standard saved planned sheltered kept collisionFree checked
  have version : isTwo (member "version" copied) = true := by
    rw [kept.version, isTwo_mapText]
    exact two
  refine ⟨_, _, renamed references (effectiveDefinition definition plan), copies, ?_, ?_⟩
  · exact (resolve_two reads version).mpr ⟨passes, (effective_copied kept).symm⟩
  · rw [remap_known (effective_known first second), mapText, mapMembers_eq]
    rfl

end Copies

/-! A case that declares one account, and its copies. -/

section Sample

def firstSource : Text :=
  key "analysis-source://1b9d6bcd-bbfd-4b2d-9b5d-ab8dfbbd4bed/9b1deb4d-3b7d-4bad-9bdd-2b0d7b3dcb6d"

def secondSource : Text :=
  key "analysis-source://7c9e6679-7425-40de-944b-e07fc1f90ae7/550e8400-e29b-41d4-a716-446655440000"

theorem reference_of_parts {text : Text}
    (start : text = sourcePrefix ++ (text.drop 18).take 36 ++ code '/' :: text.drop 55)
    (size : text.length = 91)
    (units : ((text.drop 18).take 36 ++ text.drop 55).all isUuidUnit = true) :
    Reference text := by
  refine ⟨(text.drop 18).take 36, text.drop 55, start, ⟨?_, ?_⟩,
    List.all_eq_true.mp units⟩
  · rw [List.length_take, List.length_drop, size]
    rfl
  · rw [List.length_drop, size]

def sources : SourceMap where
  entries := [(firstSource, secondSource)]
  references := by
    simp only [List.mem_singleton, forall_eq]
    exact ⟨reference_of_parts rfl rfl rfl, reference_of_parts rfl rfl rfl⟩

def requirementText (label : Text) : Text :=
  key "\x7b\"constraints\":[],\"count\":1,\"label\":\"" ++ label ++
    key "\",\"rationale\":\"Reads orders\",\"requiredTypes\":[],\"role\":\"buyer\"," ++
    key "\"usage\":\"READ_EXISTING\"\x7d"

def definitionText (label source : Text) : Text :=
  key "\x7b\"accountRequirements\":[" ++ requirementText label ++
    key "],\"accountRequirementsVersion\":2,\"sourceRefs\":[\"" ++ source ++ key "\"]\x7d"

def padded : Text :=
  code ' ' :: firstSource

def digests : List (Text × Text) := [
  (definitionText firstSource firstSource,
    key "aec0da6a66af2524cbf71c549aeb23328e4c5ee26050f82ba80f000d75b59ec3"),
  (definitionText secondSource secondSource,
    key "988cd9b3e00b9b40cd90be59fb1b1aef38a9474a9a750acf84050403b05d6f6d"),
  (definitionText padded firstSource,
    key "5a1b4ac383cda8ffdacca8536b00b4b5b2e7bbdbbe11396ef3bf1afa47ab7b60"),
  (definitionText padded secondSource,
    key "5d5903bf86cb248c00cd9e9723cb63d12beeda663c276cd8db640fba3cbc407d"),
  (code '[' :: requirementText firstSource ++ [code ']'],
    key "27af22029825e2b488b83060937568fbf7b8c28ad9ed923ac16d028755c280cb"),
  (code '[' :: requirementText secondSource ++ [code ']'],
    key "f38a4f1f7d2d567da1db151aa7cc5bbfeca83ac5f7cfc61563db96764a87495e")]

noncomputable def sample : Platform where
  sha256 := fun text => (digests.lookup text).getD (List.replicate 64 (code '0'))
  formatNumber := fun value =>
    if value = 1 then [code '1'] else if value = 2 then [code '2']
    else ObservedValue.writtenNumber value
  localeCompare := ObservedValue.unitCompare
  isAccount := fun text => text.all fun unit => isLower unit || isUpper unit || Parsing.isDigit unit
  isUuid := fun text => decide (text.length = 36) && text.all isUuidUnit
  isDateTime := fun text => decide (text.length = 24) && !text.contains (code '/')

theorem sample_standard : sample.Standard where
  account := by
    intro text slash
    by_contra passed
    have held := List.all_eq_true.mp (Bool.not_eq_false _ ▸ passed) _ slash
    exact absurd held (by decide)
  uuid := by
    intro text slash
    by_contra passed
    have units := (Bool.and_eq_true_iff.mp (Bool.not_eq_false _ ▸ passed)).2
    have held := List.all_eq_true.mp units _ slash
    exact absurd held (by decide)
  dateTime := by
    intro text slash
    simp [sample, slash]
  digest := by
    have each : (digests.all fun entry => isDigest entry.2) = true := rfl
    intro text
    simp only [sample]
    cases found : digests.lookup text with
    | none => decide
    | some digest =>
        obtain ⟨before, later, split, -⟩ := List.lookup_eq_some_iff.mp found
        exact List.all_eq_true.mp each (text, digest) (by simp [split])
  numbers := by
    refine ⟨fun token value known => ?_⟩
    simp only [sample]
    split
    next one =>
      subst one
      exact digits_read.1
    next =>
      split
      next two =>
        subst two
        exact digits_read.2
      next => exact ObservedValue.writtenNumber_texts.reads token value known

def requirementOf (label : Text) : Value :=
  .obj [
    (key "role", .str (key "buyer")), (key "label", .str label), (key "count", .num (.finite 1)),
    (key "usage", .str (key "READ_EXISTING")), (key "requiredTypes", .arr []),
    (key "constraints", .arr []), (key "rationale", .str (key "Reads orders"))]

def definitionOf (label : Text) : List (Text × Value) := [
  (key "accountRequirements", .arr [requirementOf label]),
  (key "accountRequirementsVersion", .num (.finite 2)),
  (key "sourceRefs", .arr [.str firstSource])]

noncomputable def planOf (label : Text) : Value :=
  .obj [
    (key "version", .num (.finite 2)),
    (key "revision", .str (key "9b1deb4d-3b7d-4bad-9bdd-2b0d7b3dcb6d")),
    (key "requirements", .arr [requirementOf firstSource]),
    (key "bindings", .arr []),
    (key "requestedAt", .str (key "2026-07-01T08:00:00.000Z")),
    (key "definitionHash", .str (specificationDefinitionHash sample (.obj (definitionOf label)))),
    (key "effectiveAuthRole", .str (key "default")),
    (key "resolution", .obj [
      (key "kind", .str (key "DECLARED")), (key "removedRoles", .arr []),
      (key "reason", .str (key "As declared"))])]

def renewal : Renewal where
  revision := key "550e8400-e29b-41d4-a716-446655440000"
  requestedAt := key "2026-07-02T08:00:00.000Z"
  expiresAt := key "2026-07-02T08:15:00.000Z"

def failureOf {α : Type} : Except Failure α → Option Failure
  | .ok _ => none
  | .error failure => some failure

def planRead : Except Failure (Option Value) → Option Value
  | .ok plan => plan
  | .error _ => none

theorem planRead_eq_some {read : Except Failure (Option Value)} (there : (planRead read).isSome) :
    read = .ok (some ((planRead read).getD .null)) := by
  cases read with
  | error failure => cases there
  | ok plan =>
      cases plan with
      | none => cases there
      | some plan => rfl

theorem eq_ok_of_failureOf {α : Type} {result : Except Failure α} (none : failureOf result = none) :
    ∃ value, result = .ok value := by
  cases result with
  | error failure => cases none
  | ok value => exact ⟨value, rfl⟩

theorem requirementOf_well (label : Text) :
    (requirementOf label).Well Number.Readable fun _ => True := by
  refine .obj trivial ?_
  simp only [List.forall_mem_cons]
  exact ⟨.str _, .str _, .num ⟨[code '1'], digits_read.1⟩, .str _, .arr (by simp),
    .arr (by simp), .str _, by simp⟩

theorem definitionOf_well (label : Text) :
    (Value.obj (definitionOf label)).Well Number.Readable fun _ => True := by
  refine .obj trivial ?_
  simp only [definitionOf, List.forall_mem_cons]
  exact ⟨.arr (by simpa using requirementOf_well label), .num ⟨[code '2'], digits_read.2⟩,
    .arr (by simpa using .str firstSource), by simp⟩

theorem planOf_well (label : Text) : (planOf label).Well Number.Readable fun _ => True := by
  refine .obj trivial ?_
  simp only [List.forall_mem_cons]
  refine ⟨.num ⟨[code '2'], digits_read.2⟩, .str _,
    .arr (by simpa using requirementOf_well firstSource), .arr (by simp), .str _, .str _, .str _,
    .obj trivial ?_, by simp⟩
  simp only [List.forall_mem_cons]
  exact ⟨.str _, .arr (by simp), .str _, by simp⟩

noncomputable def labelledPlan : Value :=
  (planRead (readAccountPlan sample (planOf firstSource))).getD .null

theorem sample_runs :
    (failureOf (resolveCaseExecutionDefinition sample (definitionOf firstSource)
        (planOf firstSource)) = none ∧
      failureOf (copyCase sources sample renewal (definitionOf firstSource)
        (planOf firstSource)) = none ∧
      (planRead (readAccountPlan sample (planOf firstSource))).isSome = true ∧
      isTwo (member "version" labelledPlan) = true ∧
      canonicalJson sample (.arr (keptRequirements labelledPlan
        ((caseAccountRequirements sample (definitionOf firstSource)).getD []))) =
        canonicalJson sample ((member "requirements" labelledPlan).getD .null)) ∧
    failureOf (resolveCaseExecutionDefinition sample (definitionOf padded) (planOf padded)) =
        none ∧
      failureOf (copyCase sources sample renewal (definitionOf padded) (planOf padded)) = none ∧
      failureOf ((copyCase sources sample renewal (definitionOf padded) (planOf padded)).bind
        fun copy => resolveCaseExecutionDefinition sample copy.1 copy.2) =
        some (.conflict "测试账号计划不能修改角色用途或未声明的需求。") :=
  ⟨by decide +kernel, by decide +kernel⟩

theorem copyCase_resolves_labelled :
    ∃ effective copy stored remapped,
      resolveCaseExecutionDefinition sample (definitionOf firstSource) (planOf firstSource) =
        .ok effective ∧
      copyCase sources sample renewal (definitionOf firstSource) (planOf firstSource) =
        .ok (copy, stored) ∧
      resolveCaseExecutionDefinition sample copy stored = .ok remapped ∧
      remapSourceReferences sources (.obj effective) = .ok (.obj remapped) := by
  obtain ⟨resolves, copied, planned, two, texts⟩ := sample_runs.1
  obtain ⟨effective, resolved⟩ := eq_ok_of_failureOf resolves
  have read := planRead_eq_some planned
  have unpadded : Strings Unpadded (.obj (definitionOf firstSource)) := by
    have plain : ∀ text ∈ [key "buyer", firstSource, key "READ_EXISTING", key "Reads orders"],
        Unpadded text := by
      decide
    simp only [List.forall_mem_cons] at plain
    refine .obj ?_
    simp only [definitionOf, List.forall_mem_cons]
    refine ⟨.arr ?_, .num _, .arr (by simpa using .str plain.2.1), by simp⟩
    simp only [List.mem_singleton, forall_eq]
    refine .obj ?_
    simp only [List.forall_mem_cons]
    exact ⟨.str plain.1, .str plain.2.1, .num _, .str plain.2.2.1, .arr (by simp), .arr (by simp),
      .str plain.2.2.2.1, by simp⟩
  have found : copyCase sources sample renewal (definitionOf firstSource) (planOf firstSource) ≠
      .error missingSource := by
    intro missing
    rw [missing] at copied
    cases copied
  obtain ⟨copy, stored, remapped, copies, again, same⟩ := copyCase_resolves sample_standard
    ⟨rfl, rfl, rfl⟩ (definitionOf_well firstSource)
    (planOf_well firstSource) unpadded read two
    (fun requirements found _ => by
      rw [found, Option.getD_some] at texts
      exact texts) resolved found
  exact ⟨effective, copy, stored, remapped, resolved, copies, again, same⟩

/-- The schema trims the label in the plan, where it then is a reference, but not in the
definition, where it is none. -/
theorem padded_unresolved :
    ∃ effective copy stored,
      resolveCaseExecutionDefinition sample (definitionOf padded) (planOf padded) =
        .ok effective ∧
      copyCase sources sample renewal (definitionOf padded) (planOf padded) = .ok (copy, stored) ∧
      resolveCaseExecutionDefinition sample copy stored =
        .error (.conflict "测试账号计划不能修改角色用途或未声明的需求。") := by
  obtain ⟨resolves, copied, refused⟩ := sample_runs.2
  obtain ⟨effective, resolved⟩ := eq_ok_of_failureOf resolves
  obtain ⟨⟨copy, stored⟩, copies⟩ := eq_ok_of_failureOf copied
  rw [copies] at refused
  refine ⟨effective, copy, stored, resolved, copies, ?_⟩
  cases again : resolveCaseExecutionDefinition sample copy stored with
  | ok remapped => simp [Except.bind, again, failureOf] at refused
  | error failure =>
      simp only [Except.bind, again, failureOf, Option.some.injEq] at refused
      rw [refused]

end Sample

end Devproof.CaseRerun
