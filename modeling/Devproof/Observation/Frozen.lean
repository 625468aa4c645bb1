import Devproof.Lib.Codec
import Devproof.Observation.Freeze

/-!
What `freezeObservationContract` returns: the given contract under other
identifiers, which do not depend on the ones it had.
-/

namespace Devproof

theorem mapM_of_positions {α β : Type} {read : α → Option β} {write : Nat → α → β}
    {items : List α}
    (each : ∀ index item, items[index]? = some item → read item = some (write index item)) :
    items.mapM read = some (items.mapIdx write) := by
  induction items generalizing write with
  | nil => simp
  | cons first rest ih =>
      have head := each 0 first rfl
      have tail := @ih (fun index => write (index + 1)) fun index item found =>
        each (index + 1) item (by simpa using found)
      simp [List.mapM_cons, head, tail]

theorem mapM_zipIdx {α β : Type} {read : α × Nat → Option β} {write : Nat → α → β}
    {items : List α}
    (each : ∀ item ∈ items, ∀ index, read (item, index) = some (write index item)) :
    items.zipIdx.mapM read = some (items.mapIdx write) := by
  have reads : items.zipIdx.mapM read =
      some (items.zipIdx.mapIdx fun _ entry => write entry.2 entry.1) :=
    mapM_of_positions fun _ entry found =>
      each entry.1 (List.fst_mem_of_mem_zipIdx (List.mem_of_getElem? found)) entry.2
  rw [reads, Option.some.injEq]
  apply List.ext_getElem <;> simp

theorem mapIdx_const {α β : Type} (items : List α) (view : α → β) :
    (items.mapIdx fun _ item => view item) = items.map view := by
  apply List.ext_getElem <;> simp

theorem position_unique {α : Type} {key : α → String} {items : List α}
    (distinct : (items.map key).Nodup) {left right : Nat} {item item' : α}
    (found : items[left]? = some item) (found' : items[right]? = some item')
    (same : key item = key item') : left = right := by
  obtain ⟨bound, rfl⟩ := List.getElem?_eq_some_iff.mp found
  obtain ⟨bound', rfl⟩ := List.getElem?_eq_some_iff.mp found'
  have inside : left < (items.map key).length := by simpa using bound
  have inside' : right < (items.map key).length := by simpa using bound'
  apply (@List.Nodup.getElem_inj_iff _ _ distinct left inside right inside').mp
  simpa using same

namespace Contract

section Identifiers

variable {Target : Type} [ContractTarget Target] (sha256 : String → String) (criterionId : String)
  (contract : Contract Target)

def image (targetId : String) : String :=
  (contract.keyOf sha256 criterionId targetId).getD ""

def assigned : Contract Target where
  targets := contract.targets.mapIdx fun index target =>
    ContractTarget.withIds
      (targetKey sha256 criterionId index (ContractTarget.label target)) assertionName target
  comparisons := contract.comparisons.mapIdx fun index comparison =>
    { comparison with
      comparisonId := comparisonKey sha256 criterionId index
      subjectTargetId := contract.image sha256 criterionId comparison.subjectTargetId
      referenceTargetId := contract.image sha256 criterionId comparison.referenceTargetId }

structure Referenced : Prop where
  distinct : contract.targetIds.Nodup
  subjects : ∀ comparison ∈ contract.comparisons, comparison.subjectTargetId ∈ contract.targetIds
  references : ∀ comparison ∈ contract.comparisons,
    comparison.referenceTargetId ∈ contract.targetIds

end Identifiers

section Images

variable {Target : Type} [ContractTarget Target] {sha256 : String → String} {criterionId : String}
  {contract : Contract Target}

theorem mem_targetIds {targetId : String} :
    targetId ∈ contract.targetIds ↔ ∃ (index : Nat) (target : Target),
      contract.targets[index]? = some target ∧ ContractTarget.targetId target = targetId := by
  rw [targetIds, List.mem_map]
  constructor
  · rintro ⟨target, member, same⟩
    obtain ⟨index, found⟩ := List.getElem?_of_mem member
    exact ⟨index, target, found, same⟩
  · rintro ⟨index, target, found, same⟩
    exact ⟨target, List.mem_of_getElem? found, same⟩

theorem keyOf_at (distinct : contract.targetIds.Nodup) {index : Nat} {target : Target}
    (found : contract.targets[index]? = some target) :
    contract.keyOf sha256 criterionId (ContractTarget.targetId target) =
      some (targetKey sha256 criterionId index (ContractTarget.label target)) := by
  obtain ⟨bound, here⟩ := List.getElem?_eq_some_iff.mp found
  have entry : (ContractTarget.targetId target,
      targetKey sha256 criterionId index (ContractTarget.label target)) ∈
        (contract.keys sha256 criterionId).reverse := by
    rw [List.mem_reverse, keys, List.mem_mapIdx]
    exact ⟨index, bound, by rw [here]⟩
  cases result : (contract.keys sha256 criterionId).reverse.find? fun entry =>
      entry.1 == ContractTarget.targetId target with
  | none =>
      have absent := List.find?_eq_none.mp result _ entry
      simp at absent
  | some other =>
      have named : other.1 = ContractTarget.targetId target := by
        simpa using List.find?_some result
      have member := List.mem_of_find?_eq_some result
      rw [List.mem_reverse, keys, List.mem_mapIdx] at member
      obtain ⟨place, bound', rfl⟩ := member
      have same : place = index :=
        position_unique distinct (List.getElem?_eq_getElem bound') found named
      subst same
      rw [keyOf, result, here]
      rfl

theorem image_at (distinct : contract.targetIds.Nodup) {index : Nat} {target : Target}
    (found : contract.targets[index]? = some target) :
    contract.image sha256 criterionId (ContractTarget.targetId target) =
      targetKey sha256 criterionId index (ContractTarget.label target) := by
  rw [image, keyOf_at distinct found]
  rfl

theorem keyOf_image (distinct : contract.targetIds.Nodup) {targetId : String}
    (member : targetId ∈ contract.targetIds) :
    contract.keyOf sha256 criterionId targetId =
      some (contract.image sha256 criterionId targetId) := by
  obtain ⟨index, target, found, rfl⟩ := mem_targetIds.mp member
  rw [image, keyOf_at distinct found]
  rfl

theorem assign_eq (referenced : contract.Referenced) :
    contract.assign sha256 criterionId = some (contract.assigned sha256 criterionId) := by
  have targets : (contract.targets.mapM fun target => do
      let targetId ← contract.keyOf sha256 criterionId (ContractTarget.targetId target)
      return ContractTarget.withIds targetId assertionName target) =
        some (contract.assigned sha256 criterionId).targets := by
    refine mapM_of_positions fun index target found => ?_
    rw [keyOf_at referenced.distinct found]
    rfl
  rw [assign, targets, Option.bind_eq_bind, Option.bind_some, mapM_zipIdx]
  · rfl
  · intro comparison member index
    dsimp only
    rw [keyOf_image referenced.distinct (referenced.subjects comparison member),
      keyOf_image referenced.distinct (referenced.references comparison member)]
    rfl

/-! The rules between targets and comparisons. -/

theorem photographed_iff (distinct : contract.targetIds.Nodup) {targetId : String} :
    contract.photographed targetId = true ↔ ∃ target ∈ contract.targets,
      ContractTarget.targetId target = targetId ∧
        (ContractTarget.requiredEvidenceKinds target).contains .screenshot = true := by
  rw [photographed, get]
  constructor
  · intro photographed
    cases result : contract.targets.reverse.find? fun other =>
        ContractTarget.targetId other == targetId with
    | none => simp [result] at photographed
    | some target =>
        rw [result] at photographed
        exact ⟨target, List.mem_reverse.mp (List.mem_of_find?_eq_some result),
          by simpa using List.find?_some result, photographed⟩
  · rintro ⟨target, member, rfl, kinds⟩
    cases result : contract.targets.reverse.find? fun other =>
        ContractTarget.targetId other == ContractTarget.targetId target with
    | none =>
        have absent := List.find?_eq_none.mp result target (List.mem_reverse.mpr member)
        simp at absent
    | some other =>
        have named : ContractTarget.targetId other = ContractTarget.targetId target := by
          simpa using List.find?_some result
        have present := List.mem_reverse.mp (List.mem_of_find?_eq_some result)
        have same : other = target := List.inj_on_of_nodup_map distinct present member named
        rw [same]
        exact kinds

theorem comparisonIssues_eq_nil {twoTargets : String} :
    contract.comparisonIssues twoTargets = [] ↔ contract.comparisonIds.Nodup ∧
      ∀ comparison ∈ contract.comparisons,
        comparison.subjectTargetId ≠ comparison.referenceTargetId ∧
          contract.photographed comparison.subjectTargetId = true ∧
          contract.photographed comparison.referenceTargetId = true := by
  simp [comparisonIssues, repeated_eq_false]

theorem referenced_of_rules (distinct : contract.targetIds.Nodup) {twoTargets : String}
    (valid : contract.comparisonIssues twoTargets = []) : contract.Referenced where
  distinct := distinct
  subjects comparison member := by
    have rules := (comparisonIssues_eq_nil.mp valid).2 comparison member
    obtain ⟨target, present, named, -⟩ := (photographed_iff distinct).mp rules.2.1
    exact List.mem_map.mpr ⟨target, present, named⟩
  references comparison member := by
    have rules := (comparisonIssues_eq_nil.mp valid).2 comparison member
    obtain ⟨target, present, named, -⟩ := (photographed_iff distinct).mp rules.2.2
    exact List.mem_map.mpr ⟨target, present, named⟩

theorem assigned_at {index : Nat} {target : Target}
    (found : contract.targets[index]? = some target) :
    (contract.assigned sha256 criterionId).targets[index]? =
      some (ContractTarget.withIds
        (targetKey sha256 criterionId index (ContractTarget.label target)) assertionName
        target) := by
  rw [assigned, List.getElem?_mapIdx, found]
  rfl

theorem mem_digested_target {index : Nat} {target : Target}
    (found : contract.targets[index]? = some target) :
    targetValue criterionId index (ContractTarget.label target) ∈
      contract.digested criterionId := by
  obtain ⟨bound, rfl⟩ := List.getElem?_eq_some_iff.mp found
  exact List.mem_append_left _ (List.mem_mapIdx.mpr ⟨index, bound, rfl⟩)

theorem mem_digested_comparison {index : Nat} (bound : index < contract.comparisons.length) :
    comparisonValue criterionId index ∈ contract.digested criterionId :=
  List.mem_append_right _ (List.mem_mapIdx.mpr ⟨index, bound, rfl⟩)

section Assigned

variable (apart : ApartPrefixes sha256 (contract.digested criterionId))

include apart

theorem targetKey_inj {left right : Nat} {target target' : Target}
    (found : contract.targets[left]? = some target)
    (found' : contract.targets[right]? = some target')
    (same : targetKey sha256 criterionId left (ContractTarget.label target) =
      targetKey sha256 criterionId right (ContractTarget.label target')) : left = right := by
  have values := apart.injective _ (mem_digested_target found) _ (mem_digested_target found')
    (append_left_injective _ same)
  simp only [targetValue, Shape.list.injEq, List.cons.injEq, and_true, true_and] at values
  exact numberWord_injective values.1

theorem comparisonKey_inj {left right : Nat} (bound : left < contract.comparisons.length)
    (bound' : right < contract.comparisons.length)
    (same : comparisonKey sha256 criterionId left = comparisonKey sha256 criterionId right) :
    left = right := by
  have values := apart.injective _ (mem_digested_comparison bound) _
    (mem_digested_comparison bound') (append_left_injective _ same)
  simp only [comparisonValue, Shape.list.injEq, List.cons.injEq, and_true, true_and] at values
  exact numberWord_injective values

/-- Different targets have different images. -/
theorem image_inj (distinct : contract.targetIds.Nodup) {left right : String}
    (member : left ∈ contract.targetIds) (member' : right ∈ contract.targetIds) :
    contract.image sha256 criterionId left = contract.image sha256 criterionId right ↔
      left = right := by
  constructor
  · intro same
    obtain ⟨index, target, found, rfl⟩ := mem_targetIds.mp member
    obtain ⟨index', target', found', rfl⟩ := mem_targetIds.mp member'
    rw [image_at distinct found, image_at distinct found'] at same
    have place := targetKey_inj apart found found' same
    subst place
    rw [found, Option.some.injEq] at found'
    rw [found']
  · intro same
    rw [same]

end Assigned

variable [LawfulTarget Target]

theorem assigned_targetIds (distinct : contract.targetIds.Nodup) :
    (contract.assigned sha256 criterionId).targetIds =
      contract.targetIds.map (contract.image sha256 criterionId) := by
  rw [targetIds, targetIds, assigned]
  apply List.ext_getElem
  · simp
  · intro index bound bound'
    have inside : index < contract.targets.length := by simpa using bound
    simp only [List.getElem_map, List.getElem_mapIdx, LawfulTarget.targetId_withIds]
    rw [image_at distinct (List.getElem?_eq_getElem inside)]

theorem assigned_distinct (apart : ApartPrefixes sha256 (contract.digested criterionId))
    (distinct : contract.targetIds.Nodup) :
    (contract.assigned sha256 criterionId).targetIds.Nodup := by
  rw [assigned_targetIds distinct]
  refine List.Nodup.map_on ?_ distinct
  intro left member right member' same
  exact (image_inj apart distinct member member').mp same

omit [LawfulTarget Target] in
theorem assigned_comparisonIds (apart : ApartPrefixes sha256 (contract.digested criterionId)) :
    (contract.assigned sha256 criterionId).comparisonIds.Nodup := by
  rw [comparisonIds, assigned, map_mapIdx, List.nodup_iff_injective_getElem]
  intro ⟨left, bound⟩ ⟨right, bound'⟩ same
  simp only [List.getElem_mapIdx] at same
  rw [List.length_mapIdx] at bound bound'
  rw [Fin.mk.injEq]
  exact comparisonKey_inj apart bound bound' same

theorem assigned_photographed (apart : ApartPrefixes sha256 (contract.digested criterionId))
    (distinct : contract.targetIds.Nodup) {targetId : String}
    (photographed : contract.photographed targetId = true) :
    (contract.assigned sha256 criterionId).photographed
      (contract.image sha256 criterionId targetId) = true := by
  obtain ⟨target, member, rfl, kinds⟩ := (photographed_iff distinct).mp photographed
  obtain ⟨index, bound, rfl⟩ := List.getElem_of_mem member
  refine (photographed_iff (assigned_distinct apart distinct)).mpr
    ⟨_, List.mem_mapIdx.mpr ⟨index, bound, rfl⟩, ?_, ?_⟩
  · rw [LawfulTarget.targetId_withIds, image_at distinct (List.getElem?_eq_getElem bound)]
  · rw [LawfulTarget.kinds_withIds]
    exact kinds

theorem assigned_comparisonIssues (apart : ApartPrefixes sha256 (contract.digested criterionId))
    (distinct : contract.targetIds.Nodup) {twoTargets : String}
    (valid : contract.comparisonIssues twoTargets = []) :
    (contract.assigned sha256 criterionId).comparisonIssues twoTargets = [] := by
  have referenced := referenced_of_rules distinct valid
  refine comparisonIssues_eq_nil.mpr ⟨assigned_comparisonIds apart, ?_⟩
  refine forall_mapIdx fun index _ comparison member => ?_
  obtain ⟨different, subject, reference⟩ := (comparisonIssues_eq_nil.mp valid).2 comparison member
  refine ⟨fun same => different ?_, assigned_photographed apart distinct subject,
    assigned_photographed apart distinct reference⟩
  exact (image_inj apart distinct (referenced.subjects comparison member)
    (referenced.references comparison member)).mp same

omit [LawfulTarget Target] in
theorem image_tests (apart : ApartPrefixes sha256 (contract.digested criterionId))
    (distinct : contract.targetIds.Nodup) {side : VisualComparisonRequirement → String}
    (sides : ∀ comparison ∈ contract.comparisons, side comparison ∈ contract.targetIds)
    {index : Nat} {target : Target} (found : contract.targets[index]? = some target) :
    (contract.comparisons.mapIdx fun _ comparison =>
        contract.image sha256 criterionId (side comparison) ==
          targetKey sha256 criterionId index (ContractTarget.label target)) =
      contract.comparisons.map fun comparison =>
        side comparison == ContractTarget.targetId target := by
  have here : ContractTarget.targetId target ∈ contract.targetIds :=
    mem_targetIds.mpr ⟨index, target, found, rfl⟩
  rw [mapIdx_const, ← image_at distinct found]
  refine List.map_congr_left fun comparison member => ?_
  rw [Bool.eq_iff_iff, beq_iff_eq, beq_iff_eq]
  exact image_inj apart distinct (sides comparison member) here

/-- The rules for single targets survive. -/
theorem assigned_issues (apart : ApartPrefixes sha256 (contract.digested criterionId))
    (referenced : contract.Referenced)
    (valid : contract.targets.flatMap (ContractTarget.issues contract.comparisons) = []) :
    (contract.assigned sha256 criterionId).targets.flatMap
      (ContractTarget.issues (contract.assigned sha256 criterionId).comparisons) = [] := by
  rw [List.flatMap_eq_nil_iff] at valid ⊢
  intro written member
  obtain ⟨index, bound, rfl⟩ := List.mem_mapIdx.mp member
  have found := List.getElem?_eq_getElem bound
  refine LawfulTarget.issues_kept _ _ _ contract.comparisons _ assertionName_injective ?_ ?_
    (valid _ (List.getElem_mem bound))
  · rw [assigned, map_mapIdx]
    exact image_tests apart referenced.distinct referenced.subjects found
  · rw [assigned, map_mapIdx]
    exact image_tests apart referenced.distinct referenced.references found

omit [LawfulTarget Target] in
theorem clean_parts (cleaned : contract.clean = contract) :
    (∀ target ∈ contract.targets, ContractTarget.clean target = target) ∧
      ∀ comparison ∈ contract.comparisons, comparison.clean = comparison := by
  obtain ⟨targets, comparisons⟩ := contract
  simp only [clean, Contract.mk.injEq] at cleaned
  exact ⟨map_eq_self cleaned.1, map_eq_self cleaned.2⟩

omit [LawfulTarget Target] in
theorem image_identifier
    (digits : ∀ text, ∀ char ∈ (sha256 text).toList, isDigestDigit char)
    (distinct : contract.targetIds.Nodup) {targetId : String}
    (member : targetId ∈ contract.targetIds) :
    trim (contract.image sha256 criterionId targetId) =
        contract.image sha256 criterionId targetId ∧
      identifierFits (contract.image sha256 criterionId targetId) = true := by
  obtain ⟨index, target, found, rfl⟩ := mem_targetIds.mp member
  rw [image_at distinct found]
  exact targetKey_identifier digits _ _ _

theorem assigned_clean (digits : ∀ text, ∀ char ∈ (sha256 text).toList, isDigestDigit char)
    (referenced : contract.Referenced) (cleaned : contract.clean = contract) {limit : Nat}
    (bounded : contract.fits limit = true) :
    (contract.assigned sha256 criterionId).clean = contract.assigned sha256 criterionId ∧
      (contract.assigned sha256 criterionId).fits limit = true := by
  obtain ⟨targetsClean, comparisonsClean⟩ := clean_parts cleaned
  simp only [fits, Bool.and_eq_true] at bounded
  obtain ⟨⟨few, targetsFit⟩, bound, comparisonsFit⟩ := bounded
  have targets : ∀ target ∈ (contract.assigned sha256 criterionId).targets,
      ContractTarget.clean target = target ∧ ContractTarget.fits target = true :=
    forall_mapIdx fun index _ target member =>
        LawfulTarget.keeps _ _ target (targetsClean target member)
          (List.all_eq_true.mp targetsFit target member) (targetKey_identifier digits _ _ _)
          assertionName_identifier
  have comparisons : ∀ comparison ∈ (contract.assigned sha256 criterionId).comparisons,
      comparison.clean = comparison ∧ comparison.fits = true :=
    forall_mapIdx fun index _ comparison member => by
      have cleaned := comparisonsClean comparison member
      have fits := List.all_eq_true.mp comparisonsFit comparison member
      have key := comparisonKey_identifier digits criterionId index
      have subject := @image_identifier Target _ sha256 criterionId contract digits
        referenced.distinct _ (referenced.subjects comparison member)
      have reference := @image_identifier Target _ sha256 criterionId contract digits
        referenced.distinct _ (referenced.references comparison member)
      obtain ⟨⟨id, left, right⟩, dimensions, sourceRef, quote⟩ := comparison
      simp only [VisualComparisonRequirement.clean, VisualComparisonRequirement.fits,
        VisualComparisonRequirement.mk.injEq, VisualComparison.mk.injEq,
        Bool.and_eq_true] at cleaned fits ⊢
      exact ⟨⟨⟨key.1, subject.1, reference.1⟩, cleaned.2⟩,
        ⟨⟨⟨⟨⟨key.2, subject.2⟩, reference.2⟩, fits.1.1.2⟩, fits.1.2⟩, fits.2⟩⟩
  constructor
  · rw [clean, assigned, Contract.mk.injEq]
    exact ⟨(List.map_congr_left fun target member => (targets target member).1).trans
        (List.map_id' _),
      (List.map_congr_left fun comparison member => (comparisons comparison member).1).trans
        (List.map_id' _)⟩
  · simp only [fits, Bool.and_eq_true]
    refine ⟨⟨?_, List.all_eq_true.mpr fun target member => (targets target member).2⟩, ?_,
      List.all_eq_true.mpr fun comparison member => (comparisons comparison member).2⟩
    · simpa only [assigned, filled, List.length_mapIdx] using few
    · simpa only [assigned, List.length_mapIdx] using bound

/-! Freezing again, and freezing under other local identifiers. -/

theorem assigned_referenced (referenced : contract.Referenced)
    (apart : ApartPrefixes sha256 (contract.digested criterionId)) :
    (contract.assigned sha256 criterionId).Referenced where
  distinct := assigned_distinct apart referenced.distinct
  subjects := by
    rw [assigned_targetIds referenced.distinct]
    exact forall_mapIdx fun _ _ comparison member =>
      List.mem_map_of_mem (referenced.subjects comparison member)
  references := by
    rw [assigned_targetIds referenced.distinct]
    exact forall_mapIdx fun _ _ comparison member =>
      List.mem_map_of_mem (referenced.references comparison member)

/-- An image is its own image. -/
theorem image_assigned (referenced : contract.Referenced)
    (apart : ApartPrefixes sha256 (contract.digested criterionId)) {targetId : String}
    (member : targetId ∈ contract.targetIds) :
    (contract.assigned sha256 criterionId).image sha256 criterionId
        (contract.image sha256 criterionId targetId) =
      contract.image sha256 criterionId targetId := by
  obtain ⟨index, target, found, rfl⟩ := mem_targetIds.mp member
  have again := @image_at Target _ sha256 criterionId _
    (assigned_distinct apart referenced.distinct) _ _ (assigned_at found)
  rw [LawfulTarget.targetId_withIds, LawfulTarget.label_withIds] at again
  rw [image_at referenced.distinct found, again]

theorem assigned_assigned (referenced : contract.Referenced)
    (apart : ApartPrefixes sha256 (contract.digested criterionId)) :
    (contract.assigned sha256 criterionId).assigned sha256 criterionId =
      contract.assigned sha256 criterionId := by
  have targets : ((contract.assigned sha256 criterionId).assigned sha256 criterionId).targets =
      (contract.assigned sha256 criterionId).targets := by
    simp only [assigned, List.mapIdx_mapIdx, Function.comp_def, LawfulTarget.label_withIds,
      LawfulTarget.withIds_withIds]
  have comparisons :
      ((contract.assigned sha256 criterionId).assigned sha256 criterionId).comparisons =
        (contract.assigned sha256 criterionId).comparisons := by
    apply List.ext_getElem
    · simp [assigned]
    · intro index bound bound'
      have inside : index < contract.comparisons.length := by simpa [assigned] using bound'
      have member := List.getElem_mem inside
      have subject := image_assigned referenced apart (referenced.subjects _ member)
      have reference := image_assigned referenced apart (referenced.references _ member)
      simp only [assigned, List.getElem_mapIdx] at subject reference ⊢
      rw [subject, reference]
  exact (Contract.mk.injEq ..).mpr ⟨targets, comparisons⟩

end Images

section Renaming

variable {Target : Type} [ContractTarget Target]

def rename (rename : String → String) (contract : Contract Target) : Contract Target where
  targets := contract.targets.map fun target =>
    ContractTarget.retarget (rename (ContractTarget.targetId target)) target
  comparisons := contract.comparisons.map fun comparison =>
    { comparison with
      subjectTargetId := rename comparison.subjectTargetId
      referenceTargetId := rename comparison.referenceTargetId }

variable [LawfulTarget Target] {sha256 : String → String} {criterionId : String}
  {contract : Contract Target} {name : String → String}

theorem rename_targetIds : (contract.rename name).targetIds = contract.targetIds.map name := by
  simp [targetIds, rename, Function.comp_def, LawfulTarget.targetId_retarget]

section Injective

variable (referenced : contract.Referenced)
  (injective : ∀ left ∈ contract.targetIds, ∀ right ∈ contract.targetIds,
    name left = name right → left = right)

include referenced injective

theorem rename_referenced : (contract.rename name).Referenced where
  distinct := by
    rw [rename_targetIds]
    exact List.Nodup.map_on (fun left member right member' => injective left member right member')
      referenced.distinct
  subjects := by
    rw [rename_targetIds]
    intro comparison member
    obtain ⟨old, present, rfl⟩ := List.mem_map.mp member
    exact List.mem_map_of_mem (referenced.subjects old present)
  references := by
    rw [rename_targetIds]
    intro comparison member
    obtain ⟨old, present, rfl⟩ := List.mem_map.mp member
    exact List.mem_map_of_mem (referenced.references old present)

theorem image_rename {targetId : String} (member : targetId ∈ contract.targetIds) :
    (contract.rename name).image sha256 criterionId (name targetId) =
      contract.image sha256 criterionId targetId := by
  obtain ⟨index, target, found, rfl⟩ := mem_targetIds.mp member
  have later : (contract.rename name).targets[index]? =
      some (ContractTarget.retarget (name (ContractTarget.targetId target)) target) := by
    rw [rename, List.getElem?_map, found]
    rfl
  have renamed := @image_at Target _ sha256 criterionId _
    (rename_referenced referenced injective).distinct _ _ later
  rw [LawfulTarget.targetId_retarget, LawfulTarget.label_retarget] at renamed
  rw [image_at referenced.distinct found, renamed]

theorem assigned_rename :
    (contract.rename name).assigned sha256 criterionId = contract.assigned sha256 criterionId := by
  have targets : ((contract.rename name).assigned sha256 criterionId).targets =
      (contract.assigned sha256 criterionId).targets := by
    simp only [assigned, rename, mapIdx_map, LawfulTarget.label_retarget,
      LawfulTarget.withIds_retarget]
  have comparisons : ((contract.rename name).assigned sha256 criterionId).comparisons =
      (contract.assigned sha256 criterionId).comparisons := by
    apply List.ext_getElem
    · simp [assigned, rename]
    · intro index bound bound'
      have inside : index < contract.comparisons.length := by simpa [assigned] using bound'
      have member := List.getElem_mem inside
      have subject := @image_rename Target _ _ sha256 criterionId contract name referenced injective _
        (referenced.subjects _ member)
      have reference := @image_rename Target _ _ sha256 criterionId contract name referenced injective _
        (referenced.references _ member)
      simp only [assigned, List.getElem_mapIdx]
      simp only [rename, List.getElem_map] at subject reference ⊢
      rw [subject, reference]
  exact (Contract.mk.injEq ..).mpr ⟨targets, comparisons⟩

theorem freeze_rename (schema : Contract Target → Except Rejection (Contract Target)) :
    (contract.rename name).freeze sha256 criterionId schema =
      contract.freeze sha256 criterionId schema := by
  rw [freeze, freeze, assign_eq (rename_referenced referenced injective), assign_eq referenced,
    assigned_rename referenced injective]

end Injective

end Renaming

end Contract

section Schemas

variable {Target : Type} [ContractTarget Target] [LawfulTarget Target] {limit : Nat}
  {rules : Contract Target → List SchemaIssue}

theorem VisualComparisonRequirement.clean_clean (comparison : VisualComparisonRequirement) :
    comparison.clean.clean = comparison.clean := by
  simp only [clean, trim_trim, clean_map trim_trim]

theorem Contract.clean_clean (contract : Contract Target) :
    contract.clean.clean = contract.clean := by
  simp only [clean, clean_map LawfulTarget.clean_clean,
    clean_map VisualComparisonRequirement.clean_clean]

theorem parseContract_ok {raw contract : Contract Target}
    (accepted : parseContract limit rules raw = .ok contract) :
    contract.clean = contract ∧ contract.fits limit = true ∧ rules contract = [] := by
  unfold parseContract at accepted
  split at accepted
  · rename_i bounded
    split at accepted
    · rename_i valid
      cases accepted
      exact ⟨raw.clean_clean, bounded, valid⟩
    · cases accepted
  · cases accepted

omit [LawfulTarget Target] in
theorem parseContract_self {contract : Contract Target} (cleaned : contract.clean = contract)
    (bounded : contract.fits limit = true) (valid : rules contract = []) :
    parseContract limit rules contract = .ok contract := by
  rw [parseContract, cleaned, if_pos bounded, if_pos valid]

theorem freeze_assigned {sha256 : String → String} {criterionId : String}
    {contract : Contract Target} (cleaned : contract.clean = contract)
    (bounded : contract.fits limit = true) (referenced : contract.Referenced)
    (apart : ApartPrefixes sha256 (contract.digested criterionId))
    (valid : rules (contract.assigned sha256 criterionId) = []) :
    contract.freeze sha256 criterionId (parseContract limit rules) =
        .ok (contract.assigned sha256 criterionId) ∧
      (contract.assigned sha256 criterionId).freeze sha256 criterionId
        (parseContract limit rules) = .ok (contract.assigned sha256 criterionId) := by
  obtain ⟨clean, fits⟩ := @Contract.assigned_clean Target _ sha256 criterionId contract _
    apart.digits referenced cleaned limit bounded
  have accepted := parseContract_self clean fits valid
  constructor
  · rw [Contract.freeze, Contract.assign_eq referenced]
    exact accepted
  · rw [Contract.freeze, Contract.assign_eq (Contract.assigned_referenced referenced apart),
      Contract.assigned_assigned referenced apart]
    exact accepted

end Schemas

namespace Contract

section Kept

variable {Target : Type} [ContractTarget Target]

def bare (contract : Contract Target) : Contract Target where
  targets := contract.targets.map (ContractTarget.withIds "" fun _ => "")
  comparisons := contract.comparisons.map fun comparison =>
    { comparison with comparisonId := "", subjectTargetId := "", referenceTargetId := "" }

def SameTarget (contract frozen : Contract Target) (old new : String) : Prop :=
  ∃ (index : Nat) (target target' : Target),
    contract.targets[index]? = some target ∧ ContractTarget.targetId target = old ∧
      frozen.targets[index]? = some target' ∧ ContractTarget.targetId target' = new

/-- The frozen contract is the given one, with identifiers that are told apart and
comparisons that point at the same targets. -/
structure StablyFrozen (contract frozen : Contract Target) : Prop where
  targetIds : frozen.targetIds.Nodup
  assertionIds : ∀ target ∈ frozen.targets, (ContractTarget.assertionIds target).Nodup
  comparisonIds : frozen.comparisonIds.Nodup
  bare : frozen.bare = contract.bare
  pointing : ∀ (index : Nat) (comparison : VisualComparisonRequirement),
    contract.comparisons[index]? = some comparison →
    ∃ later, frozen.comparisons[index]? = some later ∧
      SameTarget contract frozen comparison.subjectTargetId later.subjectTargetId ∧
      SameTarget contract frozen comparison.referenceTargetId later.referenceTargetId

variable [LawfulTarget Target] {sha256 : String → String} {criterionId : String}
  {contract : Contract Target}

theorem sameTarget_image (distinct : contract.targetIds.Nodup) {targetId : String}
    (member : targetId ∈ contract.targetIds) :
    SameTarget contract (contract.assigned sha256 criterionId) targetId
      (contract.image sha256 criterionId targetId) := by
  obtain ⟨index, target, found, rfl⟩ := mem_targetIds.mp member
  refine ⟨index, target, _, found, rfl, assigned_at found, ?_⟩
  rw [LawfulTarget.targetId_withIds, image_at distinct found]

theorem assigned_stably (referenced : contract.Referenced)
    (apart : ApartPrefixes sha256 (contract.digested criterionId)) :
    StablyFrozen contract (contract.assigned sha256 criterionId) where
  targetIds := assigned_distinct apart referenced.distinct
  assertionIds := forall_mapIdx fun _ _ target _ => by
    rw [LawfulTarget.assertionIds_withIds]
    exact names_nodup assertionName_injective _
  comparisonIds := assigned_comparisonIds apart
  bare := by
    simp only [bare, assigned, map_mapIdx, LawfulTarget.withIds_withIds, mapIdx_const]
  pointing index comparison found := by
    have member := List.mem_of_getElem? found
    refine ⟨{ comparison with
      comparisonId := comparisonKey sha256 criterionId index
      subjectTargetId := contract.image sha256 criterionId comparison.subjectTargetId
      referenceTargetId := contract.image sha256 criterionId comparison.referenceTargetId },
      ?_, ?_, ?_⟩
    · rw [assigned, List.getElem?_mapIdx, found]
      rfl
    · exact sameTarget_image referenced.distinct (referenced.subjects comparison member)
    · exact sameTarget_image referenced.distinct (referenced.references comparison member)

end Kept

section Rules

variable {sha256 : String → String} {criterionId : String}

theorem issuesV2_assigned {contract : Contract TargetV2}
    (apart : ApartPrefixes sha256 (contract.digested criterionId))
    (valid : contract.issuesV2 = []) :
    contract.Referenced ∧ (contract.assigned sha256 criterionId).issuesV2 = [] := by
  simp only [issuesV2, List.append_eq_nil_iff, issueIf_eq_nil, repeated_eq_false] at valid ⊢
  obtain ⟨⟨distinct, targets⟩, comparisons⟩ := valid
  have referenced := referenced_of_rules distinct comparisons
  exact ⟨referenced, ⟨assigned_distinct apart distinct, assigned_issues apart referenced targets⟩,
    assigned_comparisonIssues apart distinct comparisons⟩

theorem issuesV3_assigned {contract : Contract TargetV3}
    (apart : ApartPrefixes sha256 (contract.digested criterionId))
    (valid : contract.issuesV3 = []) :
    contract.Referenced ∧ (contract.assigned sha256 criterionId).issuesV3 = [] := by
  simp only [issuesV3, List.append_eq_nil_iff, issueIf_eq_nil, repeated_eq_false,
    bne_eq_false_iff_eq] at valid ⊢
  obtain ⟨⟨⟨distinct, identities⟩, targets⟩, comparisons⟩ := valid
  have referenced := referenced_of_rules distinct comparisons
  have distinct' := assigned_distinct apart distinct
  have texts : (contract.assigned sha256 criterionId).targets.map (fun target =>
      target.identity.text) = contract.targets.map fun target => target.identity.text := by
    rw [assigned, map_mapIdx]
    exact mapIdx_const _ fun target : TargetV3 => target.identity.text
  refine ⟨referenced, ⟨⟨distinct', ?_⟩, assigned_issues apart referenced targets⟩,
    assigned_comparisonIssues apart distinct comparisons⟩
  rw [texts, identities, distinct.dedup, distinct'.dedup]
  simp [targetIds, assigned]

end Rules

end Contract

namespace ContractDocument

def digested (criterionId : String) : ContractDocument → List Shape
  | .v2 contract => contract.digested criterionId
  | .v3 contract => contract.digested criterionId

def targetIds : ContractDocument → List String
  | .v2 contract => contract.targetIds
  | .v3 contract => contract.targetIds

def assertionIds : ContractDocument → List String
  | .v2 contract => contract.targets.flatMap ContractTarget.assertionIds
  | .v3 contract => contract.targets.flatMap ContractTarget.assertionIds

def rename (name : String → String) : ContractDocument → ContractDocument
  | .v2 contract => .v2 (contract.rename name)
  | .v3 contract => .v3 (contract.rename name)

inductive StablyFrozen : ContractDocument → ContractDocument → Prop where
  | v2 {contract frozen : Contract TargetV2} :
      contract.StablyFrozen frozen → StablyFrozen (.v2 contract) (.v2 frozen)
  | v3 {contract frozen : Contract TargetV3} :
      contract.StablyFrozen frozen → StablyFrozen (.v3 contract) (.v3 frozen)

end ContractDocument

/-- Freezing an accepted contract succeeds, changes identifiers only, is idempotent and
ignores how the targets were named. -/
theorem accepted_contract_frozen {sha256 : String → String} {raw document : ContractDocument}
    (accepted : observationContractSchema raw = .ok document) (criterionId : String)
    (apart : ApartPrefixes sha256 (document.digested criterionId)) :
    ∃ frozen, freezeObservationContract sha256 document criterionId = .ok frozen ∧
      document.StablyFrozen frozen ∧
      freezeObservationContract sha256 frozen criterionId = .ok frozen ∧
      ∀ name : String → String,
        (∀ left ∈ document.targetIds, ∀ right ∈ document.targetIds,
          name left = name right → left = right) →
        freezeObservationContract sha256 (document.rename name) criterionId = .ok frozen := by
  cases raw with
  | v2 raw =>
      cases parsed : observationContractV2Schema raw with
      | error rejection => rw [observationContractSchema, parsed] at accepted; cases accepted
      | ok contract =>
          rw [observationContractSchema, parsed] at accepted
          cases accepted
          obtain ⟨cleaned, bounded, valid⟩ := parseContract_ok parsed
          obtain ⟨referenced, valid'⟩ := Contract.issuesV2_assigned apart valid
          obtain ⟨once, again⟩ := freeze_assigned cleaned bounded referenced apart valid'
          refine ⟨.v2 (contract.assigned sha256 criterionId), ?_,
            .v2 (Contract.assigned_stably referenced apart), ?_, ?_⟩
          · rw [freezeObservationContract, observationContractV2Schema, once]
            rfl
          · rw [freezeObservationContract, observationContractV2Schema, again]
            rfl
          · intro name injective
            rw [ContractDocument.rename, freezeObservationContract,
              Contract.freeze_rename referenced injective, observationContractV2Schema, once]
            rfl
  | v3 raw =>
      cases parsed : observationContractV3Schema raw with
      | error rejection => rw [observationContractSchema, parsed] at accepted; cases accepted
      | ok contract =>
          rw [observationContractSchema, parsed] at accepted
          cases accepted
          obtain ⟨cleaned, bounded, valid⟩ := parseContract_ok parsed
          obtain ⟨referenced, valid'⟩ := Contract.issuesV3_assigned apart valid
          obtain ⟨once, again⟩ := freeze_assigned cleaned bounded referenced apart valid'
          refine ⟨.v3 (contract.assigned sha256 criterionId), ?_,
            .v3 (Contract.assigned_stably referenced apart), ?_, ?_⟩
          · rw [freezeObservationContract, observationContractV3Schema, once]
            rfl
          · rw [freezeObservationContract, observationContractV3Schema, again]
            rfl
          · intro name injective
            rw [ContractDocument.rename, freezeObservationContract,
              Contract.freeze_rename referenced injective, observationContractV3Schema, once]
            rfl

/-! A contract with a comparison, whose digests are written out. -/

def shownDigest (text : String) : String :=
  if text = "[\"default-state\",0,\"Notify\"]" then
    "921df615854ecbdecefd8a710aaacc2efa6643de407bbf737e2271e07d601dbd"
  else if text = "[\"default-state\",1,\"Archive\"]" then
    "4ac176c8cbd6954199e104d430876b629161cf15d9578b2b62b6cee47beb5ce8"
  else if text = "[\"default-state\",0]" then
    "5fcd8d7c3e59040e4cf6e92e2d8d75ec28d19ec62ef767810741bd0d964c693d"
  else ""

def shownTarget (targetId label : String) : TargetV3 where
  targetId := targetId
  label := label
  identity := { text := label }
  phase := .current
  assertions := [{
    assertionId := "state"
    property := some .checked
    label := "enabled"
    expected := some (.flag true) }]
  requiredEvidenceKinds := [.dom, .screenshot]

def shownContract : ContractDocument :=
  .v3 {
    targets := [shownTarget "notify" "Notify", shownTarget "archive" "Archive"]
    comparisons := [{
      comparisonId := "same-style"
      subjectTargetId := "notify"
      referenceTargetId := "archive"
      dimensions := ["colour"]
      sourceRef := "requirement"
      quote := "both switches look alike" }] }

theorem shownContract_accepted : observationContractSchema shownContract = .ok shownContract := by
  decide +kernel

theorem shownDigest_apart :
    ApartPrefixes shownDigest (shownContract.digested "default-state") where
  digits := by
    intro text
    unfold shownDigest
    split
    · exact List.all_eq_true.mp (by decide +kernel)
    · split
      · exact List.all_eq_true.mp (by decide +kernel)
      · split
        · exact List.all_eq_true.mp (by decide +kernel)
        · simp
  injective := by
    intro left member right member' same
    simp [ContractDocument.digested, shownContract, Contract.digested] at member member'
    rcases member with rfl | rfl | rfl <;> rcases member' with rfl | rfl | rfl <;>
      first
        | rfl
        | exact absurd same (by decide +kernel)

theorem shown_contract_frozen :
    ∃ frozen, freezeObservationContract shownDigest shownContract "default-state" = .ok frozen ∧
      shownContract.StablyFrozen frozen ∧
      freezeObservationContract shownDigest frozen "default-state" = .ok frozen ∧
      ∀ name : String → String,
        (∀ left ∈ shownContract.targetIds, ∀ right ∈ shownContract.targetIds,
          name left = name right → left = right) →
        freezeObservationContract shownDigest (shownContract.rename name) "default-state" =
          .ok frozen :=
  accepted_contract_frozen shownContract_accepted "default-state" shownDigest_apart

/-- Assertions are numbered anew in each target. -/
theorem assertion_ids_repeat :
    observationContractSchema shownContract = .ok shownContract ∧
      ApartPrefixes shownDigest (shownContract.digested "default-state") ∧
      ContractDocument.assertionIds <$>
          freezeObservationContract shownDigest shownContract "default-state" =
        .ok ["assertion-1", "assertion-1"] ∧
      ¬ ["assertion-1", "assertion-1"].Nodup :=
  ⟨shownContract_accepted, shownDigest_apart, by decide +kernel, by decide⟩

end Devproof
