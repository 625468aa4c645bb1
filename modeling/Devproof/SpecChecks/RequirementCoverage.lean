import Mathlib.Data.List.Dedup
import Mathlib.Data.List.Nodup

/-!
Whether criteria and declared omissions account for every requirement
(`spec-requirement-coverage.ts`).
-/

namespace Devproof.RequirementCoverage

structure Requirement where
  id : String
  sourceRef : String
  quote : String
  /-- The schema asks for an id. -/
  named : id ≠ ""

structure Basis where
  sourceRef : String
  quote : String
  observationTarget : String

structure Criterion where
  id : String
  requirementId : Option String
  required : Bool
  basis : Option Basis

structure SpecCase where
  criteria : List Criterion

structure Uncovered where
  requirementId : String
  reason : String

structure Spec where
  requirements : Option (List Requirement)
  uncoveredRequirements : Option (List Uncovered)
  cases : List SpecCase

def byId (requirements : List Requirement) (id : String) : Option Requirement :=
  requirements.reverse.find? fun requirement => requirement.id == id

def addId (known : List String) (id : String) : List String :=
  if id ∈ known then known else known ++ [id]

def otherBasis (criterion : Criterion) (requirement : Requirement) : Bool :=
  match criterion.basis with
  | none => true
  | some basis => basis.sourceRef != requirement.sourceRef || basis.quote != requirement.quote

def coverCriterion (requirements : List Requirement) (covered : List String)
    (criterion : Criterion) : Except String (List String) :=
  match byId requirements (criterion.requirementId.getD "") with
  | none => .error ("验收标准 " ++ criterion.id ++ " 必须引用已确定的需求编号。")
  | some requirement =>
      if !criterion.required then
        .error ("需求 " ++ requirement.id ++ " 的覆盖标准必须参与最终判定。")
      else if otherBasis criterion requirement then
        .error ("验收标准 " ++ criterion.id ++ " 的依据与需求 " ++ requirement.id ++ " 不一致。")
      else .ok (addId covered requirement.id)

def coverCases (requirements : List Requirement) (cases : List SpecCase) :
    Except String (List String) :=
  cases.foldlM (fun covered testCase =>
    testCase.criteria.foldlM (coverCriterion requirements) covered) []

def declareUncovered (requirements : List Requirement) (covered uncovered : List String)
    (item : Uncovered) : Except String (List String) :=
  if (byId requirements item.requirementId).isNone then
    .error ("未知的未覆盖需求：" ++ item.requirementId ++ "。")
  else if item.requirementId ∈ uncovered ∨ item.requirementId ∈ covered then
    .error ("需求 " ++ item.requirementId ++ " 的覆盖状态重复或矛盾。")
  else .ok (addId uncovered item.requirementId)

def requirementIds (requirements : List Requirement) : List String :=
  requirements.map Requirement.id

def specRequirementCoverageError (spec : Spec) : Option String :=
  match spec.requirements with
  | none =>
      if (spec.uncoveredRequirements.getD []).length ≠ 0 ∨
          spec.cases.any fun item =>
            item.criteria.any fun criterion => criterion.requirementId.getD "" != "" then
        some "需求映射必须提供需求清单。"
      else none
  | some requirements =>
      if (requirementIds requirements).dedup.length ≠ requirements.length then
        some "需求编号不能重复。"
      else
        match coverCases requirements spec.cases with
        | .error message => some message
        | .ok covered =>
            match (spec.uncoveredRequirements.getD []).foldlM
                (declareUncovered requirements covered) [] with
            | .error message => some message
            | .ok uncovered =>
                let missing := (requirementIds requirements).dedup.filter fun id =>
                  decide (id ∉ covered) && decide (id ∉ uncovered)
                if missing.length ≠ 0 then
                  some ("遗漏需求：" ++ "、".intercalate missing ++
                    "。请补充验收标准，或在 uncoveredRequirements 中明确不能验证的原因；不能删除需求。")
                else none

def Cites (requirements : List Requirement) (criterion : Criterion) : Prop :=
  criterion.required = true ∧ ∃ requirement ∈ requirements,
    criterion.requirementId = some requirement.id ∧ ∃ basis, criterion.basis = some basis ∧
      basis.sourceRef = requirement.sourceRef ∧ basis.quote = requirement.quote

def Named (cases : List SpecCase) (id : String) : Prop :=
  ∃ testCase ∈ cases, ∃ criterion ∈ testCase.criteria, criterion.requirementId = some id

structure Accounted (requirements : List Requirement) (cases : List SpecCase)
    (uncovered : List Uncovered) : Prop where
  distinct : (requirementIds requirements).Nodup
  cited : ∀ testCase ∈ cases, ∀ criterion ∈ testCase.criteria, Cites requirements criterion
  declaredOnce : (uncovered.map Uncovered.requirementId).Nodup
  exhaustive : ∀ id, id ∈ requirementIds requirements ↔
    Named cases id ∨ id ∈ uncovered.map Uncovered.requirementId
  exclusive : ∀ id, Named cases id → id ∉ uncovered.map Uncovered.requirementId

theorem byId_mem {requirements : List Requirement} {id : String} {requirement : Requirement}
    (found : byId requirements id = some requirement) :
    requirement ∈ requirements ∧ requirement.id = id := by
  refine ⟨List.mem_reverse.mp (List.mem_of_find?_eq_some found), ?_⟩
  simpa using List.find?_some found

theorem byId_isSome {requirements : List Requirement} {id : String} :
    (byId requirements id).isSome = true ↔ id ∈ requirementIds requirements := by
  rw [byId, List.find?_isSome]
  simp [requirementIds]

/-- With distinct ids the `Map` holds every requirement. -/
theorem byId_eq {requirements : List Requirement} (distinct : (requirementIds requirements).Nodup)
    {requirement : Requirement} (member : requirement ∈ requirements) :
    byId requirements requirement.id = some requirement := by
  have known : (byId requirements requirement.id).isSome = true :=
    byId_isSome.mpr (List.mem_map_of_mem member)
  obtain ⟨other, found⟩ := Option.isSome_iff_exists.mp known
  obtain ⟨inside, same⟩ := byId_mem found
  rw [found, List.inj_on_of_nodup_map distinct inside member same]

@[simp] theorem mem_addId {known : List String} {id other : String} :
    other ∈ addId known id ↔ other ∈ known ∨ other = id := by
  rw [addId]
  split
  · rename_i member
    exact ⟨Or.inl, fun either => either.elim (fun inside => inside) fun same => same ▸ member⟩
  · simp

theorem otherBasis_false_iff {criterion : Criterion} {requirement : Requirement} :
    otherBasis criterion requirement = false ↔ ∃ basis, criterion.basis = some basis ∧
      basis.sourceRef = requirement.sourceRef ∧ basis.quote = requirement.quote := by
  unfold otherBasis
  cases criterion.basis with
  | none => simp
  | some basis => simp

section Requirements

variable {requirements : List Requirement}

theorem coverCriterion_eq_ok_iff (distinct : (requirementIds requirements).Nodup)
    {covered next : List String} {criterion : Criterion} :
    coverCriterion requirements covered criterion = .ok next ↔
      Cites requirements criterion ∧ next = addId covered (criterion.requirementId.getD "") := by
  rw [coverCriterion]
  constructor
  · intro done
    split at done
    · cases done
    · rename_i requirement found
      obtain ⟨member, same⟩ := byId_mem found
      split_ifs at done with optional other
      obtain rfl := Except.ok.inj done
      refine ⟨⟨by simpa using optional, requirement, member, ?_,
        otherBasis_false_iff.mp (by simpa using other)⟩, by rw [same]⟩
      -- the empty text is no requirement's id
      cases known : criterion.requirementId with
      | none => exact absurd (by rw [same, known]; rfl) requirement.named
      | some id => rw [same, known, Option.getD_some]
  · rintro ⟨⟨required, requirement, member, cited, basis⟩, rfl⟩
    rw [cited, Option.getD_some, byId_eq distinct member]
    simp only [required, otherBasis_false_iff.mpr basis, Bool.not_true, Bool.false_eq_true, if_false]

theorem foldlM_coverCriterion (distinct : (requirementIds requirements).Nodup)
    {criteria : List Criterion} {covered result : List String} :
    criteria.foldlM (coverCriterion requirements) covered = .ok result ↔
      (∀ criterion ∈ criteria, Cites requirements criterion) ∧
        result = criteria.foldl (fun covered criterion =>
          addId covered (criterion.requirementId.getD "")) covered := by
  induction criteria generalizing covered with
  | nil => simp [pure, Except.pure, eq_comm]
  | cons criterion rest ih =>
      rw [List.foldlM_cons, List.forall_mem_cons, List.foldl_cons]
      cases first : coverCriterion requirements covered criterion with
      | error message =>
          have uncited : ¬Cites requirements criterion := by
            intro cites
            rw [(coverCriterion_eq_ok_iff distinct).mpr ⟨cites, rfl⟩] at first
            cases first
          simp [bind, Except.bind, uncited]
      | ok next =>
          obtain ⟨cites, rfl⟩ := (coverCriterion_eq_ok_iff distinct).mp first
          simp only [bind, Except.bind, ih, cites, true_and]

theorem mem_foldl_addId {criteria : List Criterion} {covered : List String} {id : String} :
    id ∈ criteria.foldl (fun covered criterion =>
      addId covered (criterion.requirementId.getD "")) covered ↔
      id ∈ covered ∨ ∃ criterion ∈ criteria, criterion.requirementId.getD "" = id := by
  induction criteria generalizing covered with
  | nil => simp
  | cons criterion rest ih =>
      rw [List.foldl_cons, ih, mem_addId, List.exists_mem_cons_iff, or_assoc, eq_comm]

theorem coverCases_eq (cases : List SpecCase) :
    coverCases requirements cases =
      (cases.flatMap SpecCase.criteria).foldlM (coverCriterion requirements) [] := by
  have from_any : ∀ covered : List String, cases.foldlM (fun covered testCase =>
        testCase.criteria.foldlM (coverCriterion requirements) covered) covered =
      (cases.flatMap SpecCase.criteria).foldlM (coverCriterion requirements) covered := by
    induction cases with
    | nil => exact fun _ => rfl
    | cons testCase rest ih =>
        intro covered
        rw [List.foldlM_cons, List.flatMap_cons, List.foldlM_append]
        exact bind_congr fun covered => ih covered
  exact from_any []

theorem declareUncovered_eq_ok_iff {covered uncovered next : List String} {item : Uncovered} :
    declareUncovered requirements covered uncovered item = .ok next ↔
      item.requirementId ∈ requirementIds requirements ∧ item.requirementId ∉ covered ∧
        item.requirementId ∉ uncovered ∧ next = uncovered ++ [item.requirementId] := by
  rw [declareUncovered]
  split_ifs with unknown known
  · have missing : item.requirementId ∉ requirementIds requirements := by
      rw [← byId_isSome]
      simpa using unknown
    simp [missing]
  · have repeated : item.requirementId ∉ covered → item.requirementId ∈ uncovered :=
      known.resolve_right
    simp only [false_iff]
    rintro ⟨-, free, fresh, -⟩
    exact fresh (repeated free)
  · have listed : item.requirementId ∈ requirementIds requirements := by
      rw [← byId_isSome]
      simpa [Option.isSome_iff_ne_none] using unknown
    obtain ⟨fresh, free⟩ := not_or.mp known
    simp [addId, fresh, free, listed, eq_comm]

theorem foldlM_declareUncovered {covered : List String} {items : List Uncovered}
    {uncovered result : List String} :
    items.foldlM (declareUncovered requirements covered) uncovered = .ok result ↔
      (∀ id ∈ items.map Uncovered.requirementId,
        id ∈ requirementIds requirements ∧ id ∉ covered ∧ id ∉ uncovered) ∧
        (items.map Uncovered.requirementId).Nodup ∧
        result = uncovered ++ items.map Uncovered.requirementId := by
  induction items generalizing uncovered with
  | nil => simp [pure, Except.pure, eq_comm]
  | cons item rest ih =>
      rw [List.foldlM_cons, List.map_cons, List.forall_mem_cons, List.nodup_cons]
      cases first : declareUncovered requirements covered uncovered item with
      | error message =>
          have refused : ¬(item.requirementId ∈ requirementIds requirements ∧
              item.requirementId ∉ covered ∧ item.requirementId ∉ uncovered) := by
            rintro ⟨listed, free, fresh⟩
            rw [declareUncovered_eq_ok_iff.mpr ⟨listed, free, fresh, rfl⟩] at first
            cases first
          simp only [bind, Except.bind, reduceCtorEq, refused, false_and]
      | ok next =>
          obtain ⟨listed, free, fresh, rfl⟩ := declareUncovered_eq_ok_iff.mp first
          simp only [bind, Except.bind, ih, List.mem_append, List.mem_singleton, not_or, listed, free,
            fresh, not_false_eq_true, true_and, List.append_assoc, List.singleton_append]
          constructor
          · rintro ⟨each, once, same⟩
            exact ⟨fun id member => ⟨(each id member).1, (each id member).2.1, (each id member).2.2.1⟩,
              ⟨fun member => (each _ member).2.2.2 rfl, once⟩, same⟩
          · rintro ⟨each, ⟨new, once⟩, same⟩
            refine ⟨fun id member => ⟨(each id member).1, (each id member).2.1, (each id member).2.2, ?_⟩,
              once, same⟩
            rintro rfl
            exact new member

end Requirements

theorem dedup_length_iff {ids : List String} : ids.dedup.length = ids.length ↔ ids.Nodup := by
  constructor
  · intro same
    rw [← (List.dedup_sublist ids).eq_of_length same]
    exact List.nodup_dedup ids
  · intro distinct
    rw [distinct.dedup]

theorem coverCases_ok {requirements : List Requirement} {cases : List SpecCase}
    (distinct : (requirementIds requirements).Nodup)
    {covered : List String} (done : coverCases requirements cases = .ok covered) :
    (∀ testCase ∈ cases, ∀ criterion ∈ testCase.criteria, Cites requirements criterion) ∧
      ∀ id, id ∈ covered ↔ Named cases id := by
  rw [coverCases_eq, foldlM_coverCriterion distinct] at done
  obtain ⟨cited, rfl⟩ := done
  refine ⟨fun testCase inside criterion member =>
    cited criterion (List.mem_flatMap.mpr ⟨testCase, inside, member⟩), fun id => ?_⟩
  rw [mem_foldl_addId]
  constructor
  · rintro (none | ⟨criterion, member, same⟩)
    · cases none
    · obtain ⟨testCase, inside, here⟩ := List.mem_flatMap.mp member
      obtain ⟨-, requirement, -, named, -⟩ := cited criterion member
      rw [named, Option.getD_some] at same
      exact ⟨testCase, inside, criterion, here, named.trans (congrArg some same)⟩
  · rintro ⟨testCase, inside, criterion, here, named⟩
    exact Or.inr ⟨criterion, List.mem_flatMap.mpr ⟨testCase, inside, here⟩, by rw [named]; rfl⟩

theorem coverCases_of_cited {requirements : List Requirement} {cases : List SpecCase}
    (distinct : (requirementIds requirements).Nodup)
    (cited : ∀ testCase ∈ cases, ∀ criterion ∈ testCase.criteria, Cites requirements criterion) :
    ∃ covered, coverCases requirements cases = .ok covered := by
  refine ⟨_, (coverCases_eq cases).trans ((foldlM_coverCriterion distinct).mpr ⟨?_, rfl⟩)⟩
  intro criterion member
  obtain ⟨testCase, inside, here⟩ := List.mem_flatMap.mp member
  exact cited testCase inside criterion here

theorem named_known {requirements : List Requirement} {cases : List SpecCase}
    (cited : ∀ testCase ∈ cases, ∀ criterion ∈ testCase.criteria, Cites requirements criterion)
    {id : String} (named : Named cases id) : id ∈ requirementIds requirements := by
  obtain ⟨testCase, inside, criterion, here, known⟩ := named
  obtain ⟨-, requirement, member, same, -⟩ := cited testCase inside criterion here
  rw [known, Option.some.injEq] at same
  exact same ▸ List.mem_map_of_mem member

/-- No error exactly when criteria and omissions account for every requirement. -/
theorem specRequirementCoverageError_eq_none_iff (spec : Spec) (requirements : List Requirement) :
    specRequirementCoverageError { spec with requirements := some requirements } = none ↔
      Accounted requirements spec.cases (spec.uncoveredRequirements.getD []) := by
  unfold specRequirementCoverageError
  dsimp only
  constructor
  · intro silent
    split_ifs at silent with repeated
    have distinct : (requirementIds requirements).Nodup := by
      rw [← dedup_length_iff]
      simpa [requirementIds] using not_not.mp repeated
    split at silent
    · cases silent
    · rename_i covered done
      obtain ⟨cited, names⟩ := coverCases_ok distinct done
      split at silent
      · cases silent
      · rename_i uncovered declared
        obtain ⟨each, once, rfl⟩ := foldlM_declareUncovered.mp declared
        split_ifs at silent with missing
        simp only [List.length_eq_zero_iff, List.filter_eq_nil_iff, List.mem_dedup, ne_eq, not_not,
          Bool.and_eq_true, decide_eq_true_eq, not_and, names, List.nil_append] at missing
        refine ⟨distinct, cited, once, fun id => ⟨fun member => ?_, ?_⟩, fun id named member => ?_⟩
        · exact or_iff_not_imp_left.mpr (missing id member)
        · rintro (named | member)
          · exact named_known cited named
          · exact (each id member).1
        · exact (each id member).2.1 ((names id).mpr named)
  · rintro ⟨distinct, cited, once, exhaustive, exclusive⟩
    rw [if_neg (by simpa [requirementIds] using dedup_length_iff.mpr distinct)]
    obtain ⟨covered, done⟩ := coverCases_of_cited distinct cited
    obtain ⟨-, names⟩ := coverCases_ok distinct done
    have declared : (spec.uncoveredRequirements.getD []).foldlM
        (declareUncovered requirements covered) [] =
          .ok ([] ++ (spec.uncoveredRequirements.getD []).map Uncovered.requirementId) := by
      refine foldlM_declareUncovered.mpr ⟨fun id member => ?_, once, rfl⟩
      exact ⟨(exhaustive id).mpr (Or.inr member), fun inside =>
        exclusive id ((names id).mp inside) member, List.not_mem_nil⟩
    simp only [done, declared]
    rw [if_neg]
    simp only [List.length_eq_zero_iff, List.filter_eq_nil_iff, List.mem_dedup, ne_eq, not_not,
      Bool.and_eq_true, decide_eq_true_eq, not_and, names, List.nil_append]
    exact fun id member => ((exhaustive id).mp member).resolve_left

end Devproof.RequirementCoverage
