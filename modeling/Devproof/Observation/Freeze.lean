import Devproof.Observation.ContractSchema
import Devproof.Observation.Review

/-!
Stable identifiers for a contract (`freezeObservationContract` in
`observation-digest.ts`).  They are derived from positions and labels, while the
comparisons refer to targets by the identifiers they had before.
-/

namespace Devproof

def targetValue (criterionId : String) (index : Nat) (label : String) : Shape :=
  .list [.text criterionId, .word (toString index).toList, .text label]

def comparisonValue (criterionId : String) (index : Nat) : Shape :=
  .list [.text criterionId, .word (toString index).toList]

def assertionName (index : Nat) : String :=
  "assertion-" ++ toString (index + 1)

section Digests

variable (sha256 : String → String)

def digestPrefix (value : Shape) : String :=
  slice (observationDigest sha256 value) 24

def targetKey (criterionId : String) (index : Nat) (label : String) : String :=
  "target-" ++ digestPrefix sha256 (targetValue criterionId index label)

def comparisonKey (criterionId : String) (index : Nat) : String :=
  "comparison-" ++ digestPrefix sha256 (comparisonValue criterionId index)

end Digests

namespace Contract

section Freeze

variable {Target : Type} [ContractTarget Target] (sha256 : String → String) (criterionId : String)
  (contract : Contract Target)

def digested : List Shape :=
  contract.targets.mapIdx (fun index target =>
    targetValue criterionId index (ContractTarget.label target)) ++
  contract.comparisons.mapIdx fun index _ => comparisonValue criterionId index

def keys : List (String × String) :=
  contract.targets.mapIdx fun index target =>
    (ContractTarget.targetId target,
      targetKey sha256 criterionId index (ContractTarget.label target))

def keyOf (targetId : String) : Option String :=
  ((contract.keys sha256 criterionId).reverse.find? fun entry => entry.1 == targetId).map Prod.snd

def assign : Option (Contract Target) := do
  let targets ← contract.targets.mapM fun target => do
    let targetId ← contract.keyOf sha256 criterionId (ContractTarget.targetId target)
    return ContractTarget.withIds targetId assertionName target
  let comparisons ← contract.comparisons.zipIdx.mapM fun (comparison, index) => do
    let subjectTargetId ← contract.keyOf sha256 criterionId comparison.subjectTargetId
    let referenceTargetId ← contract.keyOf sha256 criterionId comparison.referenceTargetId
    let comparisonId := comparisonKey sha256 criterionId index
    return { comparison with comparisonId, subjectTargetId, referenceTargetId }
  return { targets, comparisons }

def freeze (schema : Contract Target → Except Rejection (Contract Target)) :
    Except Rejection (Contract Target) :=
  match contract.assign sha256 criterionId with
  | some assigned => schema assigned
  | none => .error .fields

end Freeze

end Contract

def freezeObservationContract (sha256 : String → String) (document : ContractDocument)
    (criterionId : String) : Except Rejection ContractDocument :=
  match document with
  | .v2 contract => .v2 <$> contract.freeze sha256 criterionId observationContractV2Schema
  | .v3 contract => .v3 <$> contract.freeze sha256 criterionId observationContractV3Schema

theorem trim_solid {text : String} (solid : ∀ char ∈ text.toList, isSpace char = false) :
    trim text = text := by
  have front : text.toList.dropWhile isSpace = text.toList := by
    cases chars : text.toList with
    | nil => rfl
    | cons first rest =>
        rw [List.dropWhile_cons_of_neg]
        simp [solid first (by simp [chars])]
  have back : text.toList.rdropWhile isSpace = text.toList := by
    rw [List.rdropWhile_eq_self_iff]
    intro filled
    simp [solid _ (List.getLast_mem filled)]
  rw [trim, front, back, String.ofList_toList]

def isDigestDigit (char : Char) : Bool :=
  isDigit char || ('a' ≤ char && char ≤ 'f')

theorem digestDigit_range {char : Char} (digit : isDigestDigit char = true) :
    (48 ≤ char.toNat ∧ char.toNat ≤ 57) ∨ (97 ≤ char.toNat ∧ char.toNat ≤ 102) := by
  simp only [isDigestDigit, isDigit, Bool.or_eq_true, Bool.and_eq_true, decide_eq_true_eq] at digit
  exact digit

theorem isSpace_digestDigit {char : Char} (digit : isDigestDigit char = true) :
    isSpace char = false := by
  have range := digestDigit_range digit
  simp [isSpace]
  omega

theorem charUnits_digestDigit {char : Char} (digit : isDigestDigit char = true) :
    charUnits char = 1 := by
  have range := digestDigit_range digit
  rw [charUnits, if_pos (by omega)]

theorem units_append (left right : String) : units (left ++ right) = units left + units right := by
  simp [units, unitsOf]

theorem takeUnits_short (count : Nat) (chars : List Char) :
    unitsOf (takeUnits count chars) ≤ count := by
  induction chars generalizing count with
  | nil => cases count <;> simp [takeUnits, unitsOf]
  | cons char rest ih =>
      cases count with
      | zero => simp [takeUnits, unitsOf]
      | succ count =>
          rw [takeUnits]
          split
          · rename_i fits
            have shorter := ih (count + 1 - charUnits char)
            simp only [unitsOf, List.map_cons, List.sum_cons] at shorter ⊢
            omega
          · have half : unitsOf ['\uFFFD'] = 1 := by decide
            omega

/-- Characters of one unit each are never split. -/
theorem takeUnits_subset {count : Nat} {chars : List Char}
    (small : ∀ char ∈ chars, charUnits char = 1) : takeUnits count chars ⊆ chars := by
  induction chars generalizing count with
  | nil => cases count <;> simp [takeUnits]
  | cons char rest ih =>
      cases count with
      | zero => simp [takeUnits]
      | succ count =>
          have one := small char (List.mem_cons_self ..)
          rw [takeUnits, if_pos (by omega)]
          have later := @ih (count + 1 - charUnits char) fun next member =>
            small next (List.mem_cons_of_mem _ member)
          exact List.cons_subset_cons char later

/-- What is taken of `createHash("sha256")` for some values: its digests are hexadecimal,
and the first 24 digits tell the values apart. -/
structure ApartPrefixes (sha256 : String → String) (values : List Shape) : Prop where
  digits : ∀ text, ∀ char ∈ (sha256 text).toList, isDigestDigit char
  injective : ∀ left ∈ values, ∀ right ∈ values,
    digestPrefix sha256 left = digestPrefix sha256 right → left = right

section Prefixes

variable {sha256 : String → String}
  (digits : ∀ text, ∀ char ∈ (sha256 text).toList, isDigestDigit char)

include digits

theorem digestPrefix_digits (value : Shape) :
    ∀ char ∈ (digestPrefix sha256 value).toList, isDigestDigit char := by
  intro char member
  rw [digestPrefix, slice, String.toList_ofList] at member
  refine digits _ char (takeUnits_subset ?_ member)
  intro other present
  exact charUnits_digestDigit (digits _ other present)

theorem tagged_identifier {tag : String} (solid : tag.toList.any isSpace = false)
    (short : 1 ≤ units tag ∧ units tag ≤ 100) (value : Shape) :
    trim (tag ++ digestPrefix sha256 value) = tag ++ digestPrefix sha256 value ∧
      identifierFits (tag ++ digestPrefix sha256 value) = true := by
  constructor
  · apply trim_solid
    intro char member
    rw [String.toList_append, List.mem_append] at member
    rcases member with front | back
    · exact Bool.eq_false_of_not_eq_true (List.any_eq_false.mp solid char front)
    · exact isSpace_digestDigit (digestPrefix_digits digits value char back)
  · have bound : units (digestPrefix sha256 value) ≤ 24 := by
      rw [units, digestPrefix, slice, String.toList_ofList]
      exact takeUnits_short 24 _
    simp only [identifierFits, textFits, Bool.and_eq_true, decide_eq_true_eq, units_append]
    omega

theorem targetKey_identifier (criterionId : String) (index : Nat) (label : String) :
    trim (targetKey sha256 criterionId index label) = targetKey sha256 criterionId index label ∧
      identifierFits (targetKey sha256 criterionId index label) = true :=
  tagged_identifier digits (by decide) (by decide) _

theorem comparisonKey_identifier (criterionId : String) (index : Nat) :
    trim (comparisonKey sha256 criterionId index) = comparisonKey sha256 criterionId index ∧
      identifierFits (comparisonKey sha256 criterionId index) = true :=
  tagged_identifier digits (by decide) (by decide) _

end Prefixes

theorem assertionName_identifier :
    ∀ index < 8, trim (assertionName index) = assertionName index ∧
      identifierFits (assertionName index) = true := by
  decide

theorem append_left_injective (tag : String) {left right : String}
    (same : tag ++ left = tag ++ right) : left = right := by
  have chars := congrArg String.toList same
  rw [String.toList_append, String.toList_append] at chars
  exact String.toList_injective (List.append_cancel_left chars)

theorem assertionName_injective : Function.Injective assertionName := by
  intro left right same
  have numbers := toString_injective (append_left_injective _ same)
  omega

theorem numberWord_injective {left right : Nat}
    (same : Shape.word (toString left).toList = Shape.word (toString right).toList) :
    left = right :=
  toString_injective (String.toList_injective (Shape.word.inj same))

/-! What freezing relies on, for targets of both versions. -/

class LawfulTarget (Target : Type) [ContractTarget Target] : Prop where
  clean_clean : ∀ target : Target,
    ContractTarget.clean (ContractTarget.clean target) = ContractTarget.clean target
  targetId_retarget : ∀ (targetId : String) (target : Target),
    ContractTarget.targetId (ContractTarget.retarget targetId target) = targetId
  label_retarget : ∀ (targetId : String) (target : Target),
    ContractTarget.label (ContractTarget.retarget targetId target) = ContractTarget.label target
  withIds_retarget : ∀ (targetId old : String) (names : Nat → String) (target : Target),
    ContractTarget.withIds targetId names (ContractTarget.retarget old target) =
      ContractTarget.withIds targetId names target
  targetId_withIds : ∀ (targetId : String) (names : Nat → String) (target : Target),
    ContractTarget.targetId (ContractTarget.withIds targetId names target) = targetId
  label_withIds : ∀ (targetId : String) (names : Nat → String) (target : Target),
    ContractTarget.label (ContractTarget.withIds targetId names target) =
      ContractTarget.label target
  kinds_withIds : ∀ (targetId : String) (names : Nat → String) (target : Target),
    ContractTarget.requiredEvidenceKinds (ContractTarget.withIds targetId names target) =
      ContractTarget.requiredEvidenceKinds target
  assertionIds_withIds : ∀ (targetId : String) (names : Nat → String) (target : Target),
    ContractTarget.assertionIds (ContractTarget.withIds targetId names target) =
      (ContractTarget.assertionIds target).mapIdx fun index _ => names index
  withIds_withIds : ∀ (targetId old : String) (names others : Nat → String) (target : Target),
    ContractTarget.withIds targetId names (ContractTarget.withIds old others target) =
      ContractTarget.withIds targetId names target
  keeps : ∀ (targetId : String) (names : Nat → String) (target : Target),
    ContractTarget.clean target = target → ContractTarget.fits target = true →
    trim targetId = targetId ∧ identifierFits targetId = true →
    (∀ index < 8, trim (names index) = names index ∧ identifierFits (names index) = true) →
    ContractTarget.clean (ContractTarget.withIds targetId names target) =
        ContractTarget.withIds targetId names target ∧
      ContractTarget.fits (ContractTarget.withIds targetId names target) = true
  issues_kept : ∀ (targetId : String) (names : Nat → String) (target : Target)
    (comparisons later : List VisualComparisonRequirement),
    Function.Injective names →
    later.map (fun comparison => comparison.subjectTargetId == targetId) =
      comparisons.map (fun comparison =>
        comparison.subjectTargetId == ContractTarget.targetId target) →
    later.map (fun comparison => comparison.referenceTargetId == targetId) =
      comparisons.map (fun comparison =>
        comparison.referenceTargetId == ContractTarget.targetId target) →
    ContractTarget.issues comparisons target = [] →
    ContractTarget.issues later (ContractTarget.withIds targetId names target) = []

theorem names_nodup {α : Type} {names : Nat → String} (injective : Function.Injective names)
    (items : List α) : (items.mapIdx fun index _ => names index).Nodup := by
  have numbered : (items.mapIdx fun index _ => names index) =
      (List.range items.length).map names := by
    apply List.ext_getElem <;> simp
  rw [numbered]
  exact List.nodup_range.map injective

theorem clean_map {α : Type} {clean : α → α} (idempotent : ∀ item, clean (clean item) = clean item)
    (items : List α) : (items.map clean).map clean = items.map clean := by
  rw [List.map_map]
  exact List.map_congr_left fun item _ => idempotent item

theorem map_eq_self {α : Type} {clean : α → α} {items : List α} (same : items.map clean = items) :
    ∀ item ∈ items, clean item = item := by
  have each := List.map_eq_map_iff.mp (same.trans (List.map_id items).symm)
  exact each

theorem any_eq_of_map {α : Type} {items later : List α} {test test' : α → Bool}
    (same : later.map test' = items.map test) : later.any test' = items.any test := by
  have each : (later.map test').any id = (items.map test).any id := by rw [same]
  simpa only [List.any_map, Function.id_comp] using each

theorem map_mapIdx {α β γ : Type} (items : List α) (write : Nat → α → β) (view : β → γ) :
    (items.mapIdx write).map view = items.mapIdx fun index item => view (write index item) := by
  apply List.ext_getElem <;> simp

theorem mapIdx_map {α β γ : Type} (items : List α) (view : α → β) (write : Nat → β → γ) :
    (items.map view).mapIdx write = items.mapIdx fun index item => write index (view item) := by
  apply List.ext_getElem <;> simp

theorem forall_mapIdx {α β : Type} {items : List α} {write : Nat → α → β} {holds : β → Prop}
    (each : ∀ index, index < items.length → ∀ item ∈ items, holds (write index item)) :
    ∀ written ∈ items.mapIdx write, holds written := by
  intro written member
  obtain ⟨index, bound, rfl⟩ := List.mem_mapIdx.mp member
  exact each index bound _ (List.getElem_mem bound)

theorem TargetV2.clean_clean (target : TargetV2) : target.clean.clean = target.clean := by
  have assertions : (target.assertions.map AssertionV2.clean).map AssertionV2.clean =
      target.assertions.map AssertionV2.clean :=
    clean_map (fun assertion => by simp [AssertionV2.clean, trim_trim]) _
  simp only [TargetV2.clean, trim_trim, assertions, clean_map trim_trim]

theorem TargetV3.clean_clean (target : TargetV3) : target.clean.clean = target.clean := by
  have assertions : (target.assertions.map AssertionV3.clean).map AssertionV3.clean =
      target.assertions.map AssertionV3.clean :=
    clean_map (fun assertion => by simp [AssertionV3.clean, trim_trim]) _
  simp only [TargetV3.clean, trim_trim, assertions]

theorem AssertionV2.keeps {assertion : AssertionV2} {name : String}
    (cleaned : assertion.clean = assertion) (bounded : assertion.fits = true)
    (named : trim name = name ∧ identifierFits name = true) :
    clean { assertion with assertionId := name } = { assertion with assertionId := name } ∧
      fits { assertion with assertionId := name } = true := by
  obtain ⟨assertionId, subject, expectation⟩ := assertion
  simp only [clean, fits, mk.injEq, Bool.and_eq_true] at cleaned bounded ⊢
  exact ⟨⟨named.1, cleaned.2⟩, ⟨named.2, bounded.1.2⟩, bounded.2⟩

theorem AssertionV3.keeps {assertion : AssertionV3} {name : String}
    (cleaned : assertion.clean = assertion) (bounded : assertion.fits = true)
    (named : trim name = name ∧ identifierFits name = true) :
    clean { assertion with assertionId := name } = { assertion with assertionId := name } ∧
      fits { assertion with assertionId := name } = true := by
  obtain ⟨assertionId, property, matchMode, label, expected⟩ := assertion
  simp only [clean, fits, mk.injEq, Bool.and_eq_true] at cleaned bounded ⊢
  exact ⟨⟨named.1, cleaned.2⟩, ⟨named.2, bounded.1.2⟩, bounded.2⟩

theorem numbered_keeps {Item : Type} {clean : Item → Item} {fits : Item → Bool}
    {rename : String → Item → Item} {names : Nat → String} {items : List Item}
    (keeps : ∀ item name, clean item = item → fits item = true →
      trim name = name ∧ identifierFits name = true →
      clean (rename name item) = rename name item ∧ fits (rename name item) = true)
    (cleaned : items.map clean = items)
    (bounded : filled 8 items = true ∧ items.all fits = true)
    (numbered : ∀ index < 8, trim (names index) = names index ∧
      identifierFits (names index) = true) :
    (items.mapIdx fun index item => rename (names index) item).map clean =
        (items.mapIdx fun index item => rename (names index) item) ∧
      filled 8 (items.mapIdx fun index item => rename (names index) item) = true ∧
      (items.mapIdx fun index item => rename (names index) item).all fits = true := by
  have few : items.length ≤ 8 := by
    have size := bounded.1
    simp only [filled, Bool.and_eq_true, decide_eq_true_eq] at size
    exact size.2
  have each : ∀ written ∈ items.mapIdx fun index item => rename (names index) item,
      clean written = written ∧ fits written = true :=
    forall_mapIdx fun index bound item member =>
      keeps item (names index) (map_eq_self cleaned item member)
        (List.all_eq_true.mp bounded.2 item member) (numbered index (by omega))
  refine ⟨?_, ?_, List.all_eq_true.mpr fun item member => (each item member).2⟩
  · exact (List.map_congr_left fun item member => (each item member).1).trans (List.map_id' _)
  · simpa only [filled, List.length_mapIdx] using bounded.1

instance : LawfulTarget TargetV2 where
  clean_clean := TargetV2.clean_clean
  targetId_retarget _ _ := rfl
  label_retarget _ _ := rfl
  withIds_retarget _ _ _ _ := rfl
  targetId_withIds _ _ _ := rfl
  label_withIds _ _ _ := rfl
  kinds_withIds _ _ _ := rfl
  assertionIds_withIds _ _ target := by
    simp only [ContractTarget.assertionIds, ContractTarget.withIds, map_mapIdx, mapIdx_map]
  withIds_withIds _ _ _ _ target := by
    simp only [ContractTarget.withIds, List.mapIdx_mapIdx, Function.comp_def]
  keeps := by
    intro targetId names target cleaned bounded named numbered
    obtain ⟨old, label, scope, entity, phase, assertions, kinds⟩ := target
    simp only [ContractTarget.clean, TargetV2.clean, TargetV2.mk.injEq] at cleaned
    simp only [ContractTarget.fits, TargetV2.fits, Bool.and_eq_true] at bounded
    obtain ⟨-, label', scope', entity', -, assertions', -⟩ := cleaned
    obtain ⟨⟨⟨⟨⟨⟨-, labelFits⟩, names'⟩, entityLabel⟩, oneOf⟩, assertionsFit⟩, kindsFit⟩ := bounded
    obtain ⟨clean', fits'⟩ := numbered_keeps
      (fun assertion name => @AssertionV2.keeps assertion name) assertions' assertionsFit numbered
    constructor
    · simp only [ContractTarget.clean, TargetV2.clean, ContractTarget.withIds, TargetV2.mk.injEq]
      exact ⟨named.1, label', scope', entity', trivial, clean', trivial⟩
    · simp only [ContractTarget.fits, TargetV2.fits, ContractTarget.withIds, Bool.and_eq_true]
      exact ⟨⟨⟨⟨⟨⟨named.2, labelFits⟩, names'⟩, entityLabel⟩, oneOf⟩, fits'⟩, kindsFit⟩
  issues_kept := by
    intro targetId names target comparisons later injective subjects references valid
    simp only [ContractTarget.issues, TargetV2.issues, List.append_eq_nil_iff,
      issueIf_eq_nil] at valid ⊢
    refine ⟨⟨repeated_eq_false.mpr ?_, valid.1.2⟩, valid.2⟩
    simp only [ContractTarget.withIds, map_mapIdx]
    exact names_nodup injective target.assertions

instance : LawfulTarget TargetV3 where
  clean_clean := TargetV3.clean_clean
  targetId_retarget _ _ := rfl
  label_retarget _ _ := rfl
  withIds_retarget _ _ _ _ := rfl
  targetId_withIds _ _ _ := rfl
  label_withIds _ _ _ := rfl
  kinds_withIds _ _ _ := rfl
  assertionIds_withIds _ _ target := by
    simp only [ContractTarget.assertionIds, ContractTarget.withIds, map_mapIdx, mapIdx_map]
  withIds_withIds _ _ _ _ target := by
    simp only [ContractTarget.withIds, List.mapIdx_mapIdx, Function.comp_def]
  keeps := by
    intro targetId names target cleaned bounded named numbered
    obtain ⟨old, label, identity, phase, assertions, kinds⟩ := target
    simp only [ContractTarget.clean, TargetV3.clean, TargetV3.mk.injEq] at cleaned
    simp only [ContractTarget.fits, TargetV3.fits, Bool.and_eq_true] at bounded
    obtain ⟨-, label', identity', -, assertions', -⟩ := cleaned
    obtain ⟨⟨⟨⟨-, labelFits⟩, textFits⟩, assertionsFit⟩, kindsFit⟩ := bounded
    obtain ⟨clean', fits'⟩ := numbered_keeps
      (fun assertion name => @AssertionV3.keeps assertion name) assertions' assertionsFit numbered
    constructor
    · simp only [ContractTarget.clean, TargetV3.clean, ContractTarget.withIds, TargetV3.mk.injEq]
      exact ⟨named.1, label', identity', trivial, clean', trivial⟩
    · simp only [ContractTarget.fits, TargetV3.fits, ContractTarget.withIds, Bool.and_eq_true]
      exact ⟨⟨⟨⟨named.2, labelFits⟩, textFits⟩, fits'⟩, kindsFit⟩
  issues_kept := by
    intro targetId names target comparisons later injective subjects references valid
    simp only [ContractTarget.issues, TargetV3.issues, ContractTarget.targetId,
      List.append_eq_nil_iff, issueIf_eq_nil, List.flatMap_eq_nil_iff] at valid subjects references ⊢
    obtain ⟨⟨⟨displayText, captured⟩, dom⟩, -⟩ := valid
    refine ⟨⟨⟨?_, ?_⟩, dom⟩, repeated_eq_false.mpr ?_⟩
    · exact forall_mapIdx fun _ _ assertion member => displayText assertion member
    · have openly : (target.assertions.mapIdx fun index assertion =>
          { assertion with assertionId := names index }).any (fun assertion =>
            assertion.expected.isNone) =
          target.assertions.any fun assertion => assertion.expected.isNone :=
        any_eq_of_map (by apply List.ext_getElem <;> simp)
      simp only [ContractTarget.withIds]
      rw [openly, any_eq_of_map subjects, any_eq_of_map references]
      exact captured
    · simp only [ContractTarget.withIds, map_mapIdx]
      exact names_nodup injective target.assertions

end Devproof
