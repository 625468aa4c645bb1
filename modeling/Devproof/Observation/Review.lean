import Devproof.AgentRuntime.Rows
import Devproof.Lib.JsonText
import Devproof.Observation.Contract

/-!
The rows that `observation-binding.service.ts` reads and writes when images are
handed to the model and compared, and the checks it makes on them.
-/

namespace Devproof

def uuid (text : String) : String :=
  String.ofList (text.toList.map Char.toLower)

theorem toLower_toLower (char : Char) : char.toLower.toLower = char.toLower := by
  unfold Char.toLower
  split
  · rename_i upper
    refine dif_neg fun again => ?_
    have low : 65 ≤ char.val.toNat := UInt32.le_iff_toNat_le.mp upper.1
    have high : char.val.toNat ≤ 90 := UInt32.le_iff_toNat_le.mp upper.2
    have bound : (char.val + ('a'.val - 'A'.val)).toNat ≤ 90 := UInt32.le_iff_toNat_le.mp again.2
    have code : (char.val + ('a'.val - 'A'.val)).toNat = char.val.toNat + 32 := by
      rw [UInt32.toNat_add]
      have gap : ('a'.val - 'A'.val).toNat = 32 := by decide
      omega
    omega
  · simp

@[simp] theorem uuid_uuid (text : String) : uuid (uuid text) = uuid text := by
  unfold uuid
  rw [String.toList_ofList, List.map_map]
  congr 2
  exact funext toLower_toLower

/-- `createHash("sha256")` gives lowercase digests, taken to differ for different texts. -/
structure ApartDigests (sha256 : String → String) : Prop where
  injective : Function.Injective sha256
  lowercase : ∀ text, uuid (sha256 text) = sha256 text

def observationDigest (sha256 : String → String) (value : Shape) : String :=
  sha256 (String.ofList value.render)

theorem observationDigest_inj {sha256 : String → String} (apart : ApartDigests sha256)
    {left right : Shape} (readable : left.Readable) (readable' : right.Readable) :
    observationDigest sha256 left = observationDigest sha256 right ↔ left = right := by
  constructor
  · intro same
    have texts := String.ofList_injective (apart.injective same)
    exact render_injective readable readable' texts
  · intro same
    rw [same]

def textList (items : List String) : Shape :=
  .list (items.map .text)

def optionalText (name : String) (value : Option String) : List (String × Shape) :=
  value.toList.map fun value => (name, .text value)

@[simp] theorem textList_inj {left right : List String} :
    textList left = textList right ↔ left = right := by
  rw [textList, textList, Shape.list.injEq]
  exact (List.map_injective_iff.mpr fun _ _ => Shape.text.inj).eq_iff

theorem textList_readable (items : List String) : (textList items).Readable := by
  have readable : ReadableItems (items.map Shape.text) := by
    induction items with
    | nil => trivial
    | cons first rest ih => exact ⟨trivial, ih⟩
  refine ⟨?_, readable⟩
  intro item single blank
  subst blank
  have member : Shape.blank ∈ items.map Shape.text := by
    rw [single]
    exact List.mem_singleton_self _
  simp at member

structure ModelDelivery where
  modelRequestId : String
  bindingIds : List String
  imageDeliveryId : Option String
  fencingToken : String
  deriving Repr, DecidableEq

def ModelDelivery.document (delivery : ModelDelivery) : Shape :=
  .table <|
    [("bindingIds", textList delivery.bindingIds), ("fencingToken", .text delivery.fencingToken)] ++
      optionalText "imageDeliveryId" delivery.imageDeliveryId ++
      [("modelRequestId", .text delivery.modelRequestId)]

def ReviewVerdict.name : ReviewVerdict → String
  | .equivalent => "EQUIVALENT"
  | .different => "DIFFERENT"
  | .unknown => "UNKNOWN"

structure ComparisonInput where
  supersedesReviewId : Option String := none
  comparisonId : String
  bindingIds : String × String
  deliveryId : String
  verdict : ReviewVerdict
  rationale : String
  dimensions : List String
  deriving Repr, DecidableEq

structure ComparisonReview extends ComparisonInput where
  id : String
  criterionId : String
  contractDigest : String
  deriving Repr, DecidableEq

def ComparisonInput.document (input : ComparisonInput) : Shape :=
  .table <|
    [("bindingIds", textList [input.bindingIds.1, input.bindingIds.2]),
      ("comparisonId", .text input.comparisonId), ("deliveryId", .text input.deliveryId),
      ("dimensions", textList input.dimensions), ("rationale", .text input.rationale)] ++
    optionalText "supersedesReviewId" input.supersedesReviewId ++
    [("verdict", .text input.verdict.name)]

def ComparisonReview.document (review : ComparisonReview) : Shape :=
  .table <|
    [("bindingIds", textList [review.bindingIds.1, review.bindingIds.2]),
      ("comparisonId", .text review.comparisonId), ("contractDigest", .text review.contractDigest),
      ("criterionId", .text review.criterionId), ("deliveryId", .text review.deliveryId),
      ("dimensions", textList review.dimensions), ("id", .text review.id),
      ("rationale", .text review.rationale)] ++
    optionalText "supersedesReviewId" review.supersedesReviewId ++
    [("verdict", .text review.verdict.name)]

theorem ReviewVerdict.name_injective {left right : ReviewVerdict} (same : left.name = right.name) :
    left = right := by
  cases left <;> cases right <;> simp_all [ReviewVerdict.name]

theorem optionalText_append_inj {name last : String} {value value' : Option String}
    {text text' : String} :
    optionalText name value ++ [(last, Shape.text text)] =
        optionalText name value' ++ [(last, Shape.text text')] ↔
      value = value' ∧ text = text' := by
  cases value <;> cases value' <;> simp [optionalText]

theorem readable_append {first second : List (String × Shape)} (here : ReadableMembers first)
    (there : ReadableMembers second) : ReadableMembers (first ++ second) := by
  induction first with
  | nil => exact there
  | cons entry rest ih => exact ⟨here.1, here.2.1, ih here.2.2⟩

theorem ending_readable (name last text : String) (value : Option String) :
    ReadableMembers (optionalText name value ++ [(last, .text text)]) := by
  cases value <;> simp [optionalText, ReadableMembers, Shape.Readable]

theorem textMember_readable (name text : String) : ReadableMembers [(name, .text text)] :=
  ⟨Shape.noConfusion, trivial, trivial⟩

theorem listMember_readable (name : String) (items : List String) :
    ReadableMembers [(name, textList items)] :=
  ⟨Shape.noConfusion, textList_readable items, trivial⟩

namespace ModelDelivery

theorem document_readable (delivery : ModelDelivery) : delivery.document.Readable := by
  unfold document
  rw [List.append_assoc]
  refine readable_append (readable_append (listMember_readable _ _) (textMember_readable _ _)) ?_
  exact ending_readable _ _ _ _

theorem document_inj {left right : ModelDelivery} :
    left.document = right.document ↔ left = right := by
  refine ⟨fun same => ?_, fun same => by rw [same]⟩
  simp only [document, Shape.table.injEq, List.cons_append, List.nil_append, List.cons.injEq,
    Prod.mk.injEq, true_and, Shape.text.injEq, optionalText_append_inj, textList_inj] at same
  obtain ⟨ids, fence, image, request⟩ := same
  cases left
  cases right
  simp_all

end ModelDelivery

namespace ComparisonInput

theorem document_readable (input : ComparisonInput) : input.document.Readable := by
  rw [document, List.append_assoc, Shape.Readable]
  refine readable_append ?_ (ending_readable _ _ _ _)
  exact readable_append (listMember_readable _ _) (readable_append (textMember_readable _ _)
    (readable_append (textMember_readable _ _) (readable_append (listMember_readable _ _)
      (textMember_readable _ _))))

theorem document_inj {left right : ComparisonInput} :
    left.document = right.document ↔ left = right := by
  refine ⟨fun same => ?_, fun same => by rw [same]⟩
  simp only [document, Shape.table.injEq, List.cons_append, List.nil_append, List.cons.injEq,
    Prod.mk.injEq, true_and, and_true, Shape.text.injEq, optionalText_append_inj,
    textList_inj] at same
  obtain ⟨ids, comparison, delivery, dimensions, rationale, superseded, verdict⟩ := same
  have pair := Prod.ext ids.1 ids.2
  have judged := ReviewVerdict.name_injective verdict
  cases left
  cases right
  simp_all

end ComparisonInput

namespace ComparisonReview

theorem document_readable (review : ComparisonReview) : review.document.Readable := by
  rw [document, List.append_assoc, Shape.Readable]
  refine readable_append ?_ (ending_readable _ _ _ _)
  exact readable_append (listMember_readable _ _) (readable_append (textMember_readable _ _)
    (readable_append (textMember_readable _ _) (readable_append (textMember_readable _ _)
      (readable_append (textMember_readable _ _) (readable_append (listMember_readable _ _)
        (readable_append (textMember_readable _ _) (textMember_readable _ _)))))))

theorem document_inj {left right : ComparisonReview} :
    left.document = right.document ↔ left = right := by
  refine ⟨fun same => ?_, fun same => by rw [same]⟩
  simp only [document, Shape.table.injEq, List.cons_append, List.nil_append, List.cons.injEq,
    Prod.mk.injEq, true_and, and_true, Shape.text.injEq, optionalText_append_inj,
    textList_inj] at same
  obtain ⟨ids, comparison, contract, criterion, delivery, dimensions, id, rationale, superseded,
    verdict⟩ := same
  have pair := Prod.ext ids.1 ids.2
  have judged := ReviewVerdict.name_injective verdict
  obtain ⟨input, _, _, _⟩ := left
  obtain ⟨input', _, _, _⟩ := right
  cases input
  cases input'
  simp_all

end ComparisonReview

end Devproof
