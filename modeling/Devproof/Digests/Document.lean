import Devproof.Digests.CanonicalJson

/-!
The document of a value.  Its text is the canonical text, and two values have
one text when they have one document.
-/

namespace Devproof

def closed : List Shape → List Shape
  | [.blank] => []
  | items => items

section Locale

variable (locale : Locale)

mutual
def shape : JsValue → Shape
  | .undefined => .blank
  | .null => .word "null".toList
  | .bool true => .word "true".toList
  | .bool false => .word "false".toList
  | .num value => .word (locale.formatNumber value).toList
  | .str value => .text value
  | .arr items => .list (closed (shapes items))
  | .obj members => .table (sortMembers locale (memberShapes members))

def shapes : List JsValue → List Shape
  | [] => []
  | item :: rest => shape item :: shapes rest

def memberShapes : List (String × JsValue) → List (String × Shape)
  | [] => []
  | (name, value) :: rest =>
      if value.isUndefined then memberShapes rest else (name, shape value) :: memberShapes rest
end

/-! The definitions, on lists as a whole. -/

theorem shapes_eq (items : List JsValue) : shapes locale items = items.map (shape locale) := by
  induction items with
  | nil => rfl
  | cons item rest ih => rw [shapes, ih, List.map_cons]

def shapeEntry (entry : String × JsValue) : String × Shape := (entry.1, shape locale entry.2)

theorem memberShapes_eq (members : List (String × JsValue)) :
    memberShapes locale members = (present members).map (shapeEntry locale) := by
  induction members with
  | nil => rfl
  | cons entry rest ih =>
      obtain ⟨name, value⟩ := entry
      rw [memberShapes, ih]
      cases hidden : value.isUndefined with
      | true => simp [present, hidden]
      | false => simp [present, hidden, shapeEntry]

theorem itemTexts_eq (items : List JsValue) :
    itemTexts locale items = items.map fun item => (canonicalText locale item).getD [] := by
  induction items with
  | nil => rfl
  | cons item rest ih => rw [itemTexts, ih, List.map_cons]

theorem shape_eq_blank {value : JsValue} : shape locale value = .blank ↔ value = .undefined := by
  cases value with
  | bool flag => cases flag <;> simp [shape]
  | _ => simp [shape]

theorem renderList_eq (items : List Shape) :
    renderList items = [','].intercalate (items.map Shape.render) ++ [']'] := by
  induction items with
  | nil => rfl
  | cons item rest ih =>
      cases rest with
      | nil => simp [renderList]
      | cons next others =>
          rw [renderList, ih]
          simp only [List.map_cons, List.intercalate_cons_cons, List.append_assoc,
            List.nil_append, List.cons_append]

theorem renderList_closed (items : List Shape) : renderList (closed items) = renderList items := by
  unfold closed
  split
  · rfl
  · rfl

theorem renderTable_eq (members : List (String × Shape)) :
    renderTable members =
      [','].intercalate (members.map fun entry => memberText (entry.1, entry.2.render)) ++
        ['\x7d'] := by
  induction members with
  | nil => rfl
  | cons entry rest ih =>
      obtain ⟨name, value⟩ := entry
      cases rest with
      | nil => simp [renderTable, memberText]
      | cons next others =>
          rw [renderTable, ih]
          simp only [List.map_cons, List.intercalate_cons_cons, List.append_assoc,
            List.nil_append, List.cons_append, memberText]

theorem sortMembers_map {α β : Type} (view : α → β) (entries : List (String × α)) :
    (sortMembers locale entries).map (fun entry => (entry.1, view entry.2)) =
      sortMembers locale (entries.map fun entry => (entry.1, view entry.2)) :=
  List.map_insertionSort _ _ _ entries fun _ _ _ _ => Iff.rfl

theorem memberTexts_eq {members : List (String × JsValue)}
    (texts : ∀ entry ∈ members, canonicalText locale entry.2 =
      if entry.2.isUndefined then none else some (shape locale entry.2).render) :
    memberTexts locale members =
      (memberShapes locale members).map fun entry => (entry.1, entry.2.render) := by
  induction members with
  | nil => rfl
  | cons entry rest ih =>
      obtain ⟨name, value⟩ := entry
      have here := texts (name, value) (List.mem_cons_self ..)
      have later := ih fun entry member => texts entry (List.mem_cons_of_mem _ member)
      rw [memberTexts, memberShapes, here]
      cases hidden : value.isUndefined with
      | true => simpa using later
      | false => simp [later]

theorem canonicalText_eq (value : JsValue) :
    canonicalText locale value =
      if value.isUndefined then none else some (shape locale value).render := by
  induction value using JsValue.induct with
  | undefined => rfl
  | null => rfl
  | bool flag => cases flag <;> rfl
  | num value => rfl
  | str value => rfl
  | arr items texts =>
      have same : items.map (fun item => (canonicalText locale item).getD []) =
          (items.map (shape locale)).map Shape.render := by
        rw [List.map_map]
        apply List.map_congr_left
        intro item member
        rw [texts item member]
        cases hidden : item.isUndefined with
        | true =>
            rw [JsValue.isUndefined_iff.mp hidden]
            rfl
        | false => rfl
      rw [canonicalText, itemTexts_eq, same, ← renderList_eq, ← shapes_eq, ← renderList_closed]
      rfl
  | obj members texts =>
      rw [canonicalText, memberTexts_eq locale texts, ← sortMembers_map, List.map_map]
      simp only [shape, Shape.render, renderTable_eq]
      rfl

theorem isWord_of_plain {text : List Char} (nonempty : text ≠ [])
    (plain : text.all isWordChar = true) : IsWord text :=
  ⟨nonempty, List.all_eq_true.mp plain⟩

theorem readableItems_iff {items : List Shape} :
    ReadableItems items ↔ ∀ item ∈ items, item.Readable := by
  induction items with
  | nil => simp [ReadableItems]
  | cons item rest ih => simp [ReadableItems, ih]

theorem readableMembers_iff {members : List (String × Shape)} :
    ReadableMembers members ↔ ∀ entry ∈ members, entry.2 ≠ .blank ∧ entry.2.Readable := by
  induction members with
  | nil => simp [ReadableMembers]
  | cons entry rest ih => simp [ReadableMembers, ih, and_assoc]

theorem mem_sortMembers {α : Type} {entries : List (String × α)} {entry : String × α} :
    entry ∈ sortMembers locale entries ↔ entry ∈ entries :=
  List.mem_insertionSort _

theorem closed_single {items : List Shape} {item : Shape} (single : closed items = [item]) :
    item ≠ .blank ∧ items = [item] := by
  unfold closed at single
  split at single
  · cases single
  · rename_i other
    refine ⟨?_, single⟩
    rintro rfl
    exact other single

theorem mem_closed {items : List Shape} {item : Shape} (member : item ∈ closed items) :
    item ∈ items := by
  unfold closed at member
  split at member
  · cases member
  · exact member

variable {locale}

theorem shape_readable (numbers : NumberTexts locale.formatNumber) (value : JsValue) :
    (shape locale value).Readable := by
  induction value using JsValue.induct with
  | undefined => trivial
  | null => exact isWord_of_plain (by decide) (by decide)
  | bool flag =>
      cases flag
      · exact isWord_of_plain (by decide) (by decide)
      · exact isWord_of_plain (by decide) (by decide)
  | num value => exact numbers.word value
  | str value => trivial
  | arr items readable =>
      rw [shape, Shape.Readable, readableItems_iff, shapes_eq]
      constructor
      · intro item single
        exact (closed_single single).1
      · intro item member
        obtain ⟨source, listed, rfl⟩ := List.mem_map.mp (mem_closed member)
        exact readable source listed
  | obj members readable =>
      rw [shape, Shape.Readable, readableMembers_iff, memberShapes_eq]
      intro entry member
      obtain ⟨source, listed, rfl⟩ := List.mem_map.mp ((mem_sortMembers locale).mp member)
      obtain ⟨inside, defined⟩ := mem_present.mp listed
      exact ⟨(shape_eq_blank locale).not.mpr defined, readable source inside⟩

theorem canonicalJson_eq_iff (numbers : NumberTexts locale.formatNumber) {left right : JsValue} :
    canonicalJson locale left = canonicalJson locale right ↔
      shape locale left = shape locale right := by
  have blank : ∀ value : JsValue, value.isUndefined = true ↔ shape locale value = .blank := by
    intro value
    rw [JsValue.isUndefined_iff, shape_eq_blank]
  constructor
  · intro same
    have texts : canonicalText locale left = canonicalText locale right :=
      Option.map_injective (fun _ _ equal => String.ofList_injective equal) same
    rw [canonicalText_eq, canonicalText_eq] at texts
    cases first : left.isUndefined with
    | true =>
        cases second : right.isUndefined with
        | true => rw [(blank left).mp first, (blank right).mp second]
        | false => simp [first, second] at texts
    | false =>
        cases second : right.isUndefined with
        | true => simp [first, second] at texts
        | false =>
            simp only [first, second, Bool.false_eq_true, if_false, Option.some.injEq] at texts
            exact render_injective (shape_readable numbers left) (shape_readable numbers right) texts
  · intro same
    have defined : left.isUndefined = right.isUndefined := by
      rw [Bool.eq_iff_iff, blank, blank, same]
    rw [canonicalJson, canonicalJson, canonicalText_eq, canonicalText_eq, same, defined]

end Locale

/-! Equality up to order, on lists as a whole. -/

theorem sameItems_iff {left right : List JsValue} :
    sameItems left right = true ↔
      List.Forall₂ (fun first second => sameValue first second = true) left right := by
  induction left generalizing right with
  | nil => cases right <;> simp [sameItems]
  | cons item rest ih => cases right <;> simp [sameItems, ih]

/-- A name finds the one member that has it. -/
theorem lookup_eq_some_iff {members : List (String × JsValue)} {name : String} {value : JsValue}
    (distinct : (members.map Prod.fst).Nodup) :
    members.lookup name = some value ↔ (name, value) ∈ members := by
  induction members with
  | nil => simp
  | cons entry rest ih =>
      obtain ⟨known, first⟩ := entry
      rw [List.map_cons, List.nodup_cons] at distinct
      by_cases same : name = known
      · subst same
        have absent : (name, value) ∉ rest := fun member =>
          distinct.1 (List.mem_map.mpr ⟨_, member, rfl⟩)
        simp [absent, eq_comm]
      · have unlike : (name == known) = false := by simpa using same
        simp [List.lookup_cons, unlike, same, ih distinct.2]

theorem sameValue_undefined {left right : JsValue} (same : sameValue left right = true) :
    left = .undefined ↔ right = .undefined := by
  cases left <;> cases right <;> simp_all [sameValue]

theorem sameMembers_iff {left right : List (String × JsValue)}
    (distinct : (right.map Prod.fst).Nodup) :
    sameMembers left right = true ↔
      ∀ entry ∈ present left, ∃ other, (entry.1, other) ∈ present right ∧
        sameValue entry.2 other = true := by
  have found : ∀ name value, value ≠ .undefined →
      ((right.lookup name).any (sameValue value) = true ↔
        ∃ other, (name, other) ∈ present right ∧ sameValue value other = true) := by
    intro name value defined
    constructor
    · intro same
      cases here : right.lookup name with
      | none => simp [here] at same
      | some other =>
          rw [here] at same
          exact ⟨other, mem_present.mpr ⟨(lookup_eq_some_iff distinct).mp here,
            (sameValue_undefined same).not.mp defined⟩, same⟩
    · rintro ⟨other, member, same⟩
      rw [(lookup_eq_some_iff distinct).mpr (mem_present.mp member).1]
      exact same
  induction left with
  | nil => simp [sameMembers, present]
  | cons entry rest ih =>
      obtain ⟨name, value⟩ := entry
      rw [sameMembers, Bool.and_eq_true, present, List.filter_cons]
      cases hidden : value.isUndefined with
      | true =>
          simp only [Bool.true_or, Bool.not_true, Bool.false_eq_true, if_false, true_and]
          exact ih
      | false =>
          simp only [Bool.false_or, Bool.not_false, if_true, List.forall_mem_cons]
          refine and_congr (Iff.trans ?_ (found name value (JsValue.isUndefined_false_iff.mp hidden)))
            ih
          cases right.lookup name <;> rfl

theorem sameValue_obj_iff {left right : List (String × JsValue)}
    (distinct : (right.map Prod.fst).Nodup) :
    sameValue (.obj left) (.obj right) = true ↔
      (∀ entry ∈ present left, ∃ other, (entry.1, other) ∈ present right ∧
        sameValue entry.2 other = true) ∧
      ∀ entry ∈ present right, ∃ known ∈ present left, known.1 = entry.1 := by
  rw [sameValue, Bool.and_eq_true, sameMembers_iff distinct]
  simp only [List.all_eq_true, List.any_eq_true, beq_iff_eq]

theorem everyItem_iff {test : JsValue → Bool} {items : List JsValue} :
    everyItem test items = true ↔ ∀ item ∈ items, everywhere test item = true := by
  induction items with
  | nil => simp [everyItem]
  | cons item rest ih => simp [everyItem, ih]

theorem everyMember_iff {test : JsValue → Bool} {members : List (String × JsValue)} :
    everyMember test members = true ↔ ∀ entry ∈ members, everywhere test entry.2 = true := by
  induction members with
  | nil => simp [everyMember]
  | cons entry rest ih => simp [everyMember, ih]

theorem everywhere_arr_iff {test : JsValue → Bool} {items : List JsValue} :
    everywhere test (.arr items) = true ↔
      test (.arr items) = true ∧ ∀ item ∈ items, everywhere test item = true := by
  rw [everywhere, Bool.and_eq_true, everyItem_iff]

theorem everywhere_obj_iff {test : JsValue → Bool} {members : List (String × JsValue)} :
    everywhere test (.obj members) = true ↔
      test (.obj members) = true ∧ ∀ entry ∈ members, everywhere test entry.2 = true := by
  rw [everywhere, Bool.and_eq_true, everyMember_iff]

theorem valid_obj_iff {members : List (String × JsValue)} :
    (JsValue.obj members).valid = true ↔
      ((members.map Prod.fst).Nodup ∧
        (members.map Prod.fst).Pairwise fun left right => listedBefore left right = true) ∧
      ∀ entry ∈ members, entry.2.valid = true := by
  rw [JsValue.valid, everywhere_obj_iff, wellFormed, decide_eq_true_eq]
  rfl

theorem valid_arr_iff {items : List JsValue} :
    (JsValue.arr items).valid = true ↔ ∀ item ∈ items, item.valid = true := by
  rw [JsValue.valid, everywhere_arr_iff]
  exact and_iff_right rfl

end Devproof
