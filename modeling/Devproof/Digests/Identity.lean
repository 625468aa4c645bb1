import Devproof.Digests.Document
import Devproof.Digests.MemberOrder

/-!
What the canonical text tells about a value.  Values with one document are the
same where no names are tied and no array has holes; anywhere else there is a
value that the text confuses with it, or does not recognise.
-/

namespace Devproof

section Locale

variable {locale : Locale}

theorem map_entries_perm {α β : Type} {view : String × α → String × β}
    (named : ∀ entry, (view entry).1 = entry.1) {left right : List (String × α)}
    (distinct : (left.map Prod.fst).Nodup) (others : (right.map Prod.fst).Nodup) :
    (left.map view).Perm (right.map view) ↔
      (∀ entry ∈ left, ∃ other ∈ right, other.1 = entry.1 ∧ (view entry).2 = (view other).2) ∧
      ∀ entry ∈ right, ∃ known ∈ left, known.1 = entry.1 := by
  have names : ∀ entries : List (String × α), (entries.map Prod.fst).Nodup →
      (entries.map view).Nodup := by
    intro entries unrepeated
    refine List.Nodup.of_map Prod.fst ?_
    rw [List.map_map]
    simpa [Function.comp_def, named] using unrepeated
  rw [List.perm_ext_iff_of_nodup (names left distinct) (names right others)]
  constructor
  · intro same
    constructor
    · intro entry member
      obtain ⟨other, inside, equal⟩ :=
        List.mem_map.mp ((same (view entry)).mp (List.mem_map_of_mem member))
      exact ⟨other, inside, by rw [← named other, equal, named], by rw [equal]⟩
    · intro entry member
      obtain ⟨known, inside, equal⟩ :=
        List.mem_map.mp ((same (view entry)).mpr (List.mem_map_of_mem member))
      exact ⟨known, inside, by rw [← named known, equal, named]⟩
  · rintro ⟨found, known⟩ image
    constructor
    · intro member
      obtain ⟨entry, inside, rfl⟩ := List.mem_map.mp member
      obtain ⟨other, listed, name, value⟩ := found entry inside
      refine List.mem_map.mpr ⟨other, listed, ?_⟩
      exact Prod.ext (by rw [named, named, name]) value.symm
    · intro member
      obtain ⟨entry, inside, rfl⟩ := List.mem_map.mp member
      obtain ⟨source, listed, name⟩ := known entry inside
      obtain ⟨other, here, same, value⟩ := found source listed
      have one : other = entry :=
        List.inj_on_of_nodup_map others here inside (same.trans name)
      subst one
      refine List.mem_map.mpr ⟨source, listed, ?_⟩
      exact Prod.ext (by rw [named, named, name]) value

theorem present_sublist (members : List (String × JsValue)) :
    (present members).Sublist members := List.filter_sublist

theorem present_distinct {members : List (String × JsValue)}
    (distinct : (members.map Prod.fst).Nodup) : ((present members).map Prod.fst).Nodup :=
  distinct.sublist ((present_sublist members).map Prod.fst)

theorem memberShapes_perm_iff {left right : List (String × JsValue)}
    (distinct : (left.map Prod.fst).Nodup) (others : (right.map Prod.fst).Nodup) :
    (memberShapes locale left).Perm (memberShapes locale right) ↔
      (∀ entry ∈ present left, ∃ other, (entry.1, other) ∈ present right ∧
        shape locale entry.2 = shape locale other) ∧
      ∀ entry ∈ present right, ∃ known ∈ present left, known.1 = entry.1 := by
  have named : ∀ entry, (shapeEntry locale entry).1 = entry.1 := fun _ => rfl
  rw [memberShapes_eq, memberShapes_eq,
    map_entries_perm named (present_distinct distinct) (present_distinct others)]
  refine and_congr ?_ Iff.rfl
  refine forall₂_congr fun entry _ => ?_
  constructor
  · rintro ⟨⟨name, other⟩, member, rfl, same⟩
    exact ⟨other, member, same⟩
  · rintro ⟨other, member, same⟩
    exact ⟨(entry.1, other), member, rfl, same⟩

theorem listed_memberShapes {members : List (String × JsValue)}
    (valid : (JsValue.obj members).valid = true) : Listed (memberShapes locale members) := by
  obtain ⟨⟨-, listed⟩, -⟩ := valid_obj_iff.mp valid
  rw [memberShapes_eq]
  exact List.pairwise_map.mpr ((List.pairwise_map.mp listed).sublist (present_sublist members))

theorem apart_memberShapes {members : List (String × JsValue)}
    (apart : untied locale (.obj members) = true) :
    Apart locale (memberShapes locale members) := by
  rw [memberShapes_eq]
  exact List.pairwise_map.mpr (of_decide_eq_true apart)

theorem map_eq_map_iff_forall₂ {α β : Type} {view : α → β} {left right : List α} :
    left.map view = right.map view ↔
      List.Forall₂ (fun first second => view first = view second) left right := by
  rw [← List.forall₂_eq_eq_eq, List.forall₂_map_left_iff, List.forall₂_map_right_iff]

theorem closed_eq_self {items : List Shape} (filled : items ≠ [.blank]) : closed items = items := by
  unfold closed
  split
  · exact absurd rfl filled
  · rfl

/-- Closing tells two lists apart unless one of them is a hole and the other is empty. -/
theorem closed_eq_iff {left right : List Shape}
    (first : left = [.blank] → right ≠ []) (second : right = [.blank] → left ≠ []) :
    closed left = closed right ↔ left = right := by
  constructor
  · intro same
    by_cases hole : left = [.blank]
    · by_cases other : right = [.blank]
      · rw [hole, other]
      · subst hole
        rw [closed_eq_self other] at same
        exact absurd same.symm (first rfl)
    · rw [closed_eq_self hole] at same
      by_cases other : right = [.blank]
      · subst other
        exact absurd same (second rfl)
      · rwa [closed_eq_self other] at same
  · rintro rfl
    rfl

theorem shapes_hole_iff {items : List JsValue} :
    shapes locale items = [.blank] ↔ items = [.undefined] := by
  rw [shapes_eq, List.map_eq_singleton_iff]
  constructor
  · rintro ⟨item, rfl, blank⟩
    rw [(shape_eq_blank locale).mp blank]
  · rintro rfl
    exact ⟨.undefined, rfl, rfl⟩

theorem shapes_bare_iff {items : List JsValue} : shapes locale items = [] ↔ items = [] := by
  rw [shapes_eq, List.map_eq_nil_iff]

theorem isHole_arr {items : List JsValue} : isHole (.arr items) = true ↔ items = [.undefined] := by
  unfold isHole
  split
  · simp_all
  · simp_all

theorem isBare_arr {items : List JsValue} : isBare (.arr items) = true ↔ items = [] := by
  cases items <;> simp [isBare]

/-! Numbers are told from the other words. -/

theorem number_ne (numbers : NumberTexts locale.formatNumber) (value : Rat) {word : String}
    (letters : ∀ char ∈ word.toList.head?, char.isDigit = false ∧ char ≠ '-') :
    (locale.formatNumber value).toList ≠ word.toList := by
  intro same
  obtain ⟨filled, -⟩ := numbers.word value
  obtain ⟨char, rest, text⟩ := List.exists_cons_of_ne_nil filled
  have first : char ∈ (locale.formatNumber value).toList.head? := by rw [text]; rfl
  obtain ⟨noDigit, noSign⟩ := letters char (same ▸ first)
  rcases numbers.digits value char first with digit | sign
  · rw [digit] at noDigit
    cases noDigit
  · exact noSign sign

theorem number_ne_null (numbers : NumberTexts locale.formatNumber) (value : Rat) :
    (locale.formatNumber value).toList ≠ "null".toList := by
  refine number_ne numbers value fun char member => ?_
  cases member
  decide

theorem number_ne_true (numbers : NumberTexts locale.formatNumber) (value : Rat) :
    (locale.formatNumber value).toList ≠ "true".toList := by
  refine number_ne numbers value fun char member => ?_
  cases member
  decide

theorem number_ne_false (numbers : NumberTexts locale.formatNumber) (value : Rat) :
    (locale.formatNumber value).toList ≠ "false".toList := by
  refine number_ne numbers value fun char member => ?_
  cases member
  decide

theorem formatNumber_eq_iff (numbers : NumberTexts locale.formatNumber) {left right : Rat}
    (first : (JsValue.num left).valid = true) (second : (JsValue.num right).valid = true) :
    (locale.formatNumber left).toList = (locale.formatNumber right).toList ↔ left = right := by
  rw [String.toList_inj]
  constructor
  · exact numbers.injective left right (by simpa [JsValue.valid, everywhere, wellFormed] using first)
      (by simpa [JsValue.valid, everywhere, wellFormed] using second)
  · rintro rfl
    rfl

theorem shape_arr_eq_iff {left right : List JsValue}
    (apart : left = [.undefined] → right ≠ []) (unlike : right = [.undefined] → left ≠ []) :
    shape locale (.arr left) = shape locale (.arr right) ↔
      List.Forall₂ (fun first second => shape locale first = shape locale second) left right := by
  rw [shape, shape, Shape.list.injEq, closed_eq_iff, shapes_eq, shapes_eq, map_eq_map_iff_forall₂]
  · exact fun hole bare => apart (shapes_hole_iff.mp hole) (shapes_bare_iff.mp bare)
  · exact fun hole bare => unlike (shapes_hole_iff.mp hole) (shapes_bare_iff.mp bare)

theorem forall₂_congr_left {α β : Type} {first second : α → β → Prop} {left : List α}
    {right : List β} (same : ∀ item ∈ left, ∀ other ∈ right, first item other ↔ second item other) :
    List.Forall₂ first left right ↔ List.Forall₂ second left right := by
  induction left generalizing right with
  | nil => cases right <;> simp
  | cons item rest ih =>
      cases right with
      | nil => simp
      | cons other others =>
          rw [List.forall₂_cons, List.forall₂_cons, same item (by simp) other (by simp)]
          refine and_congr_right fun _ => ih fun next member after inside => ?_
          exact same next (List.mem_cons_of_mem _ member) after (List.mem_cons_of_mem _ inside)

theorem JsValue.separable_iff {value : JsValue} :
    value.separable locale = true ↔
      everywhere (untied locale) value = true ∧
        everywhere (fun value => !isHole value) value = true := by
  rw [JsValue.separable, Bool.and_eq_true]

theorem separable_arr {items : List JsValue}
    (separable : (JsValue.arr items).separable locale = true) :
    items ≠ [.undefined] ∧ ∀ item ∈ items, item.separable locale = true := by
  obtain ⟨apart, filled⟩ := JsValue.separable_iff.mp separable
  obtain ⟨here, below⟩ := everywhere_arr_iff.mp filled
  refine ⟨fun hole => by simp [isHole_arr.mpr hole] at here, fun item member => ?_⟩
  exact JsValue.separable_iff.mpr
    ⟨(everywhere_arr_iff.mp apart).2 item member, below item member⟩

theorem separable_obj {members : List (String × JsValue)}
    (separable : (JsValue.obj members).separable locale = true) :
    untied locale (.obj members) = true ∧
      ∀ entry ∈ members, entry.2.separable locale = true := by
  obtain ⟨apart, filled⟩ := JsValue.separable_iff.mp separable
  obtain ⟨here, below⟩ := everywhere_obj_iff.mp apart
  refine ⟨here, fun entry member => ?_⟩
  exact JsValue.separable_iff.mpr
    ⟨below entry member, (everywhere_obj_iff.mp filled).2 entry member⟩

section Texts

variable (ordered : TotalPreorder locale.localeCompare)
variable (numbers : NumberTexts locale.formatNumber)

include ordered in
theorem shape_obj_eq_iff {left right : List (String × JsValue)}
    (first : (JsValue.obj left).valid = true) (second : (JsValue.obj right).valid = true)
    (apart : untied locale (.obj left) = true) :
    shape locale (.obj left) = shape locale (.obj right) ↔
      (∀ entry ∈ present left, ∃ other, (entry.1, other) ∈ present right ∧
        shape locale entry.2 = shape locale other) ∧
      ∀ entry ∈ present right, ∃ known ∈ present left, known.1 = entry.1 := by
  rw [shape, shape, Shape.table.injEq, sortMembers_eq_iff ordered (apart_memberShapes apart)
    (listed_memberShapes first) (listed_memberShapes second),
    memberShapes_perm_iff (valid_obj_iff.mp first).1.1 (valid_obj_iff.mp second).1.1]

include ordered numbers in
theorem shape_eq_iff {left right : JsValue} (first : left.valid = true)
    (second : right.valid = true) (separable : left.separable locale = true)
    (unlike : everywhere (fun value => !isBare value) left = true ∨
      everywhere (fun value => !isHole value) right = true) :
    shape locale left = shape locale right ↔ sameValue left right = true := by
  induction left using JsValue.induct generalizing right with
  | undefined =>
      cases right with
      | bool flag => cases flag <;> simp [shape, sameValue]
      | _ => simp [shape, sameValue]
  | null =>
      cases right with
      | bool flag => cases flag <;> simp [shape, sameValue]
      | num value => simpa [shape, sameValue] using (number_ne_null numbers value).symm
      | _ => simp [shape, sameValue]
  | bool flag =>
      cases right with
      | bool other => cases flag <;> cases other <;> simp [shape, sameValue]
      | num value =>
          cases flag
          · simpa [shape, sameValue] using (number_ne_false numbers value).symm
          · simpa [shape, sameValue] using (number_ne_true numbers value).symm
      | _ => cases flag <;> simp [shape, sameValue]
  | num value =>
      cases right with
      | null => simpa [shape, sameValue] using number_ne_null numbers value
      | bool flag =>
          cases flag
          · simpa [shape, sameValue] using number_ne_false numbers value
          · simpa [shape, sameValue] using number_ne_true numbers value
      | num other =>
          rw [shape, shape, Shape.word.injEq, formatNumber_eq_iff numbers first second, sameValue,
            beq_iff_eq]
      | _ => simp [shape, sameValue]
  | str value =>
      cases right with
      | bool flag => cases flag <;> simp [shape, sameValue]
      | _ => simp [shape, sameValue]
  | arr items ih =>
      cases right with
      | bool flag => cases flag <;> simp [shape, sameValue]
      | arr others =>
          obtain ⟨filled, below⟩ := separable_arr separable
          have open' : others = [.undefined] → items ≠ [] := by
            rintro rfl rfl
            rcases unlike with clear | clear
            · exact absurd clear (by decide)
            · exact absurd clear (by decide)
          rw [shape_arr_eq_iff (fun hole => absurd hole filled) open', sameValue, sameItems_iff]
          refine forall₂_congr_left fun item member other inside => ?_
          exact ih item member (valid_arr_iff.mp first item member)
            (valid_arr_iff.mp second other inside) (below item member)
            (unlike.imp (fun clear => (everywhere_arr_iff.mp clear).2 item member)
              fun clear => (everywhere_arr_iff.mp clear).2 other inside)
      | _ => simp [shape, sameValue]
  | obj members ih =>
      cases right with
      | bool flag => cases flag <;> simp [shape, sameValue]
      | obj others =>
          obtain ⟨apart, below⟩ := separable_obj separable
          rw [shape_obj_eq_iff ordered first second apart,
            sameValue_obj_iff (valid_obj_iff.mp second).1.1]
          refine and_congr_left fun _ => forall₂_congr fun entry member => ?_
          have inside := (mem_present.mp member).1
          refine exists_congr fun other => and_congr_right fun here => ?_
          have there := (mem_present.mp here).1
          exact ih entry inside ((valid_obj_iff.mp first).2 entry inside)
            ((valid_obj_iff.mp second).2 _ there) (below entry inside)
            (unlike.imp (fun clear => (everywhere_obj_iff.mp clear).2 entry inside)
              fun clear => (everywhere_obj_iff.mp clear).2 _ there)
      | _ => simp [shape, sameValue]

end Texts

end Locale

end Devproof
