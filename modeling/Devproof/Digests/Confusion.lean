import Mathlib.Data.List.Lex
import Mathlib.Data.Rat.Encodable
import Devproof.Digests.SortedJson
import Devproof.Host

/-!
The values that the canonical text gets wrong.  A value whose names are tied
has a like with another text, and an array of a single `undefined` has the
text of an empty one; a value that holds one of these fails with it.
-/

namespace Devproof

/-- A value is the same as itself. -/
theorem sameValue_refl {value : JsValue} (valid : value.valid = true) :
    sameValue value value = true := by
  induction value using JsValue.induct with
  | undefined => rfl
  | null => rfl
  | bool flag => simp [sameValue]
  | num value => simp [sameValue]
  | str value => simp [sameValue]
  | arr items ih =>
      rw [sameValue, sameItems_iff, List.forall₂_same]
      exact fun item member => ih item member (valid_arr_iff.mp valid item member)
  | obj members ih =>
      obtain ⟨⟨distinct, -⟩, below⟩ := valid_obj_iff.mp valid
      rw [sameValue_obj_iff distinct]
      constructor
      · intro entry member
        have inside := (mem_present.mp member).1
        exact ⟨entry.2, member, ih entry inside (below entry inside)⟩
      · exact fun entry member => ⟨entry, member, rfl⟩

section Locale

variable {locale : Locale}

def Confused (locale : Locale) (left right : JsValue) : Prop :=
  right.valid = true ∧ ¬(shape locale left = shape locale right ↔ sameValue left right = true)

/-- Confusion is of two kinds. -/
theorem confused_iff {left right : JsValue} :
    Confused locale left right ↔ right.valid = true ∧
      (shape locale left = shape locale right ∧ sameValue left right = false ∨
        shape locale left ≠ shape locale right ∧ sameValue left right = true) := by
  rw [Confused, ← Bool.not_eq_true]
  tauto

theorem Confused.defined {left right : JsValue} (confused : Confused locale left right) :
    left ≠ .undefined ∧ right ≠ .undefined := by
  obtain ⟨-, wrong⟩ := confused
  have blank := @shape_eq_blank locale left
  have other := @shape_eq_blank locale right
  constructor
  · rintro rfl
    cases right with
    | bool flag => cases flag <;> simp [shape, sameValue] at wrong
    | _ => simp [shape, sameValue] at wrong
  · rintro rfl
    cases left with
    | bool flag => cases flag <;> simp [shape, sameValue] at wrong
    | _ => simp [shape, sameValue] at wrong

theorem forall₂_replace {α : Type} {same : α → α → Prop} {front back : List α} {item other : α}
    (refl : ∀ entry ∈ front ++ back, same entry entry) :
    List.Forall₂ same (front ++ item :: back) (front ++ other :: back) ↔ same item other := by
  induction front with
  | nil =>
      rw [List.nil_append, List.nil_append, List.forall₂_cons, List.forall₂_same]
      exact and_iff_left fun entry member => refl entry member
  | cons head rest ih =>
      rw [List.cons_append, List.cons_append, List.forall₂_cons,
        ih fun entry member => refl entry (List.mem_cons_of_mem _ member)]
      exact and_iff_right (refl head (by simp))

theorem forall_mem_replaced {α : Type} {holds : α → Prop} {front back : List α} {old new : α}
    (whole : ∀ entry ∈ front ++ old :: back, holds entry) (replaced : holds new) :
    ∀ entry ∈ front ++ new :: back, holds entry := by
  obtain ⟨early, late⟩ := List.forall_mem_append.mp whole
  exact List.forall_mem_append.mpr
    ⟨early, List.forall_mem_cons.mpr ⟨replaced, (List.forall_mem_cons.mp late).2⟩⟩

theorem Confused.item {front back : List JsValue} {item other : JsValue}
    (valid : (JsValue.arr (front ++ item :: back)).valid = true)
    (confused : Confused locale item other) :
    Confused locale (.arr (front ++ item :: back)) (.arr (front ++ other :: back)) := by
  have below := valid_arr_iff.mp valid
  refine ⟨valid_arr_iff.mpr (forall_mem_replaced below confused.1), ?_⟩
  have filled : ∀ value : JsValue, front ++ value :: back ≠ [] := by simp
  have refl : ∀ entry ∈ front ++ back, sameValue entry entry = true := by
    intro entry member
    refine sameValue_refl (below entry ?_)
    rcases List.mem_append.mp member with early | late
    · exact List.mem_append_left _ early
    · exact List.mem_append_right _ (List.mem_cons_of_mem _ late)
  have self : ∀ entry ∈ front ++ back, shape locale entry = shape locale entry := fun _ _ => rfl
  rw [shape_arr_eq_iff (fun _ => filled other) (fun _ => filled item), forall₂_replace self,
    sameValue, sameItems_iff, forall₂_replace refl]
  exact confused.2

theorem valid_replace {front back : List (String × JsValue)} {name : String}
    {value other : JsValue}
    (valid : (JsValue.obj (front ++ (name, value) :: back)).valid = true)
    (next : other.valid = true) :
    (JsValue.obj (front ++ (name, other) :: back)).valid = true := by
  obtain ⟨listed, below⟩ := valid_obj_iff.mp valid
  exact valid_obj_iff.mpr ⟨by simpa using listed, forall_mem_replaced below next⟩

theorem present_replace {front back : List (String × JsValue)} {name : String} {value : JsValue}
    (defined : value ≠ .undefined) :
    present (front ++ (name, value) :: back) = present front ++ (name, value) :: present back := by
  simp [present, JsValue.isUndefined_false_iff.mpr defined]

/-- A name stands in one place. -/
theorem eq_of_named {α : Type} {front back : List (String × α)} {name : String} {value other : α}
    (distinct : ((front ++ (name, value) :: back).map Prod.fst).Nodup)
    (member : (name, other) ∈ front ++ (name, value) :: back) : other = value := by
  have here : (name, value) ∈ front ++ (name, value) :: back := by simp
  exact congrArg Prod.snd (List.inj_on_of_nodup_map distinct member here rfl)

theorem shape_obj_replace {front back : List (String × JsValue)} {name : String}
    {value other : JsValue}
    (distinct : ((front ++ (name, other) :: back).map Prod.fst).Nodup)
    (defined : value ≠ .undefined) (known : other ≠ .undefined) :
    shape locale (.obj (front ++ (name, value) :: back)) =
        shape locale (.obj (front ++ (name, other) :: back)) ↔
      shape locale value = shape locale other := by
  rw [shape, shape, Shape.table.injEq, memberShapes_eq, memberShapes_eq, present_replace defined,
    present_replace known, List.map_append, List.map_append, List.map_cons, List.map_cons]
  constructor
  · intro same
    have between := sortMembers_perm locale
      ((present front).map (shapeEntry locale) ++
        shapeEntry locale (name, value) :: (present back).map (shapeEntry locale))
    rw [same] at between
    have moved := (between.symm.trans (sortMembers_perm locale _)).mem_iff.mp
      (List.mem_append_right _ (List.mem_cons_self ..))
    refine eq_of_named ?_ moved
    have names := present_distinct distinct
    rw [present_replace known] at names
    simpa [shapeEntry, Function.comp_def] using names
  · intro same
    rw [shapeEntry, shapeEntry, same]

theorem sameValue_obj_replace {front back : List (String × JsValue)} {name : String}
    {value other : JsValue}
    (valid : (JsValue.obj (front ++ (name, value) :: back)).valid = true)
    (next : (JsValue.obj (front ++ (name, other) :: back)).valid = true)
    (defined : value ≠ .undefined) (known : other ≠ .undefined) :
    sameValue (.obj (front ++ (name, value) :: back))
        (.obj (front ++ (name, other) :: back)) = true ↔ sameValue value other = true := by
  have distinct := (valid_obj_iff.mp next).1.1
  have names := present_distinct distinct
  rw [sameValue_obj_iff distinct, present_replace defined, present_replace known]
  rw [present_replace known] at names
  constructor
  · rintro ⟨found, -⟩
    obtain ⟨like, member, same⟩ := found (name, value) (by simp)
    rwa [eq_of_named names member] at same
  · intro same
    constructor
    · intro entry member
      have kept : entry ∈ present front ++ present back →
          ∃ like, (entry.1, like) ∈ present front ++ (name, other) :: present back ∧
            sameValue entry.2 like = true := by
        intro elsewhere
        refine ⟨entry.2, ?_, sameValue_refl ((valid_obj_iff.mp valid).2 entry ?_)⟩
        · rcases List.mem_append.mp elsewhere with early | late
          · exact List.mem_append_left _ early
          · exact List.mem_append_right _ (List.mem_cons_of_mem _ late)
        · rcases List.mem_append.mp elsewhere with early | late
          · exact List.mem_append_left _ (mem_present.mp early).1
          · exact List.mem_append_right _ (List.mem_cons_of_mem _ (mem_present.mp late).1)
      rcases List.mem_append.mp member with early | late
      · exact kept (List.mem_append_left _ early)
      · rcases List.mem_cons.mp late with rfl | later
        · exact ⟨other, by simp, same⟩
        · exact kept (List.mem_append_right _ later)
    · intro entry member
      rcases List.mem_append.mp member with early | late
      · exact ⟨entry, List.mem_append_left _ early, rfl⟩
      · rcases List.mem_cons.mp late with rfl | later
        · exact ⟨(name, value), by simp, rfl⟩
        · exact ⟨entry, List.mem_append_right _ (List.mem_cons_of_mem _ later), rfl⟩

theorem Confused.member {front back : List (String × JsValue)} {name : String}
    {value other : JsValue}
    (valid : (JsValue.obj (front ++ (name, value) :: back)).valid = true)
    (confused : Confused locale value other) :
    Confused locale (.obj (front ++ (name, value) :: back))
      (.obj (front ++ (name, other) :: back)) := by
  obtain ⟨defined, known⟩ := confused.defined
  have next := valid_replace valid confused.1
  refine ⟨next, ?_⟩
  rw [shape_obj_replace (valid_obj_iff.mp next).1.1 defined known,
    sameValue_obj_replace valid next defined known]
  exact confused.2

theorem confused_hole : Confused locale (.arr [.undefined]) (.arr []) := by
  refine ⟨rfl, ?_⟩
  have apart : sameValue (.arr [.undefined]) (.arr []) ≠ true := by decide
  exact fun same => apart (same.mp rfl)

theorem confused_bare : Confused locale (.arr []) (.arr [.undefined]) := by
  refine ⟨rfl, ?_⟩
  have apart : sameValue (.arr []) (.arr [.undefined]) ≠ true := by decide
  exact fun same => apart (same.mp rfl)

def isFree (entry : String × JsValue) : Bool := (arrayIndex entry.1).isNone

def relisted (members : List (String × JsValue)) : List (String × JsValue) :=
  members.filter (fun entry => !isFree entry) ++ (members.filter isFree).reverse

theorem relisted_perm (members : List (String × JsValue)) :
    (relisted members).Perm members := by
  have reversed := (List.reverse_perm (members.filter isFree)).append_left
    (members.filter fun entry => !isFree entry)
  exact reversed.trans (List.perm_append_comm.trans (List.filter_append_perm isFree members))

theorem relisted_valid {members : List (String × JsValue)}
    (valid : (JsValue.obj members).valid = true) :
    (JsValue.obj (relisted members)).valid = true := by
  obtain ⟨⟨distinct, listed⟩, below⟩ := valid_obj_iff.mp valid
  have same := relisted_perm members
  refine valid_obj_iff.mpr ⟨⟨(same.map Prod.fst).nodup_iff.mpr distinct, ?_⟩,
    fun entry member => below entry (same.mem_iff.mp member)⟩
  refine List.pairwise_map.mpr (List.pairwise_append.mpr ⟨?_, ?_, ?_⟩)
  · exact (List.pairwise_map.mp listed).sublist List.filter_sublist
  · refine List.pairwise_of_forall_mem_list fun entry member other last => ?_
    have free := (List.mem_filter.mp (List.mem_reverse.mp member)).2
    have loose := (List.mem_filter.mp (List.mem_reverse.mp last)).2
    simp only [isFree, Option.isNone_iff_eq_none] at free loose
    simp [listedBefore, free, loose]
  · intro entry member other last
    have free := (List.mem_filter.mp (List.mem_reverse.mp last)).2
    simp only [isFree, Option.isNone_iff_eq_none] at free
    cases index : arrayIndex entry.1 with
    | none => simp [listedBefore, free, index]
    | some _ => simp [listedBefore, free, index]

theorem pair_relisted {members : List (String × JsValue)} {first second : String × JsValue}
    (listed : [first, second].Sublist (present members))
    (tie : tied locale first.1 second.1 = true) :
    [second, first].Sublist (present (relisted members)) := by
  simp only [tied, Bool.and_eq_true] at tie
  have kept : [first, second].filter isFree = [first, second] := by
    simp [isFree, tie.1.2, tie.2]
  have free := (listed.filter isFree).reverse
  rw [kept, present, List.filter_filter, ← List.filter_reverse] at free
  rw [present, relisted, List.filter_append, ← List.filter_reverse, List.filter_filter,
    List.filter_filter]
  refine List.Sublist.trans ?_ (List.sublist_append_right _ _)
  simpa [Bool.and_comm] using free

theorem memberShapes_nodup (locale : Locale) {members : List (String × JsValue)}
    (distinct : (members.map Prod.fst).Nodup) : (memberShapes locale members).Nodup := by
  refine List.Nodup.of_map Prod.fst ?_
  rw [memberShapes_eq, List.map_map]
  exact present_distinct distinct

/-- An object whose names are tied has another text when it lists them the other way. -/
theorem confused_tied {members : List (String × JsValue)}
    (valid : (JsValue.obj members).valid = true)
    (crossed : untied locale (.obj members) = false) :
    Confused locale (.obj members) (.obj (relisted members)) := by
  have next := relisted_valid valid
  have distinct := (valid_obj_iff.mp valid).1.1
  have same := relisted_perm members
  refine confused_iff.mpr ⟨next, Or.inr ⟨?_, ?_⟩⟩
  · intro equal
    rw [untied, decide_eq_false_iff_not, List.pairwise_iff_forall_sublist] at crossed
    push Not at crossed
    obtain ⟨first, second, listed, tie⟩ := crossed
    rw [ne_eq, Bool.not_eq_false] at tie
    have compared := tie
    simp only [tied, Bool.and_eq_true, decide_eq_true_eq] at compared
    obtain ⟨⟨⟨forward, backward⟩, -⟩, -⟩ := compared
    have ahead := listed.map (shapeEntry locale)
    have behind := (pair_relisted listed tie).map (shapeEntry locale)
    rw [shape, shape, Shape.table.injEq] at equal
    rw [← memberShapes_eq, List.map_cons, List.map_cons, List.map_nil] at ahead behind
    have unrepeated := (sortMembers_perm locale _).nodup_iff.mpr
      (memberShapes_nodup locale distinct)
    have placed := pair_ordered unrepeated (sorted_pair forward ahead)
    rw [equal] at placed
    exact placed (sorted_pair backward behind)
  · rw [sameValue_obj_iff (valid_obj_iff.mp next).1.1]
    have inside : ∀ entry, entry ∈ present (relisted members) ↔ entry ∈ present members :=
      fun entry => (same.filter _).mem_iff
    constructor
    · intro entry member
      exact ⟨entry.2, (inside entry).mpr member, sameValue_refl
        ((valid_obj_iff.mp valid).2 entry (mem_present.mp member).1)⟩
    · exact fun entry member => ⟨entry, (inside entry).mp member, rfl⟩

/-! A value that is not unmistakable is confused with another. -/

theorem unmistakable_iff {value : JsValue} :
    value.unmistakable locale = true ↔ value.separable locale = true ∧
      everywhere (fun value => !isBare value) value = true := by
  rw [JsValue.unmistakable, Bool.and_eq_true]

theorem unmistakable_arr {items : List JsValue} (filled : items ≠ [.undefined]) (bare : items ≠ [])
    (below : ∀ item ∈ items, item.unmistakable locale = true) :
    (JsValue.arr items).unmistakable locale = true := by
  have noHole : isHole (.arr items) = false := by
    rw [← Bool.not_eq_true, isHole_arr]
    exact filled
  have noBare : isBare (.arr items) = false := by
    rw [← Bool.not_eq_true, isBare_arr]
    exact bare
  refine unmistakable_iff.mpr ⟨JsValue.separable_iff.mpr ⟨?_, ?_⟩, ?_⟩
  · refine everywhere_arr_iff.mpr ⟨rfl, fun item member => ?_⟩
    exact (JsValue.separable_iff.mp (unmistakable_iff.mp (below item member)).1).1
  · refine everywhere_arr_iff.mpr ⟨by rw [noHole]; rfl, fun item member => ?_⟩
    exact (JsValue.separable_iff.mp (unmistakable_iff.mp (below item member)).1).2
  · refine everywhere_arr_iff.mpr ⟨by rw [noBare]; rfl, fun item member => ?_⟩
    exact (unmistakable_iff.mp (below item member)).2

theorem unmistakable_obj {members : List (String × JsValue)}
    (apart : untied locale (.obj members) = true)
    (below : ∀ entry ∈ members, entry.2.unmistakable locale = true) :
    (JsValue.obj members).unmistakable locale = true := by
  refine unmistakable_iff.mpr ⟨JsValue.separable_iff.mpr ⟨?_, ?_⟩, ?_⟩
  · refine everywhere_obj_iff.mpr ⟨apart, fun entry member => ?_⟩
    exact (JsValue.separable_iff.mp (unmistakable_iff.mp (below entry member)).1).1
  · refine everywhere_obj_iff.mpr ⟨rfl, fun entry member => ?_⟩
    exact (JsValue.separable_iff.mp (unmistakable_iff.mp (below entry member)).1).2
  · refine everywhere_obj_iff.mpr ⟨rfl, fun entry member => ?_⟩
    exact (unmistakable_iff.mp (below entry member)).2

theorem exists_confused {value : JsValue} (valid : value.valid = true)
    (mistaken : value.unmistakable locale ≠ true) : ∃ other, Confused locale value other := by
  induction value using JsValue.induct with
  | undefined => exact absurd rfl mistaken
  | null => exact absurd rfl mistaken
  | bool flag => exact absurd rfl mistaken
  | num value => exact absurd rfl mistaken
  | str value => exact absurd rfl mistaken
  | arr items ih =>
      by_cases below : ∀ item ∈ items, item.unmistakable locale = true
      · by_cases hole : items = [.undefined]
        · subst hole
          exact ⟨_, confused_hole⟩
        · by_cases bare : items = []
          · subst bare
            exact ⟨_, confused_bare⟩
          · exact absurd (unmistakable_arr hole bare below) mistaken
      · push Not at below
        obtain ⟨item, member, wrong⟩ := below
        obtain ⟨other, confused⟩ := ih item member (valid_arr_iff.mp valid item member) wrong
        obtain ⟨front, back, rfl⟩ := List.append_of_mem member
        exact ⟨_, confused.item valid⟩
  | obj members ih =>
      by_cases below : ∀ entry ∈ members, entry.2.unmistakable locale = true
      · refine ⟨_, confused_tied valid ?_⟩
        rw [← Bool.not_eq_true]
        exact fun apart => mistaken (unmistakable_obj apart below)
      · push Not at below
        obtain ⟨⟨name, held⟩, member, wrong⟩ := below
        obtain ⟨other, confused⟩ :=
          ih (name, held) member ((valid_obj_iff.mp valid).2 _ member) wrong
        obtain ⟨front, back, rfl⟩ := List.append_of_mem member
        exact ⟨_, confused.member valid⟩

theorem exists_reordered {value : JsValue} (valid : value.valid = true) (dense : value.dense = true)
    (crossed : everywhere (untied locale) value ≠ true) :
    ∃ other, other.dense = true ∧ Confused locale value other := by
  induction value using JsValue.induct with
  | undefined => exact absurd rfl crossed
  | null => exact absurd rfl crossed
  | bool flag => exact absurd rfl crossed
  | num value => exact absurd rfl crossed
  | str value => exact absurd rfl crossed
  | arr items ih =>
      have below : ∃ item ∈ items, everywhere (untied locale) item ≠ true := by
        by_contra none
        push Not at none
        exact crossed (everywhere_arr_iff.mpr ⟨rfl, none⟩)
      obtain ⟨item, member, wrong⟩ := below
      have whole := dense_arr_iff.mp dense
      obtain ⟨other, filled, confused⟩ :=
        ih item member (valid_arr_iff.mp valid item member) (whole item member).2 wrong
      obtain ⟨front, back, rfl⟩ := List.append_of_mem member
      exact ⟨_, dense_arr_iff.mpr (forall_mem_replaced whole
        ⟨JsValue.isUndefined_false_iff.mpr confused.defined.2, filled⟩), confused.item valid⟩
  | obj members ih =>
      have whole := dense_obj_iff.mp dense
      by_cases below : ∀ entry ∈ members, everywhere (untied locale) entry.2 = true
      · refine ⟨_, dense_obj_iff.mpr fun entry member =>
          whole entry ((relisted_perm members).mem_iff.mp member), confused_tied valid ?_⟩
        rw [← Bool.not_eq_true]
        exact fun apart => crossed (everywhere_obj_iff.mpr ⟨apart, below⟩)
      · push Not at below
        obtain ⟨⟨name, held⟩, member, wrong⟩ := below
        obtain ⟨other, filled, confused⟩ := ih (name, held) member
          ((valid_obj_iff.mp valid).2 _ member) (whole _ member) wrong
        obtain ⟨front, back, rfl⟩ := List.append_of_mem member
        exact ⟨_, dense_obj_iff.mpr (forall_mem_replaced whole filled), confused.member valid⟩

/-- Sorted copies of values without holes have one text when the values have one document in the
order of an object. -/
theorem sorted_eq_iff (ordered : TotalPreorder locale.localeCompare)
    (numbers : NumberTexts locale.formatNumber) {left right : JsValue} (first : left.valid = true)
    (second : right.valid = true) (dense : left.dense = true) (other : right.dense = true) :
    TestDomain.canonicalJson locale left = TestDomain.canonicalJson locale right ↔
      shape (indexFirst locale) left = shape (indexFirst locale) right := by
  rw [TestDomain.canonicalJson, TestDomain.canonicalJson, stringText_sortJson ordered first dense,
    stringText_sortJson ordered second other]
  exact @canonicalJson_eq_iff (indexFirst locale) numbers left right

theorem filled_of_dense {value : JsValue} (dense : value.dense = true) :
    everywhere (fun value => !isHole value) value = true := by
  induction value using JsValue.induct with
  | arr items ih =>
      have below := dense_arr_iff.mp dense
      refine everywhere_arr_iff.mpr ⟨?_, fun item member => ih item member (below item member).2⟩
      rw [Bool.not_eq_true', ← Bool.not_eq_true, isHole_arr]
      rintro rfl
      exact absurd (below .undefined List.mem_cons_self).1 (by decide)
  | obj members ih =>
      exact everywhere_obj_iff.mpr
        ⟨rfl, fun entry member => ih entry member (dense_obj_iff.mp dense entry member)⟩
  | _ => rfl

theorem sorted_identifies (ordered : TotalPreorder locale.localeCompare)
    (numbers : NumberTexts locale.formatNumber) {left : JsValue} (first : left.valid = true)
    (dense : left.dense = true) :
    (∀ right : JsValue, right.valid = true → right.dense = true →
        (TestDomain.canonicalJson locale left = TestDomain.canonicalJson locale right ↔
          sameValue left right = true)) ↔
      everywhere (untied locale) left = true := by
  have same : untied (indexFirst locale) = untied locale := funext untied_indexFirst
  constructor
  · intro told
    by_contra crossed
    rw [← same] at crossed
    obtain ⟨right, other, second, wrong⟩ := exists_reordered first dense crossed
    have said := told right second other
    rw [sorted_eq_iff ordered numbers first second dense other] at said
    exact wrong said
  · intro apart right second other
    rw [sorted_eq_iff ordered numbers first second dense other]
    exact shape_eq_iff (indexFirst_ordered ordered) numbers first second
      (JsValue.separable_iff.mpr ⟨by rw [same]; exact apart, filled_of_dense dense⟩)
      (Or.inr (filled_of_dense other))

end Locale

/-! A language where names are compared by their keys. -/

def plainNumber (value : Rat) : String :=
  if value.den = 1 ∧ 0 ≤ value.num then Nat.repr value.num.toNat
  else "-" ++ Nat.repr (Encodable.encode value)

def localeOf (key : String → List Nat) : Locale where
  formatNumber := plainNumber
  localeCompare left right :=
    if key left < key right then -1 else if key right < key left then 1 else 0

theorem localeOf_ordered (key : String → List Nat) :
    TotalPreorder (localeOf key).localeCompare := by
  have unordered : ∀ left right, (localeOf key).localeCompare left right ≤ 0 ↔
      key left ≤ key right := by
    intro left right
    rcases lt_trichotomy (key left) (key right) with less | same | greater
    · simp [localeOf, less, less.le]
    · simp [localeOf, same]
    · simp [localeOf, greater, greater.not_gt, greater.not_ge]
  constructor
  · intro left right
    rcases lt_trichotomy (key left) (key right) with less | same | greater
    · simp [localeOf, less, less.not_gt]
    · simp [localeOf, same]
    · simp [localeOf, greater, greater.not_gt]
  · intro first second third
    rw [unordered, unordered, unordered]
    exact le_trans

theorem repr_digits (index : Nat) {char : Char} (member : char ∈ (Nat.repr index).toList) :
    char.isDigit = true := by
  rw [Nat.toList_repr] at member
  exact Nat.isDigit_of_mem_toDigits (by decide) (by decide) member

theorem repr_filled (index : Nat) : (Nat.repr index).toList ≠ [] := by
  rw [Nat.toList_repr]
  exact Nat.toDigits_ne_nil

theorem plainNumber_texts : NumberTexts plainNumber := by
  have sign : ∀ index code, Nat.repr index ≠ "-" ++ Nat.repr code := by
    intro index code same
    have member : '-' ∈ (Nat.repr index).toList := by rw [same]; simp
    exact absurd (repr_digits index member) (by decide)
  have digit : ∀ char : Char, char.isDigit = true → isWordChar char = true := by
    intro char digit
    simp [isWordChar, Char.isAlphanum, digit]
  constructor
  · intro left right _ _ same
    unfold plainNumber at same
    split at same
    · rename_i whole
      split at same
      · rename_i other
        have equal := toString_injective same
        exact Rat.ext (by omega) (by omega)
      · exact absurd same (sign _ _)
    · split at same
      · exact absurd same.symm (sign _ _)
      · exact Encodable.encode_injective (toString_injective (by simpa using same))
  · intro value
    unfold plainNumber
    split
    · exact ⟨repr_filled _, fun char member => digit char (repr_digits _ member)⟩
    · refine ⟨by simp, fun char member => ?_⟩
      rw [String.toList_append, List.mem_append] at member
      rcases member with sign | inside
      · rw [List.mem_singleton.mp sign]
        decide
      · exact digit char (repr_digits _ inside)
  · intro value char first
    unfold plainNumber at first
    split at first
    · exact Or.inl (repr_digits _ (List.mem_of_mem_head? first))
    · rw [String.toList_append] at first
      exact Or.inr (by simpa using first.symm)

/-- Separable values have one text when they are the same, and a value has its text to itself
when it is unmistakable; in a sorted copy, where no array has a hole, when its names are untied;
and the text of observed values is the first one where no member is absent. -/
theorem canonicalJson_identifies (locale : Locale) (ordered : TotalPreorder locale.localeCompare)
    (numbers : NumberTexts locale.formatNumber) :
    (∀ left right : JsValue, left.valid = true → right.valid = true →
      left.separable locale = true → right.separable locale = true →
      (canonicalJson locale left = canonicalJson locale right ↔
        sameValue left right = true)) ∧
    (∀ left : JsValue, left.valid = true →
      ((∀ right : JsValue, right.valid = true →
          (canonicalJson locale left = canonicalJson locale right ↔
            sameValue left right = true)) ↔
        left.unmistakable locale = true)) ∧
    (∀ left : JsValue, left.valid = true → left.dense = true →
      ((∀ right : JsValue, right.valid = true → right.dense = true →
          (TestDomain.canonicalJson locale left = TestDomain.canonicalJson locale right ↔
            sameValue left right = true)) ↔
        everywhere (untied locale) left = true)) ∧
    (∀ value : JsValue, everywhere (fun value => !hasAbsent value) value = true →
      observedCanonical locale value = canonicalJson locale value) := by
  refine ⟨?_, ?_, fun left first dense => sorted_identifies ordered numbers first dense,
    fun value present => by rw [observedCanonical, canonicalJson, observedText_eq present]⟩
  · intro left right first second separable other
    rw [canonicalJson_eq_iff numbers]
    exact shape_eq_iff ordered numbers first second separable
      (Or.inr (JsValue.separable_iff.mp other).2)
  · intro left first
    constructor
    · intro told
      by_contra mistaken
      obtain ⟨right, second, wrong⟩ := exists_confused first mistaken
      have said := told right second
      rw [canonicalJson_eq_iff numbers] at said
      exact wrong said
    · intro clear right second
      obtain ⟨separable, filled⟩ := unmistakable_iff.mp clear
      rw [canonicalJson_eq_iff numbers]
      exact shape_eq_iff ordered numbers first second separable (Or.inl filled)

def byCharacters : Locale := localeOf fun name => name.toList.map Char.toNat

theorem canonicalJson_identifies_members :
    canonicalJson byCharacters
        (.obj [("label", .str "total"), ("at", .arr [.null]), ("note", .undefined)]) =
      canonicalJson byCharacters (.obj [("at", .arr [.null]), ("label", .str "total")]) :=
  ((canonicalJson_identifies byCharacters (localeOf_ordered _) plainNumber_texts).1 _ _
    (by decide) (by decide) (by decide) (by decide)).mpr (by decide)

/-- Names compared with an accented letter taken for the letter and its accent. -/
def byLetters : Locale :=
  localeOf fun name => name.toList.flatMap fun char =>
    if char = 'é' then ['e'.toNat, 0x301] else [char.toNat]

/-- The same members in another order with another text, and two arrays with one text. -/
theorem canonicalJson_mistakes :
    (TotalPreorder byLetters.localeCompare ∧ NumberTexts byLetters.formatNumber) ∧
    (let left := JsValue.obj [("é", .null), ("e\u0301", .bool true)]
     let right := JsValue.obj [("e\u0301", .bool true), ("é", .null)]
     left.valid = true ∧ right.valid = true ∧ sameValue left right = true ∧
       canonicalJson byLetters left ≠ canonicalJson byLetters right ∧
       TestDomain.canonicalJson byLetters left ≠ TestDomain.canonicalJson byLetters right) ∧
    (let left := JsValue.arr [.undefined]
     let right := JsValue.arr []
     left.valid = true ∧ right.valid = true ∧ sameValue left right = false ∧
       canonicalJson byLetters left = canonicalJson byLetters right) ∧
    (let left := JsValue.arr [.undefined]
     let right := JsValue.arr [.null]
     sameValue left right = false ∧
       TestDomain.canonicalJson byLetters left = TestDomain.canonicalJson byLetters right) := by
  refine ⟨⟨localeOf_ordered _, plainNumber_texts⟩, ⟨by decide, by decide, by decide, ?_, ?_⟩,
    ⟨by decide, by decide, by decide, rfl⟩, ⟨by decide, rfl⟩⟩
  · have texts : canonicalText byLetters (.obj [("é", .null), ("e\u0301", .bool true)]) ≠
        canonicalText byLetters (.obj [("e\u0301", .bool true), ("é", .null)]) := by decide
    exact fun same => texts (Option.map_injective (fun _ _ => String.ofList_injective) same)
  · have texts : stringText byLetters
          (sortJson byLetters (.obj [("é", .null), ("e\u0301", .bool true)])) ≠
        stringText byLetters
          (sortJson byLetters (.obj [("e\u0301", .bool true), ("é", .null)])) := by decide
    exact fun same => texts (Option.map_injective (fun _ _ => String.ofList_injective) same)

end Devproof
