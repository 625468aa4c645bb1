import Mathlib.Data.List.Pairwise
import Devproof.Digests.Identity

/-!
The sorted copy of a value that plans and requests are digested by, as `JSON.stringify` writes it
(`canonicalJson` in `test-domain`), and the text that observed values are compared by (`canonical`
in `observed-value.ts`).
-/

namespace Devproof

/-- An object lists its index names first, in ascending order, and the others as they were added. -/
def ownOrder (left right : String) : Bool :=
  match arrayIndex left, arrayIndex right with
  | some first, some second => first ≤ second
  | none, some _ => false
  | _, none => true

def objectFromEntries {α : Type} (entries : List (String × α)) : List (String × α) :=
  entries.insertionSort fun left right => ownOrder left.1 right.1 = true

section Locale

variable (locale : Locale)

mutual
def sortJson : JsValue → JsValue
  | .arr items => .arr (sortItems items)
  | .obj members => .obj (objectFromEntries (sortMembers locale (sortEntries members)))
  | value => value

def sortItems : List JsValue → List JsValue
  | [] => []
  | item :: rest => sortJson item :: sortItems rest

def sortEntries : List (String × JsValue) → List (String × JsValue)
  | [] => []
  | (name, value) :: rest => (name, sortJson value) :: sortEntries rest
end

mutual
def stringText : JsValue → Option (List Char)
  | .undefined => none
  | .null => some "null".toList
  | .bool true => some "true".toList
  | .bool false => some "false".toList
  | .num value => some (locale.formatNumber value).toList
  | .str value => some (quoted value)
  | .arr items => some ('[' :: ([','].intercalate (stringItems items) ++ [']']))
  | .obj members =>
      some ('\x7b' :: ([','].intercalate ((stringMembers members).map memberText) ++ ['\x7d']))

def stringItems : List JsValue → List (List Char)
  | [] => []
  | item :: rest => (stringText item).getD "null".toList :: stringItems rest

def stringMembers : List (String × JsValue) → List (String × List Char)
  | [] => []
  | (name, value) :: rest =>
      match stringText value with
      | none => stringMembers rest
      | some text => (name, text) :: stringMembers rest
end

def TestDomain.canonicalJson (value : JsValue) : Option String :=
  (stringText locale (sortJson locale value)).map String.ofList

mutual
def observedText : JsValue → Option (List Char)
  | .arr items => some ('[' :: ([','].intercalate (observedItems items) ++ [']']))
  | .obj members =>
      some ('\x7b' ::
        ([','].intercalate ((sortMembers locale (observedMembers members)).map memberText) ++
          ['\x7d']))
  | value => stringText locale value

def observedItems : List JsValue → List (List Char)
  | [] => []
  | item :: rest => (observedText item).getD [] :: observedItems rest

def observedMembers : List (String × JsValue) → List (String × List Char)
  | [] => []
  | (name, value) :: rest =>
      (name, (observedText value).getD "undefined".toList) :: observedMembers rest
end

def observedCanonical (value : JsValue) : Option String :=
  (observedText locale value).map String.ofList

end Locale

def hasHole : JsValue → Bool
  | .arr items => items.any JsValue.isUndefined
  | _ => false

def hasAbsent : JsValue → Bool
  | .obj members => members.any fun entry => entry.2.isUndefined
  | _ => false

/-- No array of it holds `undefined`. -/
def JsValue.dense (value : JsValue) : Bool :=
  everywhere (fun value => !hasHole value) value

/-- Index names before the others, as an object lists them, and the others as compared. -/
def indexFirst (locale : Locale) : Locale where
  formatNumber := locale.formatNumber
  localeCompare left right :=
    match arrayIndex left, arrayIndex right with
    | some first, some second => if first < second then -1 else if second < first then 1 else 0
    | some _, none => -1
    | none, some _ => 1
    | none, none => locale.localeCompare left right

section Locale

variable {locale : Locale}

theorem tied_indexFirst (left right : String) :
    tied (indexFirst locale) left right = tied locale left right := by
  cases first : arrayIndex left with
  | none =>
      cases second : arrayIndex right with
      | none => simp [tied, indexFirst, first, second]
      | some index => simp [tied, second]
  | some index => simp [tied, first]

theorem untied_indexFirst (value : JsValue) :
    untied (indexFirst locale) value = untied locale value := by
  cases value with
  | obj members => simp only [untied, tied_indexFirst]
  | _ => rfl

theorem indexFirst_ordered (ordered : TotalPreorder locale.localeCompare) :
    TotalPreorder (indexFirst locale).localeCompare := by
  constructor
  · intro left right
    have reversed := ordered.reversed left right
    cases first : arrayIndex left <;> cases second : arrayIndex right <;>
      simp only [indexFirst, first, second]
    · exact reversed
    · omega
    · omega
    · split_ifs <;> omega
  · intro left middle right early late
    have transitive := ordered.transitive left middle right
    cases first : arrayIndex left <;> cases second : arrayIndex middle <;>
      cases third : arrayIndex right <;>
        simp only [indexFirst, first, second, third] at early late ⊢
    all_goals first
      | exact transitive early late
      | (split_ifs at early late ⊢ <;> omega)
      | omega

theorem ownOrder_of_le {left right : String}
    (below : (indexFirst locale).localeCompare left right ≤ 0) : ownOrder left right = true := by
  cases first : arrayIndex left <;> cases second : arrayIndex right <;>
    simp only [indexFirst, first, second] at below <;> simp only [ownOrder, first, second]
  · omega
  · split_ifs at below <;> simp_all
    omega

theorem indexFirst_free {left right : String} (first : arrayIndex left = none)
    (second : arrayIndex right = none) :
    (indexFirst locale).localeCompare left right = locale.localeCompare left right := by
  simp only [indexFirst, first, second]

section ObjectOrder

variable {α : Type} {entries : List (String × α)}

instance ownOrder_total : Std.Total fun left right : String × α => ownOrder left.1 right.1 = true := by
  refine ⟨fun left right => ?_⟩
  simp only [ownOrder]
  cases arrayIndex left.1 <;> cases arrayIndex right.1 <;> simp
  omega

instance ownOrder_trans : IsTrans (String × α) fun left right => ownOrder left.1 right.1 = true := by
  refine ⟨fun left middle right => ?_⟩
  simp only [ownOrder]
  cases arrayIndex left.1 <;> cases arrayIndex middle.1 <;> cases arrayIndex right.1 <;> simp
  omega

/-- An object lists `left` before `right`: index names first, then the other names as compared, in
the order of the entries where they compare as the same. -/
def ObjectOrder (locale : Locale) (entries : List (String × α)) (left right : String × α) : Prop :=
  ownOrder left.1 right.1 = true ∧ (arrayIndex left.1 = none → arrayIndex right.1 = none →
    locale.localeCompare left.1 right.1 ≤ 0 ∧
      (locale.localeCompare right.1 left.1 ≤ 0 → [left, right].Sublist entries))

theorem pairs_inOrder (entries : List (String × α)) :
    entries.Pairwise fun left right => [left, right].Sublist entries :=
  List.pairwise_iff_forall_sublist.mpr fun held => held

theorem sortedTwice_ordered (ordered : TotalPreorder locale.localeCompare) :
    (objectFromEntries (sortMembers locale entries)).Pairwise (ObjectOrder locale entries) := by
  have once := (sortMembers_sorted ordered entries).and (insertionSort_stable
    (fun left right : String × α => locale.localeCompare left.1 right.1 ≤ 0) (pairs_inOrder entries))
  have sorted : (objectFromEntries (sortMembers locale entries)).Pairwise fun left right =>
      ownOrder left.1 right.1 = true := List.pairwise_insertionSort _ _
  refine (sorted.and (insertionSort_stable
    (fun left right : String × α => ownOrder left.1 right.1 = true) once)).imp ?_
  rintro left right ⟨own, stays⟩
  refine ⟨own, fun first second => stays ?_⟩
  simp [ownOrder, first, second]

theorem indexSorted_ordered (ordered : TotalPreorder locale.localeCompare)
    (keeps : String × α → Bool) :
    (sortMembers (indexFirst locale) (entries.filter keeps)).Pairwise (ObjectOrder locale entries) := by
  have kept : (entries.filter keeps).Pairwise fun left right => [left, right].Sublist entries :=
    (pairs_inOrder entries).filter _
  refine ((sortMembers_sorted (indexFirst_ordered ordered) (entries.filter keeps)).and
    (insertionSort_stable (fun left right : String × α =>
      (indexFirst locale).localeCompare left.1 right.1 ≤ 0) kept)).imp ?_
  rintro left right ⟨below, stays⟩
  refine ⟨ownOrder_of_le below, fun first second => ?_⟩
  rw [indexFirst_free first second] at below
  rw [indexFirst_free second first] at stays
  exact ⟨below, stays⟩

/-- An object lists its index names in ascending order, so none comes twice. -/
theorem index_unique (listed : Listed entries) {left right : String × α} (here : left ∈ entries)
    (there : right ∈ entries) {place : Nat} (index : arrayIndex left.1 = some place)
    (same : arrayIndex right.1 = some place) : left = right := by
  by_contra differ
  have apart : entries.Pairwise fun left right =>
      ¬ (arrayIndex left.1 = some place ∧ arrayIndex right.1 = some place) := by
    refine listed.imp fun {left right} before both => ?_
    simp [listedBefore, both.1, both.2] at before
  have symmetric : Std.Symm fun left right : String × α =>
      ¬ (arrayIndex left.1 = some place ∧ arrayIndex right.1 = some place) :=
    ⟨fun _ _ held both => held both.symm⟩
  exact apart.forall here there differ ⟨index, same⟩

theorem objectOrder_antisymm (distinct : entries.Nodup) (listed : Listed entries)
    {left right : String × α} (here : left ∈ entries) (there : right ∈ entries)
    (first : ObjectOrder locale entries left right) (second : ObjectOrder locale entries right left) :
    left = right := by
  obtain ⟨own, early⟩ := first
  obtain ⟨own', late⟩ := second
  cases index : arrayIndex left.1 with
  | none =>
      cases index' : arrayIndex right.1 with
      | some _ => simp [ownOrder, index, index'] at own
      | none =>
          obtain ⟨forward, ahead⟩ := early index index'
          obtain ⟨backward, behind⟩ := late index' index
          exact (pair_ordered distinct (ahead backward) (behind forward)).elim
  | some place =>
      cases index' : arrayIndex right.1 with
      | none => simp [ownOrder, index, index'] at own'
      | some place' =>
          have equal : place = place' := by
            simp only [ownOrder, index, index', decide_eq_true_eq] at own own'
            omega
          exact index_unique listed here there index (by rw [index', equal])

theorem objectFromEntries_sortMembers (ordered : TotalPreorder locale.localeCompare)
    (distinct : entries.Nodup) (listed : Listed entries) (keeps : String × α → Bool) :
    (objectFromEntries (sortMembers locale entries)).filter keeps =
      sortMembers (indexFirst locale) (entries.filter keeps) := by
  have same : ((objectFromEntries (sortMembers locale entries)).filter keeps).Perm
      (sortMembers (indexFirst locale) (entries.filter keeps)) :=
    (((List.perm_insertionSort _ _).trans (sortMembers_perm locale entries)).filter _).trans
      (sortMembers_perm _ _).symm
  refine same.eq_of_pairwise ?_ ((sortedTwice_ordered ordered).filter _)
    (indexSorted_ordered ordered keeps)
  intro left right first second forward back
  refine objectOrder_antisymm distinct listed ?_ ?_ forward back
  · exact (sortMembers_perm locale entries).mem_iff.mp
      ((List.perm_insertionSort _ _).mem_iff.mp (List.mem_filter.mp first).1)
  · exact (List.mem_filter.mp ((sortMembers_perm _ _).mem_iff.mp second)).1

end ObjectOrder

theorem objectFromEntries_map {α β : Type} (view : α → β) (entries : List (String × α)) :
    (objectFromEntries entries).map (fun entry => (entry.1, view entry.2)) =
      objectFromEntries (entries.map fun entry => (entry.1, view entry.2)) :=
  List.map_insertionSort _ _ _ entries fun _ _ _ _ => Iff.rfl

theorem sortItems_eq (items : List JsValue) :
    sortItems locale items = items.map (sortJson locale) := by
  induction items with
  | nil => rfl
  | cons item rest ih => rw [sortItems, ih, List.map_cons]

theorem sortEntries_eq (members : List (String × JsValue)) :
    sortEntries locale members = members.map fun entry => (entry.1, sortJson locale entry.2) := by
  induction members with
  | nil => rfl
  | cons entry rest ih => rw [sortEntries, ih, List.map_cons]

theorem stringItems_eq (items : List JsValue) :
    stringItems locale items =
      items.map fun item => (stringText locale item).getD "null".toList := by
  induction items with
  | nil => rfl
  | cons item rest ih => rw [stringItems, ih, List.map_cons]

theorem stringMembers_eq {members : List (String × JsValue)} {source : JsValue → JsValue}
    (text : JsValue → List Char)
    (texts : ∀ entry ∈ members, stringText locale (source entry.2) =
      if entry.2.isUndefined then none else some (text entry.2)) :
    stringMembers locale (members.map fun entry => (entry.1, source entry.2)) =
      (present members).map fun entry => (entry.1, text entry.2) := by
  induction members with
  | nil => rfl
  | cons entry rest ih =>
      obtain ⟨name, value⟩ := entry
      have here := texts (name, value) (List.mem_cons_self ..)
      have later := ih fun entry member => texts entry (List.mem_cons_of_mem _ member)
      rw [List.map_cons, stringMembers, here]
      cases hidden : value.isUndefined with
      | true => simpa [present, hidden] using later
      | false => simpa [present, hidden] using later

theorem dense_arr_iff {items : List JsValue} :
    (JsValue.arr items).dense = true ↔
      ∀ item ∈ items, item.isUndefined = false ∧ item.dense = true := by
  rw [JsValue.dense, everywhere_arr_iff]
  simp only [hasHole, Bool.not_eq_true', List.any_eq_false, Bool.not_eq_true]
  exact ⟨fun whole item member => ⟨whole.1 item member, whole.2 item member⟩,
    fun below => ⟨fun item member => (below item member).1, fun item member => (below item member).2⟩⟩

theorem dense_obj_iff {members : List (String × JsValue)} :
    (JsValue.obj members).dense = true ↔ ∀ entry ∈ members, entry.2.dense = true :=
  ⟨fun dense => (everywhere_obj_iff.mp dense).2, fun below => everywhere_obj_iff.mpr ⟨rfl, below⟩⟩

theorem stringText_sortJson (ordered : TotalPreorder locale.localeCompare) {value : JsValue}
    (valid : value.valid = true) (dense : value.dense = true) :
    stringText locale (sortJson locale value) = canonicalText (indexFirst locale) value := by
  induction value using JsValue.induct with
  | undefined => rfl
  | null => rfl
  | bool flag => cases flag <;> rfl
  | num value => rfl
  | str value => rfl
  | arr items ih =>
      rw [sortJson, stringText, canonicalText, sortItems_eq, stringItems_eq, itemTexts_eq,
        List.map_map]
      congr 4
      refine List.map_congr_left fun item member => ?_
      obtain ⟨defined, below⟩ := dense_arr_iff.mp dense item member
      rw [Function.comp_apply, ih item member (valid_arr_iff.mp valid item member) below,
        canonicalText_eq, defined]
      rfl
  | obj members ih =>
      obtain ⟨⟨distinct, listed⟩, below⟩ := valid_obj_iff.mp valid
      have texts : ∀ entry ∈ members, stringText locale (sortJson locale entry.2) =
          if entry.2.isUndefined then none
          else some (shape (indexFirst locale) entry.2).render := by
        intro entry member
        rw [ih entry member (below entry member) (dense_obj_iff.mp dense entry member), canonicalText_eq]
      have sorted : ∀ entry ∈ objectFromEntries (sortMembers locale members),
          stringText locale (sortJson locale entry.2) =
            if entry.2.isUndefined then none
            else some (shape (indexFirst locale) entry.2).render := by
        intro entry member
        exact texts entry ((sortMembers_perm locale members).mem_iff.mp
          ((List.perm_insertionSort _ _).mem_iff.mp member))
      have once := objectFromEntries_sortMembers ordered (List.Nodup.of_map _ distinct)
        (List.pairwise_map.mp listed) fun entry => !entry.2.isUndefined
      rw [sortJson, stringText, canonicalText, sortEntries_eq, ← sortMembers_map,
        ← objectFromEntries_map,
        stringMembers_eq (fun value => (shape (indexFirst locale) value).render) sorted,
        present, once,
        sortMembers_map (indexFirst locale) fun value => (shape (indexFirst locale) value).render,
        ← present,
        memberTexts_eq (indexFirst locale) fun entry member => canonicalText_eq _ entry.2,
        memberShapes_eq, List.map_map]
      rfl

theorem observedText_eq {value : JsValue}
    (present : everywhere (fun value => !hasAbsent value) value = true) :
    observedText locale value = canonicalText locale value := by
  induction value using JsValue.induct with
  | undefined => rfl
  | null => rfl
  | bool flag => cases flag <;> rfl
  | num value => rfl
  | str value => rfl
  | arr items ih =>
      have texts : ∀ items : List JsValue,
          (∀ item ∈ items, observedText locale item = canonicalText locale item) →
            observedItems locale items = itemTexts locale items := by
        intro items same
        induction items with
        | nil => rfl
        | cons item rest later =>
            rw [observedItems, itemTexts, same item List.mem_cons_self,
              later fun other member => same other (List.mem_cons_of_mem _ member)]
      rw [observedText, canonicalText, texts items fun item member =>
        ih item member ((everywhere_arr_iff.mp present).2 item member)]
  | obj members ih =>
      obtain ⟨here, below⟩ := everywhere_obj_iff.mp present
      have texts : ∀ members : List (String × JsValue),
          (∀ entry ∈ members, entry.2.isUndefined = false ∧
            observedText locale entry.2 = canonicalText locale entry.2) →
            observedMembers locale members = memberTexts locale members := by
        intro members same
        induction members with
        | nil => rfl
        | cons entry rest later =>
            obtain ⟨defined, text⟩ := same entry List.mem_cons_self
            rw [observedMembers, memberTexts, text,
              later fun other member => same other (List.mem_cons_of_mem _ member),
              canonicalText_eq, defined]
            rfl
      simp only [hasAbsent, Bool.not_eq_true', List.any_eq_false, Bool.not_eq_true] at here
      rw [observedText, canonicalText, texts members fun entry member =>
        ⟨here entry member, ih entry member (below entry member)⟩]

end Locale

end Devproof
