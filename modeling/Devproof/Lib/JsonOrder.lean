import Mathlib.Data.List.Lex
import Mathlib.Data.List.Pairwise
import Devproof.Lib.JsonWriter

/-!
Values up to the order of their members.  Members sorted by name do not depend
on the order they came in, as long as no two names of one object are tied.
-/

namespace Devproof.Parsing

structure NameOrder (before : Text → Text → Prop) : Prop where
  total : ∀ left right, before left right ∨ before right left
  transitive : ∀ first second third, before first second → before second third →
    before first third

def Apart (before : Text → Text → Prop) (names : List Text) : Prop :=
  names.Pairwise fun left right => ¬(before left right ∧ before right left)

section Sorting

variable {α : Type} {before : Text → Text → Prop}

theorem Apart.nodup (order : NameOrder before) {names : List Text} (apart : Apart before names) :
    names.Nodup := by
  refine apart.imp fun {left right} separate => ?_
  rintro rfl
  have itself := order.total left left
  exact separate ⟨itself.elim id id, itself.elim id id⟩

theorem Apart.perm {left right : List Text} (apart : Apart before left) (same : left.Perm right) :
    Apart before right :=
  List.Pairwise.perm apart same fun separate => fun ⟨back, forth⟩ => separate ⟨forth, back⟩

variable [DecidableRel before]

theorem byName_perm (members : List (Text × α)) : (byName before members).Perm members :=
  List.perm_insertionSort _ _

theorem byName_map {β : Type} (change : α → β) (members : List (Text × α)) :
    byName before (members.map (Prod.map id change)) =
      (byName before members).map (Prod.map id change) := by
  refine (List.map_insertionSort _ _ (Prod.map id change) members ?_).symm
  intro left _ right _
  rfl

theorem byName_sorted (order : NameOrder before) (members : List (Text × α)) :
    (byName before members).Pairwise fun left right => before left.1 right.1 := by
  have total : Std.Total fun left right : Text × α => before left.1 right.1 :=
    ⟨fun left right => order.total left.1 right.1⟩
  have transitive : IsTrans (Text × α) fun left right => before left.1 right.1 :=
    ⟨fun first second third => order.transitive first.1 second.1 third.1⟩
  exact List.pairwise_insertionSort _ _

theorem byName_eq_of_perm (order : NameOrder before) {left right : List (Text × α)}
    (apart : Apart before (left.map Prod.fst)) (same : left.Perm right) :
    byName before left = byName before right := by
  refine List.Perm.eq_of_pairwise ?_ (byName_sorted order left) (byName_sorted order right)
    ((byName_perm left).trans (same.trans (byName_perm right).symm))
  intro entry other inLeft inRight forward backward
  by_contra different
  have separate := List.pairwise_map.mp apart
  have symmetric : Std.Symm fun left right : Text × α =>
      ¬(before left.1 right.1 ∧ before right.1 left.1) :=
    ⟨fun left right separate both => separate both.symm⟩
  exact separate.forall ((byName_perm left).mem_iff.mp inLeft)
    (same.mem_iff.mpr ((byName_perm right).mem_iff.mp inRight)) different ⟨forward, backward⟩

end Sorting

/-! The members an object keeps of those its text lists. -/

section Members

variable {α : Type}

theorem setMember_names (members : List (Text × α)) (entry : Text × α) :
    (setMember members entry).map Prod.fst =
      if entry.1 ∈ members.map Prod.fst then members.map Prod.fst
      else members.map Prod.fst ++ [entry.1] := by
  rw [setMember]
  split_ifs
  · rw [List.map_map]
    refine List.map_congr_left fun known _ => ?_
    simp only [Function.comp_apply]
    split
    · rename_i named
      exact named.symm
    · rfl
  · simp

theorem mem_setMember {members : List (Text × α)} {entry known : Text × α}
    (member : known ∈ setMember members entry) : known ∈ members ∨ known = entry := by
  rw [setMember] at member
  split_ifs at member
  · obtain ⟨old, inside, rfl⟩ := List.mem_map.mp member
    split_ifs
    · exact Or.inr rfl
    · exact Or.inl inside
  · simpa using member

theorem setMember_nodup {members : List (Text × α)} (entry : Text × α)
    (distinct : (members.map Prod.fst).Nodup) :
    ((setMember members entry).map Prod.fst).Nodup := by
  rw [setMember_names]
  split_ifs with known
  · exact distinct
  · refine List.nodup_append.mpr ⟨distinct, List.nodup_singleton _, ?_⟩
    intro name member other single same
    rw [List.mem_singleton.mp single] at same
    exact known (same ▸ member)

theorem foldl_setMember_nodup (entries : List (Text × α)) {members : List (Text × α)}
    (distinct : (members.map Prod.fst).Nodup) :
    ((entries.foldl setMember members).map Prod.fst).Nodup := by
  induction entries generalizing members with
  | nil => exact distinct
  | cons entry entries ih => exact ih (setMember_nodup entry distinct)

theorem mem_foldl_setMember {entries members : List (Text × α)} {known : Text × α}
    (member : known ∈ entries.foldl setMember members) : known ∈ members ∨ known ∈ entries := by
  induction entries generalizing members with
  | nil => exact Or.inl member
  | cons entry entries ih =>
      rcases ih member with earlier | later
      · rcases mem_setMember earlier with old | rfl
        · exact Or.inl old
        · exact Or.inr (List.mem_cons_self ..)
      · exact Or.inr (List.mem_cons_of_mem _ later)

theorem foldl_setMember_append {entries members : List (Text × α)}
    (distinct : ((members ++ entries).map Prod.fst).Nodup) :
    entries.foldl setMember members = members ++ entries := by
  induction entries generalizing members with
  | nil => simp
  | cons entry entries ih =>
      have fresh : entry.1 ∉ members.map Prod.fst := by
        intro member
        rw [List.map_append, List.nodup_append] at distinct
        exact distinct.2.2 entry.1 member entry.1 (by simp) rfl
      have moved : members ++ entry :: entries = setMember members entry ++ entries := by
        rw [setMember, if_neg fresh, List.append_assoc, List.singleton_append]
      rw [List.foldl_cons, ih (moved ▸ distinct), moved]

theorem ofMembers_nodup (entries : List (Text × α)) :
    ((ofMembers entries).map Prod.fst).Nodup :=
  ((byName_perm _).map Prod.fst).nodup_iff.mpr (foldl_setMember_nodup entries List.nodup_nil)

theorem mem_ofMembers {entries : List (Text × α)} {known : Text × α}
    (member : known ∈ ofMembers entries) : known ∈ entries := by
  have folded := (byName_perm _).mem_iff.mp member
  simpa using mem_foldl_setMember folded

theorem ofMembers_perm {entries : List (Text × α)} (distinct : (entries.map Prod.fst).Nodup) :
    (ofMembers entries).Perm entries := by
  have folded : entries.foldl setMember [] = entries :=
    foldl_setMember_append (by simpa using distinct)
  rw [ofMembers, folded]
  exact byName_perm entries

theorem ofMembers_ofMembers (entries : List (Text × α)) :
    ofMembers (ofMembers entries) = ofMembers entries := by
  have folded : (ofMembers entries).foldl setMember [] = ofMembers entries :=
    foldl_setMember_append (by simpa using ofMembers_nodup entries)
  have order : NameOrder listedFirst :=
    ⟨fun left right => Nat.le_total _ _, fun _ _ _ => Nat.le_trans⟩
  rw [ofMembers, folded]
  exact (byName_sorted order _).insertionSort_eq

theorem setMember_map {β : Type} (change : α → β) (members : List (Text × α)) (entry : Text × α) :
    (setMember members entry).map (Prod.map id change) =
      setMember (members.map (Prod.map id change)) (Prod.map id change entry) := by
  have names : (members.map (Prod.map id change)).map Prod.fst = members.map Prod.fst := by
    rw [List.map_map]
    rfl
  rw [setMember, setMember, names]
  split_ifs with known known' known'
  · rw [List.map_map, List.map_map]
    refine List.map_congr_left fun old _ => ?_
    simp only [Function.comp_apply, Prod.map_fst, id_eq]
    split <;> rfl
  · exact absurd known known'
  · exact absurd known' known
  · simp

theorem ofMembers_map {β : Type} (change : α → β) (entries : List (Text × α)) :
    (ofMembers entries).map (Prod.map id change) =
      ofMembers (entries.map (Prod.map id change)) := by
  have folded : ∀ members : List (Text × α),
      (entries.foldl setMember members).map (Prod.map id change) =
        (entries.map (Prod.map id change)).foldl setMember (members.map (Prod.map id change)) := by
    induction entries with
    | nil => exact fun _ => rfl
    | cons entry entries ih =>
        intro members
        rw [List.foldl_cons, ih, setMember_map, List.map_cons, List.foldl_cons]
  rw [ofMembers, ofMembers, ← byName_map, folded]
  rfl

end Members

def Value.arrange (before : Text → Text → Prop) [DecidableRel before] (value : Value) : Value :=
  value.transform .num (byName before)

def unitOrder (left right : Text) : Prop :=
  left.map UInt16.toNat ≤ right.map UInt16.toNat

instance : DecidableRel unitOrder := fun _ _ => inferInstanceAs (Decidable (_ ≤ _))

theorem unitOrder_order : NameOrder unitOrder :=
  ⟨fun _ _ => le_total _ _, fun _ _ _ => le_trans⟩

theorem unitOrder_apart {names : List Text} (distinct : names.Nodup) : Apart unitOrder names := by
  refine distinct.imp fun different both => different ?_
  have injective : Function.Injective UInt16.toNat := fun _ _ => UInt16.toNat_inj.mp
  exact List.map_injective_iff.mpr injective (le_antisymm both.1 both.2)

def SameValue (left right : Value) : Prop :=
  left.arrange unitOrder = right.arrange unitOrder

def SameWritten (left right : Value) : Prop :=
  SameValue left.plain right.plain

section Well

variable {number : Number → Prop} {names : List Text → Prop}

theorem well_arr_iff {items : List Value} :
    (Value.arr items).Well number names ↔ ∀ item ∈ items, item.Well number names :=
  ⟨fun | .arr held => held, .arr⟩

theorem well_obj_iff {members : List (Text × Value)} :
    (Value.obj members).Well number names ↔
      names (members.map Prod.fst) ∧ ∀ entry ∈ members, entry.2.Well number names :=
  ⟨fun | .obj named held => ⟨named, held⟩, fun ⟨named, held⟩ => .obj named held⟩

theorem Value.Well.imp {number' : Number → Prop} {names' : List Text → Prop} {value : Value}
    (well : value.Well number names) (numbers : ∀ known, number known → number' known)
    (named : ∀ known, names known → names' known) : value.Well number' names' := by
  induction well with
  | null => exact .null
  | bool value => exact .bool value
  | num held => exact .num (numbers _ held)
  | str value => exact .str value
  | arr held ih => exact .arr ih
  | obj known held ih => exact .obj (named _ known) ih

theorem map_names {β γ : Type} (change : β → γ) (members : List (Text × β)) :
    (members.map (Prod.map id change)).map Prod.fst = members.map Prod.fst := by
  rw [List.map_map]
  rfl

theorem well_arrange_iff {before : Text → Text → Prop} [DecidableRel before]
    (invariant : ∀ left right : List Text, left.Perm right → (names left ↔ names right))
    (value : Value) : (value.arrange before).Well number names ↔ value.Well number names := by
  induction value using Value.induct with
  | null | bool | str => rfl
  | num value => rfl
  | arr items ih =>
      simp only [Value.arrange, Value.transform, transformItems_eq, well_arr_iff,
        List.forall_mem_map]
      exact forall₂_congr ih
  | obj members ih =>
      simp only [Value.arrange, Value.transform, transformMembers_eq, well_obj_iff, byName_map,
        List.forall_mem_map, map_names]
      refine and_congr (invariant _ _ ((byName_perm members).map Prod.fst)) ?_
      rw [← (forall₂_congr ih : _ ↔ ∀ entry ∈ members, entry.2.Well number names)]
      simp only [(byName_perm members).mem_iff, Prod.map_snd]
      rfl

theorem SameValue.well (invariant : ∀ left right : List Text, left.Perm right →
    (names left ↔ names right)) {left right : Value} (same : SameValue left right)
    (well : left.Well number names) : right.Well number names := by
  have sorted : (right.arrange unitOrder).Well number names := by
    rw [← show left.arrange unitOrder = right.arrange unitOrder from same]
    exact (well_arrange_iff invariant left).mpr well
  exact (well_arrange_iff invariant right).mp sorted

end Well

section Absorb

variable {before : Text → Text → Prop} [DecidableRel before]

theorem arrange_absorbs (sorted : NameOrder before) (number : Number → Value)
    {order : List (Text × Value) → List (Text × Value)}
    (perm : ∀ members, (members.map Prod.fst).Nodup → (order members).Perm members)
    {numbers : Number → Prop} {value : Value} (apart : value.Well numbers (Apart before)) :
    (value.transform number order).arrange before = (value.transform number id).arrange before := by
  induction apart with
  | null | bool | num | str => rfl
  | arr held ih =>
      simp only [Value.arrange, Value.transform, transformItems_eq, List.map_map]
      exact congrArg Value.arr (List.map_congr_left ih)
  | @obj members named held ih =>
      simp only [Value.arrange, Value.transform, transformMembers_eq, id_eq]
      refine congrArg Value.obj (Eq.symm (byName_eq_of_perm sorted ?_ ?_))
      · rwa [map_names, map_names]
      · have below : (members.map (Prod.map id (Value.transform number id))).map
              (Prod.map id (Value.transform .num (byName before))) =
            (members.map (Prod.map id (Value.transform number order))).map
              (Prod.map id (Value.transform .num (byName before))) := by
          rw [List.map_map, List.map_map]
          refine List.map_congr_left fun entry member => ?_
          exact Prod.ext rfl (ih entry member).symm
        rw [below]
        refine (perm _ ?_).symm.map _
        rw [map_names]
        exact named.nodup sorted

/-- One change after another is one change, if the first one moves members by their names only. -/
theorem transform_transform {inner outer whole : Number → Value}
    {order first : List (Text × Value) → List (Text × Value)}
    (leaf : ∀ known, (inner known).transform outer order = whole known)
    (natural : ∀ (change : Value → Value) members,
      (first members).map (Prod.map id change) = first (members.map (Prod.map id change)))
    (value : Value) : (value.transform inner first).transform outer order =
      value.transform whole (order ∘ first) := by
  induction value using Value.induct with
  | null | bool | str => rfl
  | num known => exact leaf known
  | arr items ih =>
      simp only [Value.transform, transformItems_eq, List.map_map]
      exact congrArg Value.arr (List.map_congr_left ih)
  | obj members ih =>
      simp only [Value.transform, transformMembers_eq, natural, List.map_map, Function.comp_apply]
      refine congrArg (fun members => Value.obj (order (first members))) ?_
      exact List.map_congr_left fun entry member => Prod.ext rfl (ih entry member)

theorem transform_id (value : Value) : value.transform .num id = value := by
  induction value using Value.induct with
  | null | bool | num | str => rfl
  | arr items ih =>
      simp only [Value.transform, transformItems_eq]
      exact congrArg Value.arr ((List.map_congr_left ih).trans (List.map_id _))
  | obj members ih =>
      simp only [Value.transform, transformMembers_eq, id_eq]
      refine congrArg Value.obj ((List.map_congr_left fun entry member => ?_).trans (List.map_id _))
      exact Prod.ext rfl (ih entry member)

end Absorb

/-! What reading and writing leave of a value. -/

section Written

variable {formatNumber : Rat → Text} {numbers : Number → Prop}

theorem readBack_arrange {before : Text → Text → Prop} [DecidableRel before]
    (sorted : NameOrder before) {value : Value} (apart : value.Well numbers (Apart before)) :
    value.readBack.arrange before = value.plain.arrange before :=
  arrange_absorbs sorted Number.written (fun _ => ofMembers_perm) apart

theorem arrange_arrange {before : Text → Text → Prop} [DecidableRel before]
    (sorted : NameOrder before) {order : Text → Text → Prop} [DecidableRel order] {value : Value}
    (apart : value.Well numbers (Apart before)) :
    (value.arrange order).arrange before = value.arrange before := by
  have absorbed := arrange_absorbs sorted .num
    (fun members _ => (byName_perm members : (byName order members).Perm members)) apart
  rwa [transform_id] at absorbed

theorem stringify_plain {before : Text → Text → Prop} [DecidableRel before] (value : Value) :
    stringify formatNumber (value.plain.arrange before) =
      stringify formatNumber (value.arrange before) := by
  induction value using Value.induct with
  | null | bool | str => rfl
  | num number => cases number <;> rfl
  | arr items ih =>
      simp only [Value.plain, Value.arrange, Value.transform, transformItems_eq, stringify,
        itemTexts_eq, List.map_map]
      exact congrArg (fun texts => code '[' :: (joined texts ++ [code ']'])) (List.map_congr_left ih)
  | obj members ih =>
      simp only [Value.plain, Value.arrange, Value.transform, transformMembers_eq, stringify,
        memberTexts_eq, id_eq, ← byName_map]
      refine congrArg (fun texts =>
        code '\x7b' :: (joined ((byName before texts).map memberText) ++ [code '\x7d'])) ?_
      rw [List.map_map, List.map_map, List.map_map]
      refine List.map_congr_left ?_
      intro entry member
      exact Prod.ext rfl (ih entry member)

end Written

def Form.Well : Form → Prop
  | .value known => known.Well Number.Readable List.Nodup
  | .items known => ∀ item ∈ known, item.Well Number.Readable List.Nodup
  | .members known => ∀ entry ∈ known, entry.2.Well Number.Readable List.Nodup

theorem wordValue_cases {token : Text} {value : Value} (reads : wordValue token = some value) :
    value = .null ∨ (∃ yes, value = .bool yes) ∨
      ∃ number, value = .num number ∧ readNumber token = some number := by
  unfold wordValue at reads
  split_ifs at reads
  · exact Or.inl (Option.some.inj reads).symm
  · exact Or.inr (Or.inl ⟨true, (Option.some.inj reads).symm⟩)
  · exact Or.inr (Or.inl ⟨false, (Option.some.inj reads).symm⟩)
  · obtain ⟨number, known, rfl⟩ := Option.map_eq_some_iff.mp reads
    exact Or.inr (Or.inr ⟨number, rfl, known⟩)

theorem Spells.well {form : Form} {text : Text} (spells : Spells form text) : form.Well := by
  induction spells with
  | word reads =>
      rcases wordValue_cases reads with rfl | ⟨yes, rfl⟩ | ⟨number, rfl, known⟩
      · exact .null
      · exact .bool yes
      · exact .num ⟨_, known⟩
  | str => exact .str _
  | noItems => exact .arr (by simp)
  | arr _ ih => exact .arr ih
  | noMembers => exact .obj List.nodup_nil (by simp)
  | obj _ ih => exact .obj (ofMembers_nodup _) fun entry member => ih entry (mem_ofMembers member)
  | lastItem _ _ _ ih => exact List.forall_mem_singleton.mpr ih
  | item _ _ _ _ ih ihLater => exact List.forall_mem_cons.mpr ⟨ih, ihLater⟩
  | lastMember _ _ _ _ ih => exact List.forall_mem_singleton.mpr ih
  | member _ _ _ _ _ ih ihLater => exact List.forall_mem_cons.mpr ⟨ih, ihLater⟩

theorem parse_well {text : Text} {value : Value} (parsed : parse text = some value) :
    value.Well Number.Readable List.Nodup := by
  obtain ⟨-, spells, -⟩ := parse_eq_some_iff.mp parsed
  exact spells.well

mutual
def Value.weight : Value → Nat
  | .null => 1
  | .bool _ => 1
  | .num _ => 1
  | .str value => value.length + 1
  | .arr items => itemsWeight items + 1
  | .obj members => membersWeight members + 1

def itemsWeight : List Value → Nat
  | [] => 0
  | item :: rest => max item.weight (itemsWeight rest)

def membersWeight : List (Text × Value) → Nat
  | [] => 0
  | (_, value) :: rest => max value.weight (membersWeight rest)
end

theorem weight_le_items {items : List Value} {item : Value} (member : item ∈ items) :
    item.weight ≤ itemsWeight items := by
  induction items with
  | nil => cases member
  | cons first rest ih =>
      rw [itemsWeight]
      rcases List.mem_cons.mp member with rfl | later
      · exact le_max_left _ _
      · exact (ih later).trans (le_max_right _ _)

theorem weight_le_members {members : List (Text × Value)} {entry : Text × Value}
    (member : entry ∈ members) : entry.2.weight ≤ membersWeight members := by
  induction members with
  | nil => cases member
  | cons first rest ih =>
      obtain ⟨name, value⟩ := first
      rw [membersWeight]
      rcases List.mem_cons.mp member with rfl | later
      · exact le_max_left _ _
      · exact (ih later).trans (le_max_right _ _)

theorem membersWeight_le {members : List (Text × Value)} {bound : Nat}
    (below : ∀ entry ∈ members, entry.2.weight ≤ bound) : membersWeight members ≤ bound := by
  induction members with
  | nil => exact Nat.zero_le _
  | cons first rest ih =>
      obtain ⟨name, value⟩ := first
      obtain ⟨head, tail⟩ := List.forall_mem_cons.mp below
      exact max_le head (ih tail)

theorem ofMembers_weight (members : List (Text × Value)) :
    membersWeight (ofMembers members) ≤ membersWeight members :=
  membersWeight_le fun _ member => weight_le_members (mem_ofMembers member)

def Form.weight : Form → Nat
  | .value known => known.weight
  | .items known => itemsWeight known
  | .members known => membersWeight known

theorem Piece.length {raw : Text} {unit : UInt16} (piece : Piece raw unit) : 0 < raw.length := by
  cases piece <;> simp

theorem Quotes.length {raw units : Text} (quotes : Quotes raw units) :
    units.length < raw.length := by
  induction quotes with
  | close => simp
  | piece first later ih =>
      have long := first.length
      simp only [List.length_cons, List.length_append]
      omega

/-- A text is at least as long as what it spells is heavy. -/
theorem Spells.weight {form : Form} {text : Text} (spells : Spells form text) :
    form.weight ≤ text.length := by
  induction spells with
  | @word token value reads =>
      have long := List.length_pos_iff.mpr (Spells.word reads).nonempty
      rcases wordValue_cases reads with rfl | ⟨yes, rfl⟩ | ⟨number, rfl, -⟩ <;> exact long
  | str quotes =>
      have long := quotes.length
      simp only [Form.weight, Value.weight, List.length_cons]
      omega
  | noItems => simp [Form.weight, Value.weight, itemsWeight]
  | arr _ ih =>
      simp only [Form.weight, Value.weight, List.length_cons] at ih ⊢
      omega
  | noMembers => simp [Form.weight, Value.weight, membersWeight]
  | @obj members _ _ ih =>
      have kept := ofMembers_weight members
      simp only [Form.weight, Value.weight, List.length_cons] at ih ⊢
      omega
  | lastItem _ _ _ ih =>
      simp only [Form.weight, itemsWeight, List.length_append, List.length_cons] at ih ⊢
      omega
  | item _ _ _ _ ih ihLater =>
      simp only [Form.weight, itemsWeight, List.length_append, List.length_cons] at ih ihLater ⊢
      omega
  | lastMember _ _ _ _ ih =>
      simp only [Form.weight, membersWeight, List.length_append, List.length_cons] at ih ⊢
      omega
  | member _ _ _ _ _ ih ihLater =>
      simp only [Form.weight, membersWeight, List.length_append, List.length_cons] at ih ihLater ⊢
      omega

theorem parse_weight {text : Text} {value : Value} (parsed : parse text = some value) :
    value.weight ≤ text.length := by
  obtain ⟨-, spells, -⟩ := parse_eq_some_iff.mp parsed
  have inner : value.weight ≤ _ := spells.weight
  simp only [List.length_append]
  omega

end Devproof.Parsing
