import Devproof.Lib.JsonOrder

/-!
Objects whose members stand in enumeration order, as every object of a text does.
-/

namespace Devproof.Parsing

def InOrder (names : List Text) : Prop :=
  names.Nodup ∧ names.Pairwise listedFirst

theorem ofMembers_inOrder {members : List (Text × Value)}
    (inOrder : InOrder (members.map Prod.fst)) : ofMembers members = members := by
  have folded : members.foldl setMember [] = members :=
    foldl_setMember_append (by simpa using inOrder.1)
  rw [ofMembers, folded]
  exact (List.pairwise_map.mp inOrder.2).insertionSort_eq

theorem inOrder_ofMembers (members : List (Text × Value)) :
    InOrder ((ofMembers members).map Prod.fst) := by
  have order : NameOrder listedFirst :=
    ⟨fun left right => Nat.le_total _ _, fun _ _ _ => Nat.le_trans⟩
  exact ⟨ofMembers_nodup members, List.pairwise_map.mpr (byName_sorted order _)⟩

def Form.Ordered : Form → Prop
  | .value known => known.Well Number.Readable InOrder
  | .items known => ∀ item ∈ known, item.Well Number.Readable InOrder
  | .members known => ∀ entry ∈ known, entry.2.Well Number.Readable InOrder

theorem Spells.ordered {form : Form} {text : Text} (spells : Spells form text) :
    form.Ordered := by
  induction spells with
  | word reads =>
      rcases wordValue_cases reads with rfl | ⟨yes, rfl⟩ | ⟨number, rfl, known⟩
      · exact .null
      · exact .bool yes
      · exact .num ⟨_, known⟩
  | str => exact .str _
  | noItems => exact .arr (by simp)
  | arr _ ih => exact .arr ih
  | noMembers => exact .obj ⟨List.nodup_nil, List.Pairwise.nil⟩ (by simp)
  | obj _ ih =>
      exact .obj (inOrder_ofMembers _) fun entry member => ih entry (mem_ofMembers member)
  | lastItem _ _ _ ih => exact List.forall_mem_singleton.mpr ih
  | item _ _ _ _ ih ihLater => exact List.forall_mem_cons.mpr ⟨ih, ihLater⟩
  | lastMember _ _ _ _ ih => exact List.forall_mem_singleton.mpr ih
  | member _ _ _ _ _ ih ihLater => exact List.forall_mem_cons.mpr ⟨ih, ihLater⟩

theorem parse_inOrder {text : Text} {value : Value} (parsed : parse text = some value) :
    value.Well Number.Readable InOrder := by
  obtain ⟨-, spells, -⟩ := parse_eq_some_iff.mp parsed
  exact spells.ordered

theorem readBack_inOrder {number : Number → Prop} {value : Value}
    (well : value.Well number InOrder) : value.readBack = value.plain := by
  induction well with
  | arr held ih =>
      simp only [Value.readBack, Value.plain, Value.transform, transformItems_eq] at ih ⊢
      rw [List.map_congr_left ih]
  | @obj members named held ih =>
      simp only [Value.readBack, Value.plain, Value.transform, transformMembers_eq] at ih ⊢
      rw [ofMembers_inOrder (by rwa [map_names])]
      refine congrArg Value.obj (List.map_congr_left fun entry member => ?_)
      exact Prod.ext rfl (ih entry member)
  | _ => rfl

theorem well_any (value : Value) : value.Well (fun _ => True) fun _ => True := by
  induction value using Value.induct with
  | null => exact .null
  | bool value => exact .bool value
  | num value => exact .num trivial
  | str value => exact .str value
  | arr items held => exact .arr held
  | obj members held => exact .obj trivial held

end Devproof.Parsing
