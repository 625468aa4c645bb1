import Devproof.Digests.CanonicalJson

/-!
The order of members in the canonical text.  The sort is stable, so members
that compare as equal stay in the order the object lists them.
-/

namespace Devproof

theorem pair_ordered {α : Type} {first second : α} {items : List α} (distinct : items.Nodup)
    (forward : [first, second].Sublist items) : ¬[second, first].Sublist items := by
  intro backward
  induction items with
  | nil => cases forward
  | cons item rest ih =>
      obtain ⟨fresh, later⟩ := List.nodup_cons.mp distinct
      cases forward with
      | cons _ ahead =>
          cases backward with
          | cons _ behind => exact ih later ahead behind
          | cons_cons _ behind => exact fresh (ahead.subset (by simp))
      | cons_cons _ ahead =>
          cases backward with
          | cons _ behind => exact fresh (behind.subset (by simp))
          | cons_cons _ behind => exact fresh (ahead.subset (by simp))

section Stable

variable {α : Type} (before : α → α → Prop) {listed : α → α → Prop} [DecidableRel before]

theorem orderedInsert_stable {item : α} {items : List α}
    (stable : items.Pairwise fun left right => before right left → listed left right)
    (ahead : ∀ other ∈ items, listed item other) :
    (items.orderedInsert before item).Pairwise fun left right =>
      before right left → listed left right := by
  induction items with
  | nil => simp
  | cons first rest ih =>
      obtain ⟨follows, later⟩ := List.pairwise_cons.mp stable
      rw [List.orderedInsert]
      split
      · refine List.pairwise_cons.mpr ⟨?_, stable⟩
        intro other member _
        exact ahead other member
      · rename_i refused
        refine List.pairwise_cons.mpr ⟨?_, ih later fun other member =>
          ahead other (List.mem_cons_of_mem _ member)⟩
        intro other member
        rcases (List.mem_orderedInsert before).mp member with rfl | inside
        · intro accepted
          exact absurd accepted refused
        · exact follows other inside

theorem insertionSort_stable {items : List α} (ordered : items.Pairwise listed) :
    (items.insertionSort before).Pairwise fun left right =>
      before right left → listed left right := by
  induction ordered with
  | nil => exact List.Pairwise.nil
  | cons ahead _ ih =>
      exact orderedInsert_stable before ih fun other member =>
        ahead other ((List.mem_insertionSort before).mp member)

end Stable

section Locale

variable {locale : Locale}

def Apart {α : Type} (locale : Locale) (entries : List (String × α)) : Prop :=
  entries.Pairwise fun left right => tied locale left.1 right.1 = false

def Listed {α : Type} (entries : List (String × α)) : Prop :=
  entries.Pairwise fun left right => listedBefore left.1 right.1 = true

theorem tied_symm (left right : String) : tied locale left right = tied locale right left := by
  rw [Bool.eq_iff_iff]
  simp only [tied, Bool.and_eq_true]
  tauto

theorem Apart.perm {α : Type} {left right : List (String × α)} (apart : Apart locale left)
    (same : left.Perm right) : Apart locale right :=
  List.Pairwise.perm apart same fun separate => by rwa [tied_symm]

theorem listedBefore_both {left right : String} (forward : listedBefore left right = true)
    (backward : listedBefore right left = true) :
    arrayIndex left = none ∧ arrayIndex right = none := by
  unfold listedBefore at forward backward
  cases first : arrayIndex left with
  | none =>
      cases second : arrayIndex right with
      | none => exact ⟨rfl, rfl⟩
      | some _ => simp [first, second] at forward
  | some early =>
      cases second : arrayIndex right with
      | none => simp [first, second] at backward
      | some late =>
          simp only [first, second, decide_eq_true_eq] at forward backward
          omega

variable (ordered : TotalPreorder locale.localeCompare)

theorem sortMembers_perm {α : Type} (locale : Locale) (entries : List (String × α)) :
    (sortMembers locale entries).Perm entries :=
  List.perm_insertionSort _ _

theorem sorted_pair {α : Type} {first second : String × α} {entries : List (String × α)}
    (forward : locale.localeCompare first.1 second.1 ≤ 0)
    (listed : [first, second].Sublist entries) :
    [first, second].Sublist (sortMembers locale entries) :=
  List.pair_sublist_insertionSort forward listed

include ordered

theorem localeCompare_total (left right : String) :
    locale.localeCompare left right ≤ 0 ∨ locale.localeCompare right left ≤ 0 := by
  have reversed := ordered.reversed right left
  omega

theorem sortMembers_sorted {α : Type} (entries : List (String × α)) :
    (sortMembers locale entries).Pairwise fun left right =>
      locale.localeCompare left.1 right.1 ≤ 0 := by
  have total : Std.Total fun left right : String × α =>
      locale.localeCompare left.1 right.1 ≤ 0 :=
    ⟨fun left right => localeCompare_total ordered left.1 right.1⟩
  have transitive : IsTrans (String × α) fun left right =>
      locale.localeCompare left.1 right.1 ≤ 0 :=
    ⟨fun first second third => ordered.transitive first.1 second.1 third.1⟩
  exact List.pairwise_insertionSort _ _

theorem sorted_apart {α : Type} {entries : List (String × α)} (apart : Apart locale entries)
    (listed : Listed entries) :
    (sortMembers locale entries).Pairwise fun left right =>
      locale.localeCompare left.1 right.1 ≤ 0 ∧
        (locale.localeCompare right.1 left.1 ≤ 0 →
          tied locale left.1 right.1 = false ∧ listedBefore left.1 right.1 = true) :=
  (sortMembers_sorted ordered entries).and (insertionSort_stable _ (apart.and listed))

theorem sortMembers_eq_iff {α : Type} {left right : List (String × α)}
    (apart : Apart locale left) (first : Listed left) (second : Listed right) :
    sortMembers locale left = sortMembers locale right ↔ left.Perm right := by
  constructor
  · intro same
    have between := sortMembers_perm locale left
    rw [same] at between
    exact between.symm.trans (sortMembers_perm locale right)
  · intro same
    refine List.Perm.eq_of_pairwise ?_ (sorted_apart ordered apart first)
      (sorted_apart ordered (apart.perm same) second)
      ((sortMembers_perm locale left).trans (same.trans (sortMembers_perm locale right).symm))
    -- two entries that may stand either way would be tied
    rintro entry other - - ⟨forward, early⟩ ⟨backward, late⟩
    obtain ⟨separate, ahead⟩ := early backward
    obtain ⟨free, freed⟩ := listedBefore_both ahead (late forward).2
    simp [tied, forward, backward, free, freed] at separate

end Locale

end Devproof
