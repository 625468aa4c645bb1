import Mathlib.Data.List.Basic

/-!
Paths written as segments between separators.  A path names everything below it,
so two paths overlap when one starts the other.
-/

namespace Devproof

variable {α : Type}

def joined (separator : α) (path : List (List α)) : List α :=
  [separator].intercalate path

def Plain (separator : α) (path : List (List α)) : Prop :=
  ∀ segment ∈ path, segment ≠ [] ∧ separator ∉ segment

def Overlap {β : Type} (left right : List β) : Prop :=
  left <+: right ∨ right <+: left

instance {β : Type} [DecidableEq β] (left right : List β) : Decidable (Overlap left right) :=
  inferInstanceAs (Decidable (_ ∨ _))

theorem overlap_comm {β : Type} {left right : List β} : Overlap left right ↔ Overlap right left :=
  or_comm

theorem overlap_nil {β : Type} (path : List β) : Overlap [] path :=
  Or.inl (List.nil_prefix)

theorem overlap_cons_iff {β : Type} {first second : β} {left right : List β} :
    Overlap (first :: left) (second :: right) ↔ first = second ∧ Overlap left right := by
  simp only [Overlap, List.cons_prefix_cons]
  constructor
  · rintro (⟨same, within⟩ | ⟨same, within⟩)
    · exact ⟨same, Or.inl within⟩
    · exact ⟨same.symm, Or.inr within⟩
  · rintro ⟨same, within | within⟩
    · exact Or.inl ⟨same, within⟩
    · exact Or.inr ⟨same.symm, within⟩

theorem Plain.tail {separator : α} {segment : List α} {path : List (List α)}
    (plain : Plain separator (segment :: path)) : Plain separator path :=
  fun later member => plain later (List.mem_cons_of_mem _ member)

theorem splitOn_separator [BEq α] [LawfulBEq α] (separator : α) (text : List α) :
    ∀ segment ∈ text.splitOn separator, separator ∉ segment := by
  induction text with
  | nil => simp
  | cons head tail ih =>
      rw [List.splitOn_cons_eq_if_modifyHead]
      by_cases here : head = separator
      · simpa [here] using ih
      · simp only [beq_iff_eq, here, if_false]
        cases split : tail.splitOn separator with
        | nil => simp
        | cons first rest =>
            rw [split] at ih
            intro segment member
            rcases List.mem_cons.mp member with rfl | later
            · intro inside
              rcases List.mem_cons.mp inside with same | inside
              · exact here same.symm
              · exact ih first (List.mem_cons_self ..) inside
            · exact ih segment (List.mem_cons_of_mem _ later)

theorem segments_plain [BEq α] [LawfulBEq α] (separator : α) (text : List α) :
    Plain separator ((text.splitOn separator).filter fun segment => segment != []) := by
  intro segment member
  obtain ⟨split, solid⟩ := List.mem_filter.mp member
  exact ⟨by simpa using solid, splitOn_separator separator text segment split⟩

@[simp] theorem joined_nil (separator : α) : joined separator [] = [] := rfl

@[simp] theorem joined_singleton (separator : α) (segment : List α) :
    joined separator [segment] = segment := by
  simp [joined]

@[simp] theorem joined_cons_cons (separator : α) (first second : List α) (path : List (List α)) :
    joined separator (first :: second :: path) =
      first ++ separator :: joined separator (second :: path) := by
  simp [joined, List.intercalate_cons_cons]

theorem segment_prefix_iff {separator : α} {first second : List α} (left right : List α)
    (plainFirst : separator ∉ first) (plainSecond : separator ∉ second) :
    first ++ separator :: left <+: second ++ separator :: right ↔
      first = second ∧ left <+: right := by
  induction first generalizing second with
  | nil =>
      cases second with
      | nil => simp
      | cons head tail =>
          have other : separator ≠ head := by
            rintro rfl
            exact plainSecond (List.mem_cons_self ..)
          simp [other]
  | cons head tail ih =>
      cases second with
      | nil =>
          have other : head ≠ separator := by
            rintro rfl
            exact plainFirst (List.mem_cons_self ..)
          simp [other]
      | cons head' tail' =>
          simp only [List.mem_cons, not_or] at plainFirst plainSecond
          simp only [List.cons_append, List.cons_prefix_cons, List.cons.injEq,
            ih plainFirst.2 plainSecond.2, and_assoc]

theorem joined_eq_nil_iff {separator : α} {path : List (List α)} (plain : Plain separator path) :
    joined separator path = [] ↔ path = [] := by
  cases path with
  | nil => simp
  | cons first rest =>
      have solid := (plain first (List.mem_cons_self ..)).1
      cases rest with
      | nil => simpa using solid
      | cons second rest => simp

/-- `text.startsWith(path + separator)` finds the paths strictly below a path. -/
theorem joined_prefix_iff {separator : α} {left right : List (List α)} (solid : left ≠ [])
    (plainLeft : Plain separator left) (plainRight : Plain separator right) :
    joined separator left ++ [separator] <+: joined separator right ↔
      left <+: right ∧ left ≠ right := by
  induction left generalizing right with
  | nil => exact absurd rfl solid
  | cons first rest ih =>
      have firstPlain := (plainLeft first (List.mem_cons_self ..)).2
      cases right with
      | nil => simp
      | cons head tail =>
          have headPlain := (plainRight head (List.mem_cons_self ..)).2
          cases rest with
          | nil =>
              cases tail with
              | nil =>
                  have outside : ¬ first ++ [separator] <+: head := by
                    intro within
                    exact headPlain (within.subset (by simp))
                  simp [outside, List.cons_prefix_cons]
              | cons second tail =>
                  simp [segment_prefix_iff _ _ firstPlain headPlain, List.cons_prefix_cons]
          | cons second rest =>
              cases tail with
              | nil =>
                  have outside : ¬ first ++ separator :: joined separator (second :: rest) ++
                      [separator] <+: head := by
                    intro within
                    exact headPlain (within.subset (by simp))
                  simpa [List.cons_prefix_cons] using outside
              | cons next tail =>
                  have below := ih (by simp) plainLeft.tail plainRight.tail
                  rw [joined_cons_cons, joined_cons_cons, List.append_assoc, List.cons_append,
                    segment_prefix_iff _ _ firstPlain headPlain, below]
                  constructor
                  · rintro ⟨same, within, other⟩
                    exact ⟨List.cons_prefix_cons.mpr ⟨same, within⟩,
                      fun equal => other (List.cons.inj equal).2⟩
                  · rintro ⟨within, other⟩
                    obtain ⟨same, below⟩ := List.cons_prefix_cons.mp within
                    exact ⟨same, below, fun equal => other (by rw [same, equal])⟩

theorem joined_injective [BEq α] [LawfulBEq α] {separator : α} {left right : List (List α)}
    (plainLeft : Plain separator left) (plainRight : Plain separator right)
    (same : joined separator left = joined separator right) : left = right := by
  by_cases empty : left = []
  · subst empty
    exact ((joined_eq_nil_iff plainRight).mp same.symm).symm
  · have solid : right ≠ [] := by
      intro none
      rw [none, joined_nil] at same
      exact empty ((joined_eq_nil_iff plainLeft).mp same)
    calc left = (joined separator left).splitOn separator :=
          (List.splitOn_intercalate separator (fun _ member => (plainLeft _ member).2) empty).symm
      _ = (joined separator right).splitOn separator := by rw [same]
      _ = right := List.splitOn_intercalate separator (fun _ member => (plainRight _ member).2) solid

theorem joined_overlap_iff [BEq α] [LawfulBEq α] {separator : α} {left right : List (List α)}
    (plainLeft : Plain separator left) (plainRight : Plain separator right) :
    joined separator left = [] ∨ joined separator right = [] ∨
        joined separator left = joined separator right ∨
        joined separator right ++ [separator] <+: joined separator left ∨
        joined separator left ++ [separator] <+: joined separator right ↔
      Overlap left right := by
  by_cases emptyLeft : left = []
  · subst emptyLeft
    simp [overlap_nil]
  by_cases emptyRight : right = []
  · subst emptyRight
    simp [overlap_comm.mp (overlap_nil left)]
  rw [joined_eq_nil_iff plainLeft, joined_eq_nil_iff plainRight,
    joined_prefix_iff emptyRight plainRight plainLeft, joined_prefix_iff emptyLeft plainLeft plainRight]
  simp only [emptyLeft, emptyRight, false_or]
  constructor
  · rintro (same | within | within)
    · have equal := joined_injective plainLeft plainRight same
      subst equal
      exact Or.inl (List.prefix_refl left)
    · exact Or.inr within.1
    · exact Or.inl within.1
  · intro overlap
    by_cases same : left = right
    · exact Or.inl (by rw [same])
    · rcases overlap with within | within
      · exact Or.inr (Or.inr ⟨within, same⟩)
      · exact Or.inr (Or.inl ⟨within, fun equal => same equal.symm⟩)

end Devproof
