import Mathlib.Data.List.Basic
import Mathlib.Order.Basic

/-!
Saturation: passes over a list that take in every row that goes with what was
taken so far, until a pass takes in nothing.  The keys taken are the least that
contain the first ones and are closed.
-/

namespace Devproof

namespace Saturation

section Passes

variable {Row Key : Type} [DecidableEq Key] (key : Row → Key) (joins : List Key → Row → Bool)

/-- One pass: the keys taken, and whether there was a new one. -/
def pass : List Row → List Key → List Key × Bool
  | [], taken => (taken, false)
  | row :: rows, taken =>
      if !taken.contains (key row) && joins taken row then
        ((pass rows (key row :: taken)).1, true)
      else pass rows taken

def outside (rows : List Row) (taken : List Key) : List Row :=
  rows.filter fun row => !taken.contains (key row)

variable {key joins} {rows : List Row} {taken : List Key}

theorem pass_keeps : ∀ {taken : List Key} {item : Key}, item ∈ taken →
    item ∈ (pass key joins rows taken).1 := by
  induction rows with
  | nil => exact fun member => member
  | cons row rows ih =>
      intro taken item member
      simp only [pass]
      split
      · exact ih (List.mem_cons_of_mem _ member)
      · exact ih member

theorem pass_new : ∀ {taken : List Key}, (pass key joins rows taken).2 = true →
    ∃ row ∈ rows, key row ∉ taken ∧ key row ∈ (pass key joins rows taken).1 := by
  induction rows with
  | nil => exact fun none => by cases none
  | cons row rows ih =>
      intro taken new
      simp only [pass] at new ⊢
      split
      · rename_i here
        simp only [Bool.and_eq_true, Bool.not_eq_true', List.contains_eq_mem,
          decide_eq_false_iff_not] at here
        exact ⟨row, List.mem_cons_self .., here.1, pass_keeps (List.mem_cons_self ..)⟩
      · rename_i here
        rw [if_neg here] at new
        obtain ⟨other, member, fresh, found⟩ := ih new
        exact ⟨other, List.mem_cons_of_mem _ member, fresh, found⟩

theorem outside_lt (new : (pass key joins rows taken).2 = true) :
    (outside key rows (pass key joins rows taken).1).length <
      (outside key rows taken).length := by
  obtain ⟨row, member, fresh, found⟩ := pass_new new
  have fewer : (outside key rows (pass key joins rows taken).1).Sublist
      (outside key rows taken) := by
    refine List.monotone_filter_right rows fun other => ?_
    simp only [Bool.not_eq_true', List.contains_eq_mem, decide_eq_false_iff_not]
    exact fun missing known => missing (pass_keeps known)
  refine Nat.lt_of_le_of_ne fewer.length_le fun same => ?_
  have present : row ∈ outside key rows taken := by
    simp [outside, member, fresh]
  rw [← fewer.eq_of_length same] at present
  simp [outside, found] at present

variable (key joins rows) in
def saturate (taken : List Key) : List Key :=
  if (pass key joins rows taken).2 then saturate (pass key joins rows taken).1
  else (pass key joins rows taken).1
  termination_by (outside key rows taken).length
  decreasing_by exact outside_lt ‹_›

variable (key joins rows) in
inductive Joined (first : List Key) : Key → Prop where
  | first {item : Key} : item ∈ first → Joined first item
  | joined {row : Row} {before : List Key} : row ∈ rows →
      (∀ item ∈ before, Joined first item) → joins before row = true → Joined first (key row)

theorem pass_joined {all : List Row} {first : List Key} (part : ∀ row ∈ rows, row ∈ all) :
    ∀ {taken : List Key}, (∀ item ∈ taken, Joined key joins all first item) →
      ∀ item ∈ (pass key joins rows taken).1, Joined key joins all first item := by
  induction rows with
  | nil => exact fun known => known
  | cons row rows ih =>
      intro taken known
      have rest := fun other member => part other (List.mem_cons_of_mem row member)
      simp only [pass]
      split
      · rename_i here
        rw [Bool.and_eq_true] at here
        refine ih rest fun item member => ?_
        rcases List.mem_cons.mp member with rfl | old
        · exact .joined (part row (List.mem_cons_self ..)) known here.2
        · exact known item old
      · exact ih rest known

/-- A pass that takes in nothing has found the keys closed. -/
theorem pass_closed : ∀ {taken : List Key}, (pass key joins rows taken).2 = false →
    (pass key joins rows taken).1 = taken ∧
      ∀ row ∈ rows, joins taken row = true → key row ∈ taken := by
  induction rows with
  | nil => exact fun _ => ⟨rfl, nofun⟩
  | cons row rows ih =>
      intro taken quiet
      simp only [pass] at quiet ⊢
      split
      · rename_i here
        rw [if_pos here] at quiet
        cases quiet
      · rename_i here
        rw [if_neg here] at quiet
        obtain ⟨same, closed⟩ := ih quiet
        refine ⟨same, fun other member goes => ?_⟩
        rcases List.mem_cons.mp member with rfl | old
        · by_contra missing
          exact here (by simp [missing, goes])
        · exact closed other old goes

theorem saturate_joined {first : List Key} (taken : List Key)
    (known : ∀ item ∈ taken, Joined key joins rows first item) :
    ∀ item ∈ saturate key joins rows taken, Joined key joins rows first item := by
  induction taken using saturate.induct key joins rows with
  | case1 taken new ih =>
      rw [saturate, if_pos new]
      exact ih (pass_joined (fun _ member => member) known)
  | case2 taken quiet =>
      rw [saturate, if_neg quiet]
      exact pass_joined (fun _ member => member) known

theorem saturate_keeps (taken : List Key) {item : Key} (member : item ∈ taken) :
    item ∈ saturate key joins rows taken := by
  induction taken using saturate.induct key joins rows with
  | case1 taken new ih =>
      rw [saturate, if_pos new]
      exact ih (pass_keeps member)
  | case2 taken quiet =>
      rw [saturate, if_neg quiet]
      exact pass_keeps member

theorem saturate_closed (taken : List Key) : ∀ row ∈ rows,
    joins (saturate key joins rows taken) row = true →
      key row ∈ saturate key joins rows taken := by
  induction taken using saturate.induct key joins rows with
  | case1 taken new ih =>
      rw [saturate, if_pos new]
      exact ih
  | case2 taken quiet =>
      rw [saturate, if_neg quiet]
      obtain ⟨same, closed⟩ := pass_closed (Bool.eq_false_iff.mpr quiet)
      rw [same]
      exact closed

/-- What the passes take in, where more keys never make a row stay out. -/
theorem mem_saturate (monotone : ∀ few many row, (∀ item ∈ few, item ∈ many) →
      joins few row = true → joins many row = true) {item : Key} :
    item ∈ saturate key joins rows taken ↔ Joined key joins rows taken item := by
  constructor
  · exact saturate_joined taken (fun _ member => .first member) item
  · intro joined
    induction joined with
    | first member => exact saturate_keeps taken member
    | joined member _ goes ih => exact saturate_closed taken _ member (monotone _ _ _ ih goes)

end Passes

end Saturation

end Devproof
