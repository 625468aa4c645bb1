import Mathlib.Algebra.BigOperators.Group.List.Basic
import Mathlib.Algebra.Order.Group.Int
import Mathlib.Tactic.Linarith

/-!
Maps that remember the order in which their keys arrived, used to count and to
add up durations, and the adding up of labelled slices between sorted points.
-/

namespace Devproof

section Entries

variable {κ ν : Type} [DecidableEq κ]

def setEntry (key : κ) (value : ν) : List (κ × ν) → List (κ × ν)
  | [] => [(key, value)]
  | (other, old) :: rest =>
      if other = key then (key, value) :: rest else (other, old) :: setEntry key value rest

def deleteEntry (key : κ) (entries : List (κ × ν)) : List (κ × ν) :=
  entries.filter fun entry => entry.1 ≠ key

def amount (entries : List (κ × Int)) (key : κ) : Int :=
  match entries with
  | [] => 0
  | (other, value) :: rest => if other = key then value else amount rest key

@[simp] theorem amount_nil (key : κ) : amount [] key = 0 := rfl

@[simp] theorem amount_cons (other : κ) (value : Int) (rest : List (κ × Int)) (key : κ) :
    amount ((other, value) :: rest) key = if other = key then value else amount rest key := rfl

theorem amount_setEntry (entries : List (κ × Int)) (key other : κ) (value : Int) :
    amount (setEntry key value entries) other =
      if other = key then value else amount entries other := by
  induction entries with
  | nil => simp [setEntry, eq_comm]
  | cons entry rest ih =>
      obtain ⟨first, old⟩ := entry
      simp only [setEntry]
      by_cases same : first = key
      · subst same
        by_cases here : other = first
        · simp [here]
        · simp [here, Ne.symm here]
      · rw [if_neg same, amount_cons, amount_cons, ih]
        by_cases here : other = key
        · subst here
          simp [same]
        · simp [here]

theorem amount_deleteEntry (entries : List (κ × Int)) (key other : κ) :
    amount (deleteEntry key entries) other = if other = key then 0 else amount entries other := by
  induction entries with
  | nil => simp [deleteEntry]
  | cons entry rest ih =>
      obtain ⟨first, old⟩ := entry
      simp only [deleteEntry] at ih ⊢
      by_cases same : first = key
      · subst same
        simp only [ne_eq, not_true, decide_false, Bool.false_eq_true, not_false_iff,
          List.filter_cons_of_neg, ih, amount_cons]
        by_cases here : other = first
        · simp [here]
        · simp [here, Ne.symm here]
      · simp only [ne_eq, same, not_false_iff, decide_true, List.filter_cons_of_pos, amount_cons, ih]
        by_cases here : other = key
        · subst here
          simp [same]
        · simp [here]

theorem mem_setEntry {key : κ} {value : ν} {entries : List (κ × ν)} {entry : κ × ν}
    (member : entry ∈ setEntry key value entries) : entry = (key, value) ∨ entry ∈ entries := by
  induction entries with
  | nil => exact Or.inl (List.mem_singleton.mp member)
  | cons first rest ih =>
      obtain ⟨other, old⟩ := first
      simp only [setEntry] at member
      split at member
      · rcases List.mem_cons.mp member with here | later
        · exact Or.inl here
        · exact Or.inr (List.mem_cons_of_mem _ later)
      · rcases List.mem_cons.mp member with here | later
        · exact Or.inr (here ▸ List.mem_cons_self ..)
        · exact (ih later).imp_right (List.mem_cons_of_mem _)

theorem lookup_entry (key other : κ) (value : ν) (rest : List (κ × ν)) :
    ((key, value) :: rest).lookup other = if other = key then some value else rest.lookup other := by
  rw [List.lookup_cons]
  by_cases same : other = key
  · simp [same]
  · simp [same, beq_false_of_ne same]

theorem lookup_setEntry (entries : List (κ × ν)) (key other : κ) (value : ν) :
    (setEntry key value entries).lookup other =
      if other = key then some value else entries.lookup other := by
  induction entries with
  | nil => exact lookup_entry key other value []
  | cons entry rest ih =>
      obtain ⟨first, old⟩ := entry
      simp only [setEntry]
      split
      · rename_i here
        rw [lookup_entry, lookup_entry, here]
        split <;> rfl
      · rename_i here
        rw [lookup_entry, lookup_entry, ih]
        by_cases same : other = first
        · subst same
          rw [if_pos rfl, if_neg here, if_pos rfl]
        · rw [if_neg same, if_neg same]

def getEntry (entries : List (κ × ν)) (key : κ) : Option ν :=
  entries.lookup key

theorem getEntry_setEntry (entries : List (κ × ν)) (key other : κ) (value : ν) :
    getEntry (setEntry key value entries) other =
      if other = key then some value else getEntry entries other :=
  lookup_setEntry entries key other value

theorem getEntry_deleteEntry (entries : List (κ × ν)) (key other : κ) :
    getEntry (deleteEntry key entries) other =
      if other = key then none else getEntry entries other := by
  induction entries with
  | nil => simp [getEntry, deleteEntry]
  | cons entry rest ih =>
      obtain ⟨first, value⟩ := entry
      simp only [getEntry, deleteEntry] at ih ⊢
      by_cases same : first = key
      · rw [List.filter_cons_of_neg (by simpa using same), ih, lookup_entry]
        by_cases here : other = key
        · rw [if_pos here, if_pos here]
        · rw [if_neg here, if_neg here, if_neg (same ▸ here)]
      · rw [List.filter_cons_of_pos (by simpa using same), lookup_entry, lookup_entry, ih]
        by_cases here : other = first
        · rw [if_pos here, if_pos here, if_neg (here ▸ same)]
        · rw [if_neg here, if_neg here]

theorem mem_of_getEntry {entries : List (κ × ν)} {key : κ} {value : ν}
    (found : getEntry entries key = some value) : (key, value) ∈ entries := by
  induction entries with
  | nil => exact absurd found (by simp [getEntry])
  | cons entry rest ih =>
      obtain ⟨first, old⟩ := entry
      rw [getEntry, lookup_entry] at found
      by_cases same : key = first
      · rw [if_pos same] at found
        rw [same, Option.some.inj found]
        exact List.mem_cons_self
      · rw [if_neg same] at found
        exact List.mem_cons_of_mem _ (ih found)

theorem keys_setEntry {entries : List (κ × ν)} (distinct : (entries.map Prod.fst).Nodup) (key : κ)
    (value : ν) : ((setEntry key value entries).map Prod.fst).Nodup := by
  induction entries with
  | nil => simp [setEntry]
  | cons entry rest ih =>
      obtain ⟨first, old⟩ := entry
      obtain ⟨absent, distinct⟩ := List.nodup_cons.mp distinct
      simp only [setEntry]
      by_cases here : first = key
      · subst here
        rw [if_pos rfl]
        exact List.nodup_cons.mpr ⟨absent, distinct⟩
      · rw [if_neg here]
        refine List.nodup_cons.mpr ⟨?_, ih distinct⟩
        intro member
        obtain ⟨other, found, same⟩ := List.mem_map.mp member
        rcases mem_setEntry found with added | known
        · rw [added] at same
          exact here same.symm
        · exact absent (List.mem_map.mpr ⟨other, known, same⟩)

theorem setEntry_setEntry (entries : List (κ × ν)) (key : κ) (first second : ν) :
    setEntry key second (setEntry key first entries) = setEntry key second entries := by
  induction entries with
  | nil => simp [setEntry]
  | cons entry rest ih =>
      obtain ⟨other, old⟩ := entry
      simp only [setEntry]
      by_cases same : other = key
      · simp [same, setEntry]
      · simp [same, setEntry, ih]

def totalOf (chosen : κ → Bool) (entries : List (κ × Int)) : Int :=
  ((entries.filter fun entry => chosen entry.1).map Prod.snd).sum

omit [DecidableEq κ] in
@[simp] theorem totalOf_nil (chosen : κ → Bool) : totalOf chosen [] = 0 := rfl

omit [DecidableEq κ] in
@[simp] theorem totalOf_cons (chosen : κ → Bool) (key : κ) (value : Int)
    (rest : List (κ × Int)) :
    totalOf chosen ((key, value) :: rest) =
      (if chosen key then value else 0) + totalOf chosen rest := by
  by_cases picked : chosen key = true <;> simp [totalOf, picked]

theorem totalOf_setEntry (chosen : κ → Bool) (entries : List (κ × Int)) (key : κ) (value : Int) :
    totalOf chosen (setEntry key value entries) =
      totalOf chosen entries + if chosen key then value - amount entries key else 0 := by
  induction entries with
  | nil => simp [setEntry]
  | cons entry rest ih =>
      obtain ⟨other, old⟩ := entry
      simp only [setEntry]
      by_cases same : other = key
      · subst same
        rw [if_pos rfl, totalOf_cons, totalOf_cons, amount_cons, if_pos rfl]
        split <;> omega
      · rw [if_neg same, totalOf_cons, totalOf_cons, amount_cons, if_neg same, ih]
        omega

end Entries

section Slices

variable {τ : Type} [DecidableEq τ]

def accumulate (label : Int → τ) : List Int → List (τ × Int) → List (τ × Int)
  | point :: next :: rest, totals =>
      accumulate label (next :: rest)
        (setEntry (label point) (amount totals (label point) + (next - point)) totals)
  | _, totals => totals

/-- Points inside a slice that carry its label change nothing. -/
theorem accumulate_run (label : Int → τ) (point next : Int) (inner rest : List Int)
    (totals : List (τ × Int)) (same : ∀ place ∈ inner, label place = label point) :
    accumulate label (point :: (inner ++ next :: rest)) totals =
      accumulate label (point :: next :: rest) totals := by
  induction inner generalizing point totals with
  | nil => rfl
  | cons place inner ih =>
      have here : label place = label point := same place (List.mem_cons_self ..)
      have later : ∀ other ∈ inner, label other = label place := by
        intro other member
        rw [here]
        exact same other (List.mem_cons_of_mem _ member)
      calc accumulate label (point :: ((place :: inner) ++ next :: rest)) totals
          = accumulate label (place :: (inner ++ next :: rest))
              (setEntry (label point) (amount totals (label point) + (place - point)) totals) := rfl
        _ = accumulate label (place :: next :: rest)
              (setEntry (label point) (amount totals (label point) + (place - point)) totals) :=
            ih place _ later
        _ = accumulate label (point :: next :: rest) totals := by
            simp only [accumulate, here, setEntry_setEntry, amount_setEntry, if_true]
            congr 2
            omega

/-- A finer set of points adds up the same where the label only changes at coarse points. -/
theorem accumulate_refine (label : Int → τ) (first stop : Int) (coarse fine : List Int)
    (totals : List (τ × Int)) (coarseSorted : (first :: coarse).Pairwise (· < ·))
    (fineSorted : (first :: fine).Pairwise (· < ·)) (within : ∀ point ∈ coarse, point ∈ fine)
    (coarseLast : (first :: coarse).getLast? = some stop)
    (fineLast : (first :: fine).getLast? = some stop)
    (constant : ∀ point ∈ first :: coarse, ∀ place ∈ fine, point < place →
      (∀ other ∈ coarse, ¬(point < other ∧ other ≤ place)) → label place = label point) :
    accumulate label (first :: coarse) totals = accumulate label (first :: fine) totals := by
  induction coarse generalizing first fine totals with
  | nil =>
      have only : stop = first := by simpa using coarseLast.symm
      subst only
      cases fine with
      | nil => rfl
      | cons next rest =>
          have last : stop ∈ next :: rest := by
            rw [List.getLast?_cons_cons] at fineLast
            exact List.mem_of_getLast? fineLast
          exact absurd ((List.pairwise_cons.mp fineSorted).1 stop last) (lt_irrefl stop)
  | cons next coarse ih =>
      obtain ⟨inner, rest, split⟩ := List.append_of_mem (within next (List.mem_cons_self ..))
      subst split
      have coarseParts := List.pairwise_cons.mp coarseSorted
      have fineParts := List.pairwise_cons.mp fineSorted
      have innerBelow : ∀ place ∈ inner, place < next := by
        intro place member
        exact (List.pairwise_append.mp fineParts.2).2.2 place member next (List.mem_cons_self ..)
      have same : ∀ place ∈ inner, label place = label first := by
        intro place member
        refine constant first (List.mem_cons_self ..) place (List.mem_append_left _ member)
          (fineParts.1 place (List.mem_append_left _ member)) ?_
        intro other listed both
        have below := innerBelow place member
        rcases List.mem_cons.mp listed with here | later
        · omega
        · have above := (List.pairwise_cons.mp coarseParts.2).1 other later
          omega
      rw [accumulate_run label first next inner rest totals same]
      simp only [accumulate]
      have restSorted := (List.pairwise_append.mp fineParts.2).2.1
      refine ih next rest _ coarseParts.2 restSorted ?_ ?_ ?_ ?_
      · intro point listed
        have above := (List.pairwise_cons.mp coarseParts.2).1 point listed
        rcases List.mem_append.mp (within point (List.mem_cons_of_mem _ listed)) with low | high
        · have below := innerBelow point low
          omega
        · rcases List.mem_cons.mp high with here | later
          · omega
          · exact later
      · rwa [List.getLast?_cons_cons] at coarseLast
      · have shape : first :: (inner ++ next :: rest) = (first :: inner) ++ (next :: rest) := rfl
        rw [shape, List.getLast?_append] at fineLast
        cases found : (next :: rest).getLast? with
        | none => simp at found
        | some last => simpa [found] using fineLast
      · intro point listed place member above apart
        refine constant point (List.mem_cons_of_mem _ listed) place
          (List.mem_append_right _ (List.mem_cons_of_mem _ member)) above ?_
        intro other listed' both
        rcases List.mem_cons.mp listed' with here | later
        · rcases List.mem_cons.mp listed with this | after
          · omega
          · have order := (List.pairwise_cons.mp coarseParts.2).1 point after
            omega
        · exact apart other later both

end Slices

end Devproof
