import Mathlib.Data.List.Nodup
import Mathlib.Data.List.Basic

/-!
Tables as lists of rows with a key: rewriting the rows that satisfy a
condition, and following every row from one state of a table to a later one.
-/

namespace Devproof

section Tables

variable {Row Key : Type}

def updateWhere (allowed : Row → Bool) (write : Row → Row) (rows : List Row) : List Row :=
  rows.map fun row => if allowed row then write row else row

def Persists (key : Row → Key) (follows : Row → Row → Prop) (rows later : List Row) : Prop :=
  ∀ row ∈ rows, ∃ next ∈ later, key next = key row ∧ follows row next

variable {key : Row → Key} {follows : Row → Row → Prop} {allowed : Row → Bool}
  {write : Row → Row} {rows : List Row}

theorem keys_updateWhere (keeps : ∀ row, key (write row) = key row) :
    (updateWhere allowed write rows).map key = rows.map key := by
  rw [updateWhere, List.map_map]
  apply List.map_congr_left
  intro row _
  simp only [Function.comp_apply]
  split
  · exact keeps row
  · rfl

theorem persists_updateWhere (keeps : ∀ row, key (write row) = key row)
    (same : ∀ row ∈ rows, follows row row)
    (written : ∀ row ∈ rows, allowed row = true → follows row (write row)) :
    Persists key follows rows (updateWhere allowed write rows) := by
  intro row member
  refine ⟨_, List.mem_map_of_mem member, ?_⟩
  split
  · exact ⟨keeps row, written row member ‹_›⟩
  · exact ⟨rfl, same row member⟩

theorem persists_refl (same : ∀ row ∈ rows, follows row row) :
    Persists key follows rows rows :=
  fun row member => ⟨row, member, rfl, same row member⟩

theorem persists_append (same : ∀ row ∈ rows, follows row row) (added : List Row) :
    Persists key follows rows (rows ++ added) :=
  fun row member => ⟨row, List.mem_append_left _ member, rfl, same row member⟩

theorem Persists.trans {follows' onward : Row → Row → Prop} {later last : List Row}
    (here : Persists key follows rows later) (there : Persists key follows' later last)
    (transitive : ∀ first second third, follows first second → follows' second third →
      onward first third) : Persists key onward rows last := by
  intro row member
  obtain ⟨middle, present, same, step⟩ := here row member
  obtain ⟨next, final, still, further⟩ := there middle present
  exact ⟨next, final, still.trans same, transitive row middle next step further⟩

theorem row_unique (distinct : (rows.map key).Nodup) {row other : Row} (member : row ∈ rows)
    (member' : other ∈ rows) (same : key row = key other) : row = other :=
  List.inj_on_of_nodup_map distinct member member' same

/-- The row that goes on under a key is the one found under it later. -/
theorem Persists.found {later : List Row} (persists : Persists key follows rows later)
    (distinct : (later.map key).Nodup) {row next : Row} (member : row ∈ rows)
    (member' : next ∈ later) (same : key next = key row) : follows row next := by
  obtain ⟨other, present, keeps, step⟩ := persists row member
  rwa [row_unique distinct member' present (same.trans keeps.symm)]

end Tables

end Devproof
