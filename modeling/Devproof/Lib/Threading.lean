import Mathlib.Data.List.Basic

/-!
Mapping a list where every step reads and writes one shared store.
-/

namespace Devproof

section Threaded

variable {α β γ σ : Type}

def threaded (step : α → σ → β × σ) : List α → σ → List β × σ
  | [], store => ([], store)
  | item :: rest, store =>
      let (first, after) := step item store
      let (others, last) := threaded step rest after
      (first :: others, last)

theorem threaded_cons (step : α → σ → β × σ) (item : α) (rest : List α) (store : σ) :
    threaded step (item :: rest) store =
      ((step item store).1 :: (threaded step rest (step item store).2).1,
        (threaded step rest (step item store).2).2) :=
  rfl

theorem threaded_length (step : α → σ → β × σ) (items : List α) (store : σ) :
    (threaded step items store).1.length = items.length := by
  induction items generalizing store with
  | nil => rfl
  | cons item rest ih => simp [threaded_cons, ih]

theorem threaded_store {step : α → σ → β × σ} {file : σ → γ → σ} {notes : α → List γ}
    (files : ∀ item store, (step item store).2 = (notes item).foldl file store)
    (items : List α) (store : σ) :
    (threaded step items store).2 = (items.flatMap notes).foldl file store := by
  induction items generalizing store with
  | nil => rfl
  | cons item rest ih =>
      rw [threaded_cons, List.flatMap_cons, List.foldl_append, ← files]
      exact ih _

theorem threaded_getElem? {step : α → σ → β × σ} {items : List α} {index : Nat} {item : α}
    (here : items[index]? = some item) (store : σ) :
    (threaded step items store).1[index]? =
      some (step item (threaded step (items.take index) store).2).1 := by
  induction items generalizing index store with
  | nil => simp at here
  | cons first rest ih =>
      rw [threaded_cons]
      cases index with
      | zero =>
          simp only [List.getElem?_cons_zero, Option.some.injEq] at here
          subst here
          rfl
      | succ index => exact ih here _

theorem threaded_map {δ : Type} {step : α → σ → β × σ} {view : β → δ} {seen : α → δ}
    (steady : ∀ item store, view (step item store).1 = seen item) (items : List α) (store : σ) :
    (threaded step items store).1.map view = items.map seen := by
  induction items generalizing store with
  | nil => rfl
  | cons item rest ih => rw [threaded_cons, List.map_cons, steady, ih, List.map_cons]

theorem mem_threaded {step : α → σ → β × σ} {items : List α} {store : σ} {result : β}
    (member : result ∈ (threaded step items store).1) :
    ∃ item ∈ items, ∃ before, result = (step item before).1 := by
  obtain ⟨index, found⟩ := List.mem_iff_getElem?.mp member
  obtain ⟨bound, -⟩ := List.getElem?_eq_some_iff.mp found
  rw [threaded_length] at bound
  have here : items[index]? = some items[index] := List.getElem?_eq_getElem bound
  rw [threaded_getElem? here] at found
  exact ⟨_, List.getElem_mem bound, _, (Option.some.inj found).symm⟩

end Threaded

end Devproof
