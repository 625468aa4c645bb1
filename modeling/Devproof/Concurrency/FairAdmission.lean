import Mathlib.Data.String.Basic
import Devproof.Lib.RoundRobin

/-!
The order in which waiting executions are offered for admission
(`fairAdmissionOrder`): tasks take turns inside a runtime queue, and the queues
take turns.
-/

namespace Devproof.FairAdmission

open RoundRobin

structure WaitingRun where
  id : String
  taskExecutionId : Option String
  deriving Repr, DecidableEq

structure RuntimeRule where
  id : String
  runtimeId : String
  deriving Repr, DecidableEq

variable {T : Type} (execution : T → WaitingRun) (rule : T → Option RuntimeRule)

def queueKey (item : T) : String :=
  match rule item with
  | some rule => "runtime:" ++ rule.runtimeId
  | none => "pool:flexible"

def groupKey (item : T) : String :=
  (execution item).taskExecutionId.getD (execution item).id

def fairQueue (queue : List T) : List T :=
  roundRobin (grouped (groupKey execution) queue)

def fairQueues (items : List T) : List (String × List T) :=
  (grouped (queueKey rule) items).map fun queue => (queue.1, fairQueue execution queue.2)

def fairAdmissionOrder (items : List T) : List T :=
  roundRobin (fairQueues execution rule items)

section Order

variable {execution : T → WaitingRun} {rule : T → Option RuntimeRule}

theorem fairQueue_perm (queue : List T) : (fairQueue execution queue).Perm queue :=
  (roundRobin_perm _).trans (grouped_perm _ _)

theorem fairQueue_fair (queue : List T) :
    Fair (groupKey execution) (fairQueue execution queue) :=
  (grouped_keyed _ _).fair

theorem fairQueue_filter (queue : List T) (group : String) :
    (fairQueue execution queue).filter (fun item => groupKey execution item = group) =
      queue.filter fun item => groupKey execution item = group := by
  rw [fairQueue, (grouped_keyed _ _).roundRobin_filter, grouped_filter]

theorem fairQueues_keyed (items : List T) :
    Keyed (queueKey rule) (fairQueues execution rule items) :=
  (grouped_keyed _ _).map fairQueue_perm

theorem fairAdmissionOrder_perm (items : List T) :
    (fairAdmissionOrder execution rule items).Perm items :=
  (roundRobin_perm _).trans
    ((flatten_map_perm _ fairQueue_perm).trans (grouped_perm _ _))

/-- What a queue gets is its fair order, whatever waits in the others. -/
theorem fairAdmissionOrder_queue (items : List T) (queue : String) :
    (fairAdmissionOrder execution rule items).filter (fun item => queueKey rule item = queue) =
      fairQueue execution (items.filter fun item => queueKey rule item = queue) := by
  have keyed := grouped_keyed (queueKey rule) items
  rw [fairAdmissionOrder, (fairQueues_keyed items).roundRobin_filter, ← grouped_filter (queueKey rule) items]
  by_cases known : queue ∈ (grouped (queueKey rule) items).map Prod.fst
  · obtain ⟨⟨name, waiting⟩, inside, rfl⟩ := List.mem_map.mp known
    simp only
    rw [keyed.flatten_filter inside]
    exact (fairQueues_keyed items).flatten_filter (List.mem_map_of_mem inside)
  · have unknown : queue ∉ (fairQueues execution rule items).map Prod.fst := by
      simpa [fairQueues, Function.comp_def] using known
    rw [keyed.filter_absent known (List.Subset.refl _),
      (fairQueues_keyed items).filter_absent unknown (List.Subset.refl _)]
    exact (fairQueue_perm []).eq_nil.symm

end Order

structure TakesTurns (items order : List T) : Prop where
  perm : order.Perm items
  arrival : ∀ queue group,
    (order.filter fun item => queueKey rule item = queue).filter
        (fun item => groupKey execution item = group) =
      (items.filter fun item => queueKey rule item = queue).filter
        fun item => groupKey execution item = group
  tasks : ∀ queue,
    Fair (groupKey execution) (order.filter fun item => queueKey rule item = queue)
  queues : Fair (queueKey rule) order
  taskDelay : ∀ queue group,
    ∀ position : Fin (order.filter fun item => queueKey rule item = queue).length,
    ((order.filter fun item => queueKey rule item = queue).take position).countP
        (fun item => groupKey execution item = group) ≤
      rank (groupKey execution) (order.filter fun item => queueKey rule item = queue) position + 1
  queueDelay : ∀ queue, ∀ position : Fin order.length,
    (order.take position).countP (fun item => queueKey rule item = queue) ≤
      rank (queueKey rule) order position + 1

/-- The order is complete, keeps arrivals inside a task and is fair to tasks and queues. -/
theorem fairAdmissionOrder_takesTurns (items : List T) :
    TakesTurns execution rule items (fairAdmissionOrder execution rule items) := by
  have tasks : ∀ queue, Fair (groupKey execution)
      ((fairAdmissionOrder execution rule items).filter fun item =>
        queueKey rule item = queue) := by
    intro queue
    rw [fairAdmissionOrder_queue]
    exact fairQueue_fair _
  have queues : Fair (queueKey rule) (fairAdmissionOrder execution rule items) :=
    (fairQueues_keyed items).fair
  refine ⟨fairAdmissionOrder_perm items, fun queue group => ?_, tasks, queues,
    fun queue group position => (tasks queue).delay position group,
    fun queue position => queues.delay position queue⟩
  rw [fairAdmissionOrder_queue, fairQueue_filter]

end Devproof.FairAdmission
