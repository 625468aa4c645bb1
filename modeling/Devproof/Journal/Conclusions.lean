import Devproof.Journal.Edits

/-!
What the journal concludes from its receipts, as edits: pending creations,
named resources and changed baselines add records at the end of the ledger and
leave the receipts alone.
-/

namespace Devproof

structure Receipts where
  requestOrder : List String
  requestOrderTruncated : Bool
  readReceipts : List ReadReceipt
  preflightAbsences : List String
  writes : List Write
  writeHistoryTruncated : Bool

def ExecutionState.receipts (state : ExecutionState) : Receipts where
  requestOrder := state.requestOrder
  requestOrderTruncated := state.requestOrderTruncated
  readReceipts := state.readReceipts
  preflightAbsences := state.preflightAbsences
  writes := state.writes
  writeHistoryTruncated := state.writeHistoryTruncated

section Host

variable (host : Host)

/-- What `confirmPending`, `reconcileNamedResources` and `registerObservedMutations` do
to the states they reach from `start`. -/
inductive ConclusionEdit (start : ExecutionState) : ExecutionState → ExecutionState → Prop where
  | release (state : ExecutionState) : ConclusionEdit start state { state with pendingRecords := [] }
  | keep (state : ExecutionState) (pending : PendingRecord)
      (waiting : pending ∈ start.pendingRecords) :
      ConclusionEdit start state
        { state with pendingRecords := state.pendingRecords ++ [pending] }
  | dismiss (state : ExecutionState) (pending : PendingRecord)
      (waiting : pending ∈ start.pendingRecords) :
      ConclusionEdit start state (addExistingKey (pending.key host) state)
  | claim (state : ExecutionState) (pending : PendingRecord) (creation : Write)
      (waiting : pending ∈ start.pendingRecords)
      (found : matchingCreation host state pending false = some creation)
      (confirmed : creation.confirmed = true) (successful : writeSuccessful host creation = true)
      (room : state.records.length < 50) :
      ConclusionEdit start state
        { state with records := state.records ++ [claimedRecord host pending creation] }
  | refresh (state : ExecutionState) (read : ReadReceipt) (item : NamedResource)
      (existing : ExecutionRecord) (stored : read ∈ start.readReceipts)
      (listed : item ∈ read.namedResources)
      (here : state.records.find? (fun record => record.key host == namedKey host read item) =
        some existing) :
      ConclusionEdit start state (refreshNamed host state read item existing)
  | bind (state : ExecutionState) (read : ReadReceipt) (item : NamedResource) (creation : Write)
      (stored : read ∈ start.readReceipts) (listed : item ∈ read.namedResources)
      (fresh : state.records.find? (fun record => record.key host == namedKey host read item) =
        none)
      (found : namedCreation host state read item = some creation) :
      ConclusionEdit start state
        { state with records := state.records ++ [namedRecord host read item creation] }
  | observe (state : ExecutionState) (read : ReadReceipt) (item : NamedResource) (shown : String)
      (stored : read ∈ start.readReceipts) (listed : item ∈ read.namedResources)
      (shows : shownState read (namedKey host read item) = some shown) :
      ConclusionEdit start state (observeNamed host read item shown state)
  | mutate (state : ExecutionState) (write : Write) (baseline : ExecutionRecord)
      (stored : write ∈ start.writes)
      (selected : baselinesChangedBy host state write = [baseline])
      (room : state.records.length < 50)
      (unregistered : ∀ record ∈ state.records, record.recordRef ≠ baseline.recordRef) :
      ConclusionEdit start state
        { state with
          records := state.records ++
            [{ baseline with
               cleanup := some { instruction := restoreInstruction, status := .pending } }] }

variable {host} {start : ExecutionState}

theorem settlePending_edits (state : ExecutionState) {pending : PendingRecord}
    (waiting : pending ∈ start.pendingRecords) :
    Relation.ReflTransGen (ConclusionEdit host start) state (settlePending host state pending) := by
  unfold settlePending
  simp only
  split
  · exact Relation.ReflTransGen.single (ConclusionEdit.keep state pending waiting)
  · rename_i creation found
    split
    · exact Relation.ReflTransGen.single (ConclusionEdit.keep state pending waiting)
    · rename_i confirmed
      split
      · exact Relation.ReflTransGen.single (ConclusionEdit.dismiss state pending waiting)
      · rename_i successful
        split
        · exact Relation.ReflTransGen.single (ConclusionEdit.keep state pending waiting)
        · rename_i room
          exact Relation.ReflTransGen.single (ConclusionEdit.claim state pending creation waiting
            found (by simpa using confirmed) (by simpa using successful) (by omega))

theorem confirmPending_edits (state : ExecutionState) :
    Relation.ReflTransGen (ConclusionEdit host state) state (confirmPending host state) :=
  (Relation.ReflTransGen.single (ConclusionEdit.release state)).trans
    (foldl_edits fun current _ waiting => settlePending_edits current waiting)

theorem bindNamed_edits (state : ExecutionState) {entry : ReadReceipt × NamedResource}
    (stored : entry.1 ∈ start.readReceipts) (listed : entry.2 ∈ entry.1.namedResources) :
    Relation.ReflTransGen (ConclusionEdit host start) state (bindNamed host state entry) := by
  obtain ⟨read, item⟩ := entry
  unfold bindNamed
  simp only
  split
  · rename_i existing here
    exact Relation.ReflTransGen.single
      (ConclusionEdit.refresh state read item existing stored listed here)
  · rename_i fresh
    split
    · rename_i creation found
      exact Relation.ReflTransGen.single
        (ConclusionEdit.bind state read item creation stored listed fresh found)
    · split
      · rename_i shown shows
        exact Relation.ReflTransGen.single
          (ConclusionEdit.observe state read item shown stored listed shows)
      · exact Relation.ReflTransGen.refl

theorem namedEntries_mem {state : ExecutionState} {entry : ReadReceipt × NamedResource}
    (member : entry ∈ namedEntries state) :
    entry.1 ∈ state.readReceipts ∧ entry.2 ∈ entry.1.namedResources := by
  obtain ⟨read, stored, inside⟩ := List.mem_flatMap.mp member
  obtain ⟨item, listed, same⟩ := List.mem_map.mp inside
  subst same
  exact ⟨(mem_sortAscending _ _ _).mp stored, listed⟩

theorem reconcileNamedResources_edits (state : ExecutionState) :
    Relation.ReflTransGen (ConclusionEdit host state) state (reconcileNamedResources host state) := by
  unfold reconcileNamedResources
  split
  · exact Relation.ReflTransGen.refl
  · refine foldl_edits fun current entry member => ?_
    obtain ⟨stored, listed⟩ := namedEntries_mem member
    exact bindNamed_edits current stored listed

theorem registerMutation_edits (state : ExecutionState) {write : Write}
    (stored : write ∈ start.writes) :
    Relation.ReflTransGen (ConclusionEdit host start) state (registerMutation host state write) := by
  unfold registerMutation
  split
  · exact Relation.ReflTransGen.refl
  · split
    · rename_i baseline selected
      split
      · exact Relation.ReflTransGen.refl
      · rename_i accepted
        simp only [not_or, Nat.not_le, List.any_eq_true, beq_iff_eq, not_exists, not_and]
          at accepted
        exact Relation.ReflTransGen.single (ConclusionEdit.mutate state write baseline stored
          selected accepted.1 accepted.2)
    · exact Relation.ReflTransGen.refl

theorem registerObservedMutations_edits (state : ExecutionState) :
    Relation.ReflTransGen (ConclusionEdit host state) state
      (registerObservedMutations host state) :=
  foldl_edits fun current _ stored => registerMutation_edits current stored

theorem observeNamed_frame (read : ReadReceipt) (item : NamedResource) (shown : String)
    (state : ExecutionState) :
    observeNamed host read item shown state = state ∨
      ∃ keys, observeNamed host read item shown state =
        { state with
          observedRecords := state.observedRecords ++ [namedBaseline host read item shown]
          existingRecordKeys := keys } := by
  unfold observeNamed
  simp only
  split
  · exact Or.inr ⟨_, rfl⟩
  · exact Or.inl rfl

theorem conclusionEdit_receipts {before after : ExecutionState}
    (edit : ConclusionEdit host start before after) : after.receipts = before.receipts := by
  cases edit with
  | dismiss pending =>
      obtain ⟨keys, same⟩ := addExistingKey_frame (pending.key host) before
      rw [same]
      rfl
  | observe read item shown =>
      rcases @observeNamed_frame host read item shown before with same | ⟨keys, same⟩
      · rw [same]
      · rw [same]
        rfl
  | _ => rfl

end Host

end Devproof
