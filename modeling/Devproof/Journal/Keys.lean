import Devproof.Journal.WriteOnce

/-!
The keys of the ledger.  Records are appended at five sites; each keeps the keys
apart where the record it appends has a key that is not taken.
-/

namespace Devproof

section Host

variable (host : Host)

def ExecutionState.recordKeys (state : ExecutionState) : List String :=
  state.records.map (·.key host)

def fresh (records : List ExecutionRecord) (record : ExecutionRecord) : Bool :=
  records.all fun known => known.key host != record.key host

def keyStable (record : ExecutionRecord) : Bool :=
  trimKeeps record.id && record.type.all trimKeeps

/-- The schema leaves the reference, the id and the type alone. -/
def refStable (record : ExecutionRecord) : Bool :=
  record.recordRef.any trimKeeps && keyStable record

/-! What a site finds before it appends. -/

def confirmable (state : ExecutionState) (pending : PendingRecord) : Bool :=
  (matchingCreation host state pending false).any fun creation =>
    creation.confirmed && writeSuccessful host creation

def pendingApart (state : ExecutionState) : Bool :=
  let waiting := state.pendingRecords.filter (confirmable host state)
  decide (waiting.map (·.key host)).Nodup && waiting.all fun pending =>
    state.records.all fun record => record.key host != pending.key host

def changedBaseline (state : ExecutionState) (write : Write) : Option ExecutionRecord :=
  if write.method = .post ∨ rejectedWrite host write then none
  else
    match baselinesChangedBy host state write with
    | [baseline] => some baseline
    | _ => none

def changedBaselines (state : ExecutionState) : List ExecutionRecord :=
  state.writes.filterMap (changedBaseline host state)

def baselinesApart (state : ExecutionState) : Bool :=
  (changedBaselines host state).all fun baseline =>
    (state.records ++ changedBaselines host state).all fun other =>
      other.key host != baseline.key host || other.recordRef == baseline.recordRef

def inheritedBaseline (merging : Merging) (change : RecordDelta) : Option ExecutionRecord :=
  match (registered host merging change).journal.state.observedRecords.filter
      (matchesObserved host (adopted host merging change)) with
  | [baseline] =>
      if (registered host merging change).merged.any fun record =>
          record.recordRef == baseline.recordRef then none
      else some baseline
  | _ => none

def declaredRecord (merging : Merging) (change : RecordDelta) : Option ExecutionRecord :=
  if change.recordRef.getD "" = "" ∧ (merging.merged.filter (addresses host change)).isEmpty then
    (overlay none change).bind (executionRecordSchema host).parse
  else none

def deltaApart (merging : Merging) (change : RecordDelta) : Bool :=
  ((pageCreation host merging change).all fun created =>
      keyStable created && fresh host merging.merged created &&
        fresh host merging.journal.state.records created) &&
    ((inheritedBaseline host merging change).all fun baseline =>
      keyStable baseline && fresh host (registered host merging change).merged baseline) &&
    (declaredRecord host merging change).all (fresh host merging.merged)

def mergesApart : List RecordDelta → Merging → Bool
  | [], _ => true
  | change :: rest, merging =>
      deltaApart host merging change &&
        match (mergeChange host merging change).thrown with
        | some _ => true
        | none => mergesApart rest (mergeChange host merging change).state

/-! What a report may append, on the journal before it. -/

def createdBy (journal : Journal) (change : RecordDelta) : Option ExecutionRecord :=
  if change.ownership == some .createdThisRun then createdUiRecord host journal change else none

def inheritedBy (journal : Journal) (change : RecordDelta) : List ExecutionRecord :=
  (change :: ((createdBy host journal change).map (adoptCreation change)).toList).flatMap
    fun asked => (journal.state.observedRecords.filter (matchesObserved host asked)).map
      fun baseline => relabelled baseline asked

def declaredBy (change : RecordDelta) : Option ExecutionRecord :=
  if change.recordRef.getD "" = "" then
    ((overlay none change).bind (executionRecordSchema host).parse).map (withRef host)
  else none

def arrivals (journal : Journal) (change : RecordDelta) : List ExecutionRecord :=
  (createdBy host journal change).toList ++ inheritedBy host journal change ++
    (declaredBy host change).toList

/-- The record has the id and the type of the delta, or its display name unless an earlier delta
of the same report gives another one. -/
def namedBy (earlier : List RecordDelta) (change : RecordDelta) (record : ExecutionRecord) : Bool :=
  some record.id == change.id &&
    (record.type == change.type || (record.displayType == change.type &&
      earlier.all fun other => other.displayType.all (some · == change.type)))

/-- Each record that the delta may append has a key of its own among the ledger and what earlier
deltas may append, but for the records by which the delta would be merged instead. -/
def deltaFits (journal : Journal) (earlier : List RecordDelta) (change : RecordDelta) : Bool :=
  let known := journal.state.records ++ earlier.flatMap (arrivals host journal)
  (arrivals host journal change).all refStable &&
    (createdBy host journal change).all (fun created => known.all fun other =>
      other.key host != created.key host || namedBy earlier change other) &&
    (inheritedBy host journal change).all (fun baseline =>
      (known ++ (createdBy host journal change).toList).all fun other =>
        other.key host != baseline.key host || other.recordRef == baseline.recordRef) &&
    (declaredBy host change).all fun declared => known.all fun other =>
      other.key host != declared.key host || addresses host change other

def deltasFit (journal : Journal) : List RecordDelta → List RecordDelta → Bool
  | _, [] => true
  | earlier, change :: rest =>
      deltaFits host journal earlier change && deltasFit journal (earlier ++ [change]) rest

/-- What a move may append has keys that are not taken. -/
def keysApart (entry : Move × Journal) : Bool :=
  match entry.1 with
  | .confirmPending => pendingApart host entry.2.state
  | .registerMutations => baselinesApart host entry.2.state
  | .progress next =>
      entry.2.state.records.all refStable && deltasFit host entry.2 [] (recordDeltas next)
  | _ => true

variable {host}

theorem fresh_iff {records : List ExecutionRecord} {record : ExecutionRecord} :
    fresh host records record = true ↔
      ∀ known ∈ records, known.key host ≠ record.key host := by
  simp [fresh]

theorem keys_append {records : List ExecutionRecord} {record : ExecutionRecord}
    (distinct : (records.map (·.key host)).Nodup) (free : fresh host records record = true) :
    ((records ++ [record]).map (·.key host)).Nodup := by
  rw [List.map_append, List.nodup_append]
  refine ⟨distinct, by simp, ?_⟩
  intro key taken other added
  obtain ⟨known, member, rfl⟩ := List.mem_map.mp taken
  obtain rfl : other = record.key host := by simpa using added
  exact fresh_iff.mp free known member

theorem keys_of_core {left right : List ExecutionRecord}
    (same : left.map ExecutionRecord.core = right.map ExecutionRecord.core) :
    left.map (·.key host) = right.map (·.key host) := by
  have through : (fun record : ExecutionRecord => record.key host) =
      (fun record => record.key host) ∘ ExecutionRecord.core := rfl
  rw [through, ← List.map_map, same, List.map_map]

theorem text_parse_stable {value parsed : String} (accepts : text.parse value = some parsed) :
    trimKeeps parsed = true := by
  have again : text.parse parsed = some parsed := text.valid_of_parse accepts
  rw [trimKeeps, again, Option.all_some, beq_self_eq_true]

theorem optional_text_stable {value parsed : Option String}
    (accepts : (Slot.optional text).parse value = some parsed) : parsed.all trimKeeps = true := by
  rw [Slot.optional_parse_eq_some] at accepts
  cases value with
  | none =>
      rw [accepts]
      rfl
  | some inner =>
      obtain ⟨result, same, parses⟩ := accepts
      rw [same, Option.all_some]
      exact text_parse_stable parses

theorem record_parse_stable {value parsed : ExecutionRecord}
    (accepts : (executionRecordSchema host).parse value = some parsed) :
    keyStable parsed = true := by
  obtain ⟨-, parsesId, parsesType, -⟩ := executionRecordSchema_parse.mp accepts
  rw [keyStable, text_parse_stable parsesId, optional_text_stable parsesType, Bool.and_self]

theorem record_parse_key {value parsed : ExecutionRecord} (stable : keyStable value = true)
    (accepts : (executionRecordSchema host).parse value = some parsed) :
    parsed.key host = value.key host := by
  obtain ⟨-, parsesId, parsesType, -, parsesUrl, -⟩ := executionRecordSchema_parse.mp accepts
  obtain ⟨id, type⟩ := Bool.and_eq_true_iff.mp stable
  unfold ExecutionRecord.key
  rw [text_parse_kept id parsesId, optional_text_kept type parsesType,
    optional_bounded_kept parsesUrl]

variable (host) in
theorem withRef_key (record : ExecutionRecord) :
    (withRef host record).key host = record.key host ∧
      keyStable (withRef host record) = keyStable record := by
  unfold withRef
  split
  · exact ⟨rfl, rfl⟩
  · exact ⟨rfl, rfl⟩

variable (host) in
theorem core_key {left right : ExecutionRecord} (same : left.core = right.core) :
    left.key host = right.key host ∧ keyStable left = keyStable right := by
  have keys : left.core.key host = right.core.key host := congrArg (·.key host) same
  have stable : keyStable left.core = keyStable right.core := congrArg keyStable same
  exact ⟨keys, stable⟩

theorem matchingCreation_writes {left right : ExecutionState} (same : left.writes = right.writes)
    (pending : PendingRecord) :
    matchingCreation host left pending false = matchingCreation host right pending false := by
  have tests : createsRecord host left pending false = createsRecord host right pending false := by
    funext write
    simp [createsRecord]
  rw [matchingCreation, matchingCreation, same, tests]

theorem confirmable_writes {left right : ExecutionState} (same : left.writes = right.writes) :
    confirmable host left = confirmable host right := by
  funext pending
  rw [confirmable, confirmable, matchingCreation_writes same]

variable (host) in
theorem settlePending_records (state : ExecutionState) (pending : PendingRecord) :
    (settlePending host state pending).writes = state.writes ∧
      ((settlePending host state pending).records = state.records ∨
        confirmable host state pending = true ∧ ∃ record, record.key host = pending.key host ∧
          (settlePending host state pending).records = state.records ++ [record]) := by
  unfold settlePending
  simp only
  split
  · exact ⟨rfl, Or.inl rfl⟩
  · rename_i creation found
    split
    · exact ⟨rfl, Or.inl rfl⟩
    · rename_i confirmed
      split
      · obtain ⟨keys, same⟩ := addExistingKey_frame (pending.key host) state
        rw [same]
        exact ⟨rfl, Or.inl rfl⟩
      · rename_i successful
        split
        · exact ⟨rfl, Or.inl rfl⟩
        · refine ⟨rfl, Or.inr ⟨?_, claimedRecord host pending creation, rfl, rfl⟩⟩
          simp only [confirmable, found, Option.any_some, Bool.and_eq_true]
          exact ⟨by simpa using confirmed, by simpa using successful⟩

theorem settlePending_keys {waiting : List PendingRecord} {state : ExecutionState}
    (distinct : (state.recordKeys host ++
      (waiting.filter (confirmable host state)).map (·.key host)).Nodup) :
    ((waiting.foldl (settlePending host) state).recordKeys host).Nodup := by
  induction waiting generalizing state with
  | nil => simpa using distinct
  | cons pending rest ih =>
      obtain ⟨writes, outcome⟩ := settlePending_records host state pending
      apply ih
      rw [confirmable_writes writes]
      rcases outcome with kept | ⟨confirms, record, key, appended⟩
      · rw [ExecutionState.recordKeys, kept]
        refine distinct.sublist (List.Sublist.append_left ?_ _)
        exact ((List.sublist_cons_self pending rest).filter _).map _
      · simpa [ExecutionState.recordKeys, appended, key, confirms] using distinct

theorem confirmPending_keys {state : ExecutionState} (apart : pendingApart host state = true)
    (distinct : (state.recordKeys host).Nodup) :
    ((confirmPending host state).recordKeys host).Nodup := by
  simp only [pendingApart, Bool.and_eq_true, decide_eq_true_eq, List.all_eq_true,
    bne_iff_ne] at apart
  obtain ⟨unlike, free⟩ := apart
  refine settlePending_keys (List.nodup_append.mpr ⟨distinct, ?_, ?_⟩)
  · exact unlike
  · intro key taken other waits same
    obtain ⟨record, member, rfl⟩ := List.mem_map.mp taken
    obtain ⟨pending, waiting, rfl⟩ := List.mem_map.mp waits
    exact free pending waiting record member same

theorem bindNamed_keys {state : ExecutionState} (entry : ReadReceipt × NamedResource)
    (distinct : (state.recordKeys host).Nodup) :
    ((bindNamed host state entry).recordKeys host).Nodup := by
  obtain ⟨read, item⟩ := entry
  unfold bindNamed
  simp only
  split
  · rename_i existing here
    have same : (refreshNamed host state read item existing).recordKeys host =
        state.recordKeys host := by
      unfold refreshNamed ExecutionState.recordKeys
      refine replaceFirst_map fun old found => ?_
      rw [here] at found
      obtain rfl := Option.some.inj found
      split
      · rfl
      · rfl
    rw [same]
    exact distinct
  · rename_i absent
    split
    · refine keys_append distinct (fresh_iff.mpr fun known member taken => ?_)
      have other := List.find?_eq_none.mp absent known member
      simp only [beq_iff_eq] at other
      exact other taken
    · split
      · rename_i shown _
        rcases @observeNamed_frame host read item shown state with same | ⟨keys, same⟩
        · rw [same]
          exact distinct
        · rw [same]
          exact distinct
      · exact distinct

theorem reconcileNamedResources_keys {state : ExecutionState}
    (distinct : (state.recordKeys host).Nodup) :
    ((reconcileNamedResources host state).recordKeys host).Nodup := by
  unfold reconcileNamedResources
  split
  · exact distinct
  · exact foldl_invariant (fun current : ExecutionState => (current.recordKeys host).Nodup) distinct
      fun _ entry _ held => bindNamed_keys entry held

variable (host) in
theorem registerMutation_records (state : ExecutionState) (write : Write) :
    registerMutation host state write = state ∨
      ∃ baseline, changedBaseline host state write = some baseline ∧
        (∀ record ∈ state.records, record.recordRef ≠ baseline.recordRef) ∧
        registerMutation host state write =
          { state with
            records := state.records ++
              [{ baseline with
                cleanup := some { instruction := restoreInstruction, status := .pending } }] } := by
  unfold registerMutation changedBaseline
  by_cases refused : write.method = .post ∨ rejectedWrite host write
  · rw [if_pos refused]
    exact Or.inl rfl
  · rw [if_neg refused, if_neg refused]
    rcases baselinesChangedBy host state write with _ | ⟨baseline, _ | ⟨second, more⟩⟩
    · exact Or.inl rfl
    · dsimp only
      split
      · exact Or.inl rfl
      · rename_i accepted
        simp only [not_or, List.any_eq_true, beq_iff_eq, not_exists, not_and] at accepted
        exact Or.inr ⟨baseline, rfl, accepted.2, rfl⟩
    · exact Or.inl rfl

structure AgreesWithBaselines (host : Host) (start current : ExecutionState) : Prop where
  frame : ∃ records, current = { start with records }
  distinct : (current.recordKeys host).Nodup
  agree : ∀ baseline ∈ changedBaselines host start, ∀ record ∈ current.records,
    record.key host ≠ baseline.key host ∨ record.recordRef = baseline.recordRef

theorem registerMutation_agrees {start current : ExecutionState} {write : Write}
    (apart : ∀ baseline ∈ changedBaselines host start, ∀ other ∈ changedBaselines host start,
      other.key host ≠ baseline.key host ∨ other.recordRef = baseline.recordRef)
    (stored : write ∈ start.writes) (agrees : AgreesWithBaselines host start current) :
    AgreesWithBaselines host start (registerMutation host current write) := by
  obtain ⟨⟨records, rfl⟩, distinct, agree⟩ := agrees
  rcases registerMutation_records host { start with records } write with
    same | ⟨baseline, changed, unregistered, same⟩
  · rw [same]
    exact ⟨⟨records, rfl⟩, distinct, agree⟩
  · have listed : baseline ∈ changedBaselines host start :=
      List.mem_filterMap.mpr ⟨write, stored, changed⟩
    rw [same]
    refine ⟨⟨_, rfl⟩, keys_append distinct (fresh_iff.mpr fun known member taken => ?_), ?_⟩
    · rcases agree baseline listed known member with other | registered
      · exact other taken
      · exact unregistered known member registered
    · intro other changed record member
      rcases List.mem_append.mp member with old | new
      · exact agree other changed record old
      · obtain rfl := List.mem_singleton.mp new
        exact apart other changed baseline listed

theorem registerObservedMutations_keys {state : ExecutionState}
    (apart : baselinesApart host state = true) (distinct : (state.recordKeys host).Nodup) :
    ((registerObservedMutations host state).recordKeys host).Nodup := by
  simp only [baselinesApart, List.all_eq_true, Bool.or_eq_true, bne_iff_ne, beq_iff_eq] at apart
  have initially : AgreesWithBaselines host state state :=
    ⟨⟨state.records, rfl⟩, distinct, fun baseline changed record member =>
      apart baseline changed record (List.mem_append_left _ member)⟩
  exact (foldl_invariant (AgreesWithBaselines host state) initially fun _ _ stored agrees =>
    registerMutation_agrees (fun baseline changed other listed =>
      apart baseline changed other (List.mem_append_right _ listed)) stored agrees).distinct

structure MergedApart (host : Host) (merging : Merging) : Prop where
  registered : (merging.journal.state.recordKeys host).Nodup
  distinct : (merging.merged.map (·.key host)).Nodup
  stable : ∀ record ∈ merging.merged, keyStable record = true

theorem stable_append {records : List ExecutionRecord} {record : ExecutionRecord}
    (stable : ∀ known ∈ records, keyStable known = true) (kept : keyStable record = true) :
    ∀ known ∈ records ++ [record], keyStable known = true := by
  intro known member
  rcases List.mem_append.mp member with old | new
  · exact stable known old
  · rw [List.mem_singleton.mp new]
    exact kept

theorem registered_apart {merging : Merging} {change : RecordDelta}
    (apart : deltaApart host merging change = true) (held : MergedApart host merging) :
    MergedApart host (registered host merging change) := by
  simp only [deltaApart, Bool.and_eq_true] at apart
  obtain ⟨⟨proves, -⟩, -⟩ := apart
  unfold registered
  cases found : pageCreation host merging change with
  | none => exact held
  | some created =>
      simp only [found, Option.all_some, Bool.and_eq_true] at proves
      obtain ⟨⟨kept, merged⟩, ledger⟩ := proves
      exact ⟨keys_append held.registered ledger, keys_append held.distinct merged,
        stable_append held.stable kept⟩

variable (host) in
theorem relabelled_key (baseline : ExecutionRecord) (change : RecordDelta) :
    (relabelled baseline change).key host = baseline.key host ∧
      keyStable (relabelled baseline change) = keyStable baseline := by
  unfold relabelled
  split
  · split
    · exact ⟨rfl, rfl⟩
    · exact ⟨rfl, rfl⟩
  · exact ⟨rfl, rfl⟩

theorem inheritBaseline_apart {merging : Merging} {change : RecordDelta} {resolved : Resolved}
    (apart : deltaApart host merging change = true)
    (held : MergedApart host (registered host merging change))
    (inherits : inheritBaseline host (registered host merging change).journal.state
      (registered host merging change).merged (adopted host merging change) = .ok resolved) :
    (resolved.merged.map (·.key host)).Nodup ∧
      ∀ record ∈ resolved.merged, keyStable record = true := by
  rcases inheritBaseline_ok host inherits with same | ⟨baseline, chosen, unregistered, -, same⟩
  · rw [same]
    exact ⟨held.distinct, held.stable⟩
  · have inherited : inheritedBaseline host merging change = some baseline := by
      unfold inheritedBaseline
      rw [chosen]
      simp only
      rw [if_neg]
      simpa using unregistered
    simp only [deltaApart, inherited, Option.all_some, Bool.and_eq_true] at apart
    obtain ⟨⟨-, kept, free⟩, -⟩ := apart
    obtain ⟨key, stable⟩ := relabelled_key host baseline (adopted host merging change)
    rw [same]
    refine ⟨keys_append held.distinct ?_, stable_append held.stable (stable.trans kept)⟩
    rw [fresh_iff] at free ⊢
    rw [key]
    exact free

theorem resolved_unaddressed {merging : Merging} {change : RecordDelta} {resolved : Resolved}
    (inherits : inheritBaseline host (registered host merging change).journal.state
      (registered host merging change).merged (adopted host merging change) = .ok resolved)
    (absent : resolved.merged.filter (addresses host resolved.change) = []) :
    resolved.merged = merging.merged ∧ resolved.change = change := by
  have unaddressed : ∀ record ∈ resolved.merged, addresses host resolved.change record = false := by
    simpa using absent
  rcases inheritBaseline_ok host inherits with same | ⟨baseline, -, -, -, same⟩
  · cases found : pageCreation host merging change with
    | none =>
        rw [same]
        simp [registered, adopted, found]
    | some created =>
        have addressed := unaddressed created (by simp [same, registered_merged, found])
        simp [same, adopted, found, addresses_adoptCreation host found] at addressed
  · have addressed := unaddressed (relabelled baseline (adopted host merging change))
      (by simp [same])
    simp [same, addresses_adoptBaseline] at addressed

theorem ledgerEdit_apart {merging : Merging} {change : RecordDelta} {resolved : Resolved}
    {merged : List ExecutionRecord} (apart : deltaApart host merging change = true)
    (inherits : inheritBaseline host (registered host merging change).journal.state
      (registered host merging change).merged (adopted host merging change) = .ok resolved)
    (edit : LedgerEdit host (registered host merging change).journal.state resolved merged)
    (distinct : (resolved.merged.map (·.key host)).Nodup)
    (stable : ∀ record ∈ resolved.merged, keyStable record = true) :
    (merged.map (·.key host)).Nodup ∧ ∀ record ∈ merged, keyStable record = true := by
  cases edit with
  | replace locked overlaid parsed granted found same aliases overlays accepts grants =>
      have only : locked ∈ resolved.merged.filter (addresses host resolved.change) := by
        rw [found]
        exact List.mem_singleton_self locked
      obtain ⟨-, id, type, url, -⟩ := overlay_identity overlays same
      have kept : keyStable overlaid = true := by
        rw [keyStable, id, type]
        exact stable locked (List.mem_filter.mp only).1
      have key : overlaid.key host = locked.key host := by
        unfold ExecutionRecord.key
        rw [id, type, url]
      obtain ⟨grantedKey, grantedStable⟩ := core_key host (grantRetention_core host grants)
      obtain ⟨withKey, withStable⟩ := withRef_key host granted
      constructor
      · rw [replaceFirst_map]
        · exact distinct
        · intro old here
          have listed : old ∈ resolved.merged.filter (addresses host resolved.change) :=
            List.mem_filter.mpr ⟨List.mem_of_find?_eq_some here, List.find?_some here⟩
          rw [found] at listed
          rw [List.mem_singleton.mp listed, withKey, grantedKey, record_parse_key kept accepts, key]
      · intro record member
        rcases mem_replaceFirst member with new | old
        · rw [new, withStable, grantedStable]
          exact record_parse_stable accepts
        · exact stable record old
  | append overlaid parsed granted absent unnamed overlays accepts grants =>
      obtain ⟨ledger, reported⟩ := resolved_unaddressed inherits absent
      obtain ⟨grantedKey, grantedStable⟩ := core_key host (grantRetention_core host grants)
      obtain ⟨withKey, withStable⟩ := withRef_key host granted
      have declared : declaredRecord host merging change = some parsed := by
        rw [declaredRecord, ← ledger, ← reported, absent, overlays, if_pos ⟨unnamed, rfl⟩]
        exact accepts
      simp only [deltaApart, declared, Option.all_some, Bool.and_eq_true] at apart
      have free := fresh_iff.mp apart.2
      refine ⟨keys_append distinct (fresh_iff.mpr ?_), stable_append stable ?_⟩
      · rw [withKey, grantedKey, ledger]
        exact free
      · rw [withStable, grantedStable]
        exact record_parse_stable accepts

theorem registered_journal (merging : Merging) (change : RecordDelta) :
    (mergeChange host merging change).state.journal = (registered host merging change).journal := by
  rw [mergeChange_journal, registered]
  cases pageCreation host merging change with
  | none => exact merging.journal.withRecords_nil
  | some created => rfl

theorem mergeChange_apart {merging : Merging} {change : RecordDelta}
    (apart : deltaApart host merging change = true) (held : MergedApart host merging) :
    ((mergeChange host merging change).state.journal.state.recordKeys host).Nodup ∧
      ((mergeChange host merging change).thrown = none →
        MergedApart host (mergeChange host merging change).state) := by
  have registers := registered_apart apart held
  refine ⟨?_, fun accepted => ?_⟩
  · rw [registered_journal]
    exact registers.registered
  · obtain ⟨resolved, merged, inherits, edit, state⟩ := mergeChange_accepted host accepted
    obtain ⟨distinct, stable⟩ := inheritBaseline_apart apart registers inherits
    obtain ⟨unlike, kept⟩ := ledgerEdit_apart apart inherits edit distinct stable
    rw [state]
    exact ⟨registers.registered, unlike, kept⟩

theorem mergeChanges_apart {changes : List RecordDelta} {merging : Merging}
    (apart : mergesApart host changes merging = true) (held : MergedApart host merging) :
    ((mergeChanges host changes merging).state.journal.state.recordKeys host).Nodup ∧
      ((mergeChanges host changes merging).thrown = none →
        MergedApart host (mergeChanges host changes merging).state) := by
  induction changes generalizing merging with
  | nil => exact ⟨held.registered, fun _ => held⟩
  | cons change rest ih =>
      obtain ⟨first, later⟩ := Bool.and_eq_true_iff.mp apart
      obtain ⟨ledger, merged⟩ := mergeChange_apart first held
      cases outcome : (mergeChange host merging change).thrown with
      | some failure =>
          simp only [mergeChanges, Outcome.andThen, outcome]
          exact ⟨ledger, by simp⟩
      | none =>
          simp only [mergeChanges, Outcome.andThen, outcome] at later ⊢
          exact ih later (merged outcome)

theorem parsed_keys {before after : List ExecutionRecord}
    (parses : List.Forall₂
      (fun before after => (executionRecordSchema host).parse before = some after) before after)
    (stable : ∀ record ∈ before, keyStable record = true) :
    after.map (·.key host) = before.map (·.key host) := by
  induction parses with
  | nil => rfl
  | cons accepts _ ih =>
      rw [List.map_cons, List.map_cons, ih fun record member =>
        stable record (List.mem_cons_of_mem _ member),
        record_parse_key (stable _ (List.mem_cons_self ..)) accepts]

theorem delta_stable {next : Members} {change : RecordDelta} (reported : change ∈ recordDeltas next) :
    change.id.all trimKeeps = true ∧ change.type.all trimKeeps = true := by
  unfold recordDeltas at reported
  cases reads : executionProgressSchema.read (.obj next) with
  | none => simp [reads] at reported
  | some progress =>
      have parses := executionProgressSchema.parse_read _ _ reads
      rw [executionProgressSchema, Codec.object_parse_eq_some fun _ => rfl] at parses
      simp only [Fields.parse_cons_eq_some, Fields.parse_nil, and_true] at parses
      obtain ⟨-, -, records, -⟩ := parses
      cases listed : progress.records with
      | none => simp [reads, listed] at reported
      | some deltas =>
          rw [listed, Slot.optional_parse_eq_some] at records
          obtain ⟨parsed, same, items⟩ := records
          obtain rfl := Option.some.inj same
          have member : change ∈ deltas := by simpa [reads, listed] using reported
          obtain ⟨source, -, accepts⟩ :=
            forall₂_source (Codec.list_parse_eq_some.mp items).2 member
          rw [executionRecordDeltaSchema, Codec.object_parse_eq_some fun _ => rfl] at accepts
          simp only [Fields.parse_cons_eq_some, Fields.parse_nil, and_true] at accepts
          obtain ⟨-, id, type, -⟩ := accepts
          exact ⟨optional_text_stable id, optional_text_stable type⟩

section Overlays

theorem withRef_fields (record : ExecutionRecord) :
    (withRef host record).id = record.id ∧ (withRef host record).type = record.type ∧
      (withRef host record).displayType = record.displayType ∧
      (withRef host record).resourceUrl = record.resourceUrl := by
  unfold withRef
  split
  · exact ⟨rfl, rfl, rfl, rfl⟩
  · exact ⟨rfl, rfl, rfl, rfl⟩

variable {change : RecordDelta} {record later : ExecutionRecord}

theorem Overlaid.parsed_fields (overlaid : Overlaid host change record later) :
    later.id = overlaid.parsed.id ∧ later.type = overlaid.parsed.type ∧
      later.displayType = overlaid.parsed.displayType ∧
      later.resourceUrl = overlaid.parsed.resourceUrl := by
  have cores := grantRetention_core host overlaid.grants
  have ids : overlaid.granted.core.id = overlaid.parsed.core.id := congrArg (·.id) cores
  have types : overlaid.granted.core.type = overlaid.parsed.core.type := congrArg (·.type) cores
  have names : overlaid.granted.core.displayType = overlaid.parsed.core.displayType :=
    congrArg (·.displayType) cores
  have urls : overlaid.granted.core.resourceUrl = overlaid.parsed.core.resourceUrl :=
    congrArg (·.resourceUrl) cores
  have same := overlaid.becomes
  obtain ⟨id, type, name, url⟩ := @withRef_fields host overlaid.granted
  exact ⟨(congrArg (·.id) same).trans (id.trans ids),
    (congrArg (·.type) same).trans (type.trans types),
    (congrArg (·.displayType) same).trans (name.trans names),
    (congrArg (·.resourceUrl) same).trans (url.trans urls)⟩

theorem Overlaid.id_kept (overlaid : Overlaid host change record later)
    (stable : trimKeeps record.id = true) : later.id = record.id := by
  obtain ⟨-, id, -⟩ := overlay_identity overlaid.overlays overlaid.same
  obtain ⟨-, parses, -⟩ := executionRecordSchema_parse.mp overlaid.accepts
  rw [id] at parses
  exact overlaid.parsed_fields.1.trans (text_parse_kept stable parses)

theorem Overlaid.type_kept (overlaid : Overlaid host change record later)
    (stable : record.type.all trimKeeps = true) : later.type = record.type := by
  obtain ⟨-, -, type, -⟩ := overlay_identity overlaid.overlays overlaid.same
  obtain ⟨-, -, parses, -⟩ := executionRecordSchema_parse.mp overlaid.accepts
  rw [type] at parses
  exact overlaid.parsed_fields.2.1.trans (optional_text_kept stable parses)

theorem Overlaid.url_kept (overlaid : Overlaid host change record later) :
    later.resourceUrl = record.resourceUrl := by
  obtain ⟨-, -, -, url, -⟩ := overlay_identity overlaid.overlays overlaid.same
  obtain ⟨-, -, -, -, parses, -⟩ := executionRecordSchema_parse.mp overlaid.accepts
  rw [url] at parses
  exact overlaid.parsed_fields.2.2.2.trans (optional_bounded_kept parses)

theorem Overlaid.label_kept {label : Option String} (overlaid : Overlaid host change record later)
    (stable : label.all trimKeeps = true)
    (agrees : change.displayType.all (some · == label) = true)
    (shown : record.displayType = label) : later.displayType = label := by
  have given : overlaid.overlaid.displayType = label := by
    have overlays := overlaid.overlays
    unfold overlay at overlays
    simp only [Option.bind_eq_bind, Option.bind_eq_some_iff, Option.pure_def,
      Option.some.injEq] at overlays
    obtain ⟨_, -, _, -, _, -, same⟩ := overlays
    rw [← same]
    cases stated : change.displayType with
    | none => exact shown
    | some name => simpa [stated] using agrees
  obtain ⟨-, -, -, parses, -⟩ := executionRecordSchema_parse.mp overlaid.accepts
  rw [given] at parses
  exact overlaid.parsed_fields.2.2.1.trans (optional_text_kept stable parses)

theorem Overlaid.ref_kept (overlaid : Overlaid host change record later)
    (stable : record.recordRef.any trimKeeps = true) : later.recordRef = record.recordRef := by
  obtain ⟨ref, -⟩ := overlay_identity overlaid.overlays overlaid.same
  obtain ⟨parses, -⟩ := executionRecordSchema_parse.mp overlaid.accepts
  obtain ⟨name, here, kept⟩ := (Option.any_eq_true _ _).mp stable
  rw [ref, here] at parses
  have same : overlaid.parsed.recordRef = some name :=
    optional_text_kept (by rw [Option.all_some]; exact kept) parses
  have granted := (recordRef_of_core (grantRetention_core host overlaid.grants)).trans same
  rw [overlaid.becomes, withRef, granted, here]
  exact granted

end Overlays

/-- The record is the source after the reported deltas: its identity is that of the source, and so
is its display name where no delta gives another. -/
structure Stems (earlier : List RecordDelta) (source record : ExecutionRecord) : Prop where
  recordRef : record.recordRef = source.recordRef
  id : record.id = source.id
  type : record.type = source.type
  resourceUrl : record.resourceUrl = source.resourceUrl
  label : ∀ label : Option String, label.all trimKeeps = true → source.displayType = label →
    (∀ other ∈ earlier, other.displayType.all (some · == label) = true) →
      record.displayType = label

section Stemming

variable {earlier : List RecordDelta} {source record later : ExecutionRecord}
  {change : RecordDelta}

theorem Stems.refl (earlier : List RecordDelta) (record : ExecutionRecord) :
    Stems earlier record record :=
  ⟨rfl, rfl, rfl, rfl, fun _ _ shown _ => shown⟩

theorem Stems.further (stems : Stems earlier source record) (change : RecordDelta) :
    Stems (earlier ++ [change]) source record :=
  ⟨stems.recordRef, stems.id, stems.type, stems.resourceUrl, fun label stable shown agrees =>
    stems.label label stable shown fun other member => agrees other (List.mem_append_left _ member)⟩

theorem Stems.stable (stems : Stems earlier source record) : refStable record = refStable source := by
  unfold refStable keyStable
  rw [stems.recordRef, stems.id, stems.type]

theorem Stems.key (stems : Stems earlier source record) : record.key host = source.key host := by
  unfold ExecutionRecord.key
  rw [stems.id, stems.type, stems.resourceUrl]

theorem Stems.addressed (stems : Stems earlier source record) :
    addresses host change record = addresses host change source := by
  unfold addresses
  rw [stems.recordRef, stems.id, stems.type, stems.resourceUrl]

theorem Stems.named (stems : Stems earlier source record) (stable : change.type.all trimKeeps = true)
    (named : namedBy earlier change source = true) :
    some record.id = change.id ∧
      (record.type = change.type ∨ record.displayType = change.type) := by
  simp only [namedBy, Bool.and_eq_true, Bool.or_eq_true, beq_iff_eq, List.all_eq_true] at named
  obtain ⟨id, name⟩ := named
  refine ⟨by rw [stems.id, id], ?_⟩
  rcases name with typed | ⟨shown, agrees⟩
  · exact Or.inl (stems.type.trans typed)
  · exact Or.inr (stems.label change.type stable shown agrees)

/-- One more delta is merged into the record. -/
theorem Stems.overlaid {asked : RecordDelta} (stems : Stems (earlier ++ [change]) source record)
    (stable : refStable source = true) (label : asked.displayType = change.displayType)
    (overlaid : Overlaid host asked record later) : Stems (earlier ++ [change]) source later := by
  rw [← stems.stable] at stable
  obtain ⟨ref, keys⟩ := Bool.and_eq_true_iff.mp stable
  obtain ⟨id, type⟩ := Bool.and_eq_true_iff.mp keys
  refine ⟨(overlaid.ref_kept ref).trans stems.recordRef, (overlaid.id_kept id).trans stems.id,
    (overlaid.type_kept type).trans stems.type, overlaid.url_kept.trans stems.resourceUrl, ?_⟩
  intro shown kept same agrees
  refine overlaid.label_kept kept ?_ (stems.label shown kept same agrees)
  rw [label]
  exact agrees change (by simp)

end Stemming

/-- Every record of the merged ledger stems from the ledger or from what a delta may append, and
every record of the journal is in it. -/
structure Stage (host : Host) (journal : Journal) (earlier : List RecordDelta) (merging : Merging) :
    Prop where
  page : ∃ created, merging.journal = journal.withRecords created
  stems : ∀ record ∈ merging.merged,
    ∃ source ∈ journal.state.records ++ earlier.flatMap (arrivals host journal),
      Stems earlier source record
  kept : ∀ record ∈ merging.journal.state.records,
    ∃ merged ∈ merging.merged, merged.key host = record.key host

theorem createdUiRecord_withRecords (journal : Journal) (created : List ExecutionRecord)
    (change : RecordDelta) :
    createdUiRecord host (journal.withRecords created) change =
      createdUiRecord host journal change := by
  rfl

theorem stage_start (journal : Journal) :
    Stage host journal [] { journal, merged := journal.state.records } where
  page := ⟨[], journal.withRecords_nil.symm⟩
  stems record member := ⟨record, List.mem_append_left _ member, Stems.refl [] record⟩
  kept record member := ⟨record, member, rfl⟩

section Stages

variable {journal : Journal} {earlier : List RecordDelta} {merging : Merging}
  {change : RecordDelta} (stage : Stage host journal earlier merging)

include stage

theorem Stage.created {created : ExecutionRecord}
    (found : pageCreation host merging change = some created) :
    createdBy host journal change = some created := by
  obtain ⟨others, page⟩ := stage.page
  unfold pageCreation at found
  split at found
  · rename_i claims
    rw [page, createdUiRecord_withRecords] at found
    rw [createdBy, if_pos (Bool.and_eq_true_iff.mp claims).1, found]
  · simp at found

theorem Stage.adopted_asked : adopted host merging change ∈
    change :: ((createdBy host journal change).map (adoptCreation change)).toList := by
  unfold adopted
  cases found : pageCreation host merging change with
  | none => exact List.mem_cons_self ..
  | some created =>
      rw [stage.created found]
      exact List.mem_cons_of_mem _ (List.mem_singleton_self _)

theorem Stage.inherited {baseline : ExecutionRecord} {others : List ExecutionRecord}
    (chosen : (registered host merging change).journal.state.observedRecords.filter
      (matchesObserved host (adopted host merging change)) = baseline :: others) :
    relabelled baseline (adopted host merging change) ∈ inheritedBy host journal change := by
  obtain ⟨created, page⟩ := stage.page
  have observed : merging.journal.state.observedRecords = journal.state.observedRecords := by
    rw [page]
    rfl
  rw [registered_observed, observed] at chosen
  refine List.mem_flatMap.mpr ⟨_, stage.adopted_asked, List.mem_map.mpr ⟨baseline, ?_, rfl⟩⟩
  rw [chosen]
  exact List.mem_cons_self ..

end Stages

theorem adopted_label (merging : Merging) (change : RecordDelta) :
    (adopted host merging change).displayType = change.displayType := by
  unfold adopted
  cases pageCreation host merging change with
  | none => rfl
  | some created => rfl

theorem withRef_stems {earlier : List RecordDelta} {parsed granted : ExecutionRecord}
    (cores : granted.core = parsed.core) :
    Stems earlier (withRef host parsed) (withRef host granted) := by
  have named : granted.stableRef host = parsed.stableRef host := by
    have same : granted.core.stableRef host = parsed.core.stableRef host :=
      congrArg (·.stableRef host) cores
    exact same
  have refs := recordRef_of_core cores
  have both : (withRef host granted).core = (withRef host parsed).core := by
    unfold withRef
    rw [refs, named]
    cases parsed.recordRef with
    | some ref => exact cores
    | none =>
        have same : ({ granted.core with recordRef := some (parsed.stableRef host) } :
            ExecutionRecord) = { parsed.core with recordRef := some (parsed.stableRef host) } := by
          rw [cores]
        exact same
  have ids : (withRef host granted).core.id = (withRef host parsed).core.id := congrArg (·.id) both
  have types : (withRef host granted).core.type = (withRef host parsed).core.type :=
    congrArg (·.type) both
  have urls : (withRef host granted).core.resourceUrl = (withRef host parsed).core.resourceUrl :=
    congrArg (·.resourceUrl) both
  have names : (withRef host granted).core.displayType = (withRef host parsed).core.displayType :=
    congrArg (·.displayType) both
  exact ⟨recordRef_of_core both, ids, types, urls, fun _ _ shown _ => names.trans shown⟩

def Sources (host : Host) (journal : Journal) (earlier : List RecordDelta) :
    List ExecutionRecord :=
  journal.state.records ++ earlier.flatMap (arrivals host journal)

theorem sources_further {journal : Journal} {earlier : List RecordDelta} {change : RecordDelta}
    {source : ExecutionRecord} :
    source ∈ Sources host journal (earlier ++ [change]) ↔
      source ∈ Sources host journal earlier ∨ source ∈ arrivals host journal change := by
  simp [Sources, or_assoc]

/-- Each of the records stems from one the deltas so far account for. -/
def Sourced (host : Host) (journal : Journal) (earlier : List RecordDelta)
    (records : List ExecutionRecord) : Prop :=
  ∀ record ∈ records, ∃ source ∈ Sources host journal earlier, Stems earlier source record

section Delta

variable {journal : Journal} {earlier : List RecordDelta} {merging : Merging}
  {change : RecordDelta} {resolved : Resolved} {merged : List ExecutionRecord}

theorem Stage.registered_sourced (stage : Stage host journal earlier merging) :
    Sourced host journal (earlier ++ [change]) (registered host merging change).merged := by
  intro record member
  rw [registered_merged] at member
  rcases List.mem_append.mp member with old | new
  · obtain ⟨source, listed, stems⟩ := stage.stems record old
    exact ⟨source, sources_further.mpr (Or.inl listed), stems.further change⟩
  · have created := stage.created (Option.mem_toList.mp new)
    refine ⟨record, sources_further.mpr (Or.inr ?_), Stems.refl _ record⟩
    simp [arrivals, created]

theorem Stage.resolved_sourced (stage : Stage host journal earlier merging)
    (inherits : inheritBaseline host (registered host merging change).journal.state
      (registered host merging change).merged (adopted host merging change) = .ok resolved) :
    Sourced host journal (earlier ++ [change]) resolved.merged ∧
      resolved.change.displayType = change.displayType ∧
      ∀ record ∈ (registered host merging change).merged, record ∈ resolved.merged := by
  have registers : Sourced host journal (earlier ++ [change])
      (registered host merging change).merged := stage.registered_sourced
  rcases inheritBaseline_ok host inherits with plain | ⟨baseline, chosen, -, -, same⟩
  · rw [plain]
    exact ⟨registers, adopted_label merging change, fun _ member => member⟩
  · rw [same]
    refine ⟨fun record member => ?_, adopted_label merging change,
      fun _ member => List.mem_append_left _ member⟩
    rcases List.mem_append.mp member with old | new
    · exact registers record old
    · rw [List.mem_singleton.mp new]
      refine ⟨_, sources_further.mpr (Or.inr ?_), Stems.refl _ _⟩
      simp [arrivals, stage.inherited chosen]

theorem edited_sourced
    (inherits : inheritBaseline host (registered host merging change).journal.state
      (registered host merging change).merged (adopted host merging change) = .ok resolved)
    (edit : LedgerEdit host (registered host merging change).journal.state resolved merged)
    (stable : ∀ source ∈ Sources host journal (earlier ++ [change]), refStable source = true)
    (sourced : Sourced host journal (earlier ++ [change]) resolved.merged)
    (label : resolved.change.displayType = change.displayType) :
    Sourced host journal (earlier ++ [change]) merged := by
  intro record member
  cases edit with
  | replace locked overlaid parsed granted found same aliases overlays accepts grants =>
      rcases mem_replaceFirst member with new | old
      · have only : locked ∈ resolved.merged.filter (addresses host resolved.change) := by
          rw [found]
          exact List.mem_singleton_self locked
        obtain ⟨listed, addressed⟩ := List.mem_filter.mp only
        obtain ⟨source, known, stem⟩ := sourced locked listed
        exact ⟨source, known, stem.overlaid (stable source known) label
          { state := _, overlaid, parsed, granted, addressed, same, overlays, accepts, grants
            becomes := new }⟩
      · exact sourced record old
  | append overlaid parsed granted absent unnamed overlays accepts grants =>
      rcases List.mem_append.mp member with old | new
      · exact sourced record old
      · obtain ⟨-, reported⟩ := resolved_unaddressed inherits absent
        rw [reported] at unnamed overlays
        rw [List.mem_singleton.mp new]
        refine ⟨withRef host parsed, sources_further.mpr (Or.inr ?_),
          withRef_stems (grantRetention_core host grants)⟩
        simp [arrivals, declaredBy, unnamed, overlays, accepts]

theorem edited_kept
    (edit : LedgerEdit host (registered host merging change).journal.state resolved merged)
    (stable : ∀ source ∈ Sources host journal (earlier ++ [change]), refStable source = true)
    (sourced : Sourced host journal (earlier ++ [change]) resolved.merged)
    (label : resolved.change.displayType = change.displayType) :
    ∀ known ∈ resolved.merged, ∃ later ∈ merged, later.key host = known.key host := by
  intro known listed
  obtain ⟨place, here⟩ := List.getElem?_of_mem listed
  obtain ⟨later, found, outcome⟩ := ledgerEdit_entry host edit here
  refine ⟨later, List.mem_of_getElem? found, ?_⟩
  rcases outcome with unchanged | ⟨-, overlaid⟩
  · rw [unchanged]
  · obtain ⟨proof⟩ := overlaid
    obtain ⟨source, member, stem⟩ := sourced known listed
    rw [(stem.overlaid (stable source member) label proof).key, ← stem.key]

theorem Stage.registered_kept (stage : Stage host journal earlier merging) :
    ∀ record ∈ (registered host merging change).journal.state.records,
      ∃ known ∈ (registered host merging change).merged, known.key host = record.key host := by
  intro record member
  rw [registered_merged]
  rw [← registered_journal, mergeChange_journal] at member
  rcases List.mem_append.mp member with old | new
  · obtain ⟨known, listed, same⟩ := stage.kept record old
    exact ⟨known, List.mem_append_left _ listed, same⟩
  · exact ⟨record, List.mem_append_right _ new, rfl⟩

/-- Merging one more delta. -/
theorem stage_step (stage : Stage host journal earlier merging)
    (stable : ∀ source ∈ Sources host journal (earlier ++ [change]), refStable source = true)
    (accepted : (mergeChange host merging change).thrown = none) :
    Stage host journal (earlier ++ [change]) (mergeChange host merging change).state := by
  obtain ⟨resolved, merged, inherits, edit, state⟩ := mergeChange_accepted host accepted
  obtain ⟨sourced, label, kept⟩ := stage.resolved_sourced inherits
  rw [state]
  refine ⟨?_, edited_sourced inherits edit stable sourced label, fun record member => ?_⟩
  · obtain ⟨created, page⟩ := stage.page
    refine ⟨created ++ (pageCreation host merging change).toList, ?_⟩
    rw [← Journal.withRecords_append, ← page, ← mergeChange_journal, registered_journal]
  · obtain ⟨known, listed, same⟩ := stage.registered_kept record member
    obtain ⟨later, inside, key⟩ := edited_kept edit stable sourced label known (kept known listed)
    exact ⟨later, inside, key.trans same⟩

theorem Stage.created_fresh (stage : Stage host journal earlier merging)
    (typeStable : change.type.all trimKeeps = true)
    (creates : ∀ created, createdBy host journal change = some created →
      ∀ source ∈ Sources host journal earlier,
        source.key host ≠ created.key host ∨ namedBy earlier change source = true)
    {created : ExecutionRecord} (found : pageCreation host merging change = some created) :
    ∀ record ∈ merging.merged, record.key host ≠ created.key host := by
  intro record member same
  obtain ⟨source, listed, stems⟩ := stage.stems record member
  rcases creates created (stage.created found) source listed with other | named
  · exact other (stems.key.symm.trans same)
  · obtain ⟨id, name⟩ := stems.named typeStable named
    unfold pageCreation at found
    rw [if_neg] at found
    · cases found
    · simp only [claimsCreation, Bool.and_eq_true, Bool.not_eq_true', List.any_eq_false]
      rintro ⟨-, unknown⟩
      refine unknown record member ?_
      rcases name with typed | shown
      · simp [id, typed]
      · simp [id, shown]

theorem relabelled_recordRef (baseline : ExecutionRecord) (change : RecordDelta) :
    (relabelled baseline change).recordRef = baseline.recordRef := by
  unfold relabelled
  split
  · split
    · rfl
    · rfl
  · rfl

theorem Stage.inherited_fresh (stage : Stage host journal earlier merging)
    (keyed : ∀ record ∈ arrivals host journal change, keyStable record = true)
    (inherits : ∀ baseline ∈ inheritedBy host journal change,
      ∀ source ∈ Sources host journal earlier ++ (createdBy host journal change).toList,
        source.key host ≠ baseline.key host ∨ source.recordRef = baseline.recordRef)
    {baseline : ExecutionRecord} (inherited : inheritedBaseline host merging change = some baseline) :
    keyStable baseline = true ∧
      ∀ record ∈ (registered host merging change).merged, record.key host ≠ baseline.key host := by
  unfold inheritedBaseline at inherited
  split at inherited
  · rename_i chosenBaseline chosen
    split at inherited
    · cases inherited
    · rename_i unregistered
      obtain rfl := Option.some.inj inherited
      have member := stage.inherited chosen
      obtain ⟨key, kept⟩ := relabelled_key host chosenBaseline (adopted host merging change)
      have ref := relabelled_recordRef chosenBaseline (adopted host merging change)
      have free : ∀ source ∈ Sources host journal earlier ++
          (createdBy host journal change).toList, ∀ record,
            Stems earlier source record → record ∈ (registered host merging change).merged →
            record.key host ≠ chosenBaseline.key host := by
        intro source listed record stems inside same
        rcases inherits _ member source listed with other | sameRef
        · rw [key] at other
          exact other (stems.key.symm.trans same)
        · apply unregistered
          simp only [List.any_eq_true, beq_iff_eq]
          exact ⟨record, inside, by rw [stems.recordRef, sameRef, ref]⟩
      refine ⟨?_, fun record inside => ?_⟩
      · rw [← kept]
        exact keyed _ (by simp [arrivals, member])
      · have place := inside
        rw [registered_merged] at place
        rcases List.mem_append.mp place with old | new
        · obtain ⟨source, listed, stems⟩ := stage.stems record old
          exact free source (List.mem_append_left _ listed) record stems inside
        · have created := stage.created (Option.mem_toList.mp new)
          exact free record (List.mem_append_right _ (by simp [created])) record
            (Stems.refl _ record) inside
  · cases inherited

theorem Stage.declared_fresh (stage : Stage host journal earlier merging)
    (declares : ∀ declared, declaredBy host change = some declared →
      ∀ source ∈ Sources host journal earlier,
        source.key host ≠ declared.key host ∨ addresses host change source = true)
    {declared : ExecutionRecord} (found : declaredRecord host merging change = some declared) :
    ∀ record ∈ merging.merged, record.key host ≠ declared.key host := by
  intro record member same
  unfold declaredRecord at found
  split at found
  · rename_i alone
    obtain ⟨unnamed, absent⟩ := alone
    have listed : declaredBy host change = some (withRef host declared) := by
      rw [declaredBy, if_pos unnamed, found]
      rfl
    obtain ⟨source, known, stems⟩ := stage.stems record member
    rcases declares _ listed source known with other | addressed
    · rw [(withRef_key host declared).1] at other
      exact other (stems.key.symm.trans same)
    · have unaddressed : addresses host change record = false := by
        simp only [List.isEmpty_iff, List.filter_eq_nil_iff, Bool.not_eq_true] at absent
        exact absent record member
      rw [stems.addressed, addressed] at unaddressed
      cases unaddressed
  · cases found

theorem deltaApart_of_fits (stage : Stage host journal earlier merging)
    (typeStable : change.type.all trimKeeps = true)
    (fits : deltaFits host journal earlier change = true) :
    deltaApart host merging change = true := by
  simp only [deltaFits, Bool.and_eq_true, List.all_eq_true, Option.all_eq_true, Bool.or_eq_true,
    bne_iff_ne, beq_iff_eq] at fits
  obtain ⟨⟨⟨stable, creates⟩, inherits⟩, declares⟩ := fits
  have keyed : ∀ record ∈ arrivals host journal change, keyStable record = true :=
    fun record member => (Bool.and_eq_true_iff.mp (stable record member)).2
  simp only [deltaApart, Bool.and_eq_true, Option.all_eq_true, fresh_iff]
  refine ⟨⟨fun created found => ?_, fun baseline inherited => ?_⟩, fun declared found => ?_⟩
  · have listed : created ∈ arrivals host journal change := by
      simp [arrivals, stage.created found]
    have free := stage.created_fresh typeStable creates found
    refine ⟨⟨keyed created listed, free⟩, fun record member same => ?_⟩
    obtain ⟨merged, inside, key⟩ := stage.kept record member
    exact free merged inside (key.trans same)
  · exact stage.inherited_fresh keyed inherits inherited
  · exact stage.declared_fresh declares found

end Delta

theorem mergesApart_of_fit {journal : Journal} {earlier changes : List RecordDelta}
    {merging : Merging} (stage : Stage host journal earlier merging)
    (stable : ∀ source ∈ Sources host journal earlier, refStable source = true)
    (typeStable : ∀ change ∈ changes, change.type.all trimKeeps = true)
    (fit : deltasFit host journal earlier changes = true) :
    mergesApart host changes merging = true := by
  induction changes generalizing earlier merging with
  | nil => rfl
  | cons change rest ih =>
      obtain ⟨first, later⟩ := Bool.and_eq_true_iff.mp fit
      rw [mergesApart, deltaApart_of_fits stage (typeStable change (List.mem_cons_self ..)) first,
        Bool.true_and]
      split
      · rfl
      · rename_i accepted
        have grown : ∀ source ∈ Sources host journal (earlier ++ [change]),
            refStable source = true := by
          intro source member
          rcases sources_further.mp member with old | new
          · exact stable source old
          · simp only [deltaFits, Bool.and_eq_true, List.all_eq_true] at first
            exact first.1.1.1 source new
        exact ih (stage_step stage grown accepted) grown
          (fun other member => typeStable other (List.mem_cons_of_mem _ member)) later

theorem progress_keys {next : Members} {journal : Journal}
    (apart : keysApart host (.progress next, journal) = true)
    (distinct : (journal.state.recordKeys host).Nodup) :
    ((progress host next journal).state.state.recordKeys host).Nodup := by
  simp only [keysApart, Bool.and_eq_true, List.all_eq_true] at apart
  obtain ⟨stable, fit⟩ := apart
  have apart : mergesApart host (recordDeltas next)
      { journal, merged := journal.state.records } = true :=
    mergesApart_of_fit (stage_start journal) (by simpa [Sources] using stable)
      (fun change reported => (delta_stable reported).2) fit
  have merges := mergeChanges_apart apart ⟨distinct, distinct, fun record member =>
    (Bool.and_eq_true_iff.mp (stable record member)).2⟩
  cases threw : (progress host next journal).thrown with
  | some failure =>
      rw [progress_rejected host threw, registrations]
      split
      · rw [journal.withRecords_nil]
        exact distinct
      · cases reads : executionProgressSchema.read (.obj next) with
        | none =>
            simp only
            rw [journal.withRecords_nil]
            exact distinct
        | some delta =>
            have deltas : recordDeltas next = delta.records.getD [] := by
              rw [recordDeltas, reads]
              rfl
            have ledger := merges.1
            rw [mergeChanges_journal, deltas] at ledger
            exact ledger
  | none =>
      obtain ⟨accepted⟩ := progress_accepted host threw
      have deltas : recordDeltas next = accepted.delta.records.getD [] := by
        rw [recordDeltas, accepted.reads]
        rfl
      rw [deltas, accepted.merges] at merges
      have merged := merges.2 rfl
      rw [accepted.becomes]
      change (accepted.parsed.records.map (·.key host)).Nodup
      rw [parsed_keys accepted.records_parse merged.stable]
      exact merged.distinct

theorem move_keys {entry : Move × Journal} (apart : keysApart host entry = true)
    (distinct : (entry.2.state.recordKeys host).Nodup) :
    ((Move.step host entry.1 entry.2).state.state.recordKeys host).Nodup := by
  obtain ⟨move, journal⟩ := entry
  have same : ∀ records : List ExecutionRecord,
      records.map ExecutionRecord.core = journal.state.records.map ExecutionRecord.core →
      (records.map (·.key host)).Nodup := by
    intro records cores
    rw [keys_of_core cores]
    exact distinct
  cases move with
  | begin input =>
      change ((begin input journal).state.records.map (·.key host)).Nodup
      rcases begin_state input journal with kept | kept
      · rw [kept]
        exact distinct
      · rw [kept]
        exact same _ (invalidate_records_core none journal.state)
  | request traffic request => exact same _ (observeRequest_records host journal.state)
  | confirmPending => exact confirmPending_keys apart distinct
  | bindNamed => exact reconcileNamedResources_keys distinct
  | registerMutations => exact registerObservedMutations_keys apart distinct
  | settleCleanup => exact same _ (settleRecords_core host _ _ _)
  | readPage page evidenceRefs =>
      exact same _ (observeUi_records host page evidenceRefs _ journal.state).1
  | progress next => exact progress_keys apart distinct
  | rereadPage =>
      change ((rereadPage host journal).state.records.map (·.key host)).Nodup
      rcases rereadPage_state host journal with kept | ⟨observation, kept⟩
      · rw [kept]
        exact distinct
      · rw [kept]
        exact same _ (observeUi_records host observation _ _ journal.state).1
  | review =>
      change ((reconcileReview host journal.state).records.map (·.key host)).Nodup
      obtain ⟨review, kept⟩ := reconcileReview_frame host journal.state
      rw [kept]
      exact distinct
  | blockCleanup note =>
      change ((blockCleanup host note journal.state).records.map (·.key host)).Nodup
      obtain ⟨review, kept⟩ := blockCleanup_frame host note journal.state
      rw [kept]
      exact same _ (by simp)

variable (host)

/-- No state of a run has two records with one key, where what each move appends has keys
that are not taken. -/
theorem ledger_keys_distinct (calls : List Call)
    (apart : ∀ entry ∈ runTrace host calls (restore host []), keysApart host entry = true) :
    ∀ reached ∈ statesOf (runTrace host calls (restore host []))
        (run host calls (restore host [])),
      (reached.state.recordKeys host).Nodup := by
  have holds := (run_path host calls (restore host [])).invariant
    (fun journal => (journal.state.recordKeys host).Nodup) List.nodup_nil
    fun entry member => move_keys (apart entry member)
  intro reached member
  rcases List.mem_append.mp member with before | last
  · obtain ⟨entry, made, rfl⟩ := List.mem_map.mp before
    exact holds.2 entry made
  · rw [List.mem_singleton.mp last]
    exact holds.1

end Host

/-! A row that is created, read and reported. -/

def reportedCalls : List Call := createdCalls ++ [
  .update [("records", .arr [
    .obj [("id", .str "8"), ("type", .str "M"), ("resourceUrl", .str itemUrl),
      ("account", .str "a"), ("ownership", .str "EXISTING"), ("evidenceRefs", .arr [.str "l"])],
    .obj [("id", .str "7"), ("type", .str "M"), ("resourceUrl", .str itemUrl)]])]]

theorem reported_rows_keys :
    (ledgerAfter itemHost reportedCalls).map (·.id) = ["7", "8"] ∧
      ∀ reached ∈ statesOf (runTrace itemHost reportedCalls (restore itemHost []))
          (run itemHost reportedCalls (restore itemHost [])),
        (reached.state.recordKeys itemHost).Nodup := by
  have facts : (ledgerAfter itemHost reportedCalls).map (·.id) = ["7", "8"] ∧
      ∀ entry ∈ runTrace itemHost reportedCalls (restore itemHost []),
        keysApart itemHost entry = true := by
    decide +kernel
  exact ⟨facts.1, ledger_keys_distinct itemHost reportedCalls facts.2⟩

/-- The row is reported for another account before its receipt is confirmed. -/
theorem shared_key_twice :
    ¬ ((run itemHost sharedKeyCalls (restore itemHost [])).state.recordKeys itemHost).Nodup := by
  decide +kernel

end Devproof
