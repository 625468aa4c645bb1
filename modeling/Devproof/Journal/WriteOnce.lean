import Devproof.Journal.Conclusions
import Devproof.Journal.Merging

/-!
What a ledger record keeps.  Observation only appends records or rewrites their
evidence; an update rewrites all of them, and its checks compare each record
with the first one of the same key.
-/

namespace Devproof

structure Keeps (record later : ExecutionRecord) : Prop where
  id : later.id = record.id
  type : later.type = record.type
  resourceUrl : later.resourceUrl = record.resourceUrl
  account : later.account = record.account
  ownership : later.ownership = record.ownership
  initialState : record.initialState ≠ none → later.initialState = record.initialState

instance (record later : ExecutionRecord) : Decidable (Keeps record later) :=
  decidable_of_iff
    (later.id = record.id ∧ later.type = record.type ∧ later.resourceUrl = record.resourceUrl ∧
      later.account = record.account ∧ later.ownership = record.ownership ∧
      (record.initialState ≠ none → later.initialState = record.initialState))
    ⟨fun ⟨id, type, url, account, ownership, initialState⟩ =>
      ⟨id, type, url, account, ownership, initialState⟩,
      fun keeps => ⟨keeps.id, keeps.type, keeps.resourceUrl, keeps.account, keeps.ownership,
        keeps.initialState⟩⟩

theorem Keeps.refl (record : ExecutionRecord) : Keeps record record :=
  ⟨rfl, rfl, rfl, rfl, rfl, fun _ => rfl⟩

theorem Keeps.trans {first second third : ExecutionRecord} (left : Keeps first second)
    (right : Keeps second third) : Keeps first third where
  id := right.id.trans left.id
  type := right.type.trans left.type
  resourceUrl := right.resourceUrl.trans left.resourceUrl
  account := right.account.trans left.account
  ownership := right.ownership.trans left.ownership
  initialState := by
    intro defined
    have same := left.initialState defined
    rw [← same] at defined ⊢
    exact right.initialState defined

theorem Keeps.of_core {record later : ExecutionRecord} (same : later.core = record.core) :
    Keeps record later := by
  have cores : Keeps record.core later.core := by
    rw [same]
    exact Keeps.refl record.core
  exact ⟨cores.id, cores.type, cores.resourceUrl, cores.account, cores.ownership,
    cores.initialState⟩

def LedgerKept (before after : List ExecutionRecord) : Prop :=
  ∀ (index : Nat) (record : ExecutionRecord), before[index]? = some record →
    ∃ later, after[index]? = some later ∧ Keeps record later

theorem LedgerKept.refl (records : List ExecutionRecord) : LedgerKept records records :=
  fun _ record here => ⟨record, here, Keeps.refl record⟩

theorem LedgerKept.trans {first second third : List ExecutionRecord}
    (left : LedgerKept first second) (right : LedgerKept second third) :
    LedgerKept first third := by
  intro index record here
  obtain ⟨middle, there, kept⟩ := left index record here
  obtain ⟨last, found, later⟩ := right index middle there
  exact ⟨last, found, kept.trans later⟩

theorem LedgerKept.of_core {before after : List ExecutionRecord}
    (same : after.map ExecutionRecord.core = before.map ExecutionRecord.core) :
    LedgerKept before after := by
  intro index record here
  have places := congrArg (fun cores => cores[index]?) same
  simp only [List.getElem?_map, here, Option.map_some] at places
  obtain ⟨later, found, equal⟩ := Option.map_eq_some_iff.mp places
  exact ⟨later, found, Keeps.of_core equal⟩

theorem LedgerKept.append (records added : List ExecutionRecord) :
    LedgerKept records (records ++ added) := by
  intro index record here
  refine ⟨record, ?_, Keeps.refl record⟩
  rw [List.getElem?_append_left (List.getElem?_eq_some_iff.mp here).1]
  exact here

section Host

variable (host : Host)

theorem refreshNamed_kept {state : ExecutionState} {read : ReadReceipt} {item : NamedResource}
    {existing : ExecutionRecord}
    (here : state.records.find? (fun record => record.key host == namedKey host read item) =
      some existing) :
    LedgerKept state.records (refreshNamed host state read item existing).records := by
  intro index record there
  unfold refreshNamed
  simp only
  generalize reading : (if (state.writes.find? (renamesTo host read item existing)).isSome = true
    then { existing with resourceName := some item.name } else existing) = renamed
  have same : Keeps existing renamed := by
    subst reading
    split
    · exact ⟨rfl, rfl, rfl, rfl, rfl, fun _ => rfl⟩
    · exact Keeps.refl existing
  generalize shows : { renamed with
    currentState := shownState read (namedKey host read item) <|> renamed.currentState } = shown
  have follows : Keeps renamed shown := by
    subst shows
    exact ⟨rfl, rfl, rfl, rfl, rfl, fun _ => rfl⟩
  rcases replaceFirst_getElem? there with kept | ⟨found, replaced⟩
  · exact ⟨record, kept, Keeps.refl record⟩
  · rw [here] at found
    obtain rfl := Option.some.inj found
    exact ⟨shown, replaced, same.trans follows⟩

theorem conclusionEdit_kept {start before after : ExecutionState}
    (edit : ConclusionEdit host start before after) :
    LedgerKept before.records after.records := by
  cases edit with
  | release => exact LedgerKept.refl before.records
  | keep => exact LedgerKept.refl before.records
  | dismiss pending =>
      obtain ⟨keys, same⟩ := addExistingKey_frame (pending.key host) before
      rw [same]
      exact LedgerKept.refl before.records
  | claim => exact LedgerKept.append before.records _
  | refresh read item existing stored listed here => exact refreshNamed_kept host here
  | bind => exact LedgerKept.append before.records _
  | observe read item shown =>
      rcases @observeNamed_frame host read item shown before with same | ⟨keys, same⟩
      · rw [same]
        exact LedgerKept.refl before.records
      · rw [same]
        exact LedgerKept.refl before.records
  | mutate => exact LedgerKept.append before.records _

theorem conclusions_kept {start before after : ExecutionState}
    (edits : Relation.ReflTransGen (ConclusionEdit host start) before after) :
    LedgerKept before.records after.records :=
  edits_kept (fun state => LedgerKept before.records state.records) edits
    (LedgerKept.refl before.records) fun _ _ edit kept => kept.trans (conclusionEdit_kept host edit)

structure Overlaid (change : RecordDelta) (locked later : ExecutionRecord) where
  state : ExecutionState
  overlaid : ExecutionRecord
  parsed : ExecutionRecord
  granted : ExecutionRecord
  addressed : addresses host change locked = true
  same : changesIdentity change locked = false
  overlays : overlay (some locked) change = some overlaid
  accepts : (executionRecordSchema host).parse overlaid = some parsed
  grants : grantRetention host state (some locked) parsed = .ok granted
  becomes : later = withRef host granted

theorem addresses_adoptCreation {merging : Merging} {change : RecordDelta}
    {created : ExecutionRecord} (found : pageCreation host merging change = some created) :
    addresses host (adoptCreation change created) created = true := by
  obtain ⟨proof⟩ := pageCreation_proof host found
  have named : created.recordRef = some (stableRecordRef host created.resourceUrl created.type
      created.id created.account) := by
    rw [proof.record]
    rfl
  simp [addresses, adoptCreation, named, stableRef_ne]

theorem addresses_adoptBaseline (change : RecordDelta) (baseline : ExecutionRecord) :
    addresses host (adoptBaseline change baseline) (relabelled baseline change) = true := by
  have fields : (relabelled baseline change).recordRef = baseline.recordRef ∧
      (relabelled baseline change).id = baseline.id ∧
      (relabelled baseline change).type = baseline.type ∧
      (relabelled baseline change).resourceUrl = baseline.resourceUrl := by
    unfold relabelled
    split
    · split <;> exact ⟨rfl, rfl, rfl, rfl⟩
    · exact ⟨rfl, rfl, rfl, rfl⟩
  obtain ⟨ref, id, type, url⟩ := fields
  have byIdentity : ((some (relabelled baseline change).id == some baseline.id) &&
      baseline.type.all ((relabelled baseline change).type == some ·) &&
      baseline.resourceUrl.all fun url =>
        resource host ((relabelled baseline change).resourceUrl.getD "") ==
          resource host url) = true := by
    rw [id, type, url]
    cases baseline.type <;> cases baseline.resourceUrl <;> simp
  unfold addresses adoptBaseline
  simp only
  split
  · split
    · exact byIdentity
    · rename_i named _
      rw [ref, named]
      simp
  · exact byIdentity

/-- A delta is merged into a ledger with at most new records at its end, and speaks about one
of those unless it is the delta that was reported. -/
theorem resolved_extends {merging : Merging} {change : RecordDelta} {resolved : Resolved}
    (inherits : inheritBaseline host (registered host merging change).journal.state
      (registered host merging change).merged (adopted host merging change) = .ok resolved) :
    ∃ added, resolved.merged = merging.merged ++ added ∧
      (resolved.change = change ∨
        ∃ record ∈ added, addresses host resolved.change record = true) := by
  rcases inheritBaseline_ok host inherits with plain | ⟨baseline, -, -, -, same⟩
  · subst plain
    refine ⟨_, registered_merged host merging change, ?_⟩
    unfold adopted
    cases found : pageCreation host merging change with
    | none => exact Or.inl rfl
    | some created =>
        exact Or.inr ⟨created, by simp, addresses_adoptCreation host found⟩
  · subst same
    refine ⟨(pageCreation host merging change).toList ++
      [relabelled baseline (adopted host merging change)], ?_, Or.inr ⟨_, by simp,
        addresses_adoptBaseline host (adopted host merging change) baseline⟩⟩
    rw [registered_merged, List.append_assoc]

theorem ledgerEdit_entry {state : ExecutionState} {resolved : Resolved}
    {merged : List ExecutionRecord} (edit : LedgerEdit host state resolved merged) {index : Nat}
    {record : ExecutionRecord} (here : resolved.merged[index]? = some record) :
    ∃ later, merged[index]? = some later ∧
      (later = record ∨
        resolved.merged.filter (addresses host resolved.change) = [record] ∧
          Nonempty (Overlaid host resolved.change record later)) := by
  cases edit with
  | replace locked overlaid parsed granted found same aliases overlays accepts grants =>
      rcases replaceFirst_getElem? here with kept | ⟨first, replaced⟩
      · exact ⟨record, kept, Or.inl rfl⟩
      · have addressed := List.find?_some first
        have only : record ∈ [locked] := by
          rw [← found]
          exact List.mem_filter.mpr ⟨List.mem_of_find?_eq_some first, addressed⟩
        obtain rfl := List.mem_singleton.mp only
        exact ⟨_, replaced, Or.inr ⟨found,
          ⟨{ state, overlaid, parsed, granted, addressed, same, overlays, accepts, grants
             becomes := rfl }⟩⟩⟩
  | append =>
      refine ⟨record, ?_, Or.inl rfl⟩
      rw [List.getElem?_append_left (List.getElem?_eq_some_iff.mp here).1]
      exact here

theorem mergeChange_entry {merging : Merging} {change : RecordDelta}
    (accepted : (mergeChange host merging change).thrown = none) {index : Nat}
    {record : ExecutionRecord} (here : merging.merged[index]? = some record) :
    ∃ later, (mergeChange host merging change).state.merged[index]? = some later ∧
      (later = record ∨ Nonempty (Overlaid host change record later)) := by
  obtain ⟨resolved, merged, inherits, edit, state⟩ := mergeChange_accepted host accepted
  obtain ⟨added, extends_, speaks⟩ := resolved_extends host inherits
  have there : resolved.merged[index]? = some record := by
    rw [extends_, List.getElem?_append_left (List.getElem?_eq_some_iff.mp here).1]
    exact here
  obtain ⟨later, found, outcome⟩ := ledgerEdit_entry host edit there
  rw [state]
  refine ⟨later, found, outcome.imp_right ?_⟩
  rintro ⟨alone, overlaid⟩
  rcases speaks with reported | ⟨last, listed, addressed⟩
  · rw [← reported]
    exact overlaid
  · exfalso
    obtain ⟨proof⟩ := overlaid
    have early : record ∈ merging.merged.filter (addresses host resolved.change) :=
      List.mem_filter.mpr ⟨List.mem_of_getElem? here, proof.addressed⟩
    have late : last ∈ added.filter (addresses host resolved.change) :=
      List.mem_filter.mpr ⟨listed, addressed⟩
    have count := congrArg List.length alone
    rw [extends_, List.filter_append, List.length_append] at count
    have first := List.length_pos_of_mem early
    have second := List.length_pos_of_mem late
    simp only [List.length_singleton] at count
    omega

/-! The members of a record that a delta was merged into. -/

theorem overlay_some {change : RecordDelta} {locked overlaid : ExecutionRecord}
    (overlays : overlay (some locked) change = some overlaid) :
    overlaid.recordRef = (change.recordRef <|> locked.recordRef) ∧
      overlaid.id = change.id.getD locked.id ∧
      overlaid.type = (change.type <|> locked.type) ∧
      overlaid.resourceUrl = (change.resourceUrl <|> locked.resourceUrl) ∧
      overlaid.account = (change.account <|> locked.account) ∧
      overlaid.ownership = change.ownership.getD locked.ownership ∧
      overlaid.initialState = (change.initialState <|> locked.initialState) := by
  unfold overlay at overlays
  simp only [Option.map_some, bind, Option.bind_some, pure] at overlays
  cases givenId : change.id <;> cases givenOwnership : change.ownership <;>
    cases givenRefs : change.evidenceRefs <;>
    simp only [givenId, givenOwnership, givenRefs, Option.bind_some, Option.some.injEq,
      HOrElse.hOrElse, OrElse.orElse, Option.orElse] at overlays <;>
    subst overlays <;> exact ⟨rfl, rfl, rfl, rfl, rfl, rfl, rfl⟩

theorem orElse_of_unchanged {given known : Option String}
    (same : given.any (some · != known) = false) : (given <|> known) = known := by
  cases given with
  | none => rfl
  | some value =>
      simp at same
      simp [same]

theorem overlay_identity {change : RecordDelta} {locked overlaid : ExecutionRecord}
    (overlays : overlay (some locked) change = some overlaid)
    (same : changesIdentity change locked = false) :
    overlaid.recordRef = locked.recordRef ∧ overlaid.id = locked.id ∧
      overlaid.type = locked.type ∧ overlaid.resourceUrl = locked.resourceUrl ∧
      overlaid.account = locked.account := by
  obtain ⟨ref, id, type, url, account, -, -⟩ := overlay_some overlays
  simp only [changesIdentity, Bool.or_eq_false_iff] at same
  obtain ⟨⟨⟨⟨sameId, sameType⟩, sameUrl⟩, sameAccount⟩, sameRef⟩ := same
  refine ⟨ref.trans (orElse_of_unchanged sameRef), ?_, type.trans (orElse_of_unchanged sameType),
    url.trans (orElse_of_unchanged sameUrl), account.trans (orElse_of_unchanged sameAccount)⟩
  rw [id]
  cases given : change.id with
  | none => rfl
  | some value =>
      simp only [given, Option.any_some, bne_eq_false_iff_eq] at sameId
      simp [sameId]

def trimKeeps (value : String) : Bool := (text.parse value).all (· == value)

def identityStable (record : ExecutionRecord) : Bool :=
  record.recordRef.any trimKeeps && trimKeeps record.id && record.type.all trimKeeps &&
    record.account.all trimKeeps

theorem text_parse_kept {value parsed : String} (kept : trimKeeps value = true)
    (accepts : text.parse value = some parsed) : parsed = value := by
  simpa [trimKeeps, accepts] using kept

theorem optional_text_kept {value parsed : Option String} (kept : value.all trimKeeps = true)
    (accepts : (Slot.optional text).parse value = some parsed) : parsed = value := by
  rw [Slot.optional_parse_eq_some] at accepts
  cases value with
  | none => exact accepts
  | some inner =>
      obtain ⟨result, same, parses⟩ := accepts
      rw [Option.all_some] at kept
      rw [same, text_parse_kept kept parses]

theorem optional_bounded_kept {limit : Nat} {value parsed : Option String}
    (accepts : (Slot.optional (bounded limit)).parse value = some parsed) : parsed = value := by
  rw [Slot.optional_parse_eq_some] at accepts
  cases value with
  | none => exact accepts
  | some inner =>
      obtain ⟨result, same, parses⟩ := accepts
      rw [same, (bounded_parse.mp parses).1]

theorem record_parse_kept {value parsed : ExecutionRecord}
    (stable : identityStable value = true)
    (accepts : (executionRecordSchema host).parse value = some parsed) :
    parsed.recordRef = value.recordRef ∧ parsed.id = value.id ∧ parsed.type = value.type ∧
      parsed.resourceUrl = value.resourceUrl ∧ parsed.account = value.account ∧
      parsed.ownership = value.ownership ∧ parsed.initialState = value.initialState := by
  simp only [identityStable, Bool.and_eq_true] at stable
  obtain ⟨⟨⟨ref, id⟩, type⟩, account⟩ := stable
  obtain ⟨parsesRef, parsesId, parsesType, -, parsesUrl, -, -, parsesAccount, -, parsesOwnership,
    parsesInitial, -⟩ := executionRecordSchema_parse.mp accepts
  have referred : value.recordRef.all trimKeeps = true := by
    cases named : value.recordRef with
    | none => rfl
    | some given => simpa [named] using ref
  refine ⟨optional_text_kept referred parsesRef, text_parse_kept id parsesId,
    optional_text_kept type parsesType, optional_bounded_kept parsesUrl,
    optional_text_kept account parsesAccount, ?_, optional_bounded_kept parsesInitial⟩
  rw [ownershipSchema_parse, Option.some.injEq] at parsesOwnership
  exact parsesOwnership.symm

def restated (deltas : List RecordDelta) (record : ExecutionRecord)
    (agrees : RecordDelta → Bool) : Bool :=
  deltas.all fun change => !addresses host change record || agrees change

def restatesOwnership (record : ExecutionRecord) (change : RecordDelta) : Bool :=
  change.ownership.all (· == record.ownership)

def restatesInitialState (record : ExecutionRecord) (change : RecordDelta) : Bool :=
  change.initialState.all (some · == record.initialState)

structure MergedFrom (deltas : List RecordDelta) (record later : ExecutionRecord) : Prop where
  recordRef : later.recordRef = record.recordRef
  id : later.id = record.id
  type : later.type = record.type
  resourceUrl : later.resourceUrl = record.resourceUrl
  account : later.account = record.account
  ownership : restated host deltas record (restatesOwnership record) = true →
    later.ownership = record.ownership
  initialState : restated host deltas record (restatesInitialState record) = true →
    later.initialState = record.initialState

theorem MergedFrom.refl (deltas : List RecordDelta) (record : ExecutionRecord) :
    MergedFrom host deltas record record :=
  ⟨rfl, rfl, rfl, rfl, rfl, fun _ => rfl, fun _ => rfl⟩

theorem restated_addressed {deltas : List RecordDelta} {record : ExecutionRecord}
    {agrees : RecordDelta → Bool} {change : RecordDelta}
    (all : restated host deltas record agrees = true) (reported : change ∈ deltas)
    (addressed : addresses host change record = true) : agrees change = true := by
  have here := List.all_eq_true.mp all change reported
  simpa [addressed] using here

variable {host}

theorem MergedFrom.addressed_eq {deltas : List RecordDelta} {record later : ExecutionRecord}
    (merged : MergedFrom host deltas record later) (change : RecordDelta) :
    addresses host change later = addresses host change record := by
  unfold addresses
  rw [merged.recordRef, merged.id, merged.type, merged.resourceUrl]

theorem MergedFrom.stable {deltas : List RecordDelta} {record later : ExecutionRecord}
    (merged : MergedFrom host deltas record later) :
    identityStable later = identityStable record := by
  unfold identityStable
  rw [merged.recordRef, merged.id, merged.type, merged.account]

/-- Merging one more delta of the update. -/
theorem MergedFrom.overlaid {deltas : List RecordDelta} {record middle later : ExecutionRecord}
    {change : RecordDelta} (merged : MergedFrom host deltas record middle)
    (stable : identityStable record = true) (reported : change ∈ deltas)
    (step : Overlaid host change middle later) : MergedFrom host deltas record later := by
  obtain ⟨state, overlaid, parsed, granted, addressed, same, overlays, accepts, grants, rfl⟩ := step
  rw [merged.addressed_eq] at addressed
  obtain ⟨ref, id, type, url, account⟩ := overlay_identity overlays same
  obtain ⟨-, -, -, -, -, ownership, initial⟩ := overlay_some overlays
  have overlaidStable : identityStable overlaid = true := by
    rw [← stable, ← merged.stable]
    unfold identityStable
    rw [ref, id, type, account]
  obtain ⟨parsedRef, parsedId, parsedType, parsedUrl, parsedAccount, parsedOwnership,
    parsedInitial⟩ := record_parse_kept host overlaidStable accepts
  have cores := grantRetention_core host grants
  have keeps : Keeps parsed granted := Keeps.of_core cores
  have grantedRef : granted.recordRef = record.recordRef := by
    rw [recordRef_of_core cores, parsedRef, ref, merged.recordRef]
  have becomes : withRef host granted = granted := by
    simp only [identityStable, Bool.and_eq_true, Option.any_eq_true] at stable
    obtain ⟨⟨⟨⟨name, here, -⟩, -⟩, -⟩, -⟩ := stable
    rw [withRef, grantedRef, here]
  rw [becomes]
  refine ⟨grantedRef, keeps.id.trans (parsedId.trans (id.trans merged.id)),
    keeps.type.trans (parsedType.trans (type.trans merged.type)),
    keeps.resourceUrl.trans (parsedUrl.trans (url.trans merged.resourceUrl)),
    keeps.account.trans (parsedAccount.trans (account.trans merged.account)), ?_, ?_⟩
  · intro all
    rw [keeps.ownership, parsedOwnership, ownership, merged.ownership all]
    have here := restated_addressed host all reported addressed
    unfold restatesOwnership at here
    cases given : change.ownership with
    | none => rfl
    | some value => simpa [given] using here
  · intro all
    rw [initialState_of_core cores, parsedInitial, initial, merged.initialState all]
    have here := restated_addressed host all reported addressed
    unfold restatesInitialState at here
    cases given : change.initialState with
    | none => rfl
    | some value => simpa [given] using here

theorem mergeChanges_entry {deltas changes : List RecordDelta} {merging : Merging}
    {record middle : ExecutionRecord} {index : Nat} (stable : identityStable record = true)
    (reported : ∀ change ∈ changes, change ∈ deltas)
    (here : merging.merged[index]? = some middle) (merged : MergedFrom host deltas record middle)
    (quiet : (mergeChanges host changes merging).thrown = none) :
    ∃ later, (mergeChanges host changes merging).state.merged[index]? = some later ∧
      MergedFrom host deltas record later := by
  induction changes generalizing merging middle with
  | nil => exact ⟨middle, here, merged⟩
  | cons change rest ih =>
      obtain ⟨accepted, later, same⟩ := Outcome.andThen_thrown_none quiet
      obtain ⟨next, found, outcome⟩ := mergeChange_entry host accepted here
      have onward : MergedFrom host deltas record next := by
        rcases outcome with kept | addressed
        · rw [kept]
          exact merged
        · obtain ⟨overlaid⟩ := addressed
          exact merged.overlaid stable (reported change (List.mem_cons_self ..)) overlaid
      simp only [mergeChanges]
      rw [same]
      exact ih (fun change member => reported change (List.mem_cons_of_mem _ member)) found onward
        later

variable (host)

def recordDeltas (next : Members) : List RecordDelta :=
  ((executionProgressSchema.read (.obj next)).bind Progress.records).getD []

/-- The first record with the key of another, which the checks of an update compare it with. -/
def priorRecord (records : List ExecutionRecord) (record : ExecutionRecord) :
    Option ExecutionRecord :=
  records.find? fun known => sameKey host known record

def ownershipGuarded (deltas : List RecordDelta) (records : List ExecutionRecord)
    (record : ExecutionRecord) : Bool :=
  restated host deltas record (restatesOwnership record) ||
    (priorRecord host records record).any (·.ownership == record.ownership)

def initialStateGuarded (deltas : List RecordDelta) (records : List ExecutionRecord)
    (record : ExecutionRecord) : Bool :=
  record.initialState.isNone || restated host deltas record (restatesInitialState record) ||
    (priorRecord host records record).any (·.initialState == record.initialState)

/-- The schema leaves the identity of every record alone, and where the first record with a
key has another ownership or initial state, no delta restates that of the later one. -/
def Guarded (entry : Move × Journal) : Prop :=
  match entry.1 with
  | .progress next =>
      ∀ record ∈ entry.2.state.records, identityStable record = true ∧
        ownershipGuarded host (recordDeltas next) entry.2.state.records record = true ∧
        initialStateGuarded host (recordDeltas next) entry.2.state.records record = true
  | _ => True

variable {host}

theorem checkRecords_ok {state : ExecutionState} {records : List ExecutionRecord}
    (ok : checkRecords host state records = .ok ()) {record : ExecutionRecord}
    (member : record ∈ records) : checkRecord host state record = .ok () := by
  induction records with
  | nil => simp at member
  | cons first rest ih =>
      obtain ⟨_, checked, others⟩ := bind_ok.mp ok
      rcases List.mem_cons.mp member with here | later
      · rw [here]
        exact checked
      · exact ih others later

theorem checkRecord_ok {state : ExecutionState} {record prior : ExecutionRecord}
    (ok : checkRecord host state record = .ok ())
    (first : priorRecord host state.records record = some prior) :
    prior.ownership = record.ownership ∧
      (prior.initialState ≠ none → prior.initialState = record.initialState) := by
  unfold checkRecord at ok
  unfold priorRecord at first
  simp only [first, Option.any_some] at ok
  split at ok
  · simp at ok
  · rename_i owned
    split at ok
    · simp at ok
    · rename_i started
      refine ⟨by simpa using owned, ?_⟩
      intro defined
      cases held : prior.initialState with
      | none => exact absurd held defined
      | some value => simpa [held] using started

theorem priorRecord_extended {records added : List ExecutionRecord}
    {record parsed : ExecutionRecord} (member : record ∈ records)
    (same : parsed.key host = record.key host) :
    ∃ prior, priorRecord host records record = some prior ∧
      priorRecord host (records ++ added) parsed = some prior := by
  have found : (priorRecord host records record).isSome = true := by
    rw [priorRecord, List.find?_isSome]
    exact ⟨record, member, by simp [sameKey]⟩
  obtain ⟨prior, first⟩ := Option.isSome_iff_exists.mp found
  refine ⟨prior, first, ?_⟩
  have keys : (fun known => sameKey host known parsed) = fun known => sameKey host known record := by
    funext known
    rw [sameKey, sameKey, same]
  unfold priorRecord at first ⊢
  rw [keys, List.find?_append, first]
  rfl

theorem accepted_kept {next : Members} {journal : Journal} (accepted : Accepted host next journal)
    (guarded : Guarded host (.progress next, journal)) :
    LedgerKept journal.state.records accepted.parsed.records := by
  intro index record here
  have member := List.mem_of_getElem? here
  obtain ⟨stable, ownership, initialState⟩ := guarded record member
  have deltas : accepted.delta.records.getD [] = recordDeltas next := by
    rw [recordDeltas, accepted.reads]
    rfl
  have merges := accepted.merges
  rw [deltas] at merges
  have quiet : (mergeChanges host (recordDeltas next)
      { journal, merged := journal.state.records }).thrown = none := by
    rw [merges]
    rfl
  obtain ⟨middle, there, merged⟩ := mergeChanges_entry stable (fun _ reported => reported) here
    (MergedFrom.refl host (recordDeltas next) record) quiet
  rw [merges] at there
  simp only [Outcome.done_state] at there
  obtain ⟨later, found, parses⟩ := forall₂_place accepted.records_parse there
  obtain ⟨-, id, type, url, account, owned, initial⟩ :=
    record_parse_kept host (merged.stable.trans stable) parses
  have key : later.key host = record.key host := by
    unfold ExecutionRecord.key
    rw [id, type, url, merged.id, merged.type, merged.resourceUrl]
  obtain ⟨prior, first, compared⟩ := priorRecord_extended member key
  have ledger : accepted.merging.journal.state.records = journal.state.records ++ pageCreations host
      (accepted.delta.records.getD []) { journal, merged := journal.state.records } := by
    rw [accepted.journal]
    rfl
  have checked := checkRecords_ok (checkProgress_ok host accepted.checks).2.2
    (List.mem_of_getElem? found)
  rw [← ledger] at compared
  obtain ⟨sameOwner, sameStart⟩ := checkRecord_ok checked compared
  refine ⟨later, found, id.trans merged.id, type.trans merged.type,
    url.trans merged.resourceUrl, account.trans merged.account, ?_, ?_⟩
  · rcases Bool.or_eq_true_iff.mp ownership with unnamed | agreed
    · exact owned.trans (merged.ownership unnamed)
    · rw [← sameOwner]
      simpa [first] using agreed
  · intro defined
    simp only [initialStateGuarded, Bool.or_eq_true, Option.isNone_iff_eq_none] at initialState
    rcases initialState with (missing | unnamed) | agreed
    · exact absurd missing defined
    · exact initial.trans (merged.initialState unnamed)
    · have started : prior.initialState = record.initialState := by simpa [first] using agreed
      rw [← sameStart (by rw [started]; exact defined)]
      exact started

theorem move_kept {entry : Move × Journal} (guarded : Guarded host entry) :
    LedgerKept entry.2.state.records (Move.step host entry.1 entry.2).state.state.records := by
  obtain ⟨move, journal⟩ := entry
  cases move with
  | begin input =>
      change LedgerKept journal.state.records (begin input journal).state.records
      rcases begin_state input journal with same | same
      · rw [same]
        exact LedgerKept.refl journal.state.records
      · rw [same]
        exact LedgerKept.of_core (invalidate_records_core none journal.state)
  | request traffic request =>
      exact LedgerKept.of_core (observeRequest_records host journal.state)
  | confirmPending => exact conclusions_kept host (confirmPending_edits journal.state)
  | bindNamed => exact conclusions_kept host (reconcileNamedResources_edits journal.state)
  | registerMutations =>
      exact conclusions_kept host (registerObservedMutations_edits journal.state)
  | settleCleanup => exact LedgerKept.of_core (settleRecords_core host _ _ _)
  | readPage page evidenceRefs =>
      exact LedgerKept.of_core (observeUi_records host page evidenceRefs _ journal.state).1
  | progress next =>
      change LedgerKept journal.state.records (progress host next journal).state.state.records
      cases threw : (progress host next journal).thrown with
      | some failure =>
          rw [progress_rejected host threw]
          exact LedgerKept.append journal.state.records _
      | none =>
          obtain ⟨accepted⟩ := progress_accepted host threw
          rw [accepted.becomes]
          exact accepted_kept accepted guarded
  | rereadPage =>
      change LedgerKept journal.state.records (rereadPage host journal).state.records
      rcases rereadPage_state host journal with same | ⟨observation, same⟩
      · rw [same]
        exact LedgerKept.refl journal.state.records
      · rw [same]
        exact LedgerKept.of_core (observeUi_records host observation _ _ journal.state).1
  | review =>
      change LedgerKept journal.state.records (reconcileReview host journal.state).records
      obtain ⟨review, same⟩ := reconcileReview_frame host journal.state
      rw [same]
      exact LedgerKept.refl journal.state.records
  | blockCleanup note =>
      change LedgerKept journal.state.records (blockCleanup host note journal.state).records
      obtain ⟨review, same⟩ := blockCleanup_frame host note journal.state
      rw [same]
      exact LedgerKept.of_core (by simp)

variable (host)

/-- From every state of a run to every later one the ledger keeps its records. -/
theorem ledger_records_kept (calls : List Call) (journal : Journal)
    (guarded : ∀ entry ∈ runTrace host calls journal, Guarded host entry) :
    (statesOf (runTrace host calls journal) (run host calls journal)).Pairwise
      fun before after => LedgerKept before.state.records after.state.records := by
  apply (run_path host calls journal).ordered
    fun before after => LedgerKept before.state.records after.state.records
  · intro first second third left right
    exact LedgerKept.trans left right
  · intro entry member
    exact move_kept (guarded entry member)

instance (entry : Move × Journal) : Decidable (Guarded host entry) :=
  match entry with
  | (.progress next, journal) =>
      inferInstanceAs (Decidable (∀ record ∈ journal.state.records, identityStable record = true ∧
        ownershipGuarded host (recordDeltas next) journal.state.records record = true ∧
        initialStateGuarded host (recordDeltas next) journal.state.records record = true))
  | (.begin _, _) | (.request _ _, _) | (.confirmPending, _) | (.bindNamed, _)
  | (.registerMutations, _) | (.settleCleanup, _) | (.readPage _ _, _) | (.rereadPage, _)
  | (.review, _) | (.blockCleanup _, _) => .isTrue trivial

end Host

def itemUrl : String := "https://a.b/w"

def itemQuery : String := "https://a.b/w?account=a&type=M"

def itemRequest : Json := .obj [("account", .str "a"), ("type", .str "M")]

def itemRow : Json :=
  .obj [("id", .str "7"), ("type", .str "M"), ("account", .str "a"), ("config", .bool true)]

def spacedRow (name : String) : Json := .obj [("id", .str " 7"), ("name", .str name)]

def itemHost : Host :=
  .ofTables
    { values := [.arr [], itemRequest, acceptedBody, .bool true, .arr [itemRow],
        .arr [spacedRow "x"], spacedRow "x", spacedRow "y"]
      urls := [
        (itemUrl, { origin := "https://a.b", pathname := "/w", searchParams := [] }),
        (itemQuery,
          { origin := "https://a.b", pathname := "/w",
            searchParams := [("account", "a"), ("type", "M")] })]
      digests := [
        ("[\"https://a.b/w\",\"NAMED_RESOURCE\",\" 7\",\"\"]",
          "53fb31a8c12e2976da3a84ca8095c03f8f88ee7a4e5db320fab3981c48a0d0eb"),
        ("[\"https://a.b/w\",\"M\",\"7\",\"a\"]",
          "b969c6c6fe8b2116b646c2cd500d610da9f83ed68ad10aafbae7459fb1ca2305"),
        ("[\"https://a.b/w\",\"M\",\"7\",\"b\"]",
          "e3eda0c95b23ff7f60f83c9fc5e3222bbde1db2afc9ec3581383b39c883dab7a")] }

def changedCalls : List Call := [
  .observed "l" [requestJson "1" "GET" itemUrl 200 none none (some (.arr [spacedRow "x"]))] none,
  .observed "e"
    [requestJson "2" "PUT" itemUrl 200 none (some (spacedRow "y")) (some acceptedBody)] none]

/-- The row of a creation, reported for another account before its receipt is confirmed. -/
def foreignRow : Json :=
  .obj [("id", .str "7"), ("type", .str "M"), ("resourceUrl", .str itemUrl),
    ("account", .str "b"), ("ownership", .str "EXISTING"), ("evidenceRefs", .arr [.str "l"])]

def itemPost (response : Option Json) : Json :=
  requestJson "2" "POST" itemUrl 200 none (some itemRequest) response

def itemRead (id : String) (rows : List Json) : Json :=
  requestJson id "GET" itemQuery 200 none none (some (.arr rows))

def sharedKeyCalls : List Call := [
  .observed "q" [itemRead "1" [], itemPost none, itemRead "3" [itemRow]] none,
  .update [("records", .arr [foreignRow])],
  .observed "r" [itemPost (some acceptedBody)] none]

def disowningCall : Call :=
  .update [("records", .arr [.obj [
    ("recordRef",
      .str "record:b969c6c6fe8b2116b646c2cd500d610da9f83ed68ad10aafbae7459fb1ca2305"),
    ("ownership", .str "EXISTING")]])]

def ledgerAfter (host : Host) (calls : List Call) : List ExecutionRecord :=
  (run host calls (restore host [])).state.records

theorem ledgerAfter_append (host : Host) (calls : List Call) (call : Call) :
    ledgerAfter host (calls ++ [call]) =
      (call.perform host (run host calls (restore host []))).state.records := by
  simp [ledgerAfter, run]

theorem ledger_records_rewritten :
    (∃ record ∈ ledgerAfter itemHost changedCalls,
      ∀ later ∈ ledgerAfter itemHost (changedCalls ++ [.update []]), ¬Keeps record later) ∧
      ∃ record ∈ ledgerAfter itemHost sharedKeyCalls,
        ∀ later ∈ ledgerAfter itemHost (sharedKeyCalls ++ [disowningCall]),
          ¬Keeps record later := by
  rw [ledgerAfter_append, ledgerAfter_append]
  constructor
  · decide +kernel
  · decide +kernel

def createdCalls : List Call := [
  .observed "q" [itemRead "1" [], itemPost (some acceptedBody), itemRead "3" [itemRow]] none,
  .update [("phase", .str "CLEANUP")]]

/-- One evaluation of the run. -/
theorem createdCalls_reach :
    (ledgerAfter itemHost (createdCalls.take 1)).map (·.ownership) = [.createdThisRun] ∧
      (ledgerAfter itemHost createdCalls).length = 1 ∧
      ∀ entry ∈ runTrace itemHost createdCalls (restore itemHost []), Guarded itemHost entry := by
  decide +kernel

theorem created_row_kept :
    (ledgerAfter itemHost (createdCalls.take 1)).map (·.ownership) = [.createdThisRun] ∧
      (statesOf (runTrace itemHost createdCalls (restore itemHost []))
        (run itemHost createdCalls (restore itemHost []))).Pairwise
        fun before after => LedgerKept before.state.records after.state.records :=
  ⟨createdCalls_reach.1,
    ledger_records_kept itemHost createdCalls (restore itemHost []) createdCalls_reach.2.2⟩

end Devproof
