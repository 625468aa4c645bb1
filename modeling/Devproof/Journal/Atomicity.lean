import Devproof.Journal.Keys

/-!
A rejected update.  The only thing an update leaves behind when it throws is the
records that the deltas before the exception registered from the last page.
-/

namespace Devproof

section Host

variable (host : Host)

def updatesAfter (next : Members) (journal : Journal) (processed : List Json) : Updated :=
  processed.foldl (updateOne host)
    { journal := (update host (withoutRecords next) journal).state, results := [] }

theorem updateOne_results (records : List Json) (updated : Updated) :
    (records.foldl (updateOne host) updated).results.length =
        updated.results.length + records.length ∧
      updated.results <+: (records.foldl (updateOne host) updated).results := by
  induction records generalizing updated with
  | nil => exact ⟨rfl, List.prefix_refl _⟩
  | cons record rest ih =>
      obtain ⟨count, kept⟩ := ih (updateOne host updated record)
      have grown : (updateOne host updated record).results.length = updated.results.length + 1 := by
        simp [updateOne]
      refine ⟨?_, (List.prefix_append _ _).trans kept⟩
      simp only [List.foldl_cons, List.length_cons]
      omega

theorem updatePartial_result {next : Members} {journal : Journal} {earlier later : List Json}
    {record : Json} {result : RecordUpdate}
    (split : recordItems next = earlier ++ record :: later)
    (reported : (updatePartial host next journal).state.results[earlier.length]? = some result) :
    result.error = (update host (singleRecord record)
        (updatesAfter host next journal earlier).journal).thrown := by
  unfold updatePartial at reported
  simp only at reported
  split at reported
  · simp at reported
  · rw [split, List.foldl_append, List.foldl_cons] at reported
    have before := (updateOne_results host earlier
      { journal := (update host (withoutRecords next) journal).state, results := [] }).1
    obtain ⟨rest, whole⟩ := (updateOne_results host later
      (updateOne host (updatesAfter host next journal earlier) record)).2
    have here : (updatesAfter host next journal earlier).results.length = earlier.length := by
      simpa [updatesAfter] using before
    simp only [Outcome.done_state] at reported
    change (later.foldl (updateOne host)
      (updateOne host (updatesAfter host next journal earlier) record)).results[earlier.length]? =
        some result at reported
    rw [← whole] at reported
    simp only [updateOne, List.append_assoc, ← here, List.getElem?_append_right (Nat.le_refl _),
      Nat.sub_self, List.singleton_append, List.getElem?_cons_zero, Option.some.injEq] at reported
    rw [← reported]

def knownTo (records : List ExecutionRecord) (earlier : List RecordDelta) (change : RecordDelta) :
    Bool :=
  records.any (namedBy earlier change)

/-- The delta claims a creation that the last page proves and that the ledger lacks. -/
def provesNew (journal : Journal) (earlier : List RecordDelta) (change : RecordDelta) : Bool :=
  change.ownership == some .createdThisRun && (createdUiRecord host journal change).isSome &&
    !knownTo journal.state.records earlier change

def ProvesNothing (next : Members) (journal : Journal) : Prop :=
  ∀ earlier change later, recordDeltas next = earlier ++ change :: later →
    provesNew host journal earlier change = false

variable {host}

theorem provesNew_first (journal : Journal) (change : RecordDelta) :
    provesNew host journal [] change =
      (pageCreation host { journal, merged := journal.state.records } change).isSome := by
  have known : knownTo journal.state.records [] change = journal.state.records.any fun record =>
      some record.id == change.id &&
        (record.type == change.type || (record.displayType == change.type)) := by
    unfold knownTo
    congr 1
    funext record
    simp [namedBy]
  unfold provesNew pageCreation claimsCreation
  rw [known]
  split
  · rename_i claims
    obtain ⟨owned, new⟩ := Bool.and_eq_true_iff.mp claims
    simp [owned, new]
  · rename_i claims
    cases owned : (change.ownership == some .createdThisRun) with
    | false => simp
    | true =>
        simp only [owned, Bool.true_and, Bool.not_eq_true] at claims
        simp [claims]

/-- What a delta must find of a record to know it. -/
structure Recognised (change : RecordDelta) (labels : Bool) (record : ExecutionRecord) : Prop where
  id : some record.id = change.id
  name : record.type = change.type ∨ labels = true ∧ record.displayType = change.type

theorem overlaid_recognised {change other : RecordDelta} {labels : Bool}
    {record later : ExecutionRecord} (idStable : change.id.all trimKeeps = true)
    (typeStable : change.type.all trimKeeps = true)
    (agrees : labels = true → other.displayType.all (some · == change.type) = true)
    (known : Recognised change labels record) (overlaid : Overlaid host other record later) :
    Recognised change labels later := by
  rw [← known.id, Option.all_some] at idStable
  refine ⟨?_, ?_⟩
  · rw [overlaid.id_kept idStable]
    exact known.id
  · rcases known.name with typed | ⟨enabled, labelled⟩
    · rw [← typed] at typeStable ⊢
      exact Or.inl (overlaid.type_kept typeStable)
    · exact Or.inr ⟨enabled, overlaid.label_kept typeStable (agrees enabled) labelled⟩

theorem mergeChanges_recognised {change : RecordDelta} {labels : Bool} {earlier : List RecordDelta}
    {merging : Merging} {record : ExecutionRecord} {place : Nat}
    (idStable : change.id.all trimKeeps = true) (typeStable : change.type.all trimKeeps = true)
    (agrees : labels = true →
      ∀ other ∈ earlier, other.displayType.all (some · == change.type) = true)
    (here : merging.merged[place]? = some record) (known : Recognised change labels record)
    (quiet : (mergeChanges host earlier merging).thrown = none) :
    ∃ later ∈ (mergeChanges host earlier merging).state.merged, Recognised change labels later := by
  induction earlier generalizing merging record with
  | nil => exact ⟨record, List.mem_of_getElem? here, known⟩
  | cons first rest ih =>
      obtain ⟨accepted, later, same⟩ := Outcome.andThen_thrown_none quiet
      obtain ⟨next, found, outcome⟩ := mergeChange_entry host accepted here
      have onward : Recognised change labels next := by
        rcases outcome with kept | overlaid
        · exact kept ▸ known
        · obtain ⟨proof⟩ := overlaid
          exact overlaid_recognised idStable typeStable
            (fun enabled => agrees enabled first (List.mem_cons_self ..)) known proof
      simp only [mergeChanges]
      rw [same]
      exact ih (fun enabled other member => agrees enabled other (List.mem_cons_of_mem _ member))
        found onward later

theorem pageCreation_known {journal : Journal} {earlier : List RecordDelta} {change : RecordDelta}
    (idStable : change.id.all trimKeeps = true) (typeStable : change.type.all trimKeeps = true)
    (quiet : (mergeChanges host earlier
      { journal, merged := journal.state.records }).thrown = none)
    (proves : provesNew host journal earlier change = false) :
    pageCreation host (mergeChanges host earlier
      { journal, merged := journal.state.records }).state change = none := by
  have page := mergeChanges_journal host earlier { journal, merged := journal.state.records }
  unfold pageCreation
  rw [page, createdUiRecord_withRecords]
  simp only [provesNew, Bool.and_eq_false_iff, Bool.not_eq_false'] at proves
  rcases proves with (unclaimed | unproven) | known
  · simp [claimsCreation, unclaimed]
  · rw [Option.isSome_eq_false_iff, Option.isNone_iff_eq_none] at unproven
    simp [unproven]
  · simp only [knownTo, namedBy, List.any_eq_true, Bool.and_eq_true, Bool.or_eq_true, beq_iff_eq,
      List.all_eq_true] at known
    obtain ⟨record, member, id, name⟩ := known
    obtain ⟨place, here⟩ := List.getElem?_of_mem member
    have found : ∃ labels, ∃ later ∈ (mergeChanges host earlier
        { journal, merged := journal.state.records }).state.merged,
          Recognised change labels later := by
      rcases name with typed | ⟨labelled, agree⟩
      · exact ⟨false, mergeChanges_recognised idStable typeStable (by simp) here
          ⟨id, Or.inl typed⟩ quiet⟩
      · exact ⟨true, mergeChanges_recognised idStable typeStable (fun _ => agree) here
          ⟨id, Or.inr ⟨rfl, labelled⟩⟩ quiet⟩
    obtain ⟨labels, later, kept, recognised⟩ := found
    rw [if_neg]
    simp only [claimsCreation, Bool.and_eq_true, Bool.not_eq_true', List.any_eq_false]
    rintro ⟨-, unknown⟩
    refine unknown later kept ?_
    rcases recognised.name with typed | ⟨-, labelled⟩
    · simp [recognised.id, typed]
    · simp [recognised.id, labelled]

theorem pageCreations_nil {changes : List RecordDelta} {merging : Merging}
    (none_ : ∀ earlier change later, changes = earlier ++ change :: later →
      (mergeChanges host earlier merging).thrown = none →
      pageCreation host (mergeChanges host earlier merging).state change = none) :
    pageCreations host changes merging = [] := by
  induction changes generalizing merging with
  | nil => rfl
  | cons change rest ih =>
      have first : pageCreation host merging change = none := none_ [] change rest rfl rfl
      simp only [pageCreations, first, Option.toList_none, List.nil_append]
      split
      · rfl
      · rename_i accepted
        refine ih fun earlier other later split quiet => ?_
        have merges : mergeChanges host (change :: earlier) merging =
            mergeChanges host earlier (mergeChange host merging change).state := by
          simp [mergeChanges, Outcome.andThen, accepted]
        rw [← merges] at quiet ⊢
        exact none_ (change :: earlier) other later (by rw [split]; rfl) quiet

theorem registrations_nil {next : Members} {journal : Journal}
    (proves : ProvesNothing host next journal) : registrations host next journal = [] := by
  unfold registrations
  split
  · rfl
  · cases reads : executionProgressSchema.read (.obj next) with
    | none => rfl
    | some delta =>
        have deltas : recordDeltas next = delta.records.getD [] := by
          rw [recordDeltas, reads]
          rfl
        refine pageCreations_nil fun earlier change later split quiet => ?_
        rw [← deltas] at split
        obtain ⟨idStable, typeStable⟩ := @delta_stable next change (by rw [split]; simp)
        exact pageCreation_known idStable typeStable quiet (proves earlier change later split)

/-- The first delta registers what it proves, whatever becomes of the report. -/
theorem registrations_first {next : Members} {journal : Journal} {change : RecordDelta}
    {later : List RecordDelta}
    (own : (next.get "account").any (fun account => !isAssignedAccount journal.state account) = false)
    (deltas : recordDeltas next = change :: later) (proves : provesNew host journal [] change = true) :
    registrations host next journal ≠ [] := by
  rw [provesNew_first] at proves
  obtain ⟨created, found⟩ := Option.isSome_iff_exists.mp proves
  unfold registrations
  rw [own, if_neg Bool.false_ne_true]
  cases reads : executionProgressSchema.read (.obj next) with
  | none => simp [recordDeltas, reads] at deltas
  | some delta =>
      have same : delta.records.getD [] = change :: later := by
        rw [← deltas, recordDeltas, reads]
        rfl
      simp only [same, pageCreations, found, Option.toList_some]
      exact List.append_ne_nil_of_left_ne_nil (List.cons_ne_nil _ _) _

theorem recordDeltas_single (record : Json) :
    recordDeltas (singleRecord record) = [] ∨
      ∃ change, recordDeltas (singleRecord record) = [change] := by
  unfold recordDeltas
  cases reads : executionProgressSchema.read (.obj (singleRecord record)) with
  | none => exact Or.inl rfl
  | some progress =>
      simp only [executionProgressSchema, Codec.object, Fields.cons, Option.map_eq_some_iff,
        Option.bind_eq_bind, Option.bind_eq_some_iff, Option.pure_def, Option.some.injEq] at reads
      obtain ⟨_, ⟨_, -, _, ⟨_, -, _, ⟨deltas, listed, _, -, rfl⟩, rfl⟩, rfl⟩, rfl⟩ := reads
      have here : (singleRecord record).get "records" = some (.arr [record]) := rfl
      rw [here] at listed
      simp only [Slot.optional, Option.map_eq_some_iff] at listed
      obtain ⟨items, itemsRead, rfl⟩ := listed
      simp only [Codec.list] at itemsRead
      split at itemsRead
      · cases mapM_forall₂ itemsRead with
        | cons _ rest =>
            cases rest
            exact Or.inr ⟨_, rfl⟩
      · cases itemsRead

variable (host)

end Host

/-! A record registered from the page and then rejected. -/

def whitelistNode (id tag : String) (parent : Option String) : ObservedNode :=
  { nodeId := id, parentId := parent, frameId := "frame", documentEpoch := "doc", tag,
    visible := true }

def whitelistPage (nodes : List ObservedNode) : StructuredObservation :=
  { captureId := "11111111-1111-4111-8111-111111111111",
    capturedFrom := "2026-01-01T00:00:00.000Z", capturedUntil := "2026-01-01T00:00:00.000Z",
    pageIdentity := "https://fixture.test/page", nodes, consistency := .verified,
    coverage := { scope := .viewport, completeWithinScope := true, truncated := false } }

def formPage : StructuredObservation :=
  whitelistPage [
    whitelistNode "form" "form" none,
    { whitelistNode "account" "input" (some "form") with value := some "alice" },
    { whitelistNode "type" "select" (some "form") with
      selectedLabel := some "Model", selectedLabelSource := some .nativeSelect }]

def rowPage : StructuredObservation :=
  whitelistPage [
    whitelistNode "row" "tr" none,
    { whitelistNode "id" "td" (some "row") with text := some "35" },
    { whitelistNode "owner" "td" (some "row") with text := some "alice" },
    { whitelistNode "kind" "td" (some "row") with text := some "Model" }]

def pageJson (host : Host) (page : StructuredObservation) : Json :=
  (structuredObservationSchema host).write page

def whitelistCalls : List Call := [
  .observed "query" [requestJson "r1" "GET" whitelistQuery 200 none none (some (.arr []))]
    (some (pageJson whitelistHost formPage)),
  .observed "submit"
    [requestJson "r2" "POST" whitelistUrl 200 none (some whitelistRequest) (some acceptedBody)]
    (some (pageJson whitelistHost rowPage))]

def retainedClaim : Json :=
  .obj [("id", .str "35"), ("type", .str "Model"), ("ownership", .str "CREATED_THIS_RUN"),
    ("evidenceRefs", .arr [.str "artifact://submit"]),
    ("cleanup", .obj [("instruction", .str "keep"), ("status", .str "RETAINED"),
      ("note", .str "planned")])]

def whitelistJournal : Journal := run whitelistHost whitelistCalls (restore whitelistHost [])

/-- A claim of retention without a proved creation is rejected without a trace. -/
def unprovenClaim : Json :=
  .obj [("id", .str "36"), ("type", .str "Model"), ("ownership", .str "CREATED_THIS_RUN"),
    ("evidenceRefs", .arr [.str "artifact://submit"])]

end Devproof
