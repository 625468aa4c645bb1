import Devproof.ExecutionSchema
import Devproof.Journal.Edits

/-!
What an update leaves behind.  A rejected report leaves the records its deltas
registered from the page; an accepted one leaves the merged ledger, parsed.
-/

namespace Devproof

def Journal.withRecords (journal : Journal) (created : List ExecutionRecord) : Journal :=
  { journal with state := { journal.state with records := journal.state.records ++ created } }

theorem Journal.withRecords_nil (journal : Journal) : journal.withRecords [] = journal := by
  simp [Journal.withRecords]

theorem Journal.withRecords_append (journal : Journal) (first second : List ExecutionRecord) :
    (journal.withRecords first).withRecords second = journal.withRecords (first ++ second) := by
  simp [Journal.withRecords]

theorem Journal.withRecords_eq_self {journal : Journal} {created : List ExecutionRecord} :
    journal.withRecords created = journal ↔ created = [] := by
  constructor
  · intro same
    have records := congrArg (fun journal : Journal => journal.state.records) same
    simpa [Journal.withRecords] using records
  · rintro rfl
    exact journal.withRecords_nil

section Host

variable (host : Host)

def pageCreations : List RecordDelta → Merging → List ExecutionRecord
  | [], _ => []
  | change :: rest, merging =>
      (pageCreation host merging change).toList ++
        match (mergeChange host merging change).thrown with
        | some _ => []
        | none => pageCreations rest (mergeChange host merging change).state

def registrations (next : Members) (journal : Journal) : List ExecutionRecord :=
  if (next.get "account").any fun account => !isAssignedAccount journal.state account then []
  else
    match executionProgressSchema.read (.obj next) with
    | none => []
    | some delta =>
        pageCreations host (delta.records.getD []) { journal, merged := journal.state.records }

theorem mergeChange_journal (merging : Merging) (change : RecordDelta) :
    (mergeChange host merging change).state.journal =
      merging.journal.withRecords (pageCreation host merging change).toList := by
  have registered : (((pageCreation host merging change).map
      (registerCreation merging)).getD merging).journal =
        merging.journal.withRecords (pageCreation host merging change).toList := by
    cases pageCreation host merging change with
    | none => exact merging.journal.withRecords_nil.symm
    | some created => rfl
  unfold mergeChange
  simp only
  split
  · exact registered
  · split
    · exact registered
    · exact registered

theorem mergeChanges_journal (changes : List RecordDelta) (merging : Merging) :
    (mergeChanges host changes merging).state.journal =
      merging.journal.withRecords (pageCreations host changes merging) := by
  induction changes generalizing merging with
  | nil => exact merging.journal.withRecords_nil.symm
  | cons change rest ih =>
      have first := mergeChange_journal host merging change
      cases outcome : (mergeChange host merging change).thrown with
      | some failure =>
          simp only [mergeChanges, Outcome.andThen, pageCreations, outcome, List.append_nil]
          exact first
      | none =>
          simp only [mergeChanges, Outcome.andThen, pageCreations, outcome]
          rw [ih, first, Journal.withRecords_append]

/-- A rejected progress report leaves the registered records and nothing else. -/
theorem progress_rejected {next : Members} {journal : Journal} {failure : Failure}
    (threw : (progress host next journal).thrown = some failure) :
    (progress host next journal).state = journal.withRecords (registrations host next journal) := by
  unfold progress at threw ⊢
  unfold registrations
  by_cases foreign : (next.get "account").any (fun account =>
      !isAssignedAccount journal.state account) = true
  · rw [if_pos foreign, if_pos foreign]
    exact journal.withRecords_nil.symm
  · rw [if_neg foreign] at threw ⊢
    rw [if_neg foreign]
    cases parsed : executionProgressSchema.read (.obj next) with
    | none => exact journal.withRecords_nil.symm
    | some delta =>
        have merged := mergeChanges_journal host (delta.records.getD [])
          { journal, merged := journal.state.records }
        simp only [parsed] at threw ⊢
        rw [← merged]
        split
        · rfl
        · split
          · rfl
          · simp_all

theorem update_rejected {next : Members} {journal : Journal} {failure : Failure}
    (threw : (update host next journal).thrown = some failure) :
    (progress host next journal).thrown = some failure ∧
      (update host next journal).state = (progress host next journal).state := by
  unfold update updateMoves runMoves at *
  simp only [Move.step] at *
  cases first : (progress host next journal).thrown with
  | some other =>
      simp only [Outcome.andThen, first] at threw ⊢
      exact ⟨first ▸ threw, trivial⟩
  | none =>
      simp [Outcome.andThen, first, runMoves, Move.step, onState] at threw

theorem rejected_update_state {next : Members} {journal : Journal} {failure : Failure}
    (threw : (update host next journal).thrown = some failure) :
    (update host next journal).state = journal.withRecords (registrations host next journal) := by
  obtain ⟨rejected, same⟩ := update_rejected host threw
  rw [same]
  exact progress_rejected host rejected

theorem inheritBaseline_ok {state : ExecutionState} {merged : List ExecutionRecord}
    {change : RecordDelta} {resolved : Resolved}
    (inherited : inheritBaseline host state merged change = .ok resolved) :
    resolved = { merged, change } ∨
      ∃ baseline, state.observedRecords.filter (matchesObserved host change) = [baseline] ∧
        (∀ record ∈ merged, record.recordRef ≠ baseline.recordRef) ∧
        baselinePrecedesWrites host state baseline = true ∧
        resolved =
          { merged := merged ++ [relabelled baseline change]
            change := adoptBaseline change baseline } := by
  unfold inheritBaseline at inherited
  split at inherited
  · exact Or.inl (Except.ok.inj inherited).symm
  · rename_i baseline found
    by_cases known : (merged.any fun record => record.recordRef == baseline.recordRef) = true
    · rw [if_pos known] at inherited
      exact Or.inl (Except.ok.inj inherited).symm
    · rw [if_neg known] at inherited
      by_cases late : (!baselinePrecedesWrites host state baseline) = true
      · rw [if_pos late] at inherited
        simp at inherited
      · rw [if_neg late] at inherited
        by_cases unproven : (change.evidenceRefs.getD []).isEmpty = true
        · rw [if_pos unproven] at inherited
          simp at inherited
        · rw [if_neg unproven] at inherited
          by_cases foreign : (change.ownership.any (· != .existing)) = true
          · rw [if_pos foreign] at inherited
            simp at inherited
          · rw [if_neg foreign] at inherited
            refine Or.inr ⟨baseline, found, ?_, by simpa using late,
              (Except.ok.inj inherited).symm⟩
            intro record member same
            apply known
            simp only [List.any_eq_true, beq_iff_eq]
            exact ⟨record, member, same⟩
  · simp at inherited

theorem grantRetention_core {state : ExecutionState} {locked : Option ExecutionRecord}
    {record granted : ExecutionRecord}
    (ok : grantRetention host state locked record = .ok granted) : granted.core = record.core := by
  unfold grantRetention at ok
  split at ok
  · rw [← Except.ok.inj ok]
  · split at ok
    · rw [← Except.ok.inj ok]
    · split at ok
      · simp at ok
      · split at ok
        · simp at ok
        · split at ok
          · simp at ok
          · rw [← Except.ok.inj ok]
            rfl

inductive LedgerEdit (state : ExecutionState) (resolved : Resolved) :
    List ExecutionRecord → Prop where
  | replace (locked overlaid parsed record : ExecutionRecord)
      (found : resolved.merged.filter (addresses host resolved.change) = [locked])
      (same : changesIdentity resolved.change locked = false)
      (aliases : changesAliases resolved.change locked = false)
      (overlays : overlay (some locked) resolved.change = some overlaid)
      (accepted : (executionRecordSchema host).parse overlaid = some parsed)
      (granted : grantRetention host state (some locked) parsed = .ok record) :
      LedgerEdit state resolved
        (replaceFirst (addresses host resolved.change) (withRef host record) resolved.merged)
  | append (overlaid parsed record : ExecutionRecord)
      (absent : resolved.merged.filter (addresses host resolved.change) = [])
      (unnamed : resolved.change.recordRef.getD "" = "")
      (overlays : overlay none resolved.change = some overlaid)
      (accepted : (executionRecordSchema host).parse overlaid = some parsed)
      (granted : grantRetention host state none parsed = .ok record) :
      LedgerEdit state resolved (resolved.merged ++ [withRef host record])

theorem mergeRecord_ok {state : ExecutionState} {resolved : Resolved}
    {merged : List ExecutionRecord} (ok : mergeRecord host state resolved = .ok merged) :
    LedgerEdit host state resolved merged := by
  unfold mergeRecord at ok
  simp only [bind, Except.bind, pure, Except.pure] at ok
  split at ok
  · simp at ok
  · rename_i single
    split at ok
    · simp at ok
    · rename_i checked
      split at ok
      · simp at ok
      · rename_i parsed accepted
        obtain ⟨overlaid, overlays, parses⟩ := Option.bind_eq_some_iff.mp accepted
        split at ok
        · simp at ok
        · rename_i record granted
          cases found : resolved.merged.filter (addresses host resolved.change) with
          | nil =>
              simp only [found, List.head?_nil, Option.isSome_none, Bool.false_eq_true, if_false,
                Except.ok.injEq] at ok checked overlays granted
              subst ok
              refine LedgerEdit.append overlaid parsed record found ?_ overlays parses granted
              unfold lockedChecks at checked
              split at checked
              · split at checked
                · simp at checked
                · split at checked
                  · simp at checked
                  · rename_i unknown
                    cases named : resolved.change.recordRef with
                    | none => rfl
                    | some ref => simpa [named] using unknown
              · rename_i impossible
                simp at impossible
          | cons locked rest =>
              have alone : rest = [] := by
                cases rest with
                | nil => rfl
                | cons _ _ => simp [found] at single
              subst alone
              simp only [found, List.head?_cons, Option.isSome_some, if_true, Except.ok.injEq]
                at ok checked overlays granted
              subst ok
              unfold lockedChecks at checked
              simp only at checked
              split at checked
              · simp at checked
              · split at checked
                · simp at checked
                · rename_i kept known
                  exact LedgerEdit.replace locked overlaid parsed record found (by simpa using kept)
                    (by simpa using known) overlays parses granted

def registered (merging : Merging) (change : RecordDelta) : Merging :=
  ((pageCreation host merging change).map (registerCreation merging)).getD merging

def adopted (merging : Merging) (change : RecordDelta) : RecordDelta :=
  ((pageCreation host merging change).map (adoptCreation change)).getD change

theorem mergeChange_accepted {merging : Merging} {change : RecordDelta}
    (accepted : (mergeChange host merging change).thrown = none) :
    ∃ resolved merged,
      inheritBaseline host (registered host merging change).journal.state
        (registered host merging change).merged (adopted host merging change) = .ok resolved ∧
      LedgerEdit host (registered host merging change).journal.state resolved merged ∧
      (mergeChange host merging change).state =
        { registered host merging change with merged } := by
  unfold mergeChange at accepted ⊢
  simp only at accepted ⊢
  split at accepted
  · simp at accepted
  · rename_i resolved inherits
    split at accepted
    · simp at accepted
    · rename_i merged merges
      exact ⟨resolved, merged, inherits, mergeRecord_ok host merges, by
        simp only [Outcome.done_state]
        rfl⟩

theorem checkProgress_ok {state parsed : ExecutionState} {delta : Progress}
    {merged : List ExecutionRecord} (ok : checkProgress host state delta merged = .ok parsed) :
    (executionStateSchema host).parse (withProgress state delta merged) = some parsed ∧
      checkReview host state delta.cleanupReview = .ok () ∧
      checkRecords host state parsed.records = .ok () := by
  unfold checkProgress at ok
  simp only [bind, Except.bind] at ok
  split at ok
  · simp at ok
  · rename_i result parses
    split at ok
    · simp at ok
    · rename_i reviewed
      split at ok
      · simp at ok
      · rename_i checked
        split at ok
        · simp at ok
        · have same := Except.ok.inj ok
          subst same
          exact ⟨parses, reviewed, checked⟩

structure Accepted (next : Members) (journal : Journal) where
  delta : Progress
  merging : Merging
  parsed : ExecutionState
  reads : executionProgressSchema.read (.obj next) = some delta
  merges : mergeChanges host (delta.records.getD []) { journal, merged := journal.state.records } =
    .done merging
  checks : checkProgress host merging.journal.state delta merging.merged = .ok parsed
  becomes : (progress host next journal).state =
    { merging.journal with state := adoptProgress host merging.journal.state parsed }

theorem progress_accepted {next : Members} {journal : Journal}
    (accepted : (progress host next journal).thrown = none) :
    Nonempty (Accepted host next journal) := by
  unfold progress at accepted
  split at accepted
  · simp at accepted
  · rename_i own
    split at accepted
    · simp at accepted
    · rename_i delta reads
      simp only at accepted
      generalize merges : mergeChanges host (delta.records.getD [])
        { journal, merged := journal.state.records } = outcome at accepted
      split at accepted
      · simp at accepted
      · rename_i quiet
        split at accepted
        · simp at accepted
        · rename_i parsed checks
          refine ⟨⟨delta, outcome.state, parsed, reads, ?_, checks, ?_⟩⟩
          · rw [merges]
            cases outcome
            simp_all [Outcome.done]
          · unfold progress
            rw [if_neg own]
            simp only [reads, merges, quiet, checks, Outcome.done_state]

/-! What every record of the merged ledger has. -/

structure PageProof (merging : Merging) (change : RecordDelta) (created : ExecutionRecord) where
  id : String
  write : Write
  submitted : Submitted
  asked : change.id = some id
  present : id ≠ ""
  stored : write ∈ merging.journal.state.writes
  submits : submission host merging.journal.state change write = some submitted
  delivered : merging.journal.lastUiEvidenceRefs ≠ []
  record : created = pageRecord host merging.journal.lastUiEvidenceRefs id write submitted

theorem pageCreation_proof {merging : Merging} {change : RecordDelta} {created : ExecutionRecord}
    (found : pageCreation host merging change = some created) :
    Nonempty (PageProof host merging change created) := by
  unfold pageCreation at found
  split at found
  · unfold createdUiRecord at found
    split at found
    · rename_i observation id _ asked
      split at found
      · simp at found
      · rename_i accepted
        simp only [Bool.or_eq_true, not_or, beq_iff_eq] at accepted
        obtain ⟨write, stored, proves⟩ := List.exists_of_findSome?_eq_some found
        unfold createdFrom at proves
        split at proves
        · simp at proves
        · rename_i submitted submits
          split at proves
          · refine ⟨{
              id, write, submitted, asked, submits
              present := accepted.1.1.1
              stored := List.mem_reverse.mp stored
              delivered := by simpa using accepted.1.1.2
              record := (Option.some.inj proves).symm }⟩
          · simp at proves
    · simp at found
  · simp at found

theorem pageCreations_all (holds : ExecutionRecord → Prop)
    (created : ∀ merging change record, pageCreation host merging change = some record →
      holds record) (changes : List RecordDelta) (merging : Merging) :
    ∀ record ∈ pageCreations host changes merging, holds record := by
  induction changes generalizing merging with
  | nil => simp [pageCreations]
  | cons change rest ih =>
      intro record member
      simp only [pageCreations] at member
      rcases List.mem_append.mp member with here | later
      · exact created merging change record (Option.mem_toList.mp here)
      · split at later
        · simp at later
        · exact ih _ record later

@[simp] theorem registered_observed (merging : Merging) (change : RecordDelta) :
    (registered host merging change).journal.state.observedRecords =
      merging.journal.state.observedRecords := by
  unfold registered
  cases pageCreation host merging change with
  | none => rfl
  | some created => rfl

theorem registered_merged (merging : Merging) (change : RecordDelta) :
    (registered host merging change).merged =
      merging.merged ++ (pageCreation host merging change).toList := by
  unfold registered
  cases pageCreation host merging change with
  | none => simp
  | some created => rfl

/-- A property of the ledger's records, of those the page proves, of inherited baselines
and of parsed deltas is one of all merged records. -/
theorem mergeChanges_all (holds : ExecutionRecord → Prop)
    (created : ∀ merging change record, pageCreation host merging change = some record →
      holds record)
    (parsed : ∀ state locked overlaid parsed record,
      (executionRecordSchema host).parse overlaid = some parsed →
      grantRetention host state locked parsed = .ok record → holds (withRef host record))
    {changes : List RecordDelta} {merging : Merging}
    (initially : ∀ record ∈ merging.merged, holds record)
    (inherited : ∀ baseline ∈ merging.journal.state.observedRecords, ∀ change,
      holds (relabelled baseline change))
    (quiet : (mergeChanges host changes merging).thrown = none) :
    ∀ record ∈ (mergeChanges host changes merging).state.merged, holds record := by
  induction changes generalizing merging with
  | nil => exact initially
  | cons change rest ih =>
      obtain ⟨accepted, later, same⟩ := Outcome.andThen_thrown_none quiet
      obtain ⟨resolved, merged, inherits, edit, state⟩ := mergeChange_accepted host accepted
      have registers : ∀ record ∈ (registered host merging change).merged, holds record := by
        intro record member
        rw [registered_merged] at member
        rcases List.mem_append.mp member with old | new
        · exact initially record old
        · exact created merging change record (Option.mem_toList.mp new)
      have resolves : ∀ record ∈ resolved.merged, holds record := by
        rcases inheritBaseline_ok host inherits with plain | ⟨baseline, chosen, -, -, same⟩
        · rw [plain]
          exact registers
        · have known : baseline ∈ merging.journal.state.observedRecords := by
            rw [← registered_observed host merging change]
            have member : baseline ∈ [baseline] := List.mem_singleton_self _
            rw [← chosen] at member
            exact (List.mem_filter.mp member).1
          intro record member
          rw [same] at member
          rcases List.mem_append.mp member with old | new
          · exact registers record old
          · rw [List.mem_singleton.mp new]
            exact inherited baseline known _
      have merges : ∀ record ∈ merged, holds record := by
        intro record member
        cases edit with
        | replace locked overlaid parsedRecord granted found identity aliases overlays accepts grants =>
            rcases mem_replaceFirst member with new | old
            · rw [new]
              exact parsed _ _ _ _ _ accepts grants
            · exact resolves record old
        | append overlaid parsedRecord granted absent unnamed overlays accepts grants =>
            rcases List.mem_append.mp member with old | new
            · exact resolves record old
            · rw [List.mem_singleton.mp new]
              exact parsed _ _ _ _ _ accepts grants
      intro record member
      simp only [mergeChanges] at member
      rw [same] at member
      refine ih ?_ ?_ later record member
      · rw [state]
        exact merges
      · rw [state]
        simpa using inherited

theorem Accepted.records_parse {next : Members} {journal : Journal}
    (accepted : Accepted host next journal) :
    List.Forall₂ (fun before after => (executionRecordSchema host).parse before = some after)
      accepted.merging.merged accepted.parsed.records := by
  have parses := (checkProgress_ok host accepted.checks).1
  have fields := executionStateSchema_parse.mp parses
  exact (Codec.list_parse_eq_some.mp fields.2.2.2.2.2.2.2.2.2.2.2.2.1).2

theorem Accepted.reads_parse {next : Members} {journal : Journal}
    (accepted : Accepted host next journal) :
    List.Forall₂ (fun before after => readReceiptSchema.parse before = some after)
      accepted.merging.journal.state.readReceipts accepted.parsed.readReceipts := by
  have parses := (checkProgress_ok host accepted.checks).1
  have fields := executionStateSchema_parse.mp parses
  exact (Codec.list_parse_eq_some.mp fields.2.2.1).2

theorem Accepted.journal {next : Members} {journal : Journal}
    (accepted : Accepted host next journal) :
    accepted.merging.journal = journal.withRecords (pageCreations host
      (accepted.delta.records.getD []) { journal, merged := journal.state.records }) := by
  have merged := mergeChanges_journal host (accepted.delta.records.getD [])
    { journal, merged := journal.state.records }
  rw [accepted.merges] at merged
  exact merged

/-- What holds of the ledger, of what the page proves and of what may be inherited holds
of the ledger an accepted report leaves, if parsing keeps it. -/
theorem Accepted.records_all {next : Members} {journal : Journal}
    (accepted : Accepted host next journal) (before after : ExecutionRecord → Prop)
    (created : ∀ merging change record, pageCreation host merging change = some record →
      before record)
    (parsed : ∀ state locked overlaid parsed record,
      (executionRecordSchema host).parse overlaid = some parsed →
      grantRetention host state locked parsed = .ok record → before (withRef host record))
    (initially : ∀ record ∈ journal.state.records, before record)
    (inherited : ∀ baseline ∈ journal.state.observedRecords, ∀ change,
      before (relabelled baseline change))
    (parses : ∀ value result, (executionRecordSchema host).parse value = some result →
      before value → after result) :
    ∀ record ∈ accepted.parsed.records, after record := by
  have quiet : (mergeChanges host (accepted.delta.records.getD [])
      { journal, merged := journal.state.records }).thrown = none := by rw [accepted.merges]; rfl
  have merged := mergeChanges_all host before created parsed initially inherited quiet
  rw [accepted.merges] at merged
  intro record member
  obtain ⟨source, present, parse⟩ := forall₂_source accepted.records_parse member
  exact parses source record parse (merged source present)

end Host

end Devproof
