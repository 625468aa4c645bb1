import Devproof.Acceptance.Report

/-!
What a verdict of the acceptance report says about the stored rows: which
results of the current attempts establish it, and which checks of the task it
has to pass.
-/

namespace Devproof.Acceptance

theorem aggregate_failed_iff (verdicts : List AcceptanceVerdict) (final : Bool) :
    aggregate verdicts final = .failed ↔ .failed ∈ verdicts := by
  unfold aggregate
  split_ifs with failed open_ all
  · simpa using failed
  · simpa using failed
  · simpa using failed
  · simpa using failed

theorem aggregate_passed_iff (verdicts : List AcceptanceVerdict) (final : Bool) :
    aggregate verdicts final = .passed ↔
      final = true ∧ verdicts ≠ [] ∧ ∀ verdict ∈ verdicts, verdict = .passed := by
  unfold aggregate
  split_ifs with failed open_ all
  · constructor
    · intro impossible
      cases impossible
    · rintro ⟨_, _, every⟩
      have wrong := every .failed (by simpa using failed)
      cases wrong
  · simp_all
  · simp only [Bool.and_eq_true, bne_iff_ne, List.all_eq_true, beq_iff_eq] at all
    exact ⟨fun _ => ⟨by simpa using open_, all⟩, fun _ => rfl⟩
  · simp_all

section Verdicts

variable (host : Host) (redactText : String → String)

def ownId (definition : Members) : Option String :=
  stringOf (Members.get definition "id")

def shownId (definition : Members) : String :=
  text redactText (Members.get definition "id")

/-- The current attempt has a result for this criterion with this verdict, and what the result
cites is stored for that attempt and has every required kind. -/
def EstablishedAs (run : ReportRun) (definition : Members) (id : String)
    (verdict : ProductVerdict) : Prop :=
  ∃ attempt, currentAttempt run = some attempt ∧ ∃ result ∈ run.criterionResults,
    result.attemptId = attempt.id ∧ result.criterionId = id ∧
    result.status = verdict ∧ result.evidenceRefs ≠ [] ∧
    (∀ ref ∈ result.evidenceRefs, ∃ evidence ∈ run.evidences,
      evidence.attemptId = attempt.id ∧ evidence.externalId = ref) ∧
    ∀ kind ∈ requiredKinds definition, ∃ evidence ∈ run.evidences,
      evidence.attemptId = attempt.id ∧ evidence.externalId ∈ result.evidenceRefs ∧
        evidence.kind = kind

def Established (run : ReportRun) (definition : Members) (verdict : ProductVerdict) : Prop :=
  ∃ id, ownId definition = some id ∧ EstablishedAs run definition id verdict

/-- What the report looks for: a result under the redacted id of the criterion. -/
def ShownEstablished (run : ReportRun) (definition : Members) (verdict : ProductVerdict) : Prop :=
  EstablishedAs run definition (shownId redactText definition) verdict

def Redacted (definition : Members) : Prop :=
  ownId definition ≠ some (shownId redactText definition)

theorem established_unredacted {run : ReportRun} {definition : Members} {verdict : ProductVerdict}
    (kept : ¬ Redacted redactText definition) :
    Established run definition verdict ↔ ShownEstablished redactText run definition verdict := by
  have own := not_not.mp kept
  constructor
  · rintro ⟨id, named, established⟩
    rw [own] at named
    obtain rfl := Option.some.inj named
    exact established
  · intro established
    exact ⟨_, own, established⟩

theorem mem_citedEvidence {run : ReportRun} {attempt : ReportAttempt} {result : CriterionResult}
    (current : currentAttempt run = some attempt) (evidence : ReportEvidence) :
    evidence ∈ citedEvidence run result ↔ evidence ∈ run.evidences ∧
      evidence.attemptId = attempt.id ∧ evidence.externalId ∈ result.evidenceRefs := by
  simp [citedEvidence, current]

theorem hasProof_iff {run : ReportRun} {attempt : ReportAttempt} {result : CriterionResult}
    (definition : Members) (current : currentAttempt run = some attempt) :
    hasProof definition run result = true ↔ result.evidenceRefs ≠ [] ∧
      (∀ ref ∈ result.evidenceRefs, ∃ evidence ∈ run.evidences,
        evidence.attemptId = attempt.id ∧ evidence.externalId = ref) ∧
      ∀ kind ∈ requiredKinds definition, ∃ evidence ∈ run.evidences,
        evidence.attemptId = attempt.id ∧ evidence.externalId ∈ result.evidenceRefs ∧
          evidence.kind = kind := by
  simp only [hasProof, citationsStored, Bool.and_eq_true, bne_iff_ne, List.all_eq_true,
    List.any_eq_true, beq_iff_eq, mem_citedEvidence current, and_assoc]
  constructor
  · rintro ⟨cites, stored, kinds⟩
    refine ⟨cites, fun ref member => ?_, kinds⟩
    obtain ⟨evidence, kept, ofAttempt, _, named⟩ := stored ref member
    exact ⟨evidence, kept, ofAttempt, named⟩
  · rintro ⟨cites, stored, kinds⟩
    refine ⟨cites, fun ref member => ?_, kinds⟩
    obtain ⟨evidence, kept, ofAttempt, named⟩ := stored ref member
    exact ⟨evidence, kept, ofAttempt, named ▸ member, named⟩

/-- The table holds one result for an attempt and a criterion, so the first is the only one. -/
theorem resultOf_eq_iff {run : ReportRun} {attempt : ReportAttempt} {id : String}
    (current : currentAttempt run = some attempt) (result : CriterionResult) :
    resultOf run id = some result ↔ result ∈ run.criterionResults ∧
      result.attemptId = attempt.id ∧ result.criterionId = id := by
  simp only [resultOf, current, Option.bind_some]
  constructor
  · intro found
    have matched := List.find?_some found
    simp only [Bool.and_eq_true, beq_iff_eq] at matched
    exact ⟨List.mem_of_find?_eq_some found, matched⟩
  · rintro ⟨stored, ofAttempt, named⟩
    have isSome : (run.criterionResults.find? fun other =>
        other.attemptId == attempt.id && other.criterionId == id).isSome = true :=
      List.find?_isSome.mpr ⟨result, stored, by simp [ofAttempt, named]⟩
    obtain ⟨other, found⟩ := Option.isSome_iff_exists.mp isSome
    have matched := List.find?_some found
    simp only [Bool.and_eq_true, beq_iff_eq] at matched
    have same : other = result :=
      List.inj_on_of_nodup_map run.oneResult (List.mem_of_find?_eq_some found) stored
        (by simp [matched, ofAttempt, named])
    rw [found, same]

theorem acceptanceOf_injective {left right : ProductVerdict}
    (same : acceptanceOf left = acceptanceOf right) : left = right := by
  cases left <;> cases right <;> simp_all [acceptanceOf]

theorem criterionVerdict_established (run : ReportRun) (definition : Members) (final : Bool)
    {verdict : ProductVerdict} (decided : verdict ≠ .inconclusive) :
    criterionVerdict definition (some run)
        (resultOf run (text redactText (Members.get definition "id"))) final =
      acceptanceOf verdict ↔ ShownEstablished redactText run definition verdict := by
  have notOpen : ¬ (if final = true then AcceptanceVerdict.inconclusive else .pending) =
      acceptanceOf verdict := by
    cases verdict <;> cases final <;> simp_all [acceptanceOf]
  cases current : currentAttempt run with
  | none => simp [resultOf, current, criterionVerdict, ShownEstablished, EstablishedAs, notOpen]
  | some attempt =>
      cases found : resultOf run (text redactText (Members.get definition "id")) with
      | none =>
          simp only [criterionVerdict, notOpen, false_iff]
          rintro ⟨other, sameAttempt, result, stored, ofAttempt, named, _⟩
          obtain rfl : attempt = other := Option.some.inj (current ▸ sameAttempt)
          have present := (resultOf_eq_iff current result).mpr ⟨stored, ofAttempt, named⟩
          cases found.symm.trans present
      | some result =>
          obtain ⟨stored, ofAttempt, named⟩ := (resultOf_eq_iff current result).mp found
          simp only [criterionVerdict]
          constructor
          · intro verdictIs
            split_ifs at verdictIs with proven
            · refine ⟨attempt, current, result, stored, ofAttempt, named,
                acceptanceOf_injective verdictIs, ?_⟩
              exact (hasProof_iff definition current).mp proven.2
            · cases verdict <;> simp_all [acceptanceOf]
          · rintro ⟨other, sameAttempt, second, kept, ofOther, sameName, status, proof⟩
            obtain rfl : attempt = other := Option.some.inj (current ▸ sameAttempt)
            have again := (resultOf_eq_iff current second).mpr ⟨kept, ofOther, sameName⟩
            obtain rfl : result = second := Option.some.inj (found ▸ again)
            have proven := (hasProof_iff definition current).mpr proof
            rw [if_pos ⟨status ▸ decided, proven⟩, status]

theorem mem_caseCriteria {input : CaseInput} {final : Bool} (criterion : AcceptanceCriterion) :
    criterion ∈ caseCriteria host redactText input final ↔
      ∃ definition ∈ caseDefinitions input.definition input.run,
        criterionReport redactText definition (input.run.map (projectedRun host redactText))
          (final || terminal (caseLifecycle
            (input.run.map (projectedRun host redactText)) final)) = criterion := by
  cases input with
  | mk _ _ _ _ _ run _ _ => cases run <;> exact List.mem_map

theorem resultOf_projectedRun (run : ReportRun) (id : String) :
    resultOf (projectedRun host redactText run) id = resultOf run id :=
  rfl

theorem criterionVerdict_projectedRun (run : ReportRun) (definition : Members)
    (result : Option CriterionResult) (final : Bool) :
    criterionVerdict definition (some (projectedRun host redactText run)) result final =
      criterionVerdict definition (some run) result final := by
  cases result <;> rfl

theorem criterionReport_verdict (input : CaseInput) (definition : Members) (final : Bool)
    (verdict : ProductVerdict) (decided : verdict ≠ .inconclusive) :
    (criterionReport redactText definition (input.run.map (projectedRun host redactText))
        final).verdict = acceptanceOf verdict ↔
      ∃ run, input.run = some run ∧ ShownEstablished redactText run definition verdict := by
  cases found : input.run with
  | none =>
      simp only [criterionReport, criterionVerdict, Option.map_none, reduceCtorEq, false_and,
        exists_false, iff_false]
      cases verdict <;> cases final <;> simp_all [acceptanceOf]
  | some run =>
      simp only [criterionReport, Option.map_some, Option.bind_some, Option.some.injEq,
        exists_eq_left', criterionVerdict_projectedRun, resultOf_projectedRun]
      exact criterionVerdict_established redactText run definition final decided

theorem mem_requiredVerdicts {input : CaseInput} {final : Bool} (verdict : AcceptanceVerdict) :
    verdict ∈ ((caseCriteria host redactText input final).filter (·.required)).map (·.verdict) ↔
      ∃ definition ∈ caseDefinitions input.definition input.run, isRequired definition = true ∧
        (criterionReport redactText definition (input.run.map (projectedRun host redactText))
          (final || terminal (caseLifecycle
            (input.run.map (projectedRun host redactText)) final))).verdict = verdict := by
  simp only [List.mem_map, List.mem_filter, mem_caseCriteria]
  constructor
  · rintro ⟨_, ⟨⟨definition, listed, rfl⟩, required⟩, same⟩
    exact ⟨definition, listed, required, same⟩
  · rintro ⟨definition, listed, required, same⟩
    exact ⟨_, ⟨⟨definition, listed, rfl⟩, required⟩, same⟩

theorem caseReport_failed_iff (input : CaseInput) (final : Bool) :
    (caseReport host redactText input final).verdict = .failed ↔
      ∃ run, input.run = some run ∧ ∃ definition ∈ caseDefinitions input.definition (some run),
        isRequired definition = true ∧ ShownEstablished redactText run definition .failed := by
  have folded : (caseReport host redactText input final).verdict = .failed ↔
      .failed ∈ ((caseCriteria host redactText input final).filter (·.required)).map (·.verdict) := by
    rw [← aggregate_failed_iff _ (final || terminal
      (caseLifecycle (input.run.map (projectedRun host redactText)) final))]
    simp only [caseReport]
    split_ifs with demoted
    · simp [demoted.1]
    · rfl
  rw [folded, mem_requiredVerdicts]
  constructor
  · rintro ⟨definition, listed, required, verdict⟩
    obtain ⟨run, found, established⟩ := (criterionReport_verdict host redactText input definition _
      .failed (by decide)).mp verdict
    exact ⟨run, found, definition, found ▸ listed, required, established⟩
  · rintro ⟨run, found, definition, listed, required, established⟩
    refine ⟨definition, found ▸ listed, required, ?_⟩
    exact (criterionReport_verdict host redactText input definition _
      .failed (by decide)).mpr ⟨run, found, established⟩

/-- The run is completed, its projected outcome is a pass, and each of its
required criteria, of which there is one, is established as passed. -/
def ShownProven (input : CaseInput) : Prop :=
  ∃ run, input.run = some run ∧ run.lifecycle = .completed ∧
    executionVerification host redactText run = (some .executed, some .passed) ∧
    (∃ definition ∈ caseDefinitions input.definition (some run), isRequired definition = true) ∧
    ∀ definition ∈ caseDefinitions input.definition (some run), isRequired definition = true →
      ShownEstablished redactText run definition .passed

theorem caseReport_passed_iff (input : CaseInput) (final : Bool) :
    (caseReport host redactText input final).verdict = .passed ↔
      ShownProven host redactText input := by
  have folded : (caseReport host redactText input final).verdict = .passed ↔
      aggregate (((caseCriteria host redactText input final).filter (·.required)).map (·.verdict))
        (final || terminal (caseLifecycle (input.run.map (projectedRun host redactText)) final)) =
          .passed ∧
      runConfirms (input.run.map (projectedRun host redactText)) = true := by
    simp only [caseReport]
    split_ifs with demoted
    · simp [demoted.2]
    · constructor
      · intro passed
        exact ⟨passed, by simpa [passed] using demoted⟩
      · exact And.left
  rw [folded, aggregate_passed_iff]
  constructor
  · rintro ⟨⟨_, some_, every⟩, confirmed⟩
    cases found : input.run with
    | none => simp [found, runConfirms] at confirmed
    | some run =>
        simp only [found, Option.map_some, runConfirms, projectedRun, Bool.and_eq_true,
          beq_iff_eq] at confirmed
        refine ⟨run, found, confirmed.2, Prod.ext confirmed.1.1 confirmed.1.2, ?_, ?_⟩
        · obtain ⟨verdict, member⟩ := List.exists_mem_of_ne_nil _ some_
          obtain ⟨definition, listed, required, _⟩ :=
            (mem_requiredVerdicts host redactText verdict).mp member
          exact ⟨definition, found ▸ listed, required⟩
        · intro definition listed required
          have verdict := every _ ((mem_requiredVerdicts host redactText _).mpr
            ⟨definition, found ▸ listed, required, rfl⟩)
          obtain ⟨_, same, established⟩ := (criterionReport_verdict host redactText input
            definition _ .passed (by decide)).mp verdict
          obtain rfl := Option.some.inj (found ▸ same)
          exact established
  · rintro ⟨run, found, completed, projected, ⟨definition, listed, required⟩, established⟩
    refine ⟨⟨?_, ?_, ?_⟩, ?_⟩
    · simp [found, caseLifecycle, projectedRun, completed, terminal]
    · exact List.ne_nil_of_mem ((mem_requiredVerdicts host redactText _).mpr
        ⟨definition, found ▸ listed, required, rfl⟩)
    · intro verdict member
      obtain ⟨other, otherListed, otherRequired, rfl⟩ :=
        (mem_requiredVerdicts host redactText verdict).mp member
      exact (criterionReport_verdict host redactText input other _ .passed (by decide)).mpr
        ⟨run, found, established other (found ▸ otherListed) otherRequired⟩
    · simp [found, runConfirms, projectedRun, projected, completed]

theorem report_failed_shown (row : ReportRow) (finished : row.lifecycle.terminal = true) :
    (buildTaskAcceptanceReport host redactText row).verdict = .failed ↔
      ∃ input ∈ reportedInputs redactText row, ∃ run, input.run = some run ∧
        ∃ definition ∈ caseDefinitions input.definition (some run),
          isRequired definition = true ∧ ShownEstablished redactText run definition .failed := by
  have folded : (buildTaskAcceptanceReport host redactText row).verdict = .failed ↔
      .failed ∈ (reportedCases host redactText row).map (·.verdict) := by
    rw [← aggregate_failed_iff _ row.lifecycle.terminal]
    simp only [buildTaskAcceptanceReport, taskVerdict, finished, ↓reduceIte]
    split_ifs with demoted
    · simp [demoted.1]
    · rfl
  rw [folded]
  simp only [reportedCases, List.map_map, List.mem_map, Function.comp, caseReport_failed_iff]

/-- Some required criterion of a reported case, of those chosen, is established as failed. -/
def SomeFailed (row : ReportRow) (chosen : Members → Prop)
    (established : ReportRun → Members → ProductVerdict → Prop) : Prop :=
  ∃ input ∈ reportedInputs redactText row, ∃ run, input.run = some run ∧
    ∃ definition ∈ caseDefinitions input.definition (some run),
      isRequired definition = true ∧ chosen definition ∧ established run definition .failed

theorem someFailed_split (row : ReportRow) (chosen : Members → Prop)
    (established : ReportRun → Members → ProductVerdict → Prop) :
    SomeFailed redactText row (fun _ => True) established ↔
      SomeFailed redactText row (fun definition => ¬ chosen definition) established ∨
        SomeFailed redactText row chosen established := by
  constructor
  · rintro ⟨input, reported, run, found, definition, listed, required, -, failed⟩
    by_cases selected : chosen definition
    · exact Or.inr ⟨input, reported, run, found, definition, listed, required, selected, failed⟩
    · exact Or.inl ⟨input, reported, run, found, definition, listed, required, selected, failed⟩
  · rintro (⟨input, reported, run, found, definition, listed, required, -, failed⟩ |
      ⟨input, reported, run, found, definition, listed, required, -, failed⟩)
    · exact ⟨input, reported, run, found, definition, listed, required, trivial, failed⟩
    · exact ⟨input, reported, run, found, definition, listed, required, trivial, failed⟩

theorem someFailed_unredacted (row : ReportRow) :
    SomeFailed redactText row (fun definition => ¬ Redacted redactText definition)
        (ShownEstablished redactText) ↔
      SomeFailed redactText row (fun definition => ¬ Redacted redactText definition)
        Established := by
  constructor
  · rintro ⟨input, reported, run, found, definition, listed, required, kept, failed⟩
    exact ⟨input, reported, run, found, definition, listed, required, kept,
      (established_unredacted redactText kept).mpr failed⟩
  · rintro ⟨input, reported, run, found, definition, listed, required, kept, failed⟩
    exact ⟨input, reported, run, found, definition, listed, required, kept,
      (established_unredacted redactText kept).mp failed⟩

/-- The failed verdict of a finished task says that a required criterion is established as failed
just when one is whose id redaction leaves alone, or redaction makes no difference to whether one
of the others is. -/
theorem report_failed_iff (row : ReportRow) (finished : row.lifecycle.terminal = true) :
    ((buildTaskAcceptanceReport host redactText row).verdict = .failed ↔
        SomeFailed redactText row (fun _ => True) Established) ↔
      SomeFailed redactText row (fun definition => ¬ Redacted redactText definition) Established ∨
        (SomeFailed redactText row (Redacted redactText) Established ↔
          SomeFailed redactText row (Redacted redactText) (ShownEstablished redactText)) := by
  have shown : (buildTaskAcceptanceReport host redactText row).verdict = .failed ↔
      SomeFailed redactText row (fun _ => True) (ShownEstablished redactText) := by
    rw [report_failed_shown host redactText row finished]
    simp only [SomeFailed, true_and]
  rw [shown, someFailed_split redactText row (Redacted redactText) (ShownEstablished redactText),
    someFailed_split redactText row (Redacted redactText) Established,
    someFailed_unredacted redactText row]
  tauto

def ownRequirement (definition : Members) : Option String :=
  truthy (stringOf (Members.get definition "requirementId"))

def Linked (row : ReportRow) (requirement : Members) : Prop :=
  ∃ id, Members.get requirement "id" = some (.str id) ∧
    ∃ input ∈ reportedInputs redactText row,
      ∃ definition ∈ caseDefinitions input.definition input.run,
        isRequired definition = true ∧ ownRequirement definition = some id

def requirementOf (definition : Members) : Option String :=
  truthy (some (text redactText (Members.get definition "requirementId")))

def ShownLinked (row : ReportRow) (requirement : Members) : Prop :=
  ∃ id, Members.get requirement "id" = some (.str id) ∧
    ∃ input ∈ reportedInputs redactText row,
      ∃ definition ∈ caseDefinitions input.definition input.run,
        isRequired definition = true ∧ requirementOf redactText definition = some id

def Listed (row : ReportRow) (requirement : Members) : Prop :=
  ∃ entry ∈ rows (Members.get (specification row) "uncoveredRequirements"),
    strictEqual (Members.get entry "requirementId") (Members.get requirement "id") = true

structure Covered (row : ReportRow) : Prop where
  complete : sourceComplete row = true
  declared : declaredRequirements row ≠ []
  linked : ∀ requirement ∈ declaredRequirements row, ShownLinked redactText row requirement
  unexplained : ∀ requirement ∈ declaredRequirements row,
    missingReason redactText row requirement = ""
  named : ∀ input ∈ reportedInputs redactText row,
    ∀ definition ∈ caseDefinitions input.definition input.run, isRequired definition = true →
      ∃ requirement ∈ declaredRequirements row,
        requirementOf redactText definition =
          some (text redactText (Members.get requirement "id"))
  diagnosed : ∀ diagnostic ∈ diagnosticsOf row, supplemental diagnostic = true

structure Cleared (row : ReportRow) : Prop where
  completed : row.lifecycle = .completed
  someCase : reportedInputs redactText row ≠ []
  proven : ∀ input ∈ reportedInputs redactText row, ShownProven host redactText input
  stages : ∀ stage ∈ row.stages, stage.status = .failed → stage.type = .specExecution ∧
    isTruthy stage.lastError = false ∧ legacyCleanupProjection host redactText row = true
  covered : scopeOf host row = .requirement → Covered redactText row

theorem linkedCriteria_ne_nil (row : ReportRow) (requirement : Members) :
    linkedCriteria (reportedCases host redactText row) requirement ≠ [] ↔
      ∃ input ∈ reportedInputs redactText row,
        ∃ definition ∈ caseDefinitions input.definition input.run, isRequired definition = true ∧
          strictEqual (some (((requirementOf redactText definition).map Json.str).getD .null))
            (Members.get requirement "id") = true := by
  constructor
  · intro linked
    obtain ⟨entry, member⟩ := List.exists_mem_of_ne_nil _ linked
    simp only [linkedCriteria, reportedCases, List.mem_flatMap, List.mem_map, List.mem_filter,
      Bool.and_eq_true] at member
    obtain ⟨_, ⟨input, reported, rfl⟩, criterion, ⟨listed, required, equal⟩, _⟩ := member
    obtain ⟨definition, declared, rfl⟩ := (mem_caseCriteria host redactText criterion).mp listed
    exact ⟨input, reported, definition, declared, required, equal⟩
  · rintro ⟨input, reported, definition, declared, required, equal⟩
    have listed : _ ∈ caseCriteria host redactText input row.lifecycle.terminal :=
      (mem_caseCriteria host redactText _).mpr ⟨definition, declared, rfl⟩
    apply List.ne_nil_of_mem
    simp only [linkedCriteria, reportedCases, List.mem_flatMap, List.mem_map, List.mem_filter,
      Bool.and_eq_true]
    exact ⟨_, ⟨input, reported, rfl⟩, _, ⟨listed, required, equal⟩, rfl⟩

theorem strayCriterion_eq_false (cases : List AcceptanceCase)
    (requirements : List AcceptanceRequirement) :
    strayCriterion cases requirements = false ↔
      ∀ case ∈ cases, ∀ criterion ∈ case.criteria, criterion.required = true →
        ∃ requirement ∈ requirements, some requirement.id = criterion.requirementId := by
  simp [strayCriterion]

theorem reportedCriteria_named (row : ReportRow) :
    strayCriterion (reportedCases host redactText row)
        (requirementReports redactText row (reportedCases host redactText row)) = false ↔
      ∀ input ∈ reportedInputs redactText row,
        ∀ definition ∈ caseDefinitions input.definition input.run, isRequired definition = true →
          ∃ requirement ∈ declaredRequirements row,
            requirementOf redactText definition =
              some (text redactText (Members.get requirement "id")) := by
  simp only [strayCriterion_eq_false, requirementReports, List.mem_map]
  constructor
  · intro noStray input reported definition declared required
    have listed : _ ∈ caseCriteria host redactText input row.lifecycle.terminal :=
      (mem_caseCriteria host redactText _).mpr ⟨definition, declared, rfl⟩
    obtain ⟨_, ⟨requirement, stated, rfl⟩, same⟩ := noStray _
      (List.mem_map.mpr ⟨input, reported, rfl⟩) _ listed required
    exact ⟨requirement, stated, same.symm⟩
  · intro named case member criterion listed required
    obtain ⟨input, reported, rfl⟩ := List.mem_map.mp member
    obtain ⟨definition, declared, rfl⟩ := (mem_caseCriteria host redactText criterion).mp listed
    obtain ⟨requirement, stated, same⟩ := named input reported definition declared required
    exact ⟨_, ⟨requirement, stated, rfl⟩, same.symm⟩

theorem requirementReport_unexplained (row : ReportRow) (cases : List AcceptanceCase)
    (requirement : Members) :
    (requirementReport redactText row cases requirement).reason = none ↔
      missingReason redactText row requirement = "" ∧ linkedCriteria cases requirement ≠ [] := by
  simp only [requirementReport]
  split_ifs with explained unlinked
  · simp [explained]
  · simp [unlinked]
  · simp_all

theorem strictEqual_text (text : String) (value : Option Json) :
    strictEqual (some (.str text)) value = true ↔ value = some (.str text) := by
  cases value with
  | none => simp [strictEqual]
  | some value =>
      cases value with
      | str other => simpa [strictEqual] using eq_comm
      | _ => simp [strictEqual]

theorem if_singleton_context {condition : Prop} [Decidable condition] {problem : AcceptanceIssue}
    (other : problem.category ≠ .context) :
    (∀ found ∈ (if condition then [problem] else []), found.category = .context) ↔
      ¬ condition := by
  split_ifs with holds <;> simp_all

/-- Only notes about the context are left exactly when the requirements are covered. -/
theorem requirementIssues_context (row : ReportRow) :
    (∀ found ∈ requirementIssues redactText row (reportedCases host redactText row),
        found.category = .context) ↔ Covered redactText row := by
  have reasons : ¬ (requirementReports redactText row (reportedCases host redactText row)).any
        (fun requirement => requirement.reason.isSome) = true ↔
      ∀ requirement ∈ declaredRequirements row, missingReason redactText row requirement = "" ∧
        linkedCriteria (reportedCases host redactText row) requirement ≠ [] := by
    simp [requirementReports, ← requirementReport_unexplained]
  have notes : (∀ found ∈ (diagnosticsOf row).map (fun diagnostic =>
        issue (if supplemental diagnostic then .context else .coverage)
          (orText (text redactText (Members.get diagnostic "code")) "SPEC_DIAGNOSTIC")
          (text redactText (Members.get diagnostic "message"))
          "检查 Spec 分析来源与覆盖说明。"), found.category = .context) ↔
      ∀ diagnostic ∈ diagnosticsOf row, supplemental diagnostic = true := by
    simp only [List.forall_mem_map, issue]
    refine forall₂_congr fun diagnostic _ => ?_
    cases supplemental diagnostic <;> simp
  have complete : (∀ found ∈ (if sourceComplete row then []
        else [issue .coverage "SOURCE_INCOMPLETE" "需求或变更来源不完整，不能据此认定整个需求通过。"
          "补齐需求与关联变更来源，重新确认测试范围。"]), found.category = .context) ↔
      sourceComplete row = true := by
    split_ifs with known <;> simp [issue, known]
  simp only [requirementIssues, List.forall_mem_append, complete, notes]
  rw [if_singleton_context (by simp [issue]), if_singleton_context (by simp [issue]),
    if_singleton_context (by simp [issue]), reasons, Bool.not_eq_true, reportedCriteria_named]
  constructor
  · rintro ⟨⟨⟨⟨known, stated⟩, covered⟩, named⟩, diagnosed⟩
    refine ⟨known, by simpa [requirementReports] using stated, ?_,
      fun requirement member => (covered requirement member).1, named, diagnosed⟩
    intro requirement member
    obtain ⟨input, reported, definition, declared, required, equal⟩ :=
      (linkedCriteria_ne_nil host redactText row requirement).mp (covered requirement member).2
    obtain ⟨other, _, same⟩ := named input reported definition declared required
    refine ⟨_, (strictEqual_text _ _).mp (by simpa [same] using equal), input, reported,
      definition, declared, required, same⟩
  · intro covered
    refine ⟨⟨⟨⟨covered.complete, by simpa [requirementReports] using covered.declared⟩, ?_⟩,
      covered.named⟩, covered.diagnosed⟩
    intro requirement member
    refine ⟨covered.unexplained requirement member, ?_⟩
    obtain ⟨id, named, input, reported, definition, declared, required, same⟩ :=
      covered.linked requirement member
    refine (linkedCriteria_ne_nil host redactText row requirement).mpr
      ⟨input, reported, definition, declared, required, ?_⟩
    simpa [same] using (strictEqual_text id _).mpr named

/-- The only failed stage that is let pass is an execution blocked by its cleanup. -/
theorem stageIssues_nil {row : ReportRow} (some_ : reportedInputs redactText row ≠ [])
    (proven : ∀ input ∈ reportedInputs redactText row, ShownProven host redactText input) :
    stageIssues host redactText row (reportedCases host redactText row) = [] ↔
      ∀ stage ∈ row.stages, stage.status = .failed → stage.type = .specExecution ∧
        isTruthy stage.lastError = false ∧ legacyCleanupProjection host redactText row = true := by
  have reported : reportedCases host redactText row ≠ [] := by simpa [reportedCases] using some_
  have ran : ∀ case ∈ reportedCases host redactText row,
      case.lifecycle = .completed ∧ case.executionDisposition = some .executed := by
    intro case member
    obtain ⟨input, inReport, rfl⟩ := List.mem_map.mp member
    obtain ⟨run, found, completed, projected, _⟩ := proven input inReport
    simp [caseReport, found, caseLifecycle, projectedRun, completed, projected]
  have all : (reportedCases host redactText row).all (fun case =>
      case.lifecycle == .completed && case.executionDisposition == some .executed) = true := by
    simpa using ran
  simp only [stageIssues, List.map_eq_nil_iff, List.filter_eq_nil_iff, excusedStage, all]
  simp [reported, and_assoc]

theorem lifecycleIssues_nil (row : ReportRow) (completed : row.lifecycle = .completed) :
    lifecycleIssues redactText row = [] := by
  simp [lifecycleIssues, completed]

theorem taskVerdict_passed_iff (row : ReportRow) (cases : List AcceptanceCase)
    (issues : List AcceptanceIssue) :
    taskVerdict row cases issues = .passed ↔ row.lifecycle = .completed ∧ cases ≠ [] ∧
      (∀ case ∈ cases, case.verdict = .passed) ∧ ∀ found ∈ issues, found.category = .context := by
  have clear : (coverageCompleteOf cases issues = true ∧
        ¬ (issues.any fun found => found.category != .context) = true) ↔
      cases ≠ [] ∧ ∀ found ∈ issues, found.category = .context := by
    simp only [coverageCompleteOf, Bool.and_eq_true, bne_iff_ne, Bool.not_eq_true',
      List.any_eq_false, List.any_eq_true, beq_iff_eq]
    constructor
    · rintro ⟨⟨some_, _⟩, noOther⟩
      exact ⟨some_, fun found member => by_contra fun other => noOther ⟨found, member, other⟩⟩
    · rintro ⟨some_, every⟩
      refine ⟨⟨some_, fun found member => by simp [every found member]⟩, ?_⟩
      rintro ⟨found, member, other⟩
      exact other (every found member)
  simp only [taskVerdict]
  by_cases ended : row.lifecycle.terminal = true
  · simp only [ended, ↓reduceIte]
    split_ifs with demoted
    · simp only [false_iff]
      rintro ⟨completed, some_, _, every⟩
      obtain ⟨covered, noOther⟩ := clear.mpr ⟨some_, every⟩
      rcases demoted.2 with uncovered | open_ | other
      · rw [covered] at uncovered
        cases uncovered
      · exact open_ completed
      · exact noOther other
    · rw [aggregate_passed_iff]
      constructor
      · rintro ⟨_, some_, every⟩
        have passed := (aggregate_passed_iff (cases.map (·.verdict)) true).mpr ⟨rfl, some_, every⟩
        have kept : ¬ (coverageCompleteOf cases issues = false ∨ row.lifecycle ≠ .completed ∨
            (issues.any fun found => found.category != .context) = true) :=
          fun wrong => demoted ⟨passed, wrong⟩
        simp only [not_or, Bool.not_eq_false, not_not] at kept
        obtain ⟨reported, context⟩ := clear.mp ⟨kept.1, kept.2.2⟩
        exact ⟨kept.2.1, reported, List.forall_mem_map.mp every, context⟩
      · rintro ⟨_, some_, every, _⟩
        exact ⟨rfl, by simpa using some_, List.forall_mem_map.mpr every⟩
  · have running : row.lifecycle ≠ .completed := by
      intro completed
      exact ended (by simp [completed, TaskLifecycle.terminal])
    simp [ended, running]

theorem report_passed_iff (row : ReportRow) :
    (buildTaskAcceptanceReport host redactText row).verdict = .passed ↔
      Cleared host redactText row := by
  have unfolded : (buildTaskAcceptanceReport host redactText row).verdict = .passed ↔
      row.lifecycle = .completed ∧ reportedInputs redactText row ≠ [] ∧
      (∀ input ∈ reportedInputs redactText row, ShownProven host redactText input) ∧
      ∀ found ∈ taskIssues host redactText row (reportedCases host redactText row),
        found.category = .context := by
    simp only [buildTaskAcceptanceReport, taskVerdict_passed_iff, reportedCases, ne_eq,
      List.map_eq_nil_iff, List.forall_mem_map, caseReport_passed_iff]
  rw [unfolded]
  constructor
  · rintro ⟨completed, some_, proven, clear⟩
    simp only [taskIssues, List.forall_mem_append] at clear
    obtain ⟨⟨⟨requirements, _⟩, stages⟩, _⟩ := clear
    refine ⟨completed, some_, proven, ?_, ?_⟩
    · apply (stageIssues_nil host redactText some_ proven).mp
      apply List.eq_nil_iff_forall_not_mem.mpr
      intro found member
      have context := stages found member
      simp only [stageIssues, List.mem_map] at member
      obtain ⟨_, _, rfl⟩ := member
      simp [issue] at context
    · intro inScope
      rw [if_pos inScope] at requirements
      exact (requirementIssues_context host redactText row).mp requirements
  · intro cleared
    refine ⟨cleared.completed, cleared.someCase, cleared.proven, ?_⟩
    have reported : reportedCases host redactText row ≠ [] := by
      simpa [reportedCases] using cleared.someCase
    simp only [taskIssues, List.forall_mem_append]
    rw [(stageIssues_nil host redactText cleared.someCase cleared.proven).mpr cleared.stages,
      lifecycleIssues_nil redactText row cleared.completed]
    refine ⟨⟨⟨?_, by simp [reported]⟩, by simp⟩, by simp⟩
    split_ifs with inScope
    · exact (requirementIssues_context host redactText row).mpr (cleared.covered inScope)
    · simp

/-- The run is completed, its projected outcome is a pass, and each of its required criteria, of
which there is one, is established as passed under its own id. -/
def CaseProven (input : CaseInput) : Prop :=
  ∃ run, input.run = some run ∧ run.lifecycle = .completed ∧
    executionVerification host redactText run = (some .executed, some .passed) ∧
    (∃ definition ∈ caseDefinitions input.definition (some run), isRequired definition = true) ∧
    ∀ definition ∈ caseDefinitions input.definition (some run), isRequired definition = true →
      Established run definition .passed

structure PassJustified (row : ReportRow) : Prop where
  completed : row.lifecycle = .completed
  someCase : (buildTaskAcceptanceReport host redactText row).cases ≠ []
  proven : ∀ input ∈ reportedInputs redactText row, CaseProven host redactText input
  covered : scopeOf host row = .requirement → ∀ requirement ∈ declaredRequirements row,
    Linked redactText row requirement ∧ ¬ Listed row requirement

/-- A declared requirement is listed as uncovered without a reason. -/
def SilentGap (row : ReportRow) : Prop :=
  scopeOf host row = .requirement ∧ ∃ requirement ∈ declaredRequirements row,
    Listed row requirement ∧ missingReason redactText row requirement = ""

/-- A required criterion whose id redaction changes is not established as passed. -/
def MisreadCriterion (row : ReportRow) : Prop :=
  ∃ input ∈ reportedInputs redactText row, ∃ run, input.run = some run ∧
    ∃ definition ∈ caseDefinitions input.definition (some run), isRequired definition = true ∧
      Redacted redactText definition ∧ ¬ Established run definition .passed

/-- A declared requirement is named by required criteria after redaction only. -/
def MisreadRequirement (row : ReportRow) : Prop :=
  scopeOf host row = .requirement ∧ ∃ requirement ∈ declaredRequirements row,
    ShownLinked redactText row requirement ∧ ¬ Linked redactText row requirement

/-- A pass is justified unless, in a row that is cleared, a requirement is listed as uncovered
without a reason, or redaction makes a criterion or a requirement pass for another. -/
theorem passed_report_justified_iff (row : ReportRow) :
    ((buildTaskAcceptanceReport host redactText row).verdict = .passed →
        PassJustified host redactText row) ↔
      ¬ (Cleared host redactText row ∧ (SilentGap host redactText row ∨
        MisreadCriterion redactText row ∨ MisreadRequirement host redactText row)) := by
  rw [report_passed_iff]
  constructor
  · rintro justified ⟨cleared, gap | misread | mislinked⟩
    · obtain ⟨inScope, requirement, member, listed, -⟩ := gap
      exact ((justified cleared).covered inScope requirement member).2 listed
    · obtain ⟨input, reported, run, found, definition, listed, required, -, unproven⟩ := misread
      obtain ⟨other, found', -, -, -, established⟩ := (justified cleared).proven input reported
      obtain rfl : run = other := Option.some.inj (found.symm.trans found')
      exact unproven (established definition listed required)
    · obtain ⟨inScope, requirement, member, -, unlinked⟩ := mislinked
      exact unlinked ((justified cleared).covered inScope requirement member).1
  · intro faultless cleared
    refine ⟨cleared.completed, ?_, ?_, ?_⟩
    · simpa [buildTaskAcceptanceReport, reportedCases] using cleared.someCase
    · intro input reported
      obtain ⟨run, found, completed, projected, some_, shown⟩ := cleared.proven input reported
      refine ⟨run, found, completed, projected, some_, fun definition listed required => ?_⟩
      by_cases kept : Redacted redactText definition
      · by_contra unproven
        exact faultless ⟨cleared, Or.inr (Or.inl
          ⟨input, reported, run, found, definition, listed, required, kept, unproven⟩)⟩
      · exact (established_unredacted redactText kept).mpr (shown definition listed required)
    · intro inScope requirement member
      have covered := cleared.covered inScope
      constructor
      · by_contra unlinked
        exact faultless ⟨cleared, Or.inr (Or.inr
          ⟨inScope, requirement, member, covered.linked requirement member, unlinked⟩)⟩
      · intro listed
        exact faultless ⟨cleared, Or.inl
          ⟨inScope, requirement, member, listed, covered.unexplained requirement member⟩⟩

end Verdicts

/-! A task about one requirement, checked by one criterion of one case. -/

def reportHost : Host :=
  .ofTables {}

def exportCriterion (criterion : String) : Json :=
  .obj [("id", .str criterion), ("requirementId", .str "req-1"),
    ("requiredEvidenceKinds", .arr [.str "DOM"])]

def exportRun (criterion : String) (status : ProductVerdict) : ReportRun where
  id := "run-1"
  goal := "export"
  lifecycle := .completed
  executionDisposition := some .executed
  verdict := some .passed
  criteriaSnapshot := .arr [exportCriterion criterion]
  currentAttemptNumber := 1
  attempts := [{ id := "attempt-1", number := 1 }]
  tasks := [{ attemptId := "attempt-1" }]
  criterionResults :=
    [{ attemptId := "attempt-1", criterionId := criterion, status, summary := "exported",
       evidenceRefs := ["dom-1"] }]
  oneResult := by simp
  evidences :=
    [{ id := "evidence-1", externalId := "dom-1", kind := "DOM", attemptId := "attempt-1" }]

def exportCase (criterion : String) : TestCase where
  id := "case-1"
  name := "export"
  definition := .obj [("criteria", .arr [exportCriterion criterion])]

def exportRow (criterion : String) (lifecycle : TaskLifecycle) (status : ProductVerdict)
    (uncovered : List Json) (environments : List TaskDeployment) : ReportRow where
  kind := .specTask
  title := "export"
  lifecycle
  environmentSnapshot := .obj []
  sourceSnapshotComplete := true
  specificationSnapshot := some
    { context := .obj [("specification", .obj
        [("requirements", .arr [.obj [("id", .str "req-1"), ("description", .str "export")]]),
          ("uncoveredRequirements", .arr uncovered)])]
      completeness := "COMPLETE"
      diagnostics := .arr []
      cases := [exportCase criterion] }
  deployments := environments
  caseExecutions :=
    [{ caseId := "case-1", deploymentId := "env-1", executionOrdinal := 1,
       run := some (exportRun criterion status) }]
  executionRuns := [exportRun criterion status]
  stages := []

def office : TaskDeployment :=
  { id := "env-1", name := "office", targetUrl := none }

/-- A cancelled task with an environment that was never run. -/
def cancelledRow : ReportRow :=
  exportRow "criterion-1" .cancelled .failed []
    [office, { id := "env-2", name := "branch", targetUrl := none }]

theorem redacted_id {definition : Members} {name : String} (own : ownId definition = some name) :
    ¬ Redacted id definition := by
  unfold ownId at own
  simp [Redacted, ownId, shownId, text, own]

/-- The failure is established in the row, and the verdict reports it. -/
theorem cancelledRow_failed :
    (buildTaskAcceptanceReport reportHost id cancelledRow).verdict = .failed ∧
      SomeFailed id cancelledRow (fun _ => True) Established := by
  have verdict : (buildTaskAcceptanceReport reportHost id cancelledRow).verdict = .failed := by
    decide
  obtain ⟨input, reported, run, found, definition, listed, required, shown⟩ :=
    (report_failed_shown reportHost id cancelledRow rfl).mp verdict
  have own : ∀ input ∈ reportedInputs id cancelledRow, ∀ run ∈ input.run,
      ∀ definition ∈ caseDefinitions input.definition (some run),
        ownId definition = some "criterion-1" := by
    decide
  have kept := redacted_id (own input reported run found definition listed)
  have failed : SomeFailed id cancelledRow (fun definition => ¬ Redacted id definition)
      Established :=
    ⟨input, reported, run, found, definition, listed, required, kept,
      (established_unredacted id kept).mpr shown⟩
  exact ⟨verdict, ((report_failed_iff reportHost id cancelledRow rfl).mpr (Or.inl failed)).mp
    verdict⟩

/-- `redactText` on the texts of the row below. -/
def redactLogin (value : String) : String :=
  if value = "Basic login" then "Basic [REDACTED]" else value

def loginRow : ReportRow :=
  exportRow "Basic login" .completed .failed [] [office]

/-- The failure is stored under the criterion's own id, the report looks for another. -/
theorem loginRow_masked :
    (buildTaskAcceptanceReport reportHost redactLogin loginRow).verdict = .inconclusive ∧
      SomeFailed redactLogin loginRow (fun _ => True) Established := by
  refine ⟨by decide, ?_⟩
  refine ⟨_, List.mem_singleton.mpr rfl, exportRun "Basic login" .failed, rfl, _,
    List.mem_singleton.mpr rfl, by decide, trivial, "Basic login", rfl,
    { id := "attempt-1", number := 1 }, rfl, _, List.mem_singleton.mpr rfl, rfl, rfl, rfl,
    by decide, by decide, by decide⟩

def silentRow : ReportRow :=
  exportRow "criterion-1" .completed .passed
    [.obj [("requirementId", .str "req-1"), ("reason", .str "")]] [office]

theorem silentRow_passes :
    (buildTaskAcceptanceReport reportHost id silentRow).verdict = .passed ∧
      ¬ PassJustified reportHost id silentRow := by
  refine ⟨by decide, fun justified => ?_⟩
  have scope : scopeOf reportHost silentRow = .requirement := by decide
  have unlisted := (justified.covered scope
    [("id", .str "req-1"), ("description", .str "export")] (List.mem_singleton.mpr rfl)).2
  exact unlisted ⟨_, List.mem_singleton.mpr rfl, by decide⟩

end Devproof.Acceptance
