import Mathlib.Data.List.Perm.Lattice
import Mathlib.Data.List.Range
import Devproof.TestData.RequestSteps

/-!
Runs of the requests on the test data, in any order of their steps.
-/

namespace Devproof

namespace TestData

section Requests

variable {sha256Json : Json → String}

section Obeys

open Program

variable {state : TestTables} {current : AuthContext} {input : RunInput}

def Answers (current : AuthContext) (input : RunInput) (row : TestRun) : Prop :=
  row.teamId = current.teamId ∧ row.idempotencyKey = input.idempotencyKey ∧
    (input.idempotencyKey = none → row.caseId = input.caseId ∧
      row.environmentId = input.environmentId ∧ row.requestedByUserId = current.userId)

theorem run_refused {failure : Failure} :
    (refuse failure).Obeys (Lawful sha256Json) Later
      (Done sha256Json (.createRun current input)) state := by
  show Done sha256Json (.createRun current input) (.error _) state
  rintro answer ⟨⟩

theorem obeys_runDetail (row : TestRun) (member : row ∈ state.runs)
    (answers : Answers current input row) :
    (runDetail current row.id).Obeys (Lawful sha256Json) Later
      (Done sha256Json (.createRun current input)) state := by
  refine obeys_read Later.refl fun now onward lawful => ?_
  cases found : findRun current.teamId row.id now with
  | none => exact run_refused
  | some other =>
      have stored := List.mem_of_find?_eq_some found
      have same := List.find?_some found
      simp only [Bool.and_eq_true, beq_iff_eq] at same
      have one := row_unique lawful.runs.ids stored (onward.runs row member) same.1
      show Done sha256Json (.createRun current input) (.ok (.run other)) now
      rintro _ ⟨⟩
      exact ⟨other, stored, rfl, by rw [one]; exact answers⟩

theorem mem_of_findByKey {teamId key : String} {row : TestRun}
    (found : findByKey teamId key state = some row) :
    row ∈ state.runs ∧ row.teamId = teamId ∧ row.idempotencyKey = some key := by
  have same := List.find?_some found
  simp only [Bool.and_eq_true, beq_iff_eq] at same
  exact ⟨List.mem_of_find?_eq_some found, same⟩

/-- A run found under the key is one for the request, whatever else the request asks. -/
theorem obeys_foundByKey {key : String} {row : TestRun} (keyed : input.idempotencyKey = some key)
    (found : findByKey current.teamId key state = some row) :
    (runDetail current row.id).Obeys (Lawful sha256Json) Later
      (Done sha256Json (.createRun current input)) state := by
  obtain ⟨member, team, same⟩ := mem_of_findByKey found
  refine obeys_runDetail row member ⟨team, same.trans keyed.symm, fun none => ?_⟩
  rw [keyed] at none
  cases none

theorem obeys_alreadyRun :
    (alreadyRun current input.idempotencyKey).Obeys (Lawful sha256Json) Later
      (Done sha256Json (.createRun current input)) state := by
  cases keyed : input.idempotencyKey with
  | none => exact run_refused
  | some key =>
      unfold alreadyRun
      refine obeys_read Later.refl fun now _ _ => ?_
      cases found : findByKey current.teamId key now with
      | none => exact run_refused
      | some row => exact obeys_foundByKey keyed found

theorem selectVersion_mem {testCase : TestCase} {version : TestCaseVersion}
    (found : selectVersion current testCase input state = some version) :
    version ∈ state.versions := by
  unfold selectVersion at found
  split at found
  · exact List.mem_of_find?_eq_some found
  · exact List.mem_of_find?_eq_some found

theorem obeys_insertRun {testCase : TestCase} {version : TestCaseVersion}
    {environment : TestEnvironment} (owned : testCase.id = input.caseId)
    (placed : environment.id = input.environmentId) (member : version ∈ state.versions) :
    (commit (insertRun (newRun current testCase version environment input)) fun created =>
      match created with
      | none => alreadyRun current input.idempotencyKey
      | some id => record current "test.run.queued" "test_run" id (runDetail current id)).Obeys
        (Lawful sha256Json) Later (Done sha256Json (.createRun current input)) state := by
  refine obeys_commit Later.refl ?_ fun now failure _ _ _ => ?_
  · intro now after created onward lawful result
    rcases insertRun_ok result with ⟨same, none⟩ | ⟨valid, some, free, same⟩
    · subst same none
      exact ⟨lawful, Later.refl _, obeys_alreadyRun⟩
    · subst same some
      obtain ⟨other, stored, id, case', team⟩ := validateLineage_ok valid
      have one := row_unique lawful.versions.ids stored (onward.versions version member) id
      have pinned : Pins (newRun current testCase version environment input now.drawn) version :=
        ⟨rfl, (congrArg TestCaseVersion.caseId one).symm.trans case',
          (congrArg TestCaseVersion.teamId one).symm.trans team, rfl⟩
      have runs := inserted_lawful (newRun current testCase version environment input now.drawn)
        lawful.runs rfl free
        ⟨version, onward.versions version member, pinned⟩
      refine ⟨⟨lawful.versions.mono (Nat.le_succ _), runs,
        lawful.checkpoints.mono (Nat.le_succ _)⟩, ⟨Nat.le_succ _, fun _ member => member,
          fun _ member => List.mem_append_left _ member,
          persists_refl fun row _ => settles_refl row⟩, ?_⟩
      refine obeys_record fun saved further _ => ?_
      exact obeys_runDetail (newRun current testCase version environment input now.drawn)
        (further.runs _ (List.mem_append_right _ (List.mem_singleton_self _)))
        ⟨rfl, rfl, fun _ => ⟨owned, placed, rfl⟩⟩
  · show Done sha256Json (.createRun current input) (.error failure) now
    rintro answer ⟨⟩

theorem obeys_createNewRun :
    (createNewRun current input).Obeys (Lawful sha256Json) Later
      (Done sha256Json (.createRun current input)) state := by
  refine obeys_read Later.refl fun first _ _ => ?_
  cases found : findCaseAndProject current.teamId input.caseId first with
  | none => exact run_refused
  | some pair =>
      obtain ⟨testCase, project⟩ := pair
      have owned : testCase.id = input.caseId := by
        unfold findCaseAndProject at found
        obtain ⟨row, here, rest⟩ := Option.bind_eq_some_iff.mp found
        obtain ⟨_, -, rest⟩ := Option.bind_eq_some_iff.mp rest
        cases rest
        have same := List.find?_some here
        simp only [Bool.and_eq_true, beq_iff_eq] at same
        exact same.1
      dsimp only
      split
      · exact run_refused
      · split
        · exact run_refused
        · refine obeys_read Later.refl fun second _ _ => ?_
          cases chosen : selectVersion current testCase input second with
          | none => exact run_refused
          | some version =>
              refine obeys_read Later.refl fun third onward _ => ?_
              cases placed : selectEnvironment current testCase input third with
              | none => exact run_refused
              | some environment =>
                  have same := List.find?_some placed
                  simp only [Bool.and_eq_true, beq_iff_eq] at same
                  exact obeys_insertRun owned same.1.1.2
                    (onward.versions version (selectVersion_mem chosen))

theorem obeys_createRun :
    (createRun current input).Obeys (Lawful sha256Json) Later
      (Done sha256Json (.createRun current input)) state := by
  unfold createRun
  split
  · exact obeys_createNewRun
  · rename_i key keyed
    refine obeys_read Later.refl fun now _ _ => ?_
    cases found : findByKey current.teamId key now with
    | none => exact obeys_createNewRun
    | some row => exact obeys_foundByKey keyed found

theorem obeys_insertCheckpoint {done : Except Failure Answer → TestTables → Prop}
    (accepted : ∀ result tables, done result tables) {row : Nat → TestRunHumanCheckpoint}
    (fresh : ∀ drawn, (row drawn).id = drawn) :
    (insertCheckpoint row).Obeys (Lawful sha256Json) Later done state := by
  refine obeys_commit Later.refl ?_ fun now failure _ _ _ => accepted _ _
  rintro now after id onward lawful ⟨⟩
  refine ⟨⟨lawful.versions.mono (Nat.le_succ _), lawful.runs.mono (Nat.le_succ _) fun _ member =>
    member, known_append lawful.checkpoints.known (fresh _),
    ids_append lawful.checkpoints.known lawful.checkpoints.ids (fresh _)⟩,
    ⟨Nat.le_succ _, fun _ member => member, fun _ member => member,
      persists_append (fun row _ => settles_refl row) _⟩, accepted _ _⟩

theorem obeys_createCheckpoint {teamId : String} {runId : Nat} {input : CheckpointInput} :
    (createCheckpoint teamId runId input).Obeys (Lawful sha256Json) Later
      (Done sha256Json (.createCheckpoint teamId runId input)) state := by
  refine obeys_read Later.refl fun now _ _ => ?_
  split
  · exact trivial
  · split
    · exact obeys_insertCheckpoint (fun _ _ => trivial) fun _ => rfl
    · refine obeys_read Later.refl fun then' _ _ => ?_
      split
      · exact obeys_insertCheckpoint (fun _ _ => trivial) fun _ => rfl
      · exact trivial

theorem obeys_resolveCheckpoint {runId checkpointId : Nat} {response : Json} :
    (resolveCheckpoint current runId checkpointId response).Obeys (Lawful sha256Json) Later
      (Done sha256Json (.resolveCheckpoint current runId checkpointId response)) state := by
  have refused : ∀ {failure : Failure} {tables : TestTables},
      (refuse failure).Obeys (Lawful sha256Json) Later
        (Done sha256Json (.resolveCheckpoint current runId checkpointId response)) tables := by
    intro failure tables
    show Done sha256Json (.resolveCheckpoint ..) (.error failure) tables
    rintro answer ⟨⟩
  refine obeys_read Later.refl fun first _ _ => ?_
  dsimp only
  split
  · exact refused
  · split
    · exact refused
    · split
      · refine obeys_commit Later.refl ?_ nofun
        rintro now after value _ lawful ⟨⟩
        exact ⟨(expire_lawful lawful checkpointId).1, (expire_lawful lawful checkpointId).2,
          refused⟩
      · refine obeys_read Later.refl fun second _ _ => ?_
        refine obeys_commit Later.refl ?_ nofun
        rintro now after updated _ lawful result
        rw [Except.ok.injEq] at result
        have kept := resolve_lawful lawful current checkpointId response second.now
        have settled := resolve_found now current checkpointId response second.now
        rw [result] at kept settled
        refine ⟨kept.1, kept.2, ?_⟩
        cases updated with
        | false => exact refused
        | true =>
            obtain ⟨row, member, id, status, user, answer⟩ := settled rfl
            refine obeys_record fun saved onward _ => ?_
            refine obeys_read Later.refl fun last further held => ?_
            obtain ⟨next, present, same, -, -, fixed⟩ := onward.checkpoints row member
            cases fixed (by rw [status]; decide)
            obtain ⟨next, present, same, -, -, fixed⟩ := further.checkpoints row present
            cases fixed (by rw [status]; decide)
            split
            · rename_i other found
              have stored := List.mem_of_find?_eq_some found
              have same := List.find?_some found
              rw [beq_iff_eq] at same
              have one := row_unique held.checkpoints.ids stored present (same.trans id.symm)
              show Done sha256Json (.resolveCheckpoint ..) (.ok (.checkpoint other)) last
              rintro _ ⟨⟩
              rw [one]
              exact ⟨row, present, rfl, id, status, user, answer⟩
            · exact refused

end Obeys

theorem cases_append {cases : List TestCase} {versions : List TestCaseVersion} {drawn : Nat}
    (lawful : VersionsLawful sha256Json cases versions drawn) {row : TestCase}
    (fresh : ∀ other ∈ cases, other.id ≠ row.id) (unpublished : row.latestVersionNumber = 0) :
    VersionsLawful sha256Json (cases ++ [row]) versions drawn := by
  refine { lawful with caseIds := ?_, numbered := ?_, complete := ?_ }
  · rw [List.map_append, List.map_singleton]
    refine List.nodup_append.mpr ⟨lawful.caseIds, by simp, ?_⟩
    intro id member other new same
    obtain ⟨old, present, rfl⟩ := List.mem_map.mp member
    exact fresh old present (same.trans (List.mem_singleton.mp new))
  · intro version stored
    obtain ⟨owner, present, rest⟩ := lawful.numbered version stored
    exact ⟨owner, List.mem_append_left _ present, rest⟩
  · intro owner member number low bound
    rcases List.mem_append.mp member with old | new
    · exact lawful.complete owner old number low bound
    · rw [List.mem_singleton.mp new, unpublished] at bound
      omega

theorem cases_updateWhere {cases : List TestCase} {versions : List TestCaseVersion} {drawn : Nat}
    (lawful : VersionsLawful sha256Json cases versions drawn) {allowed : TestCase → Bool}
    {write : TestCase → TestCase} (keeps : ∀ row, (write row).id = row.id ∧
      (write row).teamId = row.teamId ∧
      (write row).latestVersionNumber = row.latestVersionNumber) :
    VersionsLawful sha256Json (updateWhere allowed write cases) versions drawn := by
  have same : ∀ row, (if allowed row then write row else row).id = row.id ∧
      (if allowed row then write row else row).teamId = row.teamId ∧
      (if allowed row then write row else row).latestVersionNumber =
        row.latestVersionNumber := by
    intro row
    split
    · exact keeps row
    · exact ⟨rfl, rfl, rfl⟩
  refine { lawful with caseIds := ?_, numbered := ?_, complete := ?_ }
  · rw [keys_updateWhere fun row => (keeps row).1]
    exact lawful.caseIds
  · intro version stored
    obtain ⟨owner, present, id, team, low, bound⟩ := lawful.numbered version stored
    obtain ⟨id', team', latest⟩ := same owner
    exact ⟨_, List.mem_map_of_mem present, id'.trans id, team'.trans team, low,
      bound.trans_eq latest.symm⟩
  · intro owner member number low bound
    obtain ⟨old, present, rfl⟩ := List.mem_map.mp member
    obtain ⟨id, -, latest⟩ := same old
    obtain ⟨row, stored, owned, at'⟩ := lawful.complete old present number low
      (bound.trans_eq latest)
    exact ⟨row, stored, owned.trans id.symm, at'⟩

theorem changed_lawful (change : Change) {tables : TestTables}
    (lawful : Lawful sha256Json tables) :
    Lawful sha256Json (changed change tables) ∧ Later tables (changed change tables) := by
  have onward : ∀ {after : TestTables}, after.drawn = tables.drawn →
      after.versions = tables.versions → after.runs = tables.runs →
      after.checkpoints = tables.checkpoints → Later tables after := by
    intro after drawn versions runs checkpoints
    refine ⟨Nat.le_of_eq drawn.symm, ?_, ?_, ?_⟩
    · rw [versions]
      exact fun _ member => member
    · rw [runs]
      exact fun _ member => member
    · rw [checkpoints]
      exact persists_refl fun row _ => settles_refl row
  cases change with
  | clock now conflicting =>
      exact ⟨⟨lawful.versions, lawful.runs, lawful.checkpoints⟩, onward rfl rfl rfl rfl⟩
  | surroundings projects environments traceEvents =>
      exact ⟨⟨lawful.versions, lawful.runs, lawful.checkpoints⟩, onward rfl rfl rfl rfl⟩
  | createCase id teamId projectId status =>
      simp only [changed]
      split
      · exact ⟨lawful, Later.refl _⟩
      · rename_i free
        refine ⟨⟨cases_append lawful.versions ?_ rfl, lawful.runs, lawful.checkpoints⟩,
          onward rfl rfl rfl rfl⟩
        intro other member same
        exact free (List.any_eq_true.mpr ⟨other, member, beq_iff_eq.mpr same⟩)
  | updateCase id teamId status =>
      exact ⟨⟨cases_updateWhere lawful.versions (by intro row; exact ⟨rfl, rfl, rfl⟩),
        lawful.runs, lawful.checkpoints⟩, onward rfl rfl rfl rfl⟩

variable (sha256Json) in
theorem rules : System.Rules (serve sha256Json) changed (fun _ => True) (Lawful sha256Json) Later
    (Done sha256Json) where
  refl := Later.refl
  transitive := Later.trans
  stable := fun onward _ done => done_stable onward done
  starts := fun call _ state => by
    cases call with
    | createCaseVersion current caseId input => exact obeys_versionAttempts caseId input 3 state
    | createRun current input => exact obeys_createRun
    | createCheckpoint teamId runId input => exact obeys_createCheckpoint
    | resolveCheckpoint current runId checkpointId response => exact obeys_resolveCheckpoint
  changes := fun what _ lawful => changed_lawful what lawful

def opened (now : Int) : System TestTables Call (Except Failure Answer) :=
  { shared :=
      { now, drawn := 0, conflicting := false, projects := [], cases := [], environments := []
        traceEvents := [] }
    running := [] }

variable (sha256Json) in
abbrev steps (move : SystemMove Call Change)
    (system : System TestTables Call (Except Failure Answer)) :
    Outcome (System TestTables Call (Except Failure Answer)) Empty :=
  System.step (serve sha256Json) changed move system

theorem opened_orderly (now : Int) :
    System.Orderly (Lawful sha256Json) Later (Done sha256Json) (opened now) := by
  refine ⟨⟨?_, ?_, ?_⟩, nofun⟩
  · exact ⟨List.nodup_nil, List.forall_mem_nil _, List.nodup_nil, List.nodup_nil,
      List.forall_mem_nil _, List.forall_mem_nil _, List.forall_mem_nil _, List.forall_mem_nil _⟩
  · exact ⟨List.forall_mem_nil _, List.nodup_nil, List.forall_mem_nil _, List.forall_mem_nil _⟩
  · exact ⟨List.forall_mem_nil _, List.nodup_nil⟩

variable (sha256Json) in
theorem reached_orderly (now : Int) (moves : List (SystemMove Call Change)) :
    System.Orderly (Lawful sha256Json) Later (Done sha256Json)
      (arrival (steps sha256Json) moves (opened now)) :=
  (System.orderly_run (rules sha256Json) (opened_orderly now) fun _ _ => trivial).1

theorem reached_later {system : System TestTables Call (Except Failure Answer)}
    (orderly : System.Orderly (Lawful sha256Json) Later (Done sha256Json) system)
    (moves : List (SystemMove Call Change)) :
    Later system.shared (arrival (steps sha256Json) moves system).shared :=
  (System.orderly_run (rules sha256Json) orderly fun _ _ => trivial).2

theorem versions_numbered {tables : TestTables} (lawful : Lawful sha256Json tables)
    {testCase : TestCase} (member : testCase ∈ tables.cases) :
    ((tables.versions.filter fun row => row.caseId == testCase.id).map
      TestCaseVersion.version).Perm (List.range' 1 testCase.latestVersionNumber) := by
  have distinct : ((tables.versions.filter fun row => row.caseId == testCase.id).map
      TestCaseVersion.version).Nodup := by
    refine List.Nodup.map_on ?_ ((List.Nodup.of_map _ lawful.versions.ids).filter _)
    intro row stored other stored' same
    simp only [List.mem_filter, beq_iff_eq] at stored stored'
    exact row_unique lawful.versions.once stored.1 stored'.1
      (Prod.ext (stored.2.trans stored'.2.symm) same)
  refine (List.perm_ext_iff_of_nodup distinct List.nodup_range').mpr fun number => ?_
  simp only [List.mem_map, List.mem_filter, beq_iff_eq, List.mem_range'_1]
  constructor
  · rintro ⟨row, ⟨stored, owned⟩, rfl⟩
    obtain ⟨owner, present, id, -, low, bound⟩ := lawful.versions.numbered row stored
    rw [row_unique lawful.versions.caseIds present member (id.trans owned)] at bound
    omega
  · rintro ⟨low, bound⟩
    obtain ⟨row, stored, owned, at'⟩ := lawful.versions.complete testCase member number low
      (by omega)
    exact ⟨row, ⟨stored, owned⟩, at'⟩

/-- In every state of every run: the versions of a case are numbered from one without a gap or a
    repetition; a version differs from the one before it; who is answered with a version has the
    version asked for, which is there from then on; and the unique index never has to refuse
    one. -/
theorem versions_in_order (now : Int) (moves : List (SystemMove Call Change)) :
    let system := arrival (steps sha256Json) moves (opened now)
    (∀ testCase ∈ system.shared.cases,
      ((system.shared.versions.filter fun row => row.caseId == testCase.id).map
        TestCaseVersion.version).Perm (List.range' 1 testCase.latestVersionNumber)) ∧
    (∀ row ∈ system.shared.versions, ∀ next ∈ system.shared.versions, next.caseId = row.caseId →
      next.version = row.version + 1 →
      sha256Json next.definition ≠ sha256Json row.definition) ∧
    (∀ place current caseId input result,
      system.Answered place (.createCaseVersion current caseId input) result →
      result ≠ .error .uniqueConstraint ∧ ∀ answer, result = .ok answer →
        ∃ row, answer = .version row ∧ row.caseId = caseId ∧ row.teamId = current.teamId ∧
          row.definition = input.definition ∧ row.createdByUserId = current.userId ∧
          ∀ later, row ∈ (arrival (steps sha256Json) later system).shared.versions) ∧
    ∀ row ∈ system.shared.versions,
      ∀ later, row ∈ (arrival (steps sha256Json) later system).shared.versions := by
  intro system
  have orderly := reached_orderly sha256Json now moves
  have lawful : Lawful sha256Json system.shared := orderly.shared
  have kept : ∀ row ∈ system.shared.versions,
      ∀ later, row ∈ (arrival (steps sha256Json) later system).shared.versions :=
    fun row member later => (reached_later orderly later).versions row member
  refine ⟨fun testCase member => versions_numbered lawful member, ?_, ?_, kept⟩
  · intro row stored next stored' same number
    rw [← lawful.versions.hashed row stored, ← lawful.versions.hashed next stored']
    exact lawful.versions.different row stored next stored' same number
  · intro place current caseId input result answered
    obtain ⟨allowed, done⟩ := orderly.answered answered
    refine ⟨allowed, fun answer accepted => ?_⟩
    obtain ⟨row, member, same, owned, team, definition, -, creator⟩ := done answer accepted
    exact ⟨row, same, owned, team, definition, creator, kept row member⟩

/-- In every state of every run: two requests of a team with one key are answered with one run,
    whatever else they ask; a run without a key is the one asked for; and a run goes on as it is,
    with the definition of the version of its case that it pins. -/
theorem runs_idempotent (now : Int) (moves : List (SystemMove Call Change)) :
    let system := arrival (steps sha256Json) moves (opened now)
    (∀ place place' current current' input input' answer answer',
      system.Answered place (.createRun current input) (.ok answer) →
      system.Answered place' (.createRun current' input') (.ok answer') →
      current.teamId = current'.teamId → input.idempotencyKey.isSome = true →
      input.idempotencyKey = input'.idempotencyKey → answer = answer') ∧
    (∀ place current input answer, system.Answered place (.createRun current input) (.ok answer) →
      ∃ row ∈ system.shared.runs, answer = .run row ∧ row.teamId = current.teamId ∧
        row.idempotencyKey = input.idempotencyKey ∧
        (input.idempotencyKey = none → row.caseId = input.caseId ∧
          row.environmentId = input.environmentId ∧ row.requestedByUserId = current.userId)) ∧
    ∀ run ∈ system.shared.runs,
      (∃ version ∈ system.shared.versions, Pins run version) ∧
      ∀ later, run ∈ (arrival (steps sha256Json) later system).shared.runs := by
  intro system
  have orderly := reached_orderly sha256Json now moves
  refine ⟨?_, fun place current input answer answered => orderly.answered answered answer rfl,
    fun run member => ⟨orderly.shared.runs.pinned run member, fun later =>
      (reached_later orderly later).runs run member⟩⟩
  intro place place' current current' input input' answer answer' first second team keyed same
  obtain ⟨row, member, answered, owned, key, -⟩ := orderly.answered first answer rfl
  obtain ⟨other, member', answered', owned', key', -⟩ := orderly.answered second answer' rfl
  rw [answered, answered', orderly.shared.runs.keys row member other member' (by rw [owned, owned', team])
    (key ▸ keyed) (by rw [key, key', same])]

/-- In every state of every run: who is answered that a checkpoint is resolved resolved it, with
    that response, and another who is answered so is the same user with the same response; and a
    checkpoint that was resolved, or has expired, stays as it is. -/
theorem checkpoints_settled_once (now : Int) (moves : List (SystemMove Call Change)) :
    let system := arrival (steps sha256Json) moves (opened now)
    (∀ place current runId checkpointId response answer,
      system.Answered place (.resolveCheckpoint current runId checkpointId response) (.ok answer) →
      ∃ row ∈ system.shared.checkpoints, answer = .checkpoint row ∧ row.id = checkpointId ∧
        row.status = .resolved ∧ row.resolvedByUserId = some current.userId ∧
        row.response = some response) ∧
    (∀ place place' current current' runId runId' checkpointId response response' answer answer',
      system.Answered place (.resolveCheckpoint current runId checkpointId response) (.ok answer) →
      system.Answered place' (.resolveCheckpoint current' runId' checkpointId response')
        (.ok answer') →
      current.userId = current'.userId ∧ response = response' ∧ answer = answer') ∧
    ∀ row ∈ system.shared.checkpoints, row.status ≠ .pending →
      ∀ later, row ∈ (arrival (steps sha256Json) later system).shared.checkpoints := by
  intro system
  have orderly := reached_orderly sha256Json now moves
  have resolvedBy := fun place current runId checkpointId response answer
      (answered : system.Answered place
        (.resolveCheckpoint current runId checkpointId response) (.ok answer)) =>
    orderly.answered answered answer rfl
  refine ⟨resolvedBy, ?_, ?_⟩
  · intro place place' current current' runId runId' checkpointId response response' answer answer'
      first second
    obtain ⟨row, member, rfl, id, -, user, said⟩ := resolvedBy _ _ _ _ _ _ first
    obtain ⟨other, member', rfl, id', -, user', said'⟩ := resolvedBy _ _ _ _ _ _ second
    have one := row_unique orderly.shared.checkpoints.ids member member' (id.trans id'.symm)
    subst one
    exact ⟨Option.some.inj (user.symm.trans user'), Option.some.inj (said.symm.trans said'), rfl⟩
  · intro row member settled later
    obtain ⟨next, present, -, -, -, kept⟩ := (reached_later orderly later).checkpoints row member
    exact kept settled ▸ present

end Requests

end TestData

end Devproof
