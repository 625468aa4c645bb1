import Mathlib.Data.List.Nodup
import Devproof.TestData.Requests

/-!
What the requests on the test data keep: the versions of a case are numbered
without a gap, a key names one run, and a checkpoint is settled once.
-/

namespace Devproof

namespace TestData

section Requests

variable (sha256Json : Json → String)

structure VersionsLawful (cases : List TestCase) (versions : List TestCaseVersion) (drawn : Nat) :
    Prop where
  caseIds : (cases.map TestCase.id).Nodup
  known : ∀ row ∈ versions, row.id < drawn
  ids : (versions.map TestCaseVersion.id).Nodup
  once : (versions.map fun row => (row.caseId, row.version)).Nodup
  numbered : ∀ row ∈ versions, ∃ testCase ∈ cases, testCase.id = row.caseId ∧
    testCase.teamId = row.teamId ∧ 1 ≤ row.version ∧ row.version ≤ testCase.latestVersionNumber
  complete : ∀ testCase ∈ cases, ∀ number, 1 ≤ number → number ≤ testCase.latestVersionNumber →
    ∃ row ∈ versions, row.caseId = testCase.id ∧ row.version = number
  hashed : ∀ row ∈ versions, row.definitionSha256 = sha256Json row.definition
  different : ∀ row ∈ versions, ∀ next ∈ versions, next.caseId = row.caseId →
    next.version = row.version + 1 → next.definitionSha256 ≠ row.definitionSha256

def Pins (run : TestRun) (version : TestCaseVersion) : Prop :=
  version.id = run.caseVersionId ∧ version.caseId = run.caseId ∧ version.teamId = run.teamId ∧
    version.definition = run.definitionSnapshot

structure RunsLawful (versions : List TestCaseVersion) (runs : List TestRun) (drawn : Nat) :
    Prop where
  known : ∀ row ∈ runs, row.id < drawn
  ids : (runs.map TestRun.id).Nodup
  keys : ∀ row ∈ runs, ∀ other ∈ runs, row.teamId = other.teamId →
    row.idempotencyKey.isSome = true → row.idempotencyKey = other.idempotencyKey → row = other
  pinned : ∀ run ∈ runs, ∃ version ∈ versions, Pins run version

structure CheckpointsLawful (checkpoints : List TestRunHumanCheckpoint) (drawn : Nat) : Prop where
  known : ∀ row ∈ checkpoints, row.id < drawn
  ids : (checkpoints.map TestRunHumanCheckpoint.id).Nodup

structure Lawful (tables : TestTables) : Prop where
  versions : VersionsLawful sha256Json tables.cases tables.versions tables.drawn
  runs : RunsLawful tables.versions tables.runs tables.drawn
  checkpoints : CheckpointsLawful tables.checkpoints tables.drawn

def Settles (row next : TestRunHumanCheckpoint) : Prop :=
  next.runId = row.runId ∧ next.teamId = row.teamId ∧ (row.status ≠ .pending → next = row)

structure Later (earlier tables : TestTables) : Prop where
  drawn : earlier.drawn ≤ tables.drawn
  versions : ∀ row ∈ earlier.versions, row ∈ tables.versions
  runs : ∀ row ∈ earlier.runs, row ∈ tables.runs
  checkpoints : Persists TestRunHumanCheckpoint.id Settles earlier.checkpoints tables.checkpoints

variable {sha256Json}

theorem settles_refl (row : TestRunHumanCheckpoint) : Settles row row :=
  ⟨rfl, rfl, fun _ => rfl⟩

theorem Later.refl (tables : TestTables) : Later tables tables :=
  ⟨Nat.le_refl _, fun _ member => member, fun _ member => member,
    persists_refl fun row _ => settles_refl row⟩

theorem Later.trans {first second third : TestTables} (here : Later first second)
    (there : Later second third) : Later first third := by
  refine ⟨Nat.le_trans here.drawn there.drawn, fun row member => there.versions row
    (here.versions row member), fun row member => there.runs row (here.runs row member),
    here.checkpoints.trans there.checkpoints ?_⟩
  rintro row middle next ⟨run, team, settled⟩ ⟨run', team', settled'⟩
  refine ⟨run'.trans run, team'.trans team, fun ended => ?_⟩
  have same := settled ended
  rw [settled' (same ▸ ended), same]

theorem VersionsLawful.mono {cases : List TestCase} {versions : List TestCaseVersion}
    {drawn later : Nat} (lawful : VersionsLawful sha256Json cases versions drawn)
    (onward : drawn ≤ later) : VersionsLawful sha256Json cases versions later :=
  { lawful with known := fun row member => Nat.lt_of_lt_of_le (lawful.known row member) onward }

theorem RunsLawful.mono {versions versions' : List TestCaseVersion} {runs : List TestRun}
    {drawn later : Nat} (lawful : RunsLawful versions runs drawn) (onward : drawn ≤ later)
    (kept : ∀ row ∈ versions, row ∈ versions') : RunsLawful versions' runs later := by
  refine { lawful with
    known := fun row member => Nat.lt_of_lt_of_le (lawful.known row member) onward
    pinned := fun run member => ?_ }
  obtain ⟨version, present, pins⟩ := lawful.pinned run member
  exact ⟨version, kept version present, pins⟩

theorem CheckpointsLawful.mono {checkpoints : List TestRunHumanCheckpoint} {drawn later : Nat}
    (lawful : CheckpointsLawful checkpoints drawn) (onward : drawn ≤ later) :
    CheckpointsLawful checkpoints later :=
  { lawful with known := fun row member => Nat.lt_of_lt_of_le (lawful.known row member) onward }

/-- A new row with the number drawn last. -/
theorem ids_append {Row : Type} {id : Row → Nat} {rows : List Row} {row : Row} {drawn : Nat}
    (known : ∀ row ∈ rows, id row < drawn) (distinct : (rows.map id).Nodup)
    (fresh : id row = drawn) : ((rows ++ [row]).map id).Nodup := by
  rw [List.map_append, List.map_singleton]
  refine List.nodup_append.mpr ⟨distinct, by simp, ?_⟩
  intro number member other new same
  obtain ⟨old, present, rfl⟩ := List.mem_map.mp member
  rw [List.mem_singleton.mp new, fresh] at same
  exact absurd (known old present) (by omega)

theorem known_append {Row : Type} {id : Row → Nat} {rows : List Row} {row : Row} {drawn : Nat}
    (known : ∀ row ∈ rows, id row < drawn) (fresh : id row = drawn) :
    ∀ other ∈ rows ++ [row], id other < drawn + 1 := by
  intro other member
  rcases List.mem_append.mp member with old | new
  · exact Nat.lt_succ_of_lt (known other old)
  · rw [List.mem_singleton.mp new, fresh]
    exact Nat.lt_succ_self _

section Publish

variable {current : AuthContext} {caseId : String} {input : VersionInput} {definitionHash : String}
  {latest : Nat} {tables after : TestTables}

theorem publish_ok {created : Option Nat}
    (result : publish current caseId input definitionHash latest tables = .ok (after, created)) :
    (after = tables ∧ created = none) ∨
    ∃ testCase ∈ tables.cases, claimable current caseId latest testCase = true ∧
      (∀ row ∈ tables.versions, row.caseId = caseId → row.version ≠ latest + 1) ∧
      created = some tables.drawn ∧
      after = { tables with
        drawn := tables.drawn + 1
        cases := updateWhere (claimable current caseId latest) (claimed (latest + 1)) tables.cases
        versions := tables.versions ++
          [newVersion current caseId input definitionHash (latest + 1) tables.drawn] } := by
  unfold publish at result
  split at result
  · simp only [Except.ok.injEq, Prod.mk.injEq] at result
    exact .inl ⟨result.1.symm, result.2.symm⟩
  · split at result
    · simp only [Except.ok.injEq, Prod.mk.injEq] at result
      exact .inl ⟨result.1.symm, result.2.symm⟩
    · rename_i present
      simp only [Bool.not_eq_true', Bool.not_eq_false, List.any_eq_true] at present
      split at result
      · cases result
      · rename_i free
        simp only [Except.ok.injEq, Prod.mk.injEq] at result
        obtain ⟨testCase, member, here⟩ := present
        refine .inr ⟨testCase, member, here, ?_, result.2.symm, result.1.symm⟩
        intro row member same number
        exact free (List.any_eq_true.mpr ⟨row, member, by simp [same, number]⟩)

theorem publish_error {failure : Failure}
    (result : publish current caseId input definitionHash latest tables = .error failure) :
    ∃ testCase ∈ tables.cases, claimable current caseId latest testCase = true ∧
      ∃ row ∈ tables.versions, row.caseId = caseId ∧ row.version = latest + 1 := by
  unfold publish at result
  split at result
  · cases result
  · split at result
    · cases result
    · rename_i present
      simp only [Bool.not_eq_true', Bool.not_eq_false, List.any_eq_true] at present
      obtain ⟨testCase, member, here⟩ := present
      split at result
      · rename_i taken
        obtain ⟨row, stored, same⟩ := List.any_eq_true.mp taken
        simp only [Bool.and_eq_true, beq_iff_eq] at same
        exact ⟨testCase, member, here, row, stored, same⟩
      · cases result

theorem claimable_iff {row : TestCase} : claimable current caseId latest row = true ↔
    row.id = caseId ∧ row.latestVersionNumber = latest ∧ row.teamId = current.teamId := by
  simp [claimable, and_assoc]

/-- The database never refuses the next number. -/
theorem publish_accepted (lawful : VersionsLawful sha256Json tables.cases tables.versions
    tables.drawn) {failure : Failure} :
    publish current caseId input definitionHash latest tables ≠ .error failure := by
  intro result
  obtain ⟨testCase, member, here, row, stored, same, number⟩ := publish_error result
  obtain ⟨id, read, -⟩ := claimable_iff.mp here
  obtain ⟨other, member', id', -, -, bound⟩ := lawful.numbered row stored
  have one := row_unique lawful.caseIds member' member (by rw [id', same, id])
  rw [one, read, number] at bound
  omega

theorem mem_claimed {cases : List TestCase} {row : TestCase}
    (member : row ∈ updateWhere (claimable current caseId latest) (claimed (latest + 1)) cases) :
    ∃ old ∈ cases, row.id = old.id ∧ row.teamId = old.teamId ∧
      (row = old ∨ (old.id = caseId ∧ old.latestVersionNumber = latest ∧
        row.latestVersionNumber = latest + 1)) := by
  obtain ⟨old, present, rfl⟩ := List.mem_map.mp member
  refine ⟨old, present, ?_⟩
  split
  · rename_i here
    obtain ⟨id, read, -⟩ := claimable_iff.mp here
    exact ⟨rfl, rfl, .inr ⟨id, read, rfl⟩⟩
  · exact ⟨rfl, rfl, .inl rfl⟩

theorem claimed_mem {cases : List TestCase} {old : TestCase} (member : old ∈ cases) :
    ∃ row ∈ updateWhere (claimable current caseId latest) (claimed (latest + 1)) cases,
      row.id = old.id ∧ row.teamId = old.teamId ∧
        old.latestVersionNumber ≤ row.latestVersionNumber ∧
        (claimable current caseId latest old = true → row.latestVersionNumber = latest + 1) := by
  refine ⟨_, List.mem_map_of_mem member, ?_⟩
  split
  · rename_i here
    obtain ⟨-, read, -⟩ := claimable_iff.mp here
    exact ⟨rfl, rfl, by rw [read]; exact Nat.le_succ _, fun _ => rfl⟩
  · exact ⟨rfl, rfl, Nat.le_refl _, fun here => absurd here ‹_›⟩

theorem published_lawful
    (lawful : VersionsLawful sha256Json tables.cases tables.versions tables.drawn)
    {testCase : TestCase} (member : testCase ∈ tables.cases)
    (here : claimable current caseId latest testCase = true)
    (free : ∀ row ∈ tables.versions, row.caseId = caseId → row.version ≠ latest + 1)
    (hashed : definitionHash = sha256Json input.definition)
    (other : ∀ row ∈ tables.versions, row.caseId = caseId → row.version = latest →
      row.definitionSha256 ≠ definitionHash) :
    VersionsLawful sha256Json
      (updateWhere (claimable current caseId latest) (claimed (latest + 1)) tables.cases)
      (tables.versions ++
        [newVersion current caseId input definitionHash (latest + 1) tables.drawn])
      (tables.drawn + 1) := by
  obtain ⟨id, read, team⟩ := claimable_iff.mp here
  have fits : ∀ row ∈ tables.versions, row.caseId = caseId → row.version ≤ latest := by
    intro row stored same
    obtain ⟨owner, present, owned, -, -, bound⟩ := lawful.numbered row stored
    have one := row_unique lawful.caseIds present member (by rw [owned, same, id])
    rwa [one, read] at bound
  refine ⟨?_, known_append lawful.known rfl, ids_append lawful.known lawful.ids rfl, ?_, ?_, ?_,
    ?_, ?_⟩
  · have keeps : ∀ row, (claimed (latest + 1) row).id = row.id := fun _ => rfl
    rw [keys_updateWhere keeps]
    exact lawful.caseIds
  · rw [List.map_append, List.map_singleton]
    refine List.nodup_append.mpr ⟨lawful.once, by simp, ?_⟩
    intro key stored key' new same
    obtain ⟨row, present, rfl⟩ := List.mem_map.mp stored
    rw [List.mem_singleton.mp new] at same
    exact free row present (congrArg Prod.fst same) (congrArg Prod.snd same)
  · intro row stored
    rcases List.mem_append.mp stored with old | new
    · obtain ⟨owner, present, owned, same, low, bound⟩ := lawful.numbered row old
      obtain ⟨next, there, id', team', onward, -⟩ := claimed_mem present
      exact ⟨next, there, id'.trans owned, team'.trans same, low, Nat.le_trans bound onward⟩
    · rw [List.mem_singleton.mp new]
      obtain ⟨next, there, id', team', -, number⟩ := claimed_mem member
      exact ⟨next, there, id'.trans id, team'.trans team, Nat.le_add_left ..,
        Nat.le_of_eq (number here).symm⟩
  · intro owner present number low bound
    obtain ⟨old, known, id', -, same | ⟨at', read', now⟩⟩ := mem_claimed present
    · subst same
      obtain ⟨row, stored, found⟩ := lawful.complete owner known number low bound
      exact ⟨row, List.mem_append_left _ stored, found⟩
    · rw [now] at bound
      rcases Nat.lt_or_eq_of_le bound with small | last
      · obtain ⟨row, stored, found, same⟩ := lawful.complete old known number low
          (by rw [read']; omega)
        exact ⟨row, List.mem_append_left _ stored, by rw [found, id'], same⟩
      · refine ⟨_, List.mem_append_right _ (List.mem_singleton_self _), ?_, last.symm⟩
        exact (id'.trans at').symm
  · intro row stored
    rcases List.mem_append.mp stored with old | new
    · exact lawful.hashed row old
    · rw [List.mem_singleton.mp new]
      exact hashed
  · intro row stored next stored' same number
    rcases List.mem_append.mp stored with old | new
    · rcases List.mem_append.mp stored' with old' | new'
      · exact lawful.different row old next old' same number
      · rw [List.mem_singleton.mp new'] at same number ⊢
        have last : row.version = latest := by
          have : latest + 1 = row.version + 1 := number
          omega
        exact (other row old same.symm last).symm
    · rw [List.mem_singleton.mp new] at same number
      rcases List.mem_append.mp stored' with old' | new'
      · have bound := fits next old' same
        have number : next.version = latest + 1 + 1 := number
        omega
      · rw [List.mem_singleton.mp new'] at number
        have number : latest + 1 = latest + 1 + 1 := number
        omega

end Publish

theorem validateLineage_ok {row : TestRun} {tables : TestTables}
    (valid : validateLineage row tables = .ok ()) :
    ∃ version ∈ tables.versions, version.id = row.caseVersionId ∧ version.caseId = row.caseId ∧
      version.teamId = row.teamId := by
  unfold validateLineage at valid
  obtain ⟨_, -, rest⟩ := bind_ok.mp valid
  obtain ⟨_, passed, -⟩ := bind_ok.mp rest
  have present := throwIf_ok.mp passed
  simp only [Bool.not_eq_false', List.any_eq_true, Bool.and_eq_true, beq_iff_eq] at present
  obtain ⟨version, member, ⟨id, owned⟩, team⟩ := present
  exact ⟨version, member, id, owned, team⟩

theorem insertRun_ok {row : Nat → TestRun} {tables after : TestTables} {created : Option Nat}
    (result : insertRun row tables = .ok (after, created)) :
    (after = tables ∧ created = none) ∨
    (validateLineage (row tables.drawn) tables = .ok () ∧ created = some tables.drawn ∧
      ((row tables.drawn).idempotencyKey.isSome = true → ∀ other ∈ tables.runs,
        other.teamId = (row tables.drawn).teamId →
        other.idempotencyKey ≠ (row tables.drawn).idempotencyKey) ∧
      after = { tables with
        drawn := tables.drawn + 1, runs := tables.runs ++ [row tables.drawn] }) := by
  unfold insertRun at result
  obtain ⟨_, valid, rest⟩ := bind_ok.mp result
  split at rest
  · simp only [pure, Except.pure, Except.ok.injEq, Prod.mk.injEq] at rest
    exact .inl ⟨rest.1.symm, rest.2.symm⟩
  · rename_i free
    simp only [pure, Except.pure, Except.ok.injEq, Prod.mk.injEq] at rest
    refine .inr ⟨valid, rest.2.symm, ?_, rest.1.symm⟩
    intro keyed other member team same
    apply free
    rw [keyed, Bool.true_and, List.any_eq_true]
    exact ⟨other, member, by simp [team, same]⟩

theorem inserted_lawful {tables : TestTables} (row : TestRun)
    (lawful : RunsLawful tables.versions tables.runs tables.drawn) (fresh : row.id = tables.drawn)
    (free : row.idempotencyKey.isSome = true → ∀ other ∈ tables.runs, other.teamId = row.teamId →
      other.idempotencyKey ≠ row.idempotencyKey)
    (pinned : ∃ version ∈ tables.versions, Pins row version) :
    RunsLawful tables.versions (tables.runs ++ [row]) (tables.drawn + 1) := by
  refine ⟨known_append lawful.known fresh, ids_append lawful.known lawful.ids fresh, ?_, ?_⟩
  · intro first member second member' team keyed same
    rcases List.mem_append.mp member with old | new
    · rcases List.mem_append.mp member' with old' | new'
      · exact lawful.keys first old second old' team keyed same
      · rw [List.mem_singleton.mp new'] at team same
        exact absurd same (free (same ▸ keyed) first old team)
    · rw [List.mem_singleton.mp new] at team keyed same ⊢
      rcases List.mem_append.mp member' with old' | new'
      · exact absurd same.symm (free keyed second old' team.symm)
      · exact (List.mem_singleton.mp new').symm
  · intro run member
    rcases List.mem_append.mp member with old | new
    · exact lawful.pinned run old
    · rw [List.mem_singleton.mp new]
      exact pinned

theorem settled_rows {allowed : TestRunHumanCheckpoint → Bool}
    {write : TestRunHumanCheckpoint → TestRunHumanCheckpoint}
    (pending : ∀ row, allowed row = true → row.status = .pending)
    (keeps : ∀ row, (write row).id = row.id ∧ (write row).runId = row.runId ∧
      (write row).teamId = row.teamId) (checkpoints : List TestRunHumanCheckpoint) :
    Persists TestRunHumanCheckpoint.id Settles checkpoints
      (updateWhere allowed write checkpoints) := by
  refine persists_updateWhere (fun row => (keeps row).1) (fun row _ => settles_refl row) ?_
  intro row _ here
  exact ⟨(keeps row).2.1, (keeps row).2.2, fun ended => absurd (pending row here) ended⟩

theorem checkpoints_updateWhere {tables : TestTables} {allowed : TestRunHumanCheckpoint → Bool}
    {write : TestRunHumanCheckpoint → TestRunHumanCheckpoint} (lawful : Lawful sha256Json tables)
    (pending : ∀ row, allowed row = true → row.status = .pending)
    (keeps : ∀ row, (write row).id = row.id ∧ (write row).runId = row.runId ∧
      (write row).teamId = row.teamId) :
    Lawful sha256Json { tables with
        checkpoints := updateWhere allowed write tables.checkpoints } ∧
      Later tables { tables with
        checkpoints := updateWhere allowed write tables.checkpoints } := by
  refine ⟨⟨lawful.versions, lawful.runs, ?_, ?_⟩, Nat.le_refl _, fun _ member => member,
    fun _ member => member, settled_rows pending keeps _⟩
  · intro row member
    obtain ⟨old, present, rfl⟩ := List.mem_map.mp member
    have bound := lawful.checkpoints.known old present
    split
    · rw [(keeps old).1]
      exact bound
    · exact bound
  · rw [keys_updateWhere fun row => (keeps row).1]
    exact lawful.checkpoints.ids

theorem expire_lawful {tables : TestTables} (lawful : Lawful sha256Json tables)
    (checkpointId : Nat) :
    Lawful sha256Json (expire checkpointId tables) ∧ Later tables (expire checkpointId tables) :=
  checkpoints_updateWhere lawful (by simp) (by intro row; exact ⟨rfl, rfl, rfl⟩)

theorem resolve_lawful {tables : TestTables} (lawful : Lawful sha256Json tables)
    (current : AuthContext) (checkpointId : Nat) (response : Json) (resolvedAt : Int) :
    Lawful sha256Json (resolve current checkpointId response resolvedAt tables).1 ∧
      Later tables (resolve current checkpointId response resolvedAt tables).1 :=
  checkpoints_updateWhere lawful (by simp +contextual [resolvable]) (by intro row; exact ⟨rfl, rfl, rfl⟩)

theorem resolve_found (tables : TestTables) (current : AuthContext) (checkpointId : Nat)
    (response : Json) (resolvedAt : Int)
    (updated : (resolve current checkpointId response resolvedAt tables).2 = true) :
    ∃ row ∈ (resolve current checkpointId response resolvedAt tables).1.checkpoints,
      row.id = checkpointId ∧ row.status = .resolved ∧
        row.resolvedByUserId = some current.userId ∧ row.response = some response := by
  obtain ⟨old, member, here⟩ := List.any_eq_true.mp updated
  refine ⟨_, List.mem_map_of_mem member, ?_⟩
  simp only [here, ↓reduceIte, resolved]
  simp only [resolvable, Bool.and_eq_true, beq_iff_eq] at here
  exact ⟨here.1.1, trivial, trivial, trivial⟩

variable (sha256Json) in
def Done : Call → Except Failure Answer → TestTables → Prop
  | .createCaseVersion current caseId input, result, tables =>
      result ≠ .error .uniqueConstraint ∧ ∀ answer, result = .ok answer →
        ∃ row ∈ tables.versions, answer = .version row ∧ row.caseId = caseId ∧
          row.teamId = current.teamId ∧ row.definition = input.definition ∧
          row.definitionSha256 = sha256Json input.definition ∧
          row.createdByUserId = current.userId
  | .createRun current input, result, tables => ∀ answer, result = .ok answer →
      ∃ row ∈ tables.runs, answer = .run row ∧ row.teamId = current.teamId ∧
        row.idempotencyKey = input.idempotencyKey ∧
        (input.idempotencyKey = none → row.caseId = input.caseId ∧
          row.environmentId = input.environmentId ∧ row.requestedByUserId = current.userId)
  | .createCheckpoint .., _, _ => True
  | .resolveCheckpoint current _ checkpointId response, result, tables =>
      ∀ answer, result = .ok answer → ∃ row ∈ tables.checkpoints, answer = .checkpoint row ∧
        row.id = checkpointId ∧ row.status = .resolved ∧
        row.resolvedByUserId = some current.userId ∧ row.response = some response

theorem done_stable {call : Call} {result : Except Failure Answer} {first second : TestTables}
    (onward : Later first second) (done : Done sha256Json call result first) : Done sha256Json call result second := by
  cases call with
  | createCaseVersion current caseId input =>
      refine ⟨done.1, fun answer accepted => ?_⟩
      obtain ⟨row, member, rest⟩ := done.2 answer accepted
      exact ⟨row, onward.versions row member, rest⟩
  | createRun current input =>
      intro answer accepted
      obtain ⟨row, member, rest⟩ := done answer accepted
      exact ⟨row, onward.runs row member, rest⟩
  | createCheckpoint teamId runId input => trivial
  | resolveCheckpoint current runId checkpointId response =>
      intro answer accepted
      obtain ⟨row, member, same, id, settled, rest⟩ := done answer accepted
      obtain ⟨next, present, -, -, -, kept⟩ := onward.checkpoints row member
      have unchanged := kept (by rw [settled]; decide)
      exact ⟨row, unchanged ▸ present, same, id, settled, rest⟩

section Obeys

open Program

variable {state : TestTables} {current : AuthContext}

theorem obeys_refuse {done : Except Failure Answer → TestTables → Prop} {failure : Failure}
    (refused : done (.error failure) state) :
    (refuse failure).Obeys (Lawful sha256Json) Later done state := refused

theorem obeys_record {done : Except Failure Answer → TestTables → Prop}
    {action entityType : String} {entityId : Nat} {rest : Request}
    (next : ∀ after, Later state after → Lawful sha256Json after →
      rest.Obeys (Lawful sha256Json) Later done after) :
    (record current action entityType entityId rest).Obeys (Lawful sha256Json) Later done state := by
  refine obeys_commit Later.refl ?_ fun _ _ _ _ failed => by cases failed
  rintro now after value onward lawful ⟨⟩
  have further : ∀ audits, Later now { now with audits } := fun audits =>
    ⟨Nat.le_refl _, fun _ member => member, fun _ member => member,
      persists_refl fun row _ => settles_refl row⟩
  have lawful' : ∀ audits, Lawful sha256Json { now with audits } := fun audits =>
    ⟨lawful.versions, lawful.runs, lawful.checkpoints⟩
  exact ⟨lawful' _, further _, next _ (onward.trans (further _)) (lawful' _)⟩

theorem obeys_versionCreated {caseId : String} {input : VersionInput} (row : TestCaseVersion)
    (member : row ∈ state.versions) (owned : row.caseId = caseId)
    (team : row.teamId = current.teamId) (definition : row.definition = input.definition)
    (creator : row.createdByUserId = current.userId) :
    (versionCreated current row.id).Obeys (Lawful sha256Json) Later
      (Done sha256Json (.createCaseVersion current caseId input)) state := by
  refine obeys_record fun saved onward _ => ?_
  refine obeys_read Later.refl fun now further lawful => ?_
  have present : row ∈ now.versions := further.versions row (onward.versions row member)
  cases found : findVersionById row.id now with
  | none =>
      show Done sha256Json (.createCaseVersion current caseId input) (.error _) now
      exact ⟨nofun, by rintro answer ⟨⟩⟩
  | some other =>
      unfold findVersionById at found
      have stored := List.mem_of_find?_eq_some found
      have same := List.find?_some found
      rw [beq_iff_eq] at same
      have one := row_unique lawful.versions.ids stored present same
      show Done sha256Json (.createCaseVersion current caseId input) (.ok (.version other)) now
      refine ⟨nofun, ?_⟩
      rintro _ ⟨⟩
      refine ⟨other, stored, rfl, ?_⟩
      rw [one]
      exact ⟨owned, team, definition,
        (lawful.versions.hashed row present).trans (by rw [definition]), creator⟩

theorem obeys_versionAttempts (caseId : String) (input : VersionInput) (attempts : Nat)
    (state : TestTables) :
    (versionAttempts sha256Json current caseId input attempts).Obeys (Lawful sha256Json) Later
      (Done sha256Json (.createCaseVersion current caseId input)) state := by
  have refused : ∀ {message : Failure} {tables : TestTables}, message ≠ .uniqueConstraint →
      (refuse message).Obeys (Lawful sha256Json) Later
        (Done sha256Json (.createCaseVersion current caseId input)) tables := by
    intro message tables other
    refine obeys_refuse ⟨fun same => ?_, fun _ accepted => by cases accepted⟩
    exact other (Except.error.inj same)
  induction attempts generalizing state with
  | zero => exact refused (by decide)
  | succ attempts ih =>
      refine obeys_read Later.refl fun now _ lawful => ?_
      cases found : findCase current.teamId caseId now with
      | none => exact refused (by decide)
      | some testCase =>
          have member := List.mem_of_find?_eq_some found
          have here := List.find?_some found
          simp only [Bool.and_eq_true, beq_iff_eq] at here
          dsimp only
          split
          · exact refused (by decide)
          · refine obeys_read Later.refl fun then' onward lawful' => ?_
            split
            · exact refused (by decide)
            · rename_i other
              refine obeys_commit Later.refl ?_ ?_
              · intro last after created further lawful'' result
                rcases publish_ok result with ⟨same, none⟩ | ⟨owner, known, fits, free, some, same⟩
                · subst same none
                  exact ⟨lawful'', Later.refl _, ih _⟩
                · subst same some
                  -- The version that was compared is the one before the new number.
                  have before : ∀ row ∈ last.versions, row.caseId = caseId →
                      row.version = testCase.latestVersionNumber →
                      row.definitionSha256 ≠ sha256Json input.definition := by
                    intro row stored owned number
                    obtain ⟨-, -, -, -, low, -⟩ := lawful''.versions.numbered row stored
                    obtain ⟨old, present, owned', number'⟩ := lawful.versions.complete testCase
                      member row.version low (Nat.le_of_eq number)
                    have stored' := further.versions old (onward.versions old present)
                    have one : row = old := row_unique lawful''.versions.once stored stored' (by
                      rw [owned, number', owned', here.1])
                    subst one
                    intro hashed
                    apply other
                    have compared : findLatest testCase then' = some row := by
                      have exists' := onward.versions row present
                      unfold findLatest
                      rw [if_neg (by omega)]
                      unfold findVersion
                      cases search : then'.versions.find? _ with
                      | none =>
                          have missing := List.find?_eq_none.mp search row exists'
                          simp [owned', number] at missing
                      | some match' =>
                          have at' := List.find?_some search
                          simp only [Bool.and_eq_true, beq_iff_eq] at at'
                          rw [row_unique lawful'.versions.once
                            (List.mem_of_find?_eq_some search) exists'
                            (by rw [at'.1, at'.2, owned', number])]
                    rw [compared]
                    simp [hashed]
                  have published := published_lawful lawful''.versions known fits free rfl before
                  refine ⟨⟨published, lawful''.runs.mono (Nat.le_succ _) fun row member =>
                    List.mem_append_left _ member, lawful''.checkpoints.mono (Nat.le_succ _)⟩,
                    ⟨Nat.le_succ _, fun row member => List.mem_append_left _ member,
                      fun row member => member, persists_refl fun row _ => settles_refl row⟩, ?_⟩
                  exact obeys_versionCreated
                    (newVersion current caseId input _ _ last.drawn)
                    (List.mem_append_right _ (List.mem_singleton_self _)) rfl rfl rfl rfl
              · intro last failure _ lawful'' failed
                exact absurd failed (publish_accepted lawful''.versions)

end Obeys

end Requests

end TestData

end Devproof
