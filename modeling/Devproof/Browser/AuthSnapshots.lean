import Devproof.Lib.Json
import Devproof.Lib.PublishOnce

/-!
Authentication snapshots of a profile (`auth-snapshots.ts`) and their encrypted
envelopes (`distributed-auth-snapshots.ts`): one file for each generation, that
concurrent publishers create at most once.
-/

namespace Devproof

namespace AuthSnapshots

open PublishOnce

structure AuthSnapshotReference where
  profileKey : String
  generation : Nat
  deriving Repr, DecidableEq

def isLetterOrDigit (char : Char) : Bool :=
  ('a' ≤ char && char ≤ 'z') || ('A' ≤ char && char ≤ 'Z') || ('0' ≤ char && char ≤ '9')

def AuthSnapshotReference.valid (reference : AuthSnapshotReference) : Bool :=
  (match reference.profileKey.toList with
    | first :: rest => isLetterOrDigit first && rest.length < 160 &&
        rest.all fun char => isLetterOrDigit char || char == '.' || char == '_' || char == '-'
    | [] => false) &&
    1 ≤ reference.generation && reference.generation < 2 ^ 53

structure StorageState where
  cookies : List Json
  origins : List Json

structure SnapshotFile where
  schemaVersion : Nat
  profileKey : String
  generation : Nat
  createdAt : String
  checksum : String
  /-- Missing, or without the two lists. -/
  state : Option StorageState

abbrev StoredFile := Option SnapshotFile

structure SnapshotMetadata where
  profileKey : String
  generation : Nat
  createdAt : String
  cookiesCount : Nat
  originsCount : Nat
  deriving Repr, DecidableEq

inductive Failure where
  | invalidReference
  /-- `AUTH_SNAPSHOT_MISSING` -/
  | missing
  /-- `AUTH_SNAPSHOT_INVALID`: "The authentication snapshot could not be loaded." -/
  | unloadable
  /-- `AUTH_SNAPSHOT_INVALID`: "The authentication snapshot is inconsistent." -/
  | inconsistent
  /-- `verify` throws. -/
  | rejected
  /-- "Snapshot generations are immutable." -/
  | immutable
  /-- "Invalid authentication snapshot." and the errors of the cipher. -/
  | undecryptable
  | oversized
  | disk
  deriving Repr, DecidableEq

def metadata (snapshot : SnapshotFile) (state : StorageState) : SnapshotMetadata :=
  { profileKey := snapshot.profileKey
    generation := snapshot.generation
    createdAt := snapshot.createdAt
    cookiesCount := state.cookies.length
    originsCount := state.origins.length }

section Snapshots

-- The hash of the JSON text of a state.
variable (sha256 : StorageState → String)

def readAuthSnapshot (reference : AuthSnapshotReference) (file : StoredFile) :
    Except Failure (StorageState × SnapshotMetadata) :=
  match file with
  | none => .error .unloadable
  | some snapshot =>
      match snapshot.state with
      | none => .error .inconsistent
      | some state =>
          if snapshot.schemaVersion ≠ 1 ∨ snapshot.profileKey ≠ reference.profileKey ∨
              snapshot.generation ≠ reference.generation ∨ snapshot.checksum ≠ sha256 state then
            .error .inconsistent
          else .ok (state, metadata snapshot state)

structure PublishCall where
  reference : AuthSnapshotReference
  /-- `context.storageState` -/
  state : StorageState
  verify : StorageState → Bool
  createdAt : String
  full : Option Failure

def newSnapshot (call : PublishCall) : SnapshotFile :=
  { schemaVersion := 1
    profileKey := call.reference.profileKey
    generation := call.reference.generation
    createdAt := call.createdAt
    checksum := sha256 call.state
    state := some call.state }

def publishAuthSnapshot (call : PublishCall) :
    Publication AuthSnapshotReference StoredFile Failure SnapshotMetadata :=
  { place := call.reference
    found := fun file => do
      throwIf (!call.reference.valid) .invalidReference
      let (state, metadata) ← readAuthSnapshot sha256 call.reference file
      throwIf (!call.verify state) .rejected
      return metadata
    make := do
      throwIf (!call.reference.valid) .invalidReference
      throwIf (!call.verify call.state) .rejected
      return some (newSnapshot sha256 call)
    full := call.full
    reread := fun file => do
      let (_, metadata) ← readAuthSnapshot sha256 call.reference file
      return metadata
    missing := .missing }

variable {sha256}

/-- A new file is consistent. -/
theorem read_newSnapshot (call : PublishCall) :
    readAuthSnapshot sha256 call.reference (some (newSnapshot sha256 call)) =
      .ok (call.state, metadata (newSnapshot sha256 call) call.state) := by
  simp [readAuthSnapshot, newSnapshot]

/-- Either answer is what the file says. -/
theorem answer_read {call : PublishCall} {file : StoredFile} {answer : SnapshotMetadata}
    (from' : (publishAuthSnapshot sha256 call).found file = .ok answer ∨
      (publishAuthSnapshot sha256 call).reread file = .ok answer) :
    ∃ state, readAuthSnapshot sha256 call.reference file = .ok (state, answer) := by
  rcases from' with found | reread
  · obtain ⟨_, -, rest⟩ := bind_ok.mp found
    obtain ⟨pair, read, rest⟩ := bind_ok.mp rest
    obtain ⟨_, -, last⟩ := bind_ok.mp rest
    cases last
    exact ⟨pair.1, read⟩
  · obtain ⟨pair, read, last⟩ := bind_ok.mp reread
    cases last
    exact ⟨pair.1, read⟩

theorem made_verified {call : PublishCall} {file : StoredFile}
    (made : (publishAuthSnapshot sha256 call).make = .ok file) :
    call.reference.valid = true ∧ call.verify call.state = true ∧
      file = some (newSnapshot sha256 call) := by
  obtain ⟨_, valid, rest⟩ := bind_ok.mp made
  obtain ⟨_, verified, last⟩ := bind_ok.mp rest
  cases last
  rw [throwIf_ok, Bool.not_eq_false'] at valid verified
  exact ⟨valid, verified, rfl⟩

variable (sha256) in
/-- In every state of every run of publishers, from any files: two of them that are answered for
    one generation have the same metadata; that is what the file of the generation says, which is
    there from then on; and a file that was not there before holds the state of one publisher of
    the run, which that publisher verified. -/
theorem snapshots_agree (start : AuthSnapshotReference → Option StoredFile)
    (moves : List (SystemMove PublishCall Empty)) :
    let system := arrival (steps (publishAuthSnapshot sha256)) moves (opened start)
    (∀ place place' call call' answer answer', system.Answered place call (.ok answer) →
      system.Answered place' call' (.ok answer') → call.reference = call'.reference →
      answer = answer') ∧
    (∀ place call answer, system.Answered place call (.ok answer) →
      ∃ file state, readAuthSnapshot sha256 call.reference file = .ok (state, answer) ∧
        ∀ further, (arrival (steps (publishAuthSnapshot sha256)) further system).shared.published
          call.reference = some file) ∧
    ∀ reference file, system.shared.published reference = some file →
      start reference = some file ∨
      (start reference = none ∧ ∃ call, SystemMove.start call ∈ moves ∧
        call.reference = reference ∧ call.verify call.state = true ∧
        readAuthSnapshot sha256 reference file =
          .ok (call.state, metadata (newSnapshot sha256 call) call.state)) := by
  intro system
  have orderly := reached_orderly (publishAuthSnapshot sha256) moves start
  have answered : ∀ {place call answer}, system.Answered place call (.ok answer) →
      ∃ file state, system.shared.published call.reference = some file ∧
        readAuthSnapshot sha256 call.reference file = .ok (state, answer) := by
    intro place call answer here
    obtain ⟨file, published, from'⟩ := orderly.answered here answer rfl
    obtain ⟨state, read⟩ := answer_read from'
    exact ⟨file, state, published, read⟩
  refine ⟨?_, ?_, ?_⟩
  · intro place place' call call' answer answer' first second same
    obtain ⟨file, state, published, read⟩ := answered first
    obtain ⟨file', state', published', read'⟩ := answered second
    rw [← same] at published' read'
    rw [Option.some.inj (published.symm.trans published'), read'] at read
    exact (congrArg Prod.snd (Except.ok.inj read)).symm
  · intro place call answer here
    obtain ⟨file, state, published, read⟩ := answered here
    exact ⟨file, state, read, fun further =>
      published_stays (publishAuthSnapshot sha256) moves start further published⟩
  · intro reference file published
    rcases orderly.shared.provided reference file published with old | ⟨free, call, started, rfl, made⟩
    · exact .inl old
    · obtain ⟨-, verified, rfl⟩ := made_verified made
      exact .inr ⟨free, call, started, rfl, verified, read_newSnapshot call⟩

end Snapshots

/-! `prepareSnapshotEnvelope`. -/

section Envelopes

variable {Snapshot Iv : Type} (encryptSnapshot : Snapshot → AuthSnapshotReference → Iv →
    Except Failure String) (decryptSnapshot : String → AuthSnapshotReference →
    Except Failure Snapshot) (isDeepStrictEqual : Snapshot → Snapshot → Bool)

structure EnvelopeCall (Snapshot Iv : Type) where
  reference : AuthSnapshotReference
  snapshot : Snapshot
  /-- `randomBytes(12)` -/
  iv : Iv
  full : Option Failure

def readEnvelope (call : EnvelopeCall Snapshot Iv) (envelope : String) : Except Failure String := do
  throwIf (!call.reference.valid) .invalidReference
  let value ← decryptSnapshot envelope call.reference
  throwIf (!isDeepStrictEqual value call.snapshot) .immutable
  return envelope

def prepareSnapshotEnvelope (call : EnvelopeCall Snapshot Iv) :
    Publication AuthSnapshotReference String Failure String :=
  { place := call.reference
    found := readEnvelope decryptSnapshot isDeepStrictEqual call
    make := do
      throwIf (!call.reference.valid) .invalidReference
      encryptSnapshot call.snapshot call.reference call.iv
    full := call.full
    reread := readEnvelope decryptSnapshot isDeepStrictEqual call
    missing := .missing }

variable {decryptSnapshot isDeepStrictEqual}

theorem readEnvelope_ok {call : EnvelopeCall Snapshot Iv} {envelope answer : String}
    (read : readEnvelope decryptSnapshot isDeepStrictEqual call envelope = .ok answer) :
    answer = envelope ∧ ∃ value, decryptSnapshot envelope call.reference = .ok value ∧
      isDeepStrictEqual value call.snapshot = true := by
  obtain ⟨_, -, rest⟩ := bind_ok.mp read
  obtain ⟨value, decrypted, rest⟩ := bind_ok.mp rest
  obtain ⟨_, same, last⟩ := bind_ok.mp rest
  rw [throwIf_ok, Bool.not_eq_false'] at same
  cases last
  exact ⟨rfl, value, decrypted, same⟩

variable (decryptSnapshot isDeepStrictEqual) in
/-- In every state of every run, from any files: those that are answered for one generation have
    one envelope, so that one initialization vector leaves for it; and each of them asked to
    publish what that envelope decrypts to. -/
theorem envelopes_agree (start : AuthSnapshotReference → Option String)
    (moves : List (SystemMove (EnvelopeCall Snapshot Iv) Empty)) :
    let prepare := prepareSnapshotEnvelope encryptSnapshot decryptSnapshot isDeepStrictEqual
    let system := arrival (steps prepare) moves (opened start)
    (∀ place place' call call' answer answer', system.Answered place call (.ok answer) →
      system.Answered place' call' (.ok answer') → call.reference = call'.reference →
      answer = answer' ∧ ∃ value, decryptSnapshot answer call.reference = .ok value ∧
        isDeepStrictEqual value call.snapshot = true ∧
        isDeepStrictEqual value call'.snapshot = true) ∧
    ∀ place call answer, system.Answered place call (.ok answer) →
      (∀ further, (arrival (steps prepare) further system).shared.published call.reference =
        some answer) ∧
      (start call.reference = some answer ∨ ∃ author, SystemMove.start author ∈ moves ∧
        author.reference = call.reference ∧
        encryptSnapshot author.snapshot author.reference author.iv = .ok answer) := by
  intro prepare system
  have orderly := reached_orderly prepare moves start
  have answered : ∀ {place call answer}, system.Answered place call (.ok answer) →
      system.shared.published call.reference = some answer ∧
        ∃ value, decryptSnapshot answer call.reference = .ok value ∧
          isDeepStrictEqual value call.snapshot = true := by
    intro place call answer here
    obtain ⟨file, published, from'⟩ := orderly.answered here answer rfl
    obtain ⟨rfl, rest⟩ := readEnvelope_ok (from'.elim id id)
    exact ⟨published, rest⟩
  refine ⟨?_, ?_⟩
  · intro place place' call call' answer answer' first second same
    obtain ⟨published, value, decrypted, equal⟩ := answered first
    obtain ⟨published', value', decrypted', equal'⟩ := answered second
    rw [← same] at published' decrypted'
    obtain rfl := Option.some.inj (published.symm.trans published')
    obtain rfl := Except.ok.inj (decrypted.symm.trans decrypted')
    exact ⟨rfl, value, decrypted, equal, equal'⟩
  · intro place call answer here
    obtain ⟨published, -⟩ := answered here
    refine ⟨fun further => published_stays prepare moves start further published, ?_⟩
    rcases orderly.shared.provided _ _ published with old | ⟨-, author, started, same, made⟩
    · exact .inl old
    · obtain ⟨_, -, encrypted⟩ := bind_ok.mp made
      exact .inr ⟨author, started, same, encrypted⟩

end Envelopes

end AuthSnapshots

end Devproof
