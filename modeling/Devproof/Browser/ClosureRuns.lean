import Mathlib.Logic.Function.Basic
import Devproof.Browser.ClosureJournal

/-!
Runs of the closure journal across daemon restarts: nothing a record states is
ever taken back, a session launches at most once, and a daemon answers a
repeated challenge with the proof it gave before.
-/

namespace Devproof

inductive Interruption where
  | uninterrupted
  | beforeRename
  | afterRename
  deriving Repr, DecidableEq

structure ClosureMove where
  call : ClosureCall
  interruption : Interruption := .uninterrupted
  deriving Repr, DecidableEq

abbrev ClosureFiles : Type := String → Option ClosureRecord

abbrev ClosureEntry : Type := ClosureMove × ClosureFiles

namespace ClosureMove

variable (host : Host)

def store (move : ClosureMove) (transaction : Transaction) (files : ClosureFiles) :
    ClosureFiles :=
  match transaction.written, move.interruption with
  | none, _ => files
  | some _, .beforeRename => files
  | some record, _ => Function.update files move.call.sessionId (some record)

def step (move : ClosureMove) (files : ClosureFiles) : Outcome ClosureFiles ClosureError :=
  match ClosureJournal.perform host move.call (files move.call.sessionId) with
  | .error failure => .failed files failure
  | .ok transaction => .done (move.store transaction files)

end ClosureMove

section Runs

variable (host : Host)

def answered (entry : ClosureEntry) : Option ClosureAnswer :=
  match entry.1.interruption with
  | .uninterrupted =>
      (ClosureJournal.perform host entry.1.call
        (entry.2 entry.1.call.sessionId)).toOption.map Transaction.answer
  | _ => none

def AllWellFormed (files : ClosureFiles) : Prop :=
  ∀ sessionId record, files sessionId = some record →
    ClosureJournal.WellFormed host sessionId record

def FilesKept (before after : ClosureFiles) : Prop :=
  ∀ sessionId, ClosureJournal.FileKept (before sessionId) (after sessionId)

variable {host}

theorem filesKept_trans (first second third : ClosureFiles) (before : FilesKept first second)
    (after : FilesKept second third) : FilesKept first third :=
  fun sessionId => (before sessionId).trans (after sessionId)

theorem step_files (move : ClosureMove) (files : ClosureFiles) :
    (move.step host files).state = files ∨
      ∃ transaction written,
        ClosureJournal.perform host move.call (files move.call.sessionId) = .ok transaction ∧
        transaction.written = some written ∧
        (move.step host files).state =
          Function.update files move.call.sessionId (some written) := by
  unfold ClosureMove.step
  cases performed : ClosureJournal.perform host move.call (files move.call.sessionId) with
  | error failure => exact Or.inl rfl
  | ok transaction =>
      simp only [Outcome.done_state, ClosureMove.store]
      split
      · exact Or.inl rfl
      · exact Or.inl rfl
      · rename_i written writes _
        exact Or.inr ⟨transaction, written, rfl, writes, rfl⟩

theorem step_wellFormed (move : ClosureMove) {files : ClosureFiles}
    (wellFormed : AllWellFormed host files) :
    AllWellFormed host (move.step host files).state := by
  rcases @step_files host move files with
    same | ⟨transaction, written, performed, writes, same⟩
  · rw [same]
    exact wellFormed
  · rw [same]
    intro sessionId record found
    by_cases mine : sessionId = move.call.sessionId
    · subst mine
      rw [Function.update_self, Option.some.injEq] at found
      rw [← found]
      exact ClosureJournal.effect_wellFormed (ClosureJournal.perform_effect performed) writes
        (wellFormed _)
    · rw [Function.update_of_ne mine] at found
      exact wellFormed sessionId record found

theorem step_kept (move : ClosureMove) {files : ClosureFiles}
    (wellFormed : AllWellFormed host files) : FilesKept files (move.step host files).state := by
  intro sessionId
  rcases @step_files host move files with
    same | ⟨transaction, written, performed, writes, same⟩
  · rw [same]
    exact ClosureJournal.FileKept.refl _
  · rw [same]
    by_cases mine : sessionId = move.call.sessionId
    · subst mine
      rw [Function.update_self]
      exact ClosureJournal.effect_kept (ClosureJournal.perform_effect performed) writes
        (wellFormed _)
    · rw [Function.update_of_ne mine]
      exact ClosureJournal.FileKept.refl _

theorem empty_wellFormed : AllWellFormed host fun _ => none := by
  intro sessionId record found
  simp at found

theorem path_wellFormed {start finish : ClosureFiles} {made : List ClosureEntry}
    (path : Path (ClosureMove.step host) start made finish) (wellFormed : AllWellFormed host start) :
    AllWellFormed host finish ∧ ∀ entry ∈ made, AllWellFormed host entry.2 :=
  path.invariant (AllWellFormed host) wellFormed fun entry _ held => step_wellFormed entry.1 held

theorem path_kept {start finish : ClosureFiles} {made : List ClosureEntry}
    (path : Path (ClosureMove.step host) start made finish) (wellFormed : AllWellFormed host start) :
    (statesOf made finish).Pairwise FilesKept :=
  path.ordered FilesKept filesKept_trans fun entry member =>
    step_kept entry.1 ((path_wellFormed path wellFormed).2 entry member)

theorem path_kept_after {start finish : ClosureFiles} {first later : List ClosureEntry}
    {entry : ClosureEntry} (path : Path (ClosureMove.step host) start (first ++ entry :: later) finish)
    (wellFormed : AllWellFormed host start) :
    ∀ repeated ∈ later, FilesKept (entry.1.step host entry.2).state repeated.2 := by
  intro repeated member
  obtain ⟨middle, before, onward⟩ := path.split
  cases onward with
  | move move tail =>
      have shape : AllWellFormed host (move.step host middle).state :=
        step_wellFormed move (path_wellFormed before wellFormed).1
      cases tail with
      | stop => simp at member
      | move following rest =>
          have ordered := path_kept (Path.move following rest) shape
          rcases List.mem_cons.mp member with same | further
          · rw [same]
            exact fun sessionId => ClosureJournal.FileKept.refl _
          · refine (List.pairwise_cons.mp ordered).1 repeated.2 ?_
            exact List.mem_append_left _ (List.mem_map_of_mem further)

open ClosureJournal

theorem answered_row {entry : ClosureEntry} {request : RuntimeClosureRecovery}
    {identity : RuntimeProcessIdentity} {uuid : String} {proof : RuntimeClosureEvidence}
    (call : entry.1.call = .evidence request identity uuid)
    (gave : answered host entry = some (.proof proof)) :
    isSessionPath request.sessionId = true ∧ ∃ record closed launch,
      (entry.1.step host entry.2).state request.sessionId = some record ∧
      Challenged request identity record closed launch ∧
      record.evidence.find? (answers request identity) = some proof ∧
      proof.recoveryId = request.recoveryId := by
  obtain ⟨⟨made, interruption⟩, files⟩ := entry
  simp only at call
  subst call
  cases interruption with
  | beforeRename => simp [answered] at gave
  | afterRename => simp [answered] at gave
  | uninterrupted =>
      simp only [answered, perform, ClosureCall.sessionId] at gave
      cases performed : evidence host request identity uuid (files request.sessionId) with
      | error failure => simp [performed, Except.toOption] at gave
      | ok transaction =>
          simp only [performed, Except.toOption, Option.map_some, Option.some.injEq] at gave
          refine ⟨evidence_path performed, ?_⟩
          obtain ⟨record, closed, launch, left, challenged, row, recovery⟩ :=
            evidence_row performed gave
          refine ⟨record, closed, launch, ?_, challenged, row, recovery⟩
          rw [← left]
          simp only [ClosureMove.step, perform, ClosureCall.sessionId, performed,
            Outcome.done_state, ClosureMove.store]
          cases transaction.written with
          | none => rfl
          | some written => simp

structure ProofKept (host : Host) (sessionId : String) (made : List ClosureEntry)
    (finish : ClosureFiles) : Prop where
  kept : (statesOf made finish).Pairwise fun before after =>
    FileKept (before sessionId) (after sessionId)
  closed : ∀ files ∈ statesOf made finish, ∀ record, files sessionId = some record →
    record.closed.isSome = true → record.launch.isSome = true ∧ record.revokedAt.isSome = true
  launched : ∀ first entry later launch, made = first ++ entry :: later →
    entry.1.call.sessionId = sessionId → answered host entry = some (.launched launch) →
    entry.2 sessionId = none ∧ ∀ repeated ∈ later, repeated.1.call.sessionId = sessionId →
      ∀ other, answered host repeated ≠ some (.launched other)
  repeated : ∀ first entry later request identity uuid proof, made = first ++ entry :: later →
    request.sessionId = sessionId → entry.1.call = .evidence request identity uuid →
    answered host entry = some (.proof proof) →
    ∀ repeated ∈ later, ∀ fresh, perform host (.evidence request identity fresh)
      (repeated.2 sessionId) = .ok { answer := .proof proof }
  recovery : ∀ first entry later request identity uuid proof, made = first ++ entry :: later →
    request.sessionId = sessionId → entry.1.call = .evidence request identity uuid →
    answered host entry = some (.proof proof) →
    ∀ repeated ∈ later, ∀ other daemon fresh given, other.sessionId = sessionId →
      other.requestId = request.requestId →
      daemon.daemonInstanceId = identity.daemonInstanceId →
      repeated.1.call = .evidence other daemon fresh →
      answered host repeated = some (.proof given) →
      given = proof ∧ other.recoveryId = request.recoveryId

theorem answered_launched {entry : ClosureEntry} {launch : BrowserLaunchIdentity}
    (gave : answered host entry = some (.launched launch)) :
    entry.2 entry.1.call.sessionId = none ∧
      ((entry.1.step host entry.2).state entry.1.call.sessionId).isSome = true := by
  obtain ⟨⟨call, interruption⟩, files⟩ := entry
  cases interruption with
  | beforeRename => simp [answered] at gave
  | afterRename => simp [answered] at gave
  | uninterrupted =>
      simp only [answered] at gave
      cases performed : perform host call (files call.sessionId) with
      | error failure => simp [performed, Except.toOption] at gave
      | ok transaction =>
          simp only [performed, Except.toOption, Option.map_some, Option.some.injEq] at gave
          simp only [ClosureMove.step, performed, Outcome.done_state, ClosureMove.store]
          cases perform_effect performed with
          | launch epoch identity marker launchIdentityId uuid launch absent =>
              exact ⟨absent, by simp⟩
          | prevent => simp at gave
          | revokeNew => simp at gave
          | revoke => simp at gave
          | attach => simp at gave
          | idle => simp at gave
          | abort => simp at gave
          | complete => simp at gave
          | replay => simp at gave
          | prove => simp at gave

theorem closure_proof_kept {finish : ClosureFiles} {made : List ClosureEntry}
    (path : Path (ClosureMove.step host) (fun _ => none) made finish) (sessionId : String) :
    ProofKept host sessionId made finish := by
  have shape := path_wellFormed path empty_wellFormed
  refine ⟨?_, ?_, ?_, ?_, ?_⟩
  · exact (path_kept path empty_wellFormed).imp fun kept => kept sessionId
  · intro files member record found
    have wellFormed : AllWellFormed host files := by
      rcases List.mem_append.mp member with visited | last
      · obtain ⟨entry, here, same⟩ := List.mem_map.mp visited
        rw [← same]
        exact shape.2 entry here
      · rw [List.mem_singleton.mp last]
        exact shape.1
    exact (wellFormed sessionId record found).closed
  · intro first entry later launch split mine gave
    subst mine
    obtain ⟨absent, stored⟩ := answered_launched gave
    refine ⟨absent, ?_⟩
    intro repeated member same other again
    rw [split] at path
    obtain ⟨record, found⟩ := Option.isSome_iff_exists.mp stored
    obtain ⟨after, here, -⟩ :=
      path_kept_after path empty_wellFormed repeated member entry.1.call.sessionId record found
    have gone := (answered_launched again).1
    rw [same, here] at gone
    simp at gone
  · intro first entry later request identity uuid proof split mine call gave repeated member fresh
    subst mine
    obtain ⟨valid, record, closed, launch, found, challenged, row, recovery⟩ :=
      answered_row call gave
    have wellFormed := shape.2 repeated (by
      rw [split]
      exact List.mem_append_right _ (List.mem_cons_of_mem _ member))
    rw [split] at path
    obtain ⟨after, here, kept⟩ :=
      path_kept_after path empty_wellFormed repeated member request.sessionId record found
    rw [here]
    exact evidence_replay fresh valid (wellFormed _ _ here) (kept.challenged challenged)
      (kept.row row) recovery
  · intro first entry later request identity uuid proof split mine call gave repeated member other
      daemon fresh given there challenge same callAgain gaveAgain
    subst mine
    obtain ⟨-, record, closed, launch, found, -, row, recovery⟩ := answered_row call gave
    obtain ⟨-, recordAgain, -, -, foundAgain, -, rowAgain, recoveryAgain⟩ :=
      answered_row callAgain gaveAgain
    rw [split] at path
    obtain ⟨here, before, onward⟩ := path.split
    have wellFormed : AllWellFormed host repeated.2 := shape.2 repeated (by
      rw [split]
      exact List.mem_append_right _ (List.mem_cons_of_mem _ member))
    have kept := filesKept_trans _ _ _
      (path_kept_after path empty_wellFormed repeated member)
      (@step_kept host repeated.1 _ wellFormed)
    obtain ⟨after, stored, keeps⟩ := kept request.sessionId record found
    rw [there, stored, Option.some.injEq] at foundAgain
    rw [← foundAgain, answers_same challenge same, keeps.row row, Option.some.injEq] at rowAgain
    rw [← rowAgain]
    refine ⟨rfl, ?_⟩
    rw [← recoveryAgain, ← rowAgain, recovery]

/-! One session, closed without a launch and asked about by two daemons. -/

def closureHost : Host :=
  Host.ofTables
    { dates := [("2026-09-04T00:00:00.000Z", 1788480000000)]
      uuids :=
        ["5b0b8f0e-94fb-4d0c-9f3e-0c5a7a3d2f10", "c1f4a1ce-6b55-4ff0-8e52-3f0f1a1f5a77",
          "0d6ff6c6-2f43-4b8e-8a54-6f6f3a9b1c21", "7f0d7a2c-3c5e-4d51-9b0a-5d8e3f6a2b11",
          "7f0d7a2c-3c5e-4d51-9b0a-5d8e3f6a2b12", "2a6b1d3e-8c47-4e0f-b5a9-1c2d3e4f5a61",
          "2a6b1d3e-8c47-4e0f-b5a9-1c2d3e4f5a62", "9e8d7c6b-5a49-4f3e-8d2c-1b0a9f8e7d61",
          "9e8d7c6b-5a49-4f3e-8d2c-1b0a9f8e7d62"] }

def closureEpoch : SessionEpoch :=
  { sessionId := "5b0b8f0e-94fb-4d0c-9f3e-0c5a7a3d2f10"
    leaseToken := "c1f4a1ce-6b55-4ff0-8e52-3f0f1a1f5a77"
    fencingToken := "3" }

def daemonOf (daemonInstanceId : String) : RuntimeProcessIdentity :=
  { hostInstanceId := "aaaaaaaaaaaaaaaa", daemonInstanceId }

def challengeFor (recoveryId : String) : RuntimeClosureRecovery :=
  { recoveryId
    requestId := "0d6ff6c6-2f43-4b8e-8a54-6f6f3a9b1c21"
    sessionId := closureEpoch.sessionId
    expectedLeaseToken := closureEpoch.leaseToken
    expectedFencingToken := closureEpoch.fencingToken }

def preventedLaunch : ClosureMove :=
  { call := .preventLaunch closureEpoch (daemonOf "7f0d7a2c-3c5e-4d51-9b0a-5d8e3f6a2b11")
      "launch-1" "2026-09-04T00:00:00.000Z" }

def firstChallenge : ClosureMove :=
  { call := .evidence (challengeFor "2a6b1d3e-8c47-4e0f-b5a9-1c2d3e4f5a61")
      (daemonOf "7f0d7a2c-3c5e-4d51-9b0a-5d8e3f6a2b11") "9e8d7c6b-5a49-4f3e-8d2c-1b0a9f8e7d61" }

def secondChallenge : ClosureMove :=
  { call := .evidence (challengeFor "2a6b1d3e-8c47-4e0f-b5a9-1c2d3e4f5a62")
      (daemonOf "7f0d7a2c-3c5e-4d51-9b0a-5d8e3f6a2b12") "9e8d7c6b-5a49-4f3e-8d2c-1b0a9f8e7d62" }

/-- A restarted daemon answers a request it has no row for, whatever recovery it names. -/
theorem restarted_daemon_answers :
    ∃ finish made, Path (ClosureMove.step closureHost) (fun _ => none) made finish ∧
      ∃ first ∈ made, ∃ second ∈ made, ∃ proof other,
        first.1 = firstChallenge ∧ answered closureHost first = some (.proof proof) ∧
        second.1 = secondChallenge ∧ answered closureHost second = some (.proof other) ∧
        proof.requestId = other.requestId ∧ proof.recoveryId ≠ other.recoveryId := by
  refine ⟨_, _, visits_path [preventedLaunch, firstChallenge, secondChallenge] fun _ => none, ?_⟩
  refine ⟨_, List.mem_cons_of_mem _ (List.mem_cons_self ..), _,
    List.mem_cons_of_mem _ (List.mem_cons_of_mem _ (List.mem_cons_self ..)),
    { evidenceId := "9e8d7c6b-5a49-4f3e-8d2c-1b0a9f8e7d61"
      recoveryId := "2a6b1d3e-8c47-4e0f-b5a9-1c2d3e4f5a61"
      requestId := "0d6ff6c6-2f43-4b8e-8a54-6f6f3a9b1c21"
      sessionId := closureEpoch.sessionId
      leaseToken := closureEpoch.leaseToken
      fencingToken := closureEpoch.fencingToken
      hostInstanceId := "aaaaaaaaaaaaaaaa"
      daemonInstanceId := "7f0d7a2c-3c5e-4d51-9b0a-5d8e3f6a2b11"
      method := .launchPrevented
      closureCompletedAt := "2026-09-04T00:00:00.000Z" },
    { evidenceId := "9e8d7c6b-5a49-4f3e-8d2c-1b0a9f8e7d62"
      recoveryId := "2a6b1d3e-8c47-4e0f-b5a9-1c2d3e4f5a62"
      requestId := "0d6ff6c6-2f43-4b8e-8a54-6f6f3a9b1c21"
      sessionId := closureEpoch.sessionId
      leaseToken := closureEpoch.leaseToken
      fencingToken := closureEpoch.fencingToken
      hostInstanceId := "aaaaaaaaaaaaaaaa"
      daemonInstanceId := "7f0d7a2c-3c5e-4d51-9b0a-5d8e3f6a2b12"
      method := .launchPrevented
      closureCompletedAt := "2026-09-04T00:00:00.000Z" },
    rfl, by decide, rfl, by decide, rfl, by decide⟩

theorem prevented_launch_kept :
    ProofKept closureHost closureEpoch.sessionId
      (visits (ClosureMove.step closureHost)
        [preventedLaunch, firstChallenge, secondChallenge, firstChallenge] fun _ => none)
      (arrival (ClosureMove.step closureHost)
        [preventedLaunch, firstChallenge, secondChallenge, firstChallenge] fun _ => none) :=
  closure_proof_kept
    (visits_path [preventedLaunch, firstChallenge, secondChallenge, firstChallenge] fun _ => none)
    closureEpoch.sessionId

end Runs

end Devproof
