import Devproof.Browser.ProcessScope

/-!
The rounds of `closeBrowserProcessScope`: what they signal, and what is left
when they end.
-/

namespace Devproof

namespace BrowserProcesses

inductive Signal where
  | sigterm
  | sigkill
  deriving Repr, DecidableEq

inductive KillReply where
  | sent
  /-- `ESRCH` -/
  | missing
  | denied
  deriving Repr, DecidableEq

structure Reading where
  inventory : List ObservedProcess
  reply : Nat → KillReply
  /-- The clock at the end of the round. -/
  now : Int
  /-- The clock when the next signal's rounds begin. -/
  next : Int

inductive Ending where
  | closed
  /-- "Refusing to terminate the Runtime process." -/
  | refused
  | denied
  /-- "Browser process closure could not be confirmed." -/
  | unverified
  deriving Repr, DecidableEq

/-- Where the loop is: the processes of the scope so far, the signal and its deadline, and the
    signals sent. -/
structure Closing where
  processes : List ObservedProcess
  signal : Signal
  deadline : Int
  sent : List (ObservedProcess × Signal) := []
  deriving Repr, DecidableEq

section Rounds

variable (ownPid : Nat) (marker : String) (groups : List Nat)

def remainingOf (processes inventory : List ObservedProcess) : List ObservedProcess :=
  inventory.filter fun row => processes.any (sameProcess row) || hasMarker marker row

/-- Take in the children of what remains: what remains then, and the children taken in. -/
def adopt : List ObservedProcess → List ObservedProcess →
    List ObservedProcess × List ObservedProcess
  | [], remaining => (remaining, [])
  | row :: rows, remaining =>
      if (remaining.any fun parent => parent.pid == row.parentPid) &&
          !remaining.any fun owned => owned.pid == row.pid then
        let (all, adopted) := adopt rows (remaining ++ [row])
        (all, row :: adopted)
      else adopt rows remaining

def signalAll (signal : Signal) (reply : Nat → KillReply) : List ObservedProcess →
    List (ObservedProcess × Signal) × Option Ending
  | [] => ([], none)
  | row :: rows =>
      if row.pid = ownPid then ([], some .refused)
      else if reply row.pid = .denied then ([(row, signal)], some .denied)
      else
        let (sent, ending) := signalAll signal reply rows
        ((row, signal) :: sent, ending)

def nextRound (reading : Reading) (closing : Closing) : Closing × Option Ending :=
  if reading.now < closing.deadline then (closing, none)
  else
    match closing.signal with
    | .sigterm => ({ closing with signal := .sigkill, deadline := reading.next + 1000 }, none)
    | .sigkill => (closing, some .unverified)

def round (reading : Reading) (closing : Closing) : Closing × Option Ending :=
  let (remaining, adopted) :=
    adopt reading.inventory (remainingOf marker closing.processes reading.inventory)
  let closing := { closing with processes := closing.processes ++ adopted }
  if remaining.isEmpty then
    if reading.inventory.any fun row => groups.contains row.groupId then nextRound reading closing
    else (closing, some .closed)
  else
    let (sent, ending) := signalAll ownPid closing.signal reading.reply remaining
    let closing := { closing with sent := closing.sent ++ sent }
    match ending with
    | some ending => (closing, some ending)
    | none => nextRound reading closing

def rounds : List Reading → Closing → Closing × Option Ending
  | [], closing => (closing, none)
  | reading :: readings, closing =>
      match round ownPid marker groups reading closing with
      | (closing, some ending) => (closing, some ending)
      | (closing, none) => rounds readings closing

end Rounds

def closeBrowserProcessScope (ownPid : Nat) (scope : BrowserProcessScope) (started : Int)
    (readings : List Reading) : Closing × Option Ending :=
  rounds ownPid scope.marker scope.groupIds readings
    { processes := scope.processes, signal := .sigterm, deadline := started + 2000 }

/-! What belongs to the session, over all that was read. -/

theorem sameProcess_iff {left right : ObservedProcess} : sameProcess left right = true ↔
    left.pid = right.pid ∧ left.startedAt = right.startedAt ∧ left.command = right.command := by
  simp [sameProcess, and_assoc]

theorem sameProcess_marked {marker : String} {left right : ObservedProcess}
    (same : sameProcess left right = true) : hasMarker marker left = hasMarker marker right := by
  rw [hasMarker, hasMarker, (sameProcess_iff.mp same).2.2]

inductive Theirs (scope : BrowserProcessScope) (readings : List Reading) :
    ObservedProcess → Prop where
  | captured {row} : row ∈ scope.processes → Theirs scope readings row
  | marked {row} : hasMarker scope.marker row = true → Theirs scope readings row
  | child {reading parent row} : reading ∈ readings → parent ∈ reading.inventory →
      row ∈ reading.inventory → Theirs scope readings parent → row.parentPid = parent.pid →
      Theirs scope readings row
  | same {row known} : Theirs scope readings known → sameProcess row known = true →
      Theirs scope readings row

section Invariant

variable {ownPid : Nat} {scope : BrowserProcessScope} {readings : List Reading} {started : Int}

theorem adopt_mem {inventory : List ObservedProcess} :
    ∀ {rows remaining : List ObservedProcess}, (∀ row ∈ rows, row ∈ inventory) →
      (∀ row ∈ remaining, row ∈ inventory) →
      (∀ row ∈ (adopt rows remaining).1, row ∈ inventory) ∧
      (∀ row ∈ remaining, row ∈ (adopt rows remaining).1) ∧
      (∀ row ∈ (adopt rows remaining).1,
        row ∈ remaining ∨ row ∈ (adopt rows remaining).2) ∧
      ∀ row ∈ (adopt rows remaining).2, row ∈ (adopt rows remaining).1 := by
  intro rows
  induction rows with
  | nil =>
      intro remaining _ listed
      exact ⟨listed, fun _ member => member, fun _ member => .inl member, nofun⟩
  | cons row rows ih =>
      intro remaining part listed
      have rest := fun other member => part other (List.mem_cons_of_mem row member)
      simp only [adopt]
      split
      · have listed' : ∀ other ∈ remaining ++ [row], other ∈ inventory := by
          intro other member
          rcases List.mem_append.mp member with old | new
          · exact listed other old
          · rw [List.mem_singleton.mp new]
            exact part row (List.mem_cons_self ..)
        obtain ⟨inside, kept, origin, among⟩ := ih rest listed'
        refine ⟨inside, fun other member => kept other (List.mem_append_left _ member), ?_, ?_⟩
        · intro other member
          rcases origin other member with known | adopted
          · rcases List.mem_append.mp known with old | new
            · exact .inl old
            · rw [List.mem_singleton.mp new]
              exact .inr (List.mem_cons_self ..)
          · exact .inr (List.mem_cons_of_mem _ adopted)
        · intro other member
          rcases List.mem_cons.mp member with rfl | later
          · exact kept _ (List.mem_append_right _ (List.mem_singleton_self _))
          · exact among other later
      · exact ih rest listed

theorem adopt_theirs {reading : Reading} (read : reading ∈ readings) :
    ∀ {rows remaining : List ObservedProcess}, (∀ row ∈ rows, row ∈ reading.inventory) →
      (∀ row ∈ remaining, row ∈ reading.inventory ∧ Theirs scope readings row) →
      ∀ row ∈ (adopt rows remaining).2, Theirs scope readings row := by
  intro rows
  induction rows with
  | nil => exact fun _ _ => nofun
  | cons row rows ih =>
      intro remaining part listed
      have rest := fun other member => part other (List.mem_cons_of_mem row member)
      simp only [adopt]
      split
      · rename_i here
        rw [Bool.and_eq_true, List.any_eq_true] at here
        obtain ⟨⟨parent, member, same⟩, -⟩ := here
        have known : Theirs scope readings row :=
          .child read (listed parent member).1 (part row (List.mem_cons_self ..))
            (listed parent member).2 (beq_iff_eq.mp same).symm
        have listed' : ∀ other ∈ remaining ++ [row],
            other ∈ reading.inventory ∧ Theirs scope readings other := by
          intro other member
          rcases List.mem_append.mp member with old | new
          · exact listed other old
          · rw [List.mem_singleton.mp new]
            exact ⟨part row (List.mem_cons_self ..), known⟩
        intro other member
        rcases List.mem_cons.mp member with rfl | later
        · exact known
        · exact ih rest listed' other later
      · exact ih rest listed

variable (ownPid) in
theorem signalAll_open (signal : Signal) (reply : Nat → KillReply)
    (remaining : List ObservedProcess) :
    (signalAll ownPid signal reply remaining).2 ≠ some .closed := by
  induction remaining with
  | nil => exact nofun
  | cons row rows ih =>
      simp only [signalAll]
      split
      · exact nofun
      · split
        · exact nofun
        · exact ih

variable (ownPid) in
theorem signalAll_sent (signal : Signal) (reply : Nat → KillReply)
    (remaining : List ObservedProcess) :
      ∀ entry ∈ (signalAll ownPid signal reply remaining).1,
        entry.1 ∈ remaining ∧ entry.1.pid ≠ ownPid ∧ entry.2 = signal := by
  induction remaining with
  | nil => exact nofun
  | cons row rows ih =>
      simp only [signalAll]
      split
      · exact nofun
      · rename_i other
        split
        · intro entry member
          rw [List.mem_singleton.mp member]
          exact ⟨List.mem_cons_self .., other, rfl⟩
        · intro entry member
          rcases List.mem_cons.mp member with rfl | later
          · exact ⟨List.mem_cons_self .., other, rfl⟩
          · obtain ⟨present, rest⟩ := ih entry later
            exact ⟨List.mem_cons_of_mem _ present, rest⟩

structure Sound (scope : BrowserProcessScope) (readings : List Reading) (ownPid : Nat)
    (started : Int) (closing : Closing) : Prop where
  covers : ∀ row ∈ scope.processes, row ∈ closing.processes
  theirs : ∀ row ∈ closing.processes, Theirs scope readings row
  sent : ∀ entry ∈ closing.sent, Theirs scope readings entry.1 ∧ entry.1.pid ≠ ownPid ∧
    (∃ reading ∈ readings, entry.1 ∈ reading.inventory) ∧
    ((∃ known ∈ closing.processes, sameProcess entry.1 known = true) ∨
      hasMarker scope.marker entry.1 = true)
  patient : closing.signal = .sigterm → closing.deadline = started + 2000
  killed : closing.signal = .sigkill ∨ (∃ entry ∈ closing.sent, entry.2 = .sigkill) →
    ∃ reading ∈ readings, started + 2000 ≤ reading.now

theorem nextRound_sound {reading : Reading} {closing : Closing} (read : reading ∈ readings)
    (sound : Sound scope readings ownPid started closing) :
    Sound scope readings ownPid started (nextRound reading closing).1 ∧
      (nextRound reading closing).2 ≠ some .closed := by
  unfold nextRound
  split
  · exact ⟨sound, nofun⟩
  · rename_i late
    cases signal : closing.signal with
    | sigterm =>
        refine ⟨⟨sound.covers, sound.theirs, sound.sent, nofun, fun _ => ?_⟩, nofun⟩
        rw [sound.patient signal] at late
        exact ⟨reading, read, Int.not_lt.mp late⟩
    | sigkill => exact ⟨sound, nofun⟩

def Gone (scope : BrowserProcessScope) (closing : Closing) (inventory : List ObservedProcess) :
    Prop :=
  ∀ row ∈ inventory, hasMarker scope.marker row = false ∧
    (∀ known ∈ closing.processes, sameProcess row known = false) ∧
    row.groupId ∉ scope.groupIds

theorem round_sound {reading : Reading} {closing : Closing} (read : reading ∈ readings)
    (sound : Sound scope readings ownPid started closing) :
    let (after, ending) := round ownPid scope.marker scope.groupIds reading closing
    Sound scope readings ownPid started after ∧
      (ending = some .closed → Gone scope after reading.inventory) := by
  have found : ∀ row ∈ remainingOf scope.marker closing.processes reading.inventory,
      row ∈ reading.inventory ∧ ((∃ known ∈ closing.processes, sameProcess row known = true) ∨
        hasMarker scope.marker row = true) := by
    intro row member
    obtain ⟨listed, here⟩ := List.mem_filter.mp member
    rw [Bool.or_eq_true, List.any_eq_true] at here
    exact ⟨listed, here⟩
  have known : ∀ row ∈ remainingOf scope.marker closing.processes reading.inventory,
      row ∈ reading.inventory ∧ Theirs scope readings row := by
    intro row member
    obtain ⟨listed, ⟨old, present, same⟩ | marked⟩ := found row member
    · exact ⟨listed, .same (sound.theirs old present) same⟩
    · exact ⟨listed, .marked marked⟩
  obtain ⟨inside, kept, origin, among⟩ := adopt_mem (fun _ member => member) fun row member =>
    (found row member).1
  have adopted := adopt_theirs read (fun _ member => member) known
  simp only [round]
  rcases parts : adopt reading.inventory
    (remainingOf scope.marker closing.processes reading.inventory) with ⟨remaining, new⟩
  rw [parts] at inside kept origin among adopted
  dsimp only at inside kept origin among adopted ⊢
  have grown : Sound scope readings ownPid started
      { closing with processes := closing.processes ++ new } := by
    refine ⟨fun row member => List.mem_append_left _ (sound.covers row member), ?_, ?_,
      sound.patient, sound.killed⟩
    · intro row member
      rcases List.mem_append.mp member with old | fresh
      · exact sound.theirs row old
      · exact adopted row fresh
    · intro entry member
      obtain ⟨their, other, listed, still⟩ := sound.sent entry member
      refine ⟨their, other, listed, still.imp_left ?_⟩
      rintro ⟨old, present, same⟩
      exact ⟨old, List.mem_append_left _ present, same⟩
  split
  · rename_i empty
    split
    · exact ⟨(nextRound_sound read grown).1, fun ended =>
        absurd ended (nextRound_sound read grown).2⟩
    · rename_i groups
      refine ⟨grown, fun _ row listed => ?_⟩
      have none : ∀ other, other ∉ remaining := by
        intro other member
        rw [List.isEmpty_iff.mp empty] at member
        cases member
      have out : row ∉ remainingOf scope.marker closing.processes reading.inventory :=
        fun member => none row (kept row member)
      simp only [remainingOf, List.mem_filter, listed, true_and, Bool.or_eq_true, not_or,
        Bool.not_eq_true, List.any_eq_false] at out
      refine ⟨out.2, ?_, fun member => groups (List.any_eq_true.mpr ⟨row, listed, by
        simpa using member⟩)⟩
      intro other member
      rcases List.mem_append.mp member with old | fresh
      · exact out.1 other old
      · exact absurd (among other fresh) (none other)
  · have told := signalAll_sent ownPid closing.signal reading.reply remaining
    have open' := signalAll_open ownPid closing.signal reading.reply remaining
    generalize signalAll ownPid closing.signal reading.reply remaining = result at told open' ⊢
    obtain ⟨sent, ending⟩ := result
    have signalled : Sound scope readings ownPid started
        { closing with processes := closing.processes ++ new, sent := closing.sent ++ sent } := by
      refine ⟨grown.covers, grown.theirs, ?_, sound.patient, ?_⟩
      · intro entry member
        rcases List.mem_append.mp member with old | fresh
        · exact grown.sent entry old
        · obtain ⟨present, other, -⟩ := told entry fresh
          rcases origin entry.1 present with before | child
          · obtain ⟨listed, still⟩ := found entry.1 before
            refine ⟨(known entry.1 before).2, other, ⟨reading, read, listed⟩,
              still.imp_left ?_⟩
            rintro ⟨old, present, same⟩
            exact ⟨old, List.mem_append_left _ present, same⟩
          · exact ⟨adopted entry.1 child, other, ⟨reading, read, inside entry.1 present⟩,
              .inl ⟨entry.1, List.mem_append_right _ child, by simp [sameProcess]⟩⟩
      · rintro (signal | ⟨entry, member, signal⟩)
        · exact sound.killed (.inl signal)
        · rcases List.mem_append.mp member with old | fresh
          · exact sound.killed (.inr ⟨entry, old, signal⟩)
          · exact sound.killed (.inl ((told entry fresh).2.2.symm.trans signal))
    cases ending with
    | some ending => exact ⟨signalled, fun ended => absurd ended open'⟩
    | none =>
        obtain ⟨after, unfinished⟩ := nextRound_sound read signalled
        exact ⟨after, fun ended => absurd ended unfinished⟩

theorem rounds_sound {later : List Reading} {closing : Closing}
    (read : ∀ reading ∈ later, reading ∈ readings)
    (sound : Sound scope readings ownPid started closing) :
    let (after, ending) := rounds ownPid scope.marker scope.groupIds later closing
    Sound scope readings ownPid started after ∧
      (ending = some .closed → ∃ reading ∈ readings, Gone scope after reading.inventory) := by
  induction later generalizing closing with
  | nil => exact ⟨sound, nofun⟩
  | cons reading later ih =>
      have here := round_sound (read reading (List.mem_cons_self ..)) sound
      simp only [rounds]
      generalize round ownPid scope.marker scope.groupIds reading closing = result at here ⊢
      obtain ⟨after, ending⟩ := result
      cases ending with
      | some ending =>
          exact ⟨here.1, fun ended =>
            ⟨reading, read reading (List.mem_cons_self ..), here.2 ended⟩⟩
      | none => exact ih (fun other member => read other (List.mem_cons_of_mem _ member)) here.1

/-- Whatever the rounds read: each process they signal is one of the session that an inventory
    listed, and never the Runtime itself; none is killed before the grace period is over; and when
    they end well, an inventory had no process with the marker, none of the scope and none that
    was taken in or signalled, and no process in a dedicated group. -/
theorem closing_exact (ownPid : Nat) (scope : BrowserProcessScope) (started : Int)
    (readings : List Reading) :
    let (closing, ending) := closeBrowserProcessScope ownPid scope started readings
    (∀ entry ∈ closing.sent, Theirs scope readings entry.1 ∧ entry.1.pid ≠ ownPid ∧
      ∃ reading ∈ readings, entry.1 ∈ reading.inventory) ∧
    (∀ entry ∈ closing.sent, entry.2 = .sigkill →
      ∃ reading ∈ readings, started + 2000 ≤ reading.now) ∧
    (ending = some .closed → ∃ reading ∈ readings, ∀ row ∈ reading.inventory,
      hasMarker scope.marker row = false ∧ row.groupId ∉ scope.groupIds ∧
      (∀ known ∈ scope.processes, sameProcess row known = false) ∧
      ∀ entry ∈ closing.sent, sameProcess row entry.1 = false) := by
  have start : Sound scope readings ownPid started
      { processes := scope.processes, signal := .sigterm, deadline := started + 2000 } :=
    ⟨fun _ member => member, fun _ member => .captured member, nofun, fun _ => rfl, by simp⟩
  have ends := rounds_sound (fun _ member => member) start
  unfold closeBrowserProcessScope
  generalize rounds ownPid scope.marker scope.groupIds readings _ = result at ends ⊢
  obtain ⟨closing, ending⟩ := result
  obtain ⟨sound, gone⟩ := ends
  refine ⟨fun entry member => ?_, fun entry member signal => ?_, fun ended => ?_⟩
  · obtain ⟨their, other, listed, -⟩ := sound.sent entry member
    exact ⟨their, other, listed⟩
  · exact sound.killed (.inr ⟨entry, member, signal⟩)
  · obtain ⟨reading, read, none⟩ := gone ended
    refine ⟨reading, read, fun row listed => ?_⟩
    obtain ⟨unmarked, absent, outside⟩ := none row listed
    refine ⟨unmarked, outside, fun known member => absent known (sound.covers known member), ?_⟩
    intro entry member
    by_contra same
    rw [Bool.not_eq_false] at same
    obtain ⟨-, -, -, ⟨known, present, still⟩ | marked⟩ := sound.sent entry member
    · obtain ⟨pid, time, command⟩ := sameProcess_iff.mp same
      obtain ⟨pid', time', command'⟩ := sameProcess_iff.mp still
      have again := sameProcess_iff.mpr
        ⟨pid.trans pid', time.trans time', command.trans command'⟩
      rw [absent known present] at again
      cases again
    · rw [← sameProcess_marked same, unmarked] at marked
      cases marked

end Invariant

end BrowserProcesses

end Devproof
