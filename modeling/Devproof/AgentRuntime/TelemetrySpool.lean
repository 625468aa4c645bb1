import Mathlib.Data.List.Induction
import Mathlib.Logic.Function.Basic

/-!
Model of model-telemetry-spool.ts: the settlements of the model calls wait in a directory until the
control plane has taken them.  Several processes of one host share the directory, each call of
`settle` and `flush` awaits its files one by one, and a process can end between any two of them.
-/

namespace Devproof

namespace TelemetrySpool

structure Settlement (Body : Type) where
  modelCallId : String
  startedAt : Int
  rest : Body

inductive FileName where
  /-- `${modelCallId}.json`. -/
  | settled (modelCallId : String)
  /-- `${modelCallId}.json.tmp`. -/
  | temporary (modelCallId : String)
  deriving DecidableEq

def FileName.settledId : FileName → Option String
  | .settled modelCallId => some modelCallId
  | .temporary _ => none

abbrev Files (Body : Type) := List (FileName × Option (Settlement Body))

variable {Body Process : Type}

def Files.unlink (name : FileName) (files : Files Body) : Files Body :=
  files.filter fun file => file.1 ≠ name

def Files.store (name : FileName) (content : Option (Settlement Body)) (files : Files Body) :
    Files Body :=
  (name, content) :: files.unlink name

theorem lookup_unlink_self (name : FileName) (files : Files Body) :
    (files.unlink name).lookup name = none := by
  rw [List.lookup_eq_none_iff]
  intro file kept
  have other := (List.mem_filter.mp kept).2
  simp only [ne_eq, decide_not, Bool.not_eq_true', decide_eq_false_iff_not] at other
  exact bne_iff_ne.mpr fun same => other same.symm

theorem lookup_unlink {name other : FileName} (apart : other ≠ name) (files : Files Body) :
    (files.unlink name).lookup other = files.lookup other := by
  induction files with
  | nil => rfl
  | cons file rest ih =>
      rw [Files.unlink, List.filter_cons]
      by_cases same : file.1 = name
      · rw [if_neg (by simpa using same), List.lookup_cons, beq_false_of_ne (same ▸ apart)]
        exact ih
      · rw [if_pos (by simpa using same), List.lookup_cons, List.lookup_cons]
        cases other == file.1 with
        | true => rfl
        | false => exact ih

theorem lookup_store (name : FileName) (content : Option (Settlement Body)) (files : Files Body) :
    (files.store name content).lookup name = some content := by
  simp [Files.store]

theorem lookup_store_other {name other : FileName} (apart : other ≠ name)
    (content : Option (Settlement Body)) (files : Files Body) :
    (files.store name content).lookup other = files.lookup other := by
  rw [Files.store, List.lookup_cons, beq_false_of_ne apart]
  exact lookup_unlink apart files

inductive Phase where
  | looking
  | writing
  | renaming
  | sending
  deriving DecidableEq

inductive Handling where
  | sending
  | unlinking
  | expiring
  deriving DecidableEq

structure Flush (Body : Type) where
  names : List String
  held : Option (Settlement Body × Handling) := none

/-- The directory, the calls and flushes under way, and what became of the settlements; a call of
    `settle` is known by its place in `settled`. -/
structure Spool (Process Body : Type) where
  now : Int
  files : Files Body := []
  settled : List (Settlement Body) := []
  calls : Nat → Option (Process × Phase) := fun _ => none
  flushes : Process → Option (Flush Body) := fun _ => none
  /-- Taken by the control plane. -/
  sent : List (Settlement Body) := []
  expired : List (Settlement Body) := []
  /-- Neither stored nor taken, with `runtime.model_telemetry.unavailable`. -/
  unavailable : List Nat := []
  /-- The process ended during the call. -/
  interrupted : Nat → Bool := fun _ => false

def SPOOL_CAPACITY : Nat := 2000

def FLUSH_BATCH : Nat := 20

def REPLAY_WINDOW_MS : Int := 86400000

inductive Move (Process Body : Type) where
  | elapse (span : Nat)
  | settle (process : Process) (input : Settlement Body)
  | look (call : Nat) (succeeds : Bool)
  /-- A write that fails may leave a part of the file. -/
  | write (call : Nat) (succeeds torn : Bool)
  | rename (call : Nat) (succeeds : Bool)
  | send (call : Nat) (succeeds : Bool)
  /-- The listing is in any order, and may be out of date when its files are read. -/
  | flush (process : Process) (listing : List FileName)
  | read (process : Process) (succeeds : Bool)
  | replay (process : Process) (succeeds : Bool)
  | unlink (process : Process) (succeeds : Bool)
  | crash (process : Process)

variable [DecidableEq Process]

namespace Spool

variable (spool : Spool Process Body)

def settle (process : Process) (input : Settlement Body) : Spool Process Body :=
  { spool with
    settled := spool.settled ++ [input]
    calls := Function.update spool.calls spool.settled.length (some (process, .looking)) }

def goOn (call : Nat) (process : Process) (phase : Phase) : Spool Process Body :=
  { spool with calls := Function.update spool.calls call (some (process, phase)) }

def done (call : Nat) : Spool Process Body :=
  { spool with calls := Function.update spool.calls call none }

def look (call : Nat) (succeeds : Bool) : Spool Process Body :=
  match spool.calls call with
  | some (process, .looking) =>
      if succeeds ∧ spool.files.length < SPOOL_CAPACITY then spool.goOn call process .writing
      else spool.goOn call process .sending
  | _ => spool

def write (call : Nat) (succeeds torn : Bool) : Spool Process Body :=
  match spool.calls call, spool.settled[call]? with
  | some (process, .writing), some input =>
      let temporary := FileName.temporary input.modelCallId
      if succeeds then
        { spool.goOn call process .renaming with
          files := spool.files.store temporary (some input) }
      else if torn then
        { spool.goOn call process .sending with files := spool.files.store temporary none }
      else spool.goOn call process .sending
  | _, _ => spool

def rename (call : Nat) (succeeds : Bool) : Spool Process Body :=
  match spool.calls call, spool.settled[call]? with
  | some (process, .renaming), some input =>
      match succeeds, spool.files.lookup (.temporary input.modelCallId) with
      | true, some content =>
          { spool.done call with
            files := (spool.files.unlink (.temporary input.modelCallId)).store
              (.settled input.modelCallId) content }
      | _, _ => spool.goOn call process .sending
  | _, _ => spool

def send (call : Nat) (succeeds : Bool) : Spool Process Body :=
  match spool.calls call, spool.settled[call]? with
  | some (_, .sending), some input =>
      if succeeds then { spool.done call with sent := spool.sent ++ [input] }
      else { spool.done call with unavailable := spool.unavailable ++ [call] }
  | _, _ => spool

def flush (process : Process) (listing : List FileName) : Spool Process Body :=
  match spool.flushes process with
  | some _ => spool
  | none =>
      { spool with
        flushes := Function.update spool.flushes process
          (some { names := (listing.filterMap FileName.settledId).take FLUSH_BATCH }) }

def setFlush (process : Process) (next : Flush Body) : Spool Process Body :=
  { spool with flushes := Function.update spool.flushes process (some next) }

def read (process : Process) (succeeds : Bool) : Spool Process Body :=
  match spool.flushes process with
  | some { names := [], .. } =>
      { spool with flushes := Function.update spool.flushes process none }
  | some { names := name :: rest, held := none } =>
      match succeeds, spool.files.lookup (.settled name) with
      | true, some (some input) =>
          if REPLAY_WINDOW_MS < spool.now - input.startedAt then
            spool.setFlush process { names := name :: rest, held := some (input, .expiring) }
          else spool.setFlush process { names := name :: rest, held := some (input, .sending) }
      | _, _ => spool.setFlush process { names := rest }
  | _ => spool

def replay (process : Process) (succeeds : Bool) : Spool Process Body :=
  match spool.flushes process with
  | some { names, held := some (input, .sending) } =>
      if succeeds then
        { spool.setFlush process { names, held := some (input, .unlinking) } with
          sent := spool.sent ++ [input] }
      else spool.setFlush process { names := names.tail }
  | _ => spool

def unlinkNext (process : Process) (succeeds : Bool) : Spool Process Body :=
  match spool.flushes process with
  | some { names := name :: rest, held := some (input, handling) } =>
      if handling = .sending then spool
      else if succeeds then
        { spool.setFlush process { names := rest } with
          files := spool.files.unlink (.settled name)
          expired := if handling = .expiring then spool.expired ++ [input] else spool.expired }
      else spool.setFlush process { names := rest }
  | _ => spool

def crash (process : Process) : Spool Process Body :=
  { spool with
    calls := fun call => (spool.calls call).filter fun running => running.1 ≠ process
    flushes := Function.update spool.flushes process none
    interrupted := fun call => spool.interrupted call ||
      (spool.calls call).any fun running => running.1 = process }

end Spool

def step (spool : Spool Process Body) : Move Process Body → Spool Process Body
  | .elapse span => { spool with now := spool.now + span }
  | .settle process input => spool.settle process input
  | .look call succeeds => spool.look call succeeds
  | .write call succeeds torn => spool.write call succeeds torn
  | .rename call succeeds => spool.rename call succeeds
  | .send call succeeds => spool.send call succeeds
  | .flush process listing => spool.flush process listing
  | .read process succeeds => spool.read process succeeds
  | .replay process succeeds => spool.replay process succeeds
  | .unlink process succeeds => spool.unlinkNext process succeeds
  | .crash process => spool.crash process

def reached (moves : List (Move Process Body)) (now : Int) : Spool Process Body :=
  moves.foldl step { now }

end TelemetrySpool

end Devproof
