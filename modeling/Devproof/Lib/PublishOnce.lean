import Devproof.Lib.Interleave

/-!
Files that are published once: each publisher writes a temporary file of its
own and links it to the final place, which an existing file keeps.  Any number
of publishers work on one directory at the same time.
-/

namespace Devproof

namespace PublishOnce

variable {Place File Failure Answer : Type}

structure Directory (Place File : Type) where
  /-- The names that were drawn for temporary files so far. -/
  drawn : Nat
  published : Place → Option File
  temporary : Nat → Option File

def Directory.write (file : File) (directory : Directory Place File) : Directory Place File :=
  { directory with
    drawn := directory.drawn + 1
    temporary := Function.update directory.temporary directory.drawn (some file) }

def Directory.remove (name : Nat) (directory : Directory Place File) : Directory Place File :=
  { directory with temporary := Function.update directory.temporary name none }

structure Publication (Place File Failure Answer : Type) where
  place : Place
  /-- The answer for a file that is there already. -/
  found : File → Except Failure Answer
  make : Except Failure File
  /-- The file system fails while the temporary file is written. -/
  full : Option Failure
  /-- The answer for the file that is there after the link. -/
  reread : File → Except Failure Answer
  missing : Failure

namespace Publication

variable (publication : Publication Place File Failure Answer)

def finish (name : Nat) (answer : Except Failure Answer) :
    Program (Directory Place File) (Except Failure Answer) :=
  .step (Directory.remove name) fun _ => .answer answer

end Publication

structure Later (earlier directory : Directory Place File) : Prop where
  drawn : earlier.drawn ≤ directory.drawn
  published : ∀ place file, earlier.published place = some file →
    directory.published place = some file
  temporary : ∀ name < earlier.drawn, directory.temporary name = earlier.temporary name ∨
    directory.temporary name = none

theorem Later.refl (directory : Directory Place File) : Later directory directory :=
  ⟨Nat.le_refl _, fun _ _ here => here, fun _ _ => .inl rfl⟩

theorem Later.trans {first second third : Directory Place File} (here : Later first second)
    (there : Later second third) : Later first third := by
  refine ⟨Nat.le_trans here.drawn there.drawn, fun place file known =>
    there.published place file (here.published place file known), fun name bound => ?_⟩
  rcases there.temporary name (Nat.lt_of_lt_of_le bound here.drawn) with same | gone
  · rcases here.temporary name bound with same' | gone'
    · exact .inl (same.trans same')
    · exact .inr (same.trans gone')
  · exact .inr gone

/-- Every published file was there from the start, or a publisher made it for its place. -/
def Provided (start : Place → Option File) (made : Place → File → Prop)
    (directory : Directory Place File) : Prop :=
  ∀ place file, directory.published place = some file →
    start place = some file ∨ (start place = none ∧ made place file)

variable {start : Place → Option File} {made : Place → File → Prop}

theorem write_later (file : File) (directory : Directory Place File) :
    Later directory (directory.write file) := by
  refine ⟨Nat.le_succ _, fun _ _ known => known, fun name bound => .inl ?_⟩
  exact Function.update_of_ne (Nat.ne_of_lt bound) _ _

theorem write_own (file : File) (directory : Directory Place File) :
    (directory.write file).temporary directory.drawn = some file :=
  Function.update_self ..

theorem remove_later (name : Nat) (directory : Directory Place File) :
    Later directory (directory.remove name) := by
  refine ⟨Nat.le_refl _, fun _ _ known => known, fun other _ => ?_⟩
  by_cases same : other = name
  · rw [same]
    exact .inr (Function.update_self ..)
  · exact .inl (Function.update_of_ne same _ _)

structure Lawful (start : Place → Option File) (made : Place → File → Prop)
    (directory : Directory Place File) : Prop where
  kept : ∀ place file, start place = some file → directory.published place = some file
  provided : Provided start made directory

def Done (publication : Publication Place File Failure Answer) (result : Except Failure Answer)
    (directory : Directory Place File) : Prop :=
  ∀ answer, result = .ok answer → ∃ file, directory.published publication.place = some file ∧
    (publication.found file = .ok answer ∨ publication.reread file = .ok answer)

variable {publication : Publication Place File Failure Answer} {state : Directory Place File}

theorem done_stable {result : Except Failure Answer} {first second : Directory Place File}
    (onward : Later first second) (done : Done publication result first) :
    Done publication result second := by
  intro answer accepted
  obtain ⟨file, here, from'⟩ := done answer accepted
  exact ⟨file, onward.published _ file here, from'⟩

theorem Lawful.onward {first second : Directory Place File} (lawful : Lawful start made first)
    (same : second.published = first.published) : Lawful start made second := by
  refine ⟨fun place file known => ?_, fun place file here => ?_⟩
  · rw [same]
    exact lawful.kept place file known
  · rw [same] at here
    exact lawful.provided place file here

section Linking

variable [DecidableEq Place]

/-- `link`: a place that is taken stays as it is. -/
def Directory.link (name : Nat) (place : Place) (directory : Directory Place File) :
    Directory Place File :=
  if (directory.published place).isSome then directory
  else
    { directory with
      published := Function.update directory.published place (directory.temporary name) }

theorem link_later (name : Nat) (place : Place) (directory : Directory Place File) :
    Later directory (directory.link name place) := by
  unfold Directory.link
  split
  · exact Later.refl _
  · rename_i free
    refine ⟨Nat.le_refl _, fun other file known => ?_, fun _ _ => .inl rfl⟩
    have different : other ≠ place := by
      rintro rfl
      exact free (by simp [known])
    exact (Function.update_of_ne different _ _).trans known

theorem link_provided {name : Nat} {place : Place} {directory : Directory Place File}
    (provided : Provided start made directory)
    (kept : ∀ place file, start place = some file → directory.published place = some file)
    (own : ∀ file, directory.temporary name = some file → made place file) :
    Provided start made (directory.link name place) := by
  unfold Directory.link
  split
  · exact provided
  · rename_i free
    intro other file here
    by_cases same : other = place
    · subst same
      dsimp only at here
      rw [Function.update_self] at here
      refine .inr ⟨?_, own file here⟩
      cases known : start other with
      | none => rfl
      | some old =>
          rw [kept other old known] at free
          simp at free
    · dsimp only at here
      rw [Function.update_of_ne same] at here
      exact provided other file here

namespace Publication

variable (publication)

def linked (name : Nat) : Program (Directory Place File) (Except Failure Answer) :=
  .step (Directory.link name publication.place) fun _ =>
    .read (fun directory => directory.published publication.place) fun file =>
      finish name (match file with
        | some file => publication.reread file
        | none => .error publication.missing)

def program : Program (Directory Place File) (Except Failure Answer) :=
  .read (fun directory => directory.published publication.place) fun existing =>
    match existing with
    | some file => .answer (publication.found file)
    | none =>
        match publication.make with
        | .error failure => .answer (.error failure)
        | .ok file =>
            .step (Directory.write file) fun directory =>
              match publication.full with
              | some failure => finish directory.drawn (.error failure)
              | none => publication.linked directory.drawn

end Publication

open Program

omit [DecidableEq Place] in
theorem obeys_finish {name : Nat} {answer : Except Failure Answer}
    (done : Done publication answer state) :
    (Publication.finish name answer).Obeys (Lawful start made) Later (Done publication) state := by
  intro now onward lawful
  have further := remove_later name now
  exact ⟨lawful.onward rfl, further, done_stable (onward.trans further) done⟩

theorem obeys_linked {name : Nat} (known : name < state.drawn)
    (own : ∀ file, state.temporary name = some file → made publication.place file) :
    (publication.linked name).Obeys (Lawful start made) Later (Done publication) state := by
  intro now onward lawful
  have own' : ∀ file, now.temporary name = some file → made publication.place file := by
    intro file here
    rcases onward.temporary name known with same | gone
    · exact own file (same.symm.trans here)
    · rw [gone] at here
      cases here
  have further := link_later name publication.place now
  refine ⟨⟨fun place file known => further.published place file (lawful.kept place file known),
    link_provided lawful.provided lawful.kept own'⟩, further, ?_⟩
  refine obeys_read Later.refl fun read _ _ => ?_
  refine obeys_finish ?_
  cases here : read.published publication.place with
  | none => exact nofun
  | some file =>
      intro answer accepted
      exact ⟨file, here, .inr accepted⟩

/-- A publisher keeps the directory lawful, whatever the others do. -/
theorem obeys_program
    (makes : ∀ file, publication.make = .ok file → made publication.place file) :
    publication.program.Obeys (Lawful start made) Later (Done publication) state := by
  refine obeys_read Later.refl fun read _ _ => ?_
  cases here : read.published publication.place with
  | some file =>
      intro answer accepted
      exact ⟨file, here, .inl accepted⟩
  | none =>
      cases result : publication.make with
      | error failure =>
          intro answer accepted
          cases accepted
      | ok file =>
          intro now _ lawful
          refine ⟨lawful.onward rfl, write_later file now, ?_⟩
          cases full : publication.full with
          | some failure =>
              simp only
              exact obeys_finish nofun
          | none =>
              simp only
              refine obeys_linked (Nat.lt_succ_self _) fun other written => ?_
              have same : some file = some other :=
                (write_own file now).symm.trans written
              exact makes other (result.trans (congrArg Except.ok (Option.some.inj same)))

variable {Call : Type} (publication : Call → Publication Place File Failure Answer)
  (moves : List (SystemMove Call Empty))

def serve (call : Call) : Program (Directory Place File) (Except Failure Answer) :=
  (publication call).program

def undisturbed (_ : Empty) (directory : Directory Place File) : Directory Place File :=
  directory

def opened (start : Place → Option File) :
    System (Directory Place File) Call (Except Failure Answer) :=
  { shared := { drawn := 0, published := start, temporary := fun _ => none }, running := [] }

abbrev steps (move : SystemMove Call Empty)
    (system : System (Directory Place File) Call (Except Failure Answer)) :
    Outcome (System (Directory Place File) Call (Except Failure Answer)) Empty :=
  System.step (serve publication) undisturbed move system

def MadeIn (place : Place) (file : File) : Prop :=
  ∃ call, SystemMove.start call ∈ moves ∧ (publication call).place = place ∧
    (publication call).make = .ok file

theorem rules (start : Place → Option File) :
    System.Rules (serve publication) undisturbed
      (fun call => SystemMove.start call ∈ moves) (Lawful start (MadeIn publication moves)) Later
      (fun call => Done (publication call)) where
  refl := Later.refl
  transitive := Later.trans
  stable := fun onward _ done => done_stable onward done
  starts := fun call arrived _ => obeys_program fun _ makes => ⟨call, arrived, rfl, makes⟩
  changes := fun what => what.elim

omit [DecidableEq Place] in
theorem opened_orderly (start : Place → Option File) :
    System.Orderly (Lawful start (MadeIn publication moves)) Later
      (fun call => Done (publication call)) (opened start) :=
  ⟨⟨fun _ _ known => known, fun _ _ here => .inl here⟩, nofun⟩

theorem reached_orderly (start : Place → Option File) :
    System.Orderly (Lawful start (MadeIn publication moves)) Later
      (fun call => Done (publication call))
      (arrival (steps publication) moves (opened start)) :=
  (System.orderly_run (rules publication moves start) (opened_orderly publication moves start)
    fun _ arrived => arrived).1

/-- What is published stays published. -/
theorem published_stays (start : Place → Option File) (further : List (SystemMove Call Empty))
    {place : Place} {file : File}
    (here : (arrival (steps publication) moves (opened start)).shared.published place =
      some file) :
    (arrival (steps publication) further
      (arrival (steps publication) moves (opened start))).shared.published place = some file := by
  have all := System.orderly_run (rules publication (moves ++ further) start)
    (opened_orderly publication (moves ++ further) start)
    (fun call arrived => List.mem_append_left further arrived)
  exact (System.orderly_run (rules publication (moves ++ further) start) all.1
    fun call arrived => List.mem_append_right moves arrived).2.published place file here

end Linking

end PublishOnce

end Devproof
