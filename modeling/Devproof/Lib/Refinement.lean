import Mathlib.Data.List.Induction

/-!
Machines that answer each request, and one machine that answers as another.
-/

namespace Devproof

namespace Refinement

variable {Request Reply State Other : Type}

def final (serve : Request → State → State × Reply) (requests : List Request) (state : State) :
    State :=
  requests.foldl (fun state request => (serve request state).1) state

def replies (serve : Request → State → State × Reply) : List Request → State → List Reply
  | [], _ => []
  | request :: rest, state =>
      (serve request state).2 :: replies serve rest (serve request state).1

theorem final_snoc (serve : Request → State → State × Reply) (requests : List Request)
    (request : Request) (state : State) :
    final serve (requests ++ [request]) state = (serve request (final serve requests state)).1 := by
  simp [final]

def Simulates (serve : Request → State → State × Reply)
    (serve' : Request → Other → Other × Reply) (relation : State → Other → Prop) : Prop :=
  ∀ request state state', relation state state' →
    (serve request state).2 = (serve' request state').2 ∧
      relation (serve request state).1 (serve' request state').1

variable {serve : Request → State → State × Reply} {serve' : Request → Other → Other × Reply}
  {relation : State → Other → Prop}

theorem Simulates.final (simulates : Simulates serve serve' relation) (requests : List Request)
    {state : State} {state' : Other} (related : relation state state') :
    relation (final serve requests state) (final serve' requests state') := by
  induction requests generalizing state state' with
  | nil => exact related
  | cons request rest ih => exact ih (simulates request state state' related).2

theorem Simulates.replies (simulates : Simulates serve serve' relation) (requests : List Request)
    {state : State} {state' : Other} (related : relation state state') :
    replies serve requests state = replies serve' requests state' := by
  induction requests generalizing state state' with
  | nil => rfl
  | cons request rest ih =>
      obtain ⟨same, onward⟩ := simulates request state state' related
      rw [Refinement.replies, Refinement.replies, same, ih onward]

/-- What holds of no requests and of one request more holds of all. -/
theorem history {holds : List Request → State → Prop} {start : State} (initially : holds [] start)
    (kept : ∀ requests request state, holds requests state →
      holds (requests ++ [request]) (serve request state).1) (requests : List Request) :
    holds requests (Refinement.final serve requests start) := by
  induction requests using List.reverseRecOn with
  | nil => exact initially
  | append_singleton requests request ih =>
      rw [final_snoc]
      exact kept requests request _ ih

end Refinement

end Devproof
