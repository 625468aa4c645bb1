import Mathlib.Data.List.Induction
import Mathlib.Logic.Function.Basic

/-!
Model of runtime-connection-hub.service.ts: the sockets of the Runtimes on the gateways, and the
messages that go over them, directly or over the channel that the gateways share.  A handshake of
runtime-gateway.service.ts draws the generation of its connection from the row of the Runtime.
-/

namespace Devproof

namespace ConnectionHub

variable {Gateway Runtime : Type}

structure Socket (Gateway Runtime : Type) where
  gateway : Gateway
  runtime : Runtime
  generation : Nat
  /-- The `readyState` is `OPEN`. -/
  isOpen : Bool := true
  /-- `register` has made it the connection of its Runtime. -/
  registered : Bool := false

structure Connection where
  socket : Nat
  generation : Nat

structure Address (Runtime : Type) where
  runtime : Runtime
  generation : Nat

inductive BusEvent (Runtime : Type) where
  | deliver (message : Nat)
  | disconnectOlderGateways (runtime : Runtime) (connectionGeneration : Nat)

structure Delivery where
  message : Nat
  socket : Nat

structure System (Gateway Runtime : Type) where
  /-- The `connectionGeneration` of the row of the Runtime. -/
  generation : Runtime → Nat := fun _ => 0
  sockets : List (Socket Gateway Runtime) := []
  connections : Gateway → Runtime → Option Connection := fun _ _ => none
  messages : List (Address Runtime) := []
  published : List (BusEvent Runtime) := []
  delivered : List Delivery := []

inductive Move (Gateway Runtime : Type) where
  | handshake (gateway : Gateway) (runtime : Runtime)
  /-- The pairing of a drained Runtime, or a new ticket for it. -/
  | fence (runtime : Runtime)
  | register (socket : Nat)
  | announce (socket : Nat)
  /-- The socket is closed by either side. -/
  | drop (socket : Nat)
  /-- The `close` event of the socket. -/
  | closed (socket : Nat)
  | close (gateway : Gateway) (runtime : Runtime)
  /-- `send` at its first `await`, to the given generation or the one of the row. -/
  | address (runtime : Runtime) (generation : Option Nat)
  | send (gateway : Gateway) (message : Nat) (succeeds : Bool)
  /-- The channel gives the gateway some event that was published. -/
  | receive (gateway : Gateway) (event : Nat)

variable [DecidableEq Gateway] [DecidableEq Runtime]

namespace System

variable (system : System Gateway Runtime)

def handshake (gateway : Gateway) (runtime : Runtime) : System Gateway Runtime :=
  { system with
    generation := Function.update system.generation runtime (system.generation runtime + 1)
    sockets := system.sockets ++
      [{ gateway, runtime, generation := system.generation runtime + 1 }] }

def fence (runtime : Runtime) : System Gateway Runtime :=
  { system with
    generation := Function.update system.generation runtime (system.generation runtime + 1) }

def closeSocket (id : Nat) : System Gateway Runtime :=
  { system with sockets := system.sockets.modify id fun socket => { socket with isOpen := false } }

def connect (gateway : Gateway) (runtime : Runtime) (connection : Option Connection) :
    System Gateway Runtime :=
  { system with
    connections := Function.update system.connections gateway
      (Function.update (system.connections gateway) runtime connection) }

def enter (id : Nat) (socket : Socket Gateway Runtime) : System Gateway Runtime :=
  { system.connect socket.gateway socket.runtime
      (some { socket := id, generation := socket.generation }) with
    sockets := system.sockets.modify id fun socket => { socket with registered := true } }

def register (id : Nat) : System Gateway Runtime :=
  match system.sockets[id]? with
  | none => system
  | some socket =>
      if socket.isOpen then
        match system.connections socket.gateway socket.runtime with
        | none => system.enter id socket
        | some previous =>
            if socket.generation ≤ previous.generation ∧ previous.socket ≠ id then
              system.closeSocket id
            else if previous.socket ≠ id then
              (system.closeSocket previous.socket).enter id socket
            else system.enter id socket
      else system

def announce (id : Nat) : System Gateway Runtime :=
  match system.sockets[id]? with
  | none => system
  | some socket =>
      { system with
        published := system.published ++
          [.disconnectOlderGateways socket.runtime socket.generation] }

def unregister (id : Nat) : System Gateway Runtime :=
  match system.sockets[id]? with
  | none => system
  | some socket =>
      if (system.connections socket.gateway socket.runtime).any fun current =>
          current.socket = id then
        system.connect socket.gateway socket.runtime none
      else system

def closed (id : Nat) : System Gateway Runtime :=
  if (system.sockets[id]?).any fun socket => socket.isOpen then system else system.unregister id

def close (gateway : Gateway) (runtime : Runtime) : System Gateway Runtime :=
  match system.connections gateway runtime with
  | some current => system.closeSocket current.socket
  | none => system

def address (runtime : Runtime) (generation : Option Nat) : System Gateway Runtime :=
  { system with
    messages := system.messages ++
      [{ runtime, generation := generation.getD (system.generation runtime) }] }

def localSocket (gateway : Gateway) (address : Address Runtime) : Option Nat :=
  (system.connections gateway address.runtime).bind fun connection =>
    if connection.generation = address.generation ∧
        (system.sockets[connection.socket]?).any (fun socket => socket.isOpen) then
      some connection.socket
    else none

def send (gateway : Gateway) (message : Nat) (succeeds : Bool) : System Gateway Runtime :=
  match system.messages[message]? with
  | none => system
  | some address =>
      match system.localSocket gateway address with
      | none => { system with published := system.published ++ [.deliver message] }
      | some socket =>
          { system with
            delivered := system.delivered ++ [{ message, socket }]
            published :=
              if succeeds then system.published else system.published ++ [.deliver message] }

def receive (gateway : Gateway) (event : Nat) : System Gateway Runtime :=
  match system.published[event]? with
  | none => system
  | some (.disconnectOlderGateways runtime generation) =>
      match system.connections gateway runtime with
      | none => system
      | some current =>
          if current.generation < generation then system.closeSocket current.socket else system
  | some (.deliver message) =>
      match (system.messages[message]?).bind (system.localSocket gateway) with
      | none => system
      | some socket => { system with delivered := system.delivered ++ [{ message, socket }] }

end System

def step (system : System Gateway Runtime) : Move Gateway Runtime → System Gateway Runtime
  | .handshake gateway runtime => system.handshake gateway runtime
  | .fence runtime => system.fence runtime
  | .register socket => system.register socket
  | .announce socket => system.announce socket
  | .drop socket => system.closeSocket socket
  | .closed socket => system.closed socket
  | .close gateway runtime => system.close gateway runtime
  | .address runtime generation => system.address runtime generation
  | .send gateway message succeeds => system.send gateway message succeeds
  | .receive gateway event => system.receive gateway event

def reached (moves : List (Move Gateway Runtime)) : System Gateway Runtime :=
  moves.foldl step {}

end ConnectionHub

end Devproof
