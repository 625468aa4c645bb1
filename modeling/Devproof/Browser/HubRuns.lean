import Devproof.Browser.ConnectionHub

/-!
What every run of the gateways keeps: a gateway leaves no open socket behind, and a message goes
over the one connection it is addressed to.
-/

namespace Devproof

namespace ConnectionHub

variable {Gateway Runtime : Type} {system next : System Gateway Runtime}

structure SameSocket (socket former : Socket Gateway Runtime) : Prop where
  gateway : socket.gateway = former.gateway
  runtime : socket.runtime = former.runtime
  generation : socket.generation = former.generation

def Fits (system : System Gateway Runtime) (delivery : Delivery) : Prop :=
  ∃ address socket, system.messages[delivery.message]? = some address ∧
    system.sockets[delivery.socket]? = some socket ∧ socket.runtime = address.runtime ∧
    socket.generation = address.generation

def Connects (sockets : List (Socket Gateway Runtime)) (gateway : Gateway) (runtime : Runtime)
    (connection : Connection) : Prop :=
  ∃ socket, sockets[connection.socket]? = some socket ∧ socket.gateway = gateway ∧
    socket.runtime = runtime ∧ socket.generation = connection.generation

def Current (system : System Gateway Runtime) (id : Nat) (socket : Socket Gateway Runtime) : Prop :=
  ∃ connection, system.connections socket.gateway socket.runtime = some connection ∧
    connection.socket = id

structure Lawful (system : System Gateway Runtime) : Prop where
  connections : ∀ gateway runtime connection,
    system.connections gateway runtime = some connection →
      Connects system.sockets gateway runtime connection
  current : ∀ (id : Nat) socket, system.sockets[id]? = some socket → socket.registered = true →
    socket.isOpen = true → Current system id socket
  bounded : ∀ (id : Nat) socket, system.sockets[id]? = some socket →
    socket.generation ≤ system.generation socket.runtime
  unique : ∀ (first second : Nat) socket other, system.sockets[first]? = some socket →
    system.sockets[second]? = some other → socket.runtime = other.runtime →
    socket.generation = other.generation → first = second
  delivered : ∀ delivery ∈ system.delivered, Fits system delivery

section Modified

variable {sockets : List (Socket Gateway Runtime)} {id place : Nat}
  {update : Socket Gateway Runtime → Socket Gateway Runtime}

theorem modified {socket : Socket Gateway Runtime}
    (here : (sockets.modify id update)[place]? = some socket) :
    ∃ former, sockets[place]? = some former ∧
      socket = if id = place then update former else former := by
  rw [List.getElem?_modify] at here
  obtain ⟨former, found, rfl⟩ := Option.map_eq_some_iff.mp here
  exact ⟨former, found, rfl⟩

theorem SameSocket.refl (socket : Socket Gateway Runtime) : SameSocket socket socket :=
  ⟨rfl, rfl, rfl⟩

theorem modified_same (kept : ∀ socket, SameSocket (update socket) socket)
    {socket : Socket Gateway Runtime}
    (here : (sockets.modify id update)[place]? = some socket) :
    ∃ former, sockets[place]? = some former ∧ SameSocket socket former := by
  obtain ⟨former, found, rfl⟩ := modified here
  refine ⟨former, found, ?_⟩
  split
  · exact kept former
  · exact .refl former

theorem found_modified (kept : ∀ socket, SameSocket (update socket) socket)
    {former : Socket Gateway Runtime} (found : sockets[place]? = some former) :
    ∃ socket, (sockets.modify id update)[place]? = some socket ∧ SameSocket socket former := by
  refine ⟨if id = place then update former else former, ?_, ?_⟩
  · rw [List.getElem?_modify, found]
    rfl
  · split
    · exact kept former
    · exact .refl former

theorem Connects.modify (kept : ∀ socket, SameSocket (update socket) socket)
    {gateway : Gateway} {runtime : Runtime} {connection : Connection}
    (connects : Connects sockets gateway runtime connection) :
    Connects (sockets.modify id update) gateway runtime connection := by
  obtain ⟨former, found, here, its, dated⟩ := connects
  obtain ⟨socket, now, same⟩ := found_modified kept found
  exact ⟨socket, now, same.gateway.trans here, same.runtime.trans its,
    same.generation.trans dated⟩

theorem Lawful.modify (lawful : Lawful system)
    (changed : next.sockets = system.sockets.modify id update)
    (kept : ∀ socket, SameSocket (update socket) socket)
    (generation : next.generation = system.generation) (messages : next.messages = system.messages)
    (delivered : next.delivered = system.delivered)
    (connections : ∀ gateway runtime connection,
      next.connections gateway runtime = some connection →
        Connects system.sockets gateway runtime connection)
    (current : ∀ (place : Nat) socket, next.sockets[place]? = some socket →
      socket.registered = true → socket.isOpen = true → Current next place socket) :
    Lawful next where
  connections gateway runtime connection connected := by
    rw [changed]
    exact (connections gateway runtime connection connected).modify kept
  current := current
  bounded place socket here := by
    rw [changed] at here
    obtain ⟨former, found, same⟩ := modified_same kept here
    rw [generation, same.runtime, same.generation]
    exact lawful.bounded place former found
  unique first second socket other here there runtime same := by
    rw [changed] at here there
    obtain ⟨former, found, own⟩ := modified_same kept here
    obtain ⟨before, found', own'⟩ := modified_same kept there
    rw [own.runtime, own'.runtime] at runtime
    rw [own.generation, own'.generation] at same
    exact lawful.unique first second former before found found' runtime same
  delivered delivery sent := by
    rw [delivered] at sent
    obtain ⟨address, former, asked, found, runtime, dated⟩ := lawful.delivered delivery sent
    obtain ⟨socket, now, same⟩ : ∃ socket, next.sockets[delivery.socket]? = some socket ∧
        SameSocket socket former := by
      rw [changed]
      exact found_modified kept found
    exact ⟨address, socket, by rw [messages]; exact asked, now, same.runtime.trans runtime,
      same.generation.trans dated⟩

end Modified

theorem Lawful.closeSocket (lawful : Lawful system) (id : Nat) :
    Lawful (system.closeSocket id) := by
  refine lawful.modify rfl (fun socket => ⟨rfl, rfl, rfl⟩) rfl rfl rfl lawful.connections
    fun place socket here registered opened => ?_
  obtain ⟨former, found, rfl⟩ := modified here
  split at registered
  · rw [if_pos ‹_›] at opened
    cases opened
  · rw [if_neg ‹_›] at opened ⊢
    exact lawful.current place former found registered opened

theorem closeSocket_shut (system : System Gateway Runtime) (id : Nat)
    {socket : Socket Gateway Runtime}
    (here : (system.closeSocket id).sockets[id]? = some socket) : socket.isOpen = false := by
  obtain ⟨former, -, rfl⟩ := modified here
  rw [if_pos rfl]

theorem closeSocket_other {system : System Gateway Runtime} {id place : Nat} (apart : place ≠ id) :
    (system.closeSocket id).sockets[place]? = system.sockets[place]? := by
  simp [System.closeSocket, Ne.symm apart]

theorem Lawful.published (lawful : Lawful system) (events : List (BusEvent Runtime)) :
    Lawful { system with published := events } :=
  ⟨lawful.connections, lawful.current, lawful.bounded, lawful.unique, lawful.delivered⟩

theorem Lawful.handed (lawful : Lawful system) {delivery : Delivery}
    (fits : Fits system delivery) :
    Lawful { system with delivered := system.delivered ++ [delivery] } where
  connections := lawful.connections
  current := lawful.current
  bounded := lawful.bounded
  unique := lawful.unique
  delivered other sent := by
    rcases List.mem_append.mp sent with before | new
    · exact lawful.delivered other before
    · rw [List.mem_singleton.mp new]
      exact fits

theorem Lawful.address (lawful : Lawful system) (runtime : Runtime) (generation : Option Nat) :
    Lawful (system.address runtime generation) where
  connections := lawful.connections
  current := lawful.current
  bounded := lawful.bounded
  unique := lawful.unique
  delivered delivery sent := by
    obtain ⟨address, socket, asked, found, own, dated⟩ := lawful.delivered delivery sent
    have within := (List.getElem?_eq_some_iff.mp asked).1
    refine ⟨address, socket, ?_, found, own, dated⟩
    rw [System.address, List.getElem?_append_left within]
    exact asked

theorem localSocket_fits (lawful : Lawful system) {gateway : Gateway} {message : Nat}
    {address : Address Runtime} (asked : system.messages[message]? = some address) {socket : Nat}
    (found : system.localSocket gateway address = some socket) :
    Fits system { message, socket } := by
  obtain ⟨connection, connected, chosen⟩ := Option.bind_eq_some_iff.mp found
  split at chosen
  next meets =>
    cases chosen
    obtain ⟨former, here, -, own, dated⟩ := lawful.connections _ _ connection connected
    exact ⟨address, former, asked, here, own, dated.trans meets.1⟩
  next => cases chosen

theorem Lawful.send (lawful : Lawful system) (gateway : Gateway) (message : Nat)
    (succeeds : Bool) : Lawful (system.send gateway message succeeds) := by
  unfold System.send
  split
  next => exact lawful
  next address asked =>
    split
    next => exact lawful.published _
    next socket found => exact (lawful.handed (localSocket_fits lawful asked found)).published _

theorem Lawful.receive [DecidableEq Gateway] (lawful : Lawful system) (gateway : Gateway)
    (event : Nat) : Lawful (system.receive gateway event) := by
  unfold System.receive
  split
  next => exact lawful
  next runtime generation heard =>
    split
    · exact lawful
    · split
      · exact lawful.closeSocket _
      · exact lawful
  next message heard =>
    split
    next => exact lawful
    next socket found =>
      obtain ⟨address, asked, chosen⟩ := Option.bind_eq_some_iff.mp found
      exact lawful.handed (localSocket_fits lawful asked chosen)

theorem Lawful.handshake [DecidableEq Runtime] (lawful : Lawful system) (gateway : Gateway)
    (runtime : Runtime) : Lawful (system.handshake gateway runtime) := by
  have earlier : ∀ (id : Nat) (socket : Socket Gateway Runtime),
      (system.handshake gateway runtime).sockets[id]? = some socket →
      system.sockets[id]? = some socket ∨ (id = system.sockets.length ∧
        socket = { gateway, runtime, generation := system.generation runtime + 1 }) := by
    intro id socket found
    simp only [System.handshake] at found
    rcases Nat.lt_trichotomy id system.sockets.length with below | last | beyond
    · rw [List.getElem?_append_left below] at found
      exact .inl found
    · rw [last, List.getElem?_concat_length, Option.some.injEq] at found
      exact .inr ⟨last, found.symm⟩
    · have bound := (List.getElem?_eq_some_iff.mp found).1
      rw [List.length_append, List.length_singleton] at bound
      omega
  have kept : ∀ {id : Nat} {socket : Socket Gateway Runtime}, system.sockets[id]? = some socket →
      (system.handshake gateway runtime).sockets[id]? = some socket := by
    intro id socket found
    rw [System.handshake, List.getElem?_append_left (List.getElem?_eq_some_iff.mp found).1]
    exact found
  have grows : ∀ its, system.generation its ≤
      (system.handshake gateway runtime).generation its := by
    intro its
    simp only [System.handshake]
    by_cases same : its = runtime
    · rw [same, Function.update_self]
      exact Nat.le_succ _
    · exact Nat.le_of_eq (Function.update_of_ne same _ _).symm
  -- A new socket is newer than every other of its Runtime.
  have newer : ∀ (id : Nat) (socket : Socket Gateway Runtime), system.sockets[id]? = some socket →
      socket.runtime = runtime → socket.generation ≠ system.generation runtime + 1 := by
    intro id socket found own same
    have bound := lawful.bounded id socket found
    rw [own, same] at bound
    omega
  refine ⟨fun its own connection connected => ?_, fun id socket found registered opened => ?_,
    fun id socket found => ?_, fun first second socket other found there own same => ?_,
    fun delivery sent => ?_⟩
  · obtain ⟨socket, found, rest⟩ := lawful.connections its own connection connected
    exact ⟨socket, kept found, rest⟩
  · rcases earlier id socket found with before | ⟨-, rfl⟩
    · exact lawful.current id socket before registered opened
    · cases registered
  · rcases earlier id socket found with before | ⟨-, rfl⟩
    · exact Nat.le_trans (lawful.bounded id socket before) (grows _)
    · simp [System.handshake]
  · rcases earlier first socket found with before | ⟨last, rfl⟩
    · rcases earlier second other there with before' | ⟨last', rfl⟩
      · exact lawful.unique first second socket other before before' own same
      · exact absurd same (newer first socket before own)
    · rcases earlier second other there with before' | ⟨last', rfl⟩
      · exact absurd same.symm (newer second other before' own.symm)
      · exact last.trans last'.symm
  · obtain ⟨address, socket, asked, found, rest⟩ := lawful.delivered delivery sent
    exact ⟨address, socket, asked, kept found, rest⟩

theorem Lawful.fence [DecidableEq Runtime] (lawful : Lawful system) (runtime : Runtime) :
    Lawful (system.fence runtime) where
  connections := lawful.connections
  current := lawful.current
  bounded id socket found := by
    have bound := lawful.bounded id socket found
    simp only [System.fence]
    by_cases same : socket.runtime = runtime
    · rw [same] at bound
      rw [same, Function.update_self]
      exact Nat.le_succ_of_le bound
    · rw [Function.update_of_ne same]
      exact bound
  unique := lawful.unique
  delivered := lawful.delivered

variable [DecidableEq Gateway] [DecidableEq Runtime]

theorem connect_same (system : System Gateway Runtime) (gateway : Gateway) (runtime : Runtime)
    (connection : Option Connection) :
    (system.connect gateway runtime connection).connections gateway runtime = connection := by
  simp [System.connect]

theorem connect_other {gateway other : Gateway} {runtime its : Runtime}
    (apart : ¬ (other = gateway ∧ its = runtime)) (connection : Option Connection) :
    (system.connect gateway runtime connection).connections other its =
      system.connections other its := by
  simp only [System.connect]
  by_cases same : other = gateway
  · subst same
    rw [Function.update_self, Function.update_of_ne fun equal => apart ⟨rfl, equal⟩]
  · rw [Function.update_of_ne same]

theorem Lawful.enter (lawful : Lawful system) {id : Nat} {socket : Socket Gateway Runtime}
    (here : system.sockets[id]? = some socket)
    (alone : ∀ (place : Nat) other, system.sockets[place]? = some other →
      other.registered = true → other.isOpen = true → other.gateway = socket.gateway →
      other.runtime = socket.runtime → place = id) : Lawful (system.enter id socket) := by
  refine lawful.modify rfl (fun socket => ⟨rfl, rfl, rfl⟩) rfl rfl rfl
    (fun gateway runtime connection connected => ?_)
    fun place other there registered opened => ?_
  · by_cases same : gateway = socket.gateway ∧ runtime = socket.runtime
    · obtain ⟨rfl, rfl⟩ := same
      rw [System.enter, connect_same] at connected
      cases connected
      exact ⟨socket, here, rfl, rfl, rfl⟩
    · rw [System.enter, connect_other same] at connected
      exact lawful.connections gateway runtime connection connected
  · obtain ⟨former, found, rfl⟩ := modified there
    by_cases own : id = place
    · subst own
      obtain rfl := Option.some.inj (here.symm.trans found)
      rw [if_pos rfl]
      exact ⟨_, connect_same _ _ _ _, rfl⟩
    · rw [if_neg own] at registered opened ⊢
      by_cases same : former.gateway = socket.gateway ∧ former.runtime = socket.runtime
      · exact absurd (alone place former found registered opened same.1 same.2).symm own
      · obtain ⟨connection, connected, its⟩ := lawful.current place former found registered opened
        exact ⟨connection, (connect_other same _).trans connected, its⟩

theorem Lawful.register (lawful : Lawful system) (id : Nat) : Lawful (system.register id) := by
  unfold System.register
  split
  next => exact lawful
  next socket here =>
    split
    next =>
      split
      next free =>
        refine lawful.enter here fun place other found registered opened gateway runtime => ?_
        obtain ⟨connection, connected, -⟩ := lawful.current place other found registered opened
        rw [gateway, runtime, free] at connected
        cases connected
      next previous connected =>
        have only : ∀ (place : Nat) other, system.sockets[place]? = some other →
            other.registered = true → other.isOpen = true → other.gateway = socket.gateway →
            other.runtime = socket.runtime → place = previous.socket := by
          intro place other found registered opened gateway runtime
          obtain ⟨connection, own, its⟩ := lawful.current place other found registered opened
          rw [gateway, runtime, connected] at own
          cases own
          exact its.symm
        split
        next => exact lawful.closeSocket id
        next =>
          split
          next apart =>
            have here' : (system.closeSocket previous.socket).sockets[id]? = some socket :=
              (closeSocket_other (Ne.symm apart)).trans here
            refine (lawful.closeSocket previous.socket).enter here'
              fun place other found registered opened gateway runtime => ?_
            by_cases former : place = previous.socket
            · subst former
              rw [closeSocket_shut system _ found] at opened
              cases opened
            · rw [closeSocket_other former] at found
              exact absurd (only place other found registered opened gateway runtime) former
          next same =>
            refine lawful.enter here fun place other found registered opened gateway runtime => ?_
            exact (only place other found registered opened gateway runtime).trans
              (not_not.mp same)
    next => exact lawful

theorem Lawful.closed (lawful : Lawful system) (id : Nat) : Lawful (system.closed id) := by
  unfold System.closed
  split
  next => exact lawful
  next shut =>
    unfold System.unregister
    split
    next => exact lawful
    next socket here =>
      split
      next mine =>
        obtain ⟨last, connected, its⟩ := (Option.any_eq_true _ _).mp mine
        refine ⟨fun gateway runtime connection after => ?_,
          fun place other found registered opened => ?_, lawful.bounded, lawful.unique,
          lawful.delivered⟩
        · by_cases same : gateway = socket.gateway ∧ runtime = socket.runtime
          · obtain ⟨rfl, rfl⟩ := same
            rw [connect_same] at after
            cases after
          · rw [connect_other same] at after
            exact lawful.connections gateway runtime connection after
        · obtain ⟨connection, before, own⟩ := lawful.current place other found registered opened
          by_cases same : other.gateway = socket.gateway ∧ other.runtime = socket.runtime
          · -- The connection that goes is of the closed socket.
            rw [same.1, same.2, connected] at before
            cases before
            have equal : place = id := own.symm.trans (of_decide_eq_true its)
            have here' : system.sockets[id]? = some other := equal ▸ found
            rw [here'] at shut
            exact absurd opened shut
          · exact ⟨connection, (connect_other same _).trans before, own⟩
      next => exact lawful

theorem step_lawful (lawful : Lawful system) (move : Move Gateway Runtime) :
    Lawful (step system move) := by
  cases move with
  | handshake gateway runtime => exact lawful.handshake gateway runtime
  | fence runtime => exact lawful.fence runtime
  | register socket => exact lawful.register socket
  | announce socket =>
      simp only [step, System.announce]
      split
      · exact lawful
      · exact lawful.published _
  | drop socket => exact lawful.closeSocket socket
  | closed socket => exact lawful.closed socket
  | close gateway runtime =>
      simp only [step, System.close]
      split
      · exact lawful.closeSocket _
      · exact lawful
  | address runtime generation => exact lawful.address runtime generation
  | send gateway message succeeds => exact lawful.send gateway message succeeds
  | receive gateway event => exact lawful.receive gateway event

theorem reached_snoc (moves : List (Move Gateway Runtime)) (move : Move Gateway Runtime) :
    reached (moves ++ [move]) = step (reached moves) move := by
  simp [reached]

theorem reached_lawful (moves : List (Move Gateway Runtime)) : Lawful (reached moves) := by
  induction moves using List.reverseRecOn with
  | nil => exact ⟨nofun, nofun, nofun, nofun, nofun⟩
  | append_singleton moves move ih =>
      rw [reached_snoc]
      exact step_lawful ih move

/-- Messages keep their places. -/
theorem step_messages (system : System Gateway Runtime) (move : Move Gateway Runtime) :
    system.messages <+: (step system move).messages := by
  cases move with
  | address runtime generation => exact List.prefix_append _ _
  | handshake | fence | drop => exact List.prefix_refl _
  | register socket =>
      simp only [step, System.register]
      repeat' split
      all_goals exact List.prefix_refl _
  | announce socket =>
      simp only [step, System.announce]
      split <;> exact List.prefix_refl _
  | closed socket =>
      simp only [step, System.closed, System.unregister]
      repeat' split
      all_goals exact List.prefix_refl _
  | close gateway runtime =>
      simp only [step, System.close]
      split <;> exact List.prefix_refl _
  | send gateway message succeeds =>
      simp only [step, System.send]
      repeat' split
      all_goals exact List.prefix_refl _
  | receive gateway event =>
      simp only [step, System.receive]
      repeat' split
      all_goals exact List.prefix_refl _

theorem reached_messages (before after : List (Move Gateway Runtime)) :
    (reached before).messages <+: (reached (before ++ after)).messages := by
  induction after using List.reverseRecOn with
  | nil =>
      rewrite [List.append_nil]
      exact List.prefix_refl _
  | append_singleton after move ih =>
      rw [← List.append_assoc, reached_snoc]
      exact ih.trans (step_messages _ move)

/-- After any moves: an open socket that was registered is the connection of its Runtime on its
    gateway.  A message for a Runtime goes over one socket at most, however often it is sent and
    by whichever gateway, and that is of the newest connection that the Runtime had made when
    the message was addressed. -/
theorem delivered_as_addressed (moves : List (Move Gateway Runtime)) :
    (∀ (id : Nat) socket, (reached moves).sockets[id]? = some socket → socket.registered = true →
      socket.isOpen = true → Current (reached moves) id socket) ∧
    ∀ before runtime after, moves = before ++ .address runtime none :: after →
      ∀ delivery ∈ (reached moves).delivered,
        delivery.message = (reached before).messages.length →
        (∀ other ∈ (reached moves).delivered, other.message = delivery.message →
          other.socket = delivery.socket) ∧
        ∃ socket, (reached moves).sockets[delivery.socket]? = some socket ∧
          socket.runtime = runtime ∧ socket.generation = (reached before).generation runtime ∧
          ∀ (id : Nat) former, (reached before).sockets[id]? = some former →
            former.runtime = runtime → former.generation ≤ socket.generation := by
  have lawful := reached_lawful moves
  refine ⟨lawful.current, ?_⟩
  rintro before runtime after rfl delivery sent asked
  have addressed : (reached (before ++ .address runtime none :: after)).messages[
      delivery.message]? = some ⟨runtime, (reached before).generation runtime⟩ := by
    have made : (reached (before ++ [.address runtime none])).messages =
        (reached before).messages ++ [⟨runtime, (reached before).generation runtime⟩] := by
      rw [reached_snoc]
      rfl
    have kept := reached_messages (before ++ [.address runtime none]) after
    rw [made, List.append_assoc, List.singleton_append] at kept
    obtain ⟨rest, same⟩ := kept
    rw [← same, asked, List.append_assoc, List.getElem?_append_right (Nat.le_refl _), Nat.sub_self]
    rfl
  obtain ⟨address, socket, own, found, its, dated⟩ := lawful.delivered delivery sent
  obtain rfl := Option.some.inj (addressed.symm.trans own)
  refine ⟨fun other resent same => ?_, socket, found, its, dated, fun id former there mine => ?_⟩
  · obtain ⟨again, second, own', found', its', dated'⟩ := lawful.delivered other resent
    rw [same] at own'
    obtain rfl := Option.some.inj (addressed.symm.trans own')
    exact lawful.unique _ _ second socket found' found (its'.trans its.symm)
      (dated'.trans dated.symm)
  · have bound := (reached_lawful before).bounded id former there
    rw [mine] at bound
    exact Nat.le_trans bound (Nat.le_of_eq dated.symm)

end ConnectionHub

end Devproof
