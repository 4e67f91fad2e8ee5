import UtpSafety.Proof.Calls
import UtpSafety.Proof.Socket

/-!
# What an action can do to a network

A packet that fits is encoded in at most `maxDatagramSize` bytes, so that the receive buffer holds all
of it, and is decoded to itself. `Network.Moved` lists everything that a step can do while all
datagrams in flight fit, with the conditions under which it does it. The invariants of whole runs are
proved along this list.
-/

namespace UtpSafety

namespace Packet.Fits

variable {packet : Packet} (hfits : packet.Fits)
include hfits

theorem length_intoBytes : packet.intoBytes.length ≤ maxDatagramSize := by
  have hdata := hfits.data
  rw [intoBytes_eq, hfits.extensions]
  simp only [List.length_append, length_putHeader, putExtensions, List.length_nil]
  simp only [maxDataSegmentSize, maxDatagramSize, packetHeaderLen] at *
  omega

theorem tryFrom_received :
    Packet.tryFrom (packet.intoBytes.take maxDatagramSize) = .ok (.ok packet) := by
  rw [List.take_of_length_le hfits.length_intoBytes]
  apply tryFrom_intoBytes_of_wellFormed
  refine ⟨hfits.version, ?_⟩
  simp [hfits.extensions]

theorem receiveDatagram_eq (socket : UtpSocket) (alive : Nat → Bool) (remoteAddr : SocketAddr) :
    socket.receiveDatagram alive packet.intoBytes remoteAddr
      = .ok ((socket.routePacket alive packet remoteAddr).1,
        (socket.routePacket alive packet remoteAddr).2.map fun channel => (channel, packet)) := by
  apply UtpSocket.receiveDatagram_of_decoded
  rw [decoded, hfits.tryFrom_received]

end Packet.Fits

namespace Connection

/-- The key under which the end is registered at its socket. -/
def key (connection : Connection) : UInt16 × SocketAddr :=
  (connection.connectionIdRecv, connection.remoteAddr)

@[simp]
theorem peer_peer (connection : Connection) : connection.peer.peer = connection := by
  obtain ⟨role, localAddr, remoteAddr, connectionId⟩ := connection
  cases role <;> rfl

theorem key_peer (connection : Connection) :
    connection.peer.key = (connection.connectionIdSend, connection.localAddr) := by
  obtain ⟨role, localAddr, remoteAddr, connectionId⟩ := connection
  cases role <;> rfl

end Connection

namespace Network

def withInFlight (network : Network) (inFlight : List Datagram) : Network :=
  { network with inFlight }

@[simp]
theorem withInFlight_sockets (network : Network) (inFlight : List Datagram) :
    (network.withInFlight inFlight).sockets = network.sockets := rfl

/-- The key of an end of a connection is free at its socket. -/
def Vacant (network : Network) (connection : Connection) : Prop :=
  (network.sockets connection.localAddr).routingTable.lookup
    (connection.connectionIdRecv, connection.remoteAddr) = none

/-- The key leads to the channel of the party that joins next. -/
def register (network : Network) (connection : Connection) : Network :=
  network.withSocket connection.localAddr
    { network.sockets connection.localAddr with
      routingTable := (network.sockets connection.localAddr).routingTable.insert
        (connection.connectionIdRecv, connection.remoteAddr) network.parties.length }

def withSyns (network : Network) (localAddr : SocketAddr) (synQueue : List (Packet × SocketAddr)) :
    Network :=
  network.withSocket localAddr { network.sockets localAddr with synQueue }

section WithSyns

variable (network : Network) (localAddr addr : SocketAddr) (synQueue : List (Packet × SocketAddr))

@[simp]
theorem withSyns_localAddr :
    ((network.withSyns localAddr synQueue).sockets addr).localAddr
      = (network.sockets addr).localAddr := by
  by_cases haddr : addr = localAddr
  · subst haddr
    simp [withSyns, withSocket]
  · simp [withSyns, withSocket, Function.update_of_ne haddr]

@[simp]
theorem withSyns_routingTable :
    ((network.withSyns localAddr synQueue).sockets addr).routingTable
      = (network.sockets addr).routingTable := by
  by_cases haddr : addr = localAddr
  · subst haddr
    simp [withSyns, withSocket]
  · simp [withSyns, withSocket, Function.update_of_ne haddr]

theorem withSyns_synQueue :
    ((network.withSyns localAddr synQueue).sockets addr).synQueue
      = if addr = localAddr then synQueue else (network.sockets addr).synQueue := by
  by_cases haddr : addr = localAddr
  · subst haddr
    simp [withSyns, withSocket]
  · simp [withSyns, withSocket, haddr]

end WithSyns

/-! ### Parties that stay

What relates every party to itself relates it to what it is after others have joined, and after one
party has changed, if it relates that one to what it has become. -/

section Stay

variable {network network' : Network} {related : Party → Party → Prop}

theorem exists_related_of_append {party : Party}
    (hparties : network'.parties = network.parties ++ [party])
    (hrefl : ∀ other, related other other) {index : Nat} {other : Party}
    (hother : network.parties[index]? = some other) :
    ∃ other', network'.parties[index]? = some other' ∧ related other other' := by
  refine ⟨other, ?_, hrefl other⟩
  rw [hparties, List.getElem?_append_left (List.getElem?_eq_some_iff.mp hother).1]
  exact hother

theorem exists_related_of_set {index : Nat} {party party' : Party}
    (hparties : network'.parties = network.parties.set index party')
    (hparty : network.parties[index]? = some party) (hrelated : related party party')
    (hrefl : ∀ other, related other other) {position : Nat} {other : Party}
    (hother : network.parties[position]? = some other) :
    ∃ other', network'.parties[position]? = some other' ∧ related other other' := by
  by_cases hsame : index = position
  · subst hsame
    rw [hparty, Option.some.injEq] at hother
    subst hother
    refine ⟨party', ?_, hrelated⟩
    rw [hparties, List.getElem?_set_self (List.getElem?_eq_some_iff.mp hparty).1]
  · refine ⟨other, ?_, hrefl other⟩
    rw [hparties, List.getElem?_set_ne hsame]
    exact hother

theorem get_of_set {index : Nat} {party party' : Party}
    (hparties : network'.parties = network.parties.set index party')
    (hparty : network.parties[index]? = some party) {position : Nat} {other : Party}
    (hother : network'.parties[position]? = some other) :
    (position = index ∧ other = party')
      ∨ (index ≠ position ∧ network.parties[position]? = some other) := by
  rw [hparties] at hother
  by_cases hsame : index = position
  · subst hsame
    rw [List.getElem?_set_self (List.getElem?_eq_some_iff.mp hparty).1, Option.some.injEq] at hother
    exact Or.inl ⟨rfl, hother.symm⟩
  · rw [List.getElem?_set_ne hsame] at hother
    exact Or.inr ⟨hsame, hother⟩

theorem get_of_append {party : Party} (hparties : network'.parties = network.parties ++ [party])
    {index : Nat} {other : Party} (hother : network'.parties[index]? = some other) :
    (index = network.parties.length ∧ other = party)
      ∨ (network.parties.length ≠ index ∧ network.parties[index]? = some other) := by
  rw [hparties] at hother
  by_cases hold : index < network.parties.length
  · rw [List.getElem?_append_left hold] at hother
    exact Or.inr ⟨by omega, hother⟩
  · rw [List.getElem?_append_right (by omega), List.getElem?_singleton] at hother
    split_ifs at hother with hindex
    exact Or.inl ⟨by omega, (Option.some.inj hother).symm⟩

end Stay

/-! ### The sockets after a party has joined -/

section Joined

variable {network network' : Network} {connection : Connection}
  {synQueue : List (Packet × SocketAddr)}
  (hsockets : network'.sockets = Function.update network.sockets connection.localAddr
    { network.sockets connection.localAddr with
      synQueue
      routingTable := (network.sockets connection.localAddr).routingTable.insert connection.key
        network.parties.length })
include hsockets

theorem localAddr_joined (addr : SocketAddr) :
    (network'.sockets addr).localAddr = (network.sockets addr).localAddr := by
  rw [hsockets]
  by_cases haddr : addr = connection.localAddr
  · subst haddr
    rw [Function.update_self]
  · rw [Function.update_of_ne haddr]

theorem lookup_joined (addr : SocketAddr) (key : UInt16 × SocketAddr) :
    (network'.sockets addr).routingTable.lookup key
      = if addr = connection.localAddr ∧ key = connection.key then some network.parties.length
        else (network.sockets addr).routingTable.lookup key := by
  rw [hsockets]
  by_cases haddr : addr = connection.localAddr
  · subst haddr
    rw [Function.update_self]
    dsimp only
    by_cases hkey : key = connection.key
    · rw [hkey, Finmap.lookup_insert, if_pos ⟨rfl, rfl⟩]
    · rw [Finmap.lookup_insert_of_ne _ hkey, if_neg fun h => hkey h.2]
  · rw [Function.update_of_ne haddr, if_neg fun h => haddr h.1]

theorem synQueue_joined (addr : SocketAddr) :
    (network'.sockets addr).synQueue
      = if addr = connection.localAddr then synQueue else (network.sockets addr).synQueue := by
  rw [hsockets]
  by_cases haddr : addr = connection.localAddr
  · subst haddr
    rw [Function.update_self, if_pos rfl]
  · rw [Function.update_of_ne haddr, if_neg haddr]

end Joined

/-! ### The list -/

/-- Everything that an action can do. -/
inductive Moved (network : Network) (action : NetworkAction) : Network → Prop where
  | connect (localAddr remoteAddr : SocketAddr) (connectionId : UInt16)
      (hvacant : network.Vacant ⟨.connector, localAddr, remoteAddr, connectionId⟩) :
      Moved network action (((network.register ⟨.connector, localAddr, remoteAddr, connectionId⟩).join
        ⟨⟨.connector, localAddr, remoteAddr, connectionId⟩, none, .connecting ⟨[], false⟩⟩).pass
        localAddr network.parties.length .connect
        [(UtpStream.synPacket connectionId, remoteAddr)] [])
  | connectFailed (localAddr remoteAddr : SocketAddr) (connectionId : UInt16) :
      Moved network action (((network.register ⟨.connector, localAddr, remoteAddr, connectionId⟩).join
        ⟨⟨.connector, localAddr, remoteAddr, connectionId⟩, none, .dropped⟩).pass
        localAddr network.parties.length .connect []
        [(UtpStream.synPacket connectionId, remoteAddr)])
  | resumed (index : Nat) (connection : Connection) (returned : Option UtpStream)
      (inboundPackets : Mailbox) (responsePacket : Packet) (rest : List Packet)
      (hparty : network.parties[index]? = some ⟨connection, returned, .connecting inboundPackets⟩)
      (hqueue : inboundPackets.queue = responsePacket :: rest) (stream : UtpStream)
      (hstream : stream = UtpStream.new connection.localAddr connection.connectionId
        (connection.connectionId + 1) connection.remoteAddr { inboundPackets with queue := rest } 2
        responsePacket.seqNumber) :
      Moved network action (network.withParty index ⟨connection, some stream, .streaming stream⟩)
  | gone (index : Nat) (party : Party) (hparty : network.parties[index]? = some party) :
      Moved network action (network.withParty index { party with state := .dropped })
  | accept (localAddr : SocketAddr) (syn : Packet) (remoteAddr : SocketAddr)
      (rest : List (Packet × SocketAddr)) (seqNumber : UInt16)
      (hsyn : (network.sockets localAddr).synQueue = (syn, remoteAddr) :: rest)
      (hvacant : network.Vacant ⟨.acceptor, localAddr, remoteAddr, syn.connectionId⟩)
      (stream : UtpStream)
      (hstream : stream = UtpStream.new (network.sockets localAddr).localAddr
        (syn.connectionId + 1) syn.connectionId remoteAddr ⟨[], false⟩ (seqNumber + 1)
        syn.seqNumber) :
      Moved network action ((((network.withSyns localAddr rest).register
        ⟨.acceptor, localAddr, remoteAddr, syn.connectionId⟩).join
        ⟨⟨.acceptor, localAddr, remoteAddr, syn.connectionId⟩, some stream, .streaming stream⟩).pass
        localAddr network.parties.length .accept
        [(UtpListener.synAckPacket syn.connectionId seqNumber syn.seqNumber, remoteAddr)] [])
  | unanswered (localAddr : SocketAddr) (syn : Packet) (remoteAddr : SocketAddr)
      (rest : List (Packet × SocketAddr)) (seqNumber : UInt16)
      (hsyn : (network.sockets localAddr).synQueue = (syn, remoteAddr) :: rest)
      (hvacant : network.Vacant ⟨.acceptor, localAddr, remoteAddr, syn.connectionId⟩) :
      Moved network action ((((network.withSyns localAddr rest).register
        ⟨.acceptor, localAddr, remoteAddr, syn.connectionId⟩).join
        ⟨⟨.acceptor, localAddr, remoteAddr, syn.connectionId⟩, none, .unanswered⟩).pass localAddr
        network.parties.length .accept []
        [(UtpListener.synAckPacket syn.connectionId seqNumber syn.seqNumber, remoteAddr)])
  | discarded (localAddr : SocketAddr) (syn : Packet × SocketAddr)
      (rest : List (Packet × SocketAddr))
      (hsyn : (network.sockets localAddr).synQueue = syn :: rest) :
      Moved network action (network.withSyns localAddr rest)
  | called (index : Nat) (connection : Connection) (returned : Option UtpStream)
      (stream stream' : UtpStream) (sent refused : List (Packet × SocketAddr))
      (hparty : network.parties[index]? = some ⟨connection, returned, .streaming stream⟩)
      (hperformed : UtpStream.Performed stream stream' (sent ++ refused)) :
      Moved network action ((network.withParty index ⟨connection, returned, .streaming stream'⟩).pass
        stream.localAddr index .stream sent refused)
  | synArrived (datagram : Datagram) (inFlight : List Datagram)
      (hdatagram : datagram ∈ network.inFlight) (hinFlight : inFlight ⊆ network.inFlight)
      (htype : datagram.packet.packetType = .syn) :
      Moved network action ((network.withInFlight inFlight).withSyns datagram.destination
        ((network.sockets datagram.destination).synQueue ++ [(datagram.packet, datagram.source)]))
  | arrived (index : Nat) (datagram : Datagram) (inFlight : List Datagram) (channel : Nat)
      (haction : action = .deliver index)
      (hdatagram : network.inFlight[index]? = some datagram) (hinFlight : inFlight ⊆ network.inFlight)
      (htype : datagram.packet.packetType ≠ .syn)
      (hlookup : (network.sockets datagram.destination).routingTable.lookup
        (datagram.packet.connectionId, datagram.source) = some channel)
      (halive : network.alive channel = true) :
      Moved network action ((network.withInFlight inFlight).enqueue channel datagram.packet)
  | stale (datagram : Datagram) (inFlight : List Datagram) (channel : Nat)
      (hdatagram : datagram ∈ network.inFlight) (hinFlight : inFlight ⊆ network.inFlight)
      (htype : datagram.packet.packetType ≠ .syn)
      (hlookup : (network.sockets datagram.destination).routingTable.lookup
        (datagram.packet.connectionId, datagram.source) = some channel)
      (hdead : network.alive channel = false) :
      Moved network action ((network.withInFlight inFlight).withSocket datagram.destination
        { network.sockets datagram.destination with
          routingTable := (network.sockets datagram.destination).routingTable.erase
            (datagram.packet.connectionId, datagram.source) })
  | wire (inFlight : List Datagram) (hinFlight : inFlight ⊆ network.inFlight) :
      Moved network action (network.withInFlight inFlight)

variable {network network' : Network}

theorem moved_of_connect {localAddr remoteAddr : SocketAddr} {draws : List UInt16} {queues : Bool}
    (hstep : network.step (.connect localAddr remoteAddr draws queues) = some network') :
    Moved network (.connect localAddr remoteAddr draws queues) network' := by
  simp only [step, UtpStream.connect] at hstep
  cases hregister : (network.sockets localAddr).registerConnection remoteAddr
      network.parties.length draws with
  | none => simp [hregister] at hstep
  | some registered =>
      obtain ⟨connectionId, socket⟩ := registered
      obtain ⟨hvacant, rfl⟩ := UtpSocket.registerConnection_spec hregister
      cases queues with
      | false =>
          simp only [hregister, sendTo, Bool.false_eq_true, if_false, Option.bind_eq_bind,
            Option.bind_some, Option.pure_def, Option.some.injEq] at hstep
          subst hstep
          exact .connectFailed localAddr remoteAddr connectionId
      | true =>
          simp only [hregister, sendTo, if_true, Option.bind_eq_bind, Option.bind_some,
            Option.pure_def, Option.some.injEq] at hstep
          subst hstep
          exact .connect localAddr remoteAddr connectionId hvacant

theorem moved_of_resume {index : Nat} (hstep : network.step (.resume index) = some network') :
    Moved network (.resume index) network' := by
  simp only [step] at hstep
  split at hstep
  · rename_i connection returned inboundPackets hparty
    cases hqueue : inboundPackets.queue with
    | nil =>
        simp only [UtpStream.connected, hqueue] at hstep
        split_ifs at hstep
        · cases hstep
          exact .gone index _ hparty
    | cons responsePacket rest =>
        simp only [UtpStream.connected, hqueue] at hstep
        split at hstep
        · cases hstep
        · cases hstep
          exact .gone index _ hparty
        · rename_i stream hconnected
          split at hconnected
          · simp only [Option.some.injEq, Except.ok.injEq] at hconnected
            cases hstep
            exact .resumed index connection returned inboundPackets responsePacket rest hparty hqueue
              stream hconnected.symm
          · cases hconnected
  · cases hstep

theorem register_withSyns (network : Network) (connection : Connection)
    (synQueue : List (Packet × SocketAddr)) :
    (network.withSyns connection.localAddr synQueue).register connection
      = network.withSocket connection.localAddr
        { network.sockets connection.localAddr with
          synQueue
          routingTable := (network.sockets connection.localAddr).routingTable.insert
            (connection.connectionIdRecv, connection.remoteAddr) network.parties.length } := by
  simp [register, withSyns, withSocket]

theorem moved_of_accept {localAddr : SocketAddr} {seqNumber : UInt16} {queues : Bool}
    (hstep : network.step (.accept localAddr seqNumber queues) = some network') :
    Moved network (.accept localAddr seqNumber queues) network' := by
  cases hsyn : (network.sockets localAddr).synQueue with
  | nil => simp [step, UtpListener.accept, hsyn] at hstep
  | cons head rest =>
      obtain ⟨syn, remoteAddr⟩ := head
      have hregister := network.register_withSyns
        ⟨.acceptor, localAddr, remoteAddr, syn.connectionId⟩ rest
      cases hlookup : (network.sockets localAddr).routingTable.lookup
          (syn.connectionId + 1, remoteAddr) with
      | some channel =>
          simp only [step, UtpListener.accept, hsyn, UtpSocket.insertConnection, hlookup,
            Option.some.injEq] at hstep
          subst hstep
          exact .discarded localAddr _ rest hsyn
      | none =>
          have hvacant : network.Vacant ⟨.acceptor, localAddr, remoteAddr, syn.connectionId⟩ :=
            hlookup
          cases queues with
          | false =>
              simp only [step, UtpListener.accept, hsyn, UtpSocket.insertConnection, hlookup, sendTo,
                Bool.false_eq_true, if_false, Option.some.injEq] at hstep
              subst hstep
              have hmoved : Moved network (.accept localAddr seqNumber false) _ :=
                .unanswered localAddr syn remoteAddr rest seqNumber hsyn hvacant
              rw [hregister] at hmoved
              exact hmoved
          | true =>
              simp only [step, UtpListener.accept, hsyn, UtpSocket.insertConnection, hlookup, sendTo,
                if_true, Option.some.injEq] at hstep
              subst hstep
              have hmoved : Moved network (.accept localAddr seqNumber true) _ :=
                .accept localAddr syn remoteAddr rest seqNumber hsyn hvacant _ rfl
              rw [hregister] at hmoved
              exact hmoved

theorem moved_of_call {index : Nat} {call : Call}
    (hstep : network.step (.call index call) = some network') :
    Moved network (.call index call) network' := by
  simp only [step] at hstep
  split at hstep
  · rename_i connection returned stream hparty
    split at hstep
    · cases hstep
      exact .gone index _ hparty
    · rename_i stream' sent refused hperform
      cases hstep
      exact .called index connection returned stream stream' sent refused hparty
        (UtpStream.perform_spec hperform)
  · cases hstep

theorem moved_of_deliver {index : Nat} (hfits : ∀ datagram ∈ network.inFlight, datagram.packet.Fits)
    (hstep : network.step (.deliver index) = some network') :
    Moved network (.deliver index) network' := by
  cases hdatagram : network.inFlight[index]? with
  | none => simp [step, hdatagram] at hstep
  | some datagram =>
      have hmem := List.mem_of_getElem? hdatagram
      have hinFlight : network.inFlight.eraseIdx index ⊆ network.inFlight :=
        fun datagram hmem => List.mem_of_mem_eraseIdx hmem
      simp only [step, hdatagram, (hfits datagram hmem).receiveDatagram_eq] at hstep
      by_cases htype : datagram.packet.packetType = .syn
      · simp only [UtpSocket.routePacket, htype, if_true, Option.map_none, Option.some.injEq]
          at hstep
        subst hstep
        exact .synArrived datagram _ hmem hinFlight htype
      · cases hlookup : (network.sockets datagram.destination).routingTable.lookup
            (datagram.packet.connectionId, datagram.source) with
        | none =>
            simp only [UtpSocket.routePacket, htype, if_false, hlookup, Option.map_none,
              Option.some.injEq] at hstep
            subst hstep
            simp only [withSocket, Function.update_eq_self]
            exact .wire _ hinFlight
        | some channel =>
            cases halive : network.alive channel with
            | true =>
                simp only [UtpSocket.routePacket, htype, if_false, hlookup, halive, if_true,
                  Option.map_some, Option.some.injEq] at hstep
                subst hstep
                simp only [withSocket, Function.update_eq_self]
                exact .arrived index datagram _ channel rfl hdatagram hinFlight htype hlookup halive
            | false =>
                simp only [UtpSocket.routePacket, htype, if_false, hlookup, halive,
                  Bool.false_eq_true, Option.map_none, Option.some.injEq] at hstep
                subst hstep
                exact .stale datagram _ channel hmem hinFlight htype hlookup halive

/-- **Everything that an action can do.** -/
theorem moved_of_step {action : NetworkAction}
    (hfits : ∀ datagram ∈ network.inFlight, datagram.packet.Fits)
    (hstep : network.step action = some network') : Moved network action network' := by
  cases action with
  | connect localAddr remoteAddr draws queues => exact moved_of_connect hstep
  | resume index => exact moved_of_resume hstep
  | accept localAddr seqNumber queues => exact moved_of_accept hstep
  | call index call => exact moved_of_call hstep
  | deliver index => exact moved_of_deliver hfits hstep
  | duplicate index =>
      cases hdatagram : network.inFlight[index]? with
      | none => simp [step, hdatagram] at hstep
      | some datagram =>
          simp only [step, hdatagram, Option.some.injEq] at hstep
          subst hstep
          refine .wire _ fun datagram' hmem => ?_
          rcases List.mem_append.mp hmem with hold | hcopy
          · exact hold
          · rw [List.mem_singleton.mp hcopy]
            exact List.mem_of_getElem? hdatagram
  | lose index =>
      cases hdatagram : network.inFlight[index]? with
      | none => simp [step, hdatagram] at hstep
      | some datagram =>
          simp only [step, hdatagram, Option.some.injEq] at hstep
          subst hstep
          exact .wire _ fun datagram hmem => List.mem_of_mem_eraseIdx hmem
  | drop index =>
      cases hparty : network.parties[index]? with
      | none => simp [step, hparty] at hstep
      | some party =>
          simp only [step, hparty, Option.some.injEq] at hstep
          subst hstep
          exact .gone index party hparty

end Network

end UtpSafety
