import UtpSafety.Journal
import UtpSafety.Proof.Reassembly
import UtpSafety.Proof.Agreement

/-!
# Every stream of a network is a stream on its own

The mailboxes of a network are never closed and hold data and state packets only, so no call panics
(`Network.Healthy`), and an action of the network is, to each stream, one action of its own or none
(`Network.Acted`). So the journal follows the network: in every run, the history of a stream that
`connect` or `accept` has returned ends in the stream as the network has it (`Journal.Followed`), and
what holds of every `Solo` holds of every stream of every network.
-/

namespace UtpSafety

open UtpStream

namespace UtpStream

/-- A stream that is not shut down, with an open mailbox of data and state packets. -/
structure Healthy (stream : UtpStream) : Prop where
  handled : ∀ packet ∈ stream.inboundPackets.queue, packet.Handled
  opened : stream.inboundPackets.closed = false
  running : stream.isShutdown = false

/-- A stream as `connect` and `accept` return them. -/
inductive Made : UtpStream → Prop
  | new (localAddr : SocketAddr) (connectionIdRecv connectionIdSend : UInt16)
      (remoteAddr : SocketAddr) (inboundPackets : Mailbox) (seqNumber ackNumber : UInt16)
      (hqueue : ∀ packet ∈ inboundPackets.queue, packet.Handled)
      (hopened : inboundPackets.closed = false) :
      Made (UtpStream.new localAddr connectionIdRecv connectionIdSend remoteAddr inboundPackets
        seqNumber ackNumber)

theorem Made.healthy {stream : UtpStream} (hmade : stream.Made) : stream.Healthy := by
  cases hmade with
  | new localAddr connectionIdRecv connectionIdSend remoteAddr inboundPackets seqNumber ackNumber
      hqueue hopened => exact ⟨hqueue, hopened, rfl⟩

end UtpStream

namespace Solo

variable {solo solo' : Solo}

theorem open_iff : solo.Open ↔ solo.stream.Healthy :=
  ⟨fun hopen => ⟨hopen.handled, hopen.opened, hopen.running⟩,
    fun hhealthy => ⟨hhealthy.handled, hhealthy.opened, hhealthy.running⟩⟩

theorem healthy_wrote (hhealthy : solo.stream.Healthy) (env : Env) (buf : Bytes) :
    (solo.wrote env buf).stream.Healthy := by
  obtain ⟨sent, hstream⟩ := exists_pollWrite_eq_withSent env solo.stream buf
  simp only [Solo.wrote, Solo.after, hstream]
  exact ⟨hhealthy.handled, hhealthy.opened, hhealthy.running⟩

/-- What a call is to the stream alone. -/
theorem step_call_of_perform {call : Call} {stream' : UtpStream}
    {sent refused : List (Packet × SocketAddr)}
    (hperform : solo.stream.perform call = .ok (stream', sent, refused)) :
    ∃ solo', solo.step call.action = some solo' ∧ solo'.stream = stream'
      ∧ solo'.sent = solo.sent ++ sent ∧ solo'.arrived = solo.arrived := by
  cases call with
  | pollWrite env buf =>
      simp only [perform, Except.ok.injEq, Prod.mk.injEq] at hperform
      obtain ⟨rfl, rfl, -⟩ := hperform
      exact ⟨solo.wrote env buf, rfl, rfl, rfl, rfl⟩
  | pollRead env remaining =>
      cases hread : solo.stream.pollRead env remaining with
      | error panic => simp [perform, hread, bind, Except.bind] at hperform
      | ok outcome =>
          simp only [perform, hread, bind, Except.bind, pure, Except.pure, Except.ok.injEq,
            Prod.mk.injEq] at hperform
          obtain ⟨rfl, rfl, -⟩ := hperform
          simp only [Call.action, step, hread]
          exact ⟨_, rfl, rfl, rfl, rfl⟩
  | pollFlush env =>
      cases hflush : solo.stream.pollFlush env with
      | error panic => simp [perform, hflush, bind, Except.bind] at hperform
      | ok outcome =>
          simp only [perform, hflush, bind, Except.bind, pure, Except.pure, Except.ok.injEq,
            Prod.mk.injEq] at hperform
          obtain ⟨rfl, rfl, -⟩ := hperform
          simp only [Call.action, step, hflush]
          exact ⟨_, rfl, rfl, rfl, rfl⟩

end Solo

/-- **No call on such a stream panics**, and the stream stays as it is in this. -/
theorem UtpStream.Healthy.perform {stream : UtpStream} (hhealthy : stream.Healthy) (call : Call) :
    ∃ stream' sent refused, stream.perform call = .ok (stream', sent, refused)
      ∧ stream'.Healthy := by
  have hstart : (Solo.start stream).stream.Healthy := hhealthy
  have hopen := Solo.open_iff.mpr hstart
  cases call with
  | pollWrite env buf =>
      exact ⟨_, _, _, rfl, Solo.healthy_wrote hstart env buf⟩
  | pollRead env remaining =>
      obtain ⟨solo', hstep, hmoved⟩ := Solo.moved_pollRead hopen.handled env remaining
      have hreading : (SoloAction.pollRead env remaining).Reading := trivial
      have hhealthy' := Solo.open_iff.mp (hopen.moved hreading hmoved)
      simp only [Solo.step, Solo.start] at hstep
      cases hread : stream.pollRead env remaining with
      | error panic => simp [hread] at hstep
      | ok outcome =>
          simp only [hread, Option.some.injEq] at hstep
          subst hstep
          refine ⟨outcome.stream, outcome.sent, perform.refused outcome.result, ?_, hhealthy'⟩
          simp [UtpStream.perform, hread, bind, Except.bind, pure, Except.pure]
  | pollFlush env =>
      have hreading : (SoloAction.pollFlush env).Reading := trivial
      have hhealthy' := Solo.open_iff.mp (hopen.moved hreading (.flushed env))
      rcases Solo.pollFlush_cases hopen.handled env with ⟨result, hflush⟩ | ⟨hshutdown, -⟩
      · refine ⟨_, [], perform.refused result, ?_, hhealthy'⟩
        simp only [Solo.start] at hflush
        simp [UtpStream.perform, hflush, bind, Except.bind, pure, Except.pure, Solo.start]
      · rw [(hopen.drained env).2.2] at hshutdown
        cases hshutdown

/-- **A shutdown of such a stream panics**: after a flush that is not `Ready` as well as after one that
is. -/
theorem UtpStream.Healthy.pollShutdown {stream : UtpStream} (hhealthy : stream.Healthy) (env : Env) :
    stream.pollShutdown env = .error .todo := by
  have hdrain := @drain_run_open env { stream with isShutdown := true } hhealthy.handled
    hhealthy.opened
  have hshutdown : ({ stream with isShutdown := true }.absorbed env).isShutdown = true := by
    rw [absorbed_frame]
  simp only [UtpStream.pollShutdown, pollFlush, hdrain, bind, Except.bind, hshutdown, if_true]
  split_ifs <;> rfl

/-- An `accept` panics if and only if the key is taken that the SYN asks for. -/
theorem UtpListener.accept_panics_iff {queues : Bool} {seqNumber : UInt16} {channel : Nat}
    {socket : UtpSocket} {accepted : UtpListener.Accepted}
    (haccept : UtpListener.accept queues seqNumber channel socket = some accepted) :
    (∃ panic, accepted.result = .error panic) ↔ socket.routingTable.lookup
      (accepted.syn.connectionId + 1, accepted.remoteAddr) ≠ none := by
  cases hsyn : socket.synQueue with
  | nil => simp [UtpListener.accept, hsyn] at haccept
  | cons head rest =>
      obtain ⟨syn, remoteAddr⟩ := head
      cases hlookup : socket.routingTable.lookup (syn.connectionId + 1, remoteAddr) with
      | some holder =>
          simp only [UtpListener.accept, hsyn, UtpSocket.insertConnection, hlookup,
            Option.some.injEq] at haccept
          subst haccept
          simp [hlookup]
      | none =>
          cases queues with
          | false =>
              simp only [UtpListener.accept, hsyn, UtpSocket.insertConnection, hlookup, sendTo,
                Bool.false_eq_true, if_false, Option.some.injEq] at haccept
              subst haccept
              simp [hlookup]
          | true =>
              simp only [UtpListener.accept, hsyn, UtpSocket.insertConnection, hlookup, sendTo,
                if_true, Option.some.injEq] at haccept
              subst haccept
              simp [hlookup]

/-! ### One action -/

/-- A party that has just joined. -/
inductive Party.Fresh : Party → Prop
  | waiting (connection : Connection) : Fresh ⟨connection, none, .connecting ⟨[], false⟩⟩
  | failed (connection : Connection) (state : PartyState) (hstate : state.alive = false) :
      Fresh ⟨connection, none, state⟩
  | accepted (connection : Connection) (stream : UtpStream) (hmade : stream.Made)
      (hqueue : stream.inboundPackets.queue = []) :
      Fresh ⟨connection, some stream, .streaming stream⟩

/-- The packets with which a party makes itself known: the SYN, and the SYN-ACK of a stream. -/
def Party.Introduces (party : Party) (packet : Packet) : Prop :=
  packet.packetType = .syn
    ∨ ∃ stream, party.returned = some stream ∧ packet = UtpListener.synAckPacket
      stream.connectionIdSend (stream.seqNumber - 1) stream.ackNumber

structure Party.Healthy (party : Party) : Prop where
  connecting : ∀ inboundPackets, party.state = .connecting inboundPackets →
    party.returned = none ∧ inboundPackets.closed = false
      ∧ ∀ packet ∈ inboundPackets.queue, packet.Handled
  streaming : ∀ stream, party.state = .streaming stream → party.returned ≠ none ∧ stream.Healthy
  returned : ∀ stream, party.returned = some stream → stream.Made

namespace Network

/-- Every mailbox is open and holds data and state packets only, and only those and SYNs are in
flight. -/
structure Healthy (network : Network) : Prop where
  datagrams : ∀ datagram ∈ network.inFlight,
    datagram.packet.packetType ≠ .syn → datagram.packet.Handled
  parties : ∀ party ∈ network.parties, party.Healthy

/-- What an action does to the parties and to what is in flight, and what it is to each stream. -/
inductive Acted (network : Network) (action : NetworkAction) (network' : Network) : Prop
  | quiet (hseen : ∀ index, network.seen index action = [])
      (hparties : network'.parties = network.parties)
      (hinFlight : network'.inFlight ⊆ network.inFlight)
  | joined (party : Party) (hseen : ∀ index, network.seen index action = [])
      (hfresh : party.Fresh) (hparties : network'.parties = network.parties ++ [party])
      (hinFlight : ∀ datagram ∈ network'.inFlight, datagram ∈ network.inFlight
        ∨ datagram.sender = network.parties.length ∧ party.Introduces datagram.packet)
  | returned (index : Nat) (connection : Connection) (inboundPackets : Mailbox) (stream : UtpStream)
      (hseen : ∀ index, network.seen index action = [])
      (hparty : network.parties[index]? = some ⟨connection, none, .connecting inboundPackets⟩)
      (hmade : stream.Made) (hqueue : ∃ responsePacket : Packet, responsePacket.packetType = .state
        ∧ inboundPackets.queue = responsePacket :: stream.inboundPackets.queue)
      (hparties : network'.parties
        = network.parties.set index ⟨connection, some stream, .streaming stream⟩)
      (hinFlight : network'.inFlight ⊆ network.inFlight)
  | received (index : Nat) (party : Party) (datagram : Datagram)
      (hparty : network.parties[index]? = some party) (halive : party.state.alive = true)
      (hdatagram : datagram ∈ network.inFlight) (htype : datagram.packet.packetType ≠ .syn)
      (hlookup : (network.sockets datagram.destination).routingTable.lookup
        (datagram.packet.connectionId, datagram.source) = some index)
      (hseen : network.seen index action = [.arrive datagram.packet])
      (hothers : ∀ other ≠ index, network.seen other action = [])
      (hparties : network'.parties = network.parties.set index
        { party with state := party.state.receive datagram.packet })
      (hinFlight : network'.inFlight ⊆ network.inFlight)
  | called (index : Nat) (connection : Connection) (returned : Option UtpStream)
      (stream stream' : UtpStream) (call : Call) (sent refused : List (Packet × SocketAddr))
      (hparty : network.parties[index]? = some ⟨connection, returned, .streaming stream⟩)
      (hperform : stream.perform call = .ok (stream', sent, refused))
      (hseen : network.seen index action = [call.action])
      (hothers : ∀ other ≠ index, network.seen other action = [])
      (hparties : network'.parties
        = network.parties.set index ⟨connection, returned, .streaming stream'⟩)
      (hinFlight : ∀ datagram ∈ network'.inFlight, datagram ∈ network.inFlight
        ∨ datagram.sender = index ∧ (datagram.packet, datagram.destination) ∈ sent)
  | dropped (index : Nat) (party : Party) (hseen : ∀ index, network.seen index action = [])
      (hparty : network.parties[index]? = some party)
      (hparties : network'.parties = network.parties.set index { party with state := .dropped })
      (hinFlight : network'.inFlight ⊆ network.inFlight)

variable {network network' : Network} {action : NetworkAction}

theorem acted_of_connect {localAddr remoteAddr : SocketAddr} {draws : List UInt16} {queues : Bool}
    (hstep : network.step (.connect localAddr remoteAddr draws queues) = some network') :
    Acted network (.connect localAddr remoteAddr draws queues) network' := by
  simp only [step, UtpStream.connect] at hstep
  cases hregister : (network.sockets localAddr).registerConnection remoteAddr
      network.parties.length draws with
  | none => simp [hregister] at hstep
  | some registered =>
      obtain ⟨connectionId, socket⟩ := registered
      cases queues with
      | false =>
          simp only [hregister, sendTo, Bool.false_eq_true, if_false, Option.bind_eq_bind,
            Option.bind_some, Option.pure_def, Option.some.injEq] at hstep
          subst hstep
          refine .joined _ (fun _ => rfl) (.failed _ .dropped rfl) rfl fun datagram hdatagram => ?_
          rcases mem_inFlight_pass.mp hdatagram with hold | ⟨item, hitem, -⟩
          · exact Or.inl hold
          · cases hitem
      | true =>
          simp only [hregister, sendTo, if_true, Option.bind_eq_bind, Option.bind_some,
            Option.pure_def, Option.some.injEq] at hstep
          subst hstep
          refine .joined _ (fun _ => rfl) (.waiting _) rfl fun datagram hdatagram => ?_
          rcases mem_inFlight_pass.mp hdatagram with hold | ⟨item, hitem, rfl⟩
          · exact Or.inl hold
          · rw [List.mem_singleton.mp hitem]
            exact Or.inr ⟨rfl, Or.inl rfl⟩

theorem acted_of_resume (hhealthy : network.Healthy) {index : Nat}
    (hstep : network.step (.resume index) = some network') :
    Acted network (.resume index) network' := by
  simp only [step] at hstep
  split at hstep
  · rename_i connection returned inboundPackets hparty
    obtain ⟨hnone, hopened, hhandled⟩ :=
      (hhealthy.parties _ (List.mem_of_getElem? hparty)).connecting inboundPackets rfl
    dsimp only at hnone
    subst hnone
    cases hqueue : inboundPackets.queue with
    | nil => simp [UtpStream.connected, hqueue, hopened] at hstep
    | cons responsePacket rest =>
        simp only [UtpStream.connected, hqueue] at hstep
        split at hstep
        · cases hstep
        · cases hstep
          exact .dropped index _ (fun _ => rfl) hparty rfl (List.Subset.refl _)
        · rename_i stream hconnected
          split at hconnected
          · rename_i htype
            simp only [Option.some.injEq, Except.ok.injEq] at hconnected
            cases hstep
            have hrest : rest ⊆ inboundPackets.queue := by
              rw [hqueue]
              exact List.subset_cons_self _ _
            refine .returned index connection inboundPackets stream (fun _ => rfl) hparty ?_
              ⟨responsePacket, htype, ?_⟩ rfl (List.Subset.refl _)
            · rw [← hconnected]
              exact .new _ _ _ _ _ _ _ (fun packet hpacket => hhandled packet (hrest hpacket)) hopened
            · rw [← hconnected, hqueue]
              rfl
          · cases hconnected
  · cases hstep

theorem acted_of_accept {localAddr : SocketAddr} {seqNumber : UInt16} {queues : Bool}
    (hstep : network.step (.accept localAddr seqNumber queues) = some network') :
    Acted network (.accept localAddr seqNumber queues) network' := by
  cases hsyn : (network.sockets localAddr).synQueue with
  | nil => simp [step, UtpListener.accept, hsyn] at hstep
  | cons head rest =>
      obtain ⟨syn, remoteAddr⟩ := head
      cases hlookup : (network.sockets localAddr).routingTable.lookup
          (syn.connectionId + 1, remoteAddr) with
      | some channel =>
          simp only [step, UtpListener.accept, hsyn, UtpSocket.insertConnection, hlookup,
            Option.some.injEq] at hstep
          subst hstep
          exact .quiet (fun _ => rfl) rfl (List.Subset.refl _)
      | none =>
          cases queues with
          | false =>
              simp only [step, UtpListener.accept, hsyn, UtpSocket.insertConnection, hlookup, sendTo,
                Bool.false_eq_true, if_false, Option.some.injEq] at hstep
              subst hstep
              refine .joined _ (fun _ => rfl) (.failed _ .unanswered rfl) rfl
                fun datagram hdatagram => ?_
              rcases mem_inFlight_pass.mp hdatagram with hold | ⟨item, hitem, -⟩
              · exact Or.inl hold
              · cases hitem
          | true =>
              simp only [step, UtpListener.accept, hsyn, UtpSocket.insertConnection, hlookup, sendTo,
                if_true, Option.some.injEq] at hstep
              subst hstep
              refine .joined _ (fun _ => rfl)
                (.accepted _ _ (.new _ _ _ _ _ _ _ (List.forall_mem_nil _) rfl) rfl) rfl
                fun datagram hdatagram => ?_
              rcases mem_inFlight_pass.mp hdatagram with hold | ⟨item, hitem, rfl⟩
              · exact Or.inl hold
              · rw [List.mem_singleton.mp hitem]
                refine Or.inr ⟨rfl, Or.inr ⟨_, rfl, ?_⟩⟩
                simp [UtpStream.new]

theorem acted_of_call (hhealthy : network.Healthy) {index : Nat} {call : Call}
    (hstep : network.step (.call index call) = some network') :
    Acted network (.call index call) network' := by
  simp only [step] at hstep
  split at hstep
  · rename_i connection returned stream hparty
    have hstream := (hhealthy.parties _ (List.mem_of_getElem? hparty)).streaming stream rfl
    obtain ⟨stream', sent, refused, hperform, -⟩ := hstream.2.perform call
    simp only [hperform, Option.some.injEq] at hstep
    subst hstep
    refine .called index connection returned stream stream' call sent refused hparty hperform
      (if_pos rfl) (fun other hother => if_neg hother.symm) rfl fun datagram hdatagram => ?_
    rcases mem_inFlight_pass.mp hdatagram with hold | ⟨item, hitem, rfl⟩
    · exact Or.inl hold
    · exact Or.inr ⟨rfl, hitem⟩
  · cases hstep

/-- Everything that a delivery can do. -/
inductive Delivered (network : Network) (position : Nat) (datagram : Datagram) : Network → Prop where
  | syn (htype : datagram.packet.packetType = .syn) :
      Delivered network position datagram ((network.withInFlight
        (network.inFlight.eraseIdx position)).withSyns datagram.destination
          ((network.sockets datagram.destination).synQueue ++ [(datagram.packet, datagram.source)]))
  | unknown (htype : datagram.packet.packetType ≠ .syn)
      (hlookup : (network.sockets datagram.destination).routingTable.lookup
        (datagram.packet.connectionId, datagram.source) = none) :
      Delivered network position datagram
        (network.withInFlight (network.inFlight.eraseIdx position))
  | stale (channel : Nat) (htype : datagram.packet.packetType ≠ .syn)
      (hlookup : (network.sockets datagram.destination).routingTable.lookup
        (datagram.packet.connectionId, datagram.source) = some channel)
      (hdead : network.alive channel = false) :
      Delivered network position datagram ((network.withInFlight
        (network.inFlight.eraseIdx position)).withSocket datagram.destination
          { network.sockets datagram.destination with
            routingTable := (network.sockets datagram.destination).routingTable.erase
              (datagram.packet.connectionId, datagram.source) })
  | arrived (channel : Nat) (party : Party) (htype : datagram.packet.packetType ≠ .syn)
      (hlookup : (network.sockets datagram.destination).routingTable.lookup
        (datagram.packet.connectionId, datagram.source) = some channel)
      (hparty : network.parties[channel]? = some party) (halive : party.state.alive = true) :
      Delivered network position datagram ((network.withInFlight
        (network.inFlight.eraseIdx position)).withParty channel
          { party with state := party.state.receive datagram.packet })

/-- What a delivery is to the streams, and what it does. -/
theorem routed_and_delivered_of_step (hfit : network.AllFit) {position : Nat}
    (hstep : network.step (.deliver position) = some network') :
    ∃ datagram, network.inFlight[position]? = some datagram
      ∧ network.routed position
        = ((network.sockets datagram.destination).routePacket network.alive datagram.packet
          datagram.source).2.map (fun channel => (channel, datagram.packet))
      ∧ Delivered network position datagram network' := by
  cases hdatagram : network.inFlight[position]? with
  | none => simp [step, hdatagram] at hstep
  | some datagram =>
      have hreceive := (hfit.inFlight_fits datagram (List.mem_of_getElem? hdatagram)).receiveDatagram_eq
      refine ⟨datagram, rfl, by simp only [routed, hdatagram, hreceive], ?_⟩
      simp only [step, hdatagram, hreceive] at hstep
      by_cases htype : datagram.packet.packetType = .syn
      · simp only [UtpSocket.routePacket, htype, if_true, Option.map_none, Option.some.injEq]
          at hstep
        subst hstep
        exact .syn htype
      · cases hlookup : (network.sockets datagram.destination).routingTable.lookup
            (datagram.packet.connectionId, datagram.source) with
        | none =>
            simp only [UtpSocket.routePacket, htype, if_false, hlookup, Option.map_none,
              withSocket, Function.update_eq_self, Option.some.injEq] at hstep
            subst hstep
            exact .unknown htype hlookup
        | some channel =>
            cases halive : network.alive channel with
            | false =>
                simp only [UtpSocket.routePacket, htype, if_false, hlookup, halive,
                  Bool.false_eq_true, Option.map_none, Option.some.injEq] at hstep
                subst hstep
                exact .stale channel htype hlookup halive
            | true =>
                simp only [UtpSocket.routePacket, htype, if_false, hlookup, halive, if_true,
                  Option.map_some, withSocket, Function.update_eq_self, Option.some.injEq] at hstep
                cases hparty : network.parties[channel]? with
                | none => simp [alive, hparty] at halive
                | some party =>
                    simp only [alive, hparty, Option.any_some] at halive
                    simp only [enqueue, hparty] at hstep
                    subst hstep
                    exact .arrived channel party htype hlookup hparty halive

theorem acted_of_deliver (hfit : network.AllFit) {position : Nat}
    (hstep : network.step (.deliver position) = some network') :
    Acted network (.deliver position) network' := by
  obtain ⟨datagram, hdatagram, hrouted, hdelivered⟩ := routed_and_delivered_of_step hfit hstep
  have hinFlight : network.inFlight.eraseIdx position ⊆ network.inFlight :=
    fun datagram hmem => List.mem_of_mem_eraseIdx hmem
  cases hdelivered with
  | syn htype =>
      refine .quiet (fun other => ?_) rfl hinFlight
      simp [seen, hrouted, UtpSocket.routePacket, htype]
  | unknown htype hlookup =>
      refine .quiet (fun other => ?_) rfl hinFlight
      simp [seen, hrouted, UtpSocket.routePacket, htype, hlookup]
  | stale channel htype hlookup hdead =>
      refine .quiet (fun other => ?_) rfl hinFlight
      simp [seen, hrouted, UtpSocket.routePacket, htype, hlookup, hdead]
  | arrived channel party htype hlookup hparty halive =>
      have hchannel : network.alive channel = true := by
        simpa [alive, hparty] using halive
      have hseen : ∀ other, network.seen other (.deliver position)
          = if channel = other then [.arrive datagram.packet] else [] := by
        intro other
        simp [seen, hrouted, UtpSocket.routePacket, htype, hlookup, hchannel]
      refine .received channel party datagram hparty halive (List.mem_of_getElem? hdatagram) htype
        hlookup ?_ ?_ rfl hinFlight
      · rw [hseen, if_pos rfl]
      · intro other hother
        rw [hseen, if_neg hother.symm]

/-- **What an action is to the streams.** -/
theorem acted_of_step (hfit : network.AllFit) (hhealthy : network.Healthy)
    (hstep : network.step action = some network') : Acted network action network' := by
  cases action with
  | connect localAddr remoteAddr draws queues => exact acted_of_connect hstep
  | resume index => exact acted_of_resume hhealthy hstep
  | accept localAddr seqNumber queues => exact acted_of_accept hstep
  | call index call => exact acted_of_call hhealthy hstep
  | deliver index => exact acted_of_deliver hfit hstep
  | duplicate index =>
      cases hdatagram : network.inFlight[index]? with
      | none => simp [step, hdatagram] at hstep
      | some datagram =>
          simp only [step, hdatagram, Option.some.injEq] at hstep
          subst hstep
          refine .quiet (fun _ => rfl) rfl (List.append_subset.mpr ⟨List.Subset.refl _, ?_⟩)
          exact List.cons_subset.mpr ⟨List.mem_of_getElem? hdatagram, List.nil_subset _⟩
  | lose index =>
      cases hdatagram : network.inFlight[index]? with
      | none => simp [step, hdatagram] at hstep
      | some datagram =>
          simp only [step, hdatagram, Option.some.injEq] at hstep
          subst hstep
          exact .quiet (fun _ => rfl) rfl fun datagram hmem => List.mem_of_mem_eraseIdx hmem
  | drop index =>
      cases hparty : network.parties[index]? with
      | none => simp [step, hparty] at hstep
      | some party =>
          simp only [step, hparty, Option.some.injEq] at hstep
          subst hstep
          exact .dropped index party (fun _ => rfl) hparty rfl (List.Subset.refl _)

theorem Acted.keeps (hacted : Acted network action network') : network.Keeps network' := by
  cases hacted with
  | quiet hseen hparties hinFlight => exact keeps_of_eq hparties
  | joined party hseen hfresh hparties hinFlight => exact keeps_of_append hparties
  | returned index connection inboundPackets stream hseen hparty hmade hqueue hparties hinFlight =>
      exact keeps_of_set hparties hparty rfl nofun
  | received index party datagram hparty halive hdatagram htype hlookup hseen hothers hparties
      hinFlight => exact keeps_of_set hparties hparty rfl fun _ => id
  | called index connection returned stream stream' call sent refused hparty hperform hseen hothers
      hparties hinFlight => exact keeps_of_set hparties hparty rfl fun _ => id
  | dropped index party hseen hparty hparties hinFlight =>
      exact keeps_of_set hparties hparty rfl fun _ => id

end Network

/-! ### No call panics -/

theorem Party.Healthy.streaming_of_made (connection : Connection) {stream : UtpStream}
    (hmade : stream.Made) : Party.Healthy ⟨connection, some stream, .streaming stream⟩ := by
  refine ⟨nofun, ?_, ?_⟩
  · rintro _ ⟨⟩
    exact ⟨nofun, hmade.healthy⟩
  · rintro _ ⟨⟩
    exact hmade

theorem Party.Fresh.healthy {party : Party} (hfresh : party.Fresh) : party.Healthy := by
  cases hfresh with
  | waiting connection =>
      refine ⟨?_, nofun, nofun⟩
      rintro _ ⟨⟩
      exact ⟨rfl, rfl, List.forall_mem_nil _⟩
  | failed connection state hstate =>
      refine ⟨?_, ?_, nofun⟩
      · rintro inboundPackets rfl
        cases hstate
      · rintro stream rfl
        cases hstate
  | accepted connection stream hmade hqueue => exact .streaming_of_made connection hmade

theorem Party.Healthy.receive {party : Party} (hhealthy : party.Healthy) {packet : Packet}
    (hpacket : packet.Handled) :
    Party.Healthy { party with state := party.state.receive packet } := by
  have happend : ∀ {queue : List Packet}, (∀ packet ∈ queue, packet.Handled) →
      ∀ other ∈ queue ++ [packet], other.Handled := by
    intro queue hqueue other hother
    rcases List.mem_append.mp hother with hold | hnew
    · exact hqueue other hold
    · rw [List.mem_singleton.mp hnew]
      exact hpacket
  obtain ⟨connection, returned, state⟩ := party
  cases state with
  | connecting inboundPackets =>
      refine ⟨?_, nofun, hhealthy.returned⟩
      rintro _ ⟨⟩
      obtain ⟨hreturned, hopened, hqueue⟩ := hhealthy.connecting inboundPackets rfl
      exact ⟨hreturned, hopened, happend hqueue⟩
  | streaming stream =>
      refine ⟨nofun, ?_, hhealthy.returned⟩
      rintro _ ⟨⟩
      obtain ⟨hreturned, hstream⟩ := hhealthy.streaming stream rfl
      exact ⟨hreturned, happend hstream.handled, hstream.opened, hstream.running⟩
  | unanswered => exact hhealthy
  | dropped => exact hhealthy

namespace Network

variable {network network' : Network} {action : NetworkAction}

theorem Healthy.changed (hhealthy : network.Healthy) {index : Nat} {party : Party}
    (hparties : network'.parties = network.parties.set index party) (hparty : party.Healthy)
    (hinFlight : ∀ datagram ∈ network'.inFlight, datagram ∈ network.inFlight
      ∨ datagram.packet.Handled) : network'.Healthy where
  datagrams datagram hdatagram htype := by
    rcases hinFlight datagram hdatagram with hold | hnew
    · exact hhealthy.datagrams datagram hold htype
    · exact hnew
  parties other hother := by
    rw [hparties] at hother
    rcases List.mem_or_eq_of_mem_set hother with hold | rfl
    · exact hhealthy.parties other hold
    · exact hparty

theorem Healthy.acted (hhealthy : network.Healthy) (hacted : Acted network action network') :
    network'.Healthy := by
  cases hacted with
  | quiet hseen hparties hinFlight =>
      refine ⟨fun datagram hdatagram => hhealthy.datagrams datagram (hinFlight hdatagram), ?_⟩
      rw [hparties]
      exact hhealthy.parties
  | joined party hseen hfresh hparties hinFlight =>
      refine ⟨?_, ?_⟩
      · intro datagram hdatagram htype
        rcases hinFlight datagram hdatagram with hold | ⟨-, hsyn | ⟨stream, -, hsynAck⟩⟩
        · exact hhealthy.datagrams datagram hold htype
        · exact absurd hsyn htype
        · rw [hsynAck]
          exact Or.inr rfl
      · intro other hother
        rw [hparties] at hother
        rcases List.mem_append.mp hother with hold | hnew
        · exact hhealthy.parties other hold
        · rw [List.mem_singleton.mp hnew]
          exact hfresh.healthy
  | returned index connection inboundPackets stream hseen hparty hmade hqueue hparties hinFlight =>
      exact hhealthy.changed hparties (.streaming_of_made connection hmade)
        fun datagram hdatagram => Or.inl (hinFlight hdatagram)
  | received index party datagram hparty halive hdatagram htype hlookup hseen hothers hparties
      hinFlight =>
      have hparty' := hhealthy.parties party (List.mem_of_getElem? hparty)
      exact hhealthy.changed hparties (hparty'.receive (hhealthy.datagrams datagram hdatagram htype))
        fun datagram hdatagram => Or.inl (hinFlight hdatagram)
  | called index connection returned stream stream' call sent refused hparty hperform hseen hothers
      hparties hinFlight =>
      have hparty' := hhealthy.parties _ (List.mem_of_getElem? hparty)
      obtain ⟨hreturned, hstream⟩ := hparty'.streaming stream rfl
      obtain ⟨performed, _, _, hperform', hperformed⟩ := hstream.perform call
      rw [hperform] at hperform'
      cases hperform'
      refine hhealthy.changed hparties ⟨nofun, ?_, hparty'.returned⟩ fun datagram hdatagram => ?_
      · rintro _ ⟨⟩
        exact ⟨hreturned, hperformed⟩
      · rcases hinFlight datagram hdatagram with hold | ⟨-, hnew⟩
        · exact Or.inl hold
        · exact Or.inr ((perform_spec hperform).sends _ (List.mem_append_left _ hnew)).2.1
  | dropped index party hseen hparty hparties hinFlight =>
      have hparty' := hhealthy.parties party (List.mem_of_getElem? hparty)
      exact hhealthy.changed hparties ⟨nofun, nofun, hparty'.returned⟩
        fun datagram hdatagram => Or.inl (hinFlight hdatagram)

theorem healthy_init : init.Healthy := ⟨by simp [init], by simp [init]⟩

end Network

/-! ### The journal follows the network -/

namespace Journal

open Network

/-- Nothing is recorded of a stream before it is returned; afterwards its history is a run of a
`Solo`, which ends in the stream as the network has it. -/
structure Followed (journal : Journal) : Prop where
  fit : journal.network.AllFit
  healthy : journal.network.Healthy
  absent : ∀ index, journal.network.returned index = none → journal.histories index = none
  follows : ∀ (index : Nat) (party : Party) (stream : UtpStream),
    journal.network.parties[index]? = some party → party.returned = some stream →
    ∃ solo, journal.histories index = some solo
      ∧ (∃ actions, Run.exec Solo.step (Solo.start stream) actions = some solo)
      ∧ ∀ current, party.state = .streaming current → solo.stream = current

variable {journal journal' : Journal} {action : NetworkAction} {network' : Network} {index : Nat}

theorem step_eq_some :
    journal.step action = some journal' ↔ journal.network.step action = some journal'.network
      ∧ journal'.histories = journal.record action journal'.network := by
  obtain ⟨network', histories'⟩ := journal'
  simp only [step, Option.map_eq_some_iff, Journal.mk.injEq]
  constructor
  · rintro ⟨_, hstep, rfl, rfl⟩
    exact ⟨hstep, rfl⟩
  · rintro ⟨hstep, rfl⟩
    exact ⟨network', hstep, rfl, rfl⟩

theorem returned_of_get {network : Network} {party : Party}
    (hparty : network.parties[index]? = some party) : network.returned index = party.returned := by
  simp [Network.returned, hparty]

/-- What a stream does not see does not change its history. -/
theorem record_of_nil (hseen : journal.network.seen index action = [])
    (hreturned : network'.returned index = journal.network.returned index) :
    journal.record action network' index = journal.histories index := by
  unfold record
  cases hhistory : journal.histories index with
  | some solo => simp [hseen, Run.exec]
  | none =>
      rw [hreturned]
      cases journal.network.returned index <;> rfl

theorem record_of_singleton {solo : Solo} {soloAction : SoloAction}
    (hhistory : journal.histories index = some solo)
    (hseen : journal.network.seen index action = [soloAction]) :
    journal.record action network' index = solo.step soloAction := by
  simp only [record, hhistory, hseen, Run.exec]
  cases solo.step soloAction <;> rfl

/-- A history goes on with what the stream sees, or begins. -/
theorem history_of_step (hstep : journal.step action = some journal') {solo' : Solo}
    (hhistory' : journal'.histories index = some solo') :
    (∃ solo, journal.histories index = some solo
        ∧ Run.exec Solo.step solo (journal.network.seen index action) = some solo')
      ∨ ∃ stream, journal.histories index = none ∧ journal'.network.returned index = some stream
        ∧ solo' = Solo.start stream := by
  rw [(step_eq_some.mp hstep).2, record] at hhistory'
  split at hhistory'
  · rename_i solo hhistory
    exact Or.inl ⟨solo, hhistory, hhistory'⟩
  · rename_i hhistory
    split at hhistory'
    · cases hhistory'
    · obtain ⟨stream, hreturned, hstart⟩ := Option.map_eq_some_iff.mp hhistory'
      exact Or.inr ⟨stream, hhistory, hreturned, hstart.symm⟩

namespace Followed

variable (hfollowed : journal.Followed)
include hfollowed

theorem record_of_returned (hbefore : journal.network.returned index = none) :
    journal.record action network' index = (network'.returned index).map Solo.start := by
  simp only [record, hfollowed.absent index hbefore, hbefore]

/-- A stream that is there has a history, which ends in it. -/
theorem exists_history {connection : Connection} {returned : Option UtpStream} {stream : UtpStream}
    (hparty : journal.network.parties[index]? = some ⟨connection, returned, .streaming stream⟩) :
    ∃ solo, journal.histories index = some solo ∧ solo.stream = stream := by
  have hreturned := ((hfollowed.healthy.parties _
    (List.mem_of_getElem? hparty)).streaming stream rfl).1
  obtain ⟨first, hfirst⟩ := Option.ne_none_iff_exists'.mp hreturned
  obtain ⟨solo, hhistory, -, hstream⟩ := hfollowed.follows index _ first hparty hfirst
  exact ⟨solo, hhistory, hstream stream rfl⟩

/-- A party of which nothing has changed. -/
theorem unchanged {party : Party} {stream : UtpStream}
    (hseen : journal.network.seen index action = [])
    (hparty : journal.network.parties[index]? = some party)
    (hparty' : network'.parties[index]? = some party) (hreturned : party.returned = some stream) :
    ∃ solo, journal.record action network' index = some solo
      ∧ (∃ actions, Run.exec Solo.step (Solo.start stream) actions = some solo)
      ∧ ∀ current, party.state = .streaming current → solo.stream = current := by
  rw [record_of_nil hseen (by rw [returned_of_get hparty, returned_of_get hparty'])]
  exact hfollowed.follows index party stream hparty hreturned

/-- A stream that has just been returned. -/
theorem begun {connection : Connection} {stream stream' : UtpStream}
    (hbefore : journal.network.returned index = none)
    (hparty' : network'.parties[index]? = some ⟨connection, some stream, .streaming stream⟩)
    (hreturned : (some stream : Option UtpStream) = some stream') :
    ∃ solo, journal.record action network' index = some solo
      ∧ (∃ actions, Run.exec Solo.step (Solo.start stream') actions = some solo)
      ∧ ∀ current, PartyState.streaming stream = .streaming current → solo.stream = current := by
  cases hreturned
  refine ⟨Solo.start stream, ?_, ⟨[], rfl⟩, ?_⟩
  · rw [hfollowed.record_of_returned hbefore, returned_of_get hparty']
    rfl
  · rintro _ ⟨⟩
    rfl

/-- A stream that has seen one action. -/
theorem acted {party party' : Party} {stream : UtpStream} {soloAction : SoloAction}
    (hseen : journal.network.seen index action = [soloAction])
    (hparty : journal.network.parties[index]? = some party)
    (hreturned : party.returned = some stream)
    (hnext : ∀ solo : Solo, (∀ current, party.state = .streaming current → solo.stream = current) →
      ∃ solo', solo.step soloAction = some solo'
        ∧ ∀ current, party'.state = .streaming current → solo'.stream = current) :
    ∃ solo, journal.record action network' index = some solo
      ∧ (∃ actions, Run.exec Solo.step (Solo.start stream) actions = some solo)
      ∧ ∀ current, party'.state = .streaming current → solo.stream = current := by
  obtain ⟨solo, hhistory, ⟨actions, hexec⟩, hstream⟩ :=
    hfollowed.follows index party stream hparty hreturned
  obtain ⟨solo', hstep, hstream'⟩ := hnext solo hstream
  refine ⟨solo', ?_, ⟨actions ++ [soloAction], ?_⟩, hstream'⟩
  · rw [record_of_singleton hhistory hseen, hstep]
  · refine Run.exec_append.mpr ⟨solo, hexec, ?_⟩
    simp [Run.exec, hstep]

end Followed

/-- A packet that is put into the mailbox of a stream arrives there. -/
theorem step_arrive_of_receive {party : Party} {packet : Packet} (hhealthy : party.Healthy)
    (hpacket : packet.Handled) {stream : UtpStream} (hstate : party.state = .streaming stream)
    {solo : Solo} (hstream : solo.stream = stream) :
    solo.step (.arrive packet) = some (solo.received packet)
      ∧ party.state.receive packet = .streaming (solo.received packet).stream := by
  have hopened := (hhealthy.streaming stream hstate).2.opened
  subst hstream
  refine ⟨if_pos ⟨hopened, hpacket⟩, ?_⟩
  rw [hstate]
  rfl

/-- A party that was returned a stream and is alive is that stream. -/
theorem streaming_of_alive {party : Party} (hhealthy : party.Healthy)
    (halive : party.state.alive = true) {stream : UtpStream} (hreturned : party.returned = some stream) :
    ∃ current, party.state = .streaming current := by
  cases hstate : party.state with
  | connecting inboundPackets =>
      rw [(hhealthy.connecting inboundPackets hstate).1] at hreturned
      cases hreturned
  | streaming current => exact ⟨current, rfl⟩
  | unanswered =>
      rw [hstate] at halive
      cases halive
  | dropped =>
      rw [hstate] at halive
      cases halive

theorem returned_of_keeps {network network' : Network} {stream : UtpStream}
    (hkeeps : network.Keeps network') (hreturned : network.returned index = some stream) :
    network'.returned index = some stream := by
  obtain ⟨party, hparty, hsome⟩ := Option.bind_eq_some_iff.mp hreturned
  obtain ⟨party', hparty', -, hkept⟩ := hkeeps index party hparty
  rw [returned_of_get hparty']
  exact hkept stream hsome

theorem Followed.follows_acted (hfollowed : journal.Followed)
    (hacted : Acted journal.network action network') {party' : Party} {stream : UtpStream}
    (hparty' : network'.parties[index]? = some party') (hreturned : party'.returned = some stream) :
    ∃ solo, journal.record action network' index = some solo
      ∧ (∃ actions, Run.exec Solo.step (Solo.start stream) actions = some solo)
      ∧ ∀ current, party'.state = .streaming current → solo.stream = current := by
  cases hacted with
  | quiet hseen hparties hinFlight =>
      exact hfollowed.unchanged (hseen index) (hparties ▸ hparty') hparty' hreturned
  | joined party hseen hfresh hparties hinFlight =>
      rcases get_of_append hparties hparty' with ⟨rfl, rfl⟩ | ⟨-, hold⟩
      · cases hfresh with
        | waiting connection => cases hreturned
        | failed connection state hstate => cases hreturned
        | accepted connection accepted hmade hqueue =>
            exact hfollowed.begun (by simp [Network.returned]) hparty' hreturned
      · exact hfollowed.unchanged (hseen index) hold hparty' hreturned
  | returned position connection inboundPackets stream' hseen hparty hmade hqueue hparties
      hinFlight =>
      rcases get_of_set hparties hparty hparty' with ⟨rfl, rfl⟩ | ⟨-, hold⟩
      · exact hfollowed.begun (returned_of_get hparty) hparty' hreturned
      · exact hfollowed.unchanged (hseen index) hold hparty' hreturned
  | received position party datagram hparty halive hdatagram htype hlookup hseen hothers hparties
      hinFlight =>
      rcases get_of_set hparties hparty hparty' with ⟨rfl, rfl⟩ | ⟨hne, hold⟩
      · have hhealthy := hfollowed.healthy.parties party (List.mem_of_getElem? hparty)
        have hhandled := hfollowed.healthy.datagrams datagram hdatagram htype
        obtain ⟨current, hstate⟩ := streaming_of_alive hhealthy halive hreturned
        refine hfollowed.acted hseen hparty hreturned fun solo hstream => ?_
        obtain ⟨hstep, hreceive⟩ :=
          step_arrive_of_receive hhealthy hhandled hstate (hstream current hstate)
        refine ⟨_, hstep, fun next hnext => ?_⟩
        rw [hreceive] at hnext
        exact PartyState.streaming.inj hnext
      · exact hfollowed.unchanged (hothers index hne.symm) hold hparty' hreturned
  | called position connection returned before after call sent refused hparty hperform hseen hothers
      hparties hinFlight =>
      rcases get_of_set hparties hparty hparty' with ⟨rfl, rfl⟩ | ⟨hne, hold⟩
      · refine hfollowed.acted hseen hparty hreturned fun solo hstream => ?_
        obtain rfl := hstream before rfl
        obtain ⟨solo', hstep, hstream', -⟩ := Solo.step_call_of_perform hperform
        refine ⟨solo', hstep, ?_⟩
        rintro _ ⟨⟩
        exact hstream'
      · exact hfollowed.unchanged (hothers index hne.symm) hold hparty' hreturned
  | dropped position party hseen hparty hparties hinFlight =>
      rcases get_of_set hparties hparty hparty' with ⟨rfl, rfl⟩ | ⟨-, hold⟩
      · rw [record_of_nil (hseen index) (by rw [returned_of_get hparty, returned_of_get hparty'])]
        obtain ⟨solo, hhistory, hrun, -⟩ := hfollowed.follows index party stream hparty hreturned
        exact ⟨solo, hhistory, hrun, nofun⟩
      · exact hfollowed.unchanged (hseen index) hold hparty' hreturned

/-- **The journal follows the network.** -/
theorem Followed.step (hfollowed : journal.Followed) (hstep : journal.step action = some journal') :
    journal'.Followed := by
  obtain ⟨hnetwork, hhistories⟩ := step_eq_some.mp hstep
  have hacted := acted_of_step hfollowed.fit hfollowed.healthy hnetwork
  refine ⟨?_, hfollowed.healthy.acted hacted, ?_, ?_⟩
  · exact hfollowed.fit.moved (Network.moved_of_step hfollowed.fit.inFlight_fits hnetwork)
  · intro index hnone
    have hbefore : journal.network.returned index = none := by
      cases hreturned : journal.network.returned index with
      | none => rfl
      | some stream =>
          rw [returned_of_keeps hacted.keeps hreturned] at hnone
          cases hnone
    rw [hhistories, hfollowed.record_of_returned hbefore, hnone]
    rfl
  · intro index party' stream hparty' hreturned
    rw [hhistories]
    exact hfollowed.follows_acted hacted hparty' hreturned

theorem followed_init : init.Followed where
  fit := allFit_init
  healthy := healthy_init
  absent _ _ := rfl
  follows := by simp [init, Network.init]

theorem followed_of_exec {actions : List NetworkAction}
    (hexec : Run.exec Journal.step init actions = some journal) : journal.Followed :=
  Run.exec_invariant (fun _ _ _ hfollowed hstep => hfollowed.step hstep) followed_init hexec

/-- The journal leaves the network as it is. -/
theorem exec_network {journal : Journal} {actions : List NetworkAction} {network : Network} :
    Run.exec Network.step journal.network actions = some network
      ↔ ∃ histories, Run.exec Journal.step journal actions = some ⟨network, histories⟩ := by
  induction actions generalizing journal with
  | nil =>
      simp only [Run.exec, Option.some.injEq]
      constructor
      · rintro rfl
        exact ⟨journal.histories, rfl⟩
      · rintro ⟨histories, rfl⟩
        rfl
  | cons action actions ih =>
      simp only [Run.exec_cons]
      constructor
      · rintro ⟨network', hstep, hexec⟩
        let journal' : Journal := ⟨network', journal.record action network'⟩
        obtain ⟨histories, hexec'⟩ := (@ih journal').mp hexec
        exact ⟨histories, journal', step_eq_some.mpr ⟨hstep, rfl⟩, hexec'⟩
      · rintro ⟨histories, journal', hstep, hexec⟩
        exact ⟨journal'.network, (step_eq_some.mp hstep).1, ih.mpr ⟨histories, hexec⟩⟩

theorem all_network {journal : Journal} {actions : List NetworkAction}
    {allowed : Network → NetworkAction → Prop} :
    Run.All Journal.step (fun journal => allowed journal.network) journal actions
      ↔ Run.All Network.step allowed journal.network actions := by
  induction actions generalizing journal with
  | nil => exact Iff.rfl
  | cons action actions ih =>
      constructor
      · rintro ⟨hallowed, hrest⟩
        refine ⟨hallowed, fun network' hstep => ?_⟩
        exact (@ih ⟨network', journal.record action network'⟩).mp
          (hrest _ (step_eq_some.mpr ⟨hstep, rfl⟩))
      · rintro ⟨hallowed, hrest⟩
        refine ⟨hallowed, fun journal' hstep => ih.mpr ?_⟩
        exact hrest journal'.network (step_eq_some.mp hstep).1

end Journal

/-- **Every stream of a network is a stream on its own.** In every run of a network, for every stream
that `connect` or `accept` has returned, the calls made on it and the packets put into its mailbox are
a run of that stream alone, and while the stream is there that run ends in it. -/
theorem streams_run_alone {actions : List NetworkAction} {final : Network}
    (hexec : Run.exec Network.step Network.init actions = some final) :
    ∃ histories, Run.exec Journal.step Journal.init actions = some ⟨final, histories⟩
      ∧ ∀ (index : Nat) (party : Party) (returned : UtpStream),
        final.parties[index]? = some party → party.returned = some returned →
        ∃ solo, histories index = some solo
          ∧ (∃ soloActions, Run.exec Solo.step (Solo.start returned) soloActions = some solo)
          ∧ ∀ stream, party.state = .streaming stream → solo.stream = stream := by
  obtain ⟨histories, hjournal⟩ := (@Journal.exec_network Journal.init _ _).mp hexec
  exact ⟨histories, hjournal, (Journal.followed_of_exec hjournal).follows⟩

theorem streams_run_alone_exchange :
    ∃ final histories, Run.exec Network.step Network.init exchangeActions = some final
      ∧ Run.exec Journal.step Journal.init exchangeActions = some ⟨final, histories⟩
      ∧ final.parties.length = 2
      ∧ ∀ (index : Nat) (party : Party) (returned : UtpStream),
        final.parties[index]? = some party → party.returned = some returned →
        ∃ solo, histories index = some solo
          ∧ (∃ soloActions, Run.exec Solo.step (Solo.start returned) soloActions = some solo)
          ∧ ∀ stream, party.state = .streaming stream → solo.stream = stream := by
  have hexec := (Option.some_get
    (by decide : (Run.exec Network.step Network.init exchangeActions).isSome)).symm
  obtain ⟨histories, hjournal, hstreams⟩ := streams_run_alone hexec
  exact ⟨_, histories, hexec, hjournal, by decide, hstreams⟩

/-- **Where a network can panic.** In every reachable network no read, write or flush of a stream panics,
whatever the mailbox and the outgoing channel do during it, and every shutdown does; no datagram makes a
receive task panic; a pending `connect` panics when it goes on exactly if a data packet was the first to
reach its mailbox; and an `accept` panics exactly if the key is taken that its SYN asks for. -/
theorem network_panics {actions : List NetworkAction} {final : Network}
    (hexec : Run.exec Network.step Network.init actions = some final) :
    (∀ party ∈ final.parties, ∀ stream, party.state = .streaming stream → ∀ call,
        ∃ outcome, stream.perform call = .ok outcome)
      ∧ (∀ party ∈ final.parties, ∀ stream, party.state = .streaming stream → ∀ env,
        stream.pollShutdown env = .error .todo)
      ∧ (∀ datagram ∈ final.inFlight,
        ∃ outcome, (final.sockets datagram.destination).receiveDatagram final.alive
          datagram.packet.intoBytes datagram.source = .ok outcome)
      ∧ (∀ party ∈ final.parties, ∀ inboundPackets, party.state = .connecting inboundPackets →
        ((∃ panic, UtpStream.connected party.connection.localAddr party.connection.connectionId
            party.connection.remoteAddr inboundPackets = some (.error panic))
          ↔ ∃ packet rest, inboundPackets.queue = packet :: rest ∧ packet.packetType = .data))
      ∧ ∀ localAddr queues seqNumber channel accepted,
        UtpListener.accept queues seqNumber channel (final.sockets localAddr) = some accepted →
          ((∃ panic, accepted.result = .error panic)
            ↔ (final.sockets localAddr).routingTable.lookup
              (accepted.syn.connectionId + 1, accepted.remoteAddr) ≠ none) := by
  obtain ⟨histories, hjournal⟩ := (@Journal.exec_network Journal.init _ _).mp hexec
  have hfollowed := Journal.followed_of_exec hjournal
  refine ⟨?_, ?_, ?_, ?_, fun _ _ _ _ _ haccept => UtpListener.accept_panics_iff haccept⟩
  · intro party hparty stream hstate call
    have hhealthy := ((hfollowed.healthy.parties party hparty).streaming stream hstate).2
    obtain ⟨stream', sent, refused, hperform, -⟩ := hhealthy.perform call
    exact ⟨_, hperform⟩
  · intro party hparty stream hstate env
    exact ((hfollowed.healthy.parties party hparty).streaming stream hstate).2.pollShutdown env
  · intro datagram hdatagram
    rw [(hfollowed.fit.inFlight_fits datagram hdatagram).receiveDatagram_eq]
    exact ⟨_, rfl⟩
  · intro party hparty inboundPackets hstate
    obtain ⟨-, hopened, hhandled⟩ :=
      (hfollowed.healthy.parties party hparty).connecting inboundPackets hstate
    cases hqueue : inboundPackets.queue with
    | nil => simp [UtpStream.connected, hqueue, hopened]
    | cons packet rest =>
        have hpacket := hhandled packet (by simp [hqueue])
        rcases hpacket with htype | htype
        · simp [UtpStream.connected, hqueue, htype]
        · simp [UtpStream.connected, hqueue, htype]

/-- The SYN arrives twice, the accepted stream writes at once, and its data packet overtakes the
SYN-ACK. -/
def outpacedActions : List NetworkAction :=
  let connector : SocketAddr := .v4 0x7F000001 9000
  let listener : SocketAddr := .v4 0x7F000001 9001
  [.connect connector listener [7] true, .duplicate 0, .deliver 0, .deliver 0,
    .accept listener 41 true, .call 1 (.pollWrite .plain [1, 2, 3]), .deliver 1]

def outpaced : Network := (Run.exec Network.step Network.init outpacedActions).get (by decide)

/-- What the copy of the SYN comes to. -/
def acceptedAgain : UtpListener.Accepted :=
  (UtpListener.accept true 43 2 (outpaced.sockets (.v4 0x7F000001 9001))).get (by decide)

theorem network_panics_outpaced :
    Run.exec Network.step Network.init outpacedActions = some outpaced
      ∧ (∃ party ∈ outpaced.parties, ∃ inboundPackets, party.state = .connecting inboundPackets
        ∧ ∃ panic, UtpStream.connected party.connection.localAddr party.connection.connectionId
          party.connection.remoteAddr inboundPackets = some (.error panic))
      ∧ (∃ party ∈ outpaced.parties, ∃ stream, party.state = .streaming stream
        ∧ stream.pollShutdown .plain = .error .todo)
      ∧ UtpListener.accept true 43 2 (outpaced.sockets (.v4 0x7F000001 9001)) = some acceptedAgain
      ∧ ∃ panic, acceptedAgain.result = .error panic := by
  have hexec : Run.exec Network.step Network.init outpacedActions = some outpaced :=
    (Option.some_get _).symm
  have haccept : UtpListener.accept true 43 2 (outpaced.sockets (.v4 0x7F000001 9001))
      = some acceptedAgain := (Option.some_get _).symm
  obtain ⟨-, hshutdowns, -, hconnects, haccepts⟩ := network_panics hexec
  refine ⟨hexec, ⟨_, List.mem_cons_self, _, rfl, ?_⟩, ?_, haccept, ?_⟩
  · exact (hconnects _ List.mem_cons_self _ rfl).mpr ⟨_, [], rfl, by decide⟩
  · have hparty : outpaced.parties[1]? = some ((outpaced.parties[1]?).get (by decide)) :=
      (Option.some_get _).symm
    exact ⟨_, List.mem_of_getElem? hparty, _, rfl,
      hshutdowns _ (List.mem_of_getElem? hparty) _ rfl .plain⟩
  · exact (haccepts _ true 43 2 _ haccept).mpr (by decide)

end UtpSafety
