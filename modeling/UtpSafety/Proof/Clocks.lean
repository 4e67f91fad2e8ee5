import UtpSafety.Proof.Untimed
import UtpSafety.Proof.Journal

/-!
# The clocks decide nothing

The clock that a stream reads goes into timestamps, and the delays it makes of them into its congestion
controller. No decision reads any of it: of a state `untimed` keeps everything else, and two runs of a
network that differ in their clocks only look the same through it at every step.
-/

namespace UtpSafety

def Call.untimed : Call → Call
  | .pollWrite env buf => .pollWrite env.untimed buf
  | .pollRead env remaining => .pollRead env.untimed remaining
  | .pollFlush env => .pollFlush env.untimed

def NetworkAction.untimed : NetworkAction → NetworkAction
  | .call party polled => .call party polled.untimed
  | action => action

def UtpSocket.untimed (socket : UtpSocket) : UtpSocket :=
  { socket with synQueue := socket.synQueue.map Packet.untimedItem }

def PartyState.untimed : PartyState → PartyState
  | .connecting inboundPackets => .connecting inboundPackets.untimed
  | .streaming stream => .streaming stream.untimed
  | .unanswered => .unanswered
  | .dropped => .dropped

def Party.untimed (party : Party) : Party :=
  { party with
    returned := party.returned.map UtpStream.untimed
    state := party.state.untimed }

def Datagram.untimed (datagram : Datagram) : Datagram :=
  { datagram with packet := datagram.packet.untimed }

def Network.untimed (network : Network) : Network where
  sockets := fun addr => (network.sockets addr).untimed
  parties := network.parties.map Party.untimed
  inFlight := network.inFlight.map Datagram.untimed
  passed := network.passed.map Datagram.untimed

namespace UtpStream

/-- What a call came to, when this is its outcome, and that without clocks. -/
def performed {α : Type} : Except Panic (Outcome α) →
    Except Panic (UtpStream × List (Packet × SocketAddr) × List (Packet × SocketAddr)) :=
  Except.map fun outcome => (outcome.stream, outcome.sent, perform.refused outcome.result)

def untimedPerformed :
    Except Panic (UtpStream × List (Packet × SocketAddr) × List (Packet × SocketAddr)) →
    Except Panic (UtpStream × List (Packet × SocketAddr) × List (Packet × SocketAddr)) :=
  Except.map (Prod.map UtpStream.untimed
    (Prod.map (List.map Packet.untimedItem) (List.map Packet.untimedItem)))

theorem refused_untimed {α : Type} (result : Poll (Except IoError α)) :
    perform.refused (result.map (Except.mapError IoError.untimed))
      = (perform.refused result).map Packet.untimedItem := by
  cases result with
  | pending => rfl
  | ready result =>
      cases result with
      | ok value => rfl
      | error error =>
          cases error with
          | channelClosed item => rfl
          | connection error => rfl

theorem untimedPerformed_performed {α : Type} (outcome : Except Panic (Outcome α)) :
    untimedPerformed (performed outcome) = performed (outcome.map Outcome.untimed) := by
  cases outcome with
  | error panic => rfl
  | ok outcome =>
      simp only [untimedPerformed, performed, Except.map, Prod.map, Outcome.untimed, refused_untimed]

theorem perform_untimed (stream : UtpStream) (call : Call) :
    untimedPerformed (stream.untimed.perform call.untimed) = untimedPerformed (stream.perform call) := by
  cases call with
  | pollWrite env buf =>
      calc untimedPerformed (performed (.ok (stream.untimed.pollWrite env.untimed buf)))
          = performed (.ok (stream.untimed.pollWrite env.untimed buf).untimed) :=
            untimedPerformed_performed _
        _ = performed (.ok (stream.pollWrite env buf).untimed) := by
            rw [pollWrite_untimed, Outcome.untimed_untimed]
        _ = untimedPerformed (performed (.ok (stream.pollWrite env buf))) :=
            (untimedPerformed_performed (.ok (stream.pollWrite env buf))).symm
  | pollRead env remaining =>
      calc untimedPerformed (performed (stream.untimed.pollRead env.untimed remaining))
          = performed ((stream.untimed.pollRead env.untimed remaining).map Outcome.untimed) :=
            untimedPerformed_performed _
        _ = performed ((stream.pollRead env remaining).map Outcome.untimed) := by
            rw [pollRead_untimed]
        _ = untimedPerformed (performed (stream.pollRead env remaining)) :=
            (untimedPerformed_performed _).symm
  | pollFlush env =>
      calc untimedPerformed (performed (stream.untimed.pollFlush env.untimed))
          = performed ((stream.untimed.pollFlush env.untimed).map Outcome.untimed) :=
            untimedPerformed_performed _
        _ = performed ((stream.pollFlush env).map Outcome.untimed) := by
            rw [pollFlush_untimed]
        _ = untimedPerformed (performed (stream.pollFlush env)) :=
            (untimedPerformed_performed _).symm

end UtpStream

namespace Network

variable {network : Network}

theorem untimed_getElem? (network : Network) (index : Nat) :
    network.untimed.parties[index]? = (network.parties[index]?).map Party.untimed :=
  List.getElem?_map ..

theorem alive_untimed (network : Network) : network.untimed.alive = network.alive := by
  funext channel
  simp only [alive, untimed_getElem?]
  cases network.parties[channel]? with
  | none => rfl
  | some party =>
      obtain ⟨connection, returned, state⟩ := party
      cases state with
      | _ => rfl

theorem withSocket_untimed (network : Network) (localAddr : SocketAddr) (socket : UtpSocket) :
    (network.withSocket localAddr socket).untimed
      = network.untimed.withSocket localAddr socket.untimed := by
  simp only [withSocket, untimed, Network.mk.injEq, and_true]
  funext addr
  by_cases haddr : addr = localAddr
  · subst haddr
    rw [Function.update_self, Function.update_self]
  · rw [Function.update_of_ne haddr, Function.update_of_ne haddr]

theorem join_untimed (network : Network) (party : Party) :
    (network.join party).untimed = network.untimed.join party.untimed := by
  simp only [join, untimed, List.map_append, List.map_cons, List.map_nil]

theorem withParty_untimed (network : Network) (index : Nat) (party : Party) :
    (network.withParty index party).untimed = network.untimed.withParty index party.untimed := by
  simp only [withParty, untimed, List.map_set]

theorem pass_untimed (network : Network) (source : SocketAddr) (sender : Nat) (site : Site)
    (sent refused : List (Packet × SocketAddr)) :
    (network.pass source sender site sent refused).untimed = network.untimed.pass source sender site
      (sent.map Packet.untimedItem) (refused.map Packet.untimedItem) := by
  have hdatagrams : ∀ items : List (Packet × SocketAddr), (datagrams source sender site items).map
      Datagram.untimed = datagrams source sender site (items.map Packet.untimedItem) := by
    intro items
    rw [datagrams, datagrams, List.map_map, List.map_map]
    rfl
  simp only [pass, untimed, List.map_append, hdatagrams]

theorem enqueue_untimed (network : Network) (channel : Nat) (packet : Packet) :
    (network.enqueue channel packet).untimed = network.untimed.enqueue channel packet.untimed := by
  simp only [enqueue, untimed_getElem?]
  cases network.parties[channel]? with
  | none => rfl
  | some party =>
      obtain ⟨connection, returned, state⟩ := party
      simp only [Option.map_some, withParty_untimed]
      congr 1
      cases state with
      | connecting inboundPackets =>
          simp only [Party.untimed, PartyState.receive, PartyState.untimed, Mailbox.untimed,
            List.map_append, List.map_cons, List.map_nil]
      | streaming stream =>
          simp only [Party.untimed, PartyState.receive, PartyState.untimed, UtpStream.untimed,
            Mailbox.untimed, List.map_append, List.map_cons, List.map_nil]
      | unanswered => rfl
      | dropped => rfl

theorem registerConnection_untimed (socket : UtpSocket) (remoteAddr : SocketAddr) (channel : Nat)
    (draws : List UInt16) :
    socket.untimed.registerConnection remoteAddr channel draws
      = (socket.registerConnection remoteAddr channel draws).map (Prod.map id UtpSocket.untimed) := by
  have htable : socket.untimed.routingTable = socket.routingTable := rfl
  induction draws with
  | nil => rfl
  | cons connectionId draws ih =>
      simp only [UtpSocket.registerConnection, htable]
      cases socket.routingTable.lookup (connectionId, remoteAddr) with
      | none => rfl
      | some taken => exact ih

theorem step_connect_untimed (network : Network) (localAddr remoteAddr : SocketAddr)
    (draws : List UInt16) (queues : Bool) :
    network.untimed.step (.connect localAddr remoteAddr draws queues)
      = (network.step (.connect localAddr remoteAddr draws queues)).map untimed := by
  have hlength : network.untimed.parties.length = network.parties.length := List.length_map ..
  have hsocket : network.untimed.sockets localAddr = (network.sockets localAddr).untimed := rfl
  simp only [step, UtpStream.connect, hlength, hsocket, registerConnection_untimed]
  cases (network.sockets localAddr).registerConnection remoteAddr network.parties.length draws with
  | none => rfl
  | some registered =>
      obtain ⟨connectionId, socket⟩ := registered
      cases queues with
      | false =>
          simp only [Option.map_some, bind, Option.bind, pure, sendTo, Bool.false_eq_true, if_false,
            pass_untimed, join_untimed, withSocket_untimed, Prod.map, id]
          rfl
      | true =>
          simp only [Option.map_some, bind, Option.bind, pure, sendTo, if_true, pass_untimed,
            join_untimed, withSocket_untimed, Prod.map, id]
          rfl

theorem connected_untimed (localAddr : SocketAddr) (connectionIdRecv : UInt16)
    (remoteAddr : SocketAddr) (inboundPackets : Mailbox) :
    UtpStream.connected localAddr connectionIdRecv remoteAddr inboundPackets.untimed
      = (UtpStream.connected localAddr connectionIdRecv remoteAddr inboundPackets).map
        (Except.map UtpStream.untimed) := by
  obtain ⟨queue, closed⟩ := inboundPackets
  cases queue with
  | nil =>
      cases closed with
      | false => rfl
      | true => rfl
  | cons packet rest =>
      have htype : packet.untimed.packetType = packet.packetType := rfl
      simp only [UtpStream.connected, Mailbox.untimed, List.map_cons, htype]
      cases packet.packetType with
      | state => rfl
      | _ => rfl

theorem step_resume_untimed (network : Network) (index : Nat) :
    network.untimed.step (.resume index) = (network.step (.resume index)).map untimed := by
  simp only [step, untimed_getElem?]
  cases network.parties[index]? with
  | none => rfl
  | some party =>
      obtain ⟨connection, returned, state⟩ := party
      cases state with
      | connecting inboundPackets =>
          simp only [Option.map_some, Party.untimed, PartyState.untimed, connected_untimed]
          cases UtpStream.connected connection.localAddr connection.connectionId
            connection.remoteAddr inboundPackets with
          | none => rfl
          | some result =>
              cases result with
              | error panic =>
                  exact congrArg some (network.withParty_untimed index
                    ⟨connection, returned, .dropped⟩).symm
              | ok stream =>
                  exact congrArg some (network.withParty_untimed index
                    ⟨connection, some stream, .streaming stream⟩).symm
      | streaming stream => rfl
      | unanswered => rfl
      | dropped => rfl

theorem step_accept_untimed (network : Network) (localAddr : SocketAddr) (seqNumber : UInt16)
    (queues : Bool) :
    network.untimed.step (.accept localAddr seqNumber queues)
      = (network.step (.accept localAddr seqNumber queues)).map untimed := by
  have hlength : network.untimed.parties.length = network.parties.length := List.length_map ..
  have hsocket : network.untimed.sockets localAddr = (network.sockets localAddr).untimed := rfl
  simp only [step, hlength, hsocket]
  generalize network.sockets localAddr = socket
  obtain ⟨addr, routingTable, synQueue⟩ := socket
  cases synQueue with
  | nil => rfl
  | cons syn rest =>
      obtain ⟨packet, remoteAddr⟩ := syn
      simp only [UtpListener.accept, UtpSocket.untimed, UtpSocket.insertConnection, List.map_cons,
        Packet.untimedItem]
      have hid : packet.untimed.connectionId = packet.connectionId := rfl
      have hseq : packet.untimed.seqNumber = packet.seqNumber := rfl
      rw [hid, hseq]
      cases routingTable.lookup (packet.connectionId + 1, remoteAddr) with
      | some taken =>
          exact congrArg some (network.withSocket_untimed localAddr ⟨addr, routingTable, rest⟩).symm
      | none =>
          cases queues with
          | false =>
              simp only [sendTo, Bool.false_eq_true, if_false, Option.map_some, pass_untimed,
                join_untimed, withSocket_untimed]
              rfl
          | true =>
              simp only [sendTo, if_true, Option.map_some, pass_untimed, join_untimed,
                withSocket_untimed]
              rfl

theorem routePacket_untimed (socket : UtpSocket) (alive : Nat → Bool) (packet : Packet)
    (remoteAddr : SocketAddr) :
    socket.untimed.routePacket alive packet.untimed remoteAddr
      = Prod.map UtpSocket.untimed id (socket.routePacket alive packet remoteAddr) := by
  have htype : packet.untimed.packetType = packet.packetType := rfl
  have hlookup : socket.untimed.routingTable.lookup (packet.untimed.connectionId, remoteAddr)
      = socket.routingTable.lookup (packet.connectionId, remoteAddr) := rfl
  rw [UtpSocket.routePacket, UtpSocket.routePacket, htype, hlookup]
  split_ifs with hsyn
  · simp only [UtpSocket.untimed, Prod.map, id, List.map_append, List.map_cons, List.map_nil,
      Packet.untimedItem]
  · cases socket.routingTable.lookup (packet.connectionId, remoteAddr) with
    | none => rfl
    | some channel =>
        dsimp only
        split_ifs
        · rfl
        · rfl

theorem receiveDatagram_untimed {packet : Packet} (hfits : packet.Fits) (socket : UtpSocket)
    (alive : Nat → Bool) (remoteAddr : SocketAddr) :
    socket.untimed.receiveDatagram alive packet.untimed.intoBytes remoteAddr
      = (socket.receiveDatagram alive packet.intoBytes remoteAddr).map
        (Prod.map UtpSocket.untimed (Option.map (Prod.map id Packet.untimed))) := by
  have huntimed : packet.untimed.Fits := ⟨hfits.version, hfits.extensions, hfits.data⟩
  rw [hfits.receiveDatagram_eq, huntimed.receiveDatagram_eq, routePacket_untimed]
  simp only [Except.map, Prod.map, id, Option.map_map]
  rfl

theorem step_deliver_untimed (hfit : network.AllFit) (index : Nat) :
    network.untimed.step (.deliver index) = (network.step (.deliver index)).map untimed := by
  have hget : network.untimed.inFlight[index]? = (network.inFlight[index]?).map Datagram.untimed :=
    List.getElem?_map ..
  have hrest : ({ network.untimed with inFlight := network.untimed.inFlight.eraseIdx index } : Network)
      = untimed { network with inFlight := network.inFlight.eraseIdx index } := by
    simp only [untimed, List.eraseIdx_map]
  simp only [step, hget, alive_untimed, hrest]
  cases hdatagram : network.inFlight[index]? with
  | none => rfl
  | some datagram =>
      have hfits := hfit.inFlight_fits datagram (List.mem_of_getElem? hdatagram)
      have hreceive := receiveDatagram_untimed hfits (network.sockets datagram.destination)
        network.alive datagram.source
      simp only [Option.map_some, Datagram.untimed]
      rw [show network.untimed.sockets datagram.destination
        = (network.sockets datagram.destination).untimed from rfl, hreceive]
      cases (network.sockets datagram.destination).receiveDatagram network.alive
        datagram.packet.intoBytes datagram.source with
      | error panic => rfl
      | ok received =>
          obtain ⟨socket, delivered⟩ := received
          cases delivered with
          | none => exact congrArg some (withSocket_untimed ..).symm
          | some delivered =>
              obtain ⟨channel, packet⟩ := delivered
              simp only [Except.map, Prod.map, id, Option.map_some, enqueue_untimed,
                withSocket_untimed]

theorem step_duplicate_untimed (network : Network) (index : Nat) :
    network.untimed.step (.duplicate index) = (network.step (.duplicate index)).map untimed := by
  have hget : network.untimed.inFlight[index]? = (network.inFlight[index]?).map Datagram.untimed :=
    List.getElem?_map ..
  simp only [step, hget]
  cases network.inFlight[index]? with
  | none => rfl
  | some datagram =>
      simp only [Option.map_some, untimed, List.map_append, List.map_cons, List.map_nil]

theorem step_lose_untimed (network : Network) (index : Nat) :
    network.untimed.step (.lose index) = (network.step (.lose index)).map untimed := by
  have hget : network.untimed.inFlight[index]? = (network.inFlight[index]?).map Datagram.untimed :=
    List.getElem?_map ..
  simp only [step, hget]
  cases network.inFlight[index]? with
  | none => rfl
  | some datagram => simp only [Option.map_some, untimed, List.eraseIdx_map]

theorem step_drop_untimed (network : Network) (index : Nat) :
    network.untimed.step (.drop index) = (network.step (.drop index)).map untimed := by
  simp only [step, untimed_getElem?]
  cases network.parties[index]? with
  | none => rfl
  | some party =>
      exact congrArg some (network.withParty_untimed index { party with state := .dropped }).symm

/-- The network after a call that came to this. -/
def called (network : Network) (index : Nat) (connection : Connection) (returned : Option UtpStream)
    (source : SocketAddr) :
    Except Panic (UtpStream × List (Packet × SocketAddr) × List (Packet × SocketAddr)) → Network
  | .error _ => network.withParty index ⟨connection, returned, .dropped⟩
  | .ok (stream, sent, refused) =>
      (network.withParty index ⟨connection, returned, .streaming stream⟩).pass source index .stream sent
        refused

theorem called_untimed (network : Network) (index : Nat) (connection : Connection)
    (returned : Option UtpStream) (source : SocketAddr)
    (result : Except Panic (UtpStream × List (Packet × SocketAddr) × List (Packet × SocketAddr))) :
    (network.called index connection returned source result).untimed
      = network.untimed.called index connection (returned.map UtpStream.untimed) source
        (UtpStream.untimedPerformed result) := by
  cases result with
  | error panic => exact network.withParty_untimed index ⟨connection, returned, .dropped⟩
  | ok performed =>
      simp only [called, pass_untimed, withParty_untimed]
      rfl

theorem step_call (network : Network) (index : Nat) (call : Call) :
    network.step (.call index call) = match network.parties[index]? with
      | some ⟨connection, returned, .streaming stream⟩ =>
          some (network.called index connection returned stream.localAddr (stream.perform call))
      | _ => none := by
  simp only [step]
  cases network.parties[index]? with
  | none => rfl
  | some party =>
      obtain ⟨connection, returned, state⟩ := party
      cases state with
      | streaming stream =>
          dsimp only
          cases stream.perform call with
          | error panic => rfl
          | ok performed => rfl
      | _ => rfl

theorem untimed_returned (returned : Option UtpStream) :
    (returned.map UtpStream.untimed).map UtpStream.untimed = returned.map UtpStream.untimed := by
  cases returned with
  | none => rfl
  | some stream => exact congrArg some stream.untimed_untimed

theorem untimed_untimed (network : Network) : network.untimed.untimed = network.untimed := by
  have hsocket : ∀ socket : UtpSocket, socket.untimed.untimed = socket.untimed := by
    intro socket
    simp only [UtpSocket.untimed, Packet.map_untimedItem_untimedItem]
  have hparty : ∀ party : Party, party.untimed.untimed = party.untimed := by
    intro party
    obtain ⟨connection, returned, state⟩ := party
    cases state with
    | connecting inboundPackets =>
        simp only [Party.untimed, untimed_returned, PartyState.untimed, Mailbox.untimed,
          Packet.map_untimed_untimed]
    | streaming stream =>
        simp only [Party.untimed, untimed_returned, PartyState.untimed, UtpStream.untimed_untimed]
    | unanswered => simp only [Party.untimed, untimed_returned, PartyState.untimed]
    | dropped => simp only [Party.untimed, untimed_returned, PartyState.untimed]
  have hdatagram : Datagram.untimed ∘ Datagram.untimed = Datagram.untimed := rfl
  have hparties : Party.untimed ∘ Party.untimed = Party.untimed := funext hparty
  simp only [untimed, hsocket, List.map_map, hdatagram, hparties]

theorem step_call_untimed (network : Network) (index : Nat) (call : Call) :
    (network.untimed.step (.call index call.untimed)).map untimed
      = (network.step (.call index call)).map untimed := by
  rw [step_call, step_call, untimed_getElem?]
  cases network.parties[index]? with
  | none => rfl
  | some party =>
      obtain ⟨connection, returned, state⟩ := party
      cases state with
      | streaming stream =>
          simp only [Option.map_some, Party.untimed, PartyState.untimed, called_untimed,
            untimed_untimed, untimed_returned, stream.perform_untimed]
          rfl
      | _ => rfl

/-- **What a step does to the rest of the state does not depend on the clocks.** -/
theorem step_untimed (hfit : network.AllFit) (action : NetworkAction) :
    (network.untimed.step action.untimed).map untimed = (network.step action).map untimed := by
  have hexact : ∀ {result : Option Network}, (result.map untimed).map untimed = result.map untimed := by
    intro result
    rw [Option.map_map]
    exact congrArg (Option.map · result) (funext untimed_untimed)
  cases action with
  | connect localAddr remoteAddr draws queues =>
      exact (congrArg _ (network.step_connect_untimed localAddr remoteAddr draws queues)).trans hexact
  | resume index => exact (congrArg _ (network.step_resume_untimed index)).trans hexact
  | accept localAddr seqNumber queues =>
      exact (congrArg _ (network.step_accept_untimed localAddr seqNumber queues)).trans hexact
  | call index call => exact step_call_untimed network index call
  | deliver index => exact (congrArg _ (step_deliver_untimed hfit index)).trans hexact
  | duplicate index => exact (congrArg _ (network.step_duplicate_untimed index)).trans hexact
  | lose index => exact (congrArg _ (network.step_lose_untimed index)).trans hexact
  | drop index => exact (congrArg _ (network.step_drop_untimed index)).trans hexact

end Network

/-! ### The history of a stream -/

def SoloAction.untimed : SoloAction → SoloAction
  | .arrive packet => .arrive packet.untimed
  | .close => .close
  | .pollWrite env buf => .pollWrite env.untimed buf
  | .pollRead env remaining => .pollRead env.untimed remaining
  | .pollFlush env => .pollFlush env.untimed

def Write.untimed (write : Write) : Write :=
  { write with result := write.result.map (Except.mapError IoError.untimed) }

namespace Solo

def untimed (solo : Solo) : Solo where
  stream := solo.stream.untimed
  arrived := solo.arrived.map Packet.untimed
  sent := solo.sent.map Packet.untimedItem
  writes := solo.writes.map Write.untimed
  delivered := solo.delivered

theorem untimed_untimed (solo : Solo) : solo.untimed.untimed = solo.untimed := by
  have hwrite : Write.untimed ∘ Write.untimed = Write.untimed := by
    funext write
    simp only [Function.comp, Write.untimed, IoError.untimed_untimed]
  simp only [untimed, UtpStream.untimed_untimed, List.map_map, hwrite]
  rfl

theorem after_untimed {α : Type} (solo : Solo) (outcome : Outcome α) :
    (solo.after outcome).untimed = solo.untimed.after outcome.untimed := by
  simp only [after, untimed, Outcome.untimed, List.map_append]

theorem handedOut_untimed (result : Poll (Except IoError Bytes)) :
    handedOut (result.map (Except.mapError IoError.untimed)) = handedOut result := by
  cases result with
  | pending => rfl
  | ready result =>
      cases result with
      | ok value => rfl
      | error error => rfl

/-- What a call makes of the stream goes by its outcome without clocks, when it does so for every
outcome. -/
theorem taken_untimed {α : Type} {solo : Solo} {outcome outcome' : Except Panic (Outcome α)}
    {finish : Solo → Outcome α → Solo} (hfinish : ∀ solo outcome,
      (finish solo outcome).untimed = finish solo.untimed outcome.untimed)
    (hsame : outcome'.map Outcome.untimed = outcome.map Outcome.untimed) :
    (outcome'.toOption.map (finish solo.untimed)).map untimed
      = (outcome.toOption.map (finish solo)).map untimed := by
  have htaken : ∀ (solo : Solo) (outcome : Except Panic (Outcome α)),
      (outcome.toOption.map (finish solo)).map untimed
        = (outcome.map Outcome.untimed).toOption.map (finish solo.untimed) := by
    intro solo outcome
    cases outcome with
    | error panic => rfl
    | ok outcome => exact congrArg some (hfinish solo outcome)
  rw [htaken, htaken, hsame, untimed_untimed]

theorem step_pollRead_untimed (solo : Solo) (env : Env) (remaining : Nat) :
    (solo.untimed.step (.pollRead env.untimed remaining)).map untimed
      = (solo.step (.pollRead env remaining)).map untimed := by
  have hstep : ∀ (solo : Solo) (env : Env), solo.step (.pollRead env remaining)
      = (solo.stream.pollRead env remaining).toOption.map fun outcome =>
        { solo.after outcome with delivered := solo.delivered ++ handedOut outcome.result } := by
    intro solo env
    rw [step]
    cases solo.stream.pollRead env remaining with
    | error panic => rfl
    | ok outcome => rfl
  rw [hstep, hstep]
  apply @taken_untimed _ _ _ _ (fun solo outcome =>
    { solo.after outcome with delivered := solo.delivered ++ handedOut outcome.result })
  · intro solo outcome
    have hresult : handedOut outcome.untimed.result = handedOut outcome.result :=
      handedOut_untimed outcome.result
    rw [hresult]
    exact congrArg (fun after : Solo =>
      { after with delivered := solo.delivered ++ handedOut outcome.result }) (after_untimed solo outcome)
  · exact solo.stream.pollRead_untimed env remaining

theorem step_pollFlush_untimed (solo : Solo) (env : Env) :
    (solo.untimed.step (.pollFlush env.untimed)).map untimed
      = (solo.step (.pollFlush env)).map untimed := by
  have hstep : ∀ (solo : Solo) (env : Env), solo.step (.pollFlush env)
      = (solo.stream.pollFlush env).toOption.map (after solo) := by
    intro solo env
    rw [step]
    cases solo.stream.pollFlush env with
    | error panic => rfl
    | ok outcome => rfl
  rw [hstep, hstep]
  exact taken_untimed after_untimed (solo.stream.pollFlush_untimed env)

theorem step_untimed (solo : Solo) (action : SoloAction) :
    (solo.untimed.step action.untimed).map untimed = (solo.step action).map untimed := by
  have hexact : ∀ {result : Option Solo}, (result.map untimed).map untimed = result.map untimed := by
    intro result
    rw [Option.map_map]
    exact congrArg (Option.map · result) (funext untimed_untimed)
  cases action with
  | arrive packet =>
      have harrive : solo.untimed.step (.arrive packet.untimed)
          = (solo.step (.arrive packet)).map untimed := by
        have htype : packet.untimed.packetType = packet.packetType := rfl
        have hclosed : solo.untimed.stream.inboundPackets.closed
            = solo.stream.inboundPackets.closed := rfl
        simp only [step, htype, hclosed]
        split_ifs
        · simp only [Option.map_some, untimed, UtpStream.untimed, Mailbox.untimed, List.map_append,
            List.map_cons, List.map_nil]
        · rfl
      exact (congrArg _ harrive).trans hexact
  | close =>
      have hclose : solo.untimed.step .close = (solo.step .close).map untimed := rfl
      exact (congrArg _ hclose).trans hexact
  | pollWrite env buf =>
      have hwrite : solo.untimed.step (.pollWrite env.untimed buf)
          = (solo.step (.pollWrite env buf)).map untimed := by
        have hstream : solo.untimed.stream.pollWrite env.untimed buf
            = (solo.stream.pollWrite env buf).untimed := solo.stream.pollWrite_untimed env buf
        simp only [step, hstream, Option.map_some, Option.some.injEq]
        simp only [untimed, after, Outcome.untimed, List.map_append, List.map_cons, List.map_nil]
        rfl
      exact (congrArg _ hwrite).trans hexact
  | pollRead env remaining => exact solo.step_pollRead_untimed env remaining
  | pollFlush env => exact solo.step_pollFlush_untimed env

/-- Two histories that differ in their clocks only go on in the same way. -/
theorem exec_untimed {solo solo' : Solo} {actions actions' : List SoloAction}
    (hsame : solo.untimed = solo'.untimed)
    (hactions : actions.map SoloAction.untimed = actions'.map SoloAction.untimed) :
    (Run.exec step solo actions).map untimed = (Run.exec step solo' actions').map untimed := by
  apply Run.exec_upTo (motive := fun _ => True) (fun _ _ _ _ _ => trivial) ?_ trivial trivial hsame
    hactions
  intro solo solo' action action' _ _ hsame haction
  rw [← step_untimed, ← step_untimed solo', hsame, haction]

end Solo

/-! ### Whole runs -/

namespace Network

variable {network : Network}

theorem returned_untimed (network : Network) (index : Nat) :
    network.untimed.returned index = (network.returned index).map UtpStream.untimed := by
  rw [returned, untimed_getElem?, returned]
  cases network.parties[index]? with
  | none => rfl
  | some party => rfl

theorem routed_untimed (hfit : network.AllFit) (position : Nat) :
    network.untimed.routed position
      = (network.routed position).map (Prod.map id Packet.untimed) := by
  have hget : network.untimed.inFlight[position]?
      = (network.inFlight[position]?).map Datagram.untimed := List.getElem?_map ..
  simp only [routed, hget, alive_untimed]
  cases hdatagram : network.inFlight[position]? with
  | none => rfl
  | some datagram =>
      have hfits := hfit.inFlight_fits datagram (List.mem_of_getElem? hdatagram)
      have hreceive := receiveDatagram_untimed hfits (network.sockets datagram.destination)
        network.alive datagram.source
      simp only [Option.map_some, Datagram.untimed]
      rw [show network.untimed.sockets datagram.destination
        = (network.sockets datagram.destination).untimed from rfl, hreceive]
      cases (network.sockets datagram.destination).receiveDatagram network.alive
        datagram.packet.intoBytes datagram.source with
      | error panic => rfl
      | ok received => rfl

theorem seen_untimed (hfit : network.AllFit) (index : Nat) (action : NetworkAction) :
    network.untimed.seen index action.untimed
      = (network.seen index action).map SoloAction.untimed := by
  cases action with
  | call party call =>
      have haction : call.untimed.action = call.action.untimed := by
        cases call with
        | _ => rfl
      simp only [NetworkAction.untimed, seen, haction]
      split_ifs
      · rfl
      · rfl
  | deliver position =>
      simp only [NetworkAction.untimed, seen, routed_untimed hfit]
      cases network.routed position with
      | none => rfl
      | some item =>
          simp only [Option.map_some, Prod.map, id]
          split_ifs
          · rfl
          · rfl
  | _ => rfl

end Network

namespace Journal

def untimed (journal : Journal) : Journal :=
  ⟨journal.network.untimed, fun index => (journal.histories index).map Solo.untimed⟩

variable {journal journal' : Journal} {action action' : NetworkAction}

theorem record_untimed (hfit : journal.network.AllFit) (action : NetworkAction) (network' : Network)
    (index : Nat) :
    (journal.untimed.record action.untimed network'.untimed index).map Solo.untimed
      = (journal.record action network' index).map Solo.untimed := by
  have hactions : (journal.untimed.network.seen index action.untimed).map SoloAction.untimed
      = (journal.network.seen index action).map SoloAction.untimed := by
    have hidempotent : SoloAction.untimed ∘ SoloAction.untimed = SoloAction.untimed := by
      funext action
      cases action with
      | _ => rfl
    rw [show journal.untimed.network = journal.network.untimed from rfl, Network.seen_untimed hfit,
      List.map_map, hidempotent]
  have hreturned : journal.untimed.network.returned index
      = (journal.network.returned index).map UtpStream.untimed := journal.network.returned_untimed index
  simp only [record, untimed]
  cases journal.histories index with
  | some solo => exact Solo.exec_untimed solo.untimed_untimed hactions
  | none =>
      simp only [Option.map_none, Network.returned_untimed]
      cases journal.network.returned index with
      | some stream => rfl
      | none =>
          cases network'.returned index with
          | none => rfl
          | some stream => exact congrArg some (Solo.start stream).untimed_untimed

/-- **Two journals that differ in their clocks only go on in the same way.** -/
theorem step_upTo (hfit : journal.network.AllFit) (hfit' : journal'.network.AllFit)
    (hsame : journal.untimed = journal'.untimed) (haction : action.untimed = action'.untimed) :
    (journal.step action).map untimed = (journal'.step action').map untimed := by
  have hnetwork : journal.network.untimed = journal'.network.untimed := congrArg Journal.network hsame
  have hstep : (journal.network.step action).map Network.untimed
      = (journal'.network.step action').map Network.untimed := by
    rw [← Network.step_untimed hfit, ← Network.step_untimed hfit', hnetwork, haction]
  rw [step, step]
  cases htaken : journal.network.step action with
  | none =>
      rw [htaken, Option.map_none, eq_comm, Option.map_eq_none_iff] at hstep
      rw [hstep]
      rfl
  | some next =>
      rw [htaken, Option.map_some, eq_comm, Option.map_eq_some_iff] at hstep
      obtain ⟨next', htaken', hnext⟩ := hstep
      rw [htaken']
      simp only [Option.map_some, untimed, hnext, Option.some.injEq, Journal.mk.injEq, true_and]
      funext index
      rw [← record_untimed hfit, ← record_untimed hfit', hsame, haction, hnext]

end Journal

/-- **The clocks decide nothing.** Take two runs of a network in which everything is the same but what
the clocks say. Then the second can be taken as far as the first, and ends in the same state but for
timestamps, delays and what the congestion controllers have made of them: the same packets are in
flight, every stream holds the same data, every write has had the same result, and reads have handed
out the same bytes. -/
theorem exec_congr_untimed {actions actions' : List NetworkAction} {journal : Journal}
    (hsame : actions.map NetworkAction.untimed = actions'.map NetworkAction.untimed)
    (hexec : Run.exec Journal.step Journal.init actions = some journal) :
    ∃ journal', Run.exec Journal.step Journal.init actions' = some journal'
      ∧ journal'.untimed = journal.untimed := by
  have hruns := @Run.exec_upTo _ _ _ _ Journal.step Journal.untimed NetworkAction.untimed
    (fun journal => journal.network.AllFit) ?_ (fun _ _ _ _ => Journal.step_upTo) Journal.init
    Journal.init actions actions' Network.allFit_init Network.allFit_init rfl hsame
  · rw [hexec, Option.map_some, eq_comm, Option.map_eq_some_iff] at hruns
    exact hruns
  · intro journal action journal' hfit hstep
    exact hfit.moved (Network.moved_of_step hfit.inFlight_fits (Journal.step_eq_some.mp hstep).1)

/-- The exchange of `exchangeActions`, by other clocks. -/
def skewedActions : List NetworkAction :=
  let connector : SocketAddr := .v4 0x7F000001 9000
  let listener : SocketAddr := .v4 0x7F000001 9001
  let skewed : Env := { Env.plain with
    receivedAt := fun _ => 5
    sentAt := fun _ => 70000 }
  [.connect connector listener [65535] true, .deliver 0, .accept listener 41 true, .deliver 0,
    .resume 0, .call 0 (.pollWrite skewed [1, 2, 3]), .deliver 0, .call 1 (.pollRead skewed 8),
    .call 1 (.pollWrite { skewed with queues := fun _ => false } [4])]

def exchanged : Journal := (Run.exec Journal.step Journal.init exchangeActions).get (by decide)

def skewed : Journal := (Run.exec Journal.step Journal.init skewedActions).get (by decide)

/-- The delay of the one packet that was read is not the same, and nothing else differs. -/
theorem exec_congr_untimed_skewed :
    (exchanged.histories 1).map (fun solo => solo.stream.congestionController.localBaseDelay) = some 0
      ∧ (skewed.histories 1).map (fun solo => solo.stream.congestionController.localBaseDelay)
        = some (5 - 70000)
      ∧ ∃ journal, Run.exec Journal.step Journal.init skewedActions = some journal
        ∧ journal.untimed = exchanged.untimed :=
  ⟨by decide, by decide, @exec_congr_untimed exchangeActions skewedActions exchanged rfl
    (Option.some_get _).symm⟩

end UtpSafety
