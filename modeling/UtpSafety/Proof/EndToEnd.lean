import UtpSafety.Proof.Covered
import UtpSafety.Proof.Trace

/-!
# From end to end

The pieces of the system put together: sockets, the handshake, many connections at once, a network
that loses, copies and reorders, calls in any order, channels that refuse packets, and streams that are
dropped. Two things are asked of a run. No packet of a stream overtakes the SYN-ACK on the way to a
pending `connect` (`SynAckFirst`), and no key of a routing table is registered twice (`Distinct`); the
code ensures neither. Then the bytes that come out at one end of a connection are those that went in
at the other.
-/

namespace UtpSafety

open UtpStream

namespace UtpStream.Made

variable {stream : UtpStream} (hmade : stream.Made) {actions : List SoloAction} {final : Solo}
  (hexec : Run.exec Solo.step (Solo.start stream) actions = some final)
include hmade hexec

theorem gapless : ∃ run counts, Solo.Gapless stream.ackNumber run counts final := by
  cases hmade with
  | new localAddr connectionIdRecv connectionIdSend remoteAddr inboundPackets seqNumber ackNumber
      hqueue hopened => exact Solo.gapless_of_exec hqueue rfl rfl hexec

theorem booked : ∃ payloads parts, Solo.Booked stream.seqNumber payloads parts final := by
  cases hmade with
  | new localAddr connectionIdRecv connectionIdSend remoteAddr inboundPackets seqNumber ackNumber
      hqueue hopened => exact booked_of_exec hqueue hexec

theorem covered {count : Nat} (hfirst : 1 ≤ stream.seqNumber.toNat)
    (hlast : stream.seqNumber.toNat + final.log.length ≤ 65535)
    (hacks : AcksUpTo stream.seqNumber count final.arrived) :
    Solo.Covered count final.log final.stream.unackedData := by
  cases hmade with
  | new localAddr connectionIdRecv connectionIdSend remoteAddr inboundPackets seqNumber ackNumber
      hqueue hopened => exact Solo.covered_of_exec hqueue rfl hexec hfirst hlast hacks

end UtpStream.Made

theorem Solo.Booked.map_dataSent {first : UInt16} {payloads parts : List Bytes} {solo : Solo}
    (hbooked : Solo.Booked first payloads parts solo) : solo.dataSent.map Packet.data = payloads := by
  have hlog : (solo.dataSent.map fun packet => (packet.seqNumber, packet.data))
      = Serial.number first payloads := hbooked.log
  rw [← Serial.map_snd_number first payloads, ← hlog, List.map_map]
  rfl

theorem Solo.Booked.map_seqNumber {first : UInt16} {payloads parts : List Bytes} {solo : Solo}
    (hbooked : Solo.Booked first payloads parts solo) :
    solo.dataSent.map Packet.seqNumber = (Serial.number first payloads).map Prod.fst := by
  have hlog : (solo.dataSent.map fun packet => (packet.seqNumber, packet.data))
      = Serial.number first payloads := hbooked.log
  rw [← hlog, List.map_map]
  rfl

/-- The number of a data packet is given by its place. -/
theorem Solo.Booked.seqNumber_of_get {first : UInt16} {payloads parts : List Bytes} {solo : Solo}
    (hbooked : Solo.Booked first payloads parts solo) {position : Nat} {packet : Packet}
    (hpacket : solo.dataSent[position]? = some packet) :
    packet.seqNumber = Serial.offset first position := by
  have hget : (solo.dataSent.map Packet.seqNumber)[position]? = some packet.seqNumber := by
    rw [List.getElem?_map, hpacket]
    rfl
  rw [hbooked.map_seqNumber, List.getElem?_map, Serial.getElem?_number, Option.map_map] at hget
  obtain ⟨_, -, hnumber⟩ := Option.map_eq_some_iff.mp hget
  exact hnumber.symm

namespace Network

theorem Distinct.eq_of_connection {network : Network} (hdistinct : network.Distinct) {i j : Nat}
    {first second : Party} (hfirst : network.parties[i]? = some first)
    (hsecond : network.parties[j]? = some second)
    (hconnection : first.connection = second.connection) : i = j :=
  hdistinct.index_eq hfirst hsecond (by rw [hconnection]) (by rw [hconnection])

/-- The two ends of a connection have agreed on the numbers. -/
theorem Greeted.expects {network : Network} (hgreeted : network.Greeted)
    (hdistinct : network.Distinct) {i j : Nat} {receiver sender : Party} {inbound outbound : UtpStream}
    (hreceiver : network.parties[i]? = some receiver) (hsender : network.parties[j]? = some sender)
    (hpeer : sender.connection = receiver.connection.peer)
    (hinbound : receiver.returned = some inbound) (houtbound : sender.returned = some outbound) :
    inbound.ackNumber + 1 = outbound.seqNumber := by
  have hmet := hgreeted.met i receiver hreceiver
  have hmet' := hgreeted.met j sender hsender
  cases hrole : receiver.connection.role with
  | connector =>
      obtain ⟨-, k, party, stream, hparty, hconnection, hreturned, hnext⟩ :=
        hmet.connector inbound hinbound hrole
      obtain rfl : k = j := hdistinct.eq_of_connection hparty hsender (hconnection.trans hpeer.symm)
      obtain rfl : party = sender := Option.some.inj (hparty.symm.trans hsender)
      obtain rfl : stream = outbound := Option.some.inj (hreturned.symm.trans houtbound)
      exact hnext
  | acceptor =>
      have hrole' : sender.connection.role = .connector := by
        rw [hpeer, Connection.peer, hrole]
      rw [(hmet.acceptor inbound hinbound hrole).1, (hmet'.connector outbound houtbound hrole').1]
      rfl

end Network

namespace Journal

open Network

/-- The histories of the two ends of a connection, the second of which is the peer of the first. -/
structure Peers (journal : Journal) (i j : Nat) (inbound outbound : Solo) : Prop where
  connection : ∃ receiver sender, journal.network.parties[i]? = some receiver
    ∧ journal.network.parties[j]? = some sender ∧ sender.connection = receiver.connection.peer
  inbound : journal.histories i = some inbound
  outbound : journal.histories j = some outbound

variable {journal : Journal} {i j : Nat} {inbound outbound : Solo}

theorem Peers.symm (hpeers : journal.Peers i j inbound outbound) :
    journal.Peers j i outbound inbound := by
  obtain ⟨receiver, sender, hreceiver, hsender, hpeer⟩ := hpeers.connection
  refine ⟨⟨sender, receiver, hsender, hreceiver, ?_⟩, hpeers.outbound, hpeers.inbound⟩
  rw [hpeer, Connection.peer_peer]

theorem Followed.made (hfollowed : journal.Followed) {index : Nat} {solo : Solo}
    (hhistory : journal.histories index = some solo) :
    ∃ stream actions, journal.network.returned index = some stream ∧ stream.Made
      ∧ Run.exec Solo.step (Solo.start stream) actions = some solo := by
  cases hreturned : journal.network.returned index with
  | none =>
      rw [hfollowed.absent index hreturned] at hhistory
      cases hhistory
  | some stream =>
      obtain ⟨party, hparty, hsome⟩ := Option.bind_eq_some_iff.mp hreturned
      obtain ⟨solo', hhistory', ⟨actions, hexec⟩, -⟩ :=
        hfollowed.follows index party stream hparty hsome
      obtain rfl : solo' = solo := Option.some.inj (hhistory'.symm.trans hhistory)
      have hmade := (hfollowed.healthy.parties party (List.mem_of_getElem? hparty)).returned stream
        hsome
      exact ⟨stream, actions, rfl, hmade, hexec⟩

/-- What has arrived at one end was sent at the other. -/
theorem Traced.of_peers (htraced : journal.Traced) (hdistinct : journal.network.Distinct)
    (hpeers : journal.Peers i j inbound outbound) {packet : Packet}
    (hpacket : packet ∈ inbound.arrived) : journal.Sent j packet := by
  obtain ⟨receiver, sender, hreceiver, hsender, hpeer⟩ := hpeers.connection
  obtain ⟨k, party, hparty, hconnection, hsent⟩ :=
    htraced.reached i receiver hreceiver packet (Or.inr ⟨inbound, hpeers.inbound, hpacket⟩)
  obtain rfl : k = j := hdistinct.eq_of_connection hparty hsender (hconnection.trans hpeer.symm)
  exact hsent

theorem Sent.mem_dataSent {packet : Packet} (hsent : journal.Sent j packet)
    (houtbound : journal.histories j = some outbound) (htype : packet.packetType = .data) :
    packet ∈ outbound.dataSent := by
  rcases hsent with ⟨solo, hhistory, hpacket⟩ | ⟨stream, -, hsynAck⟩
  · obtain rfl : solo = outbound := Option.some.inj (hhistory.symm.trans houtbound)
    exact List.mem_filter.mpr ⟨hpacket, by simpa using htype⟩
  · rw [hsynAck] at htype
    cases htype

/-- An ACK acknowledges what its sender had assembled by then. -/
theorem Sent.acked {packet : Packet} (hsent : journal.Sent j packet)
    (houtbound : journal.histories j = some outbound) {stream : UtpStream}
    (hreturned : journal.network.returned j = some stream) {run : List Bytes} {counts : List Nat}
    (hgapless : Solo.Gapless stream.ackNumber run counts outbound)
    (htype : packet.packetType = .state) :
    ∃ k ≤ run.length, packet.ackNumber + 1 = Serial.offset (stream.ackNumber + 1) k := by
  rcases hsent with ⟨solo, hhistory, hpacket⟩ | ⟨stream', hreturned', hsynAck⟩
  · obtain rfl : solo = outbound := Option.some.inj (hhistory.symm.trans houtbound)
    have hack : packet ∈ solo.acksSent := List.mem_filter.mpr ⟨hpacket, by simpa using htype⟩
    have hnumber : packet.ackNumber ∈ counts.map (Serial.offset stream.ackNumber) := by
      rw [← hgapless.acks]
      exact List.mem_map_of_mem hack
    obtain ⟨k, hk, hnumber⟩ := List.mem_map.mp hnumber
    refine ⟨k, hgapless.le k hk, ?_⟩
    rw [← hnumber, Serial.offset_add_one, Serial.offset_add_one_left]
  · obtain rfl : stream' = stream := Option.some.inj (hreturned'.symm.trans hreturned)
    refine ⟨0, Nat.zero_le _, ?_⟩
    rw [hsynAck, Serial.offset_zero]
    rfl

/-- What the system knows of the two ends of a connection: the first has assembled a front part of
what the second has sent, and it has acknowledged nothing else. -/
structure Conveyed (returned : UtpStream) (inbound outbound : Solo) (run payloads parts : List Bytes) :
    Prop where
  bytes : inbound.delivered ++ inbound.stream.receivedData = run.flatten
  isPrefix : outbound.dataSent.length ≤ 65535 → run <+: payloads
  stops : ∀ position, (∀ packet ∈ inbound.arrived, packet.packetType = .data →
    packet.seqNumber ≠ Serial.offset returned.seqNumber position) → run.length ≤ position
  booked : Solo.Booked returned.seqNumber payloads parts outbound
  acks : AcksUpTo returned.seqNumber run.length outbound.arrived

theorem Conveyed.exists_take {returned : UtpStream} {run payloads parts : List Bytes}
    (hconveyed : Conveyed returned inbound outbound run payloads parts)
    (hbound : outbound.dataSent.length ≤ 65535) :
    ∃ k ≤ outbound.dataSent.length,
      inbound.delivered ++ inbound.stream.receivedData
          = ((outbound.dataSent.take k).map Packet.data).flatten
        ∧ inbound.delivered ++ inbound.stream.receivedData <+: parts.flatten := by
  have hpayloads : outbound.dataSent.map Packet.data = payloads := hconveyed.booked.map_dataSent
  have hprefix := hconveyed.isPrefix hbound
  refine ⟨run.length, ?_, ?_, ?_⟩
  · have hlength := hprefix.length_le
    rw [← hpayloads, List.length_map] at hlength
    exact hlength
  · rw [hconveyed.bytes, List.map_take, hpayloads, ← List.prefix_iff_eq_take.mp hprefix]
  · rw [hconveyed.bytes, ← hconveyed.booked.flatten]
    obtain ⟨rest, rfl⟩ := hprefix
    rw [List.flatten_append]
    exact List.prefix_append _ _

theorem Peers.conveyed {actions : List NetworkAction}
    (hexec : Run.exec Journal.step Journal.init actions = some journal)
    (hall : Run.All Network.step Network.SynAckFirst Network.init actions)
    (hdistinct : journal.network.Distinct) (hpeers : journal.Peers i j inbound outbound) :
    ∃ returned soloActions run payloads parts, journal.network.returned j = some returned
      ∧ returned.Made
      ∧ Run.exec Solo.step (Solo.start returned) soloActions = some outbound
      ∧ Conveyed returned inbound outbound run payloads parts := by
  have hfollowed := followed_of_exec hexec
  have htraced := traced_of_exec hexec hdistinct
  have hnetwork : Run.exec Network.step Network.init actions = some journal.network :=
    (@exec_network Journal.init _ _).mpr ⟨journal.histories, hexec⟩
  have hgreeted := greeted_of_exec hall hnetwork
  obtain ⟨receiver, sender, hreceiver, hsender, hpeer⟩ := hpeers.connection
  obtain ⟨first, firstActions, hfirst, hfirstMade, hfirstExec⟩ := hfollowed.made hpeers.inbound
  obtain ⟨second, secondActions, hsecond, hsecondMade, hsecondExec⟩ :=
    hfollowed.made hpeers.outbound
  obtain ⟨run, counts, hgapless⟩ := hfirstMade.gapless hfirstExec
  obtain ⟨payloads, parts, hbooked⟩ := hsecondMade.booked hsecondExec
  have hexpects : first.ackNumber + 1 = second.seqNumber := by
    refine hgreeted.expects hdistinct hreceiver hsender hpeer ?_ ?_
    · rw [← returned_of_get hreceiver, hfirst]
    · rw [← returned_of_get hsender, hsecond]
  refine ⟨second, secondActions, run, payloads, parts, hsecond, hsecondMade, hsecondExec,
    hgapless.bytes, ?_, ?_, hbooked, ?_⟩
  · intro hbound
    refine hgapless.isPrefix ?_ ?_
    · rw [← Serial.length_number second.seqNumber payloads, ← hbooked.log, Solo.log, List.length_map]
      exact hbound
    · intro packet hpacket htype
      have hmem := (htraced.of_peers hdistinct hpeers hpacket).mem_dataSent hpeers.outbound htype
      rw [hexpects, ← hbooked.log]
      exact List.mem_map_of_mem hmem
  · intro position hmissing
    rw [← hexpects] at hmissing
    apply hgapless.length_le_of_missing
    rw [← Serial.offset_add_one_left]
    exact hmissing
  · intro packet hpacket htype
    rw [← hexpects]
    exact (htraced.of_peers hdistinct hpeers.symm hpacket).acked hpeers.inbound hfirst hgapless htype

end Journal

open Journal

/-- **From end to end.** In every run in which no packet of a stream overtakes a SYN-ACK and no key is
registered twice, let `inbound` and `outbound` be the histories of the two ends of a connection. While
no number has been used twice, what the reads at the one end have handed out, followed by what waits
there in `receivedData`, is the concatenation of the payloads of the first `k` data packets of the
other end, for some `k`, and so a front part of what the writes there have put out. -/
theorem end_to_end {actions : List NetworkAction} {journal : Journal}
    (hexec : Run.exec Journal.step Journal.init actions = some journal)
    (hall : Run.All Network.step Network.SynAckFirst Network.init actions)
    (hdistinct : journal.network.Distinct) {i j : Nat} {inbound outbound : Solo}
    (hpeers : journal.Peers i j inbound outbound) (hbound : outbound.dataSent.length ≤ 65535) :
    ∃ k ≤ outbound.dataSent.length,
      inbound.delivered ++ inbound.stream.receivedData
          = ((outbound.dataSent.take k).map Packet.data).flatten
        ∧ ∃ parts, List.Forall₂ Write.Contributed outbound.runningWrites parts
          ∧ inbound.delivered ++ inbound.stream.receivedData <+: parts.flatten := by
  obtain ⟨returned, soloActions, run, payloads, parts, -, -, -, hconveyed⟩ :=
    hpeers.conveyed hexec hall hdistinct
  obtain ⟨k, hk, hbytes, hprefix⟩ := hconveyed.exists_take hbound
  exact ⟨k, hk, hbytes, parts, hconveyed.booked.contributed, hprefix⟩

theorem end_to_end_reordered :
    Run.exec Journal.step Journal.init reorderedActions = some reordered
      ∧ ∃ inbound outbound, reordered.Peers 1 0 inbound outbound
        ∧ (inbound.delivered, inbound.stream.receivedData) = ([1, 2], [3, 4])
        ∧ ∃ k ≤ outbound.dataSent.length,
          inbound.delivered ++ inbound.stream.receivedData
              = ((outbound.dataSent.take k).map Packet.data).flatten
            ∧ ∃ parts, List.Forall₂ Write.Contributed outbound.runningWrites parts
              ∧ inbound.delivered ++ inbound.stream.receivedData <+: parts.flatten := by
  have hexec : Run.exec Journal.step Journal.init reorderedActions = some reordered :=
    (Option.some_get _).symm
  have hinbound : reordered.histories 1 = some ((reordered.histories 1).get (by decide)) :=
    (Option.some_get _).symm
  have houtbound : reordered.histories 0 = some ((reordered.histories 0).get (by decide)) :=
    (Option.some_get _).symm
  have hpeers := Peers.mk ⟨_, _, rfl, rfl, by decide⟩ hinbound houtbound
  exact ⟨hexec, _, _, hpeers, by decide,
    end_to_end hexec (by decide) (by decide) hpeers (by decide)⟩

theorem UtpStream.pollFlush_ready {env : Env} {stream : UtpStream} {outcome : Outcome Unit}
    (hflush : stream.pollFlush env = .ok outcome) (hready : outcome.result = .ready (.ok ())) :
    outcome.sent = [] ∧ outcome.stream.unackedData = [] := by
  cases hdrain : (drain env).run stream with
  | error panic => simp [pollFlush, hdrain, bind, Except.bind] at hflush
  | ok drained =>
      simp only [pollFlush, hdrain, bind, Except.bind, pure, Except.pure, throw, throwThe,
        MonadExceptOf.throw] at hflush
      split_ifs at hflush with hempty
      · cases hflush
        exact ⟨rfl, List.isEmpty_iff.mp hempty⟩
      · cases hflush
        cases hready

/-- A flush that is `Ready` has found an ACK for every data packet. -/
theorem UtpStream.Made.length_dataSent_le {returned : UtpStream} (hmade : returned.Made)
    {soloActions : List SoloAction} {outbound : Solo}
    (hsolo : Run.exec Solo.step (Solo.start returned) soloActions = some outbound)
    (hfirst : 1 ≤ returned.seqNumber.toNat)
    (hlast : returned.seqNumber.toNat + outbound.dataSent.length ≤ 65535) {count : Nat}
    (hacks : AcksUpTo returned.seqNumber count outbound.arrived) {env : Env} {outcome : Outcome Unit}
    (hflush : outbound.stream.pollFlush env = .ok outcome)
    (hready : outcome.result = .ready (.ok ())) : outbound.dataSent.length ≤ count := by
  obtain ⟨hsent, hunacked⟩ := pollFlush_ready hflush hready
  have hflushed : Run.exec Solo.step (Solo.start returned) (soloActions ++ [.pollFlush env])
      = some (outbound.after outcome) := by
    refine Run.exec_append.mpr ⟨outbound, hsolo, ?_⟩
    simp only [Run.exec, Solo.step, hflush]
  have hlog : (outbound.after outcome).log = outbound.log := by
    simp [Solo.log, Solo.dataSent, Solo.after, hsent]
  have hlength : outbound.log.length = outbound.dataSent.length := by
    rw [Solo.log, List.length_map]
  obtain ⟨m, hm, hbound, hdrop⟩ := hmade.covered hflushed hfirst (by rw [hlog, hlength]; exact hlast)
    hacks
  have hnil : outbound.log.drop m = [] := by
    rw [← hlog, ← hdrop]
    exact hunacked
  rw [← hlength]
  exact (List.drop_eq_nil_iff.mp hnil).trans hm

/-- So the other end has all of them. -/
theorem Journal.Conveyed.eq_of_ready {returned : UtpStream} {inbound outbound : Solo}
    {run payloads parts : List Bytes}
    (hconveyed : Conveyed returned inbound outbound run payloads parts) (hmade : returned.Made)
    {soloActions : List SoloAction}
    (hsolo : Run.exec Solo.step (Solo.start returned) soloActions = some outbound)
    (hfirst : 1 ≤ returned.seqNumber.toNat)
    (hlast : returned.seqNumber.toNat + outbound.dataSent.length ≤ 65535)
    {env : Env} {outcome : Outcome Unit} (hflush : outbound.stream.pollFlush env = .ok outcome)
    (hready : outcome.result = .ready (.ok ())) : run = payloads := by
  refine (hconveyed.isPrefix (by omega)).eq_of_length_le ?_
  rw [← hconveyed.booked.map_dataSent, List.length_map]
  exact hmade.length_dataSent_le hsolo hfirst hlast hconveyed.acks hflush hready

/-- **A flush means delivery.** In the same runs, while the numbers of a stream have not come round,
a flush of it that is `Ready` finds that the other end has assembled every byte that was sent. -/
theorem flush_means_assembled {actions : List NetworkAction} {journal : Journal}
    (hexec : Run.exec Journal.step Journal.init actions = some journal)
    (hall : Run.All Network.step Network.SynAckFirst Network.init actions)
    (hdistinct : journal.network.Distinct) {i j : Nat} {inbound outbound : Solo}
    (hpeers : journal.Peers i j inbound outbound) {returned : UtpStream}
    (hreturned : journal.network.returned j = some returned)
    (hfirst : 1 ≤ returned.seqNumber.toNat)
    (hlast : returned.seqNumber.toNat + outbound.dataSent.length ≤ 65535)
    {env : Env} {outcome : Outcome Unit} (hflush : outbound.stream.pollFlush env = .ok outcome)
    (hready : outcome.result = .ready (.ok ())) :
    inbound.delivered ++ inbound.stream.receivedData
      = (outbound.dataSent.map Packet.data).flatten := by
  obtain ⟨second, soloActions, run, payloads, parts, hsecond, hmade, hsolo, hconveyed⟩ :=
    hpeers.conveyed hexec hall hdistinct
  obtain rfl : second = returned := Option.some.inj (hsecond.symm.trans hreturned)
  have hrun := hconveyed.eq_of_ready hmade hsolo hfirst hlast hflush hready
  rw [hconveyed.bytes, hrun, hconveyed.booked.map_dataSent]

/-- One write, which arrives and is read; the ACK is in the mailbox of the writer. -/
def acknowledgedActions : List NetworkAction :=
  let connector : SocketAddr := .v4 0x7F000001 9000
  let listener : SocketAddr := .v4 0x7F000001 9001
  [.connect connector listener [65535] true, .deliver 0, .accept listener 41 true, .deliver 0,
    .resume 0, .call 0 (.pollWrite .plain [1, 2, 3]), .deliver 0, .call 1 (.pollRead .plain 2),
    .deliver 0]

def acknowledged : Journal :=
  (Run.exec Journal.step Journal.init acknowledgedActions).get (by decide)

def acknowledgedWriter : Solo := (acknowledged.histories 0).get (by decide)

def acknowledgedReader : Solo := (acknowledged.histories 1).get (by decide)

theorem flush_means_assembled_acknowledged :
    Run.exec Journal.step Journal.init acknowledgedActions = some acknowledged
      ∧ acknowledged.Peers 1 0 acknowledgedReader acknowledgedWriter
      ∧ acknowledgedWriter.stream.unackedData = [(2, [1, 2, 3])]
      ∧ ∃ outcome, acknowledgedWriter.stream.pollFlush .plain = .ok outcome
        ∧ outcome.result = .ready (.ok ())
        ∧ acknowledgedReader.delivered ++ acknowledgedReader.stream.receivedData
          = (acknowledgedWriter.dataSent.map Packet.data).flatten := by
  have hexec : Run.exec Journal.step Journal.init acknowledgedActions = some acknowledged :=
    (Option.some_get _).symm
  have hpeers : acknowledged.Peers 1 0 acknowledgedReader acknowledgedWriter :=
    ⟨⟨_, _, rfl, rfl, by decide⟩, (Option.some_get _).symm, (Option.some_get _).symm⟩
  have hresult : (acknowledgedWriter.stream.pollFlush .plain).toOption.map Outcome.result
      = some (.ready (.ok ())) := by decide
  cases hflush : acknowledgedWriter.stream.pollFlush .plain with
  | error panic =>
      rw [hflush] at hresult
      cases hresult
  | ok outcome =>
      rw [hflush] at hresult
      have hready : outcome.result = .ready (.ok ()) := Option.some.inj hresult
      exact ⟨hexec, hpeers, by decide, outcome, rfl, hready, flush_means_assembled hexec (by decide)
        (by decide) hpeers rfl (by decide) (by decide) hflush hready⟩

end UtpSafety
