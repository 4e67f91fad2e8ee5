import UtpSafety.Proof.EndToEnd

/-!
# A loss is final

Nothing is ever sent again: a data packet is passed to `send_to` once, when it is written. So a packet
of which no copy is in flight and none has arrived will not arrive any more (`Journal.Lost`), the row
of payloads at the other end stops before it, and no flush is `Ready` again. This is a fact about
whole runs in which no stream packet overtakes a SYN-ACK and no routing key is registered twice:
whatever is written, read, flushed, delivered and copied afterwards. Where a stream packet does overtake
the SYN-ACK, the two ends do not agree on the numbers, and a later packet may be taken for the lost one.
-/

namespace UtpSafety

open UtpStream

namespace Solo

theorem dataSent_isPrefix {solo solo' : Solo} (hsent : solo.sent <+: solo'.sent) :
    solo.dataSent <+: solo'.dataSent := (hsent.map Prod.fst).filter _

theorem packetType_of_mem_dataSent {solo : Solo} {packet : Packet}
    (hpacket : packet ∈ solo.dataSent) : packet.packetType = .data := by
  simpa using (List.mem_filter.mp hpacket).2

theorem Booked.nodup {first : UInt16} {payloads parts : List Bytes} {solo : Solo}
    (hbooked : Booked first payloads parts solo) (hbound : solo.dataSent.length ≤ 65535) :
    (solo.dataSent.map Packet.seqNumber).Nodup := by
  rw [hbooked.map_seqNumber, Serial.nodup_number_iff, ← hbooked.map_dataSent, List.length_map]
  omega

end Solo

namespace Journal

open Network

/-- Party `j` has sent the packet to party `i` as its data packet number `position`; no copy of it is
in flight, and none has ever been put into the mailbox of `i`. -/
structure Lost (journal : Journal) (i j position : Nat) (packet : Packet) : Prop where
  ends : ∃ receiver sender, journal.network.parties[i]? = some receiver
    ∧ journal.network.parties[j]? = some sender ∧ sender.connection = receiver.connection.peer
  sent : ∃ outbound, journal.histories j = some outbound
    ∧ outbound.dataSent[position]? = some packet
  flight : ∀ datagram ∈ journal.network.inFlight, datagram.sender = j → datagram.packet ≠ packet
  reached : ¬journal.Reached i packet

variable {journal journal' : Journal} {action : NetworkAction} {i j position : Nat} {packet : Packet}

theorem Followed.booked (hfollowed : journal.Followed) {outbound : Solo}
    (hhistory : journal.histories j = some outbound) :
    ∃ first payloads parts, Solo.Booked first payloads parts outbound := by
  obtain ⟨stream, actions, -, hmade, hexec⟩ := hfollowed.made hhistory
  obtain ⟨payloads, parts, hbooked⟩ := hmade.booked hexec
  exact ⟨stream.seqNumber, payloads, parts, hbooked⟩

/-- A data packet that is new in flight is new in the history of its sender. -/
theorem Followed.fresh_of_step (hfollowed : journal.Followed)
    (hstep : journal.step action = some journal') {datagram : Datagram}
    (hdatagram : datagram ∈ journal'.network.inFlight)
    (htype : datagram.packet.packetType = .data) :
    datagram ∈ journal.network.inFlight
      ∨ ∃ solo solo' more, journal.histories datagram.sender = some solo
        ∧ journal'.histories datagram.sender = some solo'
        ∧ solo'.dataSent = solo.dataSent ++ more ∧ datagram.packet ∈ more := by
  obtain ⟨hnetwork, hhistories⟩ := step_eq_some.mp hstep
  have hacted := acted_of_step hfollowed.fit hfollowed.healthy hnetwork
  cases hacted with
  | quiet hseen hparties hinFlight => exact Or.inl (hinFlight hdatagram)
  | joined party hseen hfresh hparties hinFlight =>
      rcases hinFlight datagram hdatagram with hold | ⟨-, hsyn | ⟨stream, -, hsynAck⟩⟩
      · exact Or.inl hold
      · rw [hsyn] at htype
        cases htype
      · rw [hsynAck] at htype
        cases htype
  | returned index connection inboundPackets stream hseen hparty hmade hqueue hparties hinFlight =>
      exact Or.inl (hinFlight hdatagram)
  | received index party datagram' hparty halive hdatagram' htype' hlookup hseen hothers hparties
      hinFlight => exact Or.inl (hinFlight hdatagram)
  | called index connection returned stream stream' call sent refused hparty hperform hseen hothers
      hparties hinFlight =>
      rcases hinFlight datagram hdatagram with hold | ⟨hsender, hsent⟩
      · exact Or.inl hold
      · obtain ⟨solo, hhistory, rfl⟩ := hfollowed.exists_history hparty
        obtain ⟨solo', hsolo, -, hsent', -⟩ := Solo.step_call_of_perform hperform
        subst hsender
        refine Or.inr ⟨solo, solo', (sent.map Prod.fst).filter fun packet =>
          packet.packetType = .data, hhistory, ?_, ?_, ?_⟩
        · rw [hhistories, record_of_singleton hhistory hseen, hsolo]
        · rw [Solo.dataSent, hsent', List.map_append, List.filter_append]
          rfl
        · exact List.mem_filter.mpr ⟨List.mem_map_of_mem hsent, by simpa using htype⟩
  | dropped index party hseen hparty hparties hinFlight => exact Or.inl (hinFlight hdatagram)

/-- What is on its way to one end of a connection was sent by the other. -/
theorem Traced.sender_of_delivers (htraced : journal.Traced) (hdistinct : journal.network.Distinct)
    {receiver sender : Party} (hreceiver : journal.network.parties[i]? = some receiver)
    (hsender : journal.network.parties[j]? = some sender)
    (hpeer : sender.connection = receiver.connection.peer)
    (hdelivers : Delivers journal.network i packet) :
    ∃ datagram ∈ journal.network.inFlight, datagram.sender = j ∧ datagram.packet = packet := by
  obtain ⟨datagram, hdatagram, htype, hlookup, hpacket⟩ := hdelivers
  obtain ⟨other, hstamped⟩ := htraced.keyed.datagrams datagram hdatagram
  obtain ⟨party, hparty, hconnection⟩ := htraced.keyed.lookup_peer hdistinct hstamped htype hlookup
  obtain rfl : party = receiver := Option.some.inj (hparty.symm.trans hreceiver)
  refine ⟨datagram, hdatagram, hdistinct.eq_of_connection hstamped.sender hsender ?_, hpacket⟩
  rw [hpeer, hconnection, Connection.peer_peer]

/-- **What is lost stays lost**, while the numbers of the sender have not come round. -/
theorem Lost.step (hlost : journal.Lost i j position packet) (hfollowed : journal.Followed)
    (htraced : journal.Traced) (hdistinct : journal.network.Distinct)
    (hstep : journal.step action = some journal') {outbound' : Solo}
    (hhistory' : journal'.histories j = some outbound')
    (hbound : outbound'.dataSent.length ≤ 65535) : journal'.Lost i j position packet := by
  have hnetwork := (step_eq_some.mp hstep).1
  have hkeeps := (acted_of_step hfollowed.fit hfollowed.healthy hnetwork).keeps
  obtain ⟨receiver, sender, hreceiver, hsender, hpeer⟩ := hlost.ends
  obtain ⟨outbound, hhistory, hpacket⟩ := hlost.sent
  obtain ⟨solo, hsolo, hgrown⟩ := hfollowed.history_grows hstep hhistory
  obtain rfl : solo = outbound' := Option.some.inj (hsolo.symm.trans hhistory')
  have hmem : packet ∈ outbound.dataSent := List.mem_of_getElem? hpacket
  refine ⟨?_, ⟨solo, hsolo, ?_⟩, ?_, ?_⟩
  · obtain ⟨receiver', hreceiver', hconnection, -⟩ := hkeeps i receiver hreceiver
    obtain ⟨sender', hsender', hconnection', -⟩ := hkeeps j sender hsender
    exact ⟨receiver', sender', hreceiver', hsender', by rw [hconnection, hconnection', hpeer]⟩
  · obtain ⟨more, hmore⟩ := Solo.dataSent_isPrefix hgrown
    rw [← hmore, List.getElem?_append_left (List.getElem?_eq_some_iff.mp hpacket).1]
    exact hpacket
  · rintro datagram hdatagram rfl rfl
    rcases hfollowed.fresh_of_step hstep hdatagram (Solo.packetType_of_mem_dataSent hmem) with
      hold | ⟨before, after, more, hbefore, hafter, hmore, hnew⟩
    · exact hlost.flight datagram hold rfl rfl
    · obtain rfl : before = outbound := Option.some.inj (hbefore.symm.trans hhistory)
      obtain rfl : after = solo := Option.some.inj (hafter.symm.trans hsolo)
      obtain ⟨first, payloads, parts, hbooked⟩ := (hfollowed.step hstep).booked hsolo
      have hnodup := hbooked.nodup hbound
      rw [hmore, List.map_append] at hnodup
      exact List.disjoint_of_nodup_append hnodup (List.mem_map_of_mem hmem)
        (List.mem_map_of_mem hnew)
  · intro hreached
    rcases hfollowed.reached_of_step hstep hreached with hold | hdelivers
    · exact hlost.reached hold
    · obtain ⟨datagram, hdatagram, hfrom, hsame⟩ :=
        htraced.sender_of_delivers hdistinct hreceiver hsender hpeer hdelivers
      exact hlost.flight datagram hdatagram hfrom hsame

theorem Lost.of_exec {actions more : List NetworkAction} {final : Journal}
    (hexec : Run.exec Journal.step init actions = some journal)
    (hlost : journal.Lost i j position packet)
    (hmore : Run.exec Journal.step journal more = some final) (hdistinct : final.network.Distinct)
    {outbound : Solo} (hhistory : final.histories j = some outbound)
    (hbound : outbound.dataSent.length ≤ 65535) : final.Lost i j position packet := by
  have hinvariant := Run.exec_invariant
    (motive := fun state : Journal => state.Followed
      ∧ (state.network.Distinct → state.Traced)
      ∧ (∃ outbound, state.histories j = some outbound)
      ∧ ∀ outbound, state.histories j = some outbound → state.network.Distinct →
        outbound.dataSent.length ≤ 65535 → state.Lost i j position packet)
    ?_ ⟨followed_of_exec hexec, fun hdistinct => traced_of_exec hexec hdistinct, ?_, ?_⟩ hmore
  · exact hinvariant.2.2.2 outbound hhistory hdistinct hbound
  · rintro state action state' ⟨hfollowed, htraced, ⟨before, hbefore⟩, hstays⟩ hstep
    have hnetwork := (step_eq_some.mp hstep).1
    have hkeeps := (acted_of_step hfollowed.fit hfollowed.healthy hnetwork).keeps
    obtain ⟨after, hafter, hgrown⟩ := hfollowed.history_grows hstep hbefore
    refine ⟨hfollowed.step hstep, ?_, ⟨after, hafter⟩, ?_⟩
    · intro hdistinct'
      have hdistinct := hdistinct'.of_keeps hkeeps
      exact (htraced hdistinct).step hfollowed hdistinct hstep
    · intro outbound houtbound hdistinct' hbound
      obtain rfl : after = outbound := Option.some.inj (hafter.symm.trans houtbound)
      have hdistinct := hdistinct'.of_keeps hkeeps
      have hshorter := (Solo.dataSent_isPrefix hgrown).length_le
      exact (hstays before hbefore hdistinct (by omega)).step hfollowed (htraced hdistinct) hdistinct
        hstep hafter hbound
  · obtain ⟨outbound, hhistory, -⟩ := hlost.sent
    exact ⟨outbound, hhistory⟩
  · exact fun _ _ _ _ => hlost

/-- The row at the other end stops before a packet that is lost. -/
theorem Lost.length_le (hlost : journal.Lost i j position packet) (htraced : journal.Traced)
    (hdistinct : journal.network.Distinct) {inbound outbound : Solo}
    (hpeers : journal.Peers i j inbound outbound) {returned : UtpStream}
    {run payloads parts : List Bytes}
    (hconveyed : Conveyed returned inbound outbound run payloads parts)
    (hbound : outbound.dataSent.length ≤ 65535) : run.length ≤ position := by
  obtain ⟨solo, hhistory, hpacket⟩ := hlost.sent
  obtain rfl : solo = outbound := Option.some.inj (hhistory.symm.trans hpeers.outbound)
  refine hconveyed.stops position fun other hother htype hnumber => hlost.reached ?_
  rw [← hconveyed.booked.seqNumber_of_get hpacket] at hnumber
  have hmem := (htraced.of_peers hdistinct hpeers hother).mem_dataSent hpeers.outbound htype
  have hsame : other = packet := List.inj_on_of_nodup_map (hconveyed.booked.nodup hbound) hmem
    (List.mem_of_getElem? hpacket) hnumber
  rw [← hsame]
  exact Or.inr ⟨inbound, hpeers.inbound, hother⟩

end Journal

open Journal

/-- **A loss is final.** Take a run in which no stream packet overtakes a SYN-ACK and no routing key is
registered twice. Suppose that in some state of it a data packet of one end of a connection is neither in
flight nor has it reached the other end. Then in every later state, whatever is written, read, flushed,
delivered and copied, the other end has handed out and assembled payloads of packets before it only, as long
as at most 65535 data packets were sent; and no flush of the sender is `Ready`, as long as its numbers do
not begin with 0 and have not passed 65535. -/
theorem loss_is_final {actions more : List NetworkAction} {journal final : Journal}
    (hexec : Run.exec Journal.step Journal.init actions = some journal) {i j position : Nat}
    {packet : Packet} (hlost : journal.Lost i j position packet)
    (hmore : Run.exec Journal.step journal more = some final)
    (hall : Run.All Network.step Network.SynAckFirst Network.init (actions ++ more))
    (hdistinct : final.network.Distinct) {inbound outbound : Solo}
    (hpeers : final.Peers i j inbound outbound) (hbound : outbound.dataSent.length ≤ 65535) :
    (∃ k ≤ position, inbound.delivered ++ inbound.stream.receivedData
        = ((outbound.dataSent.take k).map Packet.data).flatten)
      ∧ ∀ returned, final.network.returned j = some returned → 1 ≤ returned.seqNumber.toNat →
        returned.seqNumber.toNat + outbound.dataSent.length ≤ 65535 →
        ∀ env outcome, outbound.stream.pollFlush env = .ok outcome →
          outcome.result ≠ .ready (.ok ()) := by
  have hwhole : Run.exec Journal.step Journal.init (actions ++ more) = some final :=
    Run.exec_append.mpr ⟨journal, hexec, hmore⟩
  have hlost' := hlost.of_exec hexec hmore hdistinct hpeers.outbound hbound
  obtain ⟨first, soloActions, run, payloads, parts, hfirst, hmade, hsolo, hconveyed⟩ :=
    hpeers.conveyed hwhole hall hdistinct
  have hstops : run.length ≤ position :=
    hlost'.length_le (traced_of_exec hwhole hdistinct) hdistinct hpeers hconveyed hbound
  refine ⟨⟨run.length, hstops, ?_⟩, ?_⟩
  · rw [List.map_take, hconveyed.booked.map_dataSent,
      ← List.prefix_iff_eq_take.mp (hconveyed.isPrefix hbound), hconveyed.bytes]
  · intro returned hreturned hone hlast env outcome hflush hready
    obtain rfl : first = returned := Option.some.inj (hfirst.symm.trans hreturned)
    have hrun := hconveyed.eq_of_ready hmade hsolo hone hlast hflush hready
    obtain ⟨solo, hhistory, hpacket⟩ := hlost'.sent
    obtain rfl : solo = outbound := Option.some.inj (hhistory.symm.trans hpeers.outbound)
    have hposition := (List.getElem?_eq_some_iff.mp hpacket).1
    rw [hrun, ← hconveyed.booked.map_dataSent, List.length_map] at hstops
    omega

/-- One write, of which the packet is lost. -/
def lostActions : List NetworkAction :=
  let connector : SocketAddr := .v4 0x7F000001 9000
  let listener : SocketAddr := .v4 0x7F000001 9001
  [.connect connector listener [65535] true, .deliver 0, .accept listener 41 true, .deliver 0,
    .resume 0, .call 0 (.pollWrite .plain [1, 2, 3]), .lose 0]

/-- Another write, which arrives, and the ACK of the read that finds it. -/
def unavailingActions : List NetworkAction :=
  [.call 0 (.pollWrite .plain [4]), .deliver 0, .call 1 (.pollRead .plain 8), .deliver 0,
    .call 0 (.pollFlush .plain)]

def losing : Journal := (Run.exec Journal.step Journal.init lostActions).get (by decide)

def stalled : Journal := (Run.exec Journal.step losing unavailingActions).get (by decide)

def stalledWriter : Solo := (stalled.histories 0).get (by decide)

def stalledReader : Solo := (stalled.histories 1).get (by decide)

def lostPacket : Packet := (((losing.histories 0).get (by decide)).dataSent[0]?).get (by decide)

theorem lost_losing : losing.Lost 1 0 0 lostPacket := by
  have hreader : losing.histories 1 = some ((losing.histories 1).get (by decide)) :=
    (Option.some_get _).symm
  refine ⟨⟨_, _, rfl, rfl, by decide⟩, ⟨_, (Option.some_get _).symm, (Option.some_get _).symm⟩,
    by decide, ?_⟩
  rintro (⟨party, inboundPackets, hparty, hstate, -⟩ | ⟨solo, hsolo, hpacket⟩)
  · cases hparty
    cases hstate
  · rw [hreader] at hsolo
    cases hsolo
    revert hpacket
    decide

theorem loss_is_final_stalled :
    Run.exec Journal.step Journal.init lostActions = some losing
      ∧ Run.exec Journal.step losing unavailingActions = some stalled
      ∧ (stalledWriter.dataSent.map Packet.data, stalledReader.delivered) = ([[1, 2, 3], [4]], [])
      ∧ (∃ k ≤ 0, stalledReader.delivered ++ stalledReader.stream.receivedData
        = ((stalledWriter.dataSent.take k).map Packet.data).flatten)
      ∧ ∀ returned, stalled.network.returned 0 = some returned → 1 ≤ returned.seqNumber.toNat →
        returned.seqNumber.toNat + stalledWriter.dataSent.length ≤ 65535 →
        ∀ env outcome, stalledWriter.stream.pollFlush env = .ok outcome →
          outcome.result ≠ .ready (.ok ()) := by
  have hexec : Run.exec Journal.step Journal.init lostActions = some losing :=
    (Option.some_get _).symm
  have hmore : Run.exec Journal.step losing unavailingActions = some stalled :=
    (Option.some_get _).symm
  have hpeers : stalled.Peers 1 0 stalledReader stalledWriter :=
    ⟨⟨_, _, rfl, rfl, by decide⟩, (Option.some_get _).symm, (Option.some_get _).symm⟩
  exact ⟨hexec, hmore, by decide,
    loss_is_final hexec lost_losing hmore (by decide) (by decide) hpeers (by decide)⟩

end UtpSafety
