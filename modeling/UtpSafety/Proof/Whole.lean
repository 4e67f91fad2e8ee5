import UtpSafety.Proof.Cut
import UtpSafety.Proof.Demux

/-!
# Datagrams that do not fit into the receive buffer

The receive buffer holds `maxDatagramSize` bytes, and the receive task parses what it holds. A longer
datagram is therefore cut behind the buffer. A cut in an extension is found out by the parser, and the
datagram is ignored. A cut in the payload is not: the parser takes what is there for the payload, and
the receive task routes it (`decoded_eq_some_iff`).
-/

namespace UtpSafety

theorem intoBytes_append_data (packet : Packet) (rest : Bytes) :
    { packet with data := packet.data ++ rest }.intoBytes = packet.intoBytes ++ rest := by
  simp only [intoBytes_eq, List.append_assoc]

theorem decoded_of_tryFrom {datagram : Bytes} {packet : Packet}
    (hparse : Packet.tryFrom datagram = .ok (.ok packet))
    (hfits : datagram.length - packet.data.length ≤ maxDatagramSize) :
    decoded datagram = some { packet with
      data := packet.data.take (maxDatagramSize - (datagram.length - packet.data.length)) } := by
  obtain ⟨rfl, hpacket⟩ := intoBytes_of_tryFrom hparse
  rw [packet.length_before_data] at hfits ⊢
  have hbuffer : maxDatagramSize = packetHeaderLen + (extensionsLength packet.extensions
      + (maxDatagramSize - (packetHeaderLen + extensionsLength packet.extensions))) := by
    omega
  have hcut := tryFrom_cut_payload hpacket
    (maxDatagramSize - (packetHeaderLen + extensionsLength packet.extensions))
  rw [← hbuffer] at hcut
  simp only [decoded, hcut]

/-- The bytes behind the buffer are payload if there is a packet in the buffer at all. -/
theorem exists_tryFrom_of_decoded {datagram : Bytes} {seen : Packet}
    (hdecoded : decoded datagram = some seen) :
    ∃ packet, Packet.tryFrom datagram = .ok (.ok packet)
      ∧ datagram.length - packet.data.length ≤ maxDatagramSize := by
  obtain ⟨hbytes, hversion, hformed⟩ := intoBytes_of_tryFrom (tryFrom_of_decoded hdecoded)
  have hwhole : { seen with data := seen.data ++ datagram.drop maxDatagramSize }.intoBytes
      = datagram := by
    rw [intoBytes_append_data, hbytes, List.take_append_drop]
  refine ⟨{ seen with data := seen.data ++ datagram.drop maxDatagramSize }, ?_, ?_⟩
  · have hpacket : { seen with data := seen.data ++ datagram.drop maxDatagramSize }.WellFormed :=
      ⟨hversion, hformed⟩
    have hround := tryFrom_intoBytes_of_wellFormed hpacket
    rwa [hwhole] at hround
  · rw [List.length_append, List.length_drop]
    omega

/-- What the receive task sees of a datagram is the packet that the whole datagram decodes to, with as
much of its payload as the buffer still takes. It sees nothing when the buffer ends before the
payload. -/
theorem decoded_eq_some_iff {datagram : Bytes} {seen : Packet} :
    decoded datagram = some seen ↔
      ∃ packet, Packet.tryFrom datagram = .ok (.ok packet)
        ∧ datagram.length - packet.data.length ≤ maxDatagramSize
        ∧ seen = { packet with
          data := packet.data.take (maxDatagramSize - (datagram.length - packet.data.length)) } := by
  constructor
  · intro hdecoded
    obtain ⟨packet, hparse, hfits⟩ := exists_tryFrom_of_decoded hdecoded
    refine ⟨packet, hparse, hfits, ?_⟩
    rw [decoded_of_tryFrom hparse hfits] at hdecoded
    exact (Option.some.inj hdecoded).symm
  · rintro ⟨packet, hparse, hfits, rfl⟩
    exact decoded_of_tryFrom hparse hfits

namespace Hub

/-- The packet has somewhere to go: it is a SYN, or the channel for its key is open. -/
def Takes (hub : Hub) (packet : Packet) (remoteAddr : SocketAddr) : Prop :=
  packet.packetType = .syn
    ∨ ∃ n, hub.socket.routingTable.lookup (packet.connectionId, remoteAddr) = some n
      ∧ hub.isAlive n = true

/-- Nobody has been given anything. -/
def Dropped (hub hub' : Hub) : Prop :=
  hub'.socket.synQueue = hub.socket.synQueue ∧ hub'.lines = hub.lines

/-- The packet has been given to the listeners, if it is a SYN, and else to its connection. -/
def Routed (hub hub' : Hub) (packet : Packet) (remoteAddr : SocketAddr) : Prop :=
  (packet.packetType = .syn
      ∧ hub'.socket.synQueue = hub.socket.synQueue ++ [(packet, remoteAddr)]
      ∧ hub'.lines = hub.lines)
    ∨ (packet.packetType ≠ .syn
      ∧ hub'.socket.synQueue = hub.socket.synQueue
      ∧ ∃ n < hub.lines.length,
        hub.socket.routingTable.lookup (packet.connectionId, remoteAddr) = some n
          ∧ hub'.lines = hub.deliver (some (n, packet)))

/-- A datagram has been dropped, or the packet that the whole of it decodes to has been routed. -/
def Whole (hub hub' : Hub) (datagram : Bytes) (remoteAddr : SocketAddr) : Prop :=
  hub.Dropped hub'
    ∨ ∃ packet, Packet.tryFrom datagram = .ok (.ok packet) ∧ hub.Routed hub' packet remoteAddr

variable {hub hub' : Hub} {datagram : Bytes} {packet packet' : Packet} {remoteAddr : SocketAddr}

theorem getElem?_deliver {n : Nat} (hn : n < hub.lines.length) (packet : Packet) :
    (hub.deliver (some (n, packet)))[n]?
      = some { hub.lines[n] with received := hub.lines[n].received ++ [packet] } := by
  simp [deliver, hn]

theorem deliver_ne_lines {n : Nat} (hn : n < hub.lines.length) :
    hub.deliver (some (n, packet)) ≠ hub.lines := by
  intro hsame
  have hline := getElem?_deliver hn packet
  rw [hsame, List.getElem?_eq_getElem hn, Option.some.injEq] at hline
  have hreceived := congrArg Line.received hline
  simp at hreceived

theorem deliver_inj {n : Nat} (hn : n < hub.lines.length)
    (hsame : hub.deliver (some (n, packet)) = hub.deliver (some (n, packet'))) :
    packet = packet' := by
  have hline := congrArg (fun lines => lines[n]?) hsame
  simpa only [getElem?_deliver hn, Option.some.injEq, Line.mk.injEq, true_and,
    List.append_cancel_left_eq, List.cons.injEq, and_true] using hline

theorem Routed.not_dropped (hrouted : hub.Routed hub' packet remoteAddr) : ¬hub.Dropped hub' := by
  rintro ⟨hqueue, hlines⟩
  rcases hrouted with ⟨-, happended, -⟩ | ⟨-, -, n, hn, -, hdelivered⟩
  · rw [hqueue] at happended
    simp at happended
  · exact deliver_ne_lines hn (hdelivered.symm.trans hlines)

theorem Routed.unique (hrouted : hub.Routed hub' packet remoteAddr)
    (hrouted' : hub.Routed hub' packet' remoteAddr)
    (hid : packet.connectionId = packet'.connectionId) : packet = packet' := by
  rcases hrouted with ⟨-, happended, -⟩ | ⟨-, hqueue, n, hn, hlookup, hdelivered⟩
  · rcases hrouted' with ⟨-, happended', -⟩ | ⟨-, hqueue', -⟩
    · rw [happended] at happended'
      simpa using happended'
    · rw [happended] at hqueue'
      simp at hqueue'
  · rcases hrouted' with ⟨-, happended', -⟩ | ⟨-, -, m, -, hlookup', hdelivered'⟩
    · rw [hqueue] at happended'
      simp at happended'
    · rw [hid, hlookup', Option.some.injEq] at hlookup
      subst hlookup
      exact deliver_inj hn (hdelivered.symm.trans hdelivered')

/-! ### What the receive task does with a datagram -/

theorem routed_of_takes (hdecoded : decoded datagram = some packet)
    (htakes : hub.Takes packet remoteAddr) :
    ∃ hub', hub.receive datagram remoteAddr = .ok hub' ∧ hub.Routed hub' packet remoteAddr := by
  rw [receive_of_decoded hdecoded, UtpSocket.routePacket]
  by_cases htype : packet.packetType = .syn
  · rw [if_pos htype]
    exact ⟨_, rfl, Or.inl ⟨htype, rfl, rfl⟩⟩
  · rw [if_neg htype]
    obtain ⟨n, hlookup, halive⟩ := htakes.resolve_left htype
    obtain ⟨line, hline, -⟩ := exists_of_isAlive halive
    have hn := (List.getElem?_eq_some_iff.mp hline).1
    simp only [hlookup, halive, if_true]
    exact ⟨_, rfl, Or.inr ⟨htype, rfl, n, hn, hlookup, rfl⟩⟩

theorem dropped_of_not_takes (hdecoded : decoded datagram = some packet)
    (htakes : ¬hub.Takes packet remoteAddr) :
    ∃ hub', hub.receive datagram remoteAddr = .ok hub' ∧ hub.Dropped hub' := by
  obtain ⟨htype, hdead⟩ := not_or.mp htakes
  rw [receive_of_decoded hdecoded, UtpSocket.routePacket, if_neg htype]
  cases hlookup : hub.socket.routingTable.lookup (packet.connectionId, remoteAddr) with
  | none => exact ⟨_, rfl, rfl, rfl⟩
  | some n =>
      have halive : ¬hub.isAlive n = true := fun halive => hdead ⟨n, hlookup, halive⟩
      simp only [if_neg halive]
      exact ⟨_, rfl, rfl, rfl⟩

theorem whole_iff_of_routed {k : Nat} (hparse : Packet.tryFrom datagram = .ok (.ok packet))
    (hrouted : hub.Routed hub' { packet with data := packet.data.take k } remoteAddr) :
    hub.Whole hub' datagram remoteAddr ↔ packet.data.length ≤ k := by
  constructor
  · rintro (hdropped | ⟨packet', hparse', hrouted'⟩)
    · exact absurd hdropped hrouted.not_dropped
    · rw [hparse, Except.ok.injEq, Except.ok.injEq] at hparse'
      subst hparse'
      have hdata := congrArg (fun routed => routed.data.length) (hrouted.unique hrouted' rfl)
      simp only [List.length_take] at hdata
      omega
  · intro hk
    refine Or.inr ⟨packet, hparse, ?_⟩
    rwa [List.take_of_length_le hk] at hrouted

/-- A poll whose next answer is the datagram goes on from one state only. -/
theorem eq_of_polls {received : Hub} (hreceive : hub.receive datagram remoteAddr = .ok received)
    (hpolls : ∀ answers, PacketReceiver.poll hub (.datagram datagram remoteAddr :: answers)
      = PacketReceiver.poll hub' answers) : hub' = received := by
  have hreturns := hpolls [.notReady]
  rw [poll_datagram hreceive] at hreturns
  simp only [PacketReceiver.poll, PacketReceiver.pollWith, Except.ok.injEq, Option.some.injEq,
    Prod.mk.injEq, and_true] at hreturns
  exact hreturns.symm

end Hub

/-- **When the receive task keeps a datagram whole.** It drops a datagram or routes exactly the packet
that the whole of it decodes to, unless the datagram is longer than the receive buffer, decodes to a
packet whose payload begins in the buffer, and this packet has somewhere to go. -/
theorem poll_whole_iff (hub : Hub) (datagram : Bytes) (remoteAddr : SocketAddr) :
    (∃ hub', (∀ answers, PacketReceiver.poll hub (.datagram datagram remoteAddr :: answers)
        = PacketReceiver.poll hub' answers) ∧ hub.Whole hub' datagram remoteAddr)
      ↔ datagram.length ≤ maxDatagramSize
        ∨ ∀ packet, Packet.tryFrom datagram = .ok (.ok packet) →
          maxDatagramSize < datagram.length - packet.data.length
            ∨ ¬hub.Takes packet remoteAddr := by
  cases hdecoded : decoded datagram with
  | none =>
      have hreceive : hub.receive datagram remoteAddr
          = .ok (hub.logged (.datagram datagram remoteAddr)) := Hub.receive_of_malformed hdecoded
      refine iff_of_true ⟨_, Hub.poll_datagram hreceive, Or.inl ⟨rfl, rfl⟩⟩ (Or.inr ?_)
      intro packet hparse
      refine Or.inl (Nat.lt_of_not_le fun hfits => ?_)
      rw [decoded_of_tryFrom hparse hfits] at hdecoded
      cases hdecoded
  | some seen =>
      obtain ⟨packet, hparse, hfits, rfl⟩ := decoded_eq_some_iff.mp hdecoded
      by_cases htakes : hub.Takes packet remoteAddr
      · obtain ⟨received, hreceive, hrouted⟩ := Hub.routed_of_takes hdecoded htakes
        have hwhole := Hub.whole_iff_of_routed hparse hrouted
        have hlength := packet.length_intoBytes
        rw [(intoBytes_of_tryFrom hparse).1] at hlength
        constructor
        · rintro ⟨hub', hpolls, hkept⟩
          obtain rfl := Hub.eq_of_polls hreceive hpolls
          have hdata := hwhole.mp hkept
          exact Or.inl (by omega)
        · intro hcondition
          refine ⟨received, Hub.poll_datagram hreceive, hwhole.mpr ?_⟩
          rcases hcondition with hshort | hcut
          · omega
          · rcases hcut packet hparse with hbehind | hnowhere
            · omega
            · exact absurd htakes hnowhere
      · obtain ⟨received, hreceive, hdropped⟩ := Hub.dropped_of_not_takes hdecoded htakes
        refine iff_of_true ⟨received, Hub.poll_datagram hreceive, Or.inl hdropped⟩ (Or.inr ?_)
        intro packet' hparse'
        rw [hparse, Except.ok.injEq, Except.ok.injEq] at hparse'
        subst hparse'
        exact Or.inr htakes

/-- A socket with one connection. -/
def listening : Hub :=
  (Run.exec Hub.step (Hub.bound (.v4 0x7F000001 9000)) [.insert 8 peerAddr]).get (by decide)

/-- One byte too long for the receive buffer. -/
def longPacket : Packet :=
  ⟨.data, 1, 8, 0, 0, 0, 1, 0, [], List.replicate (maxDataSegmentSize + 1) 0x07⟩

theorem poll_cuts_longPacket :
    Run.exec Hub.step (Hub.bound (.v4 0x7F000001 9000)) [.insert 8 peerAddr] = some listening
      ∧ longPacket.intoBytes.length = maxDatagramSize + 1
      ∧ Packet.tryFrom longPacket.intoBytes = .ok (.ok longPacket)
      ∧ ∃ hub', (∀ answers,
          PacketReceiver.poll listening (.datagram longPacket.intoBytes peerAddr :: answers)
            = PacketReceiver.poll hub' answers)
        ∧ hub'.lines = [⟨(8, peerAddr), true,
          [{ longPacket with data := List.replicate maxDataSegmentSize 0x07 }]⟩]
        ∧ ¬listening.Whole hub' longPacket.intoBytes peerAddr := by
  have hparse : Packet.tryFrom longPacket.intoBytes = .ok (.ok longPacket) :=
    tryFrom_intoBytes_of_wellFormed ⟨rfl, by simp [longPacket]⟩
  have hdata : longPacket.data.length = maxDataSegmentSize + 1 := List.length_replicate
  have hlength : longPacket.intoBytes.length = maxDatagramSize + 1 := by
    rw [Packet.length_intoBytes, hdata]
    rfl
  have hend : longPacket.intoBytes.length - longPacket.data.length = packetHeaderLen :=
    longPacket.length_before_data
  have hdecoded := decoded_of_tryFrom hparse (by rw [hend]; decide)
  rw [hend] at hdecoded
  have hlookup : listening.socket.routingTable.lookup (8, peerAddr) = some 0 := by
    decide
  have htakes : listening.Takes { longPacket with
      data := longPacket.data.take (maxDatagramSize - packetHeaderLen) } peerAddr :=
    Or.inr ⟨0, hlookup, by decide⟩
  obtain ⟨received, hreceive, hrouted⟩ := Hub.routed_of_takes hdecoded htakes
  refine ⟨(Option.some_get _).symm, hlength, hparse, received, Hub.poll_datagram hreceive, ?_, ?_⟩
  · rcases hrouted with ⟨hsyn, -⟩ | ⟨-, -, n, -, hlisted, hdelivered⟩
    · cases hsyn
    · obtain rfl : 0 = n := Option.some.inj (hlookup.symm.trans hlisted)
      have hlines : listening.lines = [⟨(8, peerAddr), true, []⟩] := by
        decide
      have hcut : longPacket.data.take (maxDatagramSize - packetHeaderLen)
          = List.replicate maxDataSegmentSize 0x07 := by
        rw [longPacket, List.take_replicate]
        rfl
      rw [hdelivered, hcut, Hub.deliver, hlines]
      rfl
  · rw [Hub.whole_iff_of_routed hparse hrouted, hdata]
    decide

end UtpSafety
