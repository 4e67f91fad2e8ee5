import UtpSafety.Proof.Journal

/-!
# Where packets come from

A key of a routing table that was freed can be registered again, and then the packets of the old
connection reach the new one. As long as no key is registered twice (`Network.Distinct`), streams and
pending `connect`s may come and go: every packet that reaches a mailbox was sent by the stream at the
other end of the same connection, or is its SYN-ACK (`Journal.Traced`).
-/

namespace UtpSafety

namespace Network

/-- This end of a connection is or was there. -/
def Known (network : Network) (connection : Connection) : Prop :=
  ∃ (index : Nat) (party : Party), network.parties[index]? = some party
    ∧ party.connection = connection

/-- The sockets and keys at which the parties were registered. -/
def registrations (network : Network) : List (SocketAddr × UInt16 × SocketAddr) :=
  network.parties.map fun party => (party.connection.localAddr, party.connection.key)

/-- No key of a routing table was registered twice. -/
def Distinct (network : Network) : Prop := network.registrations.Nodup

instance (network : Network) : Decidable network.Distinct :=
  inferInstanceAs (Decidable network.registrations.Nodup)

/-- A datagram bears the addresses and the id of the party that has sent it. -/
structure Stamped (network : Network) (datagram : Datagram) (party : Party) : Prop where
  sender : network.parties[datagram.sender]? = some party
  source : datagram.source = party.connection.localAddr
  destination : datagram.destination = party.connection.remoteAddr
  content :
    (datagram.packet.packetType = .syn ∧ party.connection.role = .connector
        ∧ datagram.packet.connectionId = party.connection.connectionId)
      ∨ (datagram.packet.packetType ≠ .syn
        ∧ datagram.packet.connectionId = party.connection.connectionIdSend
        ∧ network.Known party.connection.peer)

structure Placed (network : Network) (party : Party) : Prop where
  waiting : ∀ inboundPackets, party.state = .connecting inboundPackets →
    party.connection.role = .connector
      ∧ (inboundPackets.queue ≠ [] → network.Known party.connection.peer)
  streaming : ∀ stream, party.state = .streaming stream →
    stream.localAddr = party.connection.localAddr
      ∧ stream.remoteAddr = party.connection.remoteAddr
      ∧ stream.connectionIdSend = party.connection.connectionIdSend
      ∧ network.Known party.connection.peer

/-- The invariant. It differs from `Routed` in that the parties need not be there any more. -/
structure Keyed (network : Network) : Prop where
  localAddr : ∀ addr, (network.sockets addr).localAddr = addr
  table : ∀ addr key index, (network.sockets addr).routingTable.lookup key = some index →
    ∃ party, network.parties[index]? = some party ∧ party.connection.localAddr = addr
      ∧ party.connection.key = key
  syns : ∀ addr, ∀ item ∈ (network.sockets addr).synQueue,
    network.Known ⟨.connector, item.2, addr, item.1.connectionId⟩
  datagrams : ∀ datagram ∈ network.inFlight, ∃ party, network.Stamped datagram party
  parties : ∀ party ∈ network.parties, network.Placed party

variable {network network' : Network} {action : NetworkAction}

theorem Known.mono (hkeeps : network.Keeps network') {connection : Connection}
    (hknown : network.Known connection) : network'.Known connection := by
  obtain ⟨index, party, hparty, rfl⟩ := hknown
  obtain ⟨party', hparty', hconnection, -⟩ := hkeeps index party hparty
  exact ⟨index, party', hparty', hconnection⟩

theorem Stamped.mono (hkeeps : network.Keeps network') {datagram : Datagram} {party : Party}
    (hstamped : network.Stamped datagram party) : ∃ party', network'.Stamped datagram party' := by
  obtain ⟨party', hparty', hconnection, -⟩ := hkeeps _ _ hstamped.sender
  refine ⟨party', hparty', ?_, ?_, ?_⟩
  · rw [hconnection]
    exact hstamped.source
  · rw [hconnection]
    exact hstamped.destination
  · rw [hconnection]
    exact hstamped.content.imp id fun ⟨htype, hid, hknown⟩ => ⟨htype, hid, hknown.mono hkeeps⟩

theorem Placed.mono (hkeeps : network.Keeps network') {party : Party}
    (hplaced : network.Placed party) : network'.Placed party where
  waiting inboundPackets hstate := by
    obtain ⟨hrole, hknown⟩ := hplaced.waiting inboundPackets hstate
    exact ⟨hrole, fun hqueue => (hknown hqueue).mono hkeeps⟩
  streaming stream hstate := by
    obtain ⟨hlocal, hremote, hsend, hknown⟩ := hplaced.streaming stream hstate
    exact ⟨hlocal, hremote, hsend, hknown.mono hkeeps⟩

theorem getElem?_registrations {i : Nat} {party : Party}
    (hparty : network.parties[i]? = some party) :
    network.registrations[i]? = some (party.connection.localAddr, party.connection.key) := by
  simp [registrations, hparty]

theorem Distinct.index_eq (hdistinct : network.Distinct) {i j : Nat} {first second : Party}
    (hfirst : network.parties[i]? = some first) (hsecond : network.parties[j]? = some second)
    (hlocal : first.connection.localAddr = second.connection.localAddr)
    (hkey : first.connection.key = second.connection.key) : i = j := by
  have hi := getElem?_registrations hfirst
  have hj := getElem?_registrations hsecond
  rw [← hlocal, ← hkey] at hj
  exact (List.getElem?_inj (List.getElem?_eq_some_iff.mp hi).1 hdistinct).mp (hi.trans hj.symm)

theorem Distinct.of_keeps (hdistinct : network'.Distinct) (hkeeps : network.Keeps network') :
    network.Distinct := by
  have hprefix : network.registrations <+: network'.registrations := by
    rw [List.prefix_iff_getElem?]
    intro i hi
    have hparty := List.getElem?_eq_getElem (show i < network.parties.length by
      simpa [registrations] using hi)
    obtain ⟨party', hparty', hconnection, -⟩ := hkeeps i _ hparty
    rw [getElem?_registrations hparty', hconnection]
    simp [registrations]
  exact hprefix.sublist.nodup hdistinct

/-- A packet that is not a SYN leads to the peer of its sender. -/
theorem Keyed.lookup_peer (hkeyed : network.Keyed) (hdistinct : network.Distinct)
    {datagram : Datagram} {sender : Party} (hstamped : network.Stamped datagram sender)
    (htype : datagram.packet.packetType ≠ .syn) {channel : Nat}
    (hlookup : (network.sockets datagram.destination).routingTable.lookup
      (datagram.packet.connectionId, datagram.source) = some channel) :
    ∃ party, network.parties[channel]? = some party
      ∧ party.connection = sender.connection.peer := by
  obtain ⟨party, hparty, hlocal, hkey⟩ := hkeyed.table _ _ channel hlookup
  rcases hstamped.content with ⟨hsyn, -⟩ | ⟨-, hid, index, peer, hpeer, hconnection⟩
  · exact absurd hsyn htype
  · have hsame : channel = index := by
      refine hdistinct.index_eq hparty hpeer ?_ ?_
      · rw [hlocal, hconnection, hstamped.destination]
        rfl
      · rw [hkey, hconnection, Connection.key_peer, hid, hstamped.source]
    subst hsame
    obtain rfl : party = peer := Option.some.inj (hparty.symm.trans hpeer)
    exact ⟨party, hparty, hconnection⟩

/-- The invariant of a network from that of an earlier one: only what is new has to be looked at. -/
theorem Keyed.of_keeps (hkeyed : network.Keyed) (hkeeps : network.Keeps network')
    (hlocalAddr : ∀ addr, (network'.sockets addr).localAddr = (network.sockets addr).localAddr)
    (htable : ∀ addr key index, (network'.sockets addr).routingTable.lookup key = some index →
      (network.sockets addr).routingTable.lookup key = some index
      ∨ ∃ party, network'.parties[index]? = some party ∧ party.connection.localAddr = addr
        ∧ party.connection.key = key)
    (hsyns : ∀ addr, ∀ item ∈ (network'.sockets addr).synQueue,
      item ∈ (network.sockets addr).synQueue
      ∨ network.Known ⟨.connector, item.2, addr, item.1.connectionId⟩)
    (hdatagrams : ∀ datagram ∈ network'.inFlight,
      datagram ∈ network.inFlight ∨ ∃ party, network'.Stamped datagram party)
    (hparties : ∀ party ∈ network'.parties, party ∈ network.parties ∨ network.Placed party) :
    network'.Keyed where
  localAddr addr := (hlocalAddr addr).trans (hkeyed.localAddr addr)
  table := by
    intro addr key index hlookup
    rcases htable addr key index hlookup with hold | hnew
    · obtain ⟨party, hparty, haddr, hkey⟩ := hkeyed.table addr key index hold
      obtain ⟨party', hparty', hconnection, -⟩ := hkeeps index party hparty
      exact ⟨party', hparty', hconnection ▸ haddr, hconnection ▸ hkey⟩
    · exact hnew
  syns := by
    intro addr item hitem
    rcases hsyns addr item hitem with hold | hnew
    · exact (hkeyed.syns addr item hold).mono hkeeps
    · exact hnew.mono hkeeps
  datagrams := by
    intro datagram hdatagram
    rcases hdatagrams datagram hdatagram with hold | hnew
    · obtain ⟨party, hstamped⟩ := hkeyed.datagrams datagram hold
      exact hstamped.mono hkeeps
    · exact hnew
  parties := by
    intro party hparty
    rcases hparties party hparty with hold | hnew
    · exact (hkeyed.parties party hold).mono hkeeps
    · exact hnew.mono hkeeps

theorem Keyed.joined (hkeyed : network.Keyed) (network' : Network) (party : Party)
    {synQueue : List (Packet × SocketAddr)}
    (hsyns : synQueue ⊆ (network.sockets party.connection.localAddr).synQueue)
    (hsockets : network'.sockets = Function.update network.sockets party.connection.localAddr
      { network.sockets party.connection.localAddr with
        synQueue
        routingTable := (network.sockets party.connection.localAddr).routingTable.insert
          party.connection.key network.parties.length })
    (hparties : network'.parties = network.parties ++ [party])
    (hdatagrams : ∀ datagram ∈ network'.inFlight, datagram ∈ network.inFlight
      ∨ ∃ party, network'.Stamped datagram party)
    (hplaced : network.Placed party) : network'.Keyed := by
  refine hkeyed.of_keeps (keeps_of_append hparties) (localAddr_joined hsockets) ?_ ?_ hdatagrams ?_
  · intro addr key index hlookup
    rw [lookup_joined hsockets] at hlookup
    split_ifs at hlookup with hkey
    · right
      obtain ⟨rfl, rfl⟩ := hkey
      cases hlookup
      exact ⟨party, by simp [hparties], rfl, rfl⟩
    · exact Or.inl hlookup
  · intro addr item hitem
    left
    rw [synQueue_joined hsockets] at hitem
    split_ifs at hitem with haddr
    · subst haddr
      exact hsyns hitem
    · exact hitem
  · intro other hother
    rw [hparties] at hother
    rcases List.mem_append.mp hother with hold | hnew
    · exact Or.inl hold
    · rw [List.mem_singleton.mp hnew]
      exact Or.inr hplaced

theorem Keyed.changed (hkeyed : network.Keyed) (network' : Network) {index : Nat} (party' : Party)
    (hkeeps : network.Keeps network') (hsockets : network'.sockets = network.sockets)
    (hparties : network'.parties = network.parties.set index party')
    (hdatagrams : ∀ datagram ∈ network'.inFlight, datagram ∈ network.inFlight
      ∨ ∃ party, network'.Stamped datagram party)
    (hplaced : network.Placed party') : network'.Keyed := by
  refine hkeyed.of_keeps hkeeps ?_ ?_ ?_ hdatagrams ?_
  · rw [hsockets]
    exact fun _ => rfl
  · rw [hsockets]
    exact fun _ _ _ hlookup => Or.inl hlookup
  · rw [hsockets]
    exact fun _ _ hitem => Or.inl hitem
  · intro other hother
    rw [hparties] at hother
    rcases List.mem_or_eq_of_mem_set hother with hold | rfl
    · exact Or.inl hold
    · exact Or.inr hplaced

theorem Keyed.withSyns (hkeyed : network.Keyed) {localAddr : SocketAddr}
    {synQueue : List (Packet × SocketAddr)}
    (hsyns : ∀ item ∈ synQueue, item ∈ (network.sockets localAddr).synQueue
      ∨ network.Known ⟨.connector, item.2, localAddr, item.1.connectionId⟩)
    {inFlight : List Datagram} (hinFlight : inFlight ⊆ network.inFlight) :
    ((network.withInFlight inFlight).withSyns localAddr synQueue).Keyed := by
  refine hkeyed.of_keeps (keeps_of_eq rfl) ?_ ?_ ?_ (fun _ hdatagram => Or.inl (hinFlight hdatagram))
    (fun _ hparty => Or.inl hparty)
  · intro addr
    simp
  · intro addr key index hlookup
    exact Or.inl (by simpa using hlookup)
  · intro addr item hitem
    rw [withSyns_synQueue] at hitem
    split_ifs at hitem with haddr
    · subst haddr
      exact hsyns item hitem
    · exact Or.inl hitem

theorem Keyed.erased (hkeyed : network.Keyed) (localAddr : SocketAddr) (key : UInt16 × SocketAddr)
    {inFlight : List Datagram} (hinFlight : inFlight ⊆ network.inFlight) :
    ((network.withInFlight inFlight).withSocket localAddr
      { network.sockets localAddr with
        routingTable := (network.sockets localAddr).routingTable.erase key }).Keyed := by
  refine hkeyed.of_keeps (keeps_of_eq rfl) ?_ ?_ ?_ (fun _ hdatagram => Or.inl (hinFlight hdatagram))
    (fun _ hparty => Or.inl hparty)
  · intro addr
    by_cases haddr : addr = localAddr
    · subst haddr
      simp [withSocket]
    · simp [withSocket, Function.update_of_ne haddr]
  · intro addr key' index hlookup
    left
    by_cases haddr : addr = localAddr
    · subst haddr
      simp only [withSocket, Function.update_self] at hlookup
      by_cases hkey : key' = key
      · subst hkey
        simp [Finmap.lookup_erase] at hlookup
      · rw [Finmap.lookup_erase_ne hkey] at hlookup
        exact hlookup
    · simp only [withSocket, Function.update_of_ne haddr] at hlookup
      exact hlookup
  · intro addr item hitem
    left
    by_cases haddr : addr = localAddr
    · subst haddr
      simpa [withSocket] using hitem
    · simpa [withSocket, Function.update_of_ne haddr] using hitem

theorem stamped_joined {party : Party} (hparties : network'.parties = network.parties ++ [party])
    {source destination : SocketAddr} {packet : Packet} {site : Site}
    (hsource : source = party.connection.localAddr)
    (hdestination : destination = party.connection.remoteAddr)
    (hcontent :
      (packet.packetType = .syn ∧ party.connection.role = .connector
          ∧ packet.connectionId = party.connection.connectionId)
        ∨ (packet.packetType ≠ .syn ∧ packet.connectionId = party.connection.connectionIdSend
          ∧ network'.Known party.connection.peer)) :
    network'.Stamped ⟨source, destination, packet, network.parties.length, site⟩ party :=
  ⟨by simp [hparties], hsource, hdestination, hcontent⟩

theorem Keyed.accepted (hkeyed : network.Keyed) {localAddr remoteAddr : SocketAddr} {syn : Packet}
    {rest : List (Packet × SocketAddr)} {seqNumber : UInt16}
    (hsyn : (network.sockets localAddr).synQueue = (syn, remoteAddr) :: rest) {stream : UtpStream}
    (hstream : stream = UtpStream.new (network.sockets localAddr).localAddr
      (syn.connectionId + 1) syn.connectionId remoteAddr ⟨[], false⟩ (seqNumber + 1) syn.seqNumber) :
    ((((network.withSyns localAddr rest).register
      ⟨.acceptor, localAddr, remoteAddr, syn.connectionId⟩).join
      ⟨⟨.acceptor, localAddr, remoteAddr, syn.connectionId⟩, some stream, .streaming stream⟩).pass
      localAddr network.parties.length .accept
      [(UtpListener.synAckPacket syn.connectionId seqNumber syn.seqNumber, remoteAddr)] []).Keyed := by
  have hknown := hkeyed.syns localAddr (syn, remoteAddr) (by simp [hsyn])
  rw [network.register_withSyns ⟨.acceptor, localAddr, remoteAddr, syn.connectionId⟩ rest]
  refine hkeyed.joined _
    ⟨⟨.acceptor, localAddr, remoteAddr, syn.connectionId⟩, some stream, .streaming stream⟩
    (by simp [hsyn]) rfl rfl ?_ ⟨nofun, ?_⟩
  · intro datagram hdatagram
    rcases mem_inFlight_pass.mp hdatagram with hold | ⟨item, hitem, rfl⟩
    · exact Or.inl hold
    · rw [List.mem_singleton.mp hitem]
      refine Or.inr ⟨_, stamped_joined rfl rfl rfl (Or.inr ⟨nofun, rfl, ?_⟩)⟩
      exact hknown.mono (keeps_of_append rfl)
  · rintro _ ⟨⟩
    subst hstream
    exact ⟨hkeyed.localAddr localAddr, rfl, rfl, hknown⟩

theorem Keyed.called (hkeyed : network.Keyed) {index : Nat} {connection : Connection}
    {returned : Option UtpStream} {stream stream' : UtpStream}
    {sent refused : List (Packet × SocketAddr)}
    (hparty : network.parties[index]? = some ⟨connection, returned, .streaming stream⟩)
    (hperformed : UtpStream.Performed stream stream' (sent ++ refused)) :
    ((network.withParty index ⟨connection, returned, .streaming stream'⟩).pass stream.localAddr index
      .stream sent refused).Keyed := by
  obtain ⟨hlocal, hremote, hsend, hknown⟩ :=
    (hkeyed.parties _ (List.mem_of_getElem? hparty)).streaming stream rfl
  have hsame := hperformed.sameEnd
  have hkeeps : network.Keeps ((network.withParty index
      ⟨connection, returned, .streaming stream'⟩).pass stream.localAddr index .stream sent refused) :=
    keeps_of_set rfl hparty rfl (fun stream => id)
  refine hkeyed.changed _ ⟨connection, returned, .streaming stream'⟩ hkeeps rfl rfl ?_ ⟨nofun, ?_⟩
  · intro datagram hdatagram
    rcases mem_inFlight_pass.mp hdatagram with hold | ⟨item, hitem, rfl⟩
    · exact Or.inl hold
    · obtain ⟨-, hhandled, hid, hdestination⟩ :=
        hperformed.sends item (List.mem_append_left _ hitem)
      have hstamped : network.Stamped ⟨stream.localAddr, item.2, item.1, index, .stream⟩
          ⟨connection, returned, .streaming stream⟩ :=
        ⟨hparty, hlocal, hdestination.trans hremote,
          Or.inr ⟨hhandled.ne_syn, hid.trans hsend, hknown⟩⟩
      exact Or.inr (hstamped.mono hkeeps)
  · rintro _ ⟨⟩
    exact ⟨hsame.localAddr.trans hlocal, hsame.remoteAddr.trans hremote,
      hsame.connectionIdSend.trans hsend, hknown⟩

theorem Placed.receive {party : Party} (hplaced : network.Placed party)
    (hknown : network.Known party.connection.peer) (packet : Packet) :
    network.Placed { party with state := party.state.receive packet } := by
  obtain ⟨connection, returned, state⟩ := party
  cases state with
  | connecting inboundPackets =>
      refine ⟨?_, nofun⟩
      rintro _ ⟨⟩
      exact ⟨(hplaced.waiting inboundPackets rfl).1, fun _ => hknown⟩
  | streaming stream =>
      refine ⟨nofun, ?_⟩
      rintro _ ⟨⟩
      exact hplaced.streaming stream rfl
  | unanswered => exact ⟨nofun, nofun⟩
  | dropped => exact ⟨nofun, nofun⟩

/-- **Every action keeps the invariant**, as long as no key is registered twice. -/
theorem Keyed.moved (hkeyed : network.Keyed) (hhealthy : network.Healthy)
    (hdistinct : network.Distinct) (hmoved : Moved network action network') :
    network'.Keyed := by
  cases hmoved with
  | connect localAddr remoteAddr connectionId hvacant =>
      refine hkeyed.joined _
        ⟨⟨.connector, localAddr, remoteAddr, connectionId⟩, none, .connecting ⟨[], false⟩⟩
        (List.Subset.refl _) rfl rfl ?_ ⟨?_, nofun⟩
      · intro datagram hdatagram
        rcases mem_inFlight_pass.mp hdatagram with hold | ⟨item, hitem, rfl⟩
        · exact Or.inl hold
        · rw [List.mem_singleton.mp hitem]
          exact Or.inr ⟨_, stamped_joined rfl rfl rfl (Or.inl ⟨rfl, rfl, rfl⟩)⟩
      · rintro _ ⟨⟩
        exact ⟨rfl, fun hqueue => absurd rfl hqueue⟩
  | connectFailed localAddr remoteAddr connectionId =>
      refine hkeyed.joined _ ⟨⟨.connector, localAddr, remoteAddr, connectionId⟩, none, .dropped⟩
        (List.Subset.refl _) rfl rfl ?_ ⟨nofun, nofun⟩
      intro datagram hdatagram
      rcases mem_inFlight_pass.mp hdatagram with hold | ⟨item, hitem, -⟩
      · exact Or.inl hold
      · cases hitem
  | resumed index connection returned inboundPackets responsePacket rest hparty hqueue stream
      hstream =>
      obtain ⟨hrole, hknown⟩ :=
        (hkeyed.parties _ (List.mem_of_getElem? hparty)).waiting inboundPackets rfl
      have hparty' := (hhealthy.parties _ (List.mem_of_getElem? hparty)).connecting inboundPackets rfl
      obtain rfl : returned = none := hparty'.1
      obtain ⟨role, localAddr, remoteAddr, connectionId⟩ := connection
      obtain rfl : role = .connector := hrole
      refine hkeyed.changed _ ⟨_, some stream, .streaming stream⟩
        (keeps_of_set rfl hparty rfl nofun) rfl rfl (fun datagram hdatagram => Or.inl hdatagram)
        ⟨nofun, ?_⟩
      rintro _ ⟨⟩
      subst hstream
      exact ⟨rfl, rfl, rfl, hknown (by simp [hqueue])⟩
  | gone index party hparty =>
      exact hkeyed.changed _ { party with state := .dropped }
        (keeps_of_set rfl hparty rfl (fun stream => id)) rfl rfl
        (fun datagram hdatagram => Or.inl hdatagram) ⟨nofun, nofun⟩
  | accept localAddr syn remoteAddr rest seqNumber hsyn hvacant stream hstream =>
      exact hkeyed.accepted hsyn hstream
  | unanswered localAddr syn remoteAddr rest seqNumber hsyn hvacant =>
      rw [network.register_withSyns ⟨.acceptor, localAddr, remoteAddr, syn.connectionId⟩ rest]
      refine hkeyed.joined _
        ⟨⟨.acceptor, localAddr, remoteAddr, syn.connectionId⟩, none, .unanswered⟩
        (by simp [hsyn]) rfl rfl ?_ ⟨nofun, nofun⟩
      intro datagram hdatagram
      rcases mem_inFlight_pass.mp hdatagram with hold | ⟨item, hitem, -⟩
      · exact Or.inl hold
      · cases hitem
  | discarded localAddr syn rest hsyn =>
      refine hkeyed.withSyns (fun item hitem => Or.inl ?_) (List.Subset.refl network.inFlight)
      rw [hsyn]
      exact List.mem_cons_of_mem _ hitem
  | called index connection returned stream stream' sent refused hparty hperformed =>
      exact hkeyed.called hparty hperformed
  | synArrived datagram inFlight hdatagram hinFlight htype =>
      apply hkeyed.withSyns ?_ hinFlight
      intro item hitem
      rcases List.mem_append.mp hitem with hold | hnew
      · exact Or.inl hold
      · right
        rw [List.mem_singleton.mp hnew]
        obtain ⟨party, hstamped⟩ := hkeyed.datagrams datagram hdatagram
        refine ⟨datagram.sender, party, hstamped.sender, ?_⟩
        rcases hstamped.content with ⟨-, hrole, hid⟩ | ⟨hne, -⟩
        · rw [hstamped.source, hstamped.destination, hid, ← hrole]
        · exact absurd htype hne
  | arrived index datagram inFlight channel haction hdatagram hinFlight htype hlookup halive =>
      obtain ⟨sender, hstamped⟩ := hkeyed.datagrams datagram (List.mem_of_getElem? hdatagram)
      obtain ⟨party, hparty, hconnection⟩ :=
        hkeyed.lookup_peer hdistinct hstamped htype hlookup
      have hknown : network.Known party.connection.peer := by
        rw [hconnection, Connection.peer_peer]
        exact ⟨_, sender, hstamped.sender, rfl⟩
      simp only [enqueue, withInFlight, hparty]
      exact hkeyed.changed _ { party with state := party.state.receive datagram.packet }
        (keeps_of_set rfl hparty rfl (fun stream => id)) rfl rfl
        (fun datagram hmem => Or.inl (hinFlight hmem))
        ((hkeyed.parties party (List.mem_of_getElem? hparty)).receive hknown datagram.packet)
  | stale datagram inFlight channel hdatagram hinFlight htype hlookup hdead =>
      exact hkeyed.erased _ _ hinFlight
  | wire inFlight hinFlight =>
      exact hkeyed.of_keeps (keeps_of_eq rfl) (fun _ => rfl) (fun _ _ _ hlookup => Or.inl hlookup)
        (fun _ _ hitem => Or.inl hitem) (fun _ hdatagram => Or.inl (hinFlight hdatagram))
        (fun _ hparty => Or.inl hparty)

theorem keyed_init : init.Keyed where
  localAddr _ := rfl
  table := by simp [init, UtpSocket.bind]
  syns := by simp [init, UtpSocket.bind]
  datagrams := by simp [init]
  parties := by simp [init]

end Network

namespace Solo

theorem sent_isPrefix_of_step {solo solo' : Solo} {action : SoloAction}
    (hstep : solo.step action = some solo') : solo.sent <+: solo'.sent := by
  cases action with
  | arrive packet =>
      simp only [step] at hstep
      split_ifs at hstep
      cases hstep
      exact List.prefix_rfl
  | close =>
      cases hstep
      exact List.prefix_rfl
  | pollWrite env buf =>
      cases hstep
      exact List.prefix_append _ _
  | pollRead env remaining =>
      simp only [step] at hstep
      split at hstep
      · cases hstep
      · cases hstep
        exact List.prefix_append _ _
  | pollFlush env =>
      simp only [step] at hstep
      split at hstep
      · cases hstep
      · cases hstep
        exact List.prefix_append _ _

theorem sent_isPrefix_of_exec {solo solo' : Solo} {actions : List SoloAction}
    (hexec : Run.exec step solo actions = some solo') : solo.sent <+: solo'.sent :=
  Run.exec_invariant (motive := fun state => solo.sent <+: state.sent)
    (fun _ _ _ hgrown hstep => hgrown.trans (sent_isPrefix_of_step hstep)) List.prefix_rfl hexec

end Solo

/-! ### What has reached a mailbox -/

namespace Journal

open Network

/-- The stream of this party has sent the packet, or it is its SYN-ACK. -/
def Sent (journal : Journal) (index : Nat) (packet : Packet) : Prop :=
  (∃ solo, journal.histories index = some solo ∧ packet ∈ solo.sent.map Prod.fst)
    ∨ ∃ stream, journal.network.returned index = some stream ∧ packet = UtpListener.synAckPacket
      stream.connectionIdSend (stream.seqNumber - 1) stream.ackNumber

/-- The packet has been put into the mailbox of this party, be it before `connect` returned. -/
def Reached (journal : Journal) (index : Nat) (packet : Packet) : Prop :=
  (∃ (party : Party) (inboundPackets : Mailbox), journal.network.parties[index]? = some party
      ∧ party.state = .connecting inboundPackets ∧ packet ∈ inboundPackets.queue)
    ∨ ∃ solo, journal.histories index = some solo ∧ packet ∈ solo.arrived

def CameFrom (journal : Journal) (connection : Connection) (packet : Packet) : Prop :=
  ∃ (index : Nat) (party : Party), journal.network.parties[index]? = some party
    ∧ party.connection = connection ∧ journal.Sent index packet

/-- Every packet in flight was sent by its sender, and every packet in a mailbox by the peer. -/
structure Traced (journal : Journal) : Prop where
  keyed : journal.network.Keyed
  sent : ∀ datagram ∈ journal.network.inFlight, datagram.packet.packetType ≠ .syn →
    journal.Sent datagram.sender datagram.packet
  reached : ∀ (index : Nat) (party : Party), journal.network.parties[index]? = some party →
    ∀ packet, journal.Reached index packet → journal.CameFrom party.connection.peer packet

variable {journal journal' : Journal} {action : NetworkAction} {index : Nat} {packet : Packet}

/-- Histories only grow. -/
theorem Followed.history_grows (hfollowed : journal.Followed)
    (hstep : journal.step action = some journal') {solo : Solo}
    (hhistory : journal.histories index = some solo) :
    ∃ solo', journal'.histories index = some solo' ∧ solo.sent <+: solo'.sent := by
  obtain ⟨hnetwork, hhistories⟩ := step_eq_some.mp hstep
  have hacted := acted_of_step hfollowed.fit hfollowed.healthy hnetwork
  cases hreturned : journal.network.returned index with
  | none =>
      rw [hfollowed.absent index hreturned] at hhistory
      cases hhistory
  | some stream =>
      obtain ⟨party', hparty', hreturned'⟩ :=
        Option.bind_eq_some_iff.mp (returned_of_keeps hacted.keeps hreturned)
      obtain ⟨solo', hhistory', -, -⟩ :=
        (hfollowed.step hstep).follows index party' stream hparty' hreturned'
      have hexec : Run.exec Solo.step solo (journal.network.seen index action) = some solo' := by
        rw [← hhistory', hhistories]
        simp only [record, hhistory]
      exact ⟨solo', hhistory', Solo.sent_isPrefix_of_exec hexec⟩

theorem Followed.sent_mono (hfollowed : journal.Followed)
    (hstep : journal.step action = some journal') (hsent : journal.Sent index packet) :
    journal'.Sent index packet := by
  have hnetwork := (step_eq_some.mp hstep).1
  have hkeeps := (acted_of_step hfollowed.fit hfollowed.healthy hnetwork).keeps
  rcases hsent with ⟨solo, hhistory, hpacket⟩ | ⟨stream, hreturned, hpacket⟩
  · obtain ⟨solo', hhistory', hgrown⟩ := hfollowed.history_grows hstep hhistory
    exact Or.inl ⟨solo', hhistory', List.map_subset Prod.fst hgrown.subset hpacket⟩
  · exact Or.inr ⟨stream, returned_of_keeps hkeeps hreturned, hpacket⟩

theorem Followed.cameFrom_mono (hfollowed : journal.Followed)
    (hstep : journal.step action = some journal') {connection : Connection}
    (hcame : journal.CameFrom connection packet) : journal'.CameFrom connection packet := by
  have hnetwork := (step_eq_some.mp hstep).1
  have hkeeps := (acted_of_step hfollowed.fit hfollowed.healthy hnetwork).keeps
  obtain ⟨index, party, hparty, rfl, hsent⟩ := hcame
  obtain ⟨party', hparty', hconnection, -⟩ := hkeeps index party hparty
  exact ⟨index, party', hparty', hconnection, hfollowed.sent_mono hstep hsent⟩

/-- The datagram that an action puts into the mailbox of the party. -/
def Delivers (network : Network) (index : Nat) (packet : Packet) : Prop :=
  ∃ datagram ∈ network.inFlight, datagram.packet.packetType ≠ .syn
    ∧ (network.sockets datagram.destination).routingTable.lookup
      (datagram.packet.connectionId, datagram.source) = some index
    ∧ datagram.packet = packet

theorem waiting_of_acted {network network' : Network} (hacted : Acted network action network')
    {party' : Party} {inboundPackets : Mailbox} (hparty' : network'.parties[index]? = some party')
    (hstate : party'.state = .connecting inboundPackets) (hpacket : packet ∈ inboundPackets.queue) :
    (∃ (party : Party) (inboundPackets : Mailbox), network.parties[index]? = some party
        ∧ party.state = .connecting inboundPackets ∧ packet ∈ inboundPackets.queue)
      ∨ Delivers network index packet := by
  cases hacted with
  | quiet hseen hparties hinFlight =>
      exact Or.inl ⟨party', inboundPackets, hparties ▸ hparty', hstate, hpacket⟩
  | joined party hseen hfresh hparties hinFlight =>
      rcases get_of_append hparties hparty' with ⟨rfl, rfl⟩ | ⟨-, hold⟩
      · cases hfresh with
        | waiting connection =>
            cases hstate
            cases hpacket
        | failed connection state hdead =>
            dsimp only at hstate
            rw [hstate] at hdead
            cases hdead
        | accepted connection stream hmade hqueue => cases hstate
      · exact Or.inl ⟨party', inboundPackets, hold, hstate, hpacket⟩
  | returned position connection inboundPackets' stream hseen hparty hmade hqueue hparties
      hinFlight =>
      rcases get_of_set hparties hparty hparty' with ⟨rfl, rfl⟩ | ⟨-, hold⟩
      · cases hstate
      · exact Or.inl ⟨party', inboundPackets, hold, hstate, hpacket⟩
  | received position party datagram hparty halive hdatagram htype hlookup hseen hothers hparties
      hinFlight =>
      rcases get_of_set hparties hparty hparty' with ⟨rfl, rfl⟩ | ⟨-, hold⟩
      · obtain ⟨connection, returned, state⟩ := party
        cases state with
        | connecting before =>
            cases hstate
            rcases List.mem_append.mp hpacket with hold | hnew
            · exact Or.inl ⟨_, before, hparty, rfl, hold⟩
            · exact Or.inr ⟨datagram, hdatagram, htype, hlookup, (List.mem_singleton.mp hnew).symm⟩
        | streaming stream => cases hstate
        | unanswered => cases hstate
        | dropped => cases hstate
      · exact Or.inl ⟨party', inboundPackets, hold, hstate, hpacket⟩
  | called position connection returned stream stream' call sent refused hparty hperform hseen hothers
      hparties hinFlight =>
      rcases get_of_set hparties hparty hparty' with ⟨rfl, rfl⟩ | ⟨-, hold⟩
      · cases hstate
      · exact Or.inl ⟨party', inboundPackets, hold, hstate, hpacket⟩
  | dropped position party hseen hparty hparties hinFlight =>
      rcases get_of_set hparties hparty hparty' with ⟨rfl, rfl⟩ | ⟨-, hold⟩
      · cases hstate
      · exact Or.inl ⟨party', inboundPackets, hold, hstate, hpacket⟩

/-- What has reached a stream that has seen nothing: the mailbox it was returned with, if that has
just happened. -/
theorem Followed.arrived_of_nil (hfollowed : journal.Followed) {network' : Network}
    (hseen : journal.network.seen index action = []) {solo' : Solo}
    (hrecord : journal.record action network' index = some solo') (hpacket : packet ∈ solo'.arrived) :
    journal.Reached index packet
      ∨ journal.network.returned index = none ∧ ∃ stream, network'.returned index = some stream
        ∧ packet ∈ stream.inboundPackets.queue := by
  cases hreturned : journal.network.returned index with
  | none =>
      rw [hfollowed.record_of_returned hreturned] at hrecord
      obtain ⟨stream, hstream, rfl⟩ := Option.map_eq_some_iff.mp hrecord
      exact Or.inr ⟨rfl, stream, hstream, hpacket⟩
  | some stream =>
      cases hhistory : journal.histories index with
      | none => simp [record, hhistory, hreturned] at hrecord
      | some solo =>
          simp only [record, hhistory, hseen, Run.exec, Option.some.injEq] at hrecord
          subst hrecord
          exact Or.inl (Or.inr ⟨solo, hhistory, hpacket⟩)

/-- Nobody new has reached a party that sees nothing and is returned no stream. -/
theorem Followed.reached_of_kept (hfollowed : journal.Followed) {network' : Network} {solo' : Solo}
    (hrecord : journal.record action network' index = some solo') (hpacket : packet ∈ solo'.arrived)
    (hseen : journal.network.seen index action = [])
    (hparties : ∀ party', network'.parties[index]? = some party' →
      ∃ party, journal.network.parties[index]? = some party ∧ party.returned = party'.returned) :
    journal.Reached index packet := by
  rcases hfollowed.arrived_of_nil hseen hrecord hpacket with hold | ⟨hnone, stream, hsome, -⟩
  · exact hold
  · obtain ⟨party', hparty', hreturned⟩ := Option.bind_eq_some_iff.mp hsome
    obtain ⟨party, hparty, hsame⟩ := hparties party' hparty'
    rw [returned_of_get hparty, hsame, hreturned] at hnone
    cases hnone

/-- A party that joins has an empty mailbox. -/
theorem Followed.reached_of_joined (hfollowed : journal.Followed) {network' : Network} {solo' : Solo}
    (hrecord : journal.record action network' index = some solo') (hpacket : packet ∈ solo'.arrived)
    (hseen : journal.network.seen index action = []) {party : Party} (hfresh : party.Fresh)
    (hparties : network'.parties = journal.network.parties ++ [party]) :
    journal.Reached index packet := by
  rcases hfollowed.arrived_of_nil hseen hrecord hpacket with hold | ⟨hnone, stream, hsome, hmem⟩
  · exact hold
  · obtain ⟨party', hparty', hreturned⟩ := Option.bind_eq_some_iff.mp hsome
    rcases get_of_append hparties hparty' with ⟨-, rfl⟩ | ⟨-, hparty⟩
    · cases hfresh with
      | waiting connection => cases hreturned
      | failed connection state hdead => cases hreturned
      | accepted connection stream' hmade hqueue =>
          cases hreturned
          rw [hqueue] at hmem
          cases hmem
    · rw [returned_of_get hparty, hreturned] at hnone
      cases hnone

/-- What is in the mailbox of a stream that `connect` returns was there before. -/
theorem Followed.reached_of_returned (hfollowed : journal.Followed) {network' : Network}
    {solo' : Solo} (hrecord : journal.record action network' index = some solo')
    (hpacket : packet ∈ solo'.arrived) (hseen : journal.network.seen index action = [])
    {position : Nat} {connection : Connection} {inboundPackets : Mailbox} {stream : UtpStream}
    (hparty : journal.network.parties[position]?
      = some ⟨connection, none, .connecting inboundPackets⟩)
    (hqueue : ∀ packet ∈ stream.inboundPackets.queue, packet ∈ inboundPackets.queue)
    (hparties : network'.parties
      = journal.network.parties.set position ⟨connection, some stream, .streaming stream⟩) :
    journal.Reached index packet := by
  rcases hfollowed.arrived_of_nil hseen hrecord hpacket with hold | ⟨hnone, stream', hsome, hmem⟩
  · exact hold
  · obtain ⟨party', hparty', hreturned⟩ := Option.bind_eq_some_iff.mp hsome
    rcases get_of_set hparties hparty hparty' with ⟨rfl, rfl⟩ | ⟨-, hold⟩
    · cases hreturned
      exact Or.inl ⟨_, inboundPackets, hparty, rfl, hqueue packet hmem⟩
    · rw [returned_of_get hold, hreturned] at hnone
      cases hnone

/-- The party into whose mailbox a datagram goes gets its packet and no other. -/
theorem arrived_of_received {network' : Network} {solo' : Solo} {party : Party} {received : Packet}
    (hrecord : journal.record action network' index = some solo') (hpacket : packet ∈ solo'.arrived)
    (hparty : journal.network.parties[index]? = some party)
    (hseen : journal.network.seen index action = [.arrive received])
    (hparties : network'.parties
      = journal.network.parties.set index { party with state := party.state.receive received }) :
    journal.Reached index packet ∨ packet = received := by
  cases hhistory : journal.histories index with
  | none =>
      simp only [record, hhistory] at hrecord
      split at hrecord
      · cases hrecord
      · rename_i hnone
        have hget : network'.parties[index]?
            = some { party with state := party.state.receive received } := by
          rw [hparties, List.getElem?_set_self (List.getElem?_eq_some_iff.mp hparty).1]
        rw [returned_of_get hget, ← returned_of_get hparty, hnone] at hrecord
        cases hrecord
  | some solo =>
      rw [record_of_singleton hhistory hseen] at hrecord
      simp only [Solo.step] at hrecord
      split_ifs at hrecord
      cases hrecord
      rcases List.mem_append.mp hpacket with hold | hnew
      · exact Or.inl (Or.inr ⟨solo, hhistory, hold⟩)
      · exact Or.inr (List.mem_singleton.mp hnew)

/-- A call puts nothing into the mailbox. -/
theorem Followed.reached_of_called (hfollowed : journal.Followed) {network' : Network}
    {solo' : Solo} (hrecord : journal.record action network' index = some solo')
    (hpacket : packet ∈ solo'.arrived) {connection : Connection} {returned : Option UtpStream}
    {stream stream' : UtpStream} {call : Call} {sent refused : List (Packet × SocketAddr)}
    (hparty : journal.network.parties[index]? = some ⟨connection, returned, .streaming stream⟩)
    (hperform : stream.perform call = .ok (stream', sent, refused))
    (hseen : journal.network.seen index action = [call.action]) :
    journal.Reached index packet := by
  obtain ⟨solo, hhistory, rfl⟩ := hfollowed.exists_history hparty
  obtain ⟨solo'', hstep, -, -, harrived⟩ := Solo.step_call_of_perform hperform
  rw [record_of_singleton hhistory hseen, hstep] at hrecord
  cases hrecord
  rw [harrived] at hpacket
  exact Or.inr ⟨solo, hhistory, hpacket⟩

theorem exists_returned_of_set {network network' : Network} {position : Nat} {party changed : Party}
    (hparty : network.parties[position]? = some party)
    (hparties : network'.parties = network.parties.set position changed)
    (hreturned : party.returned = changed.returned) (party' : Party)
    (hparty' : network'.parties[index]? = some party') :
    ∃ party, network.parties[index]? = some party ∧ party.returned = party'.returned := by
  rcases get_of_set hparties hparty hparty' with ⟨rfl, rfl⟩ | ⟨-, hold⟩
  · exact ⟨party, hparty, hreturned⟩
  · exact ⟨party', hold, rfl⟩

theorem Followed.reached_of_record (hfollowed : journal.Followed) {network' : Network}
    (hacted : Acted journal.network action network') {solo' : Solo}
    (hrecord : journal.record action network' index = some solo') (hpacket : packet ∈ solo'.arrived) :
    journal.Reached index packet ∨ Delivers journal.network index packet := by
  cases hacted with
  | quiet hseen hparties hinFlight =>
      refine Or.inl (hfollowed.reached_of_kept hrecord hpacket (hseen index) ?_)
      exact fun party' hparty' => ⟨party', hparties ▸ hparty', rfl⟩
  | joined party hseen hfresh hparties hinFlight =>
      exact Or.inl (hfollowed.reached_of_joined hrecord hpacket (hseen index) hfresh hparties)
  | returned position connection inboundPackets stream hseen hparty hmade hqueue hparties
      hinFlight =>
      obtain ⟨responsePacket, -, hqueue⟩ := hqueue
      refine Or.inl (hfollowed.reached_of_returned hrecord hpacket (hseen index) hparty ?_ hparties)
      rw [hqueue]
      exact fun packet hmem => List.mem_cons_of_mem _ hmem
  | received position party datagram hparty halive hdatagram htype hlookup hseen hothers hparties
      hinFlight =>
      by_cases hsame : index = position
      · subst hsame
        refine (arrived_of_received hrecord hpacket hparty hseen hparties).imp id ?_
        exact fun hnew => ⟨datagram, hdatagram, htype, hlookup, hnew.symm⟩
      · refine Or.inl (hfollowed.reached_of_kept hrecord hpacket (hothers index hsame) ?_)
        exact exists_returned_of_set hparty hparties rfl
  | called position connection returned stream stream' call sent refused hparty hperform hseen hothers
      hparties hinFlight =>
      by_cases hsame : index = position
      · subst hsame
        exact Or.inl (hfollowed.reached_of_called hrecord hpacket hparty hperform hseen)
      · refine Or.inl (hfollowed.reached_of_kept hrecord hpacket (hothers index hsame) ?_)
        exact exists_returned_of_set hparty hparties rfl
  | dropped position party hseen hparty hparties hinFlight =>
      refine Or.inl (hfollowed.reached_of_kept hrecord hpacket (hseen index) ?_)
      exact exists_returned_of_set hparty hparties rfl

/-- What is new in a mailbox is what the action has delivered there. -/
theorem Followed.reached_of_step (hfollowed : journal.Followed)
    (hstep : journal.step action = some journal') (hreached : journal'.Reached index packet) :
    journal.Reached index packet ∨ Delivers journal.network index packet := by
  obtain ⟨hnetwork, hhistories⟩ := step_eq_some.mp hstep
  have hacted := acted_of_step hfollowed.fit hfollowed.healthy hnetwork
  rcases hreached with ⟨party', inboundPackets, hparty', hstate, hpacket⟩ | ⟨solo', hhistory, hpacket⟩
  · rcases waiting_of_acted hacted hparty' hstate hpacket with hold | hnew
    · exact Or.inl (Or.inl hold)
    · exact Or.inr hnew
  · rw [hhistories] at hhistory
    exact hfollowed.reached_of_record hacted hhistory hpacket

/-- What is new in flight was sent by the action. -/
theorem Followed.sent_of_step (hfollowed : journal.Followed)
    (hstep : journal.step action = some journal') {datagram : Datagram}
    (hdatagram : datagram ∈ journal'.network.inFlight)
    (htype : datagram.packet.packetType ≠ .syn) :
    datagram ∈ journal.network.inFlight ∨ journal'.Sent datagram.sender datagram.packet := by
  obtain ⟨hnetwork, hhistories⟩ := step_eq_some.mp hstep
  have hacted := acted_of_step hfollowed.fit hfollowed.healthy hnetwork
  cases hacted with
  | quiet hseen hparties hinFlight => exact Or.inl (hinFlight hdatagram)
  | joined party hseen hfresh hparties hinFlight =>
      rcases hinFlight datagram hdatagram with hold | ⟨hsender, hsyn | ⟨stream, hreturned, hpacket⟩⟩
      · exact Or.inl hold
      · exact absurd hsyn htype
      · have hparty : journal'.network.parties[datagram.sender]? = some party := by
          rw [hparties, hsender]
          simp
        exact Or.inr (Or.inr ⟨stream, (returned_of_get hparty).trans hreturned, hpacket⟩)
  | returned index connection inboundPackets stream hseen hparty hmade hqueue hparties hinFlight =>
      exact Or.inl (hinFlight hdatagram)
  | received index party datagram' hparty halive hdatagram' htype' hlookup hseen hothers hparties
      hinFlight => exact Or.inl (hinFlight hdatagram)
  | called index connection returned stream stream' call sent refused hparty hperform hseen hothers
      hparties hinFlight =>
      rcases hinFlight datagram hdatagram with hold | ⟨hsender, hsent⟩
      · exact Or.inl hold
      · obtain ⟨solo, hhistory, rfl⟩ := hfollowed.exists_history hparty
        obtain ⟨solo', hsolo, -, hsent', -⟩ := Solo.step_call_of_perform hperform
        have hhistory' : journal'.histories datagram.sender = some solo' := by
          rw [hhistories, hsender, record_of_singleton hhistory hseen, hsolo]
        have hmem : (datagram.packet, datagram.destination) ∈ solo'.sent := by
          rw [hsent']
          exact List.mem_append_right _ hsent
        exact Or.inr (Or.inl ⟨solo', hhistory', List.mem_map_of_mem hmem⟩)
  | dropped index party hseen hparty hparties hinFlight => exact Or.inl (hinFlight hdatagram)

theorem Followed.exists_of_reached (hfollowed : journal.Followed)
    (hreached : journal.Reached index packet) :
    ∃ party, journal.network.parties[index]? = some party := by
  rcases hreached with ⟨party, -, hparty, -⟩ | ⟨solo, hhistory, -⟩
  · exact ⟨party, hparty⟩
  · cases hparty : journal.network.parties[index]? with
    | some party => exact ⟨party, rfl⟩
    | none =>
        rw [hfollowed.absent index (by simp [Network.returned, hparty])] at hhistory
        cases hhistory

/-- **Every action keeps track**, as long as no key is registered twice. -/
theorem Traced.step (htraced : journal.Traced) (hfollowed : journal.Followed)
    (hdistinct : journal.network.Distinct) (hstep : journal.step action = some journal') :
    journal'.Traced := by
  have hnetwork := (step_eq_some.mp hstep).1
  have hmoved := Network.moved_of_step hfollowed.fit.inFlight_fits hnetwork
  have hacted := acted_of_step hfollowed.fit hfollowed.healthy hnetwork
  refine ⟨htraced.keyed.moved hfollowed.healthy hdistinct hmoved, ?_, ?_⟩
  · intro datagram hdatagram htype
    rcases hfollowed.sent_of_step hstep hdatagram htype with hold | hnew
    · exact hfollowed.sent_mono hstep (htraced.sent datagram hold htype)
    · exact hnew
  · intro index party' hparty' packet hreached
    have hcame : ∃ party, journal.network.parties[index]? = some party
        ∧ journal.CameFrom party.connection.peer packet := by
      rcases hfollowed.reached_of_step hstep hreached with
        hold | ⟨datagram, hdatagram, htype, hlookup, rfl⟩
      · obtain ⟨party, hparty⟩ := hfollowed.exists_of_reached hold
        exact ⟨party, hparty, htraced.reached index party hparty packet hold⟩
      · obtain ⟨sender, hstamped⟩ := htraced.keyed.datagrams datagram hdatagram
        obtain ⟨party, hparty, hconnection⟩ :=
          htraced.keyed.lookup_peer hdistinct hstamped htype hlookup
        refine ⟨party, hparty, datagram.sender, sender, hstamped.sender, ?_,
          htraced.sent datagram hdatagram htype⟩
        rw [hconnection, Connection.peer_peer]
    obtain ⟨party, hparty, hcame⟩ := hcame
    obtain ⟨_, hget, hconnection, -⟩ := hacted.keeps index party hparty
    obtain rfl := Option.some.inj (hget.symm.trans hparty')
    rw [hconnection]
    exact hfollowed.cameFrom_mono hstep hcame

theorem traced_init : init.Traced where
  keyed := keyed_init
  sent := by simp [init, Network.init]
  reached := by simp [init, Network.init]

theorem traced_of_exec {actions : List NetworkAction}
    (hexec : Run.exec Journal.step init actions = some journal)
    (hdistinct : journal.network.Distinct) : journal.Traced := by
  have hinvariant := Run.exec_invariant
    (motive := fun journal => journal.Followed ∧ (journal.network.Distinct → journal.Traced)) ?_
    ⟨followed_init, fun _ => traced_init⟩ hexec
  · exact hinvariant.2 hdistinct
  · rintro journal action journal' ⟨hfollowed, htraced⟩ hstep
    refine ⟨hfollowed.step hstep, fun hdistinct' => ?_⟩
    have hnetwork := (step_eq_some.mp hstep).1
    have hkeeps := (acted_of_step hfollowed.fit hfollowed.healthy hnetwork).keeps
    have hdistinct := hdistinct'.of_keeps hkeeps
    exact (htraced hdistinct).step hfollowed hdistinct hstep

end Journal

/-- **Packets come from the peer.** In every run in which no key of a routing table is registered twice,
whatever else is dropped, lost, copied or overtaken, every packet that was ever put into the mailbox of
a stream, and every packet that waits for a pending `connect`, was sent by the stream at the other end of
the same connection, or is its SYN-ACK. -/
theorem arrived_from_peer {actions : List NetworkAction} {journal : Journal}
    (hexec : Run.exec Journal.step Journal.init actions = some journal)
    (hdistinct : journal.network.Distinct) {index : Nat} {party : Party}
    (hparty : journal.network.parties[index]? = some party) :
    ∀ packet, journal.Reached index packet → journal.CameFrom party.connection.peer packet :=
  (Journal.traced_of_exec hexec hdistinct).reached index party hparty

/-- Two writes of the connector that arrive in the wrong order, the second of them twice. Between
them the connector is dropped, and a second connection is made. -/
def reorderedActions : List NetworkAction :=
  let connector : SocketAddr := .v4 0x7F000001 9000
  let listener : SocketAddr := .v4 0x7F000001 9001
  [.connect connector listener [65535] true, .deliver 0, .accept listener 41 true, .deliver 0,
    .resume 0, .call 0 (.pollWrite .plain [1, 2, 3]), .call 0 (.pollWrite .plain [4]),
    .call 1 (.pollRead .plain 8), .deliver 2, .call 0 (.pollFlush .plain), .duplicate 1, .deliver 1,
    .call 1 (.pollRead .plain 8), .drop 0, .connect connector listener [9] true, .deliver 0,
    .call 1 (.pollRead .plain 2), .deliver 0]

def reordered : Journal :=
  (Run.exec Journal.step Journal.init reorderedActions).get (by decide)

/-- The second connection is accepted, and its SYN-ACK arrives. -/
def respondedActions : List NetworkAction :=
  reorderedActions ++ [.deliver 1, .accept (.v4 0x7F000001 9001) 77 true, .deliver 2]

def responded : Journal :=
  (Run.exec Journal.step Journal.init respondedActions).get (by decide)

theorem arrived_from_peer_responded :
    Run.exec Journal.step Journal.init respondedActions = some responded
      ∧ (∃ stream solo, responded.network.parties[1]? = some stream
        ∧ responded.histories 1 = some solo
        ∧ solo.arrived.map Packet.data = [[4], [1, 2, 3], [4]]
        ∧ ∀ packet, responded.Reached 1 packet → responded.CameFrom stream.connection.peer packet)
      ∧ ∃ pending inboundPackets, responded.network.parties[2]? = some pending
        ∧ pending.state = .connecting inboundPackets
        ∧ inboundPackets.queue.map Packet.seqNumber = [77]
        ∧ ∀ packet, responded.Reached 2 packet →
          responded.CameFrom pending.connection.peer packet := by
  have hexec : Run.exec Journal.step Journal.init respondedActions = some responded :=
    (Option.some_get _).symm
  have hhistory : responded.histories 1 = some ((responded.histories 1).get (by decide)) :=
    (Option.some_get _).symm
  have hdistinct : responded.network.Distinct := by decide
  exact ⟨hexec, ⟨_, _, rfl, hhistory, by decide, arrived_from_peer hexec hdistinct rfl⟩, _, _, rfl, rfl,
    by decide, arrived_from_peer hexec hdistinct rfl⟩

end UtpSafety
