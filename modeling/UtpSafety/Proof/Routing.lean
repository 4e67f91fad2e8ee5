import UtpSafety.Proof.Wire

/-!
# Routing isolation

Each end of a connection is registered at its socket under a key of its own, and the ids of the two
ends are such that what one end sends carries the key of the other. An end sends nothing but SYNs
before its peer exists: an acceptor exists only because of a SYN, and a connector becomes a stream
only when something has arrived in its mailbox, which only its peer can have sent. So in a run in which
nothing is dropped every packet finds the mailbox of its sender's peer, and no other (`Routed`).
-/

namespace UtpSafety

namespace Network

/-- No stream and no pending `connect` has been dropped. -/
def Intact (network : Network) : Prop :=
  ∀ party ∈ network.parties, party.state ≠ .dropped

/-- This end of a connection is there, as a stream or as a pending `connect`. -/
def Present (network : Network) (connection : Connection) : Prop :=
  ∃ (index : Nat) (party : Party), network.parties[index]? = some party
    ∧ party.connection = connection ∧ party.state.alive = true

/-- A datagram comes from a party and goes to its peer. -/
structure Addressed (network : Network) (datagram : Datagram) (party : Party) : Prop where
  sender : network.parties[datagram.sender]? = some party
  source : datagram.source = party.connection.localAddr
  destination : datagram.destination = party.connection.remoteAddr
  present : network.Present party.connection
  content :
    (datagram.packet.packetType = .syn ∧ party.connection.role = .connector
        ∧ datagram.packet.connectionId = party.connection.connectionId)
      ∨ (datagram.packet.Handled ∧ datagram.packet.connectionId = party.connection.connectionIdSend
        ∧ network.Present party.connection.peer)

/-- A pending `connect` has received something only if its peer is there, and a stream exists only if
its peer does. -/
def Sound (network : Network) (party : Party) : Prop :=
  match party.state with
  | .connecting inboundPackets =>
      party.connection.role = .connector
        ∧ (inboundPackets.queue ≠ [] → network.Present party.connection.peer)
  | .streaming stream =>
      stream.localAddr = party.connection.localAddr
        ∧ stream.remoteAddr = party.connection.remoteAddr
        ∧ stream.connectionIdRecv = party.connection.connectionIdRecv
        ∧ stream.connectionIdSend = party.connection.connectionIdSend
        ∧ network.Present party.connection.peer
  | .unanswered => True
  | .dropped => True

/-- The invariant: every party is registered under its key, every SYN that waits comes from a
connector, and datagrams and parties are as above. -/
structure Routed (network : Network) : Prop where
  localAddr : ∀ addr, (network.sockets addr).localAddr = addr
  registered : ∀ (index : Nat) (party : Party), network.parties[index]? = some party →
    (network.sockets party.connection.localAddr).routingTable.lookup party.connection.key
      = some index
  syns : ∀ addr, ∀ item ∈ (network.sockets addr).synQueue,
    network.Present ⟨.connector, item.2, addr, item.1.connectionId⟩
  datagrams : ∀ datagram ∈ network.inFlight, ∃ party, network.Addressed datagram party
  sound : ∀ party ∈ network.parties, network.Sound party

def Extends (network network' : Network) : Prop :=
  ∀ (index : Nat) (party : Party), network.parties[index]? = some party →
    ∃ party', network'.parties[index]? = some party' ∧ party'.connection = party.connection
      ∧ (party.state.alive = true → party'.state.alive = true)

variable {network network' : Network} {action : NetworkAction}

theorem Present.mono (hextends : network.Extends network') {connection : Connection}
    (hpresent : network.Present connection) : network'.Present connection := by
  obtain ⟨index, party, hparty, rfl, halive⟩ := hpresent
  obtain ⟨party', hparty', hconnection, halive'⟩ := hextends index party hparty
  exact ⟨index, party', hparty', hconnection, halive' halive⟩

theorem Addressed.mono (hextends : network.Extends network') {datagram : Datagram} {party : Party}
    (haddressed : network.Addressed datagram party) :
    ∃ party', network'.Addressed datagram party' := by
  obtain ⟨party', hparty', hconnection, -⟩ := hextends _ _ haddressed.sender
  refine ⟨party', hparty', ?_, ?_, ?_, ?_⟩
  · rw [hconnection]
    exact haddressed.source
  · rw [hconnection]
    exact haddressed.destination
  · rw [hconnection]
    exact haddressed.present.mono hextends
  · rw [hconnection]
    rcases haddressed.content with hsyn | ⟨hhandled, hid, hpresent⟩
    · exact Or.inl hsyn
    · exact Or.inr ⟨hhandled, hid, hpresent.mono hextends⟩

theorem Sound.mono (hextends : network.Extends network') {party : Party}
    (hsound : network.Sound party) : network'.Sound party := by
  unfold Sound at hsound ⊢
  split
  · rename_i inboundPackets hstate
    rw [hstate] at hsound
    exact ⟨hsound.1, fun hqueue => (hsound.2 hqueue).mono hextends⟩
  · rename_i stream hstate
    rw [hstate] at hsound
    obtain ⟨hlocal, hremote, hrecv, hsend, hpresent⟩ := hsound
    exact ⟨hlocal, hremote, hrecv, hsend, hpresent.mono hextends⟩
  · trivial
  · trivial

theorem Routed.of_extends (hrouted : network.Routed) (hextends : network.Extends network')
    (hlocalAddr : ∀ addr, (network'.sockets addr).localAddr = addr)
    (htable : ∀ addr key index, (network.sockets addr).routingTable.lookup key = some index →
      (network'.sockets addr).routingTable.lookup key = some index)
    (hparties : ∀ (index : Nat) (party' : Party), network'.parties[index]? = some party' →
      (∃ party, network.parties[index]? = some party ∧ party.connection = party'.connection)
      ∨ (network'.sockets party'.connection.localAddr).routingTable.lookup party'.connection.key
        = some index)
    (hsyns : ∀ addr, ∀ item ∈ (network'.sockets addr).synQueue,
      item ∈ (network.sockets addr).synQueue
      ∨ network.Present ⟨.connector, item.2, addr, item.1.connectionId⟩)
    (hdatagrams : ∀ datagram ∈ network'.inFlight, datagram ∈ network.inFlight
      ∨ ∃ party, network'.Addressed datagram party)
    (hsound : ∀ party ∈ network'.parties, party ∈ network.parties ∨ network'.Sound party) :
    network'.Routed where
  localAddr := hlocalAddr
  registered := by
    intro index party' hparty'
    rcases hparties index party' hparty' with ⟨party, hparty, hconnection⟩ | hnew
    · rw [← hconnection]
      exact htable _ _ _ (hrouted.registered index party hparty)
    · exact hnew
  syns := by
    intro addr item hitem
    rcases hsyns addr item hitem with hold | hnew
    · exact (hrouted.syns addr item hold).mono hextends
    · exact hnew.mono hextends
  datagrams := by
    intro datagram hdatagram
    rcases hdatagrams datagram hdatagram with hold | hnew
    · obtain ⟨party, haddressed⟩ := hrouted.datagrams datagram hold
      exact haddressed.mono hextends
    · exact hnew
  sound := by
    intro party hparty
    rcases hsound party hparty with hold | hnew
    · exact (hrouted.sound party hold).mono hextends
    · exact hnew

/-! ### Nothing dropped before nothing is dropped -/

theorem Intact.of_subset (hintact : network'.Intact)
    (hparties : network.parties ⊆ network'.parties) : network.Intact :=
  fun party hparty => hintact party (hparties hparty)

theorem Intact.of_set (hintact : network'.Intact) {index : Nat} {party party' : Party}
    (hparties : network'.parties = network.parties.set index party')
    (hparty : network.parties[index]? = some party) (hstate : party.state ≠ .dropped) :
    network.Intact := by
  intro other hother
  obtain ⟨position, hposition⟩ := List.mem_iff_getElem?.mp hother
  by_cases hsame : index = position
  · subst hsame
    rw [hparty, Option.some.injEq] at hposition
    rwa [← hposition]
  · apply hintact other
    rw [hparties]
    apply List.mem_of_getElem? (i := position)
    rw [List.getElem?_set_ne hsame]
    exact hposition

theorem not_intact_of_set {index : Nat} {party party' : Party}
    (hparties : network'.parties = network.parties.set index party')
    (hparty : network.parties[index]? = some party) (hdropped : party'.state = .dropped) :
    ¬ network'.Intact := by
  intro hintact
  apply hintact party' _ hdropped
  rw [hparties]
  apply List.mem_of_getElem? (i := index)
  rw [List.getElem?_set_self (List.getElem?_eq_some_iff.mp hparty).1]

theorem Moved.intact (hmoved : Moved network action network') (hintact : network'.Intact) :
    network.Intact := by
  cases hmoved with
  | connect localAddr remoteAddr connectionId hvacant =>
      exact hintact.of_subset (List.subset_append_left _ _)
  | connectFailed localAddr remoteAddr connectionId =>
      exact hintact.of_subset (List.subset_append_left _ _)
  | resumed index connection returned inboundPackets responsePacket rest hparty hqueue stream
      hstream => exact hintact.of_set rfl hparty (by simp)
  | gone index party hparty => exact absurd hintact (not_intact_of_set rfl hparty rfl)
  | accept localAddr syn remoteAddr rest seqNumber hsyn hvacant stream hstream =>
      exact hintact.of_subset (List.subset_append_left _ _)
  | unanswered localAddr syn remoteAddr rest seqNumber hsyn hvacant =>
      exact hintact.of_subset (List.subset_append_left _ _)
  | discarded localAddr syn rest hsyn => exact hintact
  | called index connection returned stream stream' sent refused hparty hperformed =>
      exact hintact.of_set rfl hparty (by simp)
  | synArrived datagram inFlight hdatagram hinFlight htype => exact hintact
  | arrived index datagram inFlight channel haction hdatagram hinFlight htype hlookup halive =>
      cases hparty : network.parties[channel]? with
      | none =>
          simp only [enqueue, withInFlight, hparty] at hintact
          exact hintact
      | some party =>
          simp only [enqueue, withInFlight, hparty] at hintact
          refine hintact.of_set rfl hparty fun hdropped => ?_
          simp [alive, hparty, hdropped, PartyState.alive] at halive
  | stale datagram inFlight channel hdatagram hinFlight htype hlookup hdead => exact hintact
  | wire inFlight hinFlight => exact hintact

/-! ### Every action keeps the invariant -/

theorem extends_of_append {party : Party} (hparties : network'.parties = network.parties ++ [party]) :
    network.Extends network' := by
  intro index other hother
  apply exists_related_of_append hparties ?_ hother
  exact fun _ => ⟨rfl, id⟩

theorem extends_of_set {index : Nat} {party party' : Party}
    (hparties : network'.parties = network.parties.set index party')
    (hparty : network.parties[index]? = some party)
    (hconnection : party'.connection = party.connection)
    (halive : party.state.alive = true → party'.state.alive = true) :
    network.Extends network' := by
  intro position other hother
  apply exists_related_of_set hparties hparty ?_ ?_ hother
  · exact ⟨hconnection, halive⟩
  · exact fun _ => ⟨rfl, id⟩

theorem extends_of_eq (hparties : network'.parties = network.parties) :
    network.Extends network' := by
  intro index party hparty
  exact ⟨party, by rw [hparties]; exact hparty, rfl, id⟩

theorem Routed.joined (hrouted : network.Routed) (network' : Network) (party : Party)
    {synQueue : List (Packet × SocketAddr)} (hvacant : network.Vacant party.connection)
    (hsyns : synQueue ⊆ (network.sockets party.connection.localAddr).synQueue)
    (hsockets : network'.sockets = Function.update network.sockets party.connection.localAddr
      { network.sockets party.connection.localAddr with
        synQueue
        routingTable := (network.sockets party.connection.localAddr).routingTable.insert
          party.connection.key network.parties.length })
    (hparties : network'.parties = network.parties ++ [party])
    (hdatagrams : ∀ datagram ∈ network'.inFlight, datagram ∈ network.inFlight
      ∨ ∃ party, network'.Addressed datagram party)
    (hsound : network.Sound party) : network'.Routed := by
  have hextends := extends_of_append hparties
  refine hrouted.of_extends hextends ?_ ?_ ?_ ?_ hdatagrams ?_
  · intro addr
    rw [localAddr_joined hsockets]
    exact hrouted.localAddr addr
  · intro addr key index hlookup
    rw [lookup_joined hsockets]
    split_ifs with hkey
    · obtain ⟨rfl, rfl⟩ := hkey
      exact absurd (hlookup.symm.trans hvacant) (by simp)
    · exact hlookup
  · intro index party' hparty'
    rcases get_of_append hparties hparty' with ⟨rfl, rfl⟩ | ⟨-, hold⟩
    · right
      rw [lookup_joined hsockets, if_pos ⟨rfl, rfl⟩]
    · exact Or.inl ⟨party', hold, rfl⟩
  · intro addr item hitem
    left
    rw [synQueue_joined hsockets] at hitem
    split_ifs at hitem with haddr
    · subst haddr
      exact hsyns hitem
    · exact hitem
  · intro party' hparty'
    rw [hparties] at hparty'
    rcases List.mem_append.mp hparty' with hold | hnew
    · exact Or.inl hold
    · rw [List.mem_singleton.mp hnew]
      exact Or.inr (hsound.mono hextends)

theorem Routed.changed (hrouted : network.Routed) (network' : Network) {index : Nat} {party : Party}
    (party' : Party) (hparty : network.parties[index]? = some party)
    (hconnection : party'.connection = party.connection)
    (halive : party.state.alive = true → party'.state.alive = true)
    (hsockets : network'.sockets = network.sockets)
    (hparties : network'.parties = network.parties.set index party')
    (hdatagrams : ∀ datagram ∈ network'.inFlight, datagram ∈ network.inFlight
      ∨ ∃ party, network.Addressed datagram party)
    (hsound : network.Sound party') : network'.Routed := by
  have hextends := extends_of_set hparties hparty hconnection halive
  apply hrouted.of_extends hextends
  · rw [hsockets]
    exact hrouted.localAddr
  · rw [hsockets]
    exact fun addr key index hlookup => hlookup
  · intro position other hother
    left
    rcases get_of_set hparties hparty hother with ⟨rfl, rfl⟩ | ⟨-, hold⟩
    · exact ⟨party, hparty, hconnection.symm⟩
    · exact ⟨other, hold, rfl⟩
  · rw [hsockets]
    exact fun addr item hitem => Or.inl hitem
  · intro datagram hdatagram
    rcases hdatagrams datagram hdatagram with hold | ⟨sender, hnew⟩
    · exact Or.inl hold
    · exact Or.inr (hnew.mono hextends)
  · intro other hother
    rw [hparties] at hother
    rcases List.mem_or_eq_of_mem_set hother with hold | rfl
    · exact Or.inl hold
    · exact Or.inr (hsound.mono hextends)

theorem Routed.withSyns (hrouted : network.Routed) {localAddr : SocketAddr}
    {synQueue : List (Packet × SocketAddr)}
    (hsyns : ∀ item ∈ synQueue, item ∈ (network.sockets localAddr).synQueue
      ∨ network.Present ⟨.connector, item.2, localAddr, item.1.connectionId⟩)
    {inFlight : List Datagram} (hinFlight : inFlight ⊆ network.inFlight) :
    ((network.withInFlight inFlight).withSyns localAddr synQueue).Routed := by
  apply hrouted.of_extends
  · exact extends_of_eq rfl
  · intro addr
    simpa using hrouted.localAddr addr
  · intro addr key index hlookup
    simpa using hlookup
  · exact fun index party hparty => Or.inl ⟨party, hparty, rfl⟩
  · intro addr item hitem
    rw [withSyns_synQueue] at hitem
    split_ifs at hitem with haddr
    · subst haddr
      exact hsyns item hitem
    · exact Or.inl hitem
  · exact fun datagram hdatagram => Or.inl (hinFlight hdatagram)
  · exact fun party hparty => Or.inl hparty

/-- A packet that is not a SYN leads to the peer of its sender, which is there. -/
theorem Routed.lookup_peer (hrouted : network.Routed) {datagram : Datagram}
    (hdatagram : datagram ∈ network.inFlight) (htype : datagram.packet.packetType ≠ .syn) :
    ∃ (party : Party) (index : Nat) (peer : Party), network.Addressed datagram party
      ∧ network.parties[index]? = some peer ∧ peer.connection = party.connection.peer
      ∧ peer.state.alive = true
      ∧ (network.sockets datagram.destination).routingTable.lookup
          (datagram.packet.connectionId, datagram.source) = some index := by
  obtain ⟨party, haddressed⟩ := hrouted.datagrams datagram hdatagram
  rcases haddressed.content with ⟨hsyn, -⟩ | ⟨-, hid, index, peer, hpeer, hconnection, halive⟩
  · exact absurd hsyn htype
  · refine ⟨party, index, peer, haddressed, hpeer, hconnection, halive, ?_⟩
    have hregistered := hrouted.registered index peer hpeer
    rw [hconnection, Connection.key_peer] at hregistered
    rw [haddressed.destination, haddressed.source, hid]
    exact hregistered

theorem present_of_get {index : Nat} {party : Party} (hparty : network.parties[index]? = some party)
    (halive : party.state.alive = true) : network.Present party.connection :=
  ⟨index, party, hparty, rfl, halive⟩

theorem addressed_joined {party : Party} (hparties : network'.parties = network.parties ++ [party])
    (halive : party.state.alive = true) {source destination : SocketAddr} {packet : Packet}
    {site : Site} (hsource : source = party.connection.localAddr)
    (hdestination : destination = party.connection.remoteAddr)
    (hcontent :
      (packet.packetType = .syn ∧ party.connection.role = .connector
          ∧ packet.connectionId = party.connection.connectionId)
        ∨ (packet.Handled ∧ packet.connectionId = party.connection.connectionIdSend
          ∧ network'.Present party.connection.peer)) :
    network'.Addressed ⟨source, destination, packet, network.parties.length, site⟩ party := by
  have hget : network'.parties[network.parties.length]? = some party := by
    rw [hparties]
    simp
  exact ⟨hget, hsource, hdestination, present_of_get hget halive, hcontent⟩

theorem Sound.receive {peer : Party} (hsound : network.Sound peer)
    (hpresent : network.Present peer.connection.peer) (packet : Packet) :
    network.Sound { peer with state := peer.state.receive packet } := by
  obtain ⟨connection, returned, state⟩ := peer
  cases state with
  | connecting inboundPackets => exact ⟨hsound.1, fun _ => hpresent⟩
  | streaming stream => exact hsound
  | unanswered => trivial
  | dropped => trivial

theorem Routed.called (hrouted : network.Routed) {index : Nat} {connection : Connection}
    {returned : Option UtpStream} {stream stream' : UtpStream}
    {sent refused : List (Packet × SocketAddr)}
    (hparty : network.parties[index]? = some ⟨connection, returned, .streaming stream⟩)
    (hperformed : UtpStream.Performed stream stream' (sent ++ refused)) :
    ((network.withParty index ⟨connection, returned, .streaming stream'⟩).pass stream.localAddr index
      .stream sent refused).Routed := by
  obtain ⟨hlocal, hremote, hrecv, hsend, hpresent⟩ := hrouted.sound _ (List.mem_of_getElem? hparty)
  have hsame := hperformed.sameEnd
  refine hrouted.changed _ ⟨connection, returned, .streaming stream'⟩ hparty rfl (fun _ => rfl)
    rfl rfl ?_ ?_
  · intro datagram hdatagram
    rcases mem_inFlight_pass.mp hdatagram with hold | ⟨item, hitem, rfl⟩
    · exact Or.inl hold
    · obtain ⟨-, hhandled, hid, hdestination⟩ :=
        hperformed.sends item (List.mem_append_left _ hitem)
      exact Or.inr ⟨_, hparty, hlocal, hdestination.trans hremote, present_of_get hparty rfl,
        Or.inr ⟨hhandled, hid.trans hsend, hpresent⟩⟩
  · exact ⟨hsame.localAddr.trans hlocal, hsame.remoteAddr.trans hremote,
      hsame.connectionIdRecv.trans hrecv, hsame.connectionIdSend.trans hsend, hpresent⟩

theorem Addressed.connection_of_syn {datagram : Datagram} {party : Party}
    (haddressed : network.Addressed datagram party) (htype : datagram.packet.packetType = .syn) :
    party.connection
      = ⟨.connector, datagram.source, datagram.destination, datagram.packet.connectionId⟩ := by
  rcases haddressed.content with ⟨-, hrole, hid⟩ | ⟨hhandled, -⟩
  · rw [haddressed.source, haddressed.destination, hid, ← hrole]
  · exact absurd htype hhandled.ne_syn

theorem Routed.arrived (hrouted : network.Routed) {datagram : Datagram} {inFlight : List Datagram}
    {channel : Nat} (hdatagram : datagram ∈ network.inFlight)
    (hinFlight : inFlight ⊆ network.inFlight) (htype : datagram.packet.packetType ≠ .syn)
    (hlookup : (network.sockets datagram.destination).routingTable.lookup
      (datagram.packet.connectionId, datagram.source) = some channel) :
    ((network.withInFlight inFlight).enqueue channel datagram.packet).Routed := by
  obtain ⟨party, position, peer, haddressed, hpeer, hconnection, halive, hlookup'⟩ :=
    hrouted.lookup_peer hdatagram htype
  obtain rfl : channel = position := Option.some.inj (hlookup.symm.trans hlookup')
  have hpresent : network.Present peer.connection.peer := by
    rw [hconnection, Connection.peer_peer]
    exact haddressed.present
  have hreceived := (hrouted.sound peer (List.mem_of_getElem? hpeer)).receive hpresent
    datagram.packet
  have hreceiveAlive : (peer.state.receive datagram.packet).alive = peer.state.alive := by
    cases peer.state <;> rfl
  simp only [enqueue, withInFlight, hpeer]
  exact hrouted.changed _ { peer with state := peer.state.receive datagram.packet } hpeer rfl
    (fun _ => hreceiveAlive.trans halive) rfl rfl
    (fun datagram hmem => Or.inl (hinFlight hmem)) hreceived

/-- **Routing is an invariant**, while nothing is dropped. -/
theorem Routed.moved (hrouted : network.Routed) (hmoved : Moved network action network')
    (hintact : network'.Intact) : network'.Routed := by
  cases hmoved with
  | connect localAddr remoteAddr connectionId hvacant =>
      refine hrouted.joined _
        ⟨⟨.connector, localAddr, remoteAddr, connectionId⟩, none, .connecting ⟨[], false⟩⟩ hvacant
        (List.Subset.refl _) rfl rfl ?_ ⟨rfl, fun hqueue => absurd rfl hqueue⟩
      intro datagram hdatagram
      rcases mem_inFlight_pass.mp hdatagram with hold | ⟨item, hitem, rfl⟩
      · exact Or.inl hold
      · rw [List.mem_singleton.mp hitem]
        exact Or.inr ⟨_, addressed_joined rfl rfl rfl rfl (Or.inl ⟨rfl, rfl, rfl⟩)⟩
  | connectFailed localAddr remoteAddr connectionId =>
      refine absurd rfl (hintact ⟨⟨.connector, localAddr, remoteAddr, connectionId⟩, none, .dropped⟩ ?_)
      exact List.mem_append_right _ (List.mem_singleton.mpr rfl)
  | resumed index connection returned inboundPackets responsePacket rest hparty hqueue stream
      hstream =>
      obtain ⟨hrole, hpresent⟩ := hrouted.sound _ (List.mem_of_getElem? hparty)
      obtain ⟨role, localAddr, remoteAddr, connectionId⟩ := connection
      obtain rfl : role = .connector := hrole
      refine hrouted.changed _ ⟨_, some stream, .streaming stream⟩ hparty rfl (fun _ => rfl) rfl rfl
        ?_ ?_
      · exact fun datagram hdatagram => Or.inl hdatagram
      · subst hstream
        exact ⟨rfl, rfl, rfl, rfl, hpresent (by simp [hqueue])⟩
  | gone index party hparty => exact absurd hintact (not_intact_of_set rfl hparty rfl)
  | accept localAddr syn remoteAddr rest seqNumber hsyn hvacant stream hstream =>
      have hpresent := hrouted.syns localAddr (syn, remoteAddr) (by simp [hsyn])
      have hlocalAddr := hrouted.localAddr localAddr
      rw [network.register_withSyns ⟨.acceptor, localAddr, remoteAddr, syn.connectionId⟩ rest]
      refine hrouted.joined _
        ⟨⟨.acceptor, localAddr, remoteAddr, syn.connectionId⟩, some stream, .streaming stream⟩
        hvacant (by simp [hsyn]) rfl rfl ?_ ?_
      · intro datagram hdatagram
        rcases mem_inFlight_pass.mp hdatagram with hold | ⟨item, hitem, rfl⟩
        · exact Or.inl hold
        · rw [List.mem_singleton.mp hitem]
          refine Or.inr ⟨_, addressed_joined rfl rfl rfl rfl (Or.inr ⟨Or.inr rfl, rfl, ?_⟩)⟩
          exact hpresent.mono (extends_of_append rfl)
      · subst hstream
        exact ⟨hlocalAddr, rfl, rfl, rfl, hpresent⟩
  | unanswered localAddr syn remoteAddr rest seqNumber hsyn hvacant =>
      rw [network.register_withSyns ⟨.acceptor, localAddr, remoteAddr, syn.connectionId⟩ rest]
      refine hrouted.joined _
        ⟨⟨.acceptor, localAddr, remoteAddr, syn.connectionId⟩, none, .unanswered⟩ hvacant
        (by simp [hsyn]) rfl rfl ?_ trivial
      intro datagram hdatagram
      rcases mem_inFlight_pass.mp hdatagram with hold | ⟨item, hitem, -⟩
      · exact Or.inl hold
      · cases hitem
  | discarded localAddr syn rest hsyn =>
      refine hrouted.withSyns ?_ (List.Subset.refl network.inFlight)
      intro item hitem
      left
      rw [hsyn]
      exact List.mem_cons_of_mem _ hitem
  | called index connection returned stream stream' sent refused hparty hperformed =>
      exact hrouted.called hparty hperformed
  | synArrived datagram inFlight hdatagram hinFlight htype =>
      apply hrouted.withSyns ?_ hinFlight
      intro item hitem
      rcases List.mem_append.mp hitem with hold | hnew
      · exact Or.inl hold
      · right
        rw [List.mem_singleton.mp hnew]
        obtain ⟨party, haddressed⟩ := hrouted.datagrams datagram hdatagram
        rw [← haddressed.connection_of_syn htype]
        exact haddressed.present
  | arrived index datagram inFlight channel haction hdatagram hinFlight htype hlookup halive =>
      exact hrouted.arrived (List.mem_of_getElem? hdatagram) hinFlight htype hlookup
  | stale datagram inFlight channel hdatagram hinFlight htype hlookup hdead =>
      obtain ⟨party, position, peer, haddressed, hpeer, hconnection, hpeerAlive, hlookup'⟩ :=
        hrouted.lookup_peer hdatagram htype
      obtain rfl : channel = position := Option.some.inj (hlookup.symm.trans hlookup')
      simp [alive, hpeer, hpeerAlive] at hdead
  | wire inFlight hinFlight =>
      apply hrouted.of_extends
      · exact extends_of_eq rfl
      · exact hrouted.localAddr
      · exact fun addr key index hlookup => hlookup
      · exact fun index party hparty => Or.inl ⟨party, hparty, rfl⟩
      · exact fun addr item hitem => Or.inl hitem
      · exact fun datagram hdatagram => Or.inl (hinFlight hdatagram)
      · exact fun party hparty => Or.inl hparty

theorem routed_init : init.Routed where
  localAddr _ := rfl
  registered := by simp [init]
  syns := by simp [init, UtpSocket.bind]
  datagrams := by simp [init]
  sound := by simp [init]

theorem routed_of_exec {actions : List NetworkAction}
    (hexec : Run.exec step init actions = some network) (hintact : network.Intact) :
    network.Routed := by
  have hinvariant := Run.exec_invariant
    (motive := fun network => network.AllFit ∧ (network.Intact → network.Routed)) ?_
    ⟨allFit_init, fun _ => routed_init⟩ hexec
  · exact hinvariant.2 hintact
  · rintro state action state' ⟨hfit, hrouted⟩ hstep
    have hmoved := moved_of_step hfit.inFlight_fits hstep
    exact ⟨hfit.moved hmoved, fun hintact' => (hrouted (hmoved.intact hintact')).moved hmoved hintact'⟩

end Network

/-- The socket at which a stream or a pending `connect` is registered, and its key there. -/
def Party.holds (party : Party) : Option (SocketAddr × UInt16 × SocketAddr) :=
  match party.state with
  | .connecting _ =>
      some (party.connection.localAddr, party.connection.connectionId, party.connection.remoteAddr)
  | .streaming stream => some (stream.localAddr, stream.connectionIdRecv, stream.remoteAddr)
  | .unanswered => none
  | .dropped => none

theorem Network.Routed.holds {network : Network} (hrouted : network.Routed) {index : Nat}
    {party : Party} (hparty : network.parties[index]? = some party)
    {localAddr : SocketAddr} {key : UInt16 × SocketAddr}
    (hholds : party.holds = some (localAddr, key)) :
    (network.sockets localAddr).routingTable.lookup key = some index := by
  have hregistered := hrouted.registered index party hparty
  have hsound := hrouted.sound party (List.mem_of_getElem? hparty)
  obtain ⟨connection, returned, state⟩ := party
  cases state with
  | connecting inboundPackets =>
      obtain ⟨role, local', remote, connectionId⟩ := connection
      obtain rfl : role = .connector := hsound.1
      cases hholds
      exact hregistered
  | streaming stream =>
      obtain ⟨hlocal, hremote, hrecv, -, -⟩ := hsound
      cases hholds
      rw [hlocal, hremote, hrecv]
      exact hregistered
  | unanswered => cases hholds
  | dropped => cases hholds

/-- **Routing isolation.** In every run in which no stream and no pending `connect` is dropped, no key
of a routing table is held by two of them; and every packet in flight that is not a SYN, when it is
received, goes into the mailbox of its sender's peer, the stream or pending `connect` at the other end
of the same connection. -/
theorem routing_isolation {actions : List NetworkAction} {final : Network}
    (hexec : Run.exec Network.step Network.init actions = some final) (hintact : final.Intact) :
    (∀ (i j : Nat) (party party' : Party) (key : SocketAddr × UInt16 × SocketAddr),
        final.parties[i]? = some party → final.parties[j]? = some party' →
        party.holds = some key → party'.holds = some key → i = j)
      ∧ ∀ datagram ∈ final.inFlight, datagram.packet.packetType ≠ .syn →
        ∃ (sender : Party) (index : Nat) (peer : Party),
          final.parties[datagram.sender]? = some sender
          ∧ final.parties[index]? = some peer
          ∧ peer.connection = sender.connection.peer
          ∧ peer.state.alive = true
          ∧ (final.sockets datagram.destination).receiveDatagram final.alive
              datagram.packet.intoBytes datagram.source
            = .ok (final.sockets datagram.destination, some (index, datagram.packet)) := by
  have hrouted := Network.routed_of_exec hexec hintact
  constructor
  · intro i j party party' key hparty hparty' hholds hholds'
    obtain ⟨localAddr, key⟩ := key
    have hi := hrouted.holds hparty hholds
    have hj := hrouted.holds hparty' hholds'
    exact Option.some.inj (hi.symm.trans hj)
  · intro datagram hdatagram htype
    obtain ⟨party, index, peer, haddressed, hpeer, hconnection, halive, hlookup⟩ :=
      hrouted.lookup_peer hdatagram htype
    refine ⟨party, index, peer, haddressed.sender, hpeer, hconnection, halive, ?_⟩
    have hfits := (Network.allFit_of_exec hexec).inFlight_fits datagram hdatagram
    have hchannel : final.alive index = true := by
      simp [Network.alive, hpeer, halive]
    rw [hfits.receiveDatagram_eq]
    simp [UtpSocket.routePacket, htype, hlookup, hchannel]

/-- Two connections between the same two sockets, one in each direction, whose ids are 65535 and 1, and
a third of a socket to itself. -/
def crossingActions : List NetworkAction :=
  let first : SocketAddr := .v4 0x7F000001 9000
  let second : SocketAddr := .v4 0x7F000001 9001
  [.connect first second [65535] true, .connect second first [1] true,
    .connect first first [65535] true, .deliver 0, .deliver 0, .deliver 0, .accept first 41 true,
    .accept second 42 true, .accept first 43 true, .deliver 0, .deliver 0, .deliver 0, .resume 0,
    .resume 1, .resume 2, .call 0 (.pollWrite .plain [1]), .call 2 (.pollRead .plain 8),
    .call 4 (.pollWrite .plain [2]), .duplicate 0]

theorem routing_isolation_crossing :
    ∃ final, Run.exec Network.step Network.init crossingActions = some final
      ∧ final.parties.map (fun party => party.connection.connectionIdRecv)
        = [65535, 1, 65535, 2, 0, 0]
      ∧ (∀ (i j : Nat) (party party' : Party) (key : SocketAddr × UInt16 × SocketAddr),
        final.parties[i]? = some party → final.parties[j]? = some party' →
        party.holds = some key → party'.holds = some key → i = j)
      ∧ ∀ datagram ∈ final.inFlight, datagram.packet.packetType ≠ .syn →
        ∃ (sender : Party) (index : Nat) (peer : Party),
          final.parties[datagram.sender]? = some sender
          ∧ final.parties[index]? = some peer
          ∧ peer.connection = sender.connection.peer
          ∧ peer.state.alive = true
          ∧ (final.sockets datagram.destination).receiveDatagram final.alive
              datagram.packet.intoBytes datagram.source
            = .ok (final.sockets datagram.destination, some (index, datagram.packet)) := by
  have hintact : ((Run.exec Network.step Network.init crossingActions).get (by decide)).Intact := by
    unfold Network.Intact
    decide
  exact ⟨_, (Option.some_get _).symm, by decide,
    routing_isolation (Option.some_get _).symm hintact⟩

end UtpSafety
