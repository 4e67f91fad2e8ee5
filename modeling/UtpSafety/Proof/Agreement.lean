import UtpSafety.Proof.Routing

/-!
# Agreement after the handshake

`connect` takes its `ackNumber` from whichever state packet reaches its mailbox first. The SYN-ACK
carries the number before the one of the first data packet, but an ACK of the accepted stream carries
that number itself. So the two ends agree as long as no packet of a stream gets into the mailbox ahead
of the SYN-ACK (`SynAckFirst`), and otherwise they may not.
-/

namespace UtpSafety

/-- A `connect` that has received nothing yet. -/
def PartyState.unmet : PartyState → Bool
  | .connecting inboundPackets => inboundPackets.queue.isEmpty
  | _ => false

namespace Network

/-- The datagram leads to a `connect` that has received nothing yet. -/
def Opens (network : Network) (datagram : Datagram) : Prop :=
  ∃ channel ∈ (network.sockets datagram.destination).routingTable.lookup
      (datagram.packet.connectionId, datagram.source),
    ∃ party ∈ network.parties[channel]?, party.state.unmet = true

/-- The packet of a stream is not the first one that a pending `connect` receives. -/
def SynAckFirst (network : Network) : NetworkAction → Prop
  | .deliver index =>
      ∀ datagram ∈ network.inFlight[index]?, network.Opens datagram → datagram.site ≠ .stream
  | _ => True

instance (network : Network) (datagram : Datagram) : Decidable (network.Opens datagram) :=
  inferInstanceAs (Decidable (∃ channel ∈ (network.sockets datagram.destination).routingTable.lookup
      (datagram.packet.connectionId, datagram.source),
    ∃ party ∈ network.parties[channel]?, party.state.unmet = true))

instance (network : Network) : ∀ action, Decidable (network.SynAckFirst action)
  | .deliver index => inferInstanceAs (Decidable (∀ datagram ∈ network.inFlight[index]?,
      network.Opens datagram → datagram.site ≠ .stream))
  | .connect .. | .resume .. | .accept .. | .call .. | .duplicate .. | .lose .. | .drop .. =>
      isTrue trivial

def synAck (network : Network) (index : Nat) : Option Datagram :=
  network.passed.find? fun datagram => datagram.sender = index ∧ datagram.site = .accept

def firstData (network : Network) (index : Nat) : Option Datagram :=
  network.passed.find? fun datagram =>
    datagram.sender = index ∧ datagram.packet.packetType = .data

/-- There is a stream at this end whose first data packet has the number after `seqNumber`. -/
def Offers (network : Network) (connection : Connection) (seqNumber : UInt16) : Prop :=
  ∃ (index : Nat) (party : Party) (stream : UtpStream), network.parties[index]? = some party
    ∧ party.connection = connection ∧ party.returned = some stream
    ∧ seqNumber + 1 = stream.seqNumber

/-- The party with this index keeps its word: a stream starts with the number it was returned with,
and a connector takes up the number that an acceptor offers. -/
structure Met (network : Network) (index : Nat) (party : Party) : Prop where
  silent : party.returned = none → network.firstData index = none
  first : ∀ stream, party.returned = some stream → ∀ datagram,
    network.firstData index = some datagram → datagram.packet.seqNumber = stream.seqNumber
  current : ∀ stream', party.state = .streaming stream' → ∃ stream, party.returned = some stream
    ∧ (network.firstData index = none → stream'.seqNumber = stream.seqNumber)
  ids : ∀ stream, party.returned = some stream →
    stream.connectionIdRecv = party.connection.connectionIdRecv
      ∧ stream.connectionIdSend = party.connection.connectionIdSend
  acceptor : ∀ stream, party.returned = some stream → party.connection.role = .acceptor →
    stream.ackNumber = 1 ∧ ∃ datagram, network.synAck index = some datagram
      ∧ datagram.packet.seqNumber + 1 = stream.seqNumber
  connector : ∀ stream, party.returned = some stream → party.connection.role = .connector →
    stream.seqNumber = 2 ∧ network.Offers party.connection.peer stream.ackNumber
  waiting : ∀ inboundPackets, party.state = .connecting inboundPackets → party.returned = none
    ∧ party.connection.role = .connector ∧ ∀ packet rest, inboundPackets.queue = packet :: rest →
      network.Offers party.connection.peer packet.seqNumber

/-- What is in flight from the handshakes. -/
structure Greeting (network : Network) (datagram : Datagram) : Prop where
  connect : datagram.site = .connect → datagram.packet.packetType = .syn
  syn : datagram.packet.packetType = .syn → datagram.packet.seqNumber = 1
  accept : datagram.site = .accept → network.Offers
    ⟨.acceptor, datagram.source, datagram.destination, datagram.packet.connectionId⟩
    datagram.packet.seqNumber

/-- The invariant. Unlike `Routed` it says nothing about which parties are still there: a key of a
routing table leads to a party that was registered under it, be it dropped. -/
structure Greeted (network : Network) : Prop where
  senders : ∀ datagram ∈ network.passed, datagram.sender < network.parties.length
  table : ∀ addr key index, (network.sockets addr).routingTable.lookup key = some index →
    ∃ party, network.parties[index]? = some party ∧ party.connection.localAddr = addr
      ∧ party.connection.key = key
  syns : ∀ addr, ∀ item ∈ (network.sockets addr).synQueue, item.1.seqNumber = 1
  datagrams : ∀ datagram ∈ network.inFlight, network.Greeting datagram
  met : ∀ (index : Nat) (party : Party), network.parties[index]? = some party →
    network.Met index party

variable {network network' : Network} {action : NetworkAction}

/-- Parties stay the end of the connection that they are, and what `connect` and `accept` returned
stays. -/
def Keeps (network network' : Network) : Prop :=
  ∀ (index : Nat) (party : Party), network.parties[index]? = some party →
    ∃ party', network'.parties[index]? = some party' ∧ party'.connection = party.connection
      ∧ ∀ stream, party.returned = some stream → party'.returned = some stream

theorem Offers.mono (hkeeps : network.Keeps network') {connection : Connection} {seqNumber : UInt16}
    (hoffers : network.Offers connection seqNumber) : network'.Offers connection seqNumber := by
  obtain ⟨index, party, stream, hparty, rfl, hreturned, hnext⟩ := hoffers
  obtain ⟨party', hparty', hconnection, hreturned'⟩ := hkeeps index party hparty
  exact ⟨index, party', stream, hparty', hconnection, hreturned' stream hreturned, hnext⟩

theorem Greeting.mono (hkeeps : network.Keeps network') {datagram : Datagram}
    (hgreeting : network.Greeting datagram) : network'.Greeting datagram :=
  ⟨hgreeting.connect, hgreeting.syn, fun hsite => (hgreeting.accept hsite).mono hkeeps⟩

theorem Met.mono (hkeeps : network.Keeps network') {index : Nat} {party : Party}
    (hmet : network.Met index party) (hdata : network'.firstData index = network.firstData index)
    (hsynAck : network'.synAck index = network.synAck index) : network'.Met index party where
  silent := by
    rw [hdata]
    exact hmet.silent
  first := by
    rw [hdata]
    exact hmet.first
  current := by
    rw [hdata]
    exact hmet.current
  ids := hmet.ids
  acceptor := by
    rw [hsynAck]
    exact hmet.acceptor
  connector := by
    intro stream hreturned hrole
    obtain ⟨hseq, hoffers⟩ := hmet.connector stream hreturned hrole
    exact ⟨hseq, hoffers.mono hkeeps⟩
  waiting := by
    intro inboundPackets hstate
    obtain ⟨hreturned, hrole, hhead⟩ := hmet.waiting inboundPackets hstate
    exact ⟨hreturned, hrole, fun packet rest hqueue => (hhead packet rest hqueue).mono hkeeps⟩

/-- The invariant of a network from that of an earlier one: only what is new has to be looked at. -/
theorem Greeted.of_keeps (hgreeted : network.Greeted) (hkeeps : network.Keeps network')
    (hsenders : ∀ datagram ∈ network'.passed,
      datagram ∈ network.passed ∨ datagram.sender < network'.parties.length)
    (htable : ∀ addr key index, (network'.sockets addr).routingTable.lookup key = some index →
      (network.sockets addr).routingTable.lookup key = some index
      ∨ ∃ party, network'.parties[index]? = some party ∧ party.connection.localAddr = addr
        ∧ party.connection.key = key)
    (hsyns : ∀ addr, ∀ item ∈ (network'.sockets addr).synQueue,
      item ∈ (network.sockets addr).synQueue ∨ item.1.seqNumber = 1)
    (hdatagrams : ∀ datagram ∈ network'.inFlight,
      datagram ∈ network.inFlight ∨ network'.Greeting datagram)
    (hmet : ∀ (index : Nat) (party : Party), network'.parties[index]? = some party →
      (network.parties[index]? = some party
        ∧ network'.firstData index = network.firstData index
        ∧ network'.synAck index = network.synAck index)
      ∨ network'.Met index party) :
    network'.Greeted where
  senders := by
    intro datagram hdatagram
    rcases hsenders datagram hdatagram with hold | hnew
    · have hsender := hgreeted.senders datagram hold
      obtain ⟨party', hparty', -⟩ := hkeeps _ _ (List.getElem?_eq_getElem hsender)
      exact (List.getElem?_eq_some_iff.mp hparty').1
    · exact hnew
  table := by
    intro addr key index hlookup
    rcases htable addr key index hlookup with hold | hnew
    · obtain ⟨party, hparty, haddr, hkey⟩ := hgreeted.table addr key index hold
      obtain ⟨party', hparty', hconnection, -⟩ := hkeeps index party hparty
      exact ⟨party', hparty', hconnection ▸ haddr, hconnection ▸ hkey⟩
    · exact hnew
  syns := by
    intro addr item hitem
    rcases hsyns addr item hitem with hold | hnew
    · exact hgreeted.syns addr item hold
    · exact hnew
  datagrams := by
    intro datagram hdatagram
    rcases hdatagrams datagram hdatagram with hold | hnew
    · exact (hgreeted.datagrams datagram hold).mono hkeeps
    · exact hnew
  met := by
    intro index party hparty
    rcases hmet index party hparty with ⟨hold, hdata, hsynAck⟩ | hnew
    · exact (hgreeted.met index party hold).mono hkeeps hdata hsynAck
    · exact hnew

/-! ### The log -/

theorem find?_datagrams_of_ne {source : SocketAddr} {sender index : Nat} {site : Site}
    {items : List (Packet × SocketAddr)} {select : Datagram → Bool}
    (hselect : ∀ datagram, select datagram = true → datagram.sender = index)
    (hne : sender ≠ index) : (datagrams source sender site items).find? select = none := by
  rw [List.find?_eq_none]
  intro datagram hdatagram hselected
  obtain ⟨item, -, rfl⟩ := mem_datagrams.mp hdatagram
  exact hne (hselect _ hselected)

theorem firstData_pass_of_ne {source : SocketAddr} {sender index : Nat} {site : Site}
    {sent refused : List (Packet × SocketAddr)} (hne : sender ≠ index) :
    (network.pass source sender site sent refused).firstData index = network.firstData index := by
  unfold firstData pass
  rw [List.find?_append, find?_datagrams_of_ne (by simp +contextual) hne, Option.or_none]

theorem synAck_pass_of_ne {source : SocketAddr} {sender index : Nat} {site : Site}
    {sent refused : List (Packet × SocketAddr)} (hne : sender ≠ index) :
    (network.pass source sender site sent refused).synAck index = network.synAck index := by
  unfold synAck pass
  rw [List.find?_append, find?_datagrams_of_ne (by simp +contextual) hne, Option.or_none]

theorem firstData_pass_self {source : SocketAddr} {index : Nat} {site : Site}
    {sent refused : List (Packet × SocketAddr)} :
    (network.pass source index site sent refused).firstData index
      = (network.firstData index).or
        (((sent ++ refused).find? fun item => item.1.packetType = .data).map
          fun item => ⟨source, item.2, item.1, index, site⟩) := by
  unfold firstData pass datagrams
  rw [List.find?_append, List.find?_map]
  congr 3
  funext item
  simp

theorem Greeted.find?_absent (hgreeted : network.Greeted) {select : Datagram → Bool}
    (hselect : ∀ datagram, select datagram = true → datagram.sender = network.parties.length) :
    network.passed.find? select = none := by
  rw [List.find?_eq_none]
  intro datagram hdatagram hselected
  have hsender := hgreeted.senders datagram hdatagram
  have hlast := hselect datagram hselected
  omega

theorem Greeted.firstData_joined (hgreeted : network.Greeted) {source : SocketAddr} {site : Site}
    {items : List (Packet × SocketAddr)}
    (hpassed : network'.passed
      = network.passed ++ Network.datagrams source network.parties.length site items)
    (hitems : ∀ item ∈ items, item.1.packetType ≠ .data) :
    network'.firstData network.parties.length = none := by
  unfold firstData
  rw [hpassed, List.find?_append, hgreeted.find?_absent (by simp +contextual), Option.none_or,
    List.find?_eq_none]
  intro datagram hdatagram
  obtain ⟨item, hitem, rfl⟩ := mem_datagrams.mp hdatagram
  simpa using hitems item hitem

theorem Greeted.synAck_joined (hgreeted : network.Greeted) {source : SocketAddr}
    {item : Packet × SocketAddr}
    (hpassed : network'.passed
      = network.passed ++ Network.datagrams source network.parties.length .accept [item]) :
    network'.synAck network.parties.length
      = some ⟨source, item.2, item.1, network.parties.length, .accept⟩ := by
  unfold synAck
  rw [hpassed, List.find?_append, hgreeted.find?_absent (by simp +contextual), Option.none_or]
  simp [Network.datagrams]

/-! ### Every action keeps the invariant -/

theorem keeps_of_append {party : Party} (hparties : network'.parties = network.parties ++ [party]) :
    network.Keeps network' := by
  intro index other hother
  apply exists_related_of_append hparties ?_ hother
  exact fun _ => ⟨rfl, fun _ => id⟩

theorem keeps_of_set {index : Nat} {party party' : Party}
    (hparties : network'.parties = network.parties.set index party')
    (hparty : network.parties[index]? = some party)
    (hconnection : party'.connection = party.connection)
    (hreturned : ∀ stream, party.returned = some stream → party'.returned = some stream) :
    network.Keeps network' := by
  intro position other hother
  apply exists_related_of_set hparties hparty ?_ ?_ hother
  · exact ⟨hconnection, hreturned⟩
  · exact fun _ => ⟨rfl, fun _ => id⟩

theorem keeps_of_eq (hparties : network'.parties = network.parties) : network.Keeps network' := by
  intro index party hparty
  exact ⟨party, hparties ▸ hparty, rfl, fun stream => id⟩

theorem Greeted.joined (hgreeted : network.Greeted) {base : Network} (party : Party)
    {synQueue : List (Packet × SocketAddr)} {source : SocketAddr} {site : Site}
    {sent refused : List (Packet × SocketAddr)}
    (hsockets : base.sockets = Function.update network.sockets party.connection.localAddr
      { network.sockets party.connection.localAddr with
        synQueue
        routingTable := (network.sockets party.connection.localAddr).routingTable.insert
          party.connection.key network.parties.length })
    (hparties : base.parties = network.parties) (hinFlight : base.inFlight = network.inFlight)
    (hpassed : base.passed = network.passed)
    (hsyns : synQueue ⊆ (network.sockets party.connection.localAddr).synQueue)
    (hgreeting : ∀ item ∈ sent,
      ((base.join party).pass source network.parties.length site sent refused).Greeting
        ⟨source, item.2, item.1, network.parties.length, site⟩)
    (hmet : ((base.join party).pass source network.parties.length site sent refused).Met
      network.parties.length party) :
    ((base.join party).pass source network.parties.length site sent refused).Greeted := by
  have hjoined : ((base.join party).pass source network.parties.length site sent refused).parties
      = network.parties ++ [party] := by
    rw [pass, join, hparties]
  have hself : (network.parties ++ [party])[network.parties.length]? = some party := by simp
  apply hgreeted.of_keeps (keeps_of_append hjoined)
  · intro datagram hdatagram
    rcases mem_passed_pass.mp hdatagram with hold | ⟨item, hitem, rfl⟩
    · exact Or.inl (hpassed ▸ hold)
    · right
      rw [hjoined]
      simp
  · intro addr key index hlookup
    change (base.sockets addr).routingTable.lookup key = some index at hlookup
    rw [lookup_joined hsockets] at hlookup
    split_ifs at hlookup with hkey
    · obtain ⟨rfl, rfl⟩ := hkey
      cases hlookup
      rw [hjoined]
      exact Or.inr ⟨party, hself, rfl, rfl⟩
    · exact Or.inl hlookup
  · intro addr item hitem
    left
    change item ∈ (base.sockets addr).synQueue at hitem
    rw [synQueue_joined hsockets] at hitem
    split_ifs at hitem with haddr
    · subst haddr
      exact hsyns hitem
    · exact hitem
  · intro datagram hdatagram
    rcases mem_inFlight_pass.mp hdatagram with hold | ⟨item, hitem, rfl⟩
    · exact Or.inl (hinFlight ▸ hold)
    · exact Or.inr (hgreeting item hitem)
  · intro index other hother
    rcases get_of_append hjoined hother with ⟨rfl, rfl⟩ | ⟨hne, hold⟩
    · exact Or.inr hmet
    · refine Or.inl ⟨hold, ?_, ?_⟩
      · rw [firstData_pass_of_ne hne]
        simp only [firstData, join, hpassed]
      · rw [synAck_pass_of_ne hne]
        simp only [synAck, join, hpassed]

theorem Greeted.changed (hgreeted : network.Greeted) (hkeeps : network.Keeps network') {index : Nat}
    {party party' : Party} (hparty : network.parties[index]? = some party)
    (hsockets : network'.sockets = network.sockets)
    (hparties : network'.parties = network.parties.set index party')
    (hsenders : ∀ datagram ∈ network'.passed, datagram ∈ network.passed ∨ datagram.sender = index)
    (hdatagrams : ∀ datagram ∈ network'.inFlight,
      datagram ∈ network.inFlight ∨ network'.Greeting datagram)
    (hlog : ∀ other, index ≠ other → network'.firstData other = network.firstData other
      ∧ network'.synAck other = network.synAck other)
    (hmet : network'.Met index party') : network'.Greeted := by
  refine hgreeted.of_keeps hkeeps ?_ ?_ ?_ hdatagrams ?_
  · intro datagram hdatagram
    rcases hsenders datagram hdatagram with hold | rfl
    · exact Or.inl hold
    · right
      rw [hparties, List.length_set]
      exact (List.getElem?_eq_some_iff.mp hparty).1
  · rw [hsockets]
    exact fun addr key index hlookup => Or.inl hlookup
  · rw [hsockets]
    exact fun addr item hitem => Or.inl hitem
  · intro position other hother
    rcases get_of_set hparties hparty hother with ⟨rfl, rfl⟩ | ⟨hne, hold⟩
    · exact Or.inr hmet
    · exact Or.inl ⟨hold, hlog position hne⟩

theorem Greeted.congr (hgreeted : network.Greeted) (hparties : network'.parties = network.parties)
    (hpassed : network'.passed = network.passed)
    (htable : ∀ addr key index, (network'.sockets addr).routingTable.lookup key = some index →
      (network.sockets addr).routingTable.lookup key = some index)
    (hsyns : ∀ addr, ∀ item ∈ (network'.sockets addr).synQueue,
      item ∈ (network.sockets addr).synQueue ∨ item.1.seqNumber = 1)
    (hinFlight : network'.inFlight ⊆ network.inFlight) : network'.Greeted := by
  apply hgreeted.of_keeps (keeps_of_eq hparties)
  · rw [hpassed]
    exact fun datagram hdatagram => Or.inl hdatagram
  · exact fun addr key index hlookup => Or.inl (htable addr key index hlookup)
  · exact hsyns
  · exact fun datagram hdatagram => Or.inl (hinFlight hdatagram)
  · intro index party hparty
    rw [hparties] at hparty
    refine Or.inl ⟨hparty, ?_, ?_⟩
    · simp only [firstData, hpassed]
    · simp only [synAck, hpassed]

theorem Greeted.withSyns (hgreeted : network.Greeted) {localAddr : SocketAddr}
    {synQueue : List (Packet × SocketAddr)}
    (hsyns : ∀ item ∈ synQueue, item ∈ (network.sockets localAddr).synQueue
      ∨ item.1.seqNumber = 1)
    {inFlight : List Datagram} (hinFlight : inFlight ⊆ network.inFlight) :
    ((network.withInFlight inFlight).withSyns localAddr synQueue).Greeted := by
  refine hgreeted.congr rfl rfl ?_ ?_ hinFlight
  · intro addr key index hlookup
    simpa using hlookup
  · intro addr item hitem
    rw [withSyns_synQueue] at hitem
    split_ifs at hitem with haddr
    · subst haddr
      exact hsyns item hitem
    · exact Or.inl hitem

theorem met_unreturned {index : Nat} {party : Party} (hreturned : party.returned = none)
    (hdata : network.firstData index = none) (hstreaming : ∀ stream, party.state ≠ .streaming stream)
    (hwaiting : ∀ inboundPackets, party.state = .connecting inboundPackets →
      party.connection.role = .connector ∧ inboundPackets.queue = []) :
    network.Met index party where
  silent _ := hdata
  first := by simp [hreturned]
  current stream hstate := absurd hstate (hstreaming stream)
  ids := by simp [hreturned]
  acceptor := by simp [hreturned]
  connector := by simp [hreturned]
  waiting := by
    intro inboundPackets hstate
    obtain ⟨hrole, hqueue⟩ := hwaiting inboundPackets hstate
    exact ⟨hreturned, hrole, by simp [hqueue]⟩

theorem Met.called {index : Nat} {connection : Connection} {returned : Option UtpStream}
    {stream stream' : UtpStream} {sent refused : List (Packet × SocketAddr)} {source : SocketAddr}
    (hmet : network.Met index ⟨connection, returned, .streaming stream⟩)
    (hperformed : UtpStream.Performed stream stream' (sent ++ refused))
    (hkeeps : network.Keeps ((network.withParty index ⟨connection, returned, .streaming stream'⟩).pass
      source index .stream sent refused)) :
    ((network.withParty index ⟨connection, returned, .streaming stream'⟩).pass source index .stream
      sent refused).Met index ⟨connection, returned, .streaming stream'⟩ := by
  obtain ⟨origin, horigin, hcurrent⟩ := hmet.current stream rfl
  obtain rfl : returned = some origin := horigin
  have hlog : (network.withParty index ⟨connection, some origin, .streaming stream'⟩).firstData index
      = network.firstData index := rfl
  refine ⟨?_, ?_, ?_, hmet.ids, ?_, ?_, ?_⟩
  · intro hreturned
    cases hreturned
  · intro origin' hreturned datagram hdatagram
    rw [firstData_pass_self, hlog] at hdatagram
    cases hdata : network.firstData index with
    | some first =>
        rw [hdata, Option.some_or, Option.some.injEq] at hdatagram
        subst hdatagram
        exact hmet.first origin' hreturned first hdata
    | none =>
        rw [hdata, Option.none_or] at hdatagram
        obtain ⟨item, hitem, rfl⟩ := Option.map_eq_some_iff.mp hdatagram
        cases hreturned
        exact (hperformed.first item hitem).trans (hcurrent hdata)
  · rintro _ ⟨⟩
    refine ⟨origin, rfl, fun hnone => ?_⟩
    rw [firstData_pass_self, hlog, Option.or_eq_none_iff, Option.map_eq_none_iff,
      List.find?_eq_none] at hnone
    obtain ⟨hdata, hitems⟩ := hnone
    refine (hperformed.unmoved fun item hitem => ?_).trans (hcurrent hdata)
    simpa using hitems item hitem
  · intro origin' hreturned hrole
    obtain ⟨hack, datagram, hdatagram, hnext⟩ := hmet.acceptor origin' hreturned hrole
    refine ⟨hack, datagram, ?_, hnext⟩
    unfold synAck at hdatagram ⊢
    exact (List.find?_append ..).trans (by rw [withParty, hdatagram, Option.some_or])
  · intro origin' hreturned hrole
    obtain ⟨hseq, hoffers⟩ := hmet.connector origin' hreturned hrole
    exact ⟨hseq, hoffers.mono hkeeps⟩
  · rintro inboundPackets ⟨⟩

theorem Met.received {index : Nat} {party : Party} {packet : Packet}
    (hmet : network.Met index party)
    (hoffers : party.state.unmet = true → network.Offers party.connection.peer packet.seqNumber) :
    network.Met index { party with state := party.state.receive packet } := by
  obtain ⟨connection, returned, state⟩ := party
  refine ⟨hmet.silent, hmet.first, ?_, hmet.ids, hmet.acceptor, hmet.connector, ?_⟩
  · intro stream hstate
    cases state with
    | streaming stream' =>
        cases hstate
        exact hmet.current stream' rfl
    | connecting inboundPackets => cases hstate
    | unanswered => cases hstate
    | dropped => cases hstate
  · intro inboundPackets hstate
    cases state with
    | connecting before =>
        cases hstate
        obtain ⟨hreturned, hrole, hhead⟩ := hmet.waiting before rfl
        refine ⟨hreturned, hrole, fun head rest hqueue => ?_⟩
        cases hbefore : before.queue with
        | nil =>
            simp only [hbefore, List.nil_append, List.cons.injEq] at hqueue
            obtain ⟨rfl, -⟩ := hqueue
            exact hoffers (by simp [PartyState.unmet, hbefore])
        | cons first others =>
            simp only [hbefore, List.cons_append, List.cons.injEq] at hqueue
            obtain ⟨rfl, -⟩ := hqueue
            exact hhead first others hbefore
    | streaming stream => cases hstate
    | unanswered => cases hstate
    | dropped => cases hstate

/-- What opens a pending `connect` is the SYN-ACK of its peer. -/
theorem Greeted.opened (hgreeted : network.Greeted) {index : Nat} {datagram : Datagram}
    {channel : Nat} {party : Party} (hallowed : network.SynAckFirst (.deliver index))
    (hdatagram : network.inFlight[index]? = some datagram)
    (htype : datagram.packet.packetType ≠ .syn)
    (hlookup : (network.sockets datagram.destination).routingTable.lookup
      (datagram.packet.connectionId, datagram.source) = some channel)
    (hparty : network.parties[channel]? = some party) (hunmet : party.state.unmet = true) :
    network.Offers party.connection.peer datagram.packet.seqNumber := by
  have hgreeting := hgreeted.datagrams datagram (List.mem_of_getElem? hdatagram)
  have hsite : datagram.site = .accept := by
    have hstream := hallowed datagram hdatagram ⟨channel, hlookup, party, hparty, hunmet⟩
    cases hsite : datagram.site with
    | connect => exact absurd (hgreeting.connect hsite) htype
    | accept => rfl
    | stream => exact absurd hsite hstream
  obtain ⟨party', hparty', haddr, hkey⟩ := hgreeted.table _ _ channel hlookup
  obtain rfl : party = party' := Option.some.inj (hparty.symm.trans hparty')
  obtain ⟨⟨role, localAddr, remoteAddr, connectionId⟩, returned, state⟩ := party
  cases state with
  | connecting inboundPackets =>
      obtain ⟨-, hrole, -⟩ := (hgreeted.met channel _ hparty).waiting inboundPackets rfl
      obtain rfl : role = .connector := hrole
      obtain ⟨hid, hremote⟩ := Prod.mk.inj hkey
      have hoffers := hgreeting.accept hsite
      rw [← haddr, ← hid, ← hremote] at hoffers
      exact hoffers
  | streaming stream => cases hunmet
  | unanswered => cases hunmet
  | dropped => cases hunmet

/-- `connect` returns: the number that it takes up is the one that the head of its mailbox offers. -/
theorem Greeted.resumed (hgreeted : network.Greeted) {index : Nat} {connection : Connection}
    {returned : Option UtpStream} {inboundPackets : Mailbox} {responsePacket : Packet}
    {rest : List Packet} {stream : UtpStream}
    (hparty : network.parties[index]? = some ⟨connection, returned, .connecting inboundPackets⟩)
    (hqueue : inboundPackets.queue = responsePacket :: rest)
    (hstream : stream = UtpStream.new connection.localAddr connection.connectionId
      (connection.connectionId + 1) connection.remoteAddr { inboundPackets with queue := rest } 2
      responsePacket.seqNumber) :
    (network.withParty index ⟨connection, some stream, .streaming stream⟩).Greeted := by
  have hmet := hgreeted.met index _ hparty
  obtain ⟨hreturned, hrole, hhead⟩ := hmet.waiting inboundPackets rfl
  obtain rfl : returned = none := hreturned
  have hdata := hmet.silent rfl
  have hkeeps : network.Keeps (network.withParty index ⟨connection, some stream,
      .streaming stream⟩) :=
    keeps_of_set rfl hparty rfl nofun
  obtain ⟨role, localAddr, remoteAddr, connectionId⟩ := connection
  obtain rfl : role = .connector := hrole
  refine hgreeted.changed hkeeps hparty rfl rfl (fun datagram => Or.inl)
    (fun datagram => Or.inl) (fun other hne => ⟨rfl, rfl⟩) ⟨nofun, ?_, ?_, ?_, nofun, ?_, nofun⟩
  · intro stream' hstream' datagram hdatagram
    exact absurd (hdata.symm.trans hdatagram) (by simp)
  · rintro _ ⟨⟩
    exact ⟨stream, rfl, fun _ => rfl⟩
  · rintro _ ⟨⟩
    subst hstream
    exact ⟨rfl, rfl⟩
  · rintro _ ⟨⟩ -
    subst hstream
    exact ⟨rfl, (hhead responsePacket rest hqueue).mono hkeeps⟩

/-- `accept` returns: its SYN-ACK offers the number that the stream starts after. -/
theorem Greeted.accepted (hgreeted : network.Greeted) {localAddr remoteAddr : SocketAddr}
    {syn : Packet} {rest : List (Packet × SocketAddr)} {seqNumber : UInt16} {stream : UtpStream}
    (hsyn : (network.sockets localAddr).synQueue = (syn, remoteAddr) :: rest)
    (hstream : stream = UtpStream.new (network.sockets localAddr).localAddr (syn.connectionId + 1)
      syn.connectionId remoteAddr ⟨[], false⟩ (seqNumber + 1) syn.seqNumber) :
    ((((network.withSyns localAddr rest).register
      ⟨.acceptor, localAddr, remoteAddr, syn.connectionId⟩).join
      ⟨⟨.acceptor, localAddr, remoteAddr, syn.connectionId⟩, some stream, .streaming stream⟩).pass
      localAddr network.parties.length .accept
      [(UtpListener.synAckPacket syn.connectionId seqNumber syn.seqNumber, remoteAddr)]
      []).Greeted := by
  have hone := hgreeted.syns localAddr (syn, remoteAddr) (by simp [hsyn])
  rw [network.register_withSyns ⟨.acceptor, localAddr, remoteAddr, syn.connectionId⟩ rest]
  refine hgreeted.joined
    ⟨⟨.acceptor, localAddr, remoteAddr, syn.connectionId⟩, some stream, .streaming stream⟩ rfl rfl
    rfl rfl (by simp [hsyn]) ?_ ⟨nofun, ?_, ?_, ?_, ?_, nofun, nofun⟩
  · intro item hitem
    rw [List.mem_singleton.mp hitem]
    refine ⟨nofun, nofun, fun _ => ?_⟩
    refine ⟨network.parties.length, _, stream, List.getElem?_concat_length, rfl, rfl, ?_⟩
    rw [hstream]
    rfl
  · intro stream' hstream' datagram hdatagram
    have hnone : some datagram = none := hdatagram.symm.trans
      (hgreeted.firstData_joined rfl (by simp [UtpListener.synAckPacket]))
    cases hnone
  · rintro _ ⟨⟩
    exact ⟨stream, rfl, fun _ => rfl⟩
  · rintro _ ⟨⟩
    subst hstream
    exact ⟨rfl, rfl⟩
  · rintro _ ⟨⟩ -
    subst hstream
    exact ⟨hone, _, hgreeted.synAck_joined rfl, rfl⟩

theorem Greeted.called (hgreeted : network.Greeted) {index : Nat} {connection : Connection}
    {returned : Option UtpStream} {stream stream' : UtpStream}
    {sent refused : List (Packet × SocketAddr)} {source : SocketAddr}
    (hparty : network.parties[index]? = some ⟨connection, returned, .streaming stream⟩)
    (hperformed : UtpStream.Performed stream stream' (sent ++ refused)) :
    ((network.withParty index ⟨connection, returned, .streaming stream'⟩).pass source index .stream
      sent refused).Greeted := by
  have hkeeps : network.Keeps ((network.withParty index
      ⟨connection, returned, .streaming stream'⟩).pass source index .stream sent refused) :=
    keeps_of_set rfl hparty rfl (fun stream => id)
  refine hgreeted.changed hkeeps hparty rfl rfl ?_ ?_ ?_
    ((hgreeted.met index _ hparty).called hperformed hkeeps)
  · intro datagram hdatagram
    rcases mem_passed_pass.mp hdatagram with hold | ⟨item, hitem, rfl⟩
    · exact Or.inl hold
    · exact Or.inr rfl
  · intro datagram hdatagram
    rcases mem_inFlight_pass.mp hdatagram with hold | ⟨item, hitem, rfl⟩
    · exact Or.inl hold
    · obtain ⟨-, hhandled, -⟩ := hperformed.sends item (List.mem_append_left _ hitem)
      exact Or.inr ⟨nofun, fun htype => absurd htype hhandled.ne_syn, nofun⟩
  · intro other hne
    exact ⟨firstData_pass_of_ne hne, synAck_pass_of_ne hne⟩

theorem Greeted.erased (hgreeted : network.Greeted) (localAddr : SocketAddr)
    (key : UInt16 × SocketAddr) {inFlight : List Datagram} (hinFlight : inFlight ⊆ network.inFlight) :
    ((network.withInFlight inFlight).withSocket localAddr
      { network.sockets localAddr with
        routingTable := (network.sockets localAddr).routingTable.erase key }).Greeted := by
  refine hgreeted.congr rfl rfl ?_ ?_ hinFlight
  · intro addr key' index hlookup
    by_cases haddr : addr = localAddr
    · subst haddr
      simp only [withSocket, Function.update_self] at hlookup
      by_cases hkey : key' = key
      · subst hkey
        simp [Finmap.lookup_erase] at hlookup
      · rw [Finmap.lookup_erase_ne hkey] at hlookup
        exact hlookup
    · simp only [withSocket, Function.update_of_ne haddr] at hlookup
      exact hlookup
  · intro addr item hitem
    left
    by_cases haddr : addr = localAddr
    · subst haddr
      simpa [withSocket] using hitem
    · simpa [withSocket, Function.update_of_ne haddr] using hitem

/-- **The handshake is an invariant**, while no packet of a stream overtakes a SYN-ACK. -/
theorem Greeted.moved (hgreeted : network.Greeted) (hallowed : network.SynAckFirst action)
    (hmoved : Moved network action network') : network'.Greeted := by
  cases hmoved with
  | connect localAddr remoteAddr connectionId hvacant =>
      refine hgreeted.joined
        ⟨⟨.connector, localAddr, remoteAddr, connectionId⟩, none, .connecting ⟨[], false⟩⟩ rfl rfl rfl
        rfl (List.Subset.refl _) ?_ ?_
      · intro item hitem
        rw [List.mem_singleton.mp hitem]
        exact ⟨fun _ => rfl, fun _ => rfl, nofun⟩
      · refine met_unreturned rfl ?_ (by simp) (by simp)
        exact hgreeted.firstData_joined rfl (by simp [UtpStream.synPacket])
  | connectFailed localAddr remoteAddr connectionId =>
      refine hgreeted.joined ⟨⟨.connector, localAddr, remoteAddr, connectionId⟩, none, .dropped⟩ rfl
        rfl rfl rfl (List.Subset.refl _) (by simp) ?_
      refine met_unreturned rfl ?_ (by simp) (by simp)
      exact hgreeted.firstData_joined rfl (by simp [UtpStream.synPacket])
  | resumed index connection returned inboundPackets responsePacket rest hparty hqueue stream
      hstream => exact hgreeted.resumed hparty hqueue hstream
  | gone index party hparty =>
      have hkeeps : network.Keeps (network.withParty index { party with state := .dropped }) :=
        keeps_of_set rfl hparty rfl (fun stream => id)
      have hmet := (hgreeted.met index party hparty).mono hkeeps rfl rfl
      exact hgreeted.changed hkeeps hparty rfl rfl (fun datagram => Or.inl) (fun datagram => Or.inl)
        (fun other hne => ⟨rfl, rfl⟩)
        ⟨hmet.silent, hmet.first, nofun, hmet.ids, hmet.acceptor, hmet.connector, nofun⟩
  | accept localAddr syn remoteAddr rest seqNumber hsyn hvacant stream hstream =>
      exact hgreeted.accepted hsyn hstream
  | unanswered localAddr syn remoteAddr rest seqNumber hsyn hvacant =>
      rw [network.register_withSyns ⟨.acceptor, localAddr, remoteAddr, syn.connectionId⟩ rest]
      refine hgreeted.joined
        ⟨⟨.acceptor, localAddr, remoteAddr, syn.connectionId⟩, none, .unanswered⟩ rfl rfl rfl rfl
        (by simp [hsyn]) (by simp) ?_
      refine met_unreturned rfl ?_ (by simp) (by simp)
      exact hgreeted.firstData_joined rfl (by simp [UtpListener.synAckPacket])
  | discarded localAddr syn rest hsyn =>
      refine hgreeted.withSyns (fun item hitem => Or.inl ?_) (List.Subset.refl network.inFlight)
      rw [hsyn]
      exact List.mem_cons_of_mem _ hitem
  | called index connection returned stream stream' sent refused hparty hperformed =>
      exact hgreeted.called hparty hperformed
  | synArrived datagram inFlight hdatagram hinFlight htype =>
      apply hgreeted.withSyns ?_ hinFlight
      intro item hitem
      rcases List.mem_append.mp hitem with hold | hnew
      · exact Or.inl hold
      · right
        rw [List.mem_singleton.mp hnew]
        exact (hgreeted.datagrams datagram hdatagram).syn htype
  | arrived index datagram inFlight channel haction hdatagram hinFlight htype hlookup halive =>
      subst haction
      obtain ⟨party, hparty, -⟩ := hgreeted.table _ _ channel hlookup
      simp only [enqueue, withInFlight, hparty]
      have hkeeps : network.Keeps ((network.withInFlight inFlight).withParty channel
          { party with state := party.state.receive datagram.packet }) :=
        keeps_of_set rfl hparty rfl (fun stream => id)
      refine hgreeted.changed hkeeps hparty rfl rfl (fun datagram => Or.inl)
        (fun datagram hmem => Or.inl (hinFlight hmem)) (fun other hne => ⟨rfl, rfl⟩) ?_
      refine ((hgreeted.met channel party hparty).mono hkeeps rfl rfl).received fun hunmet => ?_
      exact (hgreeted.opened hallowed hdatagram htype hlookup hparty hunmet).mono hkeeps
  | stale datagram inFlight channel hdatagram hinFlight htype hlookup hdead =>
      exact hgreeted.erased _ _ hinFlight
  | wire inFlight hinFlight =>
      exact hgreeted.congr rfl rfl (fun addr key index => id) (fun addr item => Or.inl) hinFlight

theorem greeted_init : init.Greeted where
  senders := by simp [init]
  table := by simp [init, UtpSocket.bind]
  syns := by simp [init, UtpSocket.bind]
  datagrams := by simp [init]
  met := by simp [init]

theorem greeted_of_exec {actions : List NetworkAction}
    (hall : Run.All step SynAckFirst init actions)
    (hexec : Run.exec step init actions = some network) : network.Greeted := by
  have hinvariant := Run.exec_invariant_of_all
    (motive := fun network => network.AllFit ∧ network.Greeted) ?_ ⟨allFit_init, greeted_init⟩ hall
    hexec
  · exact hinvariant.2
  · rintro state action state' ⟨hfit, hgreeted⟩ hallowed hstep
    have hmoved := moved_of_step hfit.inFlight_fits hstep
    exact ⟨hfit.moved hmoved, hgreeted.moved hallowed hmoved⟩

/-- Without drops there is one party for each end of a connection. -/
theorem Routed.eq_of_connection (hrouted : network.Routed) {i j : Nat} {first second : Party}
    (hfirst : network.parties[i]? = some first) (hsecond : network.parties[j]? = some second)
    (hconnection : first.connection = second.connection) : i = j := by
  have hi := hrouted.registered i first hfirst
  have hj := hrouted.registered j second hsecond
  rw [hconnection] at hi
  exact Option.some.inj (hi.symm.trans hj)

end Network

/-- **Handshake agreement.** In every run in which the packet of a stream is never the first one that
a pending `connect` receives, let `connect` have returned the stream `dialed`, and `accept` the stream
`accepted`, and no other, for the SYN. Then `dialed.ackNumber` is the number of the SYN-ACK, the
numbers after the two `ackNumber`s are those of the first data packets of the other side, and the ids
are crossed. Both streams are taken as they were returned. -/
theorem handshake_agreement {actions : List NetworkAction} {final : Network}
    (hall : Run.All Network.step Network.SynAckFirst Network.init actions)
    (hexec : Run.exec Network.step Network.init actions = some final)
    {i j : Nat} {connector acceptor : Party} {dialed accepted : UtpStream}
    (hconnector : final.parties[i]? = some connector)
    (hacceptor : final.parties[j]? = some acceptor)
    (hrole : connector.connection.role = .connector)
    (hpeer : acceptor.connection = connector.connection.peer)
    (hdialed : connector.returned = some dialed) (haccepted : acceptor.returned = some accepted)
    (hsole : ∀ (k : Nat) (party : Party), final.parties[k]? = some party →
      party.connection = acceptor.connection → party.returned ≠ none → k = j) :
    ((final.synAck j).map fun datagram => datagram.packet.seqNumber) = some dialed.ackNumber
      ∧ dialed.ackNumber + 1 = accepted.seqNumber
      ∧ (∀ datagram, final.firstData j = some datagram →
        datagram.packet.seqNumber = dialed.ackNumber + 1)
      ∧ accepted.ackNumber + 1 = dialed.seqNumber
      ∧ (∀ datagram, final.firstData i = some datagram →
        datagram.packet.seqNumber = accepted.ackNumber + 1)
      ∧ dialed.connectionIdSend = accepted.connectionIdRecv
      ∧ dialed.connectionIdRecv = accepted.connectionIdSend := by
  have hgreeted := Network.greeted_of_exec hall hexec
  have hmet := hgreeted.met i connector hconnector
  have hmet' := hgreeted.met j acceptor hacceptor
  have hrole' : acceptor.connection.role = .acceptor := by
    rw [hpeer, Connection.peer, hrole]
  obtain ⟨hseq, k, party, stream, hparty, hconnection, hreturned, hnext⟩ :=
    hmet.connector dialed hdialed hrole
  obtain rfl : k = j := hsole k party hparty (hconnection.trans hpeer.symm) (by simp [hreturned])
  obtain rfl : party = acceptor := Option.some.inj (hparty.symm.trans hacceptor)
  obtain rfl : stream = accepted := Option.some.inj (hreturned.symm.trans haccepted)
  obtain ⟨hack, datagram, hsynAck, hnumber⟩ := hmet'.acceptor stream haccepted hrole'
  obtain ⟨hrecv, hsend⟩ := hmet.ids dialed hdialed
  obtain ⟨hrecv', hsend'⟩ := hmet'.ids stream haccepted
  have hfirst : stream.ackNumber + 1 = dialed.seqNumber := by
    rw [hack, hseq]
    rfl
  refine ⟨?_, hnext, ?_, hfirst, ?_, ?_, ?_⟩
  · rw [hsynAck, Option.map_some, Option.some.injEq]
    exact (UInt16.add_left_inj 1).mp (hnumber.trans hnext.symm)
  · intro datagram hdatagram
    rw [hnext]
    exact hmet'.first stream haccepted datagram hdatagram
  · intro datagram hdatagram
    rw [hfirst]
    exact hmet.first dialed hdialed datagram hdatagram
  · rw [hsend, hrecv', hpeer, Connection.peer, Connection.connectionIdRecv,
      Connection.connectionIdSend, hrole]
  · rw [hrecv, hsend', hpeer, Connection.peer, Connection.connectionIdRecv,
      Connection.connectionIdSend, hrole]

/-- The accepted stream is read at once, and the ACK that this sends arrives after the SYN-ACK. Then
both sides write. -/
def greetedActions : List NetworkAction :=
  let connector : SocketAddr := .v4 0x7F000001 9000
  let listener : SocketAddr := .v4 0x7F000001 9001
  [.connect connector listener [65535] true, .deliver 0, .accept listener 65535 true,
    .call 1 (.pollRead .plain 8), .deliver 0, .deliver 0, .resume 0, .call 0 (.pollWrite .plain [1]),
    .call 1 (.pollWrite .plain [2])]

theorem handshake_agreement_greeted :
    ∃ (final : Network) (connector acceptor : Party) (dialed accepted : UtpStream),
      Run.exec Network.step Network.init greetedActions = some final
      ∧ final.parties = [connector, acceptor]
      ∧ connector.returned = some dialed ∧ acceptor.returned = some accepted
      ∧ dialed.ackNumber = 65535
      ∧ ((final.firstData 1).map fun datagram => datagram.packet.seqNumber) = some 0
      ∧ ((final.synAck 1).map fun datagram => datagram.packet.seqNumber) = some dialed.ackNumber
      ∧ dialed.ackNumber + 1 = accepted.seqNumber
      ∧ (∀ datagram, final.firstData 1 = some datagram →
        datagram.packet.seqNumber = dialed.ackNumber + 1)
      ∧ accepted.ackNumber + 1 = dialed.seqNumber
      ∧ (∀ datagram, final.firstData 0 = some datagram →
        datagram.packet.seqNumber = accepted.ackNumber + 1)
      ∧ dialed.connectionIdSend = accepted.connectionIdRecv
      ∧ dialed.connectionIdRecv = accepted.connectionIdSend := by
  have hexec := (Option.some_get
    (by decide : (Run.exec Network.step Network.init greetedActions).isSome)).symm
  have hintact : ((Run.exec Network.step Network.init greetedActions).get (by decide)).Intact := by
    unfold Network.Intact
    decide
  have hall : Run.All Network.step Network.SynAckFirst Network.init greetedActions := by decide
  refine ⟨_, _, _, _, _, hexec, rfl, rfl, rfl, by decide, by decide, ?_⟩
  exact handshake_agreement hall hexec rfl rfl rfl rfl rfl rfl
    fun k party hparty hconnection _ =>
      (Network.routed_of_exec hexec hintact).eq_of_connection hparty rfl hconnection

/-- The same, with the ACK ahead of the SYN-ACK. -/
def overtakenActions : List NetworkAction :=
  let connector : SocketAddr := .v4 0x7F000001 9000
  let listener : SocketAddr := .v4 0x7F000001 9001
  [.connect connector listener [30] true, .deliver 0, .accept listener 100 true,
    .call 1 (.pollRead .plain 8), .deliver 1, .resume 0]

theorem handshake_overtaken :
    ∃ (final : Network) (connector acceptor : Party) (dialed accepted : UtpStream),
      Run.exec Network.step Network.init overtakenActions = some final
      ∧ final.parties = [connector, acceptor]
      ∧ connector.connection.role = .connector
      ∧ acceptor.connection = connector.connection.peer
      ∧ connector.returned = some dialed ∧ acceptor.returned = some accepted
      ∧ ((final.synAck 1).map fun datagram => datagram.packet.seqNumber) = some 100
      ∧ accepted.seqNumber = 101
      ∧ dialed.ackNumber = 101 := by
  have hexec := (Option.some_get
    (by decide : (Run.exec Network.step Network.init overtakenActions).isSome)).symm
  exact ⟨_, _, _, _, _, hexec, rfl, rfl, rfl, rfl, rfl, by decide, by decide, by decide⟩

end UtpSafety
