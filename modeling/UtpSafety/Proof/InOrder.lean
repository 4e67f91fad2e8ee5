import UtpSafety.Proof.EndToEnd
import UtpSafety.Proof.Tasks

/-!
# UDP that keeps order

What the handshake needs of the network it has when UDP keeps the order of the datagrams between two
sockets and neither loses nor copies them. An acceptor passes its SYN-ACK before anything else, so the
SYN-ACK is ahead of all that its stream sends until it arrives, and it arrives at the `connect` that is
waiting for it (`Network.Prompt`). Then the two ends of every connection agree, and the bytes that come
out at one end are those that went in at the other.
-/

namespace UtpSafety

namespace PartyState

theorem unmet_receive (packet : Packet) (state : PartyState) :
    (state.receive packet).unmet = false := by
  cases state <;> simp [receive, unmet]

theorem unmet_of_dead {state : PartyState} (hdead : state.alive = false) : state.unmet = false := by
  cases state with
  | connecting inboundPackets => cases hdead
  | streaming stream => rfl
  | unanswered => rfl
  | dropped => rfl

theorem connecting_of_unmet {state : PartyState} (hunmet : state.unmet = true) :
    ∃ inboundPackets, state = .connecting inboundPackets := by
  cases state with
  | connecting inboundPackets => exact ⟨inboundPackets, rfl⟩
  | streaming stream => cases hunmet
  | unanswered => cases hunmet
  | dropped => cases hunmet

end PartyState

namespace Network

/-- The SYN-ACK of this party is among the datagrams. -/
def Announced (datagrams : List Datagram) (index : Nat) : Prop :=
  ∃ synAck ∈ datagrams, synAck.sender = index ∧ synAck.site = .accept

/-- No pending `connect` is waiting for the first packet of this party. -/
def Heard (network : Network) (index : Nat) : Prop :=
  ∃ party, network.parties[index]? = some party ∧ (party.connection.role = .connector
    ∨ ∃ (i : Nat) (peer : Party), network.parties[i]? = some peer
      ∧ peer.connection = party.connection.peer ∧ peer.state.unmet = false)

/-- Every party that is there is in the routing table of its socket. -/
def Listed (network : Network) : Prop :=
  ∀ (index : Nat) (party : Party), network.parties[index]? = some party → party.state.alive = true →
    (network.sockets party.connection.localAddr).routingTable.lookup party.connection.key = some index

/-- The invariant: as long as a SYN-ACK is in flight, it is ahead of what its stream has sent. -/
structure Prompt (network : Network) : Prop where
  listed : network.Listed
  syns : ∀ datagram ∈ network.inFlight, datagram.packet.packetType = .syn →
    datagram.site = .connect
  flight : ∀ before datagram after, network.inFlight = before ++ datagram :: after →
    datagram.site = .stream → Announced before datagram.sender ∨ network.Heard datagram.sender
  streams : ∀ (index : Nat) (party : Party) (stream : UtpStream),
    network.parties[index]? = some party → party.state = .streaming stream →
      Announced network.inFlight index ∨ network.Heard index

/-- Parties stay the end of the connection that they are, and none goes back to waiting for its first
packet. -/
def Advances (network network' : Network) : Prop :=
  ∀ (index : Nat) (party : Party), network.parties[index]? = some party →
    ∃ party', network'.parties[index]? = some party' ∧ party'.connection = party.connection
      ∧ (party.state.unmet = false → party'.state.unmet = false)

variable {network network' : Network} {action : NetworkAction}

theorem Announced.mono {datagrams datagrams' : List Datagram} (hsubset : datagrams ⊆ datagrams')
    {index : Nat} (hannounced : Announced datagrams index) : Announced datagrams' index := by
  obtain ⟨synAck, hmem, hsynAck⟩ := hannounced
  exact ⟨synAck, hsubset hmem, hsynAck⟩

theorem Heard.mono (hadvances : network.Advances network') {index : Nat}
    (hheard : network.Heard index) : network'.Heard index := by
  obtain ⟨party, hparty, hheard⟩ := hheard
  obtain ⟨party', hparty', hconnection, -⟩ := hadvances index party hparty
  refine ⟨party', hparty', ?_⟩
  rw [hconnection]
  refine hheard.imp id ?_
  rintro ⟨i, peer, hpeer, hpeerConnection, hmet⟩
  obtain ⟨peer', hpeer', hconnection', hunmet⟩ := hadvances i peer hpeer
  exact ⟨i, peer', hpeer', hconnection'.trans hpeerConnection, hunmet hmet⟩

theorem advances_of_append {party : Party} (hparties : network'.parties = network.parties ++ [party]) :
    network.Advances network' := by
  intro index other hother
  apply exists_related_of_append hparties ?_ hother
  exact fun _ => ⟨rfl, id⟩

theorem advances_of_set {index : Nat} {party party' : Party}
    (hparty : network.parties[index]? = some party)
    (hparties : network'.parties = network.parties.set index party')
    (hconnection : party'.connection = party.connection)
    (hunmet : party.state.unmet = false → party'.state.unmet = false) :
    network.Advances network' := by
  intro position other hother
  apply exists_related_of_set hparties hparty ?_ ?_ hother
  · exact ⟨hconnection, hunmet⟩
  · exact fun _ => ⟨rfl, id⟩

theorem advances_of_eq (hparties : network'.parties = network.parties) :
    network.Advances network' := by
  intro index party hparty
  exact ⟨party, hparties ▸ hparty, rfl, id⟩

/-! ### The routing tables -/

theorem Listed.joined (hlisted : network.Listed) {party : Party}
    (hparties : network'.parties = network.parties ++ [party])
    (hlookup : ∀ addr key, (network'.sockets addr).routingTable.lookup key
      = if addr = party.connection.localAddr ∧ key = party.connection.key
        then some network.parties.length else (network.sockets addr).routingTable.lookup key)
    (hdistinct : network'.Distinct) : network'.Listed := by
  intro index other hother halive
  have hnew : network'.parties[network.parties.length]? = some party := by simp [hparties]
  rw [hlookup]
  split_ifs with hsame
  · rw [hdistinct.index_eq hother hnew hsame.1 hsame.2]
  · rcases get_of_append hparties hother with ⟨rfl, rfl⟩ | ⟨-, hold⟩
    · exact absurd ⟨rfl, rfl⟩ hsame
    · exact hlisted index other hold halive

theorem Listed.changed (hlisted : network.Listed) {index : Nat} {party party' : Party}
    (hparty : network.parties[index]? = some party)
    (hparties : network'.parties = network.parties.set index party')
    (hsockets : network'.sockets = network.sockets)
    (hconnection : party'.connection = party.connection)
    (halive : party'.state.alive = true → party.state.alive = true) : network'.Listed := by
  intro position other hother hother'
  rw [hsockets]
  rcases get_of_set hparties hparty hother with ⟨rfl, rfl⟩ | ⟨-, hold⟩
  · rw [hconnection]
    exact hlisted position party hparty (halive hother')
  · exact hlisted position other hold hother'

theorem Listed.congr (hlisted : network.Listed) (hparties : network'.parties = network.parties)
    (htable : ∀ addr, (network'.sockets addr).routingTable = (network.sockets addr).routingTable) :
    network'.Listed := by
  intro index party hparty halive
  rw [hparties] at hparty
  rw [htable]
  exact hlisted index party hparty halive

/-- Only the entries of parties that are gone are removed. -/
theorem Listed.erased (hlisted : network.Listed) {localAddr : SocketAddr} {key : UInt16 × SocketAddr}
    {channel : Nat} (hlookup : (network.sockets localAddr).routingTable.lookup key = some channel)
    (hdead : network.alive channel = false) {inFlight : List Datagram} :
    ((network.withInFlight inFlight).withSocket localAddr
      { network.sockets localAddr with
        routingTable := (network.sockets localAddr).routingTable.erase key }).Listed := by
  intro index party hparty halive
  have hold := hlisted index party hparty halive
  by_cases hlocal : party.connection.localAddr = localAddr
  · by_cases hkey : party.connection.key = key
    · rw [hlocal, hkey, hlookup, Option.some.injEq] at hold
      subst hold
      change network.parties[channel]? = some party at hparty
      simp [alive, hparty, halive] at hdead
    · simp only [withSocket, hlocal, Function.update_self, Finmap.lookup_erase_ne hkey]
      rw [← hlocal]
      exact hold
  · simp only [withSocket, Function.update_of_ne hlocal]
    exact hold

/-! ### What a user does -/

theorem Prompt.extended (hprompt : network.Prompt) (hadvances : network.Advances network')
    (hlisted : network'.Listed) {added : List Datagram}
    (hinFlight : network'.inFlight = network.inFlight ++ added)
    (hsyns : ∀ datagram ∈ added, datagram.packet.packetType = .syn → datagram.site = .connect)
    (hadded : ∀ datagram ∈ added, datagram.site = .stream →
      Announced network.inFlight datagram.sender ∨ network'.Heard datagram.sender)
    (hstreams : ∀ (index : Nat) (party : Party) (stream : UtpStream),
      network'.parties[index]? = some party → party.state = .streaming stream →
        (∃ party stream, network.parties[index]? = some party ∧ party.state = .streaming stream)
          ∨ Announced added index ∨ network'.Heard index) : network'.Prompt where
  listed := hlisted
  syns datagram hdatagram := by
    rw [hinFlight] at hdatagram
    rcases List.mem_append.mp hdatagram with hold | hnew
    · exact hprompt.syns datagram hold
    · exact hsyns datagram hnew
  flight before datagram after hsplit hsite := by
    rw [hinFlight] at hsplit
    rcases List.append_eq_append_iff.mp hsplit with ⟨middle, rfl, htail⟩ | ⟨middle, hfront, htail⟩
    · have hmem : datagram ∈ added := by rw [htail]; simp
      exact (hadded datagram hmem hsite).imp (Announced.mono (List.subset_append_left _ _)) id
    · cases middle with
      | nil =>
          have hmem : datagram ∈ added := by
            rw [List.nil_append] at htail
            rw [← htail]
            exact List.mem_cons_self
          rw [List.append_nil] at hfront
          rw [← hfront]
          exact hadded datagram hmem hsite
      | cons first middle =>
          obtain ⟨rfl, -⟩ := List.cons.inj htail
          exact (hprompt.flight before datagram middle hfront hsite).imp id (Heard.mono hadvances)
  streams index party stream hparty hstate := by
    rw [hinFlight]
    rcases hstreams index party stream hparty hstate with ⟨party', stream', hold, hstate'⟩ | hnew
    · exact (hprompt.streams index party' stream' hold hstate').imp
        (Announced.mono (List.subset_append_left _ _)) (Heard.mono hadvances)
    · exact hnew.imp (Announced.mono (List.subset_append_right _ _)) id

/-- Whoever is new among the streams. -/
theorem streaming_of_append {party other : Party} {index : Nat} {stream : UtpStream}
    (hparties : network'.parties = network.parties ++ [party])
    (hother : network'.parties[index]? = some other) (hstate : other.state = .streaming stream) :
    (∃ party stream, network.parties[index]? = some party ∧ party.state = .streaming stream)
      ∨ index = network.parties.length ∧ other = party := by
  rcases get_of_append hparties hother with hnew | ⟨-, hold⟩
  · exact Or.inr hnew
  · exact Or.inl ⟨other, stream, hold, hstate⟩

theorem streaming_of_set {party party' other : Party} {position index : Nat} {stream : UtpStream}
    (hparties : network'.parties = network.parties.set position party')
    (hparty : network.parties[position]? = some party)
    (hother : network'.parties[index]? = some other) (hstate : other.state = .streaming stream) :
    (∃ party stream, network.parties[index]? = some party ∧ party.state = .streaming stream)
      ∨ index = position ∧ other = party' := by
  rcases get_of_set hparties hparty hother with hnew | ⟨-, hold⟩
  · exact Or.inr hnew
  · exact Or.inl ⟨other, stream, hold, hstate⟩

theorem site_of_pass {source : SocketAddr} {sender : Nat} {site : Site}
    {sent refused : List (Packet × SocketAddr)} {datagram : Datagram} (hnone : network.inFlight = [])
    (hdatagram : datagram ∈ (network.pass source sender site sent refused).inFlight) :
    datagram.site = site ∧ datagram.sender = sender := by
  rcases mem_inFlight_pass.mp hdatagram with hold | ⟨item, -, rfl⟩
  · rw [hnone] at hold
    cases hold
  · exact ⟨rfl, rfl⟩

/-- Someone joins: what is sent then is no stream packet, and with a stream comes its SYN-ACK. -/
theorem Prompt.joined (hprompt : network.Prompt) {party : Party}
    (hparties : network'.parties = network.parties ++ [party]) (hlisted : network'.Listed)
    {added : List Datagram} (hinFlight : network'.inFlight = network.inFlight ++ added)
    (hsyns : ∀ datagram ∈ added, datagram.packet.packetType = .syn → datagram.site = .connect)
    (hsites : ∀ datagram ∈ added, datagram.site ≠ .stream)
    (hstream : ∀ stream, party.state = .streaming stream →
      Announced added network.parties.length) : network'.Prompt := by
  refine hprompt.extended (advances_of_append hparties) hlisted hinFlight hsyns ?_ ?_
  · intro datagram hdatagram hsite
    exact absurd hsite (hsites datagram hdatagram)
  · intro index other stream hother hstate
    rcases streaming_of_append hparties hother hstate with hold | ⟨rfl, rfl⟩
    · exact Or.inl hold
    · exact Or.inr (Or.inl (hstream stream hstate))

/-- Nothing is sent. -/
theorem Prompt.silent (hprompt : network.Prompt) (hadvances : network.Advances network')
    (hlisted : network'.Listed) (hinFlight : network'.inFlight = network.inFlight ++ [])
    (hstreams : ∀ (index : Nat) (party : Party) (stream : UtpStream),
      network'.parties[index]? = some party → party.state = .streaming stream →
        (∃ party stream, network.parties[index]? = some party ∧ party.state = .streaming stream)
          ∨ network'.Heard index) : network'.Prompt := by
  refine hprompt.extended hadvances hlisted hinFlight ?_ ?_ ?_
  · intro datagram hdatagram
    cases hdatagram
  · intro datagram hdatagram
    cases hdatagram
  · intro index party stream hparty hstate
    exact (hstreams index party stream hparty hstate).imp id Or.inr

theorem Prompt.changed (hprompt : network.Prompt) {index : Nat} {party party' : Party}
    (hparty : network.parties[index]? = some party)
    (hparties : network'.parties = network.parties.set index party')
    (hsockets : network'.sockets = network.sockets)
    (hconnection : party'.connection = party.connection)
    (halive : party'.state.alive = true → party.state.alive = true)
    (hunmet : party.state.unmet = false → party'.state.unmet = false)
    (hinFlight : network'.inFlight = network.inFlight ++ [])
    (hstream : ∀ stream, party'.state = .streaming stream →
      network'.parties[index]? = some party' → network'.Heard index) : network'.Prompt := by
  refine hprompt.silent (advances_of_set hparty hparties hconnection hunmet)
    (hprompt.listed.changed hparty hparties hsockets hconnection halive) hinFlight ?_
  intro position other stream hother hstate
  rcases streaming_of_set hparties hparty hother hstate with hold | ⟨rfl, rfl⟩
  · exact Or.inl hold
  · exact Or.inr (hstream stream hstate hother)

theorem Prompt.unchanged (hprompt : network.Prompt) (hparties : network'.parties = network.parties)
    (htable : ∀ addr, (network'.sockets addr).routingTable = (network.sockets addr).routingTable)
    (hinFlight : network'.inFlight = network.inFlight ++ []) : network'.Prompt := by
  refine hprompt.silent (advances_of_eq hparties) (hprompt.listed.congr hparties htable) hinFlight ?_
  intro index party stream hparty hstate
  rw [hparties] at hparty
  exact Or.inl ⟨party, stream, hparty, hstate⟩

/-- A call on a stream, whose SYN-ACK is ahead of what it sends now as of what it has sent before. -/
theorem Prompt.called (hprompt : network.Prompt) {index : Nat} {connection : Connection}
    {returned : Option UtpStream} {stream stream' : UtpStream} {source : SocketAddr}
    {sent refused : List (Packet × SocketAddr)}
    (hparty : network.parties[index]? = some ⟨connection, returned, .streaming stream⟩)
    (hperformed : UtpStream.Performed stream stream' (sent ++ refused))
    (hparties : network'.parties
      = network.parties.set index ⟨connection, returned, .streaming stream'⟩)
    (hsockets : network'.sockets = network.sockets)
    (hinFlight : network'.inFlight = network.inFlight
      ++ ((network.withInFlight []).pass source index .stream sent refused).inFlight) :
    network'.Prompt := by
  have hadvances := advances_of_set hparty hparties rfl fun _ => rfl
  refine hprompt.extended hadvances
    (hprompt.listed.changed hparty hparties hsockets rfl fun _ => rfl) hinFlight ?_ ?_ ?_
  · intro datagram hdatagram htype
    rcases mem_inFlight_pass.mp hdatagram with hold | ⟨item, hitem, rfl⟩
    · cases hold
    · exact absurd htype (hperformed.sends item (List.mem_append_left _ hitem)).2.1.ne_syn
  · intro datagram hdatagram _
    rw [(site_of_pass rfl hdatagram).2]
    exact (hprompt.streams index _ stream hparty rfl).imp id (Heard.mono hadvances)
  · intro position other stream'' hother hstate
    rcases streaming_of_set hparties hparty hother hstate with hold | ⟨rfl, rfl⟩
    · exact Or.inl hold
    · exact Or.inl ⟨_, stream, hparty, rfl⟩

theorem Prompt.acted (hprompt : network.Prompt) (hkeyed : network.Keyed)
    (hdistinct : network'.Distinct) (hstep : network.step action = some network')
    (hlocal : action.Local) : network'.Prompt := by
  obtain ⟨added, hinFlight, hsteps⟩ := step_local hlocal hstep
  have hmoved := Network.moved_of_step (fun _ hmem => absurd hmem List.not_mem_nil) (hsteps [])
  rw [List.nil_append] at hmoved
  generalize hresult : network'.withInFlight added = result at hmoved
  obtain rfl : added = result.inFlight := congrArg Network.inFlight hresult
  have hparties : network'.parties = result.parties := by rw [← hresult]; rfl
  have hsockets : network'.sockets = result.sockets := by rw [← hresult]; rfl
  clear hresult hsteps
  cases hmoved with
  | connect localAddr remoteAddr connectionId hvacant =>
      refine hprompt.joined hparties
        (hprompt.listed.joined hparties (lookup_joined hsockets) hdistinct) hinFlight ?_ ?_ nofun
      · exact fun datagram hdatagram _ => (site_of_pass rfl hdatagram).1
      · intro datagram hdatagram
        rw [(site_of_pass rfl hdatagram).1]
        exact nofun
  | connectFailed localAddr remoteAddr connectionId =>
      exact hprompt.joined hparties
        (hprompt.listed.joined hparties (lookup_joined hsockets) hdistinct) hinFlight nofun nofun nofun
  | resumed index connection returned inboundPackets responsePacket rest hparty hqueue stream
      hstream =>
      have hrole := ((hkeyed.parties _ (List.mem_of_getElem? hparty)).waiting _ rfl).1
      exact hprompt.changed hparty hparties hsockets rfl (fun _ => rfl) (fun _ => rfl) hinFlight
        fun _ _ hnew => ⟨_, hnew, Or.inl hrole⟩
  | gone index party hparty =>
      exact hprompt.changed hparty hparties hsockets rfl nofun (fun _ => rfl) hinFlight nofun
  | accept localAddr syn remoteAddr rest seqNumber hsyn hvacant stream hstream =>
      rw [(network.withInFlight []).register_withSyns
        ⟨.acceptor, localAddr, remoteAddr, syn.connectionId⟩ rest] at hsockets
      refine hprompt.joined hparties
        (hprompt.listed.joined hparties (lookup_joined hsockets) hdistinct) hinFlight ?_ ?_ ?_
      · intro datagram hdatagram htype
        rcases mem_inFlight_pass.mp hdatagram with hold | ⟨item, hitem, rfl⟩
        · cases hold
        · rw [List.mem_singleton.mp hitem] at htype
          cases htype
      · intro datagram hdatagram
        rw [(site_of_pass rfl hdatagram).1]
        exact nofun
      · exact fun _ _ => ⟨_, List.mem_cons_self, rfl, rfl⟩
  | unanswered localAddr syn remoteAddr rest seqNumber hsyn hvacant =>
      rw [(network.withInFlight []).register_withSyns
        ⟨.acceptor, localAddr, remoteAddr, syn.connectionId⟩ rest] at hsockets
      exact hprompt.joined hparties
        (hprompt.listed.joined hparties (lookup_joined hsockets) hdistinct) hinFlight nofun nofun nofun
  | discarded localAddr syn rest hsyn =>
      refine hprompt.unchanged hparties ?_ hinFlight
      intro addr
      rw [hsockets]
      exact withSyns_routingTable _ _ _ _
  | called index connection returned stream stream' sent refused hparty hperformed =>
      exact hprompt.called hparty hperformed hparties hsockets hinFlight
  | synArrived datagram inFlight hdatagram hinFlight htype => cases hdatagram
  | arrived index datagram inFlight channel haction hdatagram hinFlight htype hlookup halive =>
      cases hdatagram
  | stale datagram inFlight channel hdatagram hinFlight htype hlookup hdead => cases hdatagram
  | wire inFlight hnone =>
      obtain rfl : inFlight = [] := List.subset_nil.mp hnone
      refine hprompt.unchanged hparties ?_ hinFlight
      intro addr
      rw [hsockets]
      rfl

/-! ### What arrives -/

theorem inFlight_eq_of_get {index : Nat} {datagram : Datagram}
    (hdatagram : network.inFlight[index]? = some datagram) :
    network.inFlight
      = network.inFlight.take index ++ datagram :: network.inFlight.drop (index + 1) := by
  obtain ⟨hindex, hget⟩ := List.getElem?_eq_some_iff.mp hdatagram
  rw [← hget, ← List.drop_eq_getElem_cons hindex, List.take_append_drop]

theorem announced_of_removed {before after : List Datagram} {datagram : Datagram} {index : Nat}
    (hannounced : Announced (before ++ datagram :: after) index) :
    Announced (before ++ after) index ∨ datagram.sender = index ∧ datagram.site = .accept := by
  obtain ⟨synAck, hmem, hsender, hsite⟩ := hannounced
  rcases List.mem_append.mp hmem with hbefore | hrest
  · exact Or.inl ⟨synAck, List.mem_append_left _ hbefore, hsender, hsite⟩
  · rcases List.mem_cons.mp hrest with rfl | hafter
    · exact Or.inr ⟨hsender, hsite⟩
    · exact Or.inl ⟨synAck, List.mem_append_right _ hafter, hsender, hsite⟩

/-- A datagram has left; if it was a SYN-ACK, it has arrived. -/
theorem Prompt.removed (hprompt : network.Prompt) (hadvances : network.Advances network')
    (hlisted : network'.Listed) {before after : List Datagram} {datagram : Datagram}
    (hold : network.inFlight = before ++ datagram :: after)
    (hnew : network'.inFlight = before ++ after)
    (hheard : datagram.site = .accept → network'.Heard datagram.sender)
    (hstreams : ∀ (index : Nat) (party : Party) (stream : UtpStream),
      network'.parties[index]? = some party → party.state = .streaming stream →
        ∃ party stream, network.parties[index]? = some party ∧ party.state = .streaming stream) :
    network'.Prompt where
  listed := hlisted
  syns other hother := by
    apply hprompt.syns other
    rw [hnew] at hother
    rw [hold]
    rcases List.mem_append.mp hother with hbefore | hafter
    · exact List.mem_append_left _ hbefore
    · exact List.mem_append_right _ (List.mem_cons_of_mem _ hafter)
  flight front other back hsplit hsite := by
    rw [hnew] at hsplit
    rcases List.append_eq_append_iff.mp hsplit with ⟨middle, rfl, rfl⟩ | ⟨middle, rfl, htail⟩
    · have hwas : network.inFlight = (before ++ datagram :: middle) ++ other :: back := by simp [hold]
      rcases hprompt.flight _ other back hwas hsite with hannounced | hheard'
      · rcases announced_of_removed hannounced with hstill | ⟨hsender, hsynAck⟩
        · exact Or.inl hstill
        · exact Or.inr (hsender ▸ hheard hsynAck)
      · exact Or.inr (hheard'.mono hadvances)
    · cases middle with
      | nil =>
          rw [List.nil_append] at htail
          have hwas : network.inFlight = (front ++ [datagram]) ++ other :: back := by
            simp [hold, htail]
          rcases hprompt.flight _ other back hwas hsite with hannounced | hheard'
          · rcases announced_of_removed hannounced with hstill | ⟨hsender, hsynAck⟩
            · rw [List.append_nil] at hstill
              exact Or.inl hstill
            · exact Or.inr (hsender ▸ hheard hsynAck)
          · exact Or.inr (hheard'.mono hadvances)
      | cons first middle =>
          obtain ⟨rfl, -⟩ := List.cons.inj htail
          have hwas : network.inFlight = front ++ other :: (middle ++ datagram :: after) := by
            simp [hold]
          exact (hprompt.flight front other _ hwas hsite).imp id (Heard.mono hadvances)
  streams index party stream hparty hstate := by
    obtain ⟨party', stream', hparty', hstate'⟩ := hstreams index party stream hparty hstate
    rcases hprompt.streams index party' stream' hparty' hstate' with hannounced | hheard'
    · rw [hold] at hannounced
      rw [hnew]
      rcases announced_of_removed hannounced with hstill | ⟨hsender, hsynAck⟩
      · exact Or.inl hstill
      · exact Or.inr (hsender ▸ hheard hsynAck)
    · exact Or.inr (hheard'.mono hadvances)

/-- The other end of the connection of a datagram that leads nowhere is gone. -/
theorem Stamped.dead_peer {datagram : Datagram} {sender : Party}
    (hstamped : network.Stamped datagram sender) (hlisted : network.Listed)
    (htype : datagram.packet.packetType ≠ .syn)
    (hlookup : (network.sockets datagram.destination).routingTable.lookup
      (datagram.packet.connectionId, datagram.source) = none) :
    ∃ (i : Nat) (peer : Party), network.parties[i]? = some peer
      ∧ peer.connection = sender.connection.peer ∧ peer.state.alive = false := by
  rcases hstamped.content with ⟨hsyn, -⟩ | ⟨-, hid, i, peer, hpeer, hconnection⟩
  · exact absurd hsyn htype
  · refine ⟨i, peer, hpeer, hconnection, ?_⟩
    cases halive : peer.state.alive with
    | false => rfl
    | true =>
        have hentry := hlisted i peer hpeer halive
        rw [hconnection, Connection.key_peer, ← hid, ← hstamped.source] at hentry
        change (network.sockets sender.connection.remoteAddr).routingTable.lookup _ = _ at hentry
        rw [← hstamped.destination, hlookup] at hentry
        cases hentry

theorem Prompt.delivered (hprompt : network.Prompt) (hkeyed : network.Keyed) (hfit : network.AllFit)
    (hdistinct : network.Distinct) {index : Nat}
    (hstep : network.step (.deliver index) = some network') : network'.Prompt := by
  obtain ⟨datagram, hdatagram, -, hdelivered⟩ := routed_and_delivered_of_step hfit hstep
  have hmem := List.mem_of_getElem? hdatagram
  have hold := inFlight_eq_of_get hdatagram
  have hnew : network.inFlight.eraseIdx index
      = network.inFlight.take index ++ network.inFlight.drop (index + 1) :=
    List.eraseIdx_eq_take_drop_succ _ _
  obtain ⟨sender, hstamped⟩ := hkeyed.datagrams datagram hmem
  cases hdelivered with
  | syn htype =>
      refine hprompt.removed (advances_of_eq rfl) (hprompt.listed.congr rfl ?_) hold hnew ?_
        fun _ party stream hparty hstate => ⟨party, stream, hparty, hstate⟩
      · exact fun addr => withSyns_routingTable _ _ _ _
      · intro hsite
        rw [hprompt.syns datagram hmem htype] at hsite
        cases hsite
  | unknown htype hlookup =>
      refine hprompt.removed (advances_of_eq rfl) (hprompt.listed.congr rfl fun _ => rfl) hold hnew
        ?_ fun _ party stream hparty hstate => ⟨party, stream, hparty, hstate⟩
      intro _
      obtain ⟨i, peer, hpeer, hconnection, hdead⟩ :=
        hstamped.dead_peer hprompt.listed htype hlookup
      exact ⟨sender, hstamped.sender, Or.inr ⟨i, peer, hpeer, hconnection,
        PartyState.unmet_of_dead hdead⟩⟩
  | stale channel htype hlookup hdead =>
      obtain ⟨peer, hpeer, hconnection⟩ := hkeyed.lookup_peer hdistinct hstamped htype hlookup
      refine hprompt.removed (advances_of_eq rfl) (hprompt.listed.erased hlookup hdead) hold hnew ?_
        fun _ party stream hparty hstate => ⟨party, stream, hparty, hstate⟩
      intro _
      refine ⟨sender, hstamped.sender, Or.inr ⟨channel, peer, hpeer, hconnection,
        PartyState.unmet_of_dead ?_⟩⟩
      simpa [alive, hpeer] using hdead
  | arrived channel peer htype hlookup hpeer halive =>
      have hconnection : peer.connection = sender.connection.peer := by
        obtain ⟨party, hparty, hconnection⟩ := hkeyed.lookup_peer hdistinct hstamped htype hlookup
        obtain rfl : party = peer := Option.some.inj (hparty.symm.trans hpeer)
        exact hconnection
      have hadvances := @advances_of_set network ((network.withInFlight
        (network.inFlight.eraseIdx index)).withParty channel
          { peer with state := peer.state.receive datagram.packet }) _ _ _ hpeer rfl rfl
        fun _ => PartyState.unmet_receive _ _
      refine hprompt.removed hadvances (hprompt.listed.changed hpeer rfl rfl rfl fun _ => halive) hold
        hnew ?_ ?_
      · intro _
        obtain ⟨sender', hsender', hsame, -⟩ := hadvances _ sender hstamped.sender
        refine ⟨sender', hsender', Or.inr ⟨channel,
          { peer with state := peer.state.receive datagram.packet }, ?_, ?_,
          PartyState.unmet_receive _ _⟩⟩
        · exact List.getElem?_set_self (List.getElem?_eq_some_iff.mp hpeer).1
        · rw [hsame]
          exact hconnection
      · intro position party stream hparty hstate
        rcases streaming_of_set rfl hpeer hparty hstate with hsame | ⟨rfl, rfl⟩
        · exact hsame
        · cases hstate' : peer.state with
          | streaming stream' => exact ⟨peer, stream', hpeer, hstate'⟩
          | connecting inboundPackets =>
              rw [hstate'] at hstate
              cases hstate
          | unanswered =>
              rw [hstate'] at hstate
              cases hstate
          | dropped =>
              rw [hstate'] at hstate
              cases hstate

/-! ### Whole runs -/

theorem Prompt.step (hprompt : network.Prompt) (hkeyed : network.Keyed) (hfit : network.AllFit)
    (hdistinct : network.Distinct) (hdistinct' : network'.Distinct) (hinOrder : network.InOrder action)
    (hstep : network.step action = some network') : network'.Prompt := by
  cases action with
  | deliver index => exact hprompt.delivered hkeyed hfit hdistinct hstep
  | duplicate index => cases hinOrder
  | lose index => cases hinOrder
  | connect localAddr remoteAddr draws queues =>
      exact hprompt.acted hkeyed hdistinct' hstep trivial
  | resume index => exact hprompt.acted hkeyed hdistinct' hstep trivial
  | accept localAddr seqNumber queues => exact hprompt.acted hkeyed hdistinct' hstep trivial
  | call index call => exact hprompt.acted hkeyed hdistinct' hstep trivial
  | drop index => exact hprompt.acted hkeyed hdistinct' hstep trivial

/-- The first packet that a pending `connect` receives is no packet of a stream. -/
theorem Prompt.synAckFirst (hprompt : network.Prompt) (hkeyed : network.Keyed)
    (hdistinct : network.Distinct) (hinOrder : network.InOrder action) :
    network.SynAckFirst action := by
  cases action with
  | deliver index =>
      rintro datagram hdatagram ⟨channel, hchannel, peer, hpeer, hunmet⟩ hsite
      have hmem := List.mem_of_getElem? hdatagram
      obtain ⟨sender, hstamped⟩ := hkeyed.datagrams datagram hmem
      rcases hprompt.flight _ datagram _ (inFlight_eq_of_get hdatagram) hsite with ⟨synAck, hahead, hsender, -⟩ | hheard
      · obtain ⟨sender', hstamped'⟩ := hkeyed.datagrams synAck (List.mem_of_mem_take hahead)
        obtain rfl : sender' = sender := by
          have hsame := hstamped'.sender
          rw [hsender, hstamped.sender] at hsame
          exact (Option.some.inj hsame).symm
        exact hinOrder datagram hdatagram synAck hahead
          (hstamped'.source.trans hstamped.source.symm)
          (hstamped'.destination.trans hstamped.destination.symm)
      · obtain ⟨party, hparty, hheard⟩ := hheard
        obtain rfl : party = sender := Option.some.inj (hparty.symm.trans hstamped.sender)
        have htype : datagram.packet.packetType ≠ .syn := by
          intro hsyn
          rw [hprompt.syns datagram hmem hsyn] at hsite
          cases hsite
        obtain ⟨peer', hpeer', hconnection⟩ := hkeyed.lookup_peer hdistinct hstamped htype hchannel
        obtain rfl : peer = peer' := Option.some.inj (hpeer.symm.trans hpeer')
        obtain ⟨inboundPackets, hstate⟩ := PartyState.connecting_of_unmet hunmet
        have hrole := ((hkeyed.parties peer (List.mem_of_getElem? hpeer')).waiting _ hstate).1
        rcases hheard with hconnector | ⟨i, other, hother, hsame, hmet⟩
        · rw [hconnection, Connection.peer, hconnector] at hrole
          cases hrole
        · obtain rfl : i = channel :=
            hdistinct.eq_of_connection hother hpeer' (hsame.trans hconnection.symm)
          obtain rfl : other = peer := Option.some.inj (hother.symm.trans hpeer')
          rw [hmet] at hunmet
          cases hunmet
  | duplicate index => trivial
  | lose index => trivial
  | connect localAddr remoteAddr draws queues => trivial
  | resume index => trivial
  | accept localAddr seqNumber queues => trivial
  | call index call => trivial
  | drop index => trivial

theorem prompt_init : init.Prompt where
  listed := by simp [Listed, init]
  syns := by simp [init]
  flight := by simp [init]
  streams := by simp [init]

theorem synAckFirst_of_inOrder {actions : List NetworkAction} {final : Network}
    (hfit : network.AllFit) (hhealthy : network.Healthy)
    (hinvariant : network.Distinct → network.Keyed ∧ network.Prompt)
    (hall : Run.All Network.step InOrder network actions)
    (hexec : Run.exec Network.step network actions = some final) (hdistinct : final.Distinct) :
    network.Distinct ∧ Run.All Network.step SynAckFirst network actions := by
  induction actions generalizing network with
  | nil =>
      simp only [Run.exec, Option.some.injEq] at hexec
      subst hexec
      exact ⟨hdistinct, trivial⟩
  | cons action actions ih =>
      obtain ⟨network', hstep, hrest⟩ := Run.exec_cons.mp hexec
      have hmoved := Network.moved_of_step hfit.inFlight_fits hstep
      have hacted := acted_of_step hfit hhealthy hstep
      have hinvariant' : network'.Distinct → network'.Keyed ∧ network'.Prompt := by
        intro hdistinct'
        have hbefore := hdistinct'.of_keeps hacted.keeps
        obtain ⟨hkeyed, hprompt⟩ := hinvariant hbefore
        exact ⟨hkeyed.moved hhealthy hbefore hmoved,
          hprompt.step hkeyed hfit hbefore hdistinct' hall.1 hstep⟩
      obtain ⟨hdistinct', hfirst⟩ := ih (hfit.moved hmoved) (hhealthy.acted hacted) hinvariant'
        (hall.2 network' hstep) hrest
      have hbefore := hdistinct'.of_keeps hacted.keeps
      obtain ⟨hkeyed, hprompt⟩ := hinvariant hbefore
      refine ⟨hbefore, hprompt.synAckFirst hkeyed hbefore hall.1, fun other hother => ?_⟩
      obtain rfl : network' = other := Option.some.inj (hstep.symm.trans hother)
      exact hfirst

end Network

/-- A run of the tasks over UDP that keeps order is a run of a network in which no packet of a stream
overtakes a SYN-ACK. -/
theorem System.exists_synAckFirst {actions : List SystemAction} {final : System}
    (hall : Run.All System.step System.InOrder System.init actions)
    (hexec : Run.exec System.step System.init actions = some final)
    (hdistinct : final.journal.network.Distinct) :
    ∃ networkActions journal, Run.exec Journal.step Journal.init networkActions = some journal
      ∧ Run.All Network.step Network.SynAckFirst Network.init networkActions
      ∧ final.journal = journal.withInFlight [] := by
  obtain ⟨networkActions, journal, hjournal, hpermitted, hrelated⟩ :=
    @System.matched_of_exec True (fun _ _ => True) _ _
      (Run.all_mono (fun _ _ hinOrder => ⟨fun _ => hinOrder, fun _ _ => trivial⟩) hall) hexec
  have hinOrder : Run.All Network.step Network.InOrder Network.init networkActions :=
    (@Journal.all_network Journal.init _ Network.InOrder).mp
      (Run.all_mono (fun _ _ hpermitted => hpermitted.inOrder trivial) hpermitted)
  have hnetwork : Run.exec Network.step Network.init networkActions = some journal.network :=
    (@Journal.exec_network Journal.init _ _).mpr ⟨journal.histories, hjournal⟩
  have hdistinct' : journal.network.Distinct := by
    rw [hrelated.same] at hdistinct
    exact hdistinct
  obtain ⟨-, hfirst⟩ := Network.synAckFirst_of_inOrder Network.allFit_init Network.healthy_init
    (fun _ => ⟨Network.keyed_init, Network.prompt_init⟩) hinOrder hnetwork hdistinct'
  exact ⟨networkActions, journal, hjournal, hfirst, hrelated.same⟩

/-- **Order is enough.** Whatever the users and the tasks do, if UDP keeps the order of the datagrams
between two sockets and neither loses nor copies any, no socket goes away with packets that it has not
sent, and no key is registered twice, then the two ends of every connection agree on their numbers, and
while no number has been used twice, what one end has handed out and holds is the concatenation of the
payloads of the first `k` data packets of the other end, for some `k`. -/
theorem agreement_and_delivery_of_inOrder {actions : List SystemAction} {final : System}
    (hall : Run.All System.step System.InOrder System.init actions)
    (hexec : Run.exec System.step System.init actions = some final)
    (hdistinct : final.journal.network.Distinct) {i j : Nat} {inbound outbound : Solo}
    (hpeers : final.journal.Peers i j inbound outbound) :
    (∀ first second, final.journal.network.returned i = some first →
        final.journal.network.returned j = some second → first.ackNumber + 1 = second.seqNumber)
      ∧ (outbound.dataSent.length ≤ 65535 → ∃ k ≤ outbound.dataSent.length,
        inbound.delivered ++ inbound.stream.receivedData
          = ((outbound.dataSent.take k).map Packet.data).flatten) := by
  obtain ⟨networkActions, journal, hjournal, hfirst, hsame⟩ :=
    System.exists_synAckFirst hall hexec hdistinct
  rw [hsame] at hdistinct hpeers ⊢
  have hpeers' : journal.Peers i j inbound outbound :=
    ⟨hpeers.connection, hpeers.inbound, hpeers.outbound⟩
  have hnetwork : Run.exec Network.step Network.init networkActions = some journal.network :=
    (@Journal.exec_network Journal.init _ _).mpr ⟨journal.histories, hjournal⟩
  refine ⟨fun first second hinbound houtbound => ?_, fun hbound => ?_⟩
  · obtain ⟨receiver, sender, hreceiver, hsender, hpeer⟩ := hpeers'.connection
    refine (Network.greeted_of_exec hfirst hnetwork).expects hdistinct hreceiver hsender hpeer ?_ ?_
    · rw [← Journal.returned_of_get hreceiver]
      exact hinbound
    · rw [← Journal.returned_of_get hsender]
      exact houtbound
  · obtain ⟨returned, soloActions, run, payloads, parts, -, -, -, hconveyed⟩ :=
      hpeers'.conveyed hjournal hfirst hdistinct
    obtain ⟨k, hk, hbytes, -⟩ := hconveyed.exists_take hbound
    exact ⟨k, hk, hbytes⟩

/-- A handshake, two writes whose packets go off in one poll and are read in one poll, and a read of a
part of them. -/
def orderlyActions : List SystemAction :=
  let connector : SocketAddr := .v4 0x7F000001 9000
  let listener : SocketAddr := .v4 0x7F000001 9001
  let send := fun localAddr =>
    SystemAction.pollSender localAddr (fun _ => false) (fun _ _ _ => .sent) 8
  let receive := fun localAddr remoteAddr (packets : List Packet) =>
    SystemAction.pollReceiver localAddr
      ((packets.map fun packet => .datagram packet.intoBytes remoteAddr) ++ [.notReady])
  let data := fun seqNumber data =>
    { carrying seqNumber data with connectionId := 0, ackNumber := 41 }
  [.connect connector listener [65535], send connector,
    receive listener connector [UtpStream.synPacket 65535], .accept listener 41, send listener,
    receive connector listener [UtpListener.synAckPacket 65535 41 1], .resume 0,
    .call 0 (.pollWrite .plain [1, 2]), .call 0 (.pollWrite .plain [3]), send connector,
    receive listener connector [data 2 [1, 2], data 3 [3]], .call 1 (.pollRead .plain 2)]

def orderly : System := (Run.exec System.step System.init orderlyActions).get (by decide)

theorem agreement_and_delivery_of_inOrder_orderly :
    Run.exec System.step System.init orderlyActions = some orderly
      ∧ Run.All System.step System.InOrder System.init orderlyActions
      ∧ ∃ inbound outbound, orderly.journal.Peers 1 0 inbound outbound
        ∧ (inbound.delivered, inbound.stream.receivedData) = ([1, 2], [3])
        ∧ (∀ first second, orderly.journal.network.returned 1 = some first →
          orderly.journal.network.returned 0 = some second →
            first.ackNumber + 1 = second.seqNumber)
        ∧ (outbound.dataSent.length ≤ 65535 → ∃ k ≤ outbound.dataSent.length,
          inbound.delivered ++ inbound.stream.receivedData
            = ((outbound.dataSent.take k).map Packet.data).flatten) := by
  have hexec : Run.exec System.step System.init orderlyActions = some orderly :=
    (Option.some_get _).symm
  have hall : Run.All System.step System.InOrder System.init orderlyActions := by decide
  have hinbound : orderly.journal.histories 1
      = some ((orderly.journal.histories 1).get (by decide)) := (Option.some_get _).symm
  have houtbound : orderly.journal.histories 0
      = some ((orderly.journal.histories 0).get (by decide)) := (Option.some_get _).symm
  have hpeers := Journal.Peers.mk ⟨_, _, rfl, rfl, by decide⟩ hinbound houtbound
  exact ⟨hexec, hall, _, _, hpeers, by decide, agreement_and_delivery_of_inOrder hall hexec (by decide) hpeers⟩

end UtpSafety
