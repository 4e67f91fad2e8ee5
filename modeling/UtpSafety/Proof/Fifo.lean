import UtpSafety.Proof.InOrder

/-!
# A connection over UDP that keeps order is a queue

Over UDP that keeps the order of the datagrams between two sockets and neither loses nor copies them,
the data packets that have reached one end of a connection, followed by those that the other end has in
flight, are those that the other end has sent, in order and one for one, as long as the receiving end is
there (`Journal.Fifo`).
-/

namespace UtpSafety

/-- The data packets among the packets. -/
def dataOf (packets : List Packet) : List Packet :=
  packets.filter fun packet => packet.packetType = .data

theorem dataOf_append (first second : List Packet) :
    dataOf (first ++ second) = dataOf first ++ dataOf second := List.filter_append ..

theorem dataOf_cons_of_ne {packet : Packet} {packets : List Packet}
    (htype : packet.packetType ≠ .data) : dataOf (packet :: packets) = dataOf packets :=
  List.filter_cons_of_neg (by simpa using htype)

theorem dataOf_eq_nil {packets : List Packet}
    (hnone : ∀ packet ∈ packets, packet.packetType ≠ .data) : dataOf packets = [] := by
  apply List.filter_eq_nil_iff.mpr
  intro packet hpacket
  simpa using hnone packet hpacket

namespace Network

/-- The packets that a party has in flight. -/
def flight (network : Network) (index : Nat) : List Packet :=
  (network.inFlight.filter fun datagram => datagram.sender = index).map Datagram.packet

/-- No party is new, and none has come back. -/
def Outlives (network network' : Network) : Prop :=
  ∀ (index : Nat) (party' : Party), network'.parties[index]? = some party' →
    ∃ party, network.parties[index]? = some party ∧ party.connection = party'.connection
      ∧ (party'.state.alive = true → party.state.alive = true)

variable {network network' : Network}

theorem mem_flight {index : Nat} {packet : Packet} :
    packet ∈ network.flight index
      ↔ ∃ datagram ∈ network.inFlight, datagram.sender = index ∧ datagram.packet = packet := by
  simp [flight, and_assoc]

theorem flight_of_append {added : List Datagram}
    (hinFlight : network'.inFlight = network.inFlight ++ added) (index : Nat) :
    network'.flight index = network.flight index
      ++ (added.filter fun datagram => datagram.sender = index).map Datagram.packet := by
  rw [flight, hinFlight, List.filter_append, List.map_append]
  rfl

theorem flight_pass (network : Network) (source : SocketAddr) (sender : Nat) (site : Site)
    (sent refused : List (Packet × SocketAddr)) (index : Nat) :
    (network.pass source sender site sent refused).flight index
      = network.flight index ++ if sender = index then sent.map Prod.fst else [] := by
  rw [flight_of_append rfl]
  congr 1
  simp only [datagrams, List.filter_map, List.map_map]
  split_ifs with hsender <;> simp [Function.comp_def, hsender]

theorem outlives_of_eq (hparties : network'.parties = network.parties) :
    network.Outlives network' := by
  intro index party' hparty'
  exact ⟨party', hparties ▸ hparty', rfl, id⟩

theorem outlives_of_set {index : Nat} {party party' : Party}
    (hparty : network.parties[index]? = some party)
    (hparties : network'.parties = network.parties.set index party')
    (hconnection : party'.connection = party.connection)
    (halive : party'.state.alive = true → party.state.alive = true) :
    network.Outlives network' := by
  intro position other hother
  rcases get_of_set hparties hparty hother with ⟨rfl, rfl⟩ | ⟨-, hold⟩
  · exact ⟨party, hparty, hconnection.symm, halive⟩
  · exact ⟨other, hold, rfl, id⟩

/-- All datagrams of one party go the same way, so the one that leaves first leaves its flight at the
front. -/
theorem Keyed.flight_of_inOrder (hkeyed : network.Keyed) {position : Nat} {datagram : Datagram}
    (hdatagram : network.inFlight[position]? = some datagram)
    (hinOrder : network.InOrder (.deliver position))
    (hinFlight : network'.inFlight = network.inFlight.eraseIdx position) (index : Nat) :
    network.flight index
      = if datagram.sender = index then datagram.packet :: network'.flight index
        else network'.flight index := by
  have hahead : (network.inFlight.take position).filter
      (fun other => other.sender = datagram.sender) = [] := by
    rw [List.filter_eq_nil_iff]
    intro other hother hsender
    rw [decide_eq_true_eq] at hsender
    obtain ⟨party, hstamped⟩ := hkeyed.datagrams datagram (List.mem_of_getElem? hdatagram)
    obtain ⟨party', hstamped'⟩ := hkeyed.datagrams other (List.mem_of_mem_take hother)
    obtain rfl : party' = party := by
      have hsame := hstamped'.sender
      rw [hsender, hstamped.sender] at hsame
      exact (Option.some.inj hsame).symm
    exact hinOrder datagram hdatagram other hother (hstamped'.source.trans hstamped.source.symm)
      (hstamped'.destination.trans hstamped.destination.symm)
  have hbefore : network.flight index
      = ((network.inFlight.take position).filter (fun other => other.sender = index)).map
          Datagram.packet
        ++ ((datagram :: network.inFlight.drop (position + 1)).filter
          (fun other => other.sender = index)).map Datagram.packet := by
    rw [flight, ← List.map_append, ← List.filter_append, ← inFlight_eq_of_get hdatagram]
  rw [hbefore, flight, hinFlight, List.eraseIdx_eq_take_drop_succ, List.filter_append,
    List.map_append]
  by_cases hsender : datagram.sender = index
  · subst hsender
    simp [hahead]
  · simp [hsender]

end Network

namespace Journal

open Network

/-- The packets that have reached a party, be it before `connect` returned. -/
def arrivals (journal : Journal) (index : Nat) : List Packet :=
  match journal.histories index with
  | some solo => solo.arrived
  | none =>
      match journal.network.parties[index]? with
      | some ⟨_, _, .connecting inboundPackets⟩ => inboundPackets.queue
      | _ => []

def dataSent (journal : Journal) (index : Nat) : List Packet :=
  match journal.histories index with
  | some solo => solo.dataSent
  | none => []

/-- While the receiving end is there, a connection is a queue. A stream was only returned to a party
whose peer was there. -/
structure Fifo (journal : Journal) : Prop where
  met : ∀ party ∈ journal.network.parties, party.returned ≠ none →
    journal.network.Known party.connection.peer
  queue : ∀ {i j : Nat} {receiver sender : Party}, journal.network.parties[i]? = some receiver →
    journal.network.parties[j]? = some sender → sender.connection = receiver.connection.peer →
    receiver.state.alive = true →
    journal.dataSent j = dataOf (journal.arrivals i) ++ dataOf (journal.network.flight j)

variable {journal journal' : Journal} {action : NetworkAction} {index : Nat} {solo : Solo}

theorem arrivals_of_history (hhistory : journal.histories index = some solo) :
    journal.arrivals index = solo.arrived := by
  simp only [arrivals, hhistory]

theorem arrivals_of_connecting {connection : Connection} {returned : Option UtpStream}
    {inboundPackets : Mailbox} (hhistory : journal.histories index = none)
    (hparty : journal.network.parties[index]?
      = some ⟨connection, returned, .connecting inboundPackets⟩) :
    journal.arrivals index = inboundPackets.queue := by
  simp only [arrivals, hhistory, hparty]

theorem arrivals_congr (hhistory : journal'.histories index = journal.histories index)
    (hparty : journal'.network.parties[index]? = journal.network.parties[index]?) :
    journal'.arrivals index = journal.arrivals index := by
  simp only [arrivals, hhistory, hparty]

theorem dataSent_of_history (hhistory : journal.histories index = some solo) :
    journal.dataSent index = solo.dataSent := by
  simp only [dataSent, hhistory]

theorem dataSent_of_none (hhistory : journal.histories index = none) :
    journal.dataSent index = [] := by
  simp only [dataSent, hhistory]

theorem dataSent_congr (hhistory : journal'.histories index = journal.histories index) :
    journal'.dataSent index = journal.dataSent index := by
  simp only [dataSent, hhistory]

theorem reached_of_mem_arrivals {packet : Packet} (hpacket : packet ∈ journal.arrivals index) :
    journal.Reached index packet := by
  unfold arrivals at hpacket
  split at hpacket
  · rename_i solo hhistory
    exact Or.inr ⟨solo, hhistory, hpacket⟩
  · split at hpacket
    · rename_i inboundPackets hparty
      exact Or.inl ⟨_, inboundPackets, hparty, rfl, hpacket⟩
    · cases hpacket

/-! ### Steps after which the queues are as before -/

theorem Fifo.of_same (hfifo : journal.Fifo)
    (hmet : ∀ party ∈ journal'.network.parties, party.returned ≠ none →
      journal'.network.Known party.connection.peer)
    (houtlives : journal.network.Outlives journal'.network)
    (hsent : ∀ j, journal'.dataSent j = journal.dataSent j)
    (harrivals : ∀ i receiver, journal'.network.parties[i]? = some receiver →
      receiver.state.alive = true → dataOf (journal'.arrivals i) = dataOf (journal.arrivals i))
    (hflight : ∀ j, dataOf (journal'.network.flight j) = dataOf (journal.network.flight j)) :
    journal'.Fifo where
  met := hmet
  queue {i j _ _} hreceiver' hsender' hpeer halive := by
    obtain ⟨receiver, hreceiver, hconnection, hwas⟩ := houtlives i _ hreceiver'
    obtain ⟨sender, hsender, hconnection', -⟩ := houtlives j _ hsender'
    rw [hsent, harrivals i _ hreceiver' halive, hflight]
    refine hfifo.queue hreceiver hsender ?_ (hwas halive)
    rw [hconnection, hconnection', hpeer]

theorem met_of_keeps (hmet : ∀ party ∈ journal.network.parties, party.returned ≠ none →
      journal.network.Known party.connection.peer)
    (hkeeps : journal.network.Keeps journal'.network)
    (hparties : ∀ party' ∈ journal'.network.parties, party'.returned ≠ none →
      (∃ party ∈ journal.network.parties, party.connection = party'.connection
        ∧ party.returned ≠ none) ∨ journal'.network.Known party'.connection.peer) :
    ∀ party' ∈ journal'.network.parties, party'.returned ≠ none →
      journal'.network.Known party'.connection.peer := by
  intro party' hparty' hreturned
  rcases hparties party' hparty' hreturned with ⟨party, hparty, hsame, hbefore⟩ | hknown
  · rw [← hsame]
    exact (hmet party hparty hbefore).mono hkeeps
  · exact hknown

/-- The history of a party that sees nothing and is not returned a stream stays as it is. -/
theorem histories_of_nil (hstep : journal.step action = some journal')
    (hseen : journal.network.seen index action = [])
    (hreturned : journal'.network.returned index = journal.network.returned index) :
    journal'.histories index = journal.histories index := by
  rw [(step_eq_some.mp hstep).2]
  exact record_of_nil hseen hreturned

/-! ### Someone joins -/

theorem Followed.dataSent_of_returned (hfollowed : journal.Followed)
    (hreturned : journal.network.returned index = none) : journal.dataSent index = [] :=
  dataSent_of_none (hfollowed.absent index hreturned)

/-- Only a stream has data in flight. -/
theorem Traced.dataOf_flight (htraced : journal.Traced)
    (hhistory : journal.histories index = none) : dataOf (journal.network.flight index) = [] := by
  apply dataOf_eq_nil
  intro packet hpacket htype
  obtain ⟨datagram, hdatagram, rfl, rfl⟩ := mem_flight.mp hpacket
  have hsyn : datagram.packet.packetType ≠ .syn := by
    rw [htype]
    exact nofun
  rcases htraced.sent datagram hdatagram hsyn with ⟨solo, hsolo, -⟩ | ⟨stream, -, hsynAck⟩
  · rw [hhistory] at hsolo
    cases hsolo
  · rw [hsynAck] at htype
    cases htype

theorem Introduces.ne_data {party : Party} {packet : Packet} (hintroduces : party.Introduces packet) :
    packet.packetType ≠ .data := by
  rcases hintroduces with hsyn | ⟨stream, -, rfl⟩
  · rw [hsyn]
    exact nofun
  · exact nofun

theorem dataOf_flight_of_introduces {network network' : Network} {party : Party}
    {added : List Datagram} (hinFlight : network'.inFlight = network.inFlight ++ added)
    (hadded : ∀ datagram ∈ added, party.Introduces datagram.packet) (index : Nat) :
    dataOf (network'.flight index) = dataOf (network.flight index) := by
  have hnone : dataOf ((added.filter fun datagram => datagram.sender = index).map
      Datagram.packet) = [] := by
    apply dataOf_eq_nil
    intro packet hpacket
    obtain ⟨datagram, hdatagram, rfl⟩ := List.mem_map.mp hpacket
    exact Introduces.ne_data (hadded datagram (List.mem_filter.mp hdatagram).1)
  rw [flight_of_append hinFlight, dataOf_append, hnone, List.append_nil]

/-- A party has joined: the others and their histories are as before, and none was of its connection. -/
structure Joins (journal journal' : Journal) (party : Party) : Prop where
  new : journal'.network.parties[journal.network.parties.length]? = some party
  history : journal'.histories journal.network.parties.length = party.returned.map Solo.start
  absent : journal.histories journal.network.parties.length = none
  parties : ∀ index, index ≠ journal.network.parties.length →
    journal'.network.parties[index]? = journal.network.parties[index]?
  histories : ∀ index, index ≠ journal.network.parties.length →
    journal'.histories index = journal.histories index
  stranger : ∀ connection, journal.network.Known connection → connection ≠ party.connection

theorem Followed.joins (hfollowed : journal.Followed) (hdistinct' : journal'.network.Distinct)
    (hstep : journal.step action = some journal')
    (hseen : ∀ index, journal.network.seen index action = []) {party : Party}
    (hparties : journal'.network.parties = journal.network.parties ++ [party]) :
    Joins journal journal' party := by
  have hnew : journal'.network.parties[journal.network.parties.length]? = some party := by
    simp [hparties]
  have hbefore : journal.network.returned journal.network.parties.length = none := by
    simp [Network.returned]
  have hold : ∀ index, index ≠ journal.network.parties.length →
      journal'.network.parties[index]? = journal.network.parties[index]? := by
    intro index hne
    rw [hparties]
    rcases Nat.lt_or_gt_of_ne hne with hless | hmore
    · rw [List.getElem?_append_left hless]
    · rw [List.getElem?_eq_none (by simp; omega), List.getElem?_eq_none (by omega)]
  refine ⟨hnew, ?_, hfollowed.absent _ hbefore, hold, ?_, ?_⟩
  · rw [(step_eq_some.mp hstep).2, hfollowed.record_of_returned hbefore, returned_of_get hnew]
  · intro index hne
    apply histories_of_nil hstep (hseen index)
    simp only [Network.returned, hold index hne]
  · rintro connection ⟨k, other, hother, rfl⟩ hsame
    have hk := (List.getElem?_eq_some_iff.mp hother).1
    have hother' := (hold k (by omega)).trans hother
    have hindex := hdistinct'.eq_of_connection hother' hnew hsame
    omega

namespace Joins

variable {party : Party} (hjoins : Joins journal journal' party)
include hjoins

theorem dataSent_new : journal'.dataSent journal.network.parties.length = [] := by
  have hhistory := hjoins.history
  cases hreturned : party.returned with
  | none => exact dataSent_of_none (hhistory.trans (by rw [hreturned]; rfl))
  | some stream => exact dataSent_of_history (hhistory.trans (by rw [hreturned]; rfl))

theorem arrivals_new (hfresh : party.Fresh) (halive : party.state.alive = true) :
    journal'.arrivals journal.network.parties.length = [] := by
  have hhistory := hjoins.history
  have hnew := hjoins.new
  cases hfresh with
  | waiting connection => exact arrivals_of_connecting hhistory hnew
  | failed connection state hdead =>
      rw [hdead] at halive
      cases halive
  | accepted connection stream hmade hqueue =>
      rw [arrivals_of_history hhistory]
      exact hqueue

/-- The other end of a party that has just joined has no stream yet. -/
theorem history_of_peer (hfifo : journal.Fifo) (hfollowed : journal.Followed) {j : Nat}
    {sender : Party} (hsender : journal.network.parties[j]? = some sender)
    (hpeer : sender.connection = party.connection.peer) : journal.histories j = none := by
  apply hfollowed.absent
  rw [returned_of_get hsender]
  by_contra hreturned
  have hknown := hfifo.met sender (List.mem_of_getElem? hsender) hreturned
  refine hjoins.stranger _ hknown ?_
  rw [hpeer, Connection.peer_peer]

/-- Nothing has arrived from a party that has just joined. -/
theorem dataOf_arrivals (htraced : journal.Traced) {i : Nat} {receiver : Party}
    (hreceiver : journal.network.parties[i]? = some receiver)
    (hpeer : party.connection = receiver.connection.peer) : dataOf (journal.arrivals i) = [] := by
  apply dataOf_eq_nil
  intro packet hpacket _
  obtain ⟨k, other, hother, hconnection, -⟩ :=
    htraced.reached i receiver hreceiver packet (reached_of_mem_arrivals hpacket)
  exact hjoins.stranger _ ⟨k, other, hother, hconnection⟩ hpeer.symm

end Joins

theorem Fifo.joined (hfifo : journal.Fifo) (hfollowed : journal.Followed) (htraced : journal.Traced)
    (hdistinct' : journal'.network.Distinct) (hstep : journal.step action = some journal')
    (hseen : ∀ index, journal.network.seen index action = []) {party : Party} (hfresh : party.Fresh)
    (hmet : party.returned ≠ none → journal'.network.Known party.connection.peer)
    (hparties : journal'.network.parties = journal.network.parties ++ [party])
    {added : List Datagram} (hinFlight : journal'.network.inFlight = journal.network.inFlight ++ added)
    (hadded : ∀ datagram ∈ added, party.Introduces datagram.packet) : journal'.Fifo := by
  have hjoins := hfollowed.joins hdistinct' hstep hseen hparties
  refine ⟨?_, ?_⟩
  · refine met_of_keeps hfifo.met (keeps_of_append hparties) fun party' hparty' hreturned => ?_
    rw [hparties] at hparty'
    rcases List.mem_append.mp hparty' with hmem | hmem
    · exact Or.inl ⟨party', hmem, rfl, hreturned⟩
    · rw [List.mem_singleton.mp hmem] at hreturned ⊢
      exact Or.inr (hmet hreturned)
  · intro i j receiver sender hreceiver hsender hpeer halive
    rw [dataOf_flight_of_introduces hinFlight hadded]
    rcases get_of_append hparties hreceiver with ⟨rfl, rfl⟩ | ⟨hi, hreceiver'⟩
    · rw [hjoins.arrivals_new hfresh halive]
      rcases get_of_append hparties hsender with ⟨-, rfl⟩ | ⟨hj, hsender'⟩
      · have hroles := congrArg Connection.role hpeer
        cases hrole : sender.connection.role <;> simp [Connection.peer, hrole] at hroles
      · have hnone := hjoins.history_of_peer hfifo hfollowed hsender' hpeer
        rw [dataSent_congr (hjoins.histories j hj.symm), dataSent_of_none hnone,
          htraced.dataOf_flight hnone]
        rfl
    · rw [arrivals_congr (hjoins.histories i hi.symm) (hjoins.parties i hi.symm)]
      rcases get_of_append hparties hsender with ⟨rfl, rfl⟩ | ⟨hj, hsender'⟩
      · rw [hjoins.dataSent_new, hjoins.dataOf_arrivals htraced hreceiver' hpeer,
          htraced.dataOf_flight hjoins.absent]
        rfl
      · rw [dataSent_congr (hjoins.histories j hj.symm)]
        exact hfifo.queue hreceiver' hsender' hpeer halive

/-! ### What a user does -/

/-- The histories of the others, when one party has changed and nobody has seen it. -/
theorem others_of_set (hstep : journal.step action = some journal')
    (hseen : ∀ index, journal.network.seen index action = []) {position : Nat} {party' : Party}
    (hparties : journal'.network.parties = journal.network.parties.set position party')
    (hne : index ≠ position) :
    journal'.network.parties[index]? = journal.network.parties[index]?
      ∧ journal'.histories index = journal.histories index := by
  have hget : journal'.network.parties[index]? = journal.network.parties[index]? := by
    rw [hparties, List.getElem?_set_ne hne.symm]
  exact ⟨hget, histories_of_nil hstep (hseen index) (by simp only [Network.returned, hget])⟩

/-- `connect` returns: the SYN-ACK is taken out of the mailbox, the data behind it stays there. -/
theorem Fifo.returned (hfifo : journal.Fifo) (hfollowed : journal.Followed)
    (hkeyed' : journal'.network.Keyed) (hstep : journal.step action = some journal')
    (hseen : ∀ index, journal.network.seen index action = []) {position : Nat}
    {connection : Connection} {inboundPackets : Mailbox} {stream : UtpStream}
    (hparty : journal.network.parties[position]?
      = some ⟨connection, none, .connecting inboundPackets⟩)
    (hqueue : ∃ responsePacket : Packet, responsePacket.packetType = .state
      ∧ inboundPackets.queue = responsePacket :: stream.inboundPackets.queue)
    (hparties : journal'.network.parties
      = journal.network.parties.set position ⟨connection, some stream, .streaming stream⟩)
    (hflight : ∀ index, dataOf (journal'.network.flight index)
      = dataOf (journal.network.flight index)) : journal'.Fifo := by
  have hkeeps : journal.network.Keeps journal'.network := keeps_of_set hparties hparty rfl nofun
  have hnew : journal'.network.parties[position]?
      = some ⟨connection, some stream, .streaming stream⟩ := by
    rw [hparties, List.getElem?_set_self (List.getElem?_eq_some_iff.mp hparty).1]
  have hbefore := returned_of_get hparty
  have hhistory : journal'.histories position = some (Solo.start stream) := by
    rw [(step_eq_some.mp hstep).2, hfollowed.record_of_returned hbefore, returned_of_get hnew]
    rfl
  refine hfifo.of_same ?_ (outlives_of_set hparty hparties rfl fun _ => rfl) ?_ ?_ hflight
  · refine met_of_keeps hfifo.met hkeeps fun party' hparty' hreturned => ?_
    have hmem := hparty'
    rw [hparties] at hmem
    rcases List.mem_or_eq_of_mem_set hmem with hold | rfl
    · exact Or.inl ⟨party', hold, rfl, hreturned⟩
    · exact Or.inr ((hkeyed'.parties _ hparty').streaming stream rfl).2.2.2
  · intro j
    by_cases hj : j = position
    · subst hj
      rw [dataSent_of_history hhistory, hfollowed.dataSent_of_returned hbefore]
      rfl
    · exact dataSent_congr (others_of_set hstep hseen hparties hj).2
  · intro i _ _ _
    by_cases hi : i = position
    · subst hi
      obtain ⟨responsePacket, htype, hqueue⟩ := hqueue
      have hresponse : responsePacket.packetType ≠ .data := by
        rw [htype]
        exact nofun
      rw [arrivals_of_history hhistory,
        arrivals_of_connecting (hfollowed.absent i hbefore) hparty, hqueue,
        dataOf_cons_of_ne hresponse]
      rfl
    · obtain ⟨hget, hsame⟩ := others_of_set hstep hseen hparties hi
      rw [arrivals_congr hsame hget]

theorem Fifo.dropped (hfifo : journal.Fifo) (hstep : journal.step action = some journal')
    (hseen : ∀ index, journal.network.seen index action = []) {position : Nat} {party : Party}
    (hparty : journal.network.parties[position]? = some party)
    (hparties : journal'.network.parties
      = journal.network.parties.set position { party with state := .dropped })
    (hflight : ∀ index, dataOf (journal'.network.flight index)
      = dataOf (journal.network.flight index)) : journal'.Fifo := by
  have hkeeps : journal.network.Keeps journal'.network :=
    keeps_of_set hparties hparty rfl fun _ => id
  have hnew : journal'.network.parties[position]? = some { party with state := .dropped } := by
    rw [hparties, List.getElem?_set_self (List.getElem?_eq_some_iff.mp hparty).1]
  refine hfifo.of_same ?_ (outlives_of_set hparty hparties rfl nofun) ?_ ?_ hflight
  · refine met_of_keeps hfifo.met hkeeps fun party' hparty' hreturned => ?_
    rw [hparties] at hparty'
    rcases List.mem_or_eq_of_mem_set hparty' with hold | rfl
    · exact Or.inl ⟨party', hold, rfl, hreturned⟩
    · exact Or.inl ⟨party, List.mem_of_getElem? hparty, rfl, hreturned⟩
  · intro j
    by_cases hj : j = position
    · subst hj
      refine dataSent_congr (histories_of_nil hstep (hseen j) ?_)
      rw [returned_of_get hnew, returned_of_get hparty]
    · exact dataSent_congr (others_of_set hstep hseen hparties hj).2
  · intro i receiver hreceiver halive
    by_cases hi : i = position
    · subst hi
      rw [hnew, Option.some.injEq] at hreceiver
      subst hreceiver
      cases halive
    · obtain ⟨hget, hsame⟩ := others_of_set hstep hseen hparties hi
      rw [arrivals_congr hsame hget]

/-- Actions of users other than calls: nobody sees them. -/
theorem Fifo.acted (hfifo : journal.Fifo) (hfollowed : journal.Followed) (htraced : journal.Traced)
    (hkeyed' : journal'.network.Keyed) (hdistinct' : journal'.network.Distinct)
    (hstep : journal.step action = some journal') (hlocal : action.Local)
    (hseen : ∀ index, journal.network.seen index action = []) : journal'.Fifo := by
  have hnetwork := (step_eq_some.mp hstep).1
  obtain ⟨added, hinFlight, hsteps⟩ := step_local hlocal hnetwork
  have hacted : Acted (journal.network.withInFlight []) action
      (journal'.network.withInFlight added) :=
    acted_of_step ⟨hfollowed.fit.passed, List.nil_subset _⟩ ⟨nofun, hfollowed.healthy.parties⟩
      (hsteps [])
  have hkeeps : journal.network.Keeps journal'.network := hacted.keeps
  have hflight : added ⊆ [] → ∀ index,
      dataOf (journal'.network.flight index) = dataOf (journal.network.flight index) := by
    intro hnone index
    rw [flight_of_append hinFlight, List.subset_nil.mp hnone]
    simp
  have hsame : ∀ index, (journal.network.withInFlight []).seen index action = [] := by
    intro index
    rw [← hseen index]
    cases action with
    | deliver position => cases hlocal
    | _ => rfl
  cases hacted with
  | quiet _ hparties hnone =>
      change journal'.network.parties = journal.network.parties at hparties
      have hhistories : ∀ index, journal'.histories index = journal.histories index := fun index =>
        histories_of_nil hstep (hseen index) (by simp only [Network.returned, hparties])
      refine hfifo.of_same ?_ (outlives_of_eq hparties) (fun j => dataSent_congr (hhistories j))
        (fun i _ _ _ => ?_) (hflight hnone)
      · refine met_of_keeps hfifo.met hkeeps fun party' hparty' hreturned => ?_
        rw [hparties] at hparty'
        exact Or.inl ⟨party', hparty', rfl, hreturned⟩
      · rw [arrivals_congr (hhistories i) (by rw [hparties])]
  | joined party _ hfresh hparties hadded =>
      change journal'.network.parties = journal.network.parties ++ [party] at hparties
      refine hfifo.joined hfollowed htraced hdistinct' hstep hseen hfresh ?_ hparties hinFlight
        fun datagram hdatagram => ?_
      · intro hreturned
        cases hfresh with
        | waiting connection => exact absurd rfl hreturned
        | failed connection state hdead => exact absurd rfl hreturned
        | accepted connection stream hmade hqueue =>
            exact ((hkeyed'.parties _ (by simp [hparties])).streaming stream rfl).2.2.2
      · exact ((hadded datagram hdatagram).resolve_left List.not_mem_nil).2
  | returned position connection inboundPackets stream _ hparty hmade hqueue hparties hnone =>
      exact hfifo.returned hfollowed hkeyed' hstep hseen hparty hqueue hparties (hflight hnone)
  | received position party datagram hparty halive hdatagram htype hlookup hseen' hothers hparties
      hnone =>
      rw [hsame] at hseen'
      cases hseen'
  | called position connection returned stream stream' call sent refused hparty hperform hseen'
      hothers hparties hnew =>
      rw [hsame] at hseen'
      cases hseen'
  | dropped position party _ hparty hparties hnone =>
      exact hfifo.dropped hstep hseen hparty hparties (hflight hnone)

/-- What a call sends is in flight behind what was sent before. -/
theorem Fifo.called (hfifo : journal.Fifo) (hfollowed : journal.Followed) {position : Nat} {call : Call}
    (hstep : journal.step (.call position call) = some journal') : journal'.Fifo := by
  obtain ⟨hnetwork, hhistories⟩ := step_eq_some.mp hstep
  simp only [Network.step] at hnetwork
  split at hnetwork
  · rename_i connection returned stream hparty
    have hstream := (hfollowed.healthy.parties _ (List.mem_of_getElem? hparty)).streaming stream rfl
    obtain ⟨stream', sent, refused, hperform, -⟩ := hstream.2.perform call
    obtain ⟨solo, hhistory, rfl⟩ := hfollowed.exists_history hparty
    obtain ⟨solo', hsolo, -, hsent, harrived⟩ := Solo.step_call_of_perform hperform
    simp only [hperform, Option.some.injEq] at hnetwork
    have hparties : journal'.network.parties
        = journal.network.parties.set position ⟨connection, returned, .streaming stream'⟩ := by
      rw [← hnetwork]
      rfl
    have hkeeps : journal.network.Keeps journal'.network :=
      keeps_of_set hparties hparty rfl fun _ => id
    have hseen : journal.network.seen position (.call position call) = [call.action] := if_pos rfl
    have hhistory' : journal'.histories position = some solo' := by
      rw [hhistories, record_of_singleton hhistory hseen, hsolo]
    have hothers : ∀ index, index ≠ position →
        journal'.network.parties[index]? = journal.network.parties[index]?
          ∧ journal'.histories index = journal.histories index := by
      intro index hne
      have hget : journal'.network.parties[index]? = journal.network.parties[index]? := by
        rw [hparties, List.getElem?_set_ne hne.symm]
      exact ⟨hget, histories_of_nil hstep (if_neg hne.symm) (by simp only [Network.returned, hget])⟩
    have harrivals : ∀ index, journal'.arrivals index = journal.arrivals index := by
      intro index
      by_cases hindex : index = position
      · subst hindex
        rw [arrivals_of_history hhistory', arrivals_of_history hhistory, harrived]
      · exact arrivals_congr (hothers index hindex).2 (hothers index hindex).1
    have houtlives := outlives_of_set hparty hparties rfl fun _ => rfl
    refine ⟨?_, ?_⟩
    · refine met_of_keeps hfifo.met hkeeps fun party' hparty' hreturned => ?_
      rw [hparties] at hparty'
      rcases List.mem_or_eq_of_mem_set hparty' with hold | rfl
      · exact Or.inl ⟨party', hold, rfl, hreturned⟩
      · exact Or.inl ⟨_, List.mem_of_getElem? hparty, rfl, hreturned⟩
    · intro i j receiver sender hreceiver hsender hpeer halive
      obtain ⟨receiver', hreceiver', hconnection, hwas⟩ := houtlives i receiver hreceiver
      obtain ⟨sender', hsender', hconnection', -⟩ := houtlives j sender hsender
      have hqueue := hfifo.queue hreceiver' hsender'
        (by rw [hconnection, hconnection', hpeer]) (hwas halive)
      have hflight : journal'.network.flight j
          = journal.network.flight j ++ if position = j then sent.map Prod.fst else [] := by
        rw [← hnetwork]
        exact flight_pass _ _ _ _ _ _ _
      rw [harrivals, hflight, dataOf_append, ← List.append_assoc, ← hqueue]
      by_cases hj : position = j
      · subst hj
        rw [dataSent_of_history hhistory', dataSent_of_history hhistory, if_pos rfl, Solo.dataSent,
          hsent, List.map_append, List.filter_append]
        rfl
      · rw [if_neg hj, dataSent_congr (hothers j (Ne.symm hj)).2]
        exact (List.append_nil _).symm
  · cases hnetwork

/-! ### What arrives -/

/-- A delivery that nobody sees. -/
theorem Fifo.unseen (hfifo : journal.Fifo) {position : Nat}
    (hstep : journal.step (.deliver position) = some journal')
    (hseen : ∀ index, journal.network.seen index (.deliver position) = [])
    (hparties : journal'.network.parties = journal.network.parties)
    (hflight : ∀ {i j : Nat} {receiver sender : Party},
      journal.network.parties[i]? = some receiver → journal.network.parties[j]? = some sender →
      sender.connection = receiver.connection.peer → receiver.state.alive = true →
      dataOf (journal'.network.flight j) = dataOf (journal.network.flight j)) : journal'.Fifo := by
  have hhistories : ∀ index, journal'.histories index = journal.histories index := fun index =>
    histories_of_nil hstep (hseen index) (by simp only [Network.returned, hparties])
  refine ⟨?_, ?_⟩
  · refine met_of_keeps hfifo.met (keeps_of_eq hparties) fun party' hparty' hreturned => ?_
    rw [hparties] at hparty'
    exact Or.inl ⟨party', hparty', rfl, hreturned⟩
  · intro i j receiver sender hreceiver hsender hpeer halive
    rw [arrivals_congr (hhistories i) (by rw [hparties]), dataSent_congr (hhistories j)]
    rw [hparties] at hreceiver hsender
    rw [hflight hreceiver hsender hpeer halive]
    exact hfifo.queue hreceiver hsender hpeer halive

/-- What is put into a mailbox has arrived; nothing else is new. -/
theorem Followed.arrivals_received (hfollowed : journal.Followed) {position : Nat}
    (hstep : journal.step (.deliver position) = some journal') {channel : Nat} {party : Party}
    {packet : Packet} (hpacket : packet.Handled)
    (hparty : journal.network.parties[channel]? = some party) (halive : party.state.alive = true)
    (hseen : journal.network.seen channel (.deliver position) = [.arrive packet])
    (hparties : journal'.network.parties = journal.network.parties.set channel
      { party with state := party.state.receive packet }) :
    journal'.arrivals channel = journal.arrivals channel ++ [packet]
      ∧ journal'.dataSent channel = journal.dataSent channel := by
  have hhealthy := hfollowed.healthy.parties party (List.mem_of_getElem? hparty)
  have hnew : journal'.network.parties[channel]?
      = some { party with state := party.state.receive packet } := by
    rw [hparties, List.getElem?_set_self (List.getElem?_eq_some_iff.mp hparty).1]
  obtain ⟨connection, returned, state⟩ := party
  cases state with
  | connecting inboundPackets =>
      obtain rfl : returned = none := (hhealthy.connecting inboundPackets rfl).1
      have hbefore := returned_of_get hparty
      have hnone := hfollowed.absent channel hbefore
      have hnone' : journal'.histories channel = none := by
        rw [(step_eq_some.mp hstep).2, hfollowed.record_of_returned hbefore, returned_of_get hnew]
        rfl
      rw [arrivals_of_connecting hnone hparty, arrivals_of_connecting hnone' hnew,
        dataSent_of_none hnone, dataSent_of_none hnone']
      exact ⟨rfl, rfl⟩
  | streaming stream =>
      obtain ⟨solo, hhistory, hstream⟩ := hfollowed.exists_history hparty
      have harrive := (step_arrive_of_receive hhealthy hpacket rfl hstream).1
      have hhistory' : journal'.histories channel = some (solo.received packet) := by
        rw [(step_eq_some.mp hstep).2, record_of_singleton hhistory hseen, harrive]
      rw [arrivals_of_history hhistory, arrivals_of_history hhistory', dataSent_of_history hhistory,
        dataSent_of_history hhistory']
      exact ⟨rfl, rfl⟩
  | unanswered => cases halive
  | dropped => cases halive

/-- The packet leaves the flight of its sender at the front and joins the arrivals at the end. -/
theorem Fifo.received (hfifo : journal.Fifo) (hfollowed : journal.Followed)
    (hdistinct : journal.network.Distinct) {position : Nat}
    (hstep : journal.step (.deliver position) = some journal') {datagram : Datagram} {source : Party}
    (hsource : journal.network.parties[datagram.sender]? = some source) {channel : Nat} {party : Party}
    (hparty : journal.network.parties[channel]? = some party) (halive : party.state.alive = true)
    (hconnection : party.connection = source.connection.peer) (hhandled : datagram.packet.Handled)
    (hseen : ∀ index, journal.network.seen index (.deliver position)
      = if channel = index then [.arrive datagram.packet] else [])
    (hparties : journal'.network.parties = journal.network.parties.set channel
      { party with state := party.state.receive datagram.packet })
    (hflight : ∀ index, journal.network.flight index
      = if datagram.sender = index then datagram.packet :: journal'.network.flight index
        else journal'.network.flight index) : journal'.Fifo := by
  obtain ⟨harrivals, hsent⟩ := hfollowed.arrivals_received hstep hhandled hparty halive
    ((hseen channel).trans (if_pos rfl)) hparties
  have hothers : ∀ index, index ≠ channel →
      journal'.network.parties[index]? = journal.network.parties[index]?
        ∧ journal'.histories index = journal.histories index := by
    intro index hne
    have hget : journal'.network.parties[index]? = journal.network.parties[index]? := by
      rw [hparties, List.getElem?_set_ne hne.symm]
    exact ⟨hget, histories_of_nil hstep ((hseen index).trans (if_neg hne.symm))
      (by simp only [Network.returned, hget])⟩
  have hsent' : ∀ j, journal'.dataSent j = journal.dataSent j := by
    intro j
    by_cases hj : j = channel
    · subst hj
      exact hsent
    · exact dataSent_congr (hothers j hj).2
  have houtlives := outlives_of_set hparty hparties rfl fun _ => halive
  refine ⟨?_, ?_⟩
  · refine met_of_keeps hfifo.met (keeps_of_set hparties hparty rfl fun _ => id)
      fun party' hparty' hreturned => ?_
    rw [hparties] at hparty'
    rcases List.mem_or_eq_of_mem_set hparty' with hold | rfl
    · exact Or.inl ⟨party', hold, rfl, hreturned⟩
    · exact Or.inl ⟨party, List.mem_of_getElem? hparty, rfl, hreturned⟩
  · intro i j receiver' sender' hreceiver' hsender' hpeer' halive'
    obtain ⟨receiver, hreceiver, hsame, hwas⟩ := houtlives i receiver' hreceiver'
    obtain ⟨sender, hsender, hsame', -⟩ := houtlives j sender' hsender'
    have hpeer : sender.connection = receiver.connection.peer := by rw [hsame, hsame', hpeer']
    rw [hsent' j, hfifo.queue hreceiver hsender hpeer (hwas halive')]
    by_cases hi : i = channel
    · subst hi
      obtain rfl : receiver = party := Option.some.inj (hreceiver.symm.trans hparty)
      have hfrom : datagram.sender = j := by
        apply hdistinct.eq_of_connection hsource hsender
        rw [hpeer, hconnection, Connection.peer_peer]
      rw [harrivals, hflight j, if_pos hfrom, dataOf_append, List.append_assoc]
      exact congrArg _ (dataOf_append [datagram.packet] _)
    · have hfrom : datagram.sender ≠ j := by
        rintro rfl
        obtain rfl : sender = source := Option.some.inj (hsender.symm.trans hsource)
        refine hi (hdistinct.eq_of_connection hreceiver hparty ?_)
        rw [hconnection, hpeer, Connection.peer_peer]
      rw [arrivals_congr (hothers i hi).2 (hothers i hi).1, hflight j, if_neg hfrom]

theorem Fifo.delivered (hfifo : journal.Fifo) (hfollowed : journal.Followed)
    (htraced : journal.Traced) (hlisted : journal.network.Listed)
    (hdistinct : journal.network.Distinct) {position : Nat}
    (hinOrder : journal.network.InOrder (.deliver position))
    (hstep : journal.step (.deliver position) = some journal') : journal'.Fifo := by
  obtain ⟨network', histories'⟩ := journal'
  have hnetwork : journal.network.step (.deliver position) = some network' :=
    (step_eq_some.mp hstep).1
  obtain ⟨datagram, hdatagram, hrouted, hdelivered⟩ :=
    routed_and_delivered_of_step hfollowed.fit hnetwork
  obtain ⟨source, hstamped⟩ := htraced.keyed.datagrams datagram (List.mem_of_getElem? hdatagram)
  have hinFlight : network'.inFlight = journal.network.inFlight.eraseIdx position := by
    cases hdelivered <;> rfl
  have hflight := htraced.keyed.flight_of_inOrder hdatagram hinOrder hinFlight
  have hsender : ∀ {i j : Nat} {receiver sender : Party},
      journal.network.parties[i]? = some receiver → journal.network.parties[j]? = some sender →
      sender.connection = receiver.connection.peer → datagram.sender = j →
      receiver.connection = source.connection.peer := by
    rintro i j receiver sender hreceiver hsender hpeer rfl
    obtain rfl : sender = source := Option.some.inj (hsender.symm.trans hstamped.sender)
    rw [hpeer, Connection.peer_peer]
  cases hdelivered with
  | syn htype =>
      refine hfifo.unseen hstep (fun index => ?_) rfl fun {_ j _ _} _ _ _ _ => ?_
      · simp [seen, hrouted, UtpSocket.routePacket, htype]
      · rw [hflight j]
        split_ifs
        · exact (dataOf_cons_of_ne (by simp [htype])).symm
        · rfl
  | unknown htype hlookup =>
      refine hfifo.unseen hstep (fun index => ?_) rfl fun {i j receiver sender} hreceiver hj hpeer
        halive => ?_
      · simp [seen, hrouted, UtpSocket.routePacket, htype, hlookup]
      · rw [hflight j, if_neg]
        intro hfrom
        obtain ⟨k, peer, hother, hconnection, hdead⟩ := hstamped.dead_peer hlisted htype hlookup
        obtain rfl : k = i := hdistinct.eq_of_connection hother hreceiver
          (hconnection.trans (hsender hreceiver hj hpeer hfrom).symm)
        obtain rfl : peer = receiver := Option.some.inj (hother.symm.trans hreceiver)
        rw [hdead] at halive
        cases halive
  | stale channel htype hlookup hdead =>
      refine hfifo.unseen hstep (fun index => ?_) rfl fun {i j receiver sender} hreceiver hj hpeer
        halive => ?_
      · simp [seen, hrouted, UtpSocket.routePacket, htype, hlookup, hdead]
      · rw [hflight j, if_neg]
        intro hfrom
        obtain ⟨peer, hother, hconnection⟩ :=
          htraced.keyed.lookup_peer hdistinct hstamped htype hlookup
        obtain rfl : channel = i := hdistinct.eq_of_connection hother hreceiver
          (hconnection.trans (hsender hreceiver hj hpeer hfrom).symm)
        simp [alive, hreceiver, halive] at hdead
  | arrived channel party htype hlookup hparty halive =>
      have hhandled := hfollowed.healthy.datagrams datagram (List.mem_of_getElem? hdatagram) htype
      have hchannel : journal.network.alive channel = true := by
        simpa [alive, hparty] using halive
      have hseen : ∀ index, journal.network.seen index (.deliver position)
          = if channel = index then [.arrive datagram.packet] else [] := by
        intro index
        simp [seen, hrouted, UtpSocket.routePacket, htype, hlookup, hchannel]
      obtain ⟨peer, hpeer, hconnection⟩ :=
        htraced.keyed.lookup_peer hdistinct hstamped htype hlookup
      obtain rfl : peer = party := Option.some.inj (hpeer.symm.trans hparty)
      exact hfifo.received hfollowed hdistinct hstep hstamped.sender hparty halive hconnection
        hhandled hseen rfl hflight

/-! ### Whole runs -/

theorem Fifo.step (hfifo : journal.Fifo) (hfollowed : journal.Followed) (htraced : journal.Traced)
    (hlisted : journal.network.Listed) (hdistinct : journal.network.Distinct)
    (hdistinct' : journal'.network.Distinct) (hinOrder : journal.network.InOrder action)
    (hstep : journal.step action = some journal') : journal'.Fifo := by
  have hkeyed' := (htraced.step hfollowed hdistinct hstep).keyed
  cases action with
  | deliver position => exact hfifo.delivered hfollowed htraced hlisted hdistinct hinOrder hstep
  | call position call => exact hfifo.called hfollowed hstep
  | duplicate position => cases hinOrder
  | lose position => cases hinOrder
  | connect localAddr remoteAddr draws queues =>
      exact hfifo.acted hfollowed htraced hkeyed' hdistinct' hstep trivial fun _ => rfl
  | resume position =>
      exact hfifo.acted hfollowed htraced hkeyed' hdistinct' hstep trivial fun _ => rfl
  | accept localAddr seqNumber queues =>
      exact hfifo.acted hfollowed htraced hkeyed' hdistinct' hstep trivial fun _ => rfl
  | drop position =>
      exact hfifo.acted hfollowed htraced hkeyed' hdistinct' hstep trivial fun _ => rfl

theorem fifo_init : init.Fifo where
  met := by simp [init, Network.init]
  queue := by simp [init, Network.init]

/-- **Over UDP that keeps order every connection is a queue.** -/
theorem fifo_of_exec {actions : List NetworkAction}
    (hexec : Run.exec Journal.step init actions = some journal)
    (hall : Run.All Journal.step (fun journal => journal.network.InOrder) init actions)
    (hdistinct : journal.network.Distinct) : journal.Fifo := by
  have hinvariant := Run.exec_invariant_of_all
    (motive := fun state : Journal => state.Followed ∧ (state.network.Distinct →
      state.Traced ∧ state.network.Prompt ∧ state.Fifo))
    ?_ ⟨followed_init, fun _ => ⟨traced_init, prompt_init, fifo_init⟩⟩ hall hexec
  · exact (hinvariant.2 hdistinct).2.2
  · rintro state action state' ⟨hfollowed, hbefore⟩ hinOrder hstep
    refine ⟨hfollowed.step hstep, fun hdistinct' => ?_⟩
    have hnetwork := (step_eq_some.mp hstep).1
    have hkeeps := (acted_of_step hfollowed.fit hfollowed.healthy hnetwork).keeps
    have hdistinct := hdistinct'.of_keeps hkeeps
    obtain ⟨htraced, hprompt, hfifo⟩ := hbefore hdistinct
    exact ⟨htraced.step hfollowed hdistinct hstep,
      hprompt.step htraced.keyed hfollowed.fit hdistinct hdistinct' hinOrder hnetwork,
      hfifo.step hfollowed htraced hprompt.listed hdistinct hdistinct' hinOrder hstep⟩

end Journal

end UtpSafety
