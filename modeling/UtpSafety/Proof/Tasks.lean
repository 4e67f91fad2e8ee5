import UtpSafety.Lib.Simulation
import UtpSafety.Tasks
import UtpSafety.Proof.Dispatch
import UtpSafety.Proof.Trace

/-!
# The tasks refine the network

Every step of a `System` is matched by steps of a `Network`. A user's action is the same action there: it
does not look at what is in flight, and adds to it what here goes into the outgoing channel. A poll of the
send task is nothing, unless the task shuts down with packets that it has not sent, which are then lost.
A poll of the receive task is one delivery for each datagram that it reads (`Related.step`).

What is in flight in the network is spread over the wire, the buffers and the channels here
(`Carries`). If UDP keeps order, so does the network, and that is carried along.
-/

namespace UtpSafety

/-- The action is one of a user; the others are those of the network between the sockets. -/
def NetworkAction.Local : NetworkAction → Prop
  | .deliver _ | .duplicate _ | .lose _ => False
  | _ => True

/-- The action makes a party that belongs to the socket at this address. -/
def NetworkAction.OpensAt (localAddr : SocketAddr) : NetworkAction → Prop
  | .connect addr _ _ _ | .accept addr _ _ => addr = localAddr
  | _ => False

theorem PartyState.alive_receive (packet : Packet) (state : PartyState) :
    (state.receive packet).alive = state.alive := by
  cases state <;> rfl

namespace Network

/-- A party that belongs to the socket at this address is there. -/
def Serves (network : Network) (localAddr : SocketAddr) : Prop :=
  ∃ party ∈ network.parties, party.connection.localAddr = localAddr ∧ party.state.alive = true

/-- Every socket and every stream knows where it is. -/
structure Seated (network : Network) : Prop where
  sockets : ∀ addr, (network.sockets addr).localAddr = addr
  streams : ∀ party ∈ network.parties, ∀ stream, party.state = .streaming stream →
    stream.localAddr = party.connection.localAddr

variable {network network' : Network} {action : NetworkAction}

/-- A user's action does not look at what is in flight, and only adds to it. -/
theorem step_local (hlocal : action.Local) (hstep : network.step action = some network') :
    ∃ added, network'.inFlight = network.inFlight ++ added
      ∧ ∀ inFlight, (network.withInFlight inFlight).step action
        = some (network'.withInFlight (inFlight ++ added)) := by
  cases action with
  | connect localAddr remoteAddr draws queues =>
      cases hconnect : UtpStream.connect queues draws network.parties.length
          (network.sockets localAddr) remoteAddr with
      | none => simp [step, hconnect] at hstep
      | some connected =>
          obtain ⟨connectionId, socket, result⟩ := connected
          cases result with
          | error error =>
              simp only [step, hconnect, Option.some.injEq] at hstep
              subst hstep
              refine ⟨_, rfl, fun inFlight => ?_⟩
              simp only [step, withInFlight, hconnect]
              rfl
          | ok queued =>
              simp only [step, hconnect, Option.some.injEq] at hstep
              subst hstep
              refine ⟨_, rfl, fun inFlight => ?_⟩
              simp only [step, withInFlight, hconnect]
              rfl
  | resume index =>
      simp only [step] at hstep
      split at hstep
      · rename_i hparty
        split at hstep
        · cases hstep
        · rename_i hconnected
          cases hstep
          refine ⟨[], (List.append_nil _).symm, fun inFlight => ?_⟩
          simp [step, withInFlight, hparty, hconnected, withParty]
        · rename_i hconnected
          cases hstep
          refine ⟨[], (List.append_nil _).symm, fun inFlight => ?_⟩
          simp [step, withInFlight, hparty, hconnected, withParty]
      · cases hstep
  | accept localAddr seqNumber queues =>
      simp only [step] at hstep
      split at hstep
      · cases hstep
      · rename_i haccept
        split at hstep
        · rename_i hresult
          cases hstep
          refine ⟨[], (List.append_nil _).symm, fun inFlight => ?_⟩
          simp [step, withInFlight, haccept, hresult, withSocket]
        · rename_i hresult
          cases hstep
          refine ⟨_, rfl, fun inFlight => ?_⟩
          simp only [step, withInFlight, haccept, hresult]
          rfl
        · rename_i hresult
          cases hstep
          refine ⟨_, rfl, fun inFlight => ?_⟩
          simp only [step, withInFlight, haccept, hresult]
          rfl
  | call index call =>
      simp only [step] at hstep
      split at hstep
      · rename_i hparty
        split at hstep
        · rename_i hperform
          cases hstep
          refine ⟨[], (List.append_nil _).symm, fun inFlight => ?_⟩
          simp [step, withInFlight, hparty, hperform, withParty]
        · rename_i hperform
          cases hstep
          refine ⟨_, rfl, fun inFlight => ?_⟩
          simp only [step, withInFlight, hparty, hperform]
          rfl
      · cases hstep
  | deliver index => cases hlocal
  | duplicate index => cases hlocal
  | lose index => cases hlocal
  | drop index =>
      simp only [step] at hstep
      split at hstep
      · cases hstep
      · rename_i hparty
        cases hstep
        refine ⟨[], (List.append_nil _).symm, fun inFlight => ?_⟩
        simp [step, withInFlight, hparty, withParty]

theorem step_of_withInFlight (hlocal : action.Local)
    (hstep : (network.withInFlight []).step action = some network') :
    network.step action = some (network'.withInFlight (network.inFlight ++ network'.inFlight)) := by
  obtain ⟨added, hadded, hsteps⟩ := step_local hlocal hstep
  rw [hadded]
  exact hsteps network.inFlight

/-- Where parties belong and packets come from after an action, if not from where they did before. -/
structure Confined (network : Network) (action : NetworkAction) (network' : Network) : Prop where
  serves : ∀ localAddr, network'.Serves localAddr →
    network.Serves localAddr ∨ action.OpensAt localAddr
  sources : ∀ datagram ∈ network'.inFlight, datagram ∈ network.inFlight
    ∨ network.Serves datagram.source ∨ action.OpensAt datagram.source

theorem confined_of_append {party : Party}
    (hparties : network'.parties = network.parties ++ [party])
    (hopens : action.OpensAt party.connection.localAddr)
    (hsources : ∀ datagram ∈ network'.inFlight, datagram ∈ network.inFlight
      ∨ datagram.source = party.connection.localAddr) : Confined network action network' where
  serves := by
    rintro localAddr ⟨other, hother, hlocal, halive⟩
    rw [hparties] at hother
    rcases List.mem_append.mp hother with hold | hnew
    · exact Or.inl ⟨other, hold, hlocal, halive⟩
    · rw [← hlocal, List.mem_singleton.mp hnew]
      exact Or.inr hopens
  sources datagram hdatagram := by
    rcases hsources datagram hdatagram with hold | hnew
    · exact Or.inl hold
    · rw [hnew]
      exact Or.inr (Or.inr hopens)

theorem confined_of_set {index : Nat} {party party' : Party}
    (hparty : network.parties[index]? = some party)
    (hparties : network'.parties = network.parties.set index party')
    (hconnection : party'.connection = party.connection)
    (halive : party'.state.alive = true → party.state.alive = true)
    (hsources : ∀ datagram ∈ network'.inFlight, datagram ∈ network.inFlight
      ∨ network.Serves datagram.source) : Confined network action network' where
  serves := by
    rintro localAddr ⟨other, hother, hlocal, hother'⟩
    rw [hparties] at hother
    rcases List.mem_or_eq_of_mem_set hother with hold | rfl
    · exact Or.inl ⟨other, hold, hlocal, hother'⟩
    · exact Or.inl ⟨party, List.mem_of_getElem? hparty, hconnection ▸ hlocal, halive hother'⟩
  sources datagram hdatagram := (hsources datagram hdatagram).imp id Or.inl

theorem mem_or_source_of_pass {source : SocketAddr} {sender : Nat} {site : Site}
    {sent refused : List (Packet × SocketAddr)} {datagram : Datagram}
    (hdatagram : datagram ∈ (network.pass source sender site sent refused).inFlight) :
    datagram ∈ network.inFlight ∨ datagram.source = source := by
  rcases mem_inFlight_pass.mp hdatagram with hold | ⟨item, -, rfl⟩
  · exact Or.inl hold
  · exact Or.inr rfl

theorem confined_of_step (hseated : network.Seated) (hlocal : action.Local)
    (hstep : network.step action = some network') : Confined network action network' := by
  cases action with
  | connect localAddr remoteAddr draws queues =>
      simp only [step] at hstep
      split at hstep
      · cases hstep
      · split at hstep
        · cases hstep
          exact confined_of_append rfl rfl fun datagram => mem_or_source_of_pass
        · cases hstep
          exact confined_of_append rfl rfl fun datagram => mem_or_source_of_pass
  | resume index =>
      simp only [step] at hstep
      split at hstep
      · rename_i hparty
        split at hstep
        · cases hstep
        · cases hstep
          exact confined_of_set hparty rfl rfl (absurd · Bool.false_ne_true) fun datagram => Or.inl
        · cases hstep
          exact confined_of_set hparty rfl rfl (fun _ => rfl) fun datagram => Or.inl
      · cases hstep
  | accept localAddr seqNumber queues =>
      simp only [step] at hstep
      split at hstep
      · cases hstep
      · split at hstep
        · cases hstep
          exact ⟨fun addr => Or.inl, fun datagram => Or.inl⟩
        · cases hstep
          exact confined_of_append rfl rfl fun datagram => mem_or_source_of_pass
        · cases hstep
          exact confined_of_append rfl rfl fun datagram => mem_or_source_of_pass
  | call index call =>
      simp only [step] at hstep
      split at hstep
      · rename_i stream hparty
        split at hstep
        · cases hstep
          exact confined_of_set hparty rfl rfl (absurd · Bool.false_ne_true) fun datagram => Or.inl
        · cases hstep
          have hmem := List.mem_of_getElem? hparty
          refine confined_of_set hparty rfl rfl (fun _ => rfl) fun datagram hdatagram => ?_
          apply (mem_or_source_of_pass hdatagram).imp id
          intro hsource
          exact ⟨_, hmem, (hseated.streams _ hmem stream rfl).symm.trans hsource.symm, rfl⟩
      · cases hstep
  | deliver index => cases hlocal
  | duplicate index => cases hlocal
  | lose index => cases hlocal
  | drop index =>
      simp only [step] at hstep
      split at hstep
      · cases hstep
      · rename_i hparty
        cases hstep
        exact confined_of_set hparty rfl rfl (absurd · Bool.false_ne_true) fun datagram => Or.inl

/-! ### Sockets and streams stay where they are -/

theorem Seated.of_mem (hseated : network.Seated)
    (hsockets : ∀ addr, (network'.sockets addr).localAddr = (network.sockets addr).localAddr)
    (hparties : ∀ party ∈ network'.parties, party ∈ network.parties
      ∨ ∀ stream, party.state = .streaming stream →
        stream.localAddr = party.connection.localAddr) : network'.Seated where
  sockets addr := (hsockets addr).trans (hseated.sockets addr)
  streams party hparty := by
    rcases hparties party hparty with hold | hnew
    · exact hseated.streams party hold
    · exact hnew

theorem localAddr_withSocket {localAddr : SocketAddr} {socket : UtpSocket}
    (hsocket : socket.localAddr = (network.sockets localAddr).localAddr) (addr : SocketAddr) :
    ((network.withSocket localAddr socket).sockets addr).localAddr
      = (network.sockets addr).localAddr := by
  by_cases haddr : addr = localAddr
  · subst haddr
    simp [withSocket, hsocket]
  · simp [withSocket, Function.update_of_ne haddr]

theorem localAddr_register (connection : Connection) (addr : SocketAddr) :
    ((network.register connection).sockets addr).localAddr = (network.sockets addr).localAddr := by
  unfold register
  apply localAddr_withSocket
  rfl

theorem Seated.joined (hseated : network.Seated) {party : Party}
    (hsockets : ∀ addr, (network'.sockets addr).localAddr = (network.sockets addr).localAddr)
    (hparties : network'.parties = network.parties ++ [party])
    (hparty : ∀ stream, party.state = .streaming stream →
      stream.localAddr = party.connection.localAddr) : network'.Seated := by
  refine hseated.of_mem hsockets fun other hother => ?_
  rw [hparties] at hother
  rcases List.mem_append.mp hother with hold | hnew
  · exact Or.inl hold
  · rw [List.mem_singleton.mp hnew]
    exact Or.inr hparty

theorem Seated.changed (hseated : network.Seated) {index : Nat} {party' : Party}
    (hsockets : ∀ addr, (network'.sockets addr).localAddr = (network.sockets addr).localAddr)
    (hparties : network'.parties = network.parties.set index party')
    (hparty' : ∀ stream, party'.state = .streaming stream →
      stream.localAddr = party'.connection.localAddr) : network'.Seated := by
  refine hseated.of_mem hsockets fun other hother => ?_
  rw [hparties] at hother
  rcases List.mem_or_eq_of_mem_set hother with hold | rfl
  · exact Or.inl hold
  · exact Or.inr hparty'

theorem Seated.moved (hseated : network.Seated) (hmoved : Moved network action network') :
    network'.Seated := by
  cases hmoved with
  | connect localAddr remoteAddr connectionId hvacant =>
      exact hseated.joined (localAddr_register _) rfl nofun
  | connectFailed localAddr remoteAddr connectionId =>
      exact hseated.joined (localAddr_register _) rfl nofun
  | resumed index connection returned inboundPackets responsePacket rest hparty hqueue stream
      hstream =>
      refine hseated.changed (fun _ => rfl) rfl ?_
      rintro _ ⟨⟩
      rw [hstream]
      rfl
  | gone index party hparty => exact hseated.changed (fun _ => rfl) rfl nofun
  | accept localAddr syn remoteAddr rest seqNumber hsyn hvacant stream hstream =>
      refine hseated.joined (fun addr => ?_) rfl ?_
      · exact (localAddr_register _ addr).trans (withSyns_localAddr _ _ _ _)
      · rintro _ ⟨⟩
        rw [hstream]
        exact hseated.sockets localAddr
  | unanswered localAddr syn remoteAddr rest seqNumber hsyn hvacant =>
      refine hseated.joined (fun addr => ?_) rfl nofun
      exact (localAddr_register _ addr).trans (withSyns_localAddr _ _ _ _)
  | discarded localAddr syn rest hsyn =>
      exact hseated.of_mem (fun addr => withSyns_localAddr _ _ _ _) fun party => Or.inl
  | called index connection returned stream stream' sent refused hparty hperformed =>
      refine hseated.changed (fun _ => rfl) rfl ?_
      rintro _ ⟨⟩
      exact hperformed.sameEnd.localAddr.trans
        (hseated.streams _ (List.mem_of_getElem? hparty) stream rfl)
  | synArrived datagram inFlight hdatagram hinFlight htype =>
      exact hseated.of_mem (fun addr => withSyns_localAddr _ _ _ _) fun party => Or.inl
  | arrived index datagram inFlight channel haction hdatagram hinFlight htype hlookup halive =>
      unfold enqueue
      split
      · exact hseated.of_mem (fun _ => rfl) fun party => Or.inl
      · rename_i party hparty
        refine hseated.changed (fun _ => rfl) rfl ?_
        have hstreams := hseated.streams party (List.mem_of_getElem? hparty)
        cases hstate : party.state with
        | streaming stream =>
            rintro _ ⟨⟩
            exact hstreams stream hstate
        | connecting inboundPackets => exact nofun
        | unanswered => exact nofun
        | dropped => exact nofun
  | stale datagram inFlight channel hdatagram hinFlight htype hlookup hdead =>
      exact hseated.of_mem (localAddr_withSocket rfl) fun party => Or.inl
  | wire inFlight hinFlight => exact hseated.of_mem (fun _ => rfl) fun party => Or.inl

theorem seated_init : init.Seated := ⟨fun _ => rfl, by simp [init]⟩

theorem seated_of_exec {actions : List NetworkAction}
    (hexec : Run.exec step init actions = some network) : network.Seated := by
  have hboth : network.AllFit ∧ network.Seated := by
    apply Run.exec_invariant (motive := fun state => state.AllFit ∧ state.Seated) ?_
      ⟨allFit_init, seated_init⟩ hexec
    rintro state action state' ⟨hfit, hseated⟩ hstep
    have hmoved := Network.moved_of_step hfit.inFlight_fits hstep
    exact ⟨hfit.moved hmoved, hseated.moved hmoved⟩
  exact hboth.2

/-- The datagram leaves first among those from the same socket to the same socket, and nothing is lost
or copied. -/
def InOrder (network : Network) : NetworkAction → Prop
  | .deliver index => ∀ datagram ∈ network.inFlight[index]?, ∀ other ∈ network.inFlight.take index,
      other.source = datagram.source → other.destination ≠ datagram.destination
  | .duplicate _ | .lose _ => False
  | _ => True

end Network

namespace Journal

def withInFlight (journal : Journal) (inFlight : List Datagram) : Journal :=
  { journal with network := journal.network.withInFlight inFlight }

theorem step_of_withInFlight {journal journal' : Journal} {action : NetworkAction}
    (hlocal : action.Local) (hstep : (journal.withInFlight []).step action = some journal') :
    journal.step action
      = some (journal'.withInFlight (journal.network.inFlight ++ journal'.network.inFlight)) := by
  obtain ⟨hnetwork, hhistories⟩ := step_eq_some.mp hstep
  refine step_eq_some.mpr ⟨Network.step_of_withInFlight hlocal hnetwork, ?_⟩
  calc journal'.histories
      = (journal.withInFlight []).record action journal'.network := hhistories
    _ = _ := by
      cases action with
      | deliver index => cases hlocal
      | duplicate index => cases hlocal
      | lose index => cases hlocal
      | connect localAddr remoteAddr draws queues => rfl
      | resume index => rfl
      | accept localAddr seqNumber queues => rfl
      | call index call => rfl
      | drop index => rfl

theorem step_lose {journal : Journal} {datagram : Datagram}
    (hdatagram : datagram ∈ journal.network.inFlight) :
    journal.step (.lose (journal.network.inFlight.idxOf datagram))
      = some (journal.withInFlight (journal.network.inFlight.erase datagram)) := by
  refine step_eq_some.mpr ⟨?_, ?_⟩
  · simp only [Network.step, List.getElem?_idxOf hdatagram, List.eraseIdx_idxOf_eq_erase]
    rfl
  · funext index
    symm
    apply record_of_nil
    · rfl
    · rfl

theorem step_duplicate {journal : Journal} {datagram : Datagram}
    (hdatagram : datagram ∈ journal.network.inFlight) :
    journal.step (.duplicate (journal.network.inFlight.idxOf datagram))
      = some (journal.withInFlight (journal.network.inFlight ++ [datagram])) := by
  refine step_eq_some.mpr ⟨?_, ?_⟩
  · simp only [Network.step, List.getElem?_idxOf hdatagram]
    rfl
  · funext index
    symm
    apply record_of_nil
    · rfl
    · rfl

theorem returned_enqueue (network : Network) (channel : Nat) (packet : Packet) (index : Nat) :
    (network.enqueue channel packet).returned index = network.returned index := by
  unfold Network.enqueue
  split
  · rfl
  · rename_i party hparty
    by_cases hindex : channel = index
    · subst hindex
      have hchannel := (List.getElem?_eq_some_iff.mp hparty).1
      simp only [Network.returned, Network.withParty, List.getElem?_set_self hchannel, hparty,
        Option.bind_some]
    · simp [Network.returned, Network.withParty, List.getElem?_set_ne hindex]

theorem record_of_absent {journal : Journal} {action : NetworkAction} {network' : Network}
    {index : Nat} (hhistory : journal.histories index = none)
    (hreturned : network'.returned index = journal.network.returned index) :
    journal.record action network' index = none := by
  simp only [record, hhistory, hreturned]
  cases journal.network.returned index <;> rfl

/-- A delivery is what the receive task of the destination does with the bytes. -/
theorem step_deliver {journal : Journal} {datagram : Datagram} {socket : UtpSocket}
    {delivered : Option (Nat × Packet)} (hdatagram : datagram ∈ journal.network.inFlight)
    (hreceive : (journal.network.sockets datagram.destination).receiveDatagram journal.network.alive
      datagram.packet.intoBytes datagram.source = .ok (socket, delivered)) :
    journal.step (.deliver (journal.network.inFlight.idxOf datagram))
      = some ((journal.withInFlight (journal.network.inFlight.erase datagram)).routed
        datagram.destination socket delivered) := by
  have hrouted : journal.network.routed (journal.network.inFlight.idxOf datagram) = delivered := by
    simp only [Network.routed, List.getElem?_idxOf hdatagram, hreceive]
  cases delivered with
  | none =>
      refine step_eq_some.mpr ⟨?_, ?_⟩
      · simp only [Network.step, List.getElem?_idxOf hdatagram, hreceive,
          List.eraseIdx_idxOf_eq_erase]
        rfl
      · funext index
        symm
        apply record_of_nil
        · simp only [Network.seen, hrouted]
        · rfl
  | some item =>
      obtain ⟨channel, packet⟩ := item
      refine step_eq_some.mpr ⟨?_, ?_⟩
      · simp only [Network.step, List.getElem?_idxOf hdatagram, hreceive,
          List.eraseIdx_idxOf_eq_erase]
        rfl
      · funext index
        change (if index = channel then
          (journal.histories index).bind fun solo => solo.step (.arrive packet)
          else journal.histories index) = _
        have hreturned := returned_enqueue ((journal.network.withInFlight
          (journal.network.inFlight.erase datagram)).withSocket datagram.destination socket)
          channel packet index
        by_cases hindex : index = channel
        · subst hindex
          have hseen : journal.network.seen index
              (.deliver (journal.network.inFlight.idxOf datagram)) = [.arrive packet] := by
            simp only [Network.seen, hrouted, if_true]
          rw [if_pos rfl]
          cases hhistory : journal.histories index with
          | some solo => exact (record_of_singleton hhistory hseen).symm
          | none => exact (record_of_absent hhistory hreturned).symm
        · rw [if_neg hindex]
          refine (record_of_nil ?_ hreturned).symm
          simp only [Network.seen, hrouted, if_neg (Ne.symm hindex)]

end Journal

/-- The datagram as UDP carries it. -/
def Datagram.frame (datagram : Datagram) : Frame :=
  ⟨datagram.source, datagram.destination, datagram.packet.intoBytes⟩

theorem Datagram.map_frame {source : SocketAddr} {datagrams : List Datagram}
    (hsource : ∀ datagram ∈ datagrams, datagram.source = source) :
    datagrams.map Datagram.frame
      = (datagrams.map Datagram.item).map fun item => ⟨source, item.2, item.1.intoBytes⟩ := by
  rw [List.map_map]
  apply List.map_congr_left
  intro datagram hdatagram
  rw [Datagram.frame, hsource datagram hdatagram]
  rfl

def Frame.between (source destination : SocketAddr) (frame : Frame) : Bool :=
  frame.source = source ∧ frame.destination = destination

def Datagram.between (source destination : SocketAddr) (datagram : Datagram) : Bool :=
  datagram.frame.between source destination

theorem Frame.between_iff {source destination : SocketAddr} {frame : Frame} :
    frame.between source destination = true
      ↔ frame.source = source ∧ frame.destination = destination := decide_eq_true_iff

theorem Datagram.between_iff {source destination : SocketAddr} {datagram : Datagram} :
    datagram.between source destination = true
      ↔ datagram.source = source ∧ datagram.destination = destination := Frame.between_iff

/-- A poll of the send task while the socket exists. -/
theorem PacketSender.poll_open {env : SenderEnv} {fuel : Nat} {sender : PacketSender}
    {outcome : SenderOutcome} (hpoll : sender.poll env fuel = some outcome)
    (hclosed : sender.outgoingRx.closed = false) (hupgrades : env.upgrades = true) :
    outcome.result = .pending ∧ outcome.sender.outgoingRx.closed = false := by
  simp only [poll, hupgrades, if_true, fetch_eq, hclosed, Bool.and_false, Bool.false_eq_true,
    if_false, bind, Option.bind_eq_some_iff, pure, Option.some.injEq] at hpoll
  obtain ⟨sending, -, rfl⟩ := hpoll
  exact ⟨rfl, rfl⟩

namespace System

/-- Every datagram in flight is on the wire or waits at the socket that it comes from. When order is
kept, it is so in flight as well: what waits comes after what is on the wire. -/
structure Carries (ordered : Prop) (system : System) (inFlight wired : List Datagram)
    (queued : SocketAddr → List Datagram) : Prop where
  count : ∀ datagram, inFlight.count datagram
    = wired.count datagram + (queued datagram.source).count datagram
  wire : wired.map Datagram.frame = system.wire
  queues : ∀ addr, (queued addr).map Datagram.item = system.waiting addr
  sources : ∀ addr, ∀ datagram ∈ queued addr, datagram.source = addr
  order : ordered → ∀ source destination, inFlight.filter (Datagram.between source destination)
    = (wired ++ queued source).filter (Datagram.between source destination)

/-- What a system of tasks has to do with a network: apart from what is in flight they are the same. -/
structure Related (ordered : Prop) (system : System) (journal : Journal) : Prop where
  same : system.journal = journal.withInFlight []
  reached : ∃ actions, Run.exec Journal.step Journal.init actions = some journal
  serving : ∀ addr, system.upgrades addr = true →
    ∃ sender, system.senders addr = some sender ∧ sender.outgoingRx.closed = false
  carries : ∃ wired queued, Carries ordered system journal.network.inFlight wired queued

/-- UDP keeps the order between two sockets and neither loses nor copies, and no socket goes away before
its packets have been sent. -/
def InOrder (system : System) : SystemAction → Prop
  | .pollSender localAddr _ _ _ =>
      system.upgrades localAddr = true ∨ system.waiting localAddr = []
  | .pollReceiver localAddr answers => ∀ frame ∈ Received.frames localAddr answers,
      (Received.frames localAddr answers).filter (Frame.between frame.source localAddr)
        <+: system.wire.filter (Frame.between frame.source localAddr)
  | .duplicate _ | .lose _ => False
  | _ => True

instance (system : System) : ∀ action, Decidable (system.InOrder action)
  | .pollSender localAddr _ _ _ => inferInstanceAs (Decidable
      (system.upgrades localAddr = true ∨ system.waiting localAddr = []))
  | .pollReceiver localAddr answers => inferInstanceAs (Decidable
      (∀ frame ∈ Received.frames localAddr answers,
        (Received.frames localAddr answers).filter (Frame.between frame.source localAddr)
          <+: system.wire.filter (Frame.between frame.source localAddr)))
  | .duplicate _ | .lose _ => isFalse id
  | .connect .. | .resume .. | .accept .. | .call .. | .drop .. | .release .. => isTrue trivial

/-- What a user's action is in the network. -/
def userAction (system : System) : SystemAction → Option NetworkAction
  | .connect localAddr remoteAddr draws =>
      some (.connect localAddr remoteAddr draws (system.senders localAddr).isSome)
  | .resume party => some (.resume party)
  | .accept localAddr seqNumber =>
      some (.accept localAddr seqNumber (system.senders localAddr).isSome)
  | .call index call => (system.journal.network.parties[index]?).map fun party =>
      .call index (call.answered (system.senders party.connection.localAddr).isSome)
  | .drop party => some (.drop party)
  | _ => none

/-- If order is kept in the system, then in the network; and what users may do in the system they do in
the network in the same state, apart from what is in flight. -/
structure Permitted (ordered : Prop) (allowed : Journal → NetworkAction → Prop) (journal : Journal)
    (action : NetworkAction) : Prop where
  inOrder : ordered → journal.network.InOrder action
  user : action.Local → allowed (journal.withInFlight []) action

theorem upgrades_iff {system : System} {addr : SocketAddr} :
    system.upgrades addr = true
      ↔ system.held addr = true ∨ system.journal.network.Serves addr := by
  simp [upgrades, Network.Serves]

section Act

variable {ordered : Prop} {allowed : Journal → NetworkAction → Prop} {system system' : System} {journal : Journal}

theorem Related.network_exec (hrelated : Related ordered system journal) :
    ∃ actions, Run.exec Network.step Network.init actions = some journal.network := by
  obtain ⟨actions, hexec⟩ := hrelated.reached
  exact ⟨actions, (@Journal.exec_network Journal.init _ _).mpr ⟨journal.histories, hexec⟩⟩

theorem Related.seated (hrelated : Related ordered system journal) : journal.network.Seated := by
  obtain ⟨actions, hexec⟩ := hrelated.network_exec
  exact Network.seated_of_exec hexec

theorem reached_of_exec {journal' : Journal} {actions : List NetworkAction}
    (hreached : ∃ actions, Run.exec Journal.step Journal.init actions = some journal)
    (hexec : Run.exec Journal.step journal actions = some journal') :
    ∃ actions, Run.exec Journal.step Journal.init actions = some journal' := by
  obtain ⟨before, hbefore⟩ := hreached
  exact ⟨before ++ actions, Run.exec_append.mpr ⟨journal, hbefore, hexec⟩⟩

theorem reached_of_step {journal' : Journal} {action : NetworkAction}
    (hreached : ∃ actions, Run.exec Journal.step Journal.init actions = some journal)
    (hstep : journal.step action = some journal') :
    ∃ actions, Run.exec Journal.step Journal.init actions = some journal' :=
  reached_of_exec hreached (Run.exec_cons.mpr ⟨journal', hstep, rfl⟩ : Run.exec _ _ [action] = _)

theorem waiting_handOver {datagrams : List Datagram} {addr : SocketAddr}
    (hsenders : system'.senders = system.handOver datagrams)
    (hserved : ∀ datagram ∈ datagrams, datagram.source = addr → (system.senders addr).isSome) :
    system'.waiting addr = system.waiting addr
      ++ (datagrams.filter fun datagram => datagram.source = addr).map Datagram.item := by
  simp only [waiting, hsenders, handOver]
  cases hsender : system.senders addr with
  | some sender => simp
  | none =>
      have hnone : (datagrams.filter fun datagram => datagram.source = addr) = [] := by
        apply List.filter_eq_nil_iff.mpr
        intro datagram hdatagram hsource
        have hsome := hserved datagram hdatagram (by simpa using hsource)
        rw [hsender] at hsome
        cases hsome
      simp [hnone]

theorem Carries.handOver {inFlight wired datagrams : List Datagram}
    {queued : SocketAddr → List Datagram}
    (hcarries : Carries ordered system inFlight wired queued) (hwire : system'.wire = system.wire)
    (hsenders : system'.senders = system.handOver datagrams)
    (hserved : ∀ datagram ∈ datagrams, (system.senders datagram.source).isSome) :
    Carries ordered system' (inFlight ++ datagrams) wired
      fun addr => queued addr ++ datagrams.filter fun datagram => datagram.source = addr where
  count datagram := by
    rw [List.count_append, List.count_append, hcarries.count, List.count_filter (by simp)]
    omega
  wire := hcarries.wire.trans hwire.symm
  queues addr := by
    rw [List.map_append, hcarries.queues]
    refine (waiting_handOver hsenders fun datagram hdatagram hsource => ?_).symm
    rw [← hsource]
    exact hserved datagram hdatagram
  sources addr datagram hdatagram := by
    rcases List.mem_append.mp hdatagram with hold | hnew
    · exact hcarries.sources addr datagram hold
    · simpa using (List.mem_filter.mp hnew).2
  order hordered source destination := by
    have hnew : (datagrams.filter fun datagram => datagram.source = source).filter
        (Datagram.between source destination)
          = datagrams.filter (Datagram.between source destination) := by
      rw [List.filter_filter]
      apply List.filter_congr
      intro datagram _
      rw [Bool.eq_iff_iff, Bool.and_eq_true, Datagram.between_iff, decide_eq_true_eq]
      exact and_iff_left_of_imp And.left
    rw [List.filter_append, hcarries.order hordered, ← List.append_assoc, ← hnew,
      ← List.filter_append]

/-- Parties only join where the socket is held, and packets only come from where somebody is. -/
theorem Related.confined {action : NetworkAction} {network : Network}
    {histories : Nat → Option Solo} (hrelated : Related ordered system journal)
    (hstep : system.journal.step action = some ⟨network, histories⟩) (hlocal : action.Local)
    (hopens : ∀ addr, action.OpensAt addr → system.held addr = true) :
    (∀ addr, network.Serves addr → system.upgrades addr = true)
      ∧ ∀ datagram ∈ network.inFlight, (system.senders datagram.source).isSome := by
  rw [hrelated.same] at hstep
  have hseated : (journal.network.withInFlight []).Seated :=
    hrelated.seated.of_mem (fun _ => rfl) fun _ => Or.inl
  have hconfined := Network.confined_of_step hseated hlocal (Journal.step_eq_some.mp hstep).1
  have hserves : ∀ addr, (journal.network.withInFlight []).Serves addr ∨ action.OpensAt addr →
      system.upgrades addr = true := by
    intro addr hserves
    rw [upgrades_iff, hrelated.same]
    exact hserves.symm.imp (hopens addr) id
  refine ⟨fun addr hserves' => hserves addr (hconfined.serves addr hserves'), ?_⟩
  intro datagram hdatagram
  rcases hconfined.sources datagram hdatagram with hold | hnew
  · cases hold
  · obtain ⟨sender, hsender, -⟩ := hrelated.serving _ (hserves _ hnew)
    rw [hsender]
    rfl

/-- What a user does in a system of tasks is done in the network too. -/
theorem Related.act {action : NetworkAction} (hrelated : Related ordered system journal)
    (hact : system.act action = some system') (hlocal : action.Local)
    (hallowed : allowed system.journal action)
    (hopens : ∀ addr, action.OpensAt addr → system.held addr = true) :
    Run.Matched Journal.step (Permitted ordered allowed) (Related ordered) system' journal := by
  unfold System.act at hact
  split at hact
  · cases hact
  · rename_i network histories hstep
    cases hact
    obtain ⟨hserves, hserved⟩ := hrelated.confined hstep hlocal hopens
    rw [hrelated.same] at hstep hallowed
    have hstep' := Journal.step_of_withInFlight hlocal hstep
    refine Run.matched_of_step hstep' ⟨fun _ => ?_, fun _ => hallowed⟩ (Run.matched_of_related ?_)
    · cases action with
      | deliver index => cases hlocal
      | duplicate index => cases hlocal
      | lose index => cases hlocal
      | _ => trivial
    · obtain ⟨wired, queued, hcarries⟩ := hrelated.carries
      refine ⟨rfl, reached_of_step hrelated.reached hstep', ?_, wired, _,
        hcarries.handOver rfl rfl hserved⟩
      intro addr hupgrades
      obtain ⟨sender, hsender, hclosed⟩ : ∃ sender, system.senders addr = some sender
          ∧ sender.outgoingRx.closed = false := by
        apply hrelated.serving
        rcases upgrades_iff.mp hupgrades with hheld | hserves'
        · exact upgrades_iff.mpr (Or.inl hheld)
        · exact hserves addr hserves'
      exact ⟨_, congrArg (Option.map _) hsender, hclosed⟩

end Act

/-! ### What UDP does -/

section Wire

theorem exists_split_map {α β : Type} [DecidableEq β] {f : α → β} {items : List α} {value : β}
    (hvalue : value ∈ items.map f) :
    ∃ before item after, items = before ++ item :: after ∧ f item = value
      ∧ value ∉ before.map f := by
  obtain ⟨front, back, hmap, hfirst⟩ := List.eq_append_cons_of_mem hvalue
  obtain ⟨before, rest, rfl, rfl, hrest⟩ := List.map_eq_append_iff.mp hmap
  obtain ⟨item, after, rfl, hitem, -⟩ := List.map_eq_cons_iff.mp hrest
  exact ⟨before, item, after, rfl, hitem, hfirst⟩

/-- What comes first of a kind has nothing of that kind before it. -/
theorem filter_eq_nil_of_first {α : Type} {kind : α → Bool} {before after rest : List α} {item : α}
    (hfirst : item ∉ before) (hfilter : (before ++ item :: after).filter kind = item :: rest) :
    before.filter kind = [] := by
  cases hbefore : before.filter kind with
  | nil => rfl
  | cons other others =>
      rw [List.filter_append, hbefore, List.cons_append, List.cons.injEq] at hfilter
      have hother : other ∈ before.filter kind := by rw [hbefore]; exact List.mem_cons_self
      rw [hfilter.1] at hother
      exact absurd (List.mem_filter.mp hother).1 hfirst

variable {ordered : Prop} {system system' : System} {inFlight before after : List Datagram}
  {datagram : Datagram} {queued : SocketAddr → List Datagram}

theorem Carries.mem (hcarries : Carries ordered system inFlight (before ++ datagram :: after) queued) :
    datagram ∈ inFlight := by
  apply List.count_pos_iff.mp
  rw [hcarries.count]
  simp only [List.count_append, List.count_cons_self]
  omega

theorem erase_split {α : Type} [DecidableEq α] {before after : List α} {item : α}
    (hfirst : item ∉ before) : (before ++ item :: after).erase item = before ++ after := by
  rw [List.erase_append_right _ hfirst, List.erase_cons_head]

/-- The datagram leaves the wire. -/
theorem Carries.taken
    (hcarries : Carries ordered system inFlight (before ++ datagram :: after) queued)
    (hfirst : datagram.frame ∉ before.map Datagram.frame)
    (hahead : ordered →
      before.filter (Datagram.between datagram.source datagram.destination) = [])
    (hwire : system'.wire = system.wire.erase datagram.frame)
    (hsenders : system'.senders = system.senders) :
    Carries ordered system' (inFlight.erase datagram) (before ++ after) queued where
  count other := by
    rw [List.count_erase, hcarries.count]
    simp only [List.count_append, List.count_cons]
    by_cases hother : datagram = other
    · subst hother
      simp
      omega
    · have hne : (datagram == other) = false := by simpa using hother
      simp [hne]
  wire := by
    rw [hwire, ← hcarries.wire, List.map_append, List.map_append, List.map_cons, erase_split hfirst]
  queues addr := by
    rw [hcarries.queues]
    simp only [waiting, hsenders]
  sources := hcarries.sources
  order hordered source destination := by
    rw [← List.erase_filter, hcarries.order hordered]
    by_cases hbetween : datagram.between source destination = true
    · have hnone : before.filter (Datagram.between source destination) = [] := by
        obtain ⟨rfl, rfl⟩ := Datagram.between_iff.mp hbetween
        exact hahead hordered
      simp [List.filter_append, hnone, hbetween]
    · rw [List.erase_of_not_mem]
      · simp [List.filter_append, hbetween]
      · intro hmem
        exact hbetween (List.mem_filter.mp hmem).2

end Wire

/-! ### What the send task does -/

section Sending

variable {ordered : Prop} {system system' : System} {journal : Journal} {addr : SocketAddr}
  {inFlight wired : List Datagram} {queued : SocketAddr → List Datagram}

/-- What a socket has sent is on the wire, and the rest still waits. -/
theorem Carries.sent (hcarries : Carries ordered system inFlight wired queued)
    {sent rest : List (Packet × SocketAddr)} (hwaiting : system.waiting addr = sent ++ rest)
    (hwire : system'.wire = system.wire
      ++ sent.map fun item => ⟨addr, item.2, item.1.intoBytes⟩)
    (hrest : system'.waiting addr = rest)
    (hothers : ∀ other, other ≠ addr → system'.waiting other = system.waiting other) :
    Carries ordered system' inFlight (wired ++ (queued addr).take sent.length)
      (Function.update queued addr ((queued addr).drop sent.length)) := by
  have hitems : (queued addr).map Datagram.item = sent ++ rest := (hcarries.queues addr).trans hwaiting
  have hsource : ∀ datagram ∈ (queued addr).take sent.length, datagram.source = addr :=
    fun datagram hdatagram => hcarries.sources addr datagram (List.mem_of_mem_take hdatagram)
  refine ⟨?_, ?_, ?_, ?_, ?_⟩
  · intro datagram
    rw [hcarries.count, List.count_append]
    by_cases haddr : datagram.source = addr
    · rw [haddr, Function.update_self]
      have hsplit := congrArg (List.count datagram)
        (List.take_append_drop sent.length (queued addr))
      rw [List.count_append] at hsplit
      omega
    · have hnone : ((queued addr).take sent.length).count datagram = 0 :=
        List.count_eq_zero_of_not_mem fun hdatagram => haddr (hsource datagram hdatagram)
      rw [Function.update_of_ne haddr, hnone]
      omega
  · rw [hwire, List.map_append, hcarries.wire]
    congr 1
    have htake : ((queued addr).take sent.length).map Datagram.item = sent := by
      rw [List.map_take, hitems, List.take_left]
    rw [Datagram.map_frame hsource, htake]
  · intro other
    by_cases hother : other = addr
    · subst hother
      rw [Function.update_self, List.map_drop, hitems, List.drop_left, hrest]
    · rw [Function.update_of_ne hother, hothers other hother, hcarries.queues]
  · intro other datagram hdatagram
    by_cases hother : other = addr
    · subst hother
      rw [Function.update_self] at hdatagram
      exact hcarries.sources other datagram (List.mem_of_mem_drop hdatagram)
    · rw [Function.update_of_ne hother] at hdatagram
      exact hcarries.sources other datagram hdatagram
  · intro hordered source destination
    rw [hcarries.order hordered]
    by_cases hsame : source = addr
    · subst hsame
      rw [Function.update_self, List.append_assoc, List.take_append_drop]
    · have hnone : ((queued addr).take sent.length).filter
          (Datagram.between source destination) = [] := by
        apply List.filter_eq_nil_iff.mpr
        intro datagram hdatagram hbetween
        exact hsame ((Datagram.between_iff.mp hbetween).1.symm.trans (hsource datagram hdatagram))
      rw [Function.update_of_ne hsame, List.filter_append, List.filter_append, List.filter_append,
        hnone, List.append_nil]

/-- The send task has taken with it what it had not sent. -/
theorem Carries.lost (hcarries : Carries ordered system inFlight wired queued)
    {inFlight' : List Datagram}
    (hcount : ∀ datagram, inFlight'.count datagram + (queued addr).count datagram
      = inFlight.count datagram)
    (hkept : ordered → queued addr = [] ∧ inFlight' = inFlight) (hwire : system'.wire = system.wire)
    (hnone : system'.waiting addr = [])
    (hothers : ∀ other, other ≠ addr → system'.waiting other = system.waiting other) :
    Carries ordered system' inFlight' wired (Function.update queued addr []) := by
  refine ⟨?_, ?_, ?_, ?_, ?_⟩
  · intro datagram
    have htotal := hcarries.count datagram
    rw [← hcount] at htotal
    by_cases haddr : datagram.source = addr
    · rw [haddr] at htotal ⊢
      rw [Function.update_self, List.count_nil]
      omega
    · have hzero : (queued addr).count datagram = 0 :=
        List.count_eq_zero_of_not_mem fun hdatagram =>
          haddr (hcarries.sources addr datagram hdatagram)
      rw [Function.update_of_ne haddr]
      omega
  · rw [hcarries.wire, hwire]
  · intro other
    by_cases hother : other = addr
    · subst hother
      rw [Function.update_self, hnone, List.map_nil]
    · rw [Function.update_of_ne hother, hothers other hother, hcarries.queues]
  · intro other datagram hdatagram
    by_cases hother : other = addr
    · subst hother
      rw [Function.update_self] at hdatagram
      cases hdatagram
    · rw [Function.update_of_ne hother] at hdatagram
      exact hcarries.sources other datagram hdatagram
  · intro hordered source destination
    obtain ⟨hempty, rfl⟩ := hkept hordered
    rw [hcarries.order hordered, ← hempty, Function.update_eq_self]

/-- Datagrams in flight may all be lost. -/
theorem exec_lose {journal : Journal} {lost : List Datagram}
    (hcount : ∀ datagram, lost.count datagram ≤ journal.network.inFlight.count datagram) :
    ∃ actions inFlight, Run.exec Journal.step journal actions = some (journal.withInFlight inFlight)
      ∧ (∀ action ∈ actions, ¬action.Local)
      ∧ ∀ datagram, inFlight.count datagram + lost.count datagram
        = journal.network.inFlight.count datagram := by
  induction lost generalizing journal with
  | nil => exact ⟨[], journal.network.inFlight, rfl, List.forall_mem_nil _, fun datagram => by simp⟩
  | cons first rest ih =>
      have hfirst : first ∈ journal.network.inFlight := by
        apply List.count_pos_iff.mp
        have hle := hcount first
        rw [List.count_cons_self] at hle
        omega
      obtain ⟨actions, inFlight, hexec, hnone, hrest⟩ :=
        @ih (journal.withInFlight (journal.network.inFlight.erase first)) (by
          intro datagram
          have hle := hcount datagram
          change _ ≤ (journal.network.inFlight.erase first).count datagram
          rw [List.count_erase]
          rw [List.count_cons] at hle
          omega)
      refine ⟨_ :: actions, inFlight, Run.exec_cons.mpr ⟨_, Journal.step_lose hfirst, hexec⟩,
        List.forall_mem_cons.mpr ⟨id, hnone⟩, ?_⟩
      intro datagram
      have heq := hrest datagram
      have hle := hcount datagram
      change _ = (journal.network.inFlight.erase first).count datagram at heq
      rw [List.count_erase] at heq
      rw [List.count_cons] at hle ⊢
      omega

end Sending

/-! ### What the receive task does -/

section Receiving

variable {ordered : Prop} {allowed : Journal → NetworkAction → Prop} {system system' : System}
  {journal : Journal} {addr : SocketAddr}

theorem withInFlight_routed (journal : Journal) (inFlight inFlight' : List Datagram)
    (socket : UtpSocket) (delivered : Option (Nat × Packet)) :
    ((journal.withInFlight inFlight).routed addr socket delivered).withInFlight inFlight'
      = (journal.withInFlight inFlight').routed addr socket delivered := by
  cases delivered with
  | none => rfl
  | some item =>
      simp only [Journal.routed, Journal.withInFlight, Network.enqueue]
      cases hparty : journal.network.parties[item.1]? with
      | none => simp [hparty, Network.withInFlight, Network.withSocket]
      | some party => simp [hparty, Network.withInFlight, Network.withSocket, Network.withParty]

theorem inFlight_routed (journal : Journal) (socket : UtpSocket) (delivered : Option (Nat × Packet)) :
    (journal.routed addr socket delivered).network.inFlight = journal.network.inFlight := by
  cases delivered with
  | none => rfl
  | some item =>
      simp only [Journal.routed]
      rw [Network.enqueue_frame]
      rfl

theorem serves_routed {journal : Journal} {socket : UtpSocket} {delivered : Option (Nat × Packet)}
    {other : SocketAddr} (hserves : (journal.routed addr socket delivered).network.Serves other) :
    journal.network.Serves other := by
  cases delivered with
  | none => exact hserves
  | some item =>
      simp only [Journal.routed, Network.enqueue] at hserves
      split at hserves
      · exact hserves
      · rename_i party hparty
        obtain ⟨other, hother, hlocal, halive⟩ := hserves
        rcases List.mem_or_eq_of_mem_set hother with hold | rfl
        · exact ⟨other, hold, hlocal, halive⟩
        · rw [PartyState.alive_receive] at halive
          exact ⟨party, List.mem_of_getElem? hparty, hlocal, halive⟩

theorem inOrder_deliver {network : Network} {datagram : Datagram} {rest : List Datagram}
    (hdatagram : datagram ∈ network.inFlight)
    (hfirst : network.inFlight.filter (Datagram.between datagram.source datagram.destination)
      = datagram :: rest) :
    network.InOrder (.deliver (network.inFlight.idxOf datagram)) := by
  intro datagram' hdatagram' other hother hsource hdestination
  rw [List.getElem?_idxOf hdatagram, Option.mem_some_iff] at hdatagram'
  subst hdatagram'
  have hlt := List.idxOf_lt_length_of_mem hdatagram
  have hsplit := List.take_append_drop (network.inFlight.idxOf datagram) network.inFlight
  rw [List.drop_eq_getElem_cons hlt, List.getElem_idxOf hlt] at hsplit
  rw [← hsplit] at hfirst
  have hnone := filter_eq_nil_of_first
    (fun hmem => lt_irrefl _ ((List.mem_take_iff_idxOf_lt hdatagram).mp hmem)) hfirst
  exact List.filter_eq_nil_iff.mp hnone other hother
    (Datagram.between_iff.mpr ⟨hsource, hdestination⟩)

/-- A datagram that the receive task reads is delivered in the network. -/
theorem Related.receive {bytes : Bytes} {remoteAddr : SocketAddr}
    (hrelated : Related ordered system journal) (hmem : ⟨remoteAddr, addr, bytes⟩ ∈ system.wire)
    (hfirst : ordered → ∃ rest, system.wire.filter (Frame.between remoteAddr addr)
      = ⟨remoteAddr, addr, bytes⟩ :: rest)
    (hreceive : System.receive addr system bytes remoteAddr = .ok system') :
    system'.wire = system.wire.erase ⟨remoteAddr, addr, bytes⟩
      ∧ ∃ action journal', journal.step action = some journal' ∧ Permitted ordered allowed journal action
        ∧ Related ordered system' journal' := by
  simp only [System.receive, bind, Except.bind] at hreceive
  split at hreceive
  · cases hreceive
  · rename_i outcome hroute
    obtain ⟨socket, delivered⟩ := outcome
    cases hreceive
    refine ⟨rfl, ?_⟩
    obtain ⟨wired, queued, hcarries⟩ := hrelated.carries
    rw [← hcarries.wire] at hmem
    obtain ⟨before, datagram, after, rfl, hframe, hbefore⟩ := exists_split_map hmem
    obtain ⟨rfl, rfl, rfl⟩ : datagram.source = remoteAddr ∧ datagram.destination = addr
        ∧ datagram.packet.intoBytes = bytes := by
      simpa [Datagram.frame] using hframe
    have hahead : ordered →
        before.filter (Datagram.between datagram.source datagram.destination) = [] := by
      intro hordered
      obtain ⟨rest, hrest⟩ := hfirst hordered
      rw [← hcarries.wire, List.map_append, List.map_cons, hframe] at hrest
      have hnone := filter_eq_nil_of_first hbefore hrest
      rw [List.filter_map, List.map_eq_nil_iff] at hnone
      exact hnone
    rw [hrelated.same] at hroute
    have hstep := Journal.step_deliver hcarries.mem hroute
    refine ⟨_, _, hstep, ⟨fun hordered => ?_, False.elim⟩, ?_⟩
    · have hfilter := hcarries.order hordered datagram.source datagram.destination
      rw [List.append_assoc, List.filter_append, hahead hordered, List.nil_append, List.cons_append,
        List.filter_cons_of_pos (Datagram.between_iff.mpr ⟨rfl, rfl⟩)] at hfilter
      exact inOrder_deliver hcarries.mem hfilter
    · refine ⟨?_, reached_of_step hrelated.reached hstep, ?_, before ++ after, queued, ?_⟩
      · rw [withInFlight_routed, hrelated.same]
      · intro other hupgrades
        apply hrelated.serving
        rw [upgrades_iff] at hupgrades ⊢
        exact hupgrades.imp id serves_routed
      · rw [inFlight_routed]
        exact hcarries.taken (hframe ▸ hbefore) hahead (by rw [hframe]) rfl

theorem frames_datagram (bytes : Bytes) (remoteAddr : SocketAddr) (answers : List Received) :
    Received.frames addr (.datagram bytes remoteAddr :: answers)
      = ⟨remoteAddr, addr, bytes⟩ :: Received.frames addr answers := rfl

/-- The next datagrams that a poll reads are still first on the wire when one has been read. -/
theorem isPrefix_erase {frame : Frame} {frames wire : List Frame} {destination : SocketAddr}
    (hleading : ∀ source, (frame :: frames).filter (Frame.between source destination)
      <+: wire.filter (Frame.between source destination)) (source : SocketAddr) :
    frames.filter (Frame.between source destination)
      <+: (wire.erase frame).filter (Frame.between source destination) := by
  rw [← List.erase_filter]
  have hsource := hleading source
  by_cases hbetween : frame.between source destination = true
  · rw [List.filter_cons_of_pos hbetween] at hsource
    obtain ⟨rest, hrest⟩ := hsource
    rw [← hrest, List.cons_append, List.erase_cons_head]
    exact List.prefix_append _ _
  · rw [List.filter_cons_of_neg hbetween] at hsource
    rw [List.erase_of_not_mem]
    · exact hsource
    · exact fun hmem => hbetween (List.mem_filter.mp hmem).2

theorem exists_first {frames wire : List Frame} {bytes : Bytes} {source destination : SocketAddr}
    (hleading : ((⟨source, destination, bytes⟩ : Frame) :: frames).filter
        (Frame.between source destination) <+: wire.filter (Frame.between source destination)) :
    ∃ rest, wire.filter (Frame.between source destination)
      = ⟨source, destination, bytes⟩ :: rest := by
  obtain ⟨rest, hrest⟩ := hleading
  have hbetween : Frame.between source destination ⟨source, destination, bytes⟩ = true :=
    Frame.between_iff.mpr ⟨rfl, rfl⟩
  rw [List.filter_cons_of_pos hbetween] at hrest
  exact ⟨_, hrest.symm⟩

/-- The condition on a poll, for every source. -/
theorem isPrefix_of_inOrder {answers : List Received}
    (hinOrder : system.InOrder (.pollReceiver addr answers)) (source : SocketAddr) :
    (Received.frames addr answers).filter (Frame.between source addr)
      <+: system.wire.filter (Frame.between source addr) := by
  by_cases hsome : ∃ frame ∈ Received.frames addr answers, frame.source = source
  · obtain ⟨frame, hframe, rfl⟩ := hsome
    exact hinOrder frame hframe
  · have hnone : (Received.frames addr answers).filter (Frame.between source addr) = [] := by
      apply List.filter_eq_nil_iff.mpr
      intro frame hframe hbetween
      exact hsome ⟨frame, hframe, (Frame.between_iff.mp hbetween).1⟩
    rw [hnone]
    exact List.nil_prefix

theorem Related.pollWith {answers : List Received} {result : Poll Unit}
    (hrelated : Related ordered system journal)
    (hframes : (Received.frames addr answers).Subperm system.wire)
    (hleading : ordered → ∀ source,
      (Received.frames addr answers).filter (Frame.between source addr)
        <+: system.wire.filter (Frame.between source addr))
    (hpoll : PacketReceiver.pollWith (System.receive addr) system answers
      = .ok (some (system', result))) :
    Run.Matched Journal.step (Permitted ordered allowed) (Related ordered) system' journal := by
  induction answers generalizing system journal with
  | nil => cases hpoll
  | cons answer answers ih =>
      cases answer with
      | datagram bytes remoteAddr =>
          simp only [PacketReceiver.pollWith, bind, Except.bind] at hpoll
          split at hpoll
          · cases hpoll
          · rename_i received hreceive
            rw [frames_datagram] at hframes hleading
            obtain ⟨hwire, action, journal', hstep, hpermitted, hrelated'⟩ :=
              hrelated.receive (hframes.subset List.mem_cons_self)
                (fun hordered => exists_first (hleading hordered remoteAddr)) hreceive
            refine Run.matched_of_step hstep hpermitted (ih hrelated' ?_ ?_ hpoll)
            · rw [hwire]
              have herase := hframes.erase ⟨remoteAddr, addr, bytes⟩
              rwa [List.erase_cons_head] at herase
            · rw [hwire]
              exact fun hordered => isPrefix_erase (hleading hordered)
      | recvFailed => exact ih hrelated hframes hleading hpoll
      | recvNotReady =>
          cases hpoll
          exact Run.matched_of_related hrelated
      | notReady =>
          cases hpoll
          exact Run.matched_of_related hrelated
      | readyFailed =>
          cases hpoll
          exact Run.matched_of_related hrelated

end Receiving

section Step

variable {ordered : Prop} {allowed : Journal → NetworkAction → Prop} {system system' : System}
  {journal : Journal} {addr : SocketAddr}

theorem waiting_update (sender : Option PacketSender) {other : SocketAddr} (hother : other ≠ addr)
    (hsenders : system'.senders = Function.update system.senders addr sender) :
    system'.waiting other = system.waiting other := by
  simp only [waiting, hsenders, Function.update_of_ne hother]

/-- What a send task has sent is on the wire; in the network nothing has happened. -/
theorem Related.sent (hrelated : Related ordered system journal) {sender left : PacketSender}
    (hsender : system.senders addr = some sender) {sent : List (Packet × SocketAddr)}
    (hkeeps : sent ++ (left.outgoingBuffer ++ left.outgoingRx.queue)
      = sender.outgoingBuffer ++ sender.outgoingRx.queue)
    (hopen : left.outgoingRx.closed = false) (hjournal : system'.journal = system.journal)
    (hheld : system'.held = system.held)
    (hsenders : system'.senders = Function.update system.senders addr (some left))
    (hwire : system'.wire = system.wire
      ++ sent.map fun item => ⟨addr, item.2, item.1.intoBytes⟩) : Related ordered system' journal := by
  obtain ⟨wired, queued, hcarries⟩ := hrelated.carries
  have hwaiting : system.waiting addr = sent ++ (left.outgoingBuffer ++ left.outgoingRx.queue) := by
    simp only [waiting, hsender, hkeeps]
  have hrest : system'.waiting addr = left.outgoingBuffer ++ left.outgoingRx.queue := by
    simp only [waiting, hsenders, Function.update_self]
  refine ⟨hjournal.trans hrelated.same, hrelated.reached, ?_, _, _,
    hcarries.sent hwaiting hwire hrest fun other hother => waiting_update _ hother hsenders⟩
  intro other hother
  rw [hsenders]
  by_cases hsame : other = addr
  · subst hsame
    exact ⟨left, Function.update_self .., hopen⟩
  · have hbefore : system.upgrades other = true := by
      simpa only [upgrades, hjournal, hheld] using hother
    obtain ⟨sender', hsender', hclosed⟩ := hrelated.serving other hbefore
    exact ⟨sender', by rw [Function.update_of_ne hsame, hsender'], hclosed⟩

/-- A send task shuts down with its socket. What it has not sent is lost in the network. -/
theorem Related.retired (hrelated : Related ordered system journal)
    (hupgrades : system.upgrades addr = false) (hempty : ordered → system.waiting addr = [])
    (hjournal : system'.journal = system.journal) (hheld : system'.held = system.held)
    (hsenders : system'.senders = Function.update system.senders addr none)
    (hwire : system'.wire = system.wire) :
    Run.Matched Journal.step (Permitted ordered allowed) (Related ordered) system' journal := by
  obtain ⟨wired, queued, hcarries⟩ := hrelated.carries
  have hqueued : ordered → queued addr = [] := by
    intro hordered
    rw [← List.map_eq_nil_iff (f := Datagram.item), hcarries.queues, hempty hordered]
  have hcount : ∀ datagram, (queued addr).count datagram
      ≤ journal.network.inFlight.count datagram := by
    intro datagram
    rw [hcarries.count]
    by_cases haddr : datagram.source = addr
    · rw [haddr]
      omega
    · have hzero : (queued addr).count datagram = 0 :=
        List.count_eq_zero_of_not_mem fun hdatagram =>
          haddr (hcarries.sources addr datagram hdatagram)
      omega
  have hserving : ∀ other, system'.upgrades other = true → ∃ sender,
      system'.senders other = some sender ∧ sender.outgoingRx.closed = false := by
    intro other hother
    have hbefore : system.upgrades other = true := by
      simpa only [upgrades, hjournal, hheld] using hother
    have hne : other ≠ addr := by
      rintro rfl
      rw [hupgrades] at hbefore
      cases hbefore
    obtain ⟨sender, hsender, hclosed⟩ := hrelated.serving other hbefore
    exact ⟨sender, by rw [hsenders, Function.update_of_ne hne, hsender], hclosed⟩
  have hnone : system'.waiting addr = [] := by simp [waiting, hsenders]
  have hothers : ∀ other, other ≠ addr → system'.waiting other = system.waiting other :=
    fun other hother => waiting_update _ hother hsenders
  by_cases hlost : queued addr = []
  · refine Run.matched_of_related ⟨hjournal.trans hrelated.same, hrelated.reached, hserving, wired, _,
      hcarries.lost (fun datagram => ?_) (fun _ => ⟨hlost, rfl⟩) hwire hnone hothers⟩
    rw [hlost, List.count_nil, Nat.add_zero]
  · have hunordered : ¬ordered := fun hordered => hlost (hqueued hordered)
    obtain ⟨actions, inFlight, hexec, hloses, hleft⟩ := exec_lose hcount
    have hall : Run.All Journal.step (Permitted ordered allowed) journal actions :=
      Run.all_mono (fun _ _ hloses => ⟨fun hordered => absurd hordered hunordered,
        fun hlocal => absurd hlocal hloses⟩) (Run.all_of_forall hloses)
    exact Run.matched_of_exec hexec hall (Run.matched_of_related ⟨hjournal.trans hrelated.same,
      reached_of_exec hrelated.reached hexec, hserving, wired, _, hcarries.lost hleft
        (fun hordered => absurd hordered hunordered) hwire hnone hothers⟩)

theorem Related.pollSender {yields : Nat → Bool}
    {pollSendTo : Nat → Bytes → SocketAddr → SendResult} {fuel : Nat}
    (hrelated : Related ordered system journal)
    (hinOrder : ordered → system.InOrder (.pollSender addr yields pollSendTo fuel))
    (hstep : system.step (.pollSender addr yields pollSendTo fuel) = some system') :
    Run.Matched Journal.step (Permitted ordered allowed) (Related ordered) system' journal := by
  simp only [System.step] at hstep
  split at hstep
  · cases hstep
  · rename_i sender hsender
    cases hupgrades : system.upgrades addr with
    | true =>
        rw [hupgrades] at hstep
        obtain ⟨sender', hsender', hclosed⟩ := hrelated.serving addr hupgrades
        obtain rfl : sender = sender' := Option.some.inj (hsender.symm.trans hsender')
        split at hstep
        · cases hstep
        · rename_i outcome hpoll
          obtain ⟨hresult, hopen⟩ := PacketSender.poll_open hpoll hclosed rfl
          have hkeeps := PacketSender.poll_keeps hpoll
          rw [List.append_assoc] at hkeeps
          rw [hresult] at hstep
          cases hstep
          exact Run.matched_of_related (hrelated.sent hsender hkeeps hopen rfl rfl rfl rfl)
    | false =>
        rw [hupgrades] at hstep
        cases hstep
        refine hrelated.retired hupgrades (fun hordered => ?_) rfl rfl rfl (List.append_nil _)
        rcases hinOrder hordered with hthere | hempty
        · rw [hupgrades] at hthere
          cases hthere
        · exact hempty

theorem Related.pollReceiver {answers : List Received} (hrelated : Related ordered system journal)
    (hinOrder : ordered → system.InOrder (.pollReceiver addr answers))
    (hstep : system.step (.pollReceiver addr answers) = some system') :
    Run.Matched Journal.step (Permitted ordered allowed) (Related ordered) system' journal := by
  simp only [System.step] at hstep
  split_ifs at hstep with hframes hupgrades
  · have hleading := fun hordered => isPrefix_of_inOrder (hinOrder hordered)
    split at hstep
    · rename_i polled hpoll
      cases hstep
      exact hrelated.pollWith hframes.2 hleading hpoll
    · rename_i polled hpoll
      cases hstep
      obtain ⟨actions, final, hexec, hall, hfinal⟩ := hrelated.pollWith hframes.2 hleading hpoll
      obtain ⟨wired, queued, hcarries⟩ := hfinal.carries
      exact ⟨actions, final, hexec, hall, hfinal.same, hfinal.reached, hfinal.serving, wired, queued,
        hcarries.count, hcarries.wire, hcarries.queues, hcarries.sources, hcarries.order⟩
    · cases hstep
  · cases hstep
    obtain ⟨wired, queued, hcarries⟩ := hrelated.carries
    exact Run.matched_of_related ⟨hrelated.same, hrelated.reached, hrelated.serving, wired, queued,
      hcarries.count, hcarries.wire, hcarries.queues, hcarries.sources, hcarries.order⟩

theorem Related.duplicate {frame : Frame} (hunordered : ¬ordered)
    (hrelated : Related ordered system journal)
    (hstep : system.step (.duplicate frame) = some system') :
    Run.Matched Journal.step (Permitted ordered allowed) (Related ordered) system' journal := by
  simp only [System.step] at hstep
  split_ifs at hstep with hframe
  cases hstep
  obtain ⟨wired, queued, hcarries⟩ := hrelated.carries
  rw [← hcarries.wire] at hframe
  obtain ⟨before, datagram, after, rfl, rfl, -⟩ := exists_split_map hframe
  have hstep := Journal.step_duplicate hcarries.mem
  refine Run.matched_of_step hstep ⟨fun hordered => absurd hordered hunordered, False.elim⟩
    (Run.matched_of_related ⟨hrelated.same, reached_of_step hrelated.reached hstep,
      hrelated.serving, (before ++ datagram :: after) ++ [datagram], queued, ?_, ?_, hcarries.queues,
      hcarries.sources, fun hordered => absurd hordered hunordered⟩)
  · intro other
    change (journal.network.inFlight ++ [datagram]).count other = _
    rw [List.count_append, hcarries.count]
    simp only [List.count_append]
    omega
  · rw [List.map_append, hcarries.wire]
    rfl

theorem Related.lose {frame : Frame} (hunordered : ¬ordered)
    (hrelated : Related ordered system journal)
    (hstep : system.step (.lose frame) = some system') :
    Run.Matched Journal.step (Permitted ordered allowed) (Related ordered) system' journal := by
  simp only [System.step] at hstep
  split_ifs at hstep with hframe
  cases hstep
  obtain ⟨wired, queued, hcarries⟩ := hrelated.carries
  rw [← hcarries.wire] at hframe
  obtain ⟨before, datagram, after, rfl, rfl, hbefore⟩ := exists_split_map hframe
  have hstep := Journal.step_lose hcarries.mem
  exact Run.matched_of_step hstep ⟨fun hordered => absurd hordered hunordered, False.elim⟩
    (Run.matched_of_related ⟨hrelated.same, reached_of_step hrelated.reached hstep,
      hrelated.serving, before ++ after, queued,
      hcarries.taken hbefore (fun hordered => absurd hordered hunordered) rfl rfl⟩)

/-- **Every step is matched.** -/
theorem Related.step {action : SystemAction} (hrelated : Related ordered system journal)
    (hinOrder : ordered → system.InOrder action)
    (hallowed : ∀ networkAction ∈ system.userAction action, allowed system.journal networkAction)
    (hstep : system.step action = some system') :
    Run.Matched Journal.step (Permitted ordered allowed) (Related ordered) system' journal := by
  cases action with
  | connect localAddr remoteAddr draws =>
      simp only [System.step] at hstep
      split_ifs at hstep with hheld
      exact hrelated.act hstep trivial (hallowed _ rfl)
        fun addr hopens => (hopens : localAddr = addr) ▸ hheld
  | resume party => exact hrelated.act hstep trivial (hallowed _ rfl) fun _ => False.elim
  | accept localAddr seqNumber =>
      simp only [System.step] at hstep
      split_ifs at hstep with hheld
      exact hrelated.act hstep trivial (hallowed _ rfl)
        fun addr hopens => (hopens : localAddr = addr) ▸ hheld
  | call index call =>
      simp only [System.step] at hstep
      split at hstep
      · cases hstep
      · rename_i party hparty
        refine hrelated.act hstep trivial (hallowed _ ?_) fun _ => False.elim
        simp [userAction, hparty]
  | drop party => exact hrelated.act hstep trivial (hallowed _ rfl) fun _ => False.elim
  | release localAddr =>
      cases hstep
      obtain ⟨wired, queued, hcarries⟩ := hrelated.carries
      refine Run.matched_of_related ⟨hrelated.same, hrelated.reached, ?_, wired, queued,
        hcarries.count, hcarries.wire, hcarries.queues, hcarries.sources, hcarries.order⟩
      intro addr hupgrades
      apply hrelated.serving
      rw [upgrades_iff] at hupgrades ⊢
      refine hupgrades.imp ?_ id
      by_cases haddr : addr = localAddr
      · subst haddr
        simp
      · simp [Function.update_of_ne haddr]
  | pollSender localAddr yields pollSendTo fuel => exact hrelated.pollSender hinOrder hstep
  | pollReceiver localAddr answers => exact hrelated.pollReceiver hinOrder hstep
  | duplicate frame => exact hrelated.duplicate hinOrder hstep
  | lose frame => exact hrelated.lose hinOrder hstep

theorem related_init : Related ordered System.init Journal.init where
  same := rfl
  reached := ⟨[], rfl⟩
  serving _ _ := ⟨PacketSender.spawned, rfl, rfl⟩
  carries := ⟨[], fun _ => [], fun _ => rfl, rfl, fun _ => rfl, nofun, fun _ _ _ => rfl⟩

/-- **Every run is matched.** -/
theorem matched_of_exec {actions : List SystemAction} {final : System}
    (hall : Run.All System.step (fun system action => (ordered → system.InOrder action)
      ∧ ∀ networkAction ∈ system.userAction action, allowed system.journal networkAction)
      System.init actions)
    (hexec : Run.exec System.step System.init actions = some final) :
    Run.Matched Journal.step (Permitted ordered allowed) (Related ordered) final Journal.init :=
  Run.matched_of_all
    (fun _ _ _ _ hrelated hallowed hstep => hrelated.step hallowed.1 hallowed.2 hstep) related_init
    hall hexec

end Step

end System

/-- **The tasks refine the network.** Whatever the users, the tasks and UDP do, there is a run of the
network that leads to the same sockets, parties and histories, with the same packets passed to
`send_to`. What is in flight there is what is on the wire here, as bytes, and what waits in the outgoing
channel or in the buffer of the send task of its socket. While a socket exists its send task runs. -/
theorem tasks_refine_network {actions : List SystemAction} {final : System}
    (hexec : Run.exec System.step System.init actions = some final) :
    (∃ networkActions journal, Run.exec Journal.step Journal.init networkActions = some journal
        ∧ final.journal = journal.withInFlight []
        ∧ ∃ (wired : List Datagram) (queued : SocketAddr → List Datagram),
          (∀ datagram, journal.network.inFlight.count datagram
              = wired.count datagram + (queued datagram.source).count datagram)
            ∧ wired.map Datagram.frame = final.wire
            ∧ (∀ addr, (queued addr).map Datagram.item = final.waiting addr)
            ∧ ∀ addr, ∀ datagram ∈ queued addr, datagram.source = addr)
      ∧ ∀ addr, final.upgrades addr = true → (final.senders addr).isSome := by
  obtain ⟨networkActions, journal, hjournal, -, hrelated⟩ :=
    @System.matched_of_exec False (fun _ _ => True) _ _
      (Run.all_of_always fun _ _ => ⟨False.elim, fun _ _ => trivial⟩) hexec
  obtain ⟨wired, queued, hcarries⟩ := hrelated.carries
  refine ⟨⟨networkActions, journal, hjournal, hrelated.same, wired, queued, hcarries.count,
    hcarries.wire, hcarries.queues, hcarries.sources⟩, fun addr hupgrades => ?_⟩
  obtain ⟨sender, hsender, -⟩ := hrelated.serving addr hupgrades
  rw [hsender]
  rfl

/-- A handshake and two writes. The data packet of the first is on the wire at the end, the one of the
second has not been sent. -/
def pipelinedActions : List SystemAction :=
  let connector : SocketAddr := .v4 0x7F000001 9000
  let listener : SocketAddr := .v4 0x7F000001 9001
  let send := fun localAddr =>
    SystemAction.pollSender localAddr (fun _ => false) (fun _ _ _ => .sent) 8
  let receive := fun localAddr remoteAddr (packet : Packet) =>
    SystemAction.pollReceiver localAddr [.datagram packet.intoBytes remoteAddr, .notReady]
  [.connect connector listener [65535], send connector,
    receive listener connector (UtpStream.synPacket 65535), .accept listener 41, send listener,
    receive connector listener (UtpListener.synAckPacket 65535 41 1), .resume 0,
    .call 0 (.pollWrite .plain [1, 2, 3]), send connector, .release connector,
    .call 0 (.pollWrite .plain [4])]

def pipelined : System := (Run.exec System.step System.init pipelinedActions).get (by decide)

theorem tasks_refine_network_pipelined :
    Run.exec System.step System.init pipelinedActions = some pipelined
      ∧ pipelined.wire.length = 1 ∧ (pipelined.waiting (.v4 0x7F000001 9000)).length = 1
      ∧ (∃ networkActions journal, Run.exec Journal.step Journal.init networkActions = some journal
        ∧ pipelined.journal = journal.withInFlight []
        ∧ ∃ (wired : List Datagram) (queued : SocketAddr → List Datagram),
          (∀ datagram, journal.network.inFlight.count datagram
              = wired.count datagram + (queued datagram.source).count datagram)
            ∧ wired.map Datagram.frame = pipelined.wire
            ∧ (∀ addr, (queued addr).map Datagram.item = pipelined.waiting addr)
            ∧ ∀ addr, ∀ datagram ∈ queued addr, datagram.source = addr)
      ∧ ∀ addr, pipelined.upgrades addr = true → (pipelined.senders addr).isSome := by
  have hexec : Run.exec System.step System.init pipelinedActions = some pipelined :=
    (Option.some_get _).symm
  exact ⟨hexec, by decide, by decide, tasks_refine_network hexec⟩

end UtpSafety
