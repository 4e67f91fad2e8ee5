import UtpSafety.Journal
import UtpSafety.Receiver
import UtpSafety.Sender

/-!
# Sockets with their tasks

In a `Network` a packet is in flight once it has been passed to `send_to`, and a datagram is delivered
as a packet. Here packets go the way of the code: into the outgoing channel of the socket, from there
into the buffer of its send task, as bytes over UDP, and through a poll of the receive task at the
other end. UDP loses, copies and reorders.

A socket exists while somebody holds it: a user or a listener (`held`), a stream, or a pending
`connect`. A task that is polled after that shuts down, and the send task takes what it has not sent
with it. The outgoing channel takes packets as long as the send task is there.

What connects, accepts and calls do is what they do in a `Journal`, whose network has nothing in
flight here.
-/

namespace UtpSafety

/-- A UDP datagram. -/
structure Frame where
  source : SocketAddr
  destination : SocketAddr
  bytes : Bytes
  deriving DecidableEq

/-- What `send_to` is called with. -/
def Datagram.item (datagram : Datagram) : Packet × SocketAddr :=
  (datagram.packet, datagram.destination)

structure System where
  journal : Journal
  /-- The send tasks that have not shut down. -/
  senders : SocketAddr → Option PacketSender
  /-- Which receive tasks have not shut down. -/
  receiving : SocketAddr → Bool
  held : SocketAddr → Bool
  wire : List Frame
  /-- Every datagram whose send returned `Ok`, and every datagram that was received. -/
  transmitted : List Frame
  received : List Frame

inductive SystemAction where
  | connect (localAddr remoteAddr : SocketAddr) (draws : List UInt16)
  | resume (party : Nat)
  | accept (localAddr : SocketAddr) (seqNumber : UInt16)
  | call (party : Nat) (call : Call)
  | drop (party : Nat)
  | release (localAddr : SocketAddr)
  | pollSender (localAddr : SocketAddr) (yields : Nat → Bool)
      (pollSendTo : Nat → Bytes → SocketAddr → SendResult) (fuel : Nat)
  | pollReceiver (localAddr : SocketAddr) (answers : List Received)
  | duplicate (frame : Frame)
  | lose (frame : Frame)

/-- The call, when the outgoing channel takes every packet or none. -/
def Call.answered (queues : Bool) : Call → Call
  | .pollWrite env buf => .pollWrite { env with queues := fun _ => queues } buf
  | .pollRead env remaining => .pollRead { env with queues := fun _ => queues } remaining
  | .pollFlush env => .pollFlush { env with queues := fun _ => queues }

/-- The datagrams that come with the answers. -/
def Received.frames (localAddr : SocketAddr) (answers : List Received) : List Frame :=
  answers.filterMap fun
    | .datagram bytes remoteAddr => some ⟨remoteAddr, localAddr, bytes⟩
    | _ => none

/-- A receive task has changed its socket, and may have put a packet into a channel. -/
def Journal.routed (journal : Journal) (localAddr : SocketAddr) (socket : UtpSocket) :
    Option (Nat × Packet) → Journal
  | none => { journal with network := journal.network.withSocket localAddr socket }
  | some (channel, packet) =>
      ⟨(journal.network.withSocket localAddr socket).enqueue channel packet, fun index =>
        if index = channel then (journal.histories index).bind fun solo => solo.step (.arrive packet)
        else journal.histories index⟩

namespace System

def init : System where
  journal := Journal.init
  senders := fun _ => some PacketSender.spawned
  receiving := fun _ => true
  held := fun _ => true
  wire := []
  transmitted := []
  received := []

/-- Whether the socket still exists. -/
def upgrades (system : System) (localAddr : SocketAddr) : Bool :=
  system.held localAddr || system.journal.network.parties.any fun party =>
    party.connection.localAddr = localAddr && party.state.alive

/-- The items that a socket has passed to its send task and that are not sent yet. -/
def waiting (system : System) (localAddr : SocketAddr) : List (Packet × SocketAddr) :=
  match system.senders localAddr with
  | none => []
  | some sender => sender.outgoingBuffer ++ sender.outgoingRx.queue

/-- The packets go into the outgoing channel of the socket they come from. -/
def handOver (system : System) (datagrams : List Datagram) (localAddr : SocketAddr) :
    Option PacketSender :=
  (system.senders localAddr).map fun sender =>
    { sender with outgoingRx.queue := sender.outgoingRx.queue
        ++ (datagrams.filter fun datagram => datagram.source = localAddr).map Datagram.item }

/-- A step of the journal. What it puts in flight is handed over to the send tasks. -/
def act (system : System) (action : NetworkAction) : Option System :=
  match system.journal.step action with
  | none => none
  | some ⟨network, histories⟩ =>
      some { system with
        journal := ⟨{ network with inFlight := [] }, histories⟩
        senders := system.handOver network.inFlight }

/-- The part of a pass of the receive task that follows a successful `poll_recv_from`. -/
def receive (localAddr : SocketAddr) (system : System) (bytes : Bytes) (remoteAddr : SocketAddr) :
    Except Panic System := do
  let network := system.journal.network
  let (socket, delivered) ←
    (network.sockets localAddr).receiveDatagram network.alive bytes remoteAddr
  return { system with
    journal := system.journal.routed localAddr socket delivered
    wire := system.wire.erase ⟨remoteAddr, localAddr, bytes⟩
    received := system.received ++ [⟨remoteAddr, localAddr, bytes⟩] }

/-- One action; `none` when it cannot be taken or a call has not returned. -/
def step (system : System) : SystemAction → Option System
  | .connect localAddr remoteAddr draws =>
      if system.held localAddr then
        system.act (.connect localAddr remoteAddr draws (system.senders localAddr).isSome)
      else none
  | .resume party => system.act (.resume party)
  | .accept localAddr seqNumber =>
      if system.held localAddr then
        system.act (.accept localAddr seqNumber (system.senders localAddr).isSome)
      else none
  | .call index call =>
      match system.journal.network.parties[index]? with
      | none => none
      | some party =>
          system.act (.call index
            (call.answered (system.senders party.connection.localAddr).isSome))
  | .drop party => system.act (.drop party)
  | .release localAddr =>
      some { system with held := Function.update system.held localAddr false }
  | .pollSender localAddr yields pollSendTo fuel =>
      match system.senders localAddr with
      | none => none
      | some sender =>
          match sender.poll ⟨system.upgrades localAddr, yields, pollSendTo⟩ fuel with
          | none => none
          | some outcome =>
              let frames := outcome.sent.map fun item =>
                ⟨localAddr, item.2, item.1.intoBytes⟩
              let sender := match outcome.result with
                | .ready () => none
                | .pending => some outcome.sender
              some { system with
                senders := Function.update system.senders localAddr sender
                wire := system.wire ++ frames
                transmitted := system.transmitted ++ frames }
  | .pollReceiver localAddr answers =>
      if system.receiving localAddr ∧ (Received.frames localAddr answers).Subperm system.wire then
        if system.upgrades localAddr then
          match PacketReceiver.pollWith (receive localAddr) system answers with
          | .ok (some (system, .pending)) => some system
          | .ok (some (system, .ready ())) =>
              some { system with receiving := Function.update system.receiving localAddr false }
          | _ => none
        else some { system with receiving := Function.update system.receiving localAddr false }
      else none
  | .duplicate frame =>
      if frame ∈ system.wire then some { system with wire := system.wire ++ [frame] } else none
  | .lose frame =>
      if frame ∈ system.wire then some { system with wire := system.wire.erase frame } else none

end System

end UtpSafety
