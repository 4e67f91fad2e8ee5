import UtpSafety.Handshake
import UtpSafety.Lib.Run

/-!
# Many sockets

Every address has a socket. The parties are the calls of `connect` and `accept` and the streams they
return; party number `i` holds the receiving half of channel `i`. Datagrams travel as bytes from one
socket to another, in any order; the network copies and loses them, but makes none up and leaves the
source addresses alone.

Three things are recorded that the code does not keep: which connection a party belongs to, the
stream that `connect` or `accept` returned as it was at that moment, and every packet that was passed
to `send_to`, with the party and the place it came from.
-/

namespace UtpSafety

inductive Role where
  | connector
  | acceptor
  deriving DecidableEq, Repr

/-- One end of a connection. `connectionId` is the id that the SYN of the connection carries. -/
structure Connection where
  role : Role
  localAddr : SocketAddr
  remoteAddr : SocketAddr
  connectionId : UInt16
  deriving DecidableEq, Repr

inductive PartyState where
  /-- `connect` is waiting. -/
  | connecting (inboundPackets : Mailbox)
  | streaming (stream : UtpStream)
  /-- `accept` could not send its SYN-ACK and returned an error. -/
  | unanswered
  | dropped
  deriving DecidableEq

structure Party where
  connection : Connection
  returned : Option UtpStream
  state : PartyState
  deriving DecidableEq

/-- The places where the crate calls `send_to`. -/
inductive Site where
  | connect
  | accept
  | stream
  deriving DecidableEq, Repr

structure Datagram where
  source : SocketAddr
  destination : SocketAddr
  packet : Packet
  sender : Nat
  site : Site
  deriving DecidableEq

structure Network where
  sockets : SocketAddr → UtpSocket
  parties : List Party
  inFlight : List Datagram
  passed : List Datagram

inductive Call where
  | pollWrite (env : Env) (buf : Bytes)
  | pollRead (env : Env) (remaining : Nat)
  | pollFlush (env : Env)

inductive NetworkAction where
  | connect (localAddr remoteAddr : SocketAddr) (draws : List UInt16) (queues : Bool)
  | resume (party : Nat)
  | accept (localAddr : SocketAddr) (seqNumber : UInt16) (queues : Bool)
  | call (party : Nat) (call : Call)
  | deliver (index : Nat)
  | duplicate (index : Nat)
  | lose (index : Nat)
  | drop (party : Nat)

namespace Connection

/-- The id under which the end is registered at its socket. -/
def connectionIdRecv (connection : Connection) : UInt16 :=
  match connection.role with
  | .connector => connection.connectionId
  | .acceptor => connection.connectionId + 1

def connectionIdSend (connection : Connection) : UInt16 :=
  match connection.role with
  | .connector => connection.connectionId + 1
  | .acceptor => connection.connectionId

def peer (connection : Connection) : Connection where
  role := match connection.role with
    | .connector => .acceptor
    | .acceptor => .connector
  localAddr := connection.remoteAddr
  remoteAddr := connection.localAddr
  connectionId := connection.connectionId

end Connection

def PartyState.alive : PartyState → Bool
  | .connecting _ => true
  | .streaming _ => true
  | .unanswered => false
  | .dropped => false

def PartyState.receive (packet : Packet) : PartyState → PartyState
  | .connecting inboundPackets =>
      .connecting { inboundPackets with queue := inboundPackets.queue ++ [packet] }
  | .streaming stream =>
      .streaming { stream with
        inboundPackets.queue := stream.inboundPackets.queue ++ [packet] }
  | .unanswered => .unanswered
  | .dropped => .dropped

/-- What an error gives back. -/
def unsent {α : Type} : Except IoError α → List (Packet × SocketAddr)
  | .error (.channelClosed item) => [item]
  | _ => []

/-- The stream after a call, what the call sent, and what it could not send. -/
def UtpStream.perform (stream : UtpStream) :
    Call → Except Panic (UtpStream × List (Packet × SocketAddr) × List (Packet × SocketAddr))
  | .pollWrite env buf =>
      let outcome := stream.pollWrite env buf
      .ok (outcome.stream, outcome.sent, refused outcome.result)
  | .pollRead env remaining => do
      let outcome ← stream.pollRead env remaining
      return (outcome.stream, outcome.sent, refused outcome.result)
  | .pollFlush env => do
      let outcome ← stream.pollFlush env
      return (outcome.stream, outcome.sent, refused outcome.result)
where
  refused {α : Type} : Poll (Except IoError α) → List (Packet × SocketAddr)
    | .ready result => unsent result
    | .pending => []

namespace Network

def init : Network := ⟨UtpSocket.bind, [], [], []⟩

def alive (network : Network) (channel : Nat) : Bool :=
  (network.parties[channel]?).any fun party => party.state.alive

/-- The packets as party `sender` puts them on the wire. -/
def datagrams (source : SocketAddr) (sender : Nat) (site : Site)
    (items : List (Packet × SocketAddr)) : List Datagram :=
  items.map fun item => ⟨source, item.2, item.1, sender, site⟩

def pass (network : Network) (source : SocketAddr) (sender : Nat) (site : Site)
    (sent refused : List (Packet × SocketAddr)) : Network :=
  { network with
    inFlight := network.inFlight ++ datagrams source sender site sent
    passed := network.passed ++ datagrams source sender site (sent ++ refused) }

def withSocket (network : Network) (localAddr : SocketAddr) (socket : UtpSocket) : Network :=
  { network with sockets := Function.update network.sockets localAddr socket }

def join (network : Network) (party : Party) : Network :=
  { network with parties := network.parties ++ [party] }

def withParty (network : Network) (index : Nat) (party : Party) : Network :=
  { network with parties := network.parties.set index party }

def enqueue (network : Network) (channel : Nat) (packet : Packet) : Network :=
  match network.parties[channel]? with
  | none => network
  | some party => network.withParty channel { party with state := party.state.receive packet }

/-- One action; `none` when it cannot be taken. A call that panics drops the stream or the pending
`connect` it was made on. -/
def step (network : Network) : NetworkAction → Option Network
  | .connect localAddr remoteAddr draws queues =>
      let index := network.parties.length
      match UtpStream.connect queues draws index (network.sockets localAddr) remoteAddr with
      | none => none
      | some (connectionId, socket, result) =>
          let connection := ⟨.connector, localAddr, remoteAddr, connectionId⟩
          let network := network.withSocket localAddr socket
          match result with
          | .ok queued =>
              some ((network.join ⟨connection, none, .connecting ⟨[], false⟩⟩).pass localAddr index
                .connect [queued] [])
          | .error error =>
              some ((network.join ⟨connection, none, .dropped⟩).pass localAddr index .connect []
                (unsent (.error error : Except IoError Unit)))
  | .resume index =>
      match network.parties[index]? with
      | some ⟨connection, returned, .connecting inboundPackets⟩ =>
          match UtpStream.connected connection.localAddr connection.connectionId
            connection.remoteAddr inboundPackets with
          | none => none
          | some (.error _) => some (network.withParty index ⟨connection, returned, .dropped⟩)
          | some (.ok stream) =>
              some (network.withParty index ⟨connection, some stream, .streaming stream⟩)
      | _ => none
  | .accept localAddr seqNumber queues =>
      let index := network.parties.length
      match UtpListener.accept queues seqNumber index (network.sockets localAddr) with
      | none => none
      | some accepted =>
          let connection := ⟨.acceptor, localAddr, accepted.remoteAddr, accepted.syn.connectionId⟩
          let network := network.withSocket localAddr accepted.socket
          match accepted.result with
          | .error _ => some network
          | .ok (.error error) =>
              some ((network.join ⟨connection, none, .unanswered⟩).pass localAddr index .accept []
                (unsent (.error error : Except IoError Unit)))
          | .ok (.ok (stream, queued)) =>
              some ((network.join ⟨connection, some stream, .streaming stream⟩).pass localAddr index
                .accept [queued] [])
  | .call index call =>
      match network.parties[index]? with
      | some ⟨connection, returned, .streaming stream⟩ =>
          match stream.perform call with
          | .error _ => some (network.withParty index ⟨connection, returned, .dropped⟩)
          | .ok (stream', sent, refused) =>
              some ((network.withParty index ⟨connection, returned, .streaming stream'⟩).pass
                stream.localAddr index .stream sent refused)
      | _ => none
  | .deliver index =>
      match network.inFlight[index]? with
      | none => none
      | some datagram =>
          let rest := { network with inFlight := network.inFlight.eraseIdx index }
          match (network.sockets datagram.destination).receiveDatagram network.alive
            datagram.packet.intoBytes datagram.source with
          | .error _ => some rest
          | .ok (socket, none) => some (rest.withSocket datagram.destination socket)
          | .ok (socket, some (channel, packet)) =>
              some ((rest.withSocket datagram.destination socket).enqueue channel packet)
  | .duplicate index =>
      match network.inFlight[index]? with
      | none => none
      | some datagram => some { network with inFlight := network.inFlight ++ [datagram] }
  | .lose index =>
      match network.inFlight[index]? with
      | none => none
      | some _ => some { network with inFlight := network.inFlight.eraseIdx index }
  | .drop index =>
      match network.parties[index]? with
      | none => none
      | some party => some (network.withParty index { party with state := .dropped })

end Network

end UtpSafety
