import UtpSafety.Socket

/-!
# Connecting and accepting

`UtpStream::connect` waits in the middle, so it is cut in two there: `connect` runs up to the point
where the SYN has been sent, and `connected` goes on with what is in the mailbox. `accept` runs from
the point where there is a SYN to be taken.
-/

namespace UtpSafety

namespace UtpStream

def synPacket (connectionIdRecv : UInt16) : Packet where
  packetType := .syn
  version := 1
  connectionId := connectionIdRecv
  timestampMicros := 0
  timestampDeltaMicros := 0
  windowSize := 0
  seqNumber := 1
  ackNumber := 0
  extensions := []
  data := []

/-- The id the connection is registered under, the socket, and whether the SYN was sent. -/
def connect (queues : Bool) (draws : List UInt16) (channel : Nat) (socket : UtpSocket)
    (remoteAddr : SocketAddr) :
    Option (UInt16 × UtpSocket × Except IoError (Packet × SocketAddr)) := do
  let (connectionIdRecv, socket) ← socket.registerConnection remoteAddr channel draws
  return (connectionIdRecv, socket, sendTo queues (synPacket connectionIdRecv) remoteAddr)

/-- The rest of `connect`, once a response or the end of the packet stream is there. The second
sequence number is `1` plus one. -/
def connected (localAddr : SocketAddr) (connectionIdRecv : UInt16) (remoteAddr : SocketAddr)
    (inboundPackets : Mailbox) : Option (Except Panic UtpStream) :=
  match inboundPackets.queue with
  | [] => if inboundPackets.closed then some (.error .unwrapNone) else none
  | responsePacket :: rest =>
      match responsePacket.packetType with
      | .state =>
          some (.ok (UtpStream.new localAddr connectionIdRecv (connectionIdRecv + 1) remoteAddr
            { inboundPackets with queue := rest } (1 + 1) responsePacket.seqNumber))
      | _ => some (.error .todo)

end UtpStream

namespace UtpListener

def synAckPacket (connectionIdSend seqNumber ackNumber : UInt16) : Packet where
  packetType := .state
  version := 1
  connectionId := connectionIdSend
  timestampMicros := 0
  timestampDeltaMicros := 0
  windowSize := 0
  seqNumber := seqNumber
  ackNumber := ackNumber
  extensions := []
  data := []

/-- What `accept` comes to: a stream, of which the SYN-ACK has been sent; an error when it could not
be sent; a panic when the connection could not be inserted. In all three the SYN is gone. -/
structure Accepted where
  syn : Packet
  remoteAddr : SocketAddr
  socket : UtpSocket
  result : Except Panic (Except IoError (UtpStream × (Packet × SocketAddr)))

/-- `seqNumber` is the random number that the SYN-ACK carries. -/
def accept (queues : Bool) (seqNumber : UInt16) (channel : Nat) (socket : UtpSocket) :
    Option Accepted :=
  match socket.synQueue with
  | [] => none
  | (packet, remoteAddr) :: rest =>
      let socket := { socket with synQueue := rest }
      let connectionIdRecv := packet.connectionId + 1
      let connectionIdSend := packet.connectionId
      let ackNumber := packet.seqNumber
      match socket.insertConnection connectionIdRecv remoteAddr channel with
      | .error _ => some ⟨packet, remoteAddr, socket, .error .todo⟩
      | .ok socket =>
          let synAck := synAckPacket connectionIdSend seqNumber ackNumber
          match sendTo queues synAck remoteAddr with
          | .error error => some ⟨packet, remoteAddr, socket, .ok (.error error)⟩
          | .ok queued =>
              some ⟨packet, remoteAddr, socket, .ok (.ok (UtpStream.new socket.localAddr
                connectionIdRecv connectionIdSend remoteAddr ⟨[], false⟩ (seqNumber + 1) ackNumber,
                queued))⟩

end UtpListener

end UtpSafety
