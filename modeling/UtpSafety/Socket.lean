import UtpSafety.Stream

/-!
# The socket

The routing table of a socket leads from a connection id and a remote address to the sending half of
a packet channel. Channels are named by numbers here: whoever holds the receiving half knows the
number, and `alive` says whether anybody still does. The outgoing channel and the send task behind it
are the network.
-/

namespace UtpSafety

structure UtpSocket where
  localAddr : SocketAddr
  routingTable : Finmap fun _ : UInt16 × SocketAddr => Nat
  synQueue : List (Packet × SocketAddr)
  deriving DecidableEq

namespace UtpSocket

def bind (localAddr : SocketAddr) : UtpSocket := ⟨localAddr, ∅, []⟩

/-- `draws` are the random ids in the order in which they come up. There is no result as long as all
of them are taken. -/
def registerConnection (socket : UtpSocket) (remoteAddr : SocketAddr) (channel : Nat) :
    List UInt16 → Option (UInt16 × UtpSocket)
  | [] => none
  | connectionId :: draws =>
      match socket.routingTable.lookup (connectionId, remoteAddr) with
      | some _ => registerConnection socket remoteAddr channel draws
      | none => some (connectionId, { socket with
          routingTable := socket.routingTable.insert (connectionId, remoteAddr) channel })

def insertConnection (socket : UtpSocket) (connectionId : UInt16) (remoteAddr : SocketAddr)
    (channel : Nat) : Except IoError UtpSocket :=
  match socket.routingTable.lookup (connectionId, remoteAddr) with
  | some _ => .error (.connection (.alreadyExists connectionId remoteAddr))
  | none => .ok { socket with
      routingTable := socket.routingTable.insert (connectionId, remoteAddr) channel }

/-- What `PacketReceiver` does with a packet: a SYN is queued for the listeners, and any other packet
goes to the channel of its connection, which is the result. An entry whose channel is dead is
removed. -/
def routePacket (socket : UtpSocket) (alive : Nat → Bool) (packet : Packet)
    (remoteAddr : SocketAddr) : UtpSocket × Option Nat :=
  if packet.packetType = .syn then
    ({ socket with synQueue := socket.synQueue ++ [(packet, remoteAddr)] }, none)
  else
    match socket.routingTable.lookup (packet.connectionId, remoteAddr) with
    | none => (socket, none)
    | some channel =>
        if alive channel then (socket, some channel)
        else ({ socket with
          routingTable := socket.routingTable.erase (packet.connectionId, remoteAddr) }, none)

/-- What `PacketReceiver` does with a datagram, of which no more than the receive buffer takes is
seen. A malformed one is ignored. -/
def receiveDatagram (socket : UtpSocket) (alive : Nat → Bool) (datagram : Bytes)
    (remoteAddr : SocketAddr) : Except Panic (UtpSocket × Option (Nat × Packet)) := do
  match ← Packet.tryFrom (datagram.take maxDatagramSize) with
  | .error _ => return (socket, none)
  | .ok packet =>
      let (socket, channel) := socket.routePacket alive packet remoteAddr
      return (socket, channel.map fun channel => (channel, packet))

end UtpSocket

end UtpSafety
