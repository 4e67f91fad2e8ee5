import UtpSafety.Socket
import UtpSafety.Lib.Run

/-!
# The receive task

`PacketReceiver.poll`, and one socket together with everybody who uses it: connections are registered
and inserted, their receivers are dropped, SYNs are taken, and the receive task is polled while any
buffers arrive from anywhere. Line number `n` is the packet channel that the `n`-th connection was
given.

Next to the socket stands a history that the code does not keep: what each channel has received, the
SYNs that were taken, and the openings, drops and buffers in the order in which they came.

A poll is one action. It goes through the answers of the UDP socket until one of them makes it return.
An answer that is not there yet only ends the poll, so a run in which something happens between two
buffers of one poll is the run in which the poll ends between them.
-/

namespace UtpSafety

/-- What the UDP socket answers in one pass of the receive loop. -/
inductive Received where
  /-- Both `poll_recv_ready` and `poll_recv_from` are `Ready(Ok)`. -/
  | datagram (bytes : Bytes) (remoteAddr : SocketAddr)
  | recvFailed
  | recvNotReady
  | notReady
  | readyFailed
  deriving DecidableEq

/-- The receiving half of a packet channel. -/
structure Line where
  key : UInt16 × SocketAddr
  alive : Bool
  received : List Packet
  deriving DecidableEq

inductive HubEvent where
  | opened (line : Nat) (key : UInt16 × SocketAddr)
  | dropped (line : Nat)
  | datagram (bytes : Bytes) (remoteAddr : SocketAddr)
  deriving DecidableEq

structure Hub where
  socket : UtpSocket
  lines : List Line
  /-- The receive task has not shut down. -/
  receiving : Bool
  accepted : List (Packet × SocketAddr)
  history : List HubEvent
  deriving DecidableEq

inductive HubAction where
  | poll (answers : List Received)
  | register (remoteAddr : SocketAddr) (draws : List UInt16)
  | insert (connectionId : UInt16) (remoteAddr : SocketAddr)
  | drop (line : Nat)
  | getSyn

namespace Hub

def bound (localAddr : SocketAddr) : Hub := ⟨.bind localAddr, [], true, [], []⟩

def isAlive (hub : Hub) (line : Nat) : Bool :=
  match hub.lines[line]? with
  | none => false
  | some line => line.alive

def deliver (hub : Hub) : Option (Nat × Packet) → List Line
  | none => hub.lines
  | some (line, packet) =>
      hub.lines.modify line fun line => { line with received := line.received ++ [packet] }

/-- The part of a pass that follows a successful `poll_recv_from`. -/
def receive (hub : Hub) (bytes : Bytes) (remoteAddr : SocketAddr) : Except Panic Hub := do
  let (socket, delivered) ← hub.socket.receiveDatagram hub.isAlive bytes remoteAddr
  return { hub with
    socket
    lines := hub.deliver delivered
    history := hub.history ++ [.datagram bytes remoteAddr] }

def openLine (hub : Hub) (socket : UtpSocket) (key : UInt16 × SocketAddr) : Hub :=
  { hub with
    socket
    lines := hub.lines ++ [⟨key, true, []⟩]
    history := hub.history ++ [.opened hub.lines.length key] }

end Hub

/-- The loop of `PacketReceiver.poll`, for whatever `receive` does with a datagram. There is no result as
long as no answer makes the poll return. -/
def PacketReceiver.pollWith {σ : Type} (receive : σ → Bytes → SocketAddr → Except Panic σ) :
    σ → List Received → Except Panic (Option (σ × Poll Unit))
  | _, [] => .ok none
  | state, .datagram bytes remoteAddr :: answers => do
      let state ← receive state bytes remoteAddr
      pollWith receive state answers
  | state, .recvFailed :: answers => pollWith receive state answers
  | state, .recvNotReady :: _ => .ok (some (state, .pending))
  | state, .notReady :: _ => .ok (some (state, .pending))
  -- The IO driver might have terminated, in which case the task shuts down.
  | state, .readyFailed :: _ => .ok (some (state, .ready ()))

/-- A poll while the socket exists: the UDP socket can be upgraded, and so can the routing table and
the SYN queue, which are there as long as the socket is. -/
def PacketReceiver.poll (hub : Hub) (answers : List Received) :
    Except Panic (Option (Hub × Poll Unit)) :=
  pollWith Hub.receive hub answers

/-- One action; `none` when a call has not returned or there is nothing to act on. -/
def Hub.step (hub : Hub) : HubAction → Option Hub
  | .poll answers =>
      if hub.receiving then
        match PacketReceiver.poll hub answers with
        | .ok (some (hub, .pending)) => some hub
        | .ok (some (hub, .ready ())) => some { hub with receiving := false }
        | _ => none
      else none
  | .register remoteAddr draws =>
      match hub.socket.registerConnection remoteAddr hub.lines.length draws with
      | none => none
      | some (connectionId, socket) => some (hub.openLine socket (connectionId, remoteAddr))
  | .insert connectionId remoteAddr =>
      match hub.socket.insertConnection connectionId remoteAddr hub.lines.length with
      | .error _ => some hub
      | .ok socket => some (hub.openLine socket (connectionId, remoteAddr))
  | .drop line =>
      if hub.isAlive line then
        some { hub with
          lines := hub.lines.modify line fun line => { line with alive := false }
          history := hub.history ++ [.dropped line] }
      else none
  | .getSyn =>
      match hub.socket.synQueue with
      | [] => none
      | syn :: rest =>
          some { hub with
            socket := { hub.socket with synQueue := rest }
            accepted := hub.accepted ++ [syn] }

end UtpSafety
