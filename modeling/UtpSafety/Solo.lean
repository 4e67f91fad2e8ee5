import UtpSafety.Pair

/-!
# One stream and whatever arrives

The calls on one stream in any order, with any data and state packets put into its mailbox between
them and any answers of the outgoing channel to its sends. The mailbox may be closed, after which
nothing more arrives. A call that panics ends the run.

Next to the stream stands a history that the code does not keep: the packets that have arrived, the
packets that were handed to the socket, the writes as their caller saw them, and the bytes that reads
have handed out.
-/

namespace UtpSafety

/-- A call of `poll_write`: whether the stream had been shut down, the buffer, and the result. -/
structure Write where
  shutdown : Bool
  buf : Bytes
  result : Poll (Except IoError Nat)
  deriving DecidableEq

structure Solo where
  stream : UtpStream
  arrived : List Packet
  sent : List (Packet × SocketAddr)
  writes : List Write
  delivered : Bytes

inductive SoloAction where
  | arrive (packet : Packet)
  | close
  | pollWrite (env : Env) (buf : Bytes)
  | pollRead (env : Env) (remaining : Nat)
  | pollFlush (env : Env)

namespace Solo

def start (stream : UtpStream) : Solo := ⟨stream, stream.inboundPackets.queue, [], [], []⟩

def after {α : Type} (solo : Solo) (outcome : Outcome α) : Solo :=
  { solo with stream := outcome.stream, sent := solo.sent ++ outcome.sent }

/-- One action; `none` when nothing can arrive or the call panics. -/
def step (solo : Solo) : SoloAction → Option Solo
  | .arrive packet =>
      if solo.stream.inboundPackets.closed = false
          ∧ (packet.packetType = .data ∨ packet.packetType = .state) then
        some { solo with
          stream.inboundPackets.queue := solo.stream.inboundPackets.queue ++ [packet]
          arrived := solo.arrived ++ [packet] }
      else none
  | .close => some { solo with stream.inboundPackets.closed := true }
  | .pollWrite env buf =>
      let outcome := solo.stream.pollWrite env buf
      some { solo.after outcome with
        writes := solo.writes ++ [⟨solo.stream.isShutdown, buf, outcome.result⟩] }
  | .pollRead env remaining =>
      match solo.stream.pollRead env remaining with
      | .error _ => none
      | .ok outcome =>
          some { solo.after outcome with delivered := solo.delivered ++ handedOut outcome.result }
  | .pollFlush env =>
      match solo.stream.pollFlush env with
      | .error _ => none
      | .ok outcome => some (solo.after outcome)

def dataSent (solo : Solo) : List Packet :=
  (solo.sent.map Prod.fst).filter fun packet => packet.packetType = .data

end Solo

end UtpSafety
