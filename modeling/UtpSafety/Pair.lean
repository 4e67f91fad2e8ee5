import UtpSafety.Stream
import UtpSafety.Lib.Run

/-!
# Two streams and a network between them

Each side polls its stream in any order; the network delivers packets in any order, copies them and
loses them, but makes none up. Next to its stream an endpoint has a history that the code does not
keep: the packets it has sent, the buffers it was given to write and the bytes it has handed out.

A poll is one action. Packets that arrive while a poll drains its mailbox are drained with the rest,
so they may as well have arrived before it, and the packets of a write may stay in flight as long as
they like, so it does not matter that they are all there at once.
-/

namespace UtpSafety

inductive Side where
  | a
  | b
  deriving DecidableEq, Repr

def Side.other : Side → Side
  | .a => .b
  | .b => .a

structure Endpoint where
  stream : UtpStream
  inFlight : List Packet
  sent : List Packet
  written : List Bytes
  delivered : Bytes
  deriving DecidableEq

abbrev Pair := Side → Endpoint

/-- An action of the network names the side whose packets it acts on and one of them. -/
inductive Action where
  | pollWrite (side : Side) (env : Env) (buf : Bytes)
  | pollRead (side : Side) (env : Env) (remaining : Nat)
  | pollFlush (side : Side) (env : Env)
  | deliver (side : Side) (index : Nat)
  | duplicate (side : Side) (index : Nat)
  | lose (side : Side) (index : Nat)

/-- The world of a call whose packets all reach the outgoing channel. -/
def Env.sending (env : Env) : Env := { env with queues := fun _ => true }

def handedOut : Poll (Except IoError Bytes) → Bytes
  | .ready (.ok bytes) => bytes
  | _ => []

namespace Endpoint

/-- The endpoint after a call of its stream: what the call queued is in flight. -/
def after {α : Type} (endpoint : Endpoint) (outcome : Outcome α) : Endpoint :=
  { endpoint with
    stream := outcome.stream
    inFlight := endpoint.inFlight ++ outcome.sent.map Prod.fst
    sent := endpoint.sent ++ outcome.sent.map Prod.fst }

def receive (endpoint : Endpoint) (packet : Packet) : Endpoint :=
  { endpoint with
    stream.inboundPackets.queue := endpoint.stream.inboundPackets.queue ++ [packet] }

def dataSent (endpoint : Endpoint) : List Packet :=
  endpoint.sent.filter fun packet => packet.packetType = .data

def chunks (endpoint : Endpoint) : List Bytes :=
  endpoint.written.flatMap (Chunks.chunks maxDataSegmentSize)

end Endpoint

/-- One action; `none` when there is no such packet or the call panics. -/
def Pair.step (pair : Pair) : Action → Option Pair
  | .pollWrite side env buf =>
      let outcome := (pair side).stream.pollWrite env.sending buf
      some (Function.update pair side
        { (pair side).after outcome with written := (pair side).written ++ [buf] })
  | .pollRead side env remaining =>
      match (pair side).stream.pollRead env.sending remaining with
      | .error _ => none
      | .ok outcome =>
          some (Function.update pair side
            { (pair side).after outcome with
              delivered := (pair side).delivered ++ handedOut outcome.result })
  | .pollFlush side env =>
      match (pair side).stream.pollFlush env.sending with
      | .error _ => none
      | .ok outcome => some (Function.update pair side ((pair side).after outcome))
  | .deliver side index =>
      match (pair side).inFlight[index]? with
      | none => none
      | some packet =>
          let pair := Function.update pair side
            { pair side with inFlight := (pair side).inFlight.eraseIdx index }
          some (Function.update pair side.other ((pair side.other).receive packet))
  | .duplicate side index =>
      match (pair side).inFlight[index]? with
      | none => none
      | some packet =>
          some (Function.update pair side
            { pair side with inFlight := (pair side).inFlight ++ [packet] })
  | .lose side index =>
      match (pair side).inFlight[index]? with
      | none => none
      | some _ =>
          some (Function.update pair side
            { pair side with inFlight := (pair side).inFlight.eraseIdx index })

/-- A stream as `connect` and `accept` make it, with no history. -/
structure Endpoint.Fresh (endpoint : Endpoint) : Prop where
  queue : endpoint.stream.inboundPackets = ⟨[], false⟩
  inboundData : endpoint.stream.inboundData = ∅
  receivedData : endpoint.stream.receivedData = []
  unackedData : endpoint.stream.unackedData = []
  isShutdown : endpoint.stream.isShutdown = false
  inFlight : endpoint.inFlight = []
  sent : endpoint.sent = []
  written : endpoint.written = []
  delivered : endpoint.delivered = []

/-- The next packet that `sender` sends is the one `receiver` assembles next. -/
def Expects (receiver sender : Endpoint) : Prop :=
  receiver.stream.ackNumber + 1 = sender.stream.seqNumber

/-- Two streams in agreement, with empty buffers and nothing in flight. -/
structure Pair.Agreed (pair : Pair) : Prop where
  fresh : ∀ side, (pair side).Fresh
  expects : ∀ side, Expects (pair side.other) (pair side)

/-- Two streams that have just been made; each side numbers its first data packet `first side`. -/
def Pair.numbered (first : Side → UInt16) : Pair := fun side =>
  { stream := UtpStream.new (.v4 0x7F000001 9000) 8 9 (.v4 0x7F000001 9001) ⟨[], false⟩ (first side)
      (first side.other - 1)
    inFlight := []
    sent := []
    written := []
    delivered := [] }

theorem Pair.agreed_numbered (first : Side → UInt16) : (Pair.numbered first).Agreed where
  fresh side := ⟨rfl, rfl, rfl, rfl, rfl, rfl, rfl, rfl, rfl⟩
  expects side := by
    have hother : side.other.other = side := by cases side <;> rfl
    simp [Expects, Pair.numbered, UtpStream.new, hother]

/-- The world of a call in which nothing special happens. -/
def Env.plain : Env := ⟨fun _ => 0, fun _ => 0, fun _ => true, fun _ => false⟩

end UtpSafety
