import Mathlib.Data.Finmap
import UtpSafety.Congestion
import UtpSafety.Lib.Chunks

/-!
# The stream

`UtpStream` and its three polls, function by function. Whatever a call asks of the world while it
runs comes from its `Env`: the clock, whether the outgoing channel takes a packet, and whether the
mailbox reports `Pending` although packets are waiting, which the channel is free to do. Each answer
is indexed by something that changes between two questions of one call, so that an arbitrary `Env`
stands for arbitrary answers.
-/

namespace UtpSafety

/-- Ethernet MTU minus IP and UDP header sizes. -/
def maxDatagramSize : Nat := 1472

def maxDataSegmentSize : Nat := maxDatagramSize - packetHeaderLen

/-- The receiving half of a packet channel. It is closed when the sending half is gone. -/
structure Mailbox where
  queue : List Packet
  closed : Bool
  deriving DecidableEq, Repr

structure UtpStream where
  localAddr : SocketAddr
  congestionController : CongestionController
  connectionIdRecv : UInt16
  connectionIdSend : UInt16
  remoteAddr : SocketAddr
  inboundPackets : Mailbox
  seqNumber : UInt16
  ackNumber : UInt16
  inboundData : Finmap fun _ : UInt16 => Bytes
  receivedData : Bytes
  unackedData : List (UInt16 × Bytes)
  isShutdown : Bool
  deriving DecidableEq

structure Env where
  /-- The clock when a packet is received with this many packets queued behind it. -/
  receivedAt : Nat → UInt32
  /-- The clock at this send of the call. -/
  sentAt : Nat → UInt32
  /-- Whether the outgoing channel takes this send of the call. -/
  queues : Nat → Bool
  /-- Whether the mailbox reports `Pending` with this many packets queued. -/
  yields : Nat → Bool

/-- The errors the crate wraps in an `io::Error`. A closed channel gives back what was not sent. -/
inductive IoError where
  | channelClosed (unsent : Packet × SocketAddr)
  | connection (error : ConnectionError)
  deriving DecidableEq, Repr

/-- What a call leaves behind: the stream, the packets it queued for sending, and its result. -/
structure Outcome (α : Type) where
  stream : UtpStream
  sent : List (Packet × SocketAddr)
  result : Poll (Except IoError α)

/-- `UtpSocket::send_to`: the pair goes into the outgoing channel, unless the send task is gone. -/
def sendTo (queues : Bool) (packet : Packet) (remoteAddr : SocketAddr) :
    Except IoError (Packet × SocketAddr) :=
  if queues then .ok (packet, remoteAddr) else .error (.channelClosed (packet, remoteAddr))

namespace UtpStream

def new (localAddr : SocketAddr) (connectionIdRecv connectionIdSend : UInt16)
    (remoteAddr : SocketAddr) (inboundPackets : Mailbox) (seqNumber ackNumber : UInt16) :
    UtpStream where
  localAddr := localAddr
  congestionController := CongestionController.new
  connectionIdRecv := connectionIdRecv
  connectionIdSend := connectionIdSend
  remoteAddr := remoteAddr
  inboundPackets := inboundPackets
  seqNumber := seqNumber
  ackNumber := ackNumber
  inboundData := ∅
  receivedData := []
  unackedData := []
  isShutdown := false

/-! ### Receiving -/

def isSuspicious (stream : UtpStream) (packet : Packet) : Except Panic Bool :=
  match packet.packetType with
  | .data =>
      let acceptableDistance : UInt16 := 128
      let leftDistance := stream.ackNumber - packet.seqNumber
      let rightDistance := packet.seqNumber - stream.ackNumber
      .ok (leftDistance > acceptableDistance && rightDistance > acceptableDistance)
  | .state =>
      let acceptableDistance := stream.unackedData.length + 3
      let leftDistance := (stream.seqNumber - packet.ackNumber).toNat
      .ok (leftDistance == 0 || leftDistance > acceptableDistance)
  | _ => .error .todo

/-- The `pop_front` loop over the data in flight. The first entry that is not acknowledged is put
back and ends the loop. The comparison is the one of plain integers. -/
def popAcked (ackNumber : UInt16) : List (UInt16 × Bytes) → List (UInt16 × Bytes)
  | [] => []
  | (oldestSeqNum, data) :: rest =>
      if oldestSeqNum ≤ ackNumber then popAcked ackNumber rest else (oldestSeqNum, data) :: rest

def handlePacket (stream : UtpStream) (packet : Packet) : Except Panic UtpStream :=
  match packet.packetType with
  | .data =>
      .ok { stream with inboundData := stream.inboundData.insert packet.seqNumber packet.data }
  | .state => .ok { stream with unackedData := popAcked packet.ackNumber stream.unackedData }
  | _ => .error .todo

/-- The loop of `pollReadPacket` over the packets that are queued. -/
def pollQueue (env : Env) (stream : UtpStream) :
    List Packet → Except Panic (UtpStream × Poll (Option Packet))
  | [] =>
      if env.yields 0 then
        .ok ({ stream with inboundPackets.queue := [] }, .pending)
      else if stream.inboundPackets.closed then
        .ok ({ stream with inboundPackets.queue := [], isShutdown := true }, .ready none)
      else
        .ok ({ stream with inboundPackets.queue := [] }, .pending)
  | packet :: rest =>
      if env.yields (rest.length + 1) then
        .ok ({ stream with inboundPackets.queue := packet :: rest }, .pending)
      else do
        let receivedAt := env.receivedAt rest.length
        if ← stream.isSuspicious packet then
          pollQueue env stream rest
        else
          return ({ stream with
            inboundPackets.queue := rest
            congestionController :=
              stream.congestionController.updateState receivedAt packet }, .ready (some packet))

def pollReadPacket (env : Env) (stream : UtpStream) :
    Except Panic (UtpStream × Poll (Option Packet)) :=
  pollQueue env stream stream.inboundPackets.queue

theorem pollQueue_length {env : Env} {stream stream' : UtpStream} {queue : List Packet}
    {packet : Packet} (hpoll : pollQueue env stream queue = .ok (stream', .ready (some packet))) :
    stream'.inboundPackets.queue.length < queue.length := by
  induction queue with
  | nil =>
      simp only [pollQueue] at hpoll
      split_ifs at hpoll <;> simp at hpoll
  | cons head rest ih =>
      simp only [pollQueue] at hpoll
      split_ifs at hpoll with hyields
      · simp at hpoll
      cases hsuspicious : stream.isSuspicious head with
      | error panic => simp [hsuspicious, bind, Except.bind] at hpoll
      | ok suspicious =>
          cases suspicious with
          | true =>
              simp only [hsuspicious, bind, Except.bind, if_true] at hpoll
              have hrest := ih hpoll
              simp only [List.length_cons]
              omega
          | false =>
              simp only [hsuspicious, bind, Except.bind, Bool.false_eq_true, if_false, pure,
                Except.pure, Except.ok.injEq, Prod.mk.injEq] at hpoll
              rw [← hpoll.1]
              simp

theorem handlePacket_inboundPackets {stream stream' : UtpStream} {packet : Packet}
    (hhandle : stream.handlePacket packet = .ok stream') :
    stream'.inboundPackets = stream.inboundPackets := by
  unfold handlePacket at hhandle
  split at hhandle <;> cases hhandle <;> rfl

/-- The loop that opens `poll_read` and `poll_flush`: handle packets while there are any. The flag
says that the packet stream has terminated. -/
def drain (env : Env) : Loop.Measured UtpStream (Except Panic (UtpStream × Bool)) where
  body stream :=
    match stream.pollReadPacket env with
    | .error panic => .done (.error panic)
    | .ok (stream, .pending) => .done (.ok (stream, false))
    | .ok (stream, .ready none) => .done (.ok (stream, true))
    | .ok (stream, .ready (some packet)) =>
        match stream.handlePacket packet with
        | .error panic => .done (.error panic)
        | .ok stream => .next stream
  measure stream := stream.inboundPackets.queue.length
  decreases := by
    intro stream stream' hbody
    split at hbody
    · cases hbody
    · cases hbody
    · cases hbody
    · rename_i polled packet hpoll
      split at hbody
      · cases hbody
      · rename_i handled hhandle
        cases hbody
        rw [handlePacket_inboundPackets hhandle]
        exact pollQueue_length hpoll

/-- The loop of `poll_read` that assembles received data in order. -/
def assembly : Loop.Measured (UtpStream × UInt16) UtpStream where
  body := fun (stream, nextSeqNum) =>
    match stream.inboundData.lookup nextSeqNum with
    | none => .done stream
    | some data =>
        .next ({ stream with
          inboundData := stream.inboundData.erase nextSeqNum
          receivedData := stream.receivedData ++ data
          ackNumber := nextSeqNum }, nextSeqNum + 1)
  measure := fun (stream, _) => stream.inboundData.keys.card
  decreases := by
    rintro ⟨stream, nextSeqNum⟩ ⟨stream', nextSeqNum'⟩ hbody
    dsimp only at hbody
    split at hbody
    · cases hbody
    · rename_i data hlookup
      cases hbody
      dsimp only
      rw [Finmap.keys_erase]
      exact Finset.card_erase_lt_of_mem
        (Finmap.mem_keys.mpr (Finmap.mem_of_lookup_eq_some hlookup))

def assemble (stream : UtpStream) : UtpStream :=
  assembly.run (stream, stream.ackNumber + 1)

/-! ### Sending -/

def sendPacket (env : Env) (index : Nat) (stream : UtpStream) (packetType : PacketType)
    (seqNumber ackNumber : UInt16) (extensions : List Extension) (data : Bytes) :
    Except IoError (Packet × SocketAddr) :=
  sendTo (env.queues index)
    { packetType, version := 1, connectionId := stream.connectionIdSend,
      timestampMicros := env.sentAt index, timestampDeltaMicros := 0, windowSize := 0, seqNumber,
      ackNumber, extensions, data } stream.remoteAddr

def sendAck (env : Env) (index : Nat) (stream : UtpStream) : Except IoError (Packet × SocketAddr) :=
  stream.sendPacket env index .state stream.seqNumber stream.ackNumber [] []

def sendData (env : Env) (index : Nat) (stream : UtpStream) (data : Bytes) :
    Except IoError (UtpStream × (Packet × SocketAddr)) := do
  let queued ← stream.sendPacket env index .data stream.seqNumber stream.ackNumber [] data
  return ({ stream with
    unackedData := stream.unackedData ++ [(stream.seqNumber, data)]
    seqNumber := stream.seqNumber + 1 }, queued)

/-! ### The polls -/

/-- `remaining` is the capacity left in the read buffer. On success the result is what was put into
it. -/
def pollRead (env : Env) (stream : UtpStream) (remaining : Nat) : Except Panic (Outcome Bytes) := do
  let (stream, terminated) ← (drain env).run stream
  if terminated then
    return ⟨stream, [], .ready (.ok [])⟩
  let stream := stream.assemble
  match stream.sendAck env 0 with
  | .error error => return ⟨stream, [], .ready (.error error)⟩
  | .ok queued =>
      if stream.receivedData.isEmpty then
        return ⟨stream, [queued], .pending⟩
      else
        let chunk :=
          if stream.receivedData.length > remaining then stream.receivedData.take remaining
          else stream.receivedData
        return ⟨{ stream with receivedData := stream.receivedData.drop chunk.length }, [queued],
          .ready (.ok chunk)⟩

/-- The loop of `poll_write` over the chunks of the buffer. -/
def writeChunks (env : Env) : Nat → UtpStream → Nat → List Bytes → Outcome Nat
  | _, stream, bytesWritten, [] => ⟨stream, [], .ready (.ok bytesWritten)⟩
  | index, stream, bytesWritten, chunk :: rest =>
      match stream.sendData env index chunk with
      | .error error => ⟨stream, [], .ready (.error error)⟩
      | .ok (stream, queued) =>
          let outcome := writeChunks env (index + 1) stream (bytesWritten + chunk.length) rest
          { outcome with sent := queued :: outcome.sent }

def pollWrite (env : Env) (stream : UtpStream) (buf : Bytes) : Outcome Nat :=
  if stream.isShutdown then ⟨stream, [], .ready (.ok 0)⟩
  else writeChunks env 0 stream 0 (Chunks.chunks maxDataSegmentSize buf)

def pollFlush (env : Env) (stream : UtpStream) : Except Panic (Outcome Unit) := do
  let (stream, _) ← (drain env).run stream
  if stream.unackedData.isEmpty then
    return ⟨stream, [], .ready (.ok ())⟩
  else if stream.isShutdown then
    throw .todo
  else
    return ⟨stream, [], .pending⟩

/-- Nothing comes after the flush but a `todo!()`. -/
def pollShutdown (env : Env) (stream : UtpStream) : Except Panic (Outcome Unit) := do
  let outcome ← { stream with isShutdown := true }.pollFlush env
  match outcome.result with
  | .ready (.ok ()) => throw .todo
  | _ => return outcome

end UtpStream

end UtpSafety
