import UtpSafety.Stream
import UtpSafety.Lib.Run

/-!
# The send task

`PacketSender.poll`, and the task together with the streams that pass packets to it. A poll fetches
what is in the outgoing channel into its buffer and then sends from the front of the buffer until the
buffer is empty or the socket is not ready. After an error it tries the same packet again, so a poll
need not return: `fuel` bounds its passes through the send loop, and there is no outcome as long as
they are not enough.

A poll is one action. What is passed while a poll fetches is fetched with the rest, so it may as well
have been passed before the poll; what is passed later stays in the channel, so it may as well be
passed after it.
-/

namespace UtpSafety

/-- The receiving half of the outgoing channel. It is closed when the `UtpSocket` is gone. -/
structure OutgoingRx where
  queue : List (Packet × SocketAddr)
  closed : Bool
  deriving DecidableEq

structure PacketSender where
  outgoingRx : OutgoingRx
  outgoingBuffer : List (Packet × SocketAddr)
  deriving DecidableEq

/-- The answers of `poll_send_to`. How many bytes were sent is only logged. -/
inductive SendResult where
  | sent
  | failed
  | notReady
  deriving DecidableEq

structure SenderEnv where
  /-- Whether the socket still exists. -/
  upgrades : Bool
  /-- Whether the channel reports `Pending` with this many pairs queued. -/
  yields : Nat → Bool
  /-- The answer to this attempt of the poll to send these bytes. -/
  pollSendTo : Nat → Bytes → SocketAddr → SendResult

/-- What a poll leaves behind, and the pairs whose send returned `Ok`. -/
structure SenderOutcome where
  sender : PacketSender
  sent : List (Packet × SocketAddr)
  result : Poll Unit
  deriving DecidableEq

/-- The locals of the send loop. -/
structure Sending where
  attempts : Nat
  outgoingBuffer : List (Packet × SocketAddr)
  sent : List (Packet × SocketAddr)
  deriving DecidableEq

namespace PacketSender

def spawned : PacketSender := ⟨⟨[], false⟩, []⟩

/-- The loop over the pairs that are queued in the outgoing channel. The flag says that the channel
has been closed. -/
def fetch (env : SenderEnv) (sender : PacketSender) :
    List (Packet × SocketAddr) → PacketSender × Bool
  | [] => ({ sender with outgoingRx.queue := [] }, !env.yields 0 && sender.outgoingRx.closed)
  | item :: rest =>
      if env.yields (rest.length + 1) then ({ sender with outgoingRx.queue := item :: rest }, false)
      else fetch env { sender with outgoingBuffer := sender.outgoingBuffer ++ [item] } rest

def sendNext (env : SenderEnv) (sending : Sending) : Loop.Pass Sending Sending :=
  match sending.outgoingBuffer with
  | [] => .done sending
  | (packet, remoteAddr) :: rest =>
      let attempts := sending.attempts + 1
      match env.pollSendTo sending.attempts packet.intoBytes remoteAddr with
      | .sent => .next ⟨attempts, rest, sending.sent ++ [(packet, remoteAddr)]⟩
      -- On failure, the packet is put back and tried again.
      | .failed => .next ⟨attempts, (packet, remoteAddr) :: rest, sending.sent⟩
      | .notReady => .done ⟨attempts, (packet, remoteAddr) :: rest, sending.sent⟩

def poll (env : SenderEnv) (fuel : Nat) (sender : PacketSender) : Option SenderOutcome :=
  if env.upgrades then
    let (sender, ended) := sender.fetch env sender.outgoingRx.queue
    if ended then some ⟨sender, [], .ready ()⟩
    else do
      let sending ← Loop.runFor (sendNext env) fuel ⟨0, sender.outgoingBuffer, []⟩
      return ⟨{ sender with outgoingBuffer := sending.outgoingBuffer }, sending.sent, .pending⟩
  else some ⟨sender, [], .ready ()⟩

end PacketSender

/-- The send task with its history: the pairs whose send returned `Ok`, and the pairs that were
passed to `send_to`. -/
structure SendTask where
  sender : PacketSender
  accepted : List (Packet × SocketAddr)
  passed : List (Packet × SocketAddr)
  deriving DecidableEq

inductive SendAction where
  | sendTo (packet : Packet) (remoteAddr : SocketAddr)
  | poll (env : SenderEnv) (fuel : Nat)

namespace SendTask

def spawned : SendTask := ⟨.spawned, [], []⟩

/-- One action; `none` when the poll has not returned or has shut the task down. While the task exists
its channel takes every pair. -/
def step (task : SendTask) : SendAction → Option SendTask
  | .sendTo packet remoteAddr =>
      match sendTo true packet remoteAddr with
      | .error _ => none
      | .ok item =>
          some { task with
            sender.outgoingRx.queue := task.sender.outgoingRx.queue ++ [item]
            passed := task.passed ++ [(packet, remoteAddr)] }
  | .poll env fuel =>
      match task.sender.poll env fuel with
      | none => none
      | some outcome =>
          match outcome.result with
          | .ready () => none
          | .pending =>
              some { task with sender := outcome.sender, accepted := task.accepted ++ outcome.sent }

end SendTask

end UtpSafety
