import UtpSafety.Lib.UpTo
import UtpSafety.Proof.Send
import UtpSafety.Proof.Receive

/-!
# A call without its clocks

A stream reads the clock when it receives a packet and when it sends one, keeps the delays in its
congestion controller, and every packet carries a timestamp, a delay and a window. `untimed` takes all
of this out. What a call does to the rest depends on the rest only.
-/

namespace UtpSafety

def Poll.map {α β : Type} (f : α → β) : Poll α → Poll β
  | .ready value => .ready (f value)
  | .pending => .pending

def Packet.untimed (packet : Packet) : Packet :=
  { packet with timestampMicros := 0, timestampDeltaMicros := 0, windowSize := 0 }

def Packet.untimedItem (item : Packet × SocketAddr) : Packet × SocketAddr := (item.1.untimed, item.2)

def Mailbox.untimed (mailbox : Mailbox) : Mailbox :=
  { mailbox with queue := mailbox.queue.map Packet.untimed }

def UtpStream.untimed (stream : UtpStream) : UtpStream :=
  { stream with
    congestionController := CongestionController.new
    inboundPackets := stream.inboundPackets.untimed }

def Env.untimed (env : Env) : Env :=
  { env with receivedAt := fun _ => 0, sentAt := fun _ => 0 }

/-- The error of a closed channel gives back the packet. -/
def IoError.untimed : IoError → IoError
  | .channelClosed item => .channelClosed (Packet.untimedItem item)
  | .connection error => .connection error

def Outcome.untimed {α : Type} (outcome : Outcome α) : Outcome α :=
  ⟨outcome.stream.untimed, outcome.sent.map Packet.untimedItem,
    outcome.result.map (Except.mapError IoError.untimed)⟩

theorem Packet.map_untimed_untimed (packets : List Packet) :
    (packets.map Packet.untimed).map Packet.untimed = packets.map Packet.untimed := by
  rw [List.map_map]
  rfl

theorem UtpStream.untimed_untimed (stream : UtpStream) : stream.untimed.untimed = stream.untimed := by
  simp only [UtpStream.untimed, Mailbox.untimed, Packet.map_untimed_untimed]

theorem Packet.map_untimedItem_untimedItem (items : List (Packet × SocketAddr)) :
    (items.map Packet.untimedItem).map Packet.untimedItem = items.map Packet.untimedItem := by
  rw [List.map_map]
  rfl

theorem IoError.untimed_untimed {α : Type} (result : Poll (Except IoError α)) :
    (result.map (Except.mapError IoError.untimed)).map (Except.mapError IoError.untimed)
      = result.map (Except.mapError IoError.untimed) := by
  cases result with
  | pending => rfl
  | ready result =>
      cases result with
      | ok value => rfl
      | error error =>
          cases error with
          | channelClosed item => rfl
          | connection error => rfl

theorem Outcome.untimed_untimed {α : Type} (outcome : Outcome α) :
    outcome.untimed.untimed = outcome.untimed := by
  simp only [Outcome.untimed, UtpStream.untimed_untimed, Packet.map_untimedItem_untimedItem,
    IoError.untimed_untimed]

/-! ### Draining the mailbox -/

namespace UtpStream

/-- What one pass of the drain does with what was polled. -/
def handlePolled : Except Panic (UtpStream × Poll (Option Packet)) →
    Loop.Pass UtpStream (Except Panic (UtpStream × Bool))
  | .error panic => .done (.error panic)
  | .ok (stream, .pending) => .done (.ok (stream, false))
  | .ok (stream, .ready none) => .done (.ok (stream, true))
  | .ok (stream, .ready (some packet)) =>
      match stream.handlePacket packet with
      | .error panic => .done (.error panic)
      | .ok stream => .next stream

/-- What was polled, and the value of the drain, without clocks. -/
def untimedPolled : Except Panic (UtpStream × Poll (Option Packet)) →
    Except Panic (UtpStream × Poll (Option Packet)) :=
  Except.map (Prod.map UtpStream.untimed (Poll.map (Option.map Packet.untimed)))

def untimedDrained : Except Panic (UtpStream × Bool) → Except Panic (UtpStream × Bool) :=
  Except.map (Prod.map UtpStream.untimed id)

theorem isSuspicious_untimed (stream : UtpStream) (packet : Packet) :
    stream.untimed.isSuspicious packet.untimed = stream.isSuspicious packet := rfl

theorem handlePacket_untimed (stream : UtpStream) (packet : Packet) :
    stream.untimed.handlePacket packet.untimed
      = (stream.handlePacket packet).map UtpStream.untimed := by
  have htype : packet.untimed.packetType = packet.packetType := rfl
  unfold handlePacket
  rw [htype]
  cases packet.packetType with
  | data => rfl
  | state => rfl
  | _ => rfl

theorem pollQueue_untimed (env : Env) (stream : UtpStream) (queue : List Packet) :
    untimedPolled (pollQueue env.untimed stream.untimed (queue.map Packet.untimed))
      = untimedPolled (pollQueue env stream queue) := by
  induction queue with
  | nil =>
      simp only [List.map_nil, pollQueue, Env.untimed]
      by_cases hyields : env.yields 0 = true
      · rw [if_pos hyields, if_pos hyields]
        rfl
      · rw [if_neg hyields, if_neg hyields]
        by_cases hclosed : stream.inboundPackets.closed = true
        · rw [if_pos hclosed, if_pos (by exact hclosed)]
          rfl
        · rw [if_neg hclosed, if_neg (by exact hclosed)]
          rfl
  | cons packet rest ih =>
      simp only [List.map_cons, pollQueue, isSuspicious_untimed, List.length_map]
      by_cases hyields : env.yields (rest.length + 1) = true
      · rw [if_pos hyields, if_pos (by exact hyields)]
        simp only [untimedPolled, Except.map, Prod.map, UtpStream.untimed, Mailbox.untimed, Poll.map,
          List.map_cons, Packet.map_untimed_untimed]
        rfl
      · rw [if_neg hyields, if_neg (by exact hyields)]
        cases stream.isSuspicious packet with
        | error panic => rfl
        | ok suspicious =>
            cases suspicious with
            | true => exact ih
            | false =>
                simp only [bind, Except.bind, pure, Except.pure, Bool.false_eq_true, if_false,
                  untimedPolled, Except.map, Prod.map, UtpStream.untimed, Mailbox.untimed,
                  Packet.map_untimed_untimed]
                rfl

theorem pollReadPacket_untimed (env : Env) (stream : UtpStream) :
    untimedPolled (stream.untimed.pollReadPacket env.untimed)
      = untimedPolled (stream.pollReadPacket env) :=
  pollQueue_untimed env stream stream.inboundPackets.queue

theorem handlePolled_untimed (polled : Except Panic (UtpStream × Poll (Option Packet))) :
    (handlePolled (untimedPolled polled)).map UtpStream.untimed untimedDrained
      = (handlePolled polled).map UtpStream.untimed untimedDrained := by
  cases polled with
  | error panic => rfl
  | ok polled =>
      obtain ⟨stream, result⟩ := polled
      cases result with
      | pending =>
          simp only [untimedPolled, Except.map, Prod.map, Poll.map, handlePolled, Loop.Pass.map,
            untimedDrained, untimed_untimed]
      | ready packet =>
          cases packet with
          | none =>
              simp only [untimedPolled, Except.map, Prod.map, Poll.map, Option.map, handlePolled,
                Loop.Pass.map, untimedDrained, untimed_untimed]
          | some packet =>
              simp only [untimedPolled, Except.map, Prod.map, Poll.map, Option.map, handlePolled,
                handlePacket_untimed]
              cases stream.handlePacket packet with
              | error panic => rfl
              | ok handled =>
                  simp only [Loop.Pass.map, untimed_untimed]

/-- The drain is the only part of a call that hands over to the congestion controller what the clock
says. -/
theorem drain_untimed (env : Env) (stream : UtpStream) :
    untimedDrained ((drain env.untimed).run stream.untimed)
      = untimedDrained ((drain env).run stream) := by
  have hdrain : ∀ env stream, (drain env).body stream = handlePolled (stream.pollReadPacket env) :=
    fun _ _ => rfl
  refine Loop.Measured.run_upTo (f := UtpStream.untimed) ?_ (untimed_untimed stream)
  intro stream stream' hsame
  rw [hdrain, hdrain, ← handlePolled_untimed, ← handlePolled_untimed (stream'.pollReadPacket env),
    ← pollReadPacket_untimed, ← pollReadPacket_untimed env stream', hsame]
  rfl

/-! ### One call -/

theorem assemble_untimed (stream : UtpStream) : stream.untimed.assemble = stream.assemble.untimed := by
  have hsame : stream.untimed.assemble.untimed = stream.assemble.untimed := by
    refine Loop.Measured.run_upTo (f := Prod.map UtpStream.untimed id) ?_
      (congrArg (·, stream.ackNumber + 1) (untimed_untimed stream))
    rintro ⟨stream, nextSeqNum⟩ ⟨stream', nextSeqNum'⟩ hsame
    obtain ⟨hstream, rfl⟩ := Prod.mk.inj hsame
    dsimp only [id] at hstream ⊢
    have hinbound : stream.inboundData = stream'.inboundData :=
      (congrArg UtpStream.inboundData hstream :)
    simp only [assembly, hinbound]
    cases stream'.inboundData.lookup nextSeqNum with
    | none => exact congrArg Loop.Pass.done hstream
    | some data =>
        exact congrArg (fun stream : UtpStream => Loop.Pass.next ({ stream with
          inboundData := stream'.inboundData.erase nextSeqNum
          receivedData := stream.receivedData ++ data
          ackNumber := nextSeqNum }, nextSeqNum + 1)) hstream
  rw [← hsame, assemble_frame]
  simp only [UtpStream.untimed, Mailbox.untimed, Packet.map_untimed_untimed]

theorem sendAck_untimed (env : Env) (index : Nat) (stream : UtpStream) :
    stream.untimed.sendAck env.untimed index
      = ((stream.sendAck env index).mapError IoError.untimed).map Packet.untimedItem := by
  have hqueues : env.untimed.queues = env.queues := rfl
  simp only [sendAck, sendPacket, sendTo, hqueues]
  cases env.queues index with
  | true => rfl
  | false => rfl

/-- What a read does after the drain. -/
def readDrained (env : Env) (remaining : Nat) : UtpStream × Bool → Outcome Bytes
  | (stream, true) => ⟨stream, [], .ready (.ok [])⟩
  | (stream, false) =>
      match stream.assemble.sendAck env 0 with
      | .error error => ⟨stream.assemble, [], .ready (.error error)⟩
      | .ok queued =>
          if stream.assemble.receivedData.isEmpty then ⟨stream.assemble, [queued], .pending⟩
          else
            let chunk :=
              if stream.assemble.receivedData.length > remaining then
                stream.assemble.receivedData.take remaining
              else stream.assemble.receivedData
            ⟨{ stream.assemble with
                receivedData := stream.assemble.receivedData.drop chunk.length }, [queued],
              .ready (.ok chunk)⟩

/-- What a flush does after the drain. -/
def flushDrained : UtpStream × Bool → Except Panic (Outcome Unit)
  | (stream, _) =>
      if stream.unackedData.isEmpty then .ok ⟨stream, [], .ready (.ok ())⟩
      else if stream.isShutdown then .error .todo
      else .ok ⟨stream, [], .pending⟩

theorem pollRead_eq_readDrained (env : Env) (stream : UtpStream) (remaining : Nat) :
    stream.pollRead env remaining = ((drain env).run stream).map (readDrained env remaining) := by
  rw [pollRead]
  cases (drain env).run stream with
  | error panic => rfl
  | ok drained =>
      obtain ⟨drained, terminated⟩ := drained
      cases terminated with
      | true => rfl
      | false =>
          simp only [bind, Except.bind, pure, Except.pure, Except.map, readDrained,
            Bool.false_eq_true, if_false]
          cases drained.assemble.sendAck env 0 with
          | error error => rfl
          | ok queued =>
              dsimp only
              split_ifs
              · rfl
              · rfl
              · rfl

theorem pollFlush_eq_flushDrained (env : Env) (stream : UtpStream) :
    stream.pollFlush env = ((drain env).run stream).bind flushDrained := rfl

theorem readDrained_untimed (env : Env) (remaining : Nat)
    (drained : Except Panic (UtpStream × Bool)) :
    (untimedDrained drained).map (readDrained env.untimed remaining)
      = (drained.map (readDrained env remaining)).map Outcome.untimed := by
  cases drained with
  | error panic => rfl
  | ok drained =>
      obtain ⟨stream, terminated⟩ := drained
      cases terminated with
      | true => rfl
      | false =>
          have hreceived : stream.assemble.untimed.receivedData = stream.assemble.receivedData := rfl
          simp only [untimedDrained, Except.map, Prod.map, id, readDrained, assemble_untimed,
            sendAck_untimed, hreceived]
          cases stream.assemble.sendAck env 0 with
          | error error => rfl
          | ok queued =>
              dsimp only [Except.mapError]
              split_ifs
              · rfl
              · rfl
              · rfl

theorem flushDrained_untimed (drained : Except Panic (UtpStream × Bool)) :
    (untimedDrained drained).bind flushDrained = (drained.bind flushDrained).map Outcome.untimed := by
  cases drained with
  | error panic => rfl
  | ok drained =>
      obtain ⟨stream, terminated⟩ := drained
      have hunacked : stream.untimed.unackedData = stream.unackedData := rfl
      have hshutdown : stream.untimed.isShutdown = stream.isShutdown := rfl
      simp only [untimedDrained, Except.map, Except.bind, Prod.map, flushDrained, hunacked, hshutdown]
      split_ifs
      · rfl
      · rfl
      · rfl

theorem pollRead_untimed (env : Env) (stream : UtpStream) (remaining : Nat) :
    (stream.untimed.pollRead env.untimed remaining).map Outcome.untimed
      = (stream.pollRead env remaining).map Outcome.untimed := by
  rw [pollRead_eq_readDrained, pollRead_eq_readDrained, ← readDrained_untimed, ← readDrained_untimed,
    drain_untimed]
  rfl

theorem pollFlush_untimed (env : Env) (stream : UtpStream) :
    (stream.untimed.pollFlush env.untimed).map Outcome.untimed
      = (stream.pollFlush env).map Outcome.untimed := by
  rw [pollFlush_eq_flushDrained, pollFlush_eq_flushDrained, ← flushDrained_untimed,
    ← flushDrained_untimed, drain_untimed]

theorem writeChunks_untimed (env : Env) (index : Nat) (stream : UtpStream) (bytesWritten : Nat)
    (chunks : List Bytes) :
    writeChunks env.untimed index stream.untimed bytesWritten chunks
      = (writeChunks env index stream bytesWritten chunks).untimed := by
  induction chunks generalizing index stream bytesWritten with
  | nil => rfl
  | cons chunk rest ih =>
      cases hqueues : env.queues index with
      | false =>
          have hrefused : env.untimed.queues index = false := hqueues
          simp only [writeChunks, sendData, sendPacket, sendTo, hqueues, hrefused, bind, Except.bind,
            Bool.false_eq_true, if_false]
          rfl
      | true =>
          have htaken : env.untimed.queues index = true := hqueues
          have hstream : (stream.withSent [chunk]).untimed = stream.untimed.withSent [chunk] := rfl
          simp only [writeChunks, sendData_eq hqueues, sendData_eq htaken, ← hstream, ih]
          rfl

theorem pollWrite_untimed (env : Env) (stream : UtpStream) (buf : Bytes) :
    stream.untimed.pollWrite env.untimed buf = (stream.pollWrite env buf).untimed := by
  have hshutdown : stream.untimed.isShutdown = stream.isShutdown := rfl
  simp only [pollWrite, hshutdown, writeChunks_untimed]
  split_ifs
  · rfl
  · rfl

end UtpStream

end UtpSafety
