import UtpSafety.Proof.Receive
import UtpSafety.Proof.Send

/-!
# What travels between two streams

`Moved` says once what an action can do to a pair whose mailboxes hold nothing but data and state
packets. `Link` is what holds in one direction of a pair from the start of every run: the data
packets sent so far are the chunks written so far, numbered consecutively, and everything the other
side has in its mailbox or parked in `inboundData` is one of them. It holds however often the
numbers have come round.
-/

namespace UtpSafety

open UtpStream

/-- No call on this endpoint's stream panics or ends. -/
structure Endpoint.Ready (endpoint : Endpoint) : Prop where
  handled : ∀ packet ∈ endpoint.stream.inboundPackets.queue, packet.Handled
  opened : endpoint.stream.inboundPackets.closed = false
  running : endpoint.stream.isShutdown = false

namespace Endpoint

def wrote (endpoint : Endpoint) (env : Env) (buf : Bytes) : Endpoint :=
  let chunks := Chunks.chunks maxDataSegmentSize buf
  { endpoint with
    stream := endpoint.stream.withSent chunks
    inFlight := endpoint.inFlight ++ dataPackets env 0 endpoint.stream chunks
    sent := endpoint.sent ++ dataPackets env 0 endpoint.stream chunks
    written := endpoint.written ++ [buf] }

def didRead (endpoint : Endpoint) (env : Env) (remaining : Nat) : Endpoint :=
  let assembled := (endpoint.stream.absorbed env).assemble
  { endpoint with
    stream := { assembled with receivedData := assembled.receivedData.drop remaining }
    inFlight := endpoint.inFlight ++ [assembled.ackPacket env]
    sent := endpoint.sent ++ [assembled.ackPacket env]
    delivered := endpoint.delivered ++ assembled.receivedData.take remaining }

def flushed (endpoint : Endpoint) (env : Env) : Endpoint :=
  { endpoint with stream := endpoint.stream.absorbed env }

def withInFlight (endpoint : Endpoint) (inFlight : List Packet) : Endpoint :=
  { endpoint with inFlight }

end Endpoint

/-- Everything an action can do. -/
inductive Moved (pair : Pair) : Pair → Prop where
  | wrote (side : Side) (env : Env) (buf : Bytes) :
      Moved pair (Function.update pair side ((pair side).wrote env buf))
  | didRead (side : Side) (env : Env) (remaining : Nat) :
      Moved pair (Function.update pair side ((pair side).didRead env remaining))
  | flushed (side : Side) (env : Env) :
      Moved pair (Function.update pair side ((pair side).flushed env))
  | network (side : Side) (inFlight : List Packet)
      (hinFlight : ∀ packet ∈ inFlight, packet ∈ (pair side).inFlight) :
      Moved pair (Function.update pair side ((pair side).withInFlight inFlight))
  | delivered (side : Side) (packet : Packet) (inFlight : List Packet)
      (hpacket : packet ∈ (pair side).inFlight)
      (hinFlight : ∀ packet ∈ inFlight, packet ∈ (pair side).inFlight) :
      Moved pair (Function.update (Function.update pair side ((pair side).withInFlight inFlight))
        side.other ((pair side.other).receive packet))

@[simp]
theorem Side.other_ne (side : Side) : side.other ≠ side := by
  cases side <;> decide

@[simp]
theorem Side.ne_other (side : Side) : side ≠ side.other := side.other_ne.symm

@[simp]
theorem Side.other_other (side : Side) : side.other.other = side := by
  cases side <;> rfl

theorem Side.eq_or_eq_other (side side' : Side) : side' = side ∨ side' = side.other := by
  cases side <;> cases side' <;> simp [Side.other]

theorem step_pollWrite {pair : Pair} {side : Side} (hready : (pair side).Ready) (env : Env)
    (buf : Bytes) :
    pair.step (.pollWrite side env buf)
      = some (Function.update pair side ((pair side).wrote env.sending buf)) := by
  have hwrite := pollWrite_eq (fun _ => rfl : ∀ index, env.sending.queues index = true)
    hready.running buf
  simp [Pair.step, hwrite, Endpoint.after, Endpoint.wrote, Function.comp_def]

theorem step_pollRead {pair : Pair} {side : Side} (hready : (pair side).Ready) (env : Env)
    (remaining : Nat) :
    pair.step (.pollRead side env remaining)
      = some (Function.update pair side ((pair side).didRead env.sending remaining)) := by
  have hread := pollRead_open remaining hready.handled hready.opened
    (rfl : env.sending.queues 0 = true)
  dsimp only at hread
  have hhanded : ∀ bytes : Bytes, handedOut (if bytes.isEmpty then .pending
      else .ready (.ok (bytes.take remaining))) = bytes.take remaining := by
    intro bytes
    cases bytes <;> simp [handedOut]
  simp only [Pair.step, hread, hhanded, Endpoint.after, Endpoint.didRead, List.map_cons,
    List.map_nil]

theorem step_pollFlush {pair : Pair} {side : Side} (hready : (pair side).Ready) (env : Env) :
    pair.step (.pollFlush side env)
      = some (Function.update pair side ((pair side).flushed env.sending)) := by
  have hflush := pollFlush_open env.sending hready.handled hready.opened hready.running
  simp [Pair.step, hflush, Endpoint.after, Endpoint.flushed]

theorem step_deliver {pair : Pair} {side : Side} {index : Nat} {packet : Packet}
    (hpacket : (pair side).inFlight[index]? = some packet) :
    pair.step (.deliver side index)
      = some (Function.update (Function.update pair side
          ((pair side).withInFlight ((pair side).inFlight.eraseIdx index))) side.other
          ((pair side.other).receive packet)) := by
  simp [Pair.step, hpacket, Function.update_of_ne, Endpoint.withInFlight]

theorem moved_of_step {pair pair' : Pair} {action : Action} (hready : ∀ side, (pair side).Ready)
    (hstep : pair.step action = some pair') : Moved pair pair' := by
  cases action with
  | pollWrite side env buf =>
      rw [step_pollWrite (hready side), Option.some.injEq] at hstep
      subst hstep
      exact .wrote side env.sending buf
  | pollRead side env remaining =>
      rw [step_pollRead (hready side), Option.some.injEq] at hstep
      subst hstep
      exact .didRead side env.sending remaining
  | pollFlush side env =>
      rw [step_pollFlush (hready side), Option.some.injEq] at hstep
      subst hstep
      exact .flushed side env.sending
  | deliver side index =>
      cases hpacket : (pair side).inFlight[index]? with
      | none => simp [Pair.step, hpacket] at hstep
      | some packet =>
          rw [step_deliver hpacket, Option.some.injEq] at hstep
          subst hstep
          exact .delivered side packet _ (List.mem_of_getElem? hpacket)
            fun packet hmem => List.mem_of_mem_eraseIdx hmem
  | duplicate side index =>
      cases hpacket : (pair side).inFlight[index]? with
      | none => simp [Pair.step, hpacket] at hstep
      | some packet =>
          simp only [Pair.step, hpacket, Option.some.injEq] at hstep
          subst hstep
          refine .network side _ fun packet' hmem => ?_
          rcases List.mem_append.mp hmem with hmem | hmem
          · exact hmem
          · rw [List.mem_singleton.mp hmem]
            exact List.mem_of_getElem? hpacket
  | lose side index =>
      cases hpacket : (pair side).inFlight[index]? with
      | none => simp [Pair.step, hpacket] at hstep
      | some packet =>
          simp only [Pair.step, hpacket, Option.some.injEq] at hstep
          subst hstep
          exact .network side _ fun packet hmem => List.mem_of_mem_eraseIdx hmem

/-! ### The link in one direction -/

/-- What holds of a sender and a receiver, `start` being the number of the first chunk. -/
structure Link (start : UInt16) (sender receiver : Endpoint) : Prop where
  opened : sender.stream.inboundPackets.closed = false
  running : sender.stream.isShutdown = false
  seqNumber : sender.stream.seqNumber = Serial.offset start sender.chunks.length
  handled : ∀ packet ∈ sender.sent, packet.Handled
  log : sender.dataSent.map (fun packet => (packet.seqNumber, packet.data))
    = Serial.number start sender.chunks
  inFlight : ∀ packet ∈ sender.inFlight, packet ∈ sender.sent
  queue : ∀ packet ∈ receiver.stream.inboundPackets.queue, packet ∈ sender.sent
  inbound : ∀ number data, receiver.stream.inboundData.lookup number = some data →
    (number, data) ∈ Serial.number start sender.chunks

/-- Both directions. -/
def Linked (start : Side → UInt16) (pair : Pair) : Prop :=
  ∀ side, Link (start side) (pair side) (pair side.other)

theorem Linked.ready {start : Side → UInt16} {pair : Pair} (hlinked : Linked start pair)
    (side : Side) : (pair side).Ready where
  handled := by
    intro packet hpacket
    have hother := hlinked side.other
    rw [Side.other_other] at hother
    exact hother.handled packet (hother.queue packet hpacket)
  opened := (hlinked side).opened
  running := (hlinked side).running

theorem Link.mem_number {start : UInt16} {sender receiver : Endpoint}
    (hlink : Link start sender receiver) {packet : Packet} (hsent : packet ∈ sender.sent)
    (htype : packet.packetType = .data) :
    (packet.seqNumber, packet.data) ∈ Serial.number start sender.chunks := by
  rw [← hlink.log]
  exact List.mem_map.mpr ⟨packet, List.mem_filter.mpr ⟨hsent, by simpa using htype⟩, rfl⟩

theorem Link.length_dataSent {start : UInt16} {sender receiver : Endpoint}
    (hlink : Link start sender receiver) : sender.dataSent.length = sender.chunks.length := by
  have hlength := congrArg List.length hlink.log
  simpa using hlength

theorem linked_of_agreed {pair : Pair} (hagreed : pair.Agreed) :
    Linked (fun side => (pair side).stream.seqNumber) pair := by
  intro side
  have hfresh := hagreed.fresh side
  have hfresh' := hagreed.fresh side.other
  have hchunks : (pair side).chunks = [] := by
    simp [Endpoint.chunks, hfresh.written]
  constructor
  · rw [hfresh.queue]
  · exact hfresh.isShutdown
  · rw [hchunks]
    simp
  · simp [hfresh.sent]
  · rw [hchunks]
    simp [Endpoint.dataSent, hfresh.sent, Serial.number]
  · simp [hfresh.inFlight]
  · simp [hfresh'.queue]
  · simp [hfresh'.inboundData]

theorem forall_update {relation : Side → Endpoint → Endpoint → Prop} {pair : Pair} {side : Side}
    {endpoint : Endpoint} (hsender : relation side endpoint (pair side.other))
    (hreceiver : relation side.other (pair side.other) endpoint) (side' : Side) :
    relation side' (Function.update pair side endpoint side')
      (Function.update pair side endpoint side'.other) := by
  rcases Side.eq_or_eq_other side side' with rfl | rfl
  · simpa using hsender
  · simpa using hreceiver

theorem forall_update_both {relation : Side → Endpoint → Endpoint → Prop} {pair : Pair} {side : Side}
    {endpoint endpoint' : Endpoint} (hsender : relation side endpoint endpoint')
    (hreceiver : relation side.other endpoint' endpoint) (side' : Side) :
    relation side' (Function.update (Function.update pair side endpoint) side.other endpoint' side')
      (Function.update (Function.update pair side endpoint) side.other endpoint' side'.other) := by
  rcases Side.eq_or_eq_other side side' with rfl | rfl
  · simpa [Function.update_of_ne] using hsender
  · simpa [Function.update_of_ne] using hreceiver

/-! ### Every action keeps the link -/

theorem Endpoint.chunks_wrote (endpoint : Endpoint) (env : Env) (buf : Bytes) :
    (endpoint.wrote env buf).chunks
      = endpoint.chunks ++ Chunks.chunks maxDataSegmentSize buf := by
  simp [Endpoint.wrote, Endpoint.chunks]

section DidRead

variable {endpoint : Endpoint} {env : Env} {run : List Bytes}
  (hrun : Assembled (endpoint.stream.absorbed env) (endpoint.stream.absorbed env).assemble run)
include hrun

theorem Endpoint.ackNumber_didRead (remaining : Nat) :
    (endpoint.didRead env remaining).stream.ackNumber
      = Serial.offset endpoint.stream.ackNumber run.length := by
  simp only [Endpoint.didRead]
  rw [hrun.frame, absorbed_frame]

/-- What was handed out and what is left to hand out grow by the run, whatever room there was. -/
theorem Endpoint.bytes_didRead (remaining : Nat) :
    (endpoint.didRead env remaining).delivered ++ (endpoint.didRead env remaining).stream.receivedData
      = endpoint.delivered ++ endpoint.stream.receivedData ++ run.flatten := by
  calc (endpoint.didRead env remaining).delivered
        ++ (endpoint.didRead env remaining).stream.receivedData
      = endpoint.delivered ++ (endpoint.stream.absorbed env).assemble.receivedData := by
        simp [Endpoint.didRead]
    _ = endpoint.delivered ++ (endpoint.stream.receivedData ++ run.flatten) := by
        rw [hrun.frame, absorbed_frame]
    _ = endpoint.delivered ++ endpoint.stream.receivedData ++ run.flatten :=
        (List.append_assoc ..).symm

end DidRead

theorem mem_queue_absorbed {env : Env} {stream : UtpStream} {packet : Packet}
    (hpacket : packet ∈ (stream.absorbed env).inboundPackets.queue) :
    packet ∈ stream.inboundPackets.queue := by
  rw [absorbed_frame] at hpacket
  exact List.mem_of_mem_drop hpacket

namespace Link

variable {start : UInt16} {sender receiver : Endpoint} (hlink : Link start sender receiver)
include hlink

theorem wrote (env : Env) (buf : Bytes) : Link start (sender.wrote env buf) receiver := by
  have hchunks := sender.chunks_wrote env buf
  have hdata : ∀ packet ∈ dataPackets env 0 sender.stream (Chunks.chunks maxDataSegmentSize buf),
      packet.packetType = .data := by
    intro packet hpacket
    obtain ⟨index, seqNumber, chunk, -, rfl⟩ := mem_dataPackets hpacket
    rfl
  refine ⟨hlink.opened, hlink.running, ?_, ?_, ?_, ?_, ?_, ?_⟩
  · rw [hchunks, List.length_append, ← Serial.offset_offset, ← hlink.seqNumber]
    rfl
  · intro packet hpacket
    rcases List.mem_append.mp hpacket with hold | hnew
    · exact hlink.handled packet hold
    · exact Or.inl (hdata packet hnew)
  · have hfilter : (dataPackets env 0 sender.stream (Chunks.chunks maxDataSegmentSize buf)).filter
        (fun packet => packet.packetType = .data)
        = dataPackets env 0 sender.stream (Chunks.chunks maxDataSegmentSize buf) :=
      List.filter_eq_self.mpr fun packet hpacket => by simpa using hdata packet hpacket
    rw [hchunks, Serial.number_append, ← hlink.log, ← hlink.seqNumber, ← map_dataPackets env 0]
    simp [Endpoint.dataSent, Endpoint.wrote, hfilter]
  · intro packet hpacket
    rcases List.mem_append.mp hpacket with hold | hnew
    · exact List.mem_append_left _ (hlink.inFlight packet hold)
    · exact List.mem_append_right _ hnew
  · intro packet hpacket
    exact List.mem_append_left _ (hlink.queue packet hpacket)
  · intro number data hlookup
    rw [hchunks, Serial.number_append]
    exact List.mem_append_left _ (hlink.inbound number data hlookup)

theorem sender_acks (sender' : Endpoint) (acks : List Packet)
    (hstream : sender'.stream.inboundPackets.closed = sender.stream.inboundPackets.closed
      ∧ sender'.stream.isShutdown = sender.stream.isShutdown
      ∧ sender'.stream.seqNumber = sender.stream.seqNumber)
    (hwritten : sender'.written = sender.written)
    (hacks : ∀ packet ∈ acks, packet.packetType = .state)
    (hsent : sender'.sent = sender.sent ++ acks)
    (hinFlight : ∀ packet ∈ sender'.inFlight, packet ∈ sender'.sent) :
    Link start sender' receiver := by
  have hchunks : sender'.chunks = sender.chunks := by
    simp [Endpoint.chunks, hwritten]
  obtain ⟨hclosed, hshutdown, hseqNumber⟩ := hstream
  refine ⟨hclosed.trans hlink.opened, hshutdown.trans hlink.running, ?_, ?_, ?_, hinFlight, ?_, ?_⟩
  · rw [hseqNumber, hchunks]
    exact hlink.seqNumber
  · intro packet hpacket
    rw [hsent] at hpacket
    rcases List.mem_append.mp hpacket with hold | hnew
    · exact hlink.handled packet hold
    · exact Or.inr (hacks packet hnew)
  · have hfilter : acks.filter (fun packet => packet.packetType = .data) = [] :=
      List.filter_eq_nil_iff.mpr fun packet hpacket => by simp [hacks packet hpacket]
    rw [hchunks, ← hlink.log]
    simp [Endpoint.dataSent, hsent, hfilter]
  · intro packet hpacket
    rw [hsent]
    exact List.mem_append_left _ (hlink.queue packet hpacket)
  · rw [hchunks]
    exact hlink.inbound

/-- The receiver is left with packets and payloads that came from the sender. -/
theorem receiver_takes (receiver' : Endpoint)
    (hqueue : ∀ packet ∈ receiver'.stream.inboundPackets.queue,
      packet ∈ receiver.stream.inboundPackets.queue ∨ packet ∈ sender.inFlight)
    (hinbound : ∀ number data, receiver'.stream.inboundData.lookup number = some data →
      receiver.stream.inboundData.lookup number = some data
        ∨ ∃ packet ∈ receiver.stream.inboundPackets.queue, packet.packetType = .data
          ∧ packet.seqNumber = number ∧ packet.data = data) :
    Link start sender receiver' := by
  refine ⟨hlink.opened, hlink.running, hlink.seqNumber, hlink.handled, hlink.log, hlink.inFlight,
    ?_, ?_⟩
  · intro packet hpacket
    rcases hqueue packet hpacket with hold | hnew
    · exact hlink.queue packet hold
    · exact hlink.inFlight packet hnew
  · intro number data hlookup
    rcases hinbound number data hlookup with hold | ⟨packet, hpacket, htype, rfl, rfl⟩
    · exact hlink.inbound number data hold
    · exact hlink.mem_number (hlink.queue packet hpacket) htype

theorem sender_reads (env : Env) (remaining : Nat) :
    Link start (sender.didRead env remaining) receiver := by
  apply hlink.sender_acks (sender.didRead env remaining)
    [(sender.stream.absorbed env).assemble.ackPacket env] ?_ rfl ?_ rfl
  · intro packet hpacket
    rcases List.mem_append.mp hpacket with hold | hnew
    · exact List.mem_append_left _ (hlink.inFlight packet hold)
    · exact List.mem_append_right _ hnew
  · simp only [Endpoint.didRead]
    rw [assemble_frame, absorbed_frame]
    exact ⟨rfl, rfl, rfl⟩
  · intro packet hpacket
    rw [List.mem_singleton.mp hpacket]
    rfl

theorem receiver_reads (env : Env) (remaining : Nat) :
    Link start sender (receiver.didRead env remaining) := by
  obtain ⟨run, hrun⟩ := exists_assembled (receiver.stream.absorbed env)
  apply hlink.receiver_takes
  · intro packet hpacket
    simp only [Endpoint.didRead] at hpacket
    rw [assemble_frame] at hpacket
    exact Or.inl (mem_queue_absorbed hpacket)
  · intro number data hlookup
    exact lookup_absorbed (hrun.lookup hlookup)

theorem sender_flushes (env : Env) : Link start (sender.flushed env) receiver := by
  apply hlink.sender_acks (sender.flushed env) [] ?_ rfl (by simp) (List.append_nil _).symm
    hlink.inFlight
  simp only [Endpoint.flushed]
  rw [absorbed_frame]
  exact ⟨rfl, rfl, rfl⟩

theorem receiver_flushes (env : Env) : Link start sender (receiver.flushed env) := by
  apply hlink.receiver_takes
  · intro packet hpacket
    exact Or.inl (mem_queue_absorbed hpacket)
  · intro number data hlookup
    exact lookup_absorbed hlookup

theorem sender_inFlight {inFlight : List Packet}
    (hinFlight : ∀ packet ∈ inFlight, packet ∈ sender.inFlight) :
    Link start (sender.withInFlight inFlight) receiver := by
  apply hlink.sender_acks (sender.withInFlight inFlight) [] ⟨rfl, rfl, rfl⟩ rfl (by simp)
    (List.append_nil _).symm
  intro packet hpacket
  exact hlink.inFlight packet (hinFlight packet hpacket)

theorem sender_receives (packet : Packet) : Link start (sender.receive packet) receiver :=
  hlink.sender_acks _ [] ⟨rfl, rfl, rfl⟩ rfl (by simp) (List.append_nil _).symm hlink.inFlight

theorem receiver_receives {packet : Packet} (hpacket : packet ∈ sender.inFlight) :
    Link start sender (receiver.receive packet) := by
  apply hlink.receiver_takes
  · intro packet' hmem
    rcases List.mem_append.mp hmem with hold | hnew
    · exact Or.inl hold
    · rw [List.mem_singleton.mp hnew]
      exact Or.inr hpacket
  · intro number data hlookup
    exact Or.inl hlookup

theorem receiver_stream {receiver' : Endpoint} (hstream : receiver'.stream = receiver.stream) :
    Link start sender receiver' := by
  apply hlink.receiver_takes
  · rw [hstream]
    exact fun packet => Or.inl
  · rw [hstream]
    exact fun number data => Or.inl

end Link

/-- **The link is an invariant.** -/
theorem Linked.moved {start : Side → UInt16} {pair pair' : Pair} (hlinked : Linked start pair)
    (hmoved : Moved pair pair') : Linked start pair' := by
  have hback : ∀ side, Link (start side.other) (pair side.other) (pair side) := by
    intro side
    simpa using hlinked side.other
  cases hmoved with
  | wrote side env buf =>
      refine forall_update ((hlinked side).wrote env buf) ?_
      exact (hback side).receiver_takes _ (fun packet => Or.inl) (fun number data => Or.inl)
  | didRead side env remaining =>
      exact forall_update ((hlinked side).sender_reads env remaining)
        ((hback side).receiver_reads env remaining)
  | flushed side env =>
      exact forall_update ((hlinked side).sender_flushes env) ((hback side).receiver_flushes env)
  | network side inFlight hinFlight =>
      exact forall_update ((hlinked side).sender_inFlight hinFlight)
        ((hback side).receiver_stream rfl)
  | delivered side packet inFlight hpacket hinFlight =>
      have hforth := ((hlinked side).receiver_receives hpacket).sender_inFlight hinFlight
      have hreverse : Link (start side.other) ((pair side.other).receive packet)
          ((pair side).withInFlight inFlight) :=
        ((hback side).sender_receives packet).receiver_stream rfl
      exact forall_update_both hforth hreverse

end UtpSafety
