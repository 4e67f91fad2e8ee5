import UtpSafety.Pair
import UtpSafety.Lib.Serial

/-!
# What one poll does to a stream

The loop that opens `poll_read` and `poll_flush` takes packets out of the mailbox one by one, so on
data and state packets it is a walk along the queue in which each packet is absorbed or ignored
(`drain_run`). Assembly then moves a run of consecutive payloads from `inboundData` to
`receivedData` (`exists_assembled`). These two facts, and the cumulative `popAcked`, are all that the
results about whole runs use of the receiving half of the code.
-/

namespace UtpSafety

def Packet.Handled (packet : Packet) : Prop :=
  packet.packetType = .data ∨ packet.packetType = .state

namespace UtpStream

def withQueue (stream : UtpStream) (queue : List Packet) : UtpStream :=
  { stream with inboundPackets.queue := queue }

/-- What a packet does to the stream that takes it out of its mailbox: nothing when it is
suspicious. -/
def absorb (stream : UtpStream) (receivedAt : UInt32) (packet : Packet) : UtpStream :=
  if stream.isSuspicious packet = .ok false then
    match packet.packetType with
    | .data =>
        { stream with
          congestionController := stream.congestionController.updateState receivedAt packet
          inboundData := stream.inboundData.insert packet.seqNumber packet.data }
    | .state =>
        { stream with
          congestionController := stream.congestionController.updateState receivedAt packet
          unackedData := popAcked packet.ackNumber stream.unackedData }
    | _ => stream
  else stream

/-- The walk along the queue, up to the point where the mailbox reports `Pending`. -/
def absorbQueue (env : Env) : UtpStream → List Packet → UtpStream
  | stream, [] => stream
  | stream, packet :: rest =>
      if env.yields (rest.length + 1) then stream
      else absorbQueue env (stream.absorb (env.receivedAt rest.length) packet) rest

end UtpStream

def Env.taken (env : Env) : List Packet → Nat
  | [] => 0
  | _ :: rest => if env.yields (rest.length + 1) then 0 else env.taken rest + 1

namespace UtpStream

theorem isSuspicious_ok (stream : UtpStream) {packet : Packet} (hpacket : packet.Handled) :
    stream.isSuspicious packet = .ok true ∨ stream.isSuspicious packet = .ok false := by
  unfold isSuspicious
  rcases hpacket with htype | htype <;> rw [htype] <;> simp only [Except.ok.injEq] <;>
    exact Bool.eq_false_or_eq_true _

theorem pollQueue_withQueue (env : Env) (stream : UtpStream) (queue queue' : List Packet) :
    (stream.withQueue queue).pollQueue env queue' = stream.pollQueue env queue' := by
  induction queue' with
  | nil => rfl
  | cons packet rest ih =>
      simp only [pollQueue, ih]
      rfl

theorem drain_body_suspicious {env : Env} {stream : UtpStream} {packet : Packet}
    {rest : List Packet} (hyields : env.yields (rest.length + 1) = false)
    (hsuspicious : stream.isSuspicious packet = .ok true) :
    (drain env).body (stream.withQueue (packet :: rest)) = (drain env).body (stream.withQueue rest) := by
  have hpoll : (stream.withQueue (packet :: rest)).pollReadPacket env
      = (stream.withQueue rest).pollReadPacket env := by
    change (stream.withQueue _).pollQueue env (packet :: rest)
      = (stream.withQueue _).pollQueue env rest
    rw [pollQueue_withQueue, pollQueue_withQueue]
    simp [pollQueue, hyields, hsuspicious, bind, Except.bind]
  simp only [drain, hpoll]

theorem drain_body_absorb {env : Env} {stream : UtpStream} {packet : Packet} {rest : List Packet}
    (hyields : env.yields (rest.length + 1) = false) (hpacket : packet.Handled)
    (hsuspicious : stream.isSuspicious packet = .ok false) :
    (drain env).body (stream.withQueue (packet :: rest))
      = .next ((stream.absorb (env.receivedAt rest.length) packet).withQueue rest) := by
  have hpoll : (stream.withQueue (packet :: rest)).pollReadPacket env
      = .ok ({ stream with
          inboundPackets.queue := rest
          congestionController :=
            stream.congestionController.updateState (env.receivedAt rest.length) packet },
          .ready (some packet)) := by
    change (stream.withQueue _).pollQueue env (packet :: rest) = _
    rw [pollQueue_withQueue]
    simp [pollQueue, hyields, hsuspicious, bind, Except.bind, pure, Except.pure]
  simp only [drain, hpoll]
  rcases hpacket with htype | htype <;>
    simp [handlePacket, absorb, hsuspicious, htype, withQueue]

/-- Absorbing a packet touches the congestion controller, the received data and the data in flight,
and nothing else. -/
theorem absorb_frame (stream : UtpStream) (receivedAt : UInt32) (packet : Packet) :
    stream.absorb receivedAt packet = { stream with
      congestionController := (stream.absorb receivedAt packet).congestionController
      inboundData := (stream.absorb receivedAt packet).inboundData
      unackedData := (stream.absorb receivedAt packet).unackedData } := by
  unfold absorb
  split_ifs
  · split <;> rfl
  · rfl

theorem absorb_inboundPackets (stream : UtpStream) (receivedAt : UInt32) (packet : Packet) :
    (stream.absorb receivedAt packet).inboundPackets = stream.inboundPackets := by
  rw [absorb_frame]

theorem absorb_isShutdown (stream : UtpStream) (receivedAt : UInt32) (packet : Packet) :
    (stream.absorb receivedAt packet).isShutdown = stream.isShutdown := by
  rw [absorb_frame]

/-- The stream when the drain stops, and whether the packet stream has ended. -/
def drained (env : Env) (stream : UtpStream) (queue : List Packet) : UtpStream × Bool :=
  let left := queue.drop (env.taken queue)
  let ended := left.isEmpty && stream.inboundPackets.closed && !env.yields 0
  ({ (absorbQueue env stream queue).withQueue left with
    isShutdown := stream.isShutdown || ended }, ended)

/-- **The drain is a walk along the queue.** -/
theorem drain_run_withQueue (env : Env) (stream : UtpStream) (queue : List Packet)
    (hqueue : ∀ packet ∈ queue, packet.Handled) :
    (drain env).run (stream.withQueue queue) = .ok (drained env stream queue) := by
  induction queue generalizing stream with
  | nil =>
      apply (drain env).run_done
      have hpoll : (stream.withQueue []).pollReadPacket env = stream.pollQueue env [] :=
        pollQueue_withQueue env stream [] []
      simp only [drain, hpoll, pollQueue]
      cases hyields : env.yields 0 <;> cases hclosed : stream.inboundPackets.closed <;>
        simp [drained, absorbQueue, Env.taken, hyields, hclosed, withQueue]
  | cons packet rest ih =>
      cases hyields : env.yields (rest.length + 1) with
      | true =>
          apply (drain env).run_done
          have hpoll : (stream.withQueue (packet :: rest)).pollReadPacket env
              = .ok (stream.withQueue (packet :: rest), .pending) := by
            change (stream.withQueue _).pollQueue env (packet :: rest) = _
            rw [pollQueue_withQueue]
            simp [pollQueue, hyields, withQueue]
          simp only [drain, hpoll]
          simp [drained, absorbQueue, Env.taken, hyields, withQueue]
      | false =>
          have hhandled := hqueue packet (by simp)
          have hrest := fun packet hmem => hqueue packet (List.mem_cons_of_mem _ hmem)
          have hstep : (drain env).run (stream.withQueue (packet :: rest))
              = (drain env).run ((stream.absorb (env.receivedAt rest.length) packet).withQueue
                  rest) := by
            rcases isSuspicious_ok stream hhandled with hsuspicious | hsuspicious
            · rw [(drain env).run_congr (drain_body_suspicious hyields hsuspicious)]
              simp [absorb, hsuspicious]
            · exact (drain env).run_next (drain_body_absorb hyields hhandled hsuspicious)
          rw [hstep, ih _ hrest]
          simp [drained, absorbQueue, Env.taken, hyields, absorb_inboundPackets, absorb_isShutdown]

theorem drain_run {env : Env} {stream : UtpStream}
    (hqueue : ∀ packet ∈ stream.inboundPackets.queue, packet.Handled) :
    (drain env).run stream = .ok (drained env stream stream.inboundPackets.queue) :=
  drain_run_withQueue env stream stream.inboundPackets.queue hqueue

/-- What every packet that is taken preserves, the walk preserves. -/
theorem absorbQueue_invariant {env : Env} {motive : UtpStream → Prop} {queue : List Packet}
    (hstep : ∀ stream receivedAt packet, packet ∈ queue.take (env.taken queue) → motive stream →
      motive (stream.absorb receivedAt packet))
    {stream : UtpStream} (hstream : motive stream) :
    motive (absorbQueue env stream queue) := by
  induction queue generalizing stream with
  | nil => exact hstream
  | cons packet rest ih =>
      rw [absorbQueue]
      split_ifs with hyields
      · exact hstream
      · have htaken : (packet :: rest).take (env.taken (packet :: rest))
            = packet :: rest.take (env.taken rest) := by
          simp [Env.taken, hyields]
        rw [htaken] at hstep
        exact ih (fun stream receivedAt packet hmem => hstep stream receivedAt packet
          (List.mem_cons_of_mem _ hmem)) (hstep _ _ packet (by simp) hstream)

/-! ### Assembly -/

/-- `result` is `stream` with the payloads `run`, numbered from `ackNumber + 1` on, moved from
`inboundData` to `receivedData`, and the run is as long as it can be. -/
structure Assembled (stream result : UtpStream) (run : List Bytes) : Prop where
  frame : result = { stream with
    inboundData := result.inboundData
    receivedData := stream.receivedData ++ run.flatten
    ackNumber := Serial.offset stream.ackNumber run.length }
  present : ∀ i data, run[i]? = some data →
    stream.inboundData.lookup (Serial.offset (stream.ackNumber + 1) i) = some data
  removed : ∀ i < run.length,
    result.inboundData.lookup (Serial.offset (stream.ackNumber + 1) i) = none
  kept : ∀ number, (∀ i < run.length, number ≠ Serial.offset (stream.ackNumber + 1) i) →
    result.inboundData.lookup number = stream.inboundData.lookup number
  maximal : result.inboundData.lookup (result.ackNumber + 1) = none

theorem Assembled.nil {stream : UtpStream}
    (hnone : stream.inboundData.lookup (stream.ackNumber + 1) = none) :
    Assembled stream stream [] where
  frame := by simp
  present := by simp
  removed := by simp
  kept := by simp
  maximal := hnone

theorem Assembled.cons {stream result : UtpStream} {data : Bytes} {run : List Bytes}
    (hlookup : stream.inboundData.lookup (stream.ackNumber + 1) = some data)
    (hrest : Assembled { stream with
      inboundData := stream.inboundData.erase (stream.ackNumber + 1)
      receivedData := stream.receivedData ++ data
      ackNumber := stream.ackNumber + 1 } result run) :
    Assembled stream result (data :: run) := by
  constructor
  · rw [hrest.frame]
    simp [Serial.offset_add_one_left]
  · intro i data' hget
    cases i with
    | zero =>
        simp only [List.getElem?_cons_zero, Option.some.injEq] at hget
        rw [Serial.offset_zero, hlookup, hget]
    | succ i =>
        simp only [List.getElem?_cons_succ] at hget
        have hpresent := hrest.present i data' hget
        rw [← Serial.offset_add_one_left]
        by_cases hsame : Serial.offset (stream.ackNumber + 1 + 1) i = stream.ackNumber + 1
        · rw [hsame, Finmap.lookup_erase] at hpresent
          cases hpresent
        · rwa [Finmap.lookup_erase_ne hsame] at hpresent
  · intro i hi
    cases i with
    | zero =>
        rw [Serial.offset_zero]
        by_cases hlater : ∃ i < run.length,
            stream.ackNumber + 1 = Serial.offset (stream.ackNumber + 1 + 1) i
        · obtain ⟨i, hi, heq⟩ := hlater
          rw [heq]
          exact hrest.removed i hi
        · push Not at hlater
          rw [hrest.kept _ hlater]
          exact Finmap.lookup_erase _ _
    | succ i =>
        rw [← Serial.offset_add_one_left]
        exact hrest.removed i (by simpa using hi)
  · intro number hnumber
    have hfirst : number ≠ stream.ackNumber + 1 := by
      simpa using hnumber 0 (by simp)
    rw [hrest.kept number]
    · exact Finmap.lookup_erase_ne hfirst
    · intro i hi
      dsimp only
      rw [Serial.offset_add_one_left]
      exact hnumber (i + 1) (by simpa using hi)
  · exact hrest.maximal

/-- **Assembly takes a maximal run of consecutive payloads.** -/
theorem exists_assembled (stream : UtpStream) : ∃ run, Assembled stream stream.assemble run := by
  have hloop := assembly.run_induction
    (motive := fun state result => state.2 = state.1.ackNumber + 1 →
      ∃ run, Assembled state.1 result run) ?_ ?_ (stream, stream.ackNumber + 1)
  · exact hloop rfl
  · rintro ⟨stream, next⟩ result hbody hnext
    dsimp only at hnext
    subst hnext
    simp only [assembly] at hbody
    split at hbody
    · rename_i hnone
      cases hbody
      exact ⟨[], Assembled.nil hnone⟩
    · cases hbody
  · rintro ⟨stream, next⟩ ⟨stream', next'⟩ hbody hrest hnext
    dsimp only at hnext
    subst hnext
    simp only [assembly] at hbody
    split at hbody
    · cases hbody
    · rename_i data hlookup
      cases hbody
      obtain ⟨run, hrun⟩ := hrest rfl
      exact ⟨data :: run, Assembled.cons hlookup hrun⟩

theorem assemble_frame (stream : UtpStream) :
    stream.assemble = { stream with
      inboundData := stream.assemble.inboundData
      receivedData := stream.assemble.receivedData
      ackNumber := stream.assemble.ackNumber } := by
  obtain ⟨run, hassembled⟩ := exists_assembled stream
  rw [hassembled.frame]

theorem Assembled.lookup {stream result : UtpStream} {run : List Bytes}
    (hassembled : Assembled stream result run) {number : UInt16} {data : Bytes}
    (hlookup : result.inboundData.lookup number = some data) :
    stream.inboundData.lookup number = some data := by
  by_cases htaken : ∃ i < run.length, number = Serial.offset (stream.ackNumber + 1) i
  · obtain ⟨i, hi, rfl⟩ := htaken
    rw [hassembled.removed i hi] at hlookup
    cases hlookup
  · push Not at htaken
    rw [← hassembled.kept number htaken]
    exact hlookup

/-! ### The polls on an open mailbox -/

/-- The stream when a poll has taken what it takes from an open mailbox. -/
def absorbed (env : Env) (stream : UtpStream) : UtpStream :=
  (absorbQueue env stream stream.inboundPackets.queue).withQueue
    (stream.inboundPackets.queue.drop (env.taken stream.inboundPackets.queue))

theorem absorbQueue_frame (env : Env) (stream : UtpStream) (queue : List Packet) :
    absorbQueue env stream queue = { stream with
      congestionController := (absorbQueue env stream queue).congestionController
      inboundData := (absorbQueue env stream queue).inboundData
      unackedData := (absorbQueue env stream queue).unackedData } := by
  apply absorbQueue_invariant (motive := fun absorbed => absorbed = { stream with
    congestionController := absorbed.congestionController
    inboundData := absorbed.inboundData
    unackedData := absorbed.unackedData })
  · intro absorbed receivedAt packet _ habsorbed
    rw [absorb_frame, habsorbed]
  · rfl

theorem drained_frame (env : Env) (stream : UtpStream) :
    let polled := drained env stream stream.inboundPackets.queue
    polled.1 = { stream with
      inboundPackets.queue :=
        stream.inboundPackets.queue.drop (env.taken stream.inboundPackets.queue)
      congestionController := polled.1.congestionController
      inboundData := (absorbQueue env stream stream.inboundPackets.queue).inboundData
      unackedData := (absorbQueue env stream stream.inboundPackets.queue).unackedData
      isShutdown := stream.isShutdown || polled.2 } := by
  simp only [drained]
  rw [absorbQueue_frame]
  rfl

theorem absorbed_frame (env : Env) (stream : UtpStream) :
    stream.absorbed env = { stream with
      inboundPackets.queue :=
        stream.inboundPackets.queue.drop (env.taken stream.inboundPackets.queue)
      congestionController := (stream.absorbed env).congestionController
      inboundData := (stream.absorbed env).inboundData
      unackedData := (stream.absorbed env).unackedData } := by
  rw [absorbed, absorbQueue_frame]
  rfl

theorem lookup_absorbed {env : Env} {stream : UtpStream} {number : UInt16} {data : Bytes}
    (hlookup : (stream.absorbed env).inboundData.lookup number = some data) :
    stream.inboundData.lookup number = some data
      ∨ ∃ packet ∈ stream.inboundPackets.queue, packet.packetType = .data
        ∧ packet.seqNumber = number ∧ packet.data = data := by
  revert hlookup
  apply absorbQueue_invariant (motive := fun absorbed => absorbed.inboundData.lookup number = some data →
    stream.inboundData.lookup number = some data
      ∨ ∃ packet ∈ stream.inboundPackets.queue, packet.packetType = .data
        ∧ packet.seqNumber = number ∧ packet.data = data)
  · intro before receivedAt packet hpacket hbefore hlookup
    unfold absorb at hlookup
    split_ifs at hlookup
    · split at hlookup
      · rename_i htype
        by_cases hnumber : number = packet.seqNumber
        · subst hnumber
          rw [Finmap.lookup_insert] at hlookup
          exact Or.inr ⟨packet, List.mem_of_mem_take hpacket, htype, rfl, Option.some.inj hlookup⟩
        · rw [Finmap.lookup_insert_of_ne _ hnumber] at hlookup
          exact hbefore hlookup
      · exact hbefore hlookup
      · exact hbefore hlookup
    · exact hbefore hlookup
  · exact Or.inl

section Open

variable (env : Env) {stream : UtpStream}
  (hqueue : ∀ packet ∈ stream.inboundPackets.queue, packet.Handled)
  (hopen : stream.inboundPackets.closed = false)
include hqueue hopen

theorem drain_run_open : (drain env).run stream = .ok (stream.absorbed env, false) := by
  have hshutdown : (absorbQueue env stream stream.inboundPackets.queue).isShutdown
      = stream.isShutdown := by
    rw [absorbQueue_frame]
  rw [drain_run hqueue]
  simp only [drained, hopen, Bool.and_false, Bool.false_and, Bool.or_false, absorbed, withQueue,
    ← hshutdown]

theorem pollFlush_open (hrunning : stream.isShutdown = false) :
    stream.pollFlush env = .ok ⟨stream.absorbed env, [],
      if (stream.absorbed env).unackedData.isEmpty then .ready (.ok ()) else .pending⟩ := by
  have hshutdown : (stream.absorbed env).isShutdown = false := by
    rw [absorbed_frame]
    exact hrunning
  simp only [pollFlush, drain_run_open env hqueue hopen, bind, Except.bind, hshutdown,
    Bool.false_eq_true, if_false]
  split_ifs <;> rfl

end Open

def ackPacket (env : Env) (stream : UtpStream) : Packet where
  packetType := .state
  version := 1
  connectionId := stream.connectionIdSend
  timestampMicros := env.sentAt 0
  timestampDeltaMicros := 0
  windowSize := 0
  seqNumber := stream.seqNumber
  ackNumber := stream.ackNumber
  extensions := []
  data := []

theorem sendAck_eq (env : Env) (stream : UtpStream) :
    stream.sendAck env 0 = sendTo (env.queues 0) (stream.ackPacket env) stream.remoteAddr := rfl

theorem handOut_eq (receivedData : Bytes) (remaining : Nat) :
    let chunk := if receivedData.length > remaining then receivedData.take remaining else receivedData
    chunk = receivedData.take remaining
      ∧ receivedData.drop chunk.length = receivedData.drop remaining := by
  intro chunk
  by_cases hlong : receivedData.length > remaining
  · have hchunk : chunk = receivedData.take remaining := if_pos hlong
    refine ⟨hchunk, ?_⟩
    rw [hchunk, List.length_take, Nat.min_eq_left (by omega)]
  · have hchunk : chunk = receivedData := if_neg hlong
    rw [hchunk, List.take_of_length_le (by omega), List.drop_length,
      List.drop_eq_nil_of_le (by omega)]
    exact ⟨rfl, rfl⟩

/-- **A read.** It drains the mailbox. When the packet stream has ended that is all; otherwise it
assembles, sends one ACK and, if that could be sent, hands out as much of what has been assembled as
the buffer takes. -/
theorem pollRead_eq {env : Env} {stream : UtpStream} (remaining : Nat)
    (hqueue : ∀ packet ∈ stream.inboundPackets.queue, packet.Handled) :
    let polled := drained env stream stream.inboundPackets.queue
    let assembled := polled.1.assemble
    let ack := (assembled.ackPacket env, assembled.remoteAddr)
    stream.pollRead env remaining = .ok
      (if polled.2 then ⟨polled.1, [], .ready (.ok [])⟩
      else if env.queues 0 then
        ⟨{ assembled with receivedData := assembled.receivedData.drop remaining }, [ack],
          if assembled.receivedData.isEmpty then .pending
          else .ready (.ok (assembled.receivedData.take remaining))⟩
      else ⟨assembled, [], .ready (.error (.channelClosed ack))⟩) := by
  intro polled assembled ack
  have hdrain : (drain env).run stream = .ok polled := drain_run hqueue
  have hack : assembled.sendAck env 0 = if env.queues 0 then .ok ack else .error (.channelClosed ack) :=
    sendAck_eq env assembled
  simp only [pollRead, hdrain, bind, Except.bind, pure, Except.pure]
  by_cases hended : polled.2 = true
  · simp only [hended, if_true]
  · simp only [hended, if_false, Bool.false_eq_true]
    rw [show polled.1.assemble.sendAck env 0 = _ from hack]
    by_cases hqueues : env.queues 0 = true
    · obtain ⟨hchunk, hrest⟩ := handOut_eq assembled.receivedData remaining
      simp only [hqueues, if_true]
      change (if assembled.receivedData.isEmpty then _ else _) = _
      by_cases hempty : assembled.receivedData.isEmpty
      · have hnil := List.isEmpty_iff.mp hempty
        have hsame : { assembled with receivedData := assembled.receivedData.drop remaining }
            = assembled := by
          rw [hnil, List.drop_nil, ← hnil]
        rw [if_pos hempty, if_pos hempty, hsame]
      · rw [if_neg hempty, if_neg hempty]
        simp only [assembled] at hchunk hrest ⊢
        rw [hrest, hchunk]
    · simp only [hqueues, if_false, Bool.false_eq_true]
      rfl

/-- **A read on an open mailbox.** -/
theorem pollRead_open {env : Env} {stream : UtpStream} (remaining : Nat)
    (hqueue : ∀ packet ∈ stream.inboundPackets.queue, packet.Handled)
    (hopen : stream.inboundPackets.closed = false) (hqueues : env.queues 0 = true) :
    let assembled := (stream.absorbed env).assemble
    stream.pollRead env remaining = .ok
      ⟨{ assembled with receivedData := assembled.receivedData.drop remaining },
        [(assembled.ackPacket env, assembled.remoteAddr)],
        if assembled.receivedData.isEmpty then .pending
        else .ready (.ok (assembled.receivedData.take remaining))⟩ := by
  have hdrained : drained env stream stream.inboundPackets.queue = (stream.absorbed env, false) :=
    Except.ok.inj ((drain_run hqueue).symm.trans (drain_run_open env hqueue hopen))
  intro assembled
  rw [pollRead_eq remaining hqueue, hdrained]
  simp only [Bool.false_eq_true, if_false, hqueues, if_true, assembled]

end UtpStream

end UtpSafety
