import UtpSafety.Proof.Link

/-!
# Bytes arrive in order

At every moment there is a number `k` such that the receiver has assembled the first `k` chunks of
the sender and nothing else (`Assembles`). A read lengthens the assembled part by the run that
assembly takes out of `inboundData`; by the link every payload of that run is a numbered chunk, and
as long as no number has been used twice the numbers say which.
-/

namespace UtpSafety

open UtpStream

/-- The receiver has assembled the first `k` chunks: they were handed out or wait in
`receivedData`. -/
structure Assembles (start : UInt16) (k : Nat) (sender receiver : Endpoint) : Prop where
  le : k ≤ sender.chunks.length
  ackNumber : receiver.stream.ackNumber + 1 = Serial.offset start k
  bytes : receiver.delivered ++ receiver.stream.receivedData = (sender.chunks.take k).flatten

namespace Assembles

variable {start : UInt16} {k : Nat} {sender receiver : Endpoint}
  (hassembles : Assembles start k sender receiver)
include hassembles

theorem wrote (env : Env) (buf : Bytes) : Assembles start k (sender.wrote env buf) receiver := by
  have hchunks := sender.chunks_wrote env buf
  refine ⟨?_, hassembles.ackNumber, ?_⟩
  · have hle := hassembles.le
    rw [hchunks, List.length_append]
    omega
  · rw [hchunks, List.take_append_of_le_length hassembles.le]
    exact hassembles.bytes

theorem congr {sender' receiver' : Endpoint} (hwritten : sender'.written = sender.written)
    (hreceiver : receiver'.stream.ackNumber = receiver.stream.ackNumber
      ∧ receiver'.stream.receivedData = receiver.stream.receivedData
      ∧ receiver'.delivered = receiver.delivered) :
    Assembles start k sender' receiver' := by
  have hchunks : sender'.chunks = sender.chunks := by
    simp [Endpoint.chunks, hwritten]
  obtain ⟨hackNumber, hreceivedData, hdelivered⟩ := hreceiver
  refine ⟨?_, ?_, ?_⟩
  · rw [hchunks]
    exact hassembles.le
  · rw [hackNumber]
    exact hassembles.ackNumber
  · rw [hchunks, hreceivedData, hdelivered]
    exact hassembles.bytes

theorem flushed (env : Env) : Assembles start k sender (receiver.flushed env) := by
  apply hassembles.congr rfl
  simp only [Endpoint.flushed]
  rw [absorbed_frame]
  exact ⟨rfl, rfl, trivial⟩

/-- The run that a read assembles is made of the sender's next chunks. -/
theorem run_isPrefix (hlink : Link start sender receiver)
    (hbound : sender.chunks.length ≤ 65535) {env : Env} {result : UtpStream} {run : List Bytes}
    (hrun : Assembled (receiver.stream.absorbed env) result run) :
    run <+: sender.chunks.drop k := by
  have hackNumber : (receiver.stream.absorbed env).ackNumber = receiver.stream.ackNumber := by
    rw [absorbed_frame]
  have hinbound := (hlink.receiver_flushes env).inbound
  apply Serial.isPrefix_drop_of_mem_number hbound hassembles.le
  intro i data hdata
  have hpresent := hrun.present i data hdata
  rw [hackNumber, hassembles.ackNumber] at hpresent
  exact hinbound _ _ hpresent

theorem didRead (hlink : Link start sender receiver) (hbound : sender.chunks.length ≤ 65535)
    (env : Env) (remaining : Nat) :
    ∃ k' ≥ k, Assembles start k' sender (receiver.didRead env remaining) := by
  obtain ⟨run, hrun⟩ := exists_assembled (receiver.stream.absorbed env)
  obtain ⟨later, hlater⟩ := hassembles.run_isPrefix hlink hbound hrun
  have hlength : k + run.length ≤ sender.chunks.length := by
    have hle := hassembles.le
    have hdrop := congrArg List.length hlater
    simp only [List.length_append, List.length_drop] at hdrop
    omega
  have htake : sender.chunks.take (k + run.length) = sender.chunks.take k ++ run := by
    rw [List.take_add, ← hlater, List.take_left]
  refine ⟨k + run.length, Nat.le_add_right _ _, hlength, ?_, ?_⟩
  · rw [Endpoint.ackNumber_didRead hrun, Serial.offset_add_one, ← Serial.offset_add_one_left,
      hassembles.ackNumber, Serial.offset_offset]
  · rw [Endpoint.bytes_didRead hrun, hassembles.bytes, htake, List.flatten_append]

end Assembles

/-- While no number has been used twice, the receiver has assembled a front part of the chunks. -/
def InOrder (start : UInt16) (sender receiver : Endpoint) : Prop :=
  sender.chunks.length ≤ 65535 → ∃ k, Assembles start k sender receiver

theorem InOrder.congr {start : UInt16} {sender sender' receiver receiver' : Endpoint}
    (horder : InOrder start sender receiver) (hwritten : sender'.written = sender.written)
    (hreceiver : receiver'.stream.ackNumber = receiver.stream.ackNumber
      ∧ receiver'.stream.receivedData = receiver.stream.receivedData
      ∧ receiver'.delivered = receiver.delivered) :
    InOrder start sender' receiver' := by
  intro hbound
  have hchunks : sender'.chunks = sender.chunks := by
    simp [Endpoint.chunks, hwritten]
  obtain ⟨k, hassembles⟩ := horder (hchunks ▸ hbound)
  exact ⟨k, hassembles.congr hwritten hreceiver⟩

/-- **Order is an invariant.** -/
theorem inOrder_moved {start : Side → UInt16} {pair pair' : Pair} (hlinked : Linked start pair)
    (horder : ∀ side, InOrder (start side) (pair side) (pair side.other))
    (hmoved : Moved pair pair') :
    ∀ side, InOrder (start side) (pair' side) (pair' side.other) := by
  have hback : ∀ side, InOrder (start side.other) (pair side.other) (pair side) := by
    intro side
    simpa using horder side.other
  cases hmoved with
  | wrote side env buf =>
      refine forall_update (fun hbound => ?_) ((hback side).congr rfl ⟨rfl, rfl, rfl⟩)
      rw [Endpoint.chunks_wrote, List.length_append] at hbound
      obtain ⟨k, hassembles⟩ := horder side (by omega)
      exact ⟨k, hassembles.wrote env buf⟩
  | didRead side env remaining =>
      refine forall_update ((horder side).congr rfl ⟨rfl, rfl, rfl⟩) (fun hbound => ?_)
      obtain ⟨k, hassembles⟩ := hback side hbound
      have hlink : Link (start side.other) (pair side.other) (pair side) := by
        simpa using hlinked side.other
      obtain ⟨k', -, hassembles'⟩ := hassembles.didRead hlink hbound env remaining
      exact ⟨k', hassembles'⟩
  | flushed side env =>
      refine forall_update ((horder side).congr rfl ⟨rfl, rfl, rfl⟩) (fun hbound => ?_)
      obtain ⟨k, hassembles⟩ := hback side hbound
      exact ⟨k, hassembles.flushed env⟩
  | network side inFlight hinFlight =>
      exact forall_update ((horder side).congr rfl ⟨rfl, rfl, rfl⟩)
        ((hback side).congr rfl ⟨rfl, rfl, rfl⟩)
  | delivered side packet inFlight hpacket hinFlight =>
      exact forall_update_both ((horder side).congr rfl ⟨rfl, rfl, rfl⟩)
        ((hback side).congr rfl ⟨rfl, rfl, rfl⟩)

theorem inOrder_of_agreed {pair : Pair} (hagreed : pair.Agreed) (side : Side) :
    InOrder (pair side).stream.seqNumber (pair side) (pair side.other) := by
  intro _
  refine ⟨0, Nat.zero_le _, ?_, ?_⟩
  · rw [Serial.offset_zero]
    exact hagreed.expects side
  · rw [(hagreed.fresh side.other).delivered, (hagreed.fresh side.other).receivedData]
    rfl

theorem linked_and_inOrder {pair final : Pair} {actions : List Action} (hagreed : pair.Agreed)
    (hexec : Run.exec Pair.step pair actions = some final) :
    Linked (fun side => (pair side).stream.seqNumber) final
      ∧ ∀ side, InOrder (pair side).stream.seqNumber (final side) (final side.other) := by
  apply Run.exec_invariant (motive := fun state =>
    Linked (fun side => (pair side).stream.seqNumber) state
      ∧ ∀ side, InOrder (pair side).stream.seqNumber (state side) (state side.other)) ?_ ?_ hexec
  · intro state action state' hstate hstep
    have hmoved := moved_of_step hstate.1.ready hstep
    exact ⟨hstate.1.moved hmoved, inOrder_moved hstate.1 hstate.2 hmoved⟩
  · exact ⟨linked_of_agreed hagreed, inOrder_of_agreed hagreed⟩

theorem Endpoint.flatten_chunks (endpoint : Endpoint) :
    endpoint.chunks.flatten = endpoint.written.flatten := by
  have hflatten : ∀ buf ∈ endpoint.written,
      (Chunks.chunks maxDataSegmentSize buf).flatten = buf :=
    fun buf _ => Chunks.chunks_flatten (by decide) buf
  rw [Endpoint.chunks, List.flatMap_def, List.flatten_flatten, List.map_map]
  simp only [Function.comp_def]
  rw [List.map_congr_left hflatten, List.map_id']

/-- **Stream safety.** At every moment of every run from agreement, what the reads on one side have
handed out, followed by what waits there in `receivedData`, is the concatenation of the first `k`
chunks that the other side has written, for some `k`, and so a front part of what was written. -/
theorem delivered_isPrefix_written {pair final : Pair} {actions : List Action}
    (hagreed : pair.Agreed) (hexec : Run.exec Pair.step pair actions = some final)
    (hbound : ∀ side, (final side).dataSent.length ≤ 65535) (side : Side) :
    ∃ k ≤ (final side).chunks.length,
      (final side.other).delivered ++ (final side.other).stream.receivedData
          = ((final side).chunks.take k).flatten
        ∧ (final side.other).delivered ++ (final side.other).stream.receivedData
          <+: (final side).written.flatten := by
  obtain ⟨hlinked, horder⟩ := linked_and_inOrder hagreed hexec
  have hlength : (final side).chunks.length ≤ 65535 := by
    rw [← (hlinked side).length_dataSent]
    exact hbound side
  obtain ⟨k, hassembles⟩ := horder side hlength
  refine ⟨k, hassembles.le, hassembles.bytes, ?_⟩
  rw [hassembles.bytes, ← Endpoint.flatten_chunks]
  exact ⟨((final side).chunks.drop k).flatten, by rw [← List.flatten_append, List.take_append_drop]⟩

/-- Two writes whose packets are numbered 65535 and 0 and arrive in the wrong order, the second of
them twice, with a read after each arrival. -/
def wrappingActions : List Action :=
  [.pollWrite .a .plain [1, 2, 3], .pollWrite .a .plain [4], .duplicate .a 1, .deliver .a 1,
    .pollRead .b .plain 8, .deliver .a 0, .pollRead .b .plain 2, .deliver .a 0,
    .pollRead .b .plain 1]

theorem delivered_isPrefix_written_wrapping :
    ∃ final, Run.exec Pair.step (Pair.numbered fun _ => 65535) wrappingActions = some final
      ∧ ((final .b).delivered, (final .b).stream.receivedData) = ([1, 2, 3], [4])
      ∧ ∃ k ≤ (final .a).chunks.length,
        (final .b).delivered ++ (final .b).stream.receivedData = ((final .a).chunks.take k).flatten
          ∧ (final .b).delivered ++ (final .b).stream.receivedData
            <+: (final .a).written.flatten := by
  refine ⟨(Run.exec Pair.step _ wrappingActions).get (by decide), (Option.some_get _).symm,
    by decide, ?_⟩
  refine delivered_isPrefix_written (Pair.agreed_numbered _) (Option.some_get _).symm ?_ .a
  intro side
  cases side <;> decide

end UtpSafety
