import UtpSafety.Proof.Acks
import UtpSafety.Proof.Delivery

/-!
# Acknowledged means assembled

Every ACK a receiver has ever sent acknowledges a front part of the chunks that it had assembled by
then, and so a front part of what it has assembled now. While the numbers of a sender have not come
round, an ACK therefore removes from `unackedData` only chunks that were assembled, however late and
in whatever order the ACKs arrive (`Acked`).
-/

namespace UtpSafety

open UtpStream

/-- The first `j` chunks of the sender are acknowledged, and no ACK ever goes beyond the `k`
chunks that the receiver has assembled. -/
structure Acked (start : UInt16) (j k : Nat) (sender receiver : Endpoint) : Prop where
  unackedData : sender.stream.unackedData = (Serial.number start sender.chunks).drop j
  le : j ≤ k
  acks : ∀ packet ∈ receiver.sent, packet.packetType = .state →
    ∃ k' ≤ k, packet.ackNumber + 1 = Serial.offset start k'

/-- The numbers of the sender have not come round, nor has the one before the first. -/
def Unwrapped (start : UInt16) (sender : Endpoint) : Prop :=
  1 ≤ start.toNat ∧ start.toNat + sender.chunks.length ≤ 65535

theorem Unwrapped.toNat_ackNumber {start : UInt16} {sender : Endpoint}
    (hunwrapped : Unwrapped start sender) {ackNumber : UInt16} {k : Nat}
    (hack : ackNumber + 1 = Serial.offset start k) (hk : k ≤ sender.chunks.length) :
    ackNumber.toNat + 1 = start.toNat + k := by
  obtain ⟨hfirst, hlast⟩ := hunwrapped
  have htoNat := congrArg UInt16.toNat hack
  rw [UInt16.toNat_add, UInt16.toNat_one, Serial.toNat_offset] at htoNat
  have hlt := ackNumber.toNat_lt
  omega

theorem Unwrapped.popAcked {start : UInt16} {sender : Endpoint} (hunwrapped : Unwrapped start sender)
    {ackNumber : UInt16} {j k : Nat} (hack : ackNumber + 1 = Serial.offset start k)
    (hj : j ≤ sender.chunks.length) (hk : k ≤ sender.chunks.length) :
    popAcked ackNumber ((Serial.number start sender.chunks).drop j)
      = (Serial.number start sender.chunks).drop (max j k) := by
  have hnat := hunwrapped.toNat_ackNumber hack hk
  obtain ⟨hfirst, hlast⟩ := hunwrapped
  have hne : ackNumber ≠ 65535 := by
    rintro rfl
    simp only [UInt16.reduceToNat] at hnat
    omega
  have hoffset : (Serial.offset start j).toNat = start.toNat + j := by
    rw [Serial.toNat_offset, Nat.mod_eq_of_lt (by omega)]
  rw [Serial.number_drop, popAcked_number hne, hoffset, ← Serial.number_drop, List.drop_drop]
  congr 1
  omega

namespace Acked

variable {start : UInt16} {j k : Nat} {sender receiver : Endpoint}
  (hacked : Acked start j k sender receiver)
include hacked

/-- Whatever the sender takes out of its mailbox, it counts as acknowledged only what was
assembled. -/
theorem absorbed (hunwrapped : Unwrapped start sender) (hk : k ≤ sender.chunks.length)
    (hqueue : ∀ packet ∈ sender.stream.inboundPackets.queue, packet ∈ receiver.sent) (env : Env) :
    ∃ j' ≤ k, (sender.stream.absorbed env).unackedData
      = (Serial.number start sender.chunks).drop j' := by
  apply absorbQueue_invariant (motive := fun stream =>
    ∃ j' ≤ k, stream.unackedData = (Serial.number start sender.chunks).drop j')
  · rintro stream receivedAt packet hpacket ⟨j', hle, hunacked⟩
    unfold absorb
    split_ifs
    · split
      · exact ⟨j', hle, hunacked⟩
      · rename_i htype
        obtain ⟨k', hk', hack⟩ := hacked.acks packet (hqueue packet (List.mem_of_mem_take hpacket)) htype
        refine ⟨max j' k', by omega, ?_⟩
        dsimp only
        rw [hunacked]
        exact hunwrapped.popAcked hack (by omega) (by omega)
      · exact ⟨j', hle, hunacked⟩
    · exact ⟨j', hle, hunacked⟩
  · exact ⟨j, hacked.le, hacked.unackedData⟩

theorem sender_wrote (hk : k ≤ sender.chunks.length)
    (hseqNumber : sender.stream.seqNumber = Serial.offset start sender.chunks.length)
    (env : Env) (buf : Bytes) : Acked start j k (sender.wrote env buf) receiver := by
  refine ⟨?_, hacked.le, hacked.acks⟩
  have hj := hacked.le
  rw [Endpoint.chunks_wrote, Serial.number_append,
    List.drop_append_of_le_length (by rw [Serial.length_number]; omega), ← hacked.unackedData,
    ← hseqNumber]
  rfl

theorem receiver_wrote (env : Env) (buf : Bytes) :
    Acked start j k sender (receiver.wrote env buf) := by
  refine ⟨hacked.unackedData, hacked.le, ?_⟩
  intro packet hpacket htype
  rcases List.mem_append.mp hpacket with hold | hnew
  · exact hacked.acks packet hold htype
  · obtain ⟨index, seqNumber, chunk, -, rfl⟩ := mem_dataPackets hnew
    cases htype

theorem receiver_reads {k' : Nat} (hk : k ≤ k') {env : Env} {remaining : Nat}
    (hassembles : Assembles start k' sender (receiver.didRead env remaining)) :
    Acked start j k' sender (receiver.didRead env remaining) := by
  refine ⟨hacked.unackedData, hacked.le.trans hk, ?_⟩
  intro packet hpacket htype
  rcases List.mem_append.mp hpacket with hold | hnew
  · obtain ⟨k'', hle, hack⟩ := hacked.acks packet hold htype
    exact ⟨k'', hle.trans hk, hack⟩
  · rw [List.mem_singleton.mp hnew]
    exact ⟨k', le_refl _, hassembles.ackNumber⟩

theorem congr {sender' receiver' : Endpoint}
    (hsender : sender'.stream.unackedData = sender.stream.unackedData
      ∧ sender'.written = sender.written)
    (hreceiver : receiver'.sent = receiver.sent) :
    Acked start j k sender' receiver' := by
  have hchunks : sender'.chunks = sender.chunks := by
    simp [Endpoint.chunks, hsender.2]
  refine ⟨?_, hacked.le, ?_⟩
  · rw [hsender.1, hchunks]
    exact hacked.unackedData
  · rw [hreceiver]
    exact hacked.acks

end Acked

/-- While its numbers have not come round, what is acknowledged was assembled. -/
def AckedInOrder (start : UInt16) (sender receiver : Endpoint) : Prop :=
  Unwrapped start sender →
    ∃ j k, Assembles start k sender receiver ∧ Acked start j k sender receiver

namespace AckedInOrder

variable {start : UInt16} {sender receiver : Endpoint}
  (hacked : AckedInOrder start sender receiver)
include hacked

theorem congr {sender' receiver' : Endpoint}
    (hsender : sender'.stream.unackedData = sender.stream.unackedData
      ∧ sender'.written = sender.written)
    (hreceiver : receiver'.stream.ackNumber = receiver.stream.ackNumber
      ∧ receiver'.stream.receivedData = receiver.stream.receivedData
      ∧ receiver'.delivered = receiver.delivered)
    (hsent : receiver'.sent = receiver.sent) :
    AckedInOrder start sender' receiver' := by
  intro hunwrapped
  have hchunks : sender'.chunks = sender.chunks := by
    simp [Endpoint.chunks, hsender.2]
  rw [Unwrapped, hchunks] at hunwrapped
  obtain ⟨j, k, hassembles, hjk⟩ := hacked hunwrapped
  exact ⟨j, k, hassembles.congr hsender.2 hreceiver, hjk.congr hsender hsent⟩

theorem sender_drains {sender' : Endpoint} {env : Env}
    (hunacked : sender'.stream.unackedData = (sender.stream.absorbed env).unackedData)
    (hwritten : sender'.written = sender.written)
    (hqueue : ∀ packet ∈ sender.stream.inboundPackets.queue, packet ∈ receiver.sent) :
    AckedInOrder start sender' receiver := by
  intro hunwrapped
  have hchunks : sender'.chunks = sender.chunks := by
    simp [Endpoint.chunks, hwritten]
  rw [Unwrapped, hchunks] at hunwrapped
  obtain ⟨j, k, hassembles, hjk⟩ := hacked hunwrapped
  obtain ⟨j', hle, habsorbed⟩ := hjk.absorbed hunwrapped hassembles.le hqueue env
  refine ⟨j', k, hassembles.congr hwritten ⟨rfl, rfl, rfl⟩, ?_, hle, hjk.acks⟩
  rw [hunacked, habsorbed, hchunks]

theorem sender_wrote (hlink : Link start sender receiver) (env : Env) (buf : Bytes) :
    AckedInOrder start (sender.wrote env buf) receiver := by
  intro hunwrapped
  rw [Unwrapped, Endpoint.chunks_wrote, List.length_append] at hunwrapped
  obtain ⟨j, k, hassembles, hjk⟩ := hacked ⟨hunwrapped.1, by omega⟩
  exact ⟨j, k, hassembles.wrote env buf,
    hjk.sender_wrote hassembles.le hlink.seqNumber env buf⟩

theorem receiver_wrote (env : Env) (buf : Bytes) :
    AckedInOrder start sender (receiver.wrote env buf) := by
  intro hunwrapped
  obtain ⟨j, k, hassembles, hjk⟩ := hacked hunwrapped
  exact ⟨j, k, hassembles.congr rfl ⟨rfl, rfl, rfl⟩, hjk.receiver_wrote env buf⟩

theorem receiver_reads (hlink : Link start sender receiver) (env : Env) (remaining : Nat) :
    AckedInOrder start sender (receiver.didRead env remaining) := by
  intro hunwrapped
  obtain ⟨j, k, hassembles, hjk⟩ := hacked hunwrapped
  have hbound : sender.chunks.length ≤ 65535 := by
    have hlast := hunwrapped.2
    omega
  obtain ⟨k', hle, hassembles'⟩ := hassembles.didRead hlink hbound env remaining
  exact ⟨j, k', hassembles', hjk.receiver_reads hle hassembles'⟩

theorem receiver_flushes (env : Env) : AckedInOrder start sender (receiver.flushed env) := by
  intro hunwrapped
  obtain ⟨j, k, hassembles, hjk⟩ := hacked hunwrapped
  exact ⟨j, k, hassembles.flushed env, hjk.congr ⟨rfl, rfl⟩ rfl⟩

end AckedInOrder

/-- **Acknowledged means assembled, in every state.** -/
theorem ackedInOrder_moved {start : Side → UInt16} {pair pair' : Pair} (hlinked : Linked start pair)
    (hacked : ∀ side, AckedInOrder (start side) (pair side) (pair side.other))
    (hmoved : Moved pair pair') :
    ∀ side, AckedInOrder (start side) (pair' side) (pair' side.other) := by
  have hback : ∀ side, AckedInOrder (start side.other) (pair side.other) (pair side) := by
    intro side
    simpa using hacked side.other
  have hlinkBack : ∀ side, Link (start side.other) (pair side.other) (pair side) := by
    intro side
    simpa using hlinked side.other
  cases hmoved with
  | wrote side env buf =>
      exact forall_update ((hacked side).sender_wrote (hlinked side) env buf)
        ((hback side).receiver_wrote env buf)
  | didRead side env remaining =>
      have hunacked : ((pair side).didRead env remaining).stream.unackedData
          = ((pair side).stream.absorbed env).unackedData := by
        simp only [Endpoint.didRead]
        rw [assemble_frame]
      exact forall_update ((hacked side).sender_drains hunacked rfl (hlinkBack side).queue)
        ((hback side).receiver_reads (hlinkBack side) env remaining)
  | flushed side env =>
      exact forall_update ((hacked side).sender_drains rfl rfl (hlinkBack side).queue)
        ((hback side).receiver_flushes env)
  | network side inFlight hinFlight =>
      exact forall_update ((hacked side).congr ⟨rfl, rfl⟩ ⟨rfl, rfl, rfl⟩ rfl)
        ((hback side).congr ⟨rfl, rfl⟩ ⟨rfl, rfl, rfl⟩ rfl)
  | delivered side packet inFlight hpacket hinFlight =>
      exact forall_update_both ((hacked side).congr ⟨rfl, rfl⟩ ⟨rfl, rfl, rfl⟩ rfl)
        ((hback side).congr ⟨rfl, rfl⟩ ⟨rfl, rfl, rfl⟩ rfl)

theorem ackedInOrder_of_agreed {pair : Pair} (hagreed : pair.Agreed) (side : Side) :
    AckedInOrder (pair side).stream.seqNumber (pair side) (pair side.other) := by
  intro hunwrapped
  have hchunks : (pair side).chunks = [] := by
    simp [Endpoint.chunks, (hagreed.fresh side).written]
  obtain ⟨k, hassembles⟩ := inOrder_of_agreed hagreed side (by simp [hchunks])
  refine ⟨0, k, hassembles, ?_, Nat.zero_le _, ?_⟩
  · rw [hchunks]
    exact (hagreed.fresh side).unackedData
  · simp [(hagreed.fresh side.other).sent]

theorem linked_and_ackedInOrder {pair final : Pair} {actions : List Action} (hagreed : pair.Agreed)
    (hexec : Run.exec Pair.step pair actions = some final) :
    Linked (fun side => (pair side).stream.seqNumber) final
      ∧ ∀ side, AckedInOrder (pair side).stream.seqNumber (final side) (final side.other) := by
  apply Run.exec_invariant (motive := fun state =>
    Linked (fun side => (pair side).stream.seqNumber) state
      ∧ ∀ side, AckedInOrder (pair side).stream.seqNumber (state side) (state side.other))
    ?_ ?_ hexec
  · intro state action state' hstate hstep
    have hmoved := moved_of_step hstate.1.ready hstep
    exact ⟨hstate.1.moved hmoved, ackedInOrder_moved hstate.1 hstate.2 hmoved⟩
  · exact ⟨linked_of_agreed hagreed, ackedInOrder_of_agreed hagreed⟩

/-- The current ACK of the receiver is accepted and leaves in flight exactly what the receiver has
not assembled. -/
theorem Acked.current_ack {start : UInt16} {j k : Nat} {sender receiver : Endpoint}
    (hacked : Acked start j k sender receiver) (hassembles : Assembles start k sender receiver)
    (hunwrapped : Unwrapped start sender)
    (hseqNumber : sender.stream.seqNumber = Serial.offset start sender.chunks.length)
    {packet : Packet} (htype : packet.packetType = .state)
    (hackNumber : packet.ackNumber = receiver.stream.ackNumber) :
    sender.stream.isSuspicious packet = .ok false
      ∧ sender.stream.handlePacket packet = .ok { sender.stream with
          unackedData := (Serial.number start sender.chunks).drop k } := by
  have hack : packet.ackNumber + 1 = Serial.offset start k := by
    rw [hackNumber]
    exact hassembles.ackNumber
  have hk := hassembles.le
  have hj := hacked.le
  constructor
  · have hleft : (sender.stream.seqNumber - packet.ackNumber).toNat
        = sender.chunks.length - k + 1 := by
      have hlast := hunwrapped.2
      have hnat := hunwrapped.toNat_ackNumber hack hk
      rw [hseqNumber, UInt16.toNat_sub, Serial.toNat_offset]
      omega
    have hlength : sender.stream.unackedData.length = sender.chunks.length - j := by
      rw [hacked.unackedData, List.length_drop, Serial.length_number]
    simp only [isSuspicious, htype, hleft, hlength, Except.ok.injEq, Bool.or_eq_false_iff,
      beq_eq_false_iff_ne, decide_eq_false_iff_not]
    omega
  · simp only [handlePacket, htype, hacked.unackedData]
    rw [hunwrapped.popAcked hack (by omega) hk, Nat.max_eq_right hj]

theorem Link.dataSent_take {start : UInt16} {sender receiver : Endpoint}
    (hlink : Link start sender receiver) (k : Nat) :
    (sender.dataSent.take k).map Packet.data = sender.chunks.take k := by
  have hchunks : sender.chunks = (Serial.number start sender.chunks).map Prod.snd := by
    rw [Serial.map_snd_number]
  rw [hchunks, ← hlink.log, List.map_map, List.map_take]
  rfl

/-- **A flushed stream was delivered.** In every state of every run in which the numbers of `side`
have not come round, its first `j` data packets are acknowledged and the first `k` of them are
assembled, and `j ≤ k`. When a flush is `Ready`, everything is assembled. The current ACK of the other
side is never suspicious, and leaves in flight exactly the packets that are not assembled. -/
theorem acknowledged_assembled {pair final : Pair} {actions : List Action} (hagreed : pair.Agreed)
    (hexec : Run.exec Pair.step pair actions = some final) (side : Side)
    (hfirst : 1 ≤ (pair side).stream.seqNumber.toNat)
    (hlast : (pair side).stream.seqNumber.toNat + (final side).dataSent.length ≤ 65535) :
    let numbered := (final side).dataSent.map fun packet => (packet.seqNumber, packet.data)
    let assembled := (final side.other).delivered ++ (final side.other).stream.receivedData
    ∃ j k, j ≤ k ∧ k ≤ (final side).dataSent.length
      ∧ (final side).stream.unackedData = numbered.drop j
      ∧ assembled = (((final side).dataSent.take k).map Packet.data).flatten
      ∧ (∀ env outcome, (final side).stream.pollFlush env = .ok outcome →
          outcome.result = .ready (.ok ()) → assembled = (final side).written.flatten)
      ∧ ∀ packet : Packet, packet.packetType = .state →
          packet.ackNumber = (final side.other).stream.ackNumber →
          (final side).stream.isSuspicious packet = .ok false
            ∧ (final side).stream.handlePacket packet = .ok { (final side).stream with
              unackedData := numbered.drop k } := by
  obtain ⟨hlinked, hacked⟩ := linked_and_ackedInOrder hagreed hexec
  have hlink := hlinked side
  have hback : Link (pair side.other).stream.seqNumber (final side.other) (final side) := by
    simpa using hlinked side.other
  have hlength := hlink.length_dataSent
  have hunwrapped : Unwrapped (pair side).stream.seqNumber (final side) :=
    ⟨hfirst, by rw [← hlength]; exact hlast⟩
  obtain ⟨j, k, hassembles, hjk⟩ := hacked side hunwrapped
  intro numbered assembled
  have hnumbered : numbered = Serial.number (pair side).stream.seqNumber (final side).chunks :=
    hlink.log
  refine ⟨j, k, hjk.le, ?_, ?_, ?_, ?_, ?_⟩
  · rw [hlength]
    exact hassembles.le
  · rw [hnumbered]
    exact hjk.unackedData
  · rw [hlink.dataSent_take]
    exact hassembles.bytes
  · intro env outcome hflush hready
    have hopen := pollFlush_open env (hlinked.ready side).handled (hlinked.ready side).opened
      (hlinked.ready side).running
    rw [hopen, Except.ok.injEq] at hflush
    subst hflush
    obtain ⟨j', hle, habsorbed⟩ := hjk.absorbed hunwrapped hassembles.le hback.queue env
    have hempty : ((final side).stream.absorbed env).unackedData.isEmpty := by
      by_contra hnonempty
      simp [hnonempty] at hready
    rw [habsorbed, List.isEmpty_iff, List.drop_eq_nil_iff, Serial.length_number] at hempty
    have hall : (final side).chunks.length ≤ k := hempty.trans hle
    calc assembled
        = ((final side).chunks.take k).flatten := hassembles.bytes
      _ = (final side).written.flatten := by
          rw [List.take_of_length_le hall, Endpoint.flatten_chunks]
  · intro packet htype hackNumber
    rw [hnumbered]
    exact hjk.current_ack hassembles hunwrapped hlink.seqNumber htype hackNumber

/-- Two writes, one of which arrives and is acknowledged, and a flush. -/
def halfAckedActions : List Action :=
  [.pollWrite .a .plain [1, 2, 3], .pollWrite .a .plain [4], .deliver .a 0, .pollRead .b .plain 2,
    .deliver .b 0, .pollFlush .a .plain]

def halfAcked : Pair :=
  (Run.exec Pair.step (Pair.numbered fun _ => 7) halfAckedActions).get (by decide)

theorem acknowledged_assembled_halfAcked :
    Run.exec Pair.step (Pair.numbered fun _ => 7) halfAckedActions = some halfAcked
      ∧ (halfAcked .a).stream.unackedData = [(8, [4])]
      ∧ ∃ j k, j ≤ k ∧ k ≤ (halfAcked .a).dataSent.length
        ∧ (halfAcked .a).stream.unackedData
          = ((halfAcked .a).dataSent.map fun packet => (packet.seqNumber, packet.data)).drop j
        ∧ (halfAcked .b).delivered ++ (halfAcked .b).stream.receivedData
          = (((halfAcked .a).dataSent.take k).map Packet.data).flatten := by
  have hexec : Run.exec Pair.step (Pair.numbered fun _ => 7) halfAckedActions = some halfAcked :=
    (Option.some_get _).symm
  obtain ⟨j, k, hle, hk, hunacked, hassembled, -, -⟩ :=
    acknowledged_assembled (Pair.agreed_numbered fun _ => 7) hexec .a (by decide) (by decide)
  exact ⟨hexec, by decide, j, k, hle, hk, hunacked, hassembled⟩

end UtpSafety
