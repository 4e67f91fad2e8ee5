import UtpSafety.Proof.Acks
import UtpSafety.Proof.Solo

/-!
# What a sender keeps track of

Every data packet that reaches the outgoing channel moves `seqNumber` by one and is recorded in
`unackedData`, from whose front the ACKs take away. So at any time the numbers of the packets sent are
consecutive and the data in flight are the last of them (`Booked`), whatever arrives and whichever
sends fail.
-/

namespace UtpSafety

open UtpStream

/-! ### What a write reports -/

namespace UtpStream

def payloads (sent : List (Packet × SocketAddr)) : List (UInt16 × Bytes) :=
  sent.map fun item => (item.1.seqNumber, item.1.data)

theorem payloads_dataPackets (env : Env) (index : Nat) (stream : UtpStream) (chunks : List Bytes) :
    payloads ((dataPackets env index stream chunks).map fun packet => (packet, stream.remoteAddr))
      = Serial.number stream.seqNumber chunks := by
  rw [payloads, List.map_map, ← map_dataPackets env index stream chunks]
  rfl

end UtpStream

/-! ### Whole runs -/

/-- What a write adds to the data sent: the whole buffer when it succeeds, and some of the leading
chunks of the buffer when it fails. -/
def Write.Contributed (write : Write) (part : Bytes) : Prop :=
  match write.result with
  | .ready (.ok _) => part = write.buf
  | .ready (.error _) =>
      ∃ count, part = ((Chunks.chunks maxDataSegmentSize write.buf).take count).flatten
  | .pending => False

namespace Solo

def runningWrites (solo : Solo) : List Write := solo.writes.filter fun write => !write.shutdown

def log (solo : Solo) : List (UInt16 × Bytes) :=
  solo.dataSent.map fun packet => (packet.seqNumber, packet.data)

/-- `payloads` have been sent under consecutive numbers from `first` on, and the last of them are in
flight. -/
structure Booked (first : UInt16) (payloads parts : List Bytes) (solo : Solo) : Prop where
  log : solo.log = Serial.number first payloads
  seqNumber : solo.stream.seqNumber = Serial.offset first payloads.length
  unackedData : solo.stream.unackedData <:+ Serial.number first payloads
  sizes : ∀ payload ∈ payloads, 1 ≤ payload.length ∧ payload.length ≤ maxDataSegmentSize
  contributed : List.Forall₂ Write.Contributed solo.runningWrites parts
  flatten : payloads.flatten = parts.flatten

variable {first : UInt16} {payloads parts : List Bytes} {solo solo' : Solo} {action : SoloAction}

theorem Booked.quiet (hbooked : Booked first payloads parts solo)
    (hdataSent : solo'.dataSent = solo.dataSent) (hwrites : solo'.writes = solo.writes)
    (hseqNumber : solo'.stream.seqNumber = solo.stream.seqNumber)
    (hunacked : solo'.stream.unackedData <:+ solo.stream.unackedData) :
    Booked first payloads parts solo' where
  log := by
    rw [Solo.log, hdataSent]
    exact hbooked.log
  seqNumber := hseqNumber.trans hbooked.seqNumber
  unackedData := hunacked.trans hbooked.unackedData
  sizes := hbooked.sizes
  contributed := by
    rw [runningWrites, hwrites]
    exact hbooked.contributed
  flatten := hbooked.flatten

theorem popAcked_isSuffix (ackNumber : UInt16) (unackedData : List (UInt16 × Bytes)) :
    popAcked ackNumber unackedData <:+ unackedData := by
  induction unackedData with
  | nil => exact List.suffix_refl _
  | cons entry rest ih =>
      rw [popAcked]
      split_ifs
      · exact ih.trans (List.suffix_cons _ _)
      · exact List.suffix_refl _

theorem unackedData_drained (solo : Solo) (env : Env) :
    (solo.drained env).1.unackedData <:+ solo.stream.unackedData := by
  rw [Solo.drained, drained_frame]
  apply absorbQueue_invariant
    (motive := fun absorbed => absorbed.unackedData <:+ solo.stream.unackedData)
  · intro absorbed receivedAt packet _ hsuffix
    unfold absorb
    split_ifs
    · split
      · exact hsuffix
      · exact (popAcked_isSuffix _ _).trans hsuffix
      · exact hsuffix
    · exact hsuffix
  · exact List.suffix_refl _

theorem seqNumber_drained (solo : Solo) (env : Env) :
    (solo.drained env).1.seqNumber = solo.stream.seqNumber := by
  rw [Solo.drained, drained_frame]

/-- A write that was not refused at once adds some of its leading chunks. -/
theorem Booked.sends (hbooked : Booked first payloads parts solo) {env : Env} {buf : Bytes}
    (hrunning : solo.stream.isShutdown = false) {sent : List Bytes}
    (hsent : ∀ payload ∈ sent, 1 ≤ payload.length ∧ payload.length ≤ maxDataSegmentSize)
    (hstream : (solo.stream.pollWrite env buf).stream = solo.stream.withSent sent)
    (hitems : (solo.stream.pollWrite env buf).sent = (dataPackets env 0 solo.stream sent).map
      fun packet => (packet, solo.stream.remoteAddr))
    (hcontributed : Write.Contributed ⟨false, buf, (solo.stream.pollWrite env buf).result⟩
      sent.flatten) :
    Booked first (payloads ++ sent) (parts ++ [sent.flatten]) (solo.wrote env buf) where
  log := by
    have hdata : (dataPackets env 0 solo.stream sent).filter (fun packet => packet.packetType = .data)
        = dataPackets env 0 solo.stream sent := by
      rw [List.filter_eq_self]
      intro packet hpacket
      obtain ⟨_, _, _, _, rfl⟩ := mem_dataPackets hpacket
      rfl
    have hmap : ((dataPackets env 0 solo.stream sent).map
        fun packet => (packet, solo.stream.remoteAddr)).map Prod.fst
          = dataPackets env 0 solo.stream sent := by
      simp [List.map_map, Function.comp_def]
    rw [Serial.number_append, ← hbooked.log, ← hbooked.seqNumber,
      ← map_dataPackets env 0 solo.stream sent]
    simp only [Solo.log, dataSent, Solo.wrote, Solo.after, hitems, List.map_append, hmap,
      List.filter_append, hdata]
  seqNumber := by
    simp only [Solo.wrote, Solo.after, hstream, withSent, hbooked.seqNumber, Serial.offset_offset,
      List.length_append]
  unackedData := by
    obtain ⟨acked, hacked⟩ := hbooked.unackedData
    refine ⟨acked, ?_⟩
    simp only [Solo.wrote, Solo.after, hstream, withSent]
    rw [← List.append_assoc, hacked, Serial.number_append, hbooked.seqNumber]
  sizes := by
    intro payload hpayload
    rcases List.mem_append.mp hpayload with hold | hnew
    · exact hbooked.sizes payload hold
    · exact hsent payload hnew
  contributed := by
    have hwrites : (solo.wrote env buf).runningWrites = solo.runningWrites
        ++ [⟨false, buf, (solo.stream.pollWrite env buf).result⟩] := by
      simp [runningWrites, Solo.wrote, hrunning]
    rw [hwrites]
    exact List.rel_append hbooked.contributed (.cons hcontributed .nil)
  flatten := by
    rw [List.flatten_append, List.flatten_append, hbooked.flatten, List.flatten_singleton]

theorem Booked.wrote (hbooked : Booked first payloads parts solo) (env : Env) (buf : Bytes) :
    ∃ payloads' parts', Booked first payloads' parts' (solo.wrote env buf) := by
  cases hshutdown : solo.stream.isShutdown with
  | true =>
      have hwrite := pollWrite_shutdown env hshutdown buf
      refine ⟨payloads, parts, ?_⟩
      constructor
      · simpa [Solo.log, dataSent, Solo.wrote, Solo.after, hwrite] using hbooked.log
      · simpa [Solo.wrote, Solo.after, hwrite] using hbooked.seqNumber
      · simpa [Solo.wrote, Solo.after, hwrite] using hbooked.unackedData
      · exact hbooked.sizes
      · simpa [runningWrites, Solo.wrote, hshutdown] using hbooked.contributed
      · exact hbooked.flatten
  | false =>
      obtain ⟨count, -, -, hstream, hitems, hresult⟩ := pollWrite_spec env hshutdown buf
      refine ⟨_, _, hbooked.sends hshutdown ?_ hstream hitems ?_⟩
      · intro payload hpayload
        have hchunk := List.mem_of_mem_take hpayload
        exact ⟨Chunks.length_pos_of_mem_chunks (by decide) hchunk,
          Chunks.length_le_of_mem_chunks hchunk⟩
      · rcases hresult with ⟨hall, hresult⟩ | ⟨-, chunk, -, hresult⟩
        · rw [hresult, hall, List.take_length]
          exact Chunks.chunks_flatten (by decide) buf
        · rw [hresult]
          exact ⟨count, rfl⟩

theorem Booked.moved (hbooked : Booked first payloads parts solo)
    (hmoved : Moved solo action solo') :
    ∃ payloads' parts', Booked first payloads' parts' solo' := by
  cases hmoved with
  | received packet _ _ =>
      exact ⟨payloads, parts, hbooked.quiet rfl rfl rfl (List.suffix_refl _)⟩
  | closed => exact ⟨payloads, parts, hbooked.quiet rfl rfl rfl (List.suffix_refl _)⟩
  | wrote env buf => exact hbooked.wrote env buf
  | ended env remaining _ =>
      exact ⟨payloads, parts, hbooked.quiet rfl rfl (seqNumber_drained solo env)
        (unackedData_drained solo env)⟩
  | refused env remaining _ _ =>
      refine ⟨payloads, parts, hbooked.quiet rfl rfl ?_ ?_⟩
      · rw [assemble_frame]
        exact seqNumber_drained solo env
      · rw [assemble_frame]
        exact unackedData_drained solo env
  | didRead env remaining _ _ =>
      refine ⟨payloads, parts, hbooked.quiet ?_ rfl ?_ ?_⟩
      · simp [dataSent, Solo.didRead, ackPacket]
      · simp only [Solo.didRead]
        rw [assemble_frame]
        exact seqNumber_drained solo env
      · simp only [Solo.didRead]
        rw [assemble_frame]
        exact unackedData_drained solo env
  | flushed env =>
      exact ⟨payloads, parts, hbooked.quiet rfl rfl (seqNumber_drained solo env)
        (unackedData_drained solo env)⟩

end Solo

theorem booked_of_exec {localAddr remoteAddr : SocketAddr}
    {connectionIdRecv connectionIdSend : UInt16} {inboundPackets : Mailbox}
    {seqNumber ackNumber : UInt16} (hqueue : ∀ packet ∈ inboundPackets.queue, packet.Handled)
    {actions : List SoloAction} {final : Solo}
    (hexec : Run.exec Solo.step (Solo.start (UtpStream.new localAddr connectionIdRecv
      connectionIdSend remoteAddr inboundPackets seqNumber ackNumber)) actions = some final) :
    ∃ payloads parts, Solo.Booked seqNumber payloads parts final := by
  have hanything : ∀ action ∈ actions, (fun _ => True) action := fun _ _ => trivial
  refine Solo.invariant_of_exec (motive := fun state : Solo =>
    ∃ payloads parts, Solo.Booked seqNumber payloads parts state) ?_ ?_ ?_
    (Run.all_of_forall hanything) hexec
  · rintro state action state' ⟨payloads, parts, hbooked⟩ - hmoved
    exact hbooked.moved hmoved
  · exact hqueue
  · refine ⟨[], [], rfl, ?_, List.suffix_refl _, List.forall_mem_nil _, .nil, rfl⟩
    simp [Solo.start, UtpStream.new]

/-- **The books of a sender balance.** In every state of every run the data packets that were sent
number `seqNumber - first`, in this order; the last of them are in flight; none is empty or too
large; and together they carry the buffers of the successful writes and leading chunks of the buffers
of the failed ones. -/
theorem sender_bookkeeping {localAddr remoteAddr : SocketAddr}
    {connectionIdRecv connectionIdSend : UInt16} {inboundPackets : Mailbox}
    {seqNumber ackNumber : UInt16} (hqueue : ∀ packet ∈ inboundPackets.queue, packet.Handled)
    {actions : List SoloAction} {final : Solo}
    (hexec : Run.exec Solo.step (Solo.start (UtpStream.new localAddr connectionIdRecv
      connectionIdSend remoteAddr inboundPackets seqNumber ackNumber)) actions = some final) :
    final.stream.seqNumber = Serial.offset seqNumber final.dataSent.length
      ∧ (∀ i packet, final.dataSent[i]? = some packet →
        packet.seqNumber = Serial.offset seqNumber i)
      ∧ final.stream.unackedData
        <:+ (final.dataSent.map fun packet => (packet.seqNumber, packet.data))
      ∧ (∀ packet ∈ final.dataSent,
        1 ≤ packet.data.length ∧ packet.data.length ≤ maxDataSegmentSize)
      ∧ ∃ parts, List.Forall₂ Write.Contributed final.runningWrites parts
        ∧ (final.dataSent.map Packet.data).flatten = parts.flatten := by
  obtain ⟨payloads, parts, hbooked⟩ := booked_of_exec hqueue hexec
  have hlog : (final.dataSent.map fun packet => (packet.seqNumber, packet.data))
      = Serial.number seqNumber payloads := hbooked.log
  have hdata : final.dataSent.map Packet.data = payloads := by
    rw [← Serial.map_snd_number seqNumber payloads, ← hlog, List.map_map]
    rfl
  refine ⟨?_, ?_, ?_, ?_, parts, hbooked.contributed, ?_⟩
  · rw [hbooked.seqNumber, ← hdata, List.length_map]
  · intro i packet hpacket
    have hentry := congrArg (fun entries => entries[i]?) hlog
    simp only [List.getElem?_map, hpacket, Option.map_some, Serial.getElem?_number] at hentry
    obtain ⟨payload, -, hsame⟩ := Option.map_eq_some_iff.mp hentry.symm
    exact (congrArg Prod.fst hsame).symm
  · rw [hlog]
    exact hbooked.unackedData
  · intro packet hpacket
    exact hbooked.sizes packet.data (hdata ▸ List.mem_map_of_mem hpacket)
  · rw [hdata]
    exact hbooked.flatten

/-- **Numbers in flight.** In every state of every run the numbers of the data in flight are pairwise
different exactly as long as no more than `2 ^ 16` packets are in flight. -/
theorem inFlight_distinct_iff {localAddr remoteAddr : SocketAddr}
    {connectionIdRecv connectionIdSend : UInt16} {inboundPackets : Mailbox}
    {seqNumber ackNumber : UInt16} (hqueue : ∀ packet ∈ inboundPackets.queue, packet.Handled)
    {actions : List SoloAction} {final : Solo}
    (hexec : Run.exec Solo.step (Solo.start (UtpStream.new localAddr connectionIdRecv
      connectionIdSend remoteAddr inboundPackets seqNumber ackNumber)) actions = some final) :
    (final.stream.unackedData.map Prod.fst).Nodup ↔ final.stream.unackedData.length ≤ 65536 := by
  obtain ⟨payloads, parts, hbooked⟩ := booked_of_exec hqueue hexec
  obtain ⟨acked, hacked⟩ := hbooked.unackedData
  have hnumbered : final.stream.unackedData = Serial.number (Serial.offset seqNumber acked.length)
      (payloads.drop acked.length) := by
    rw [← Serial.number_drop, ← hacked, List.drop_left]
  rw [hnumbered, Serial.nodup_number_iff, Serial.length_number]

/-- Two writes, the second of which is stopped by the channel, and the ACK of the first. -/
def stoppedWriteActions : List SoloAction :=
  [.pollWrite .plain [1, 2, 3], .arrive (acknowledging 1), .pollWrite (.closingAfter 0) [4],
    .pollFlush .plain, .pollWrite .plain [5]]

def stoppedWrite : Solo :=
  (Run.exec Solo.step (Solo.start (expecting 41)) stoppedWriteActions).get (by decide)

theorem sender_bookkeeping_stoppedWrite :
    Run.exec Solo.step (Solo.start (expecting 41)) stoppedWriteActions = some stoppedWrite
      ∧ stoppedWrite.dataSent.map Packet.data = [[1, 2, 3], [5]]
      ∧ stoppedWrite.stream.unackedData = [(2, [5])]
      ∧ ∃ parts, List.Forall₂ Write.Contributed stoppedWrite.runningWrites parts
        ∧ (stoppedWrite.dataSent.map Packet.data).flatten = parts.flatten := by
  have hexec : Run.exec Solo.step (Solo.start (expecting 41)) stoppedWriteActions
      = some stoppedWrite := (Option.some_get _).symm
  obtain ⟨-, -, -, -, hparts⟩ := sender_bookkeeping (List.forall_mem_nil _) hexec
  exact ⟨hexec, by decide, by decide, hparts⟩

/-- Two more writes, and the ACK of the first packet of the four. -/
def unackedActions : List SoloAction :=
  stoppedWriteActions ++ [.pollWrite .plain [6, 7], .arrive (acknowledging 1), .pollWrite .plain [8],
    .pollFlush .plain]

def unacked : Solo :=
  (Run.exec Solo.step (Solo.start (expecting 41)) unackedActions).get (by decide)

theorem inFlight_distinct_iff_unacked :
    Run.exec Solo.step (Solo.start (expecting 41)) unackedActions = some unacked
      ∧ unacked.stream.unackedData = [(2, [5]), (3, [6, 7]), (4, [8])]
      ∧ (unacked.stream.unackedData.map Prod.fst).Nodup := by
  have hexec : Run.exec Solo.step (Solo.start (expecting 41)) unackedActions = some unacked :=
    (Option.some_get _).symm
  exact ⟨hexec, by decide, (inFlight_distinct_iff (List.forall_mem_nil _) hexec).mpr (by decide)⟩

theorem not_nodup_of_long {buf : Bytes} (hlong : 65536 * maxDataSegmentSize < buf.length) :
    ∃ final, Run.exec Solo.step (Solo.start (expecting 41)) [.pollWrite .plain buf] = some final
      ∧ ¬(final.stream.unackedData.map Prod.fst).Nodup := by
  refine ⟨(Solo.start (expecting 41)).wrote .plain buf, rfl, ?_⟩
  have hwrite := pollWrite_eq (fun _ => rfl : ∀ index, Env.plain.queues index = true)
    (rfl : (expecting 41).isShutdown = false) buf
  have hunacked : ((Solo.start (expecting 41)).wrote .plain buf).stream.unackedData
      = Serial.number 1 (Chunks.chunks maxDataSegmentSize buf) := by
    simp only [Solo.wrote, Solo.after, Solo.start, hwrite]
    rfl
  rw [hunacked, Serial.nodup_number_iff]
  intro hfew
  have hchunks : (Chunks.chunks maxDataSegmentSize buf).flatten = buf :=
    Chunks.chunks_flatten (by decide) buf
  have hpieces : ∀ piece ∈ Chunks.chunks maxDataSegmentSize buf, piece.length ≤ maxDataSegmentSize :=
    fun piece hpiece => Chunks.length_le_of_mem_chunks hpiece
  have hshort : buf.length ≤ 65536 * maxDataSegmentSize := by
    calc buf.length = (Chunks.chunks maxDataSegmentSize buf).flatten.length := by rw [hchunks]
      _ ≤ (Chunks.chunks maxDataSegmentSize buf).length * maxDataSegmentSize :=
        Chunks.length_flatten_le hpieces
      _ ≤ 65536 * maxDataSegmentSize := Nat.mul_le_mul_right _ hfew
  omega

theorem inFlight_not_distinct :
    ∃ final, Run.exec Solo.step (Solo.start (expecting 41))
        [.pollWrite .plain (List.replicate (65536 * maxDataSegmentSize + 1) 0)] = some final
      ∧ ¬(final.stream.unackedData.map Prod.fst).Nodup :=
  not_nodup_of_long (by rw [List.length_replicate]; omega)

end UtpSafety
