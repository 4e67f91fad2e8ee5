import UtpSafety.Proof.Reassembly
import UtpSafety.Proof.Bookkeeping

/-!
# Whatever arrives

Nothing is assumed here of the packets that arrive: they may be old, forged, copied or of another
stream. What a stream assembles is nevertheless a row of payloads that have arrived under consecutive
numbers, and its ACKs acknowledge longer and longer front parts of that row (`Gapless`). A number that
does not arrive stops the row for good.
-/

namespace UtpSafety

open UtpStream

namespace Solo

def acksSent (solo : Solo) : List Packet :=
  (solo.sent.map Prod.fst).filter fun packet => packet.packetType = .state

/-- The payloads `run` of the numbers after `a` are assembled, and the ACKs so far acknowledged so
many of them each. What is held beyond the row has arrived as well. -/
structure Gapless (a : UInt16) (run : List Bytes) (counts : List Nat) (solo : Solo) : Prop where
  queue : solo.stream.inboundPackets.queue ⊆ solo.arrived
  ackNumber : solo.stream.ackNumber = Serial.offset a run.length
  present : ∀ i data, run[i]? = some data →
    ∃ packet ∈ solo.arrived, packet.Carries (Serial.offset a (i + 1)) data
  lookup : ∀ number data, solo.stream.inboundData.lookup number = some data →
    ∃ packet ∈ solo.arrived, packet.Carries number data
  bytes : solo.delivered ++ solo.stream.receivedData = run.flatten
  acks : solo.acksSent.map Packet.ackNumber = counts.map (Serial.offset a)
  ascending : counts.Pairwise (· ≤ ·)
  le : ∀ count ∈ counts, count ≤ run.length

variable {a : UInt16} {run : List Bytes} {counts : List Nat} {solo solo' : Solo}
  {action : SoloAction}

/-- An action that assembles nothing and acknowledges nothing. -/
theorem Gapless.quiet (hgapless : Gapless a run counts solo) (solo' : Solo)
    (harrived : solo.arrived ⊆ solo'.arrived)
    (hqueue : solo'.stream.inboundPackets.queue ⊆ solo'.arrived)
    (hackNumber : solo'.stream.ackNumber = solo.stream.ackNumber)
    (hbytes : solo'.delivered ++ solo'.stream.receivedData
      = solo.delivered ++ solo.stream.receivedData)
    (hlookup : ∀ number data, solo'.stream.inboundData.lookup number = some data →
      ∃ packet ∈ solo'.arrived, packet.Carries number data)
    (hacksSent : solo'.acksSent = solo.acksSent) : Gapless a run counts solo' where
  queue := hqueue
  ackNumber := hackNumber.trans hgapless.ackNumber
  present i data hdata := by
    obtain ⟨packet, hpacket, hcarries⟩ := hgapless.present i data hdata
    exact ⟨packet, harrived hpacket, hcarries⟩
  lookup := hlookup
  bytes := hbytes.trans hgapless.bytes
  acks := by
    rw [hacksSent]
    exact hgapless.acks
  ascending := hgapless.ascending
  le := hgapless.le

theorem Gapless.lookup_drained (hgapless : Gapless a run counts solo) (env : Env) {number : UInt16}
    {data : Bytes} (hlookup : (solo.drained env).1.inboundData.lookup number = some data) :
    ∃ packet ∈ solo.arrived, packet.Carries number data := by
  rw [Solo.drained, drained_frame] at hlookup
  rcases @lookup_absorbed env solo.stream number data hlookup with
    hold | ⟨packet, hpacket, htype, hnumber, hdata⟩
  · exact hgapless.lookup number data hold
  · exact ⟨packet, hgapless.queue hpacket, htype, hnumber, hdata⟩

theorem Gapless.queue_drained (hgapless : Gapless a run counts solo) (env : Env) :
    (solo.drained env).1.inboundPackets.queue ⊆ solo.arrived := by
  rw [Solo.queue_drained]
  exact fun packet hpacket => hgapless.queue (List.mem_of_mem_drop hpacket)

theorem ackNumber_drained (solo : Solo) (env : Env) :
    (solo.drained env).1.ackNumber = solo.stream.ackNumber := by
  rw [Solo.drained, drained_frame]

theorem receivedData_drained (solo : Solo) (env : Env) :
    (solo.drained env).1.receivedData = solo.stream.receivedData := by
  rw [Solo.drained, drained_frame]

/-- Draining the mailbox assembles nothing. -/
theorem Gapless.drained (hgapless : Gapless a run counts solo) (env : Env) :
    Gapless a run counts { solo with stream := (solo.drained env).1 } := by
  refine hgapless.quiet _ (List.Subset.refl _) (hgapless.queue_drained env) ?_ ?_ ?_ ?_
  · exact ackNumber_drained solo env
  · rw [receivedData_drained]
  · exact fun number data hlookup => hgapless.lookup_drained env hlookup
  · rfl

/-- Assembly makes the row longer. -/
theorem Gapless.assemble (hgapless : Gapless a run counts solo) :
    ∃ run', Gapless a run' counts { solo with stream := solo.stream.assemble }
      ∧ run.length ≤ run'.length := by
  obtain ⟨more, hassembled⟩ := exists_assembled solo.stream
  refine ⟨run ++ more, ⟨?_, ?_, ?_, ?_, ?_, hgapless.acks, hgapless.ascending, ?_⟩, by simp⟩
  · rw [inboundPackets_assemble]
    exact hgapless.queue
  · dsimp only
    rw [hassembled.frame, hgapless.ackNumber, Serial.offset_offset, List.length_append]
  · intro i data hdata
    by_cases hfirst : i < run.length
    · rw [List.getElem?_append_left hfirst] at hdata
      exact hgapless.present i data hdata
    · rw [List.getElem?_append_right (by omega)] at hdata
      have hlookup := hassembled.present _ data hdata
      rw [hgapless.ackNumber, Serial.offset_add_one, Serial.offset_offset] at hlookup
      obtain ⟨packet, hpacket, hcarries⟩ := hgapless.lookup _ data hlookup
      have hindex : run.length + 1 + (i - run.length) = i + 1 := by omega
      rw [hindex] at hcarries
      exact ⟨packet, hpacket, hcarries⟩
  · exact fun number data hlookup => hgapless.lookup number data (hassembled.lookup hlookup)
  · dsimp only
    rw [hassembled.frame, List.flatten_append, ← hgapless.bytes, List.append_assoc]
  · intro count hcount
    have hle := hgapless.le count hcount
    rw [List.length_append]
    omega

/-- A read that was acknowledged: the ACK covers the whole row. -/
theorem Gapless.didRead (hgapless : Gapless a run counts solo) (env : Env) (remaining : Nat) :
    ∃ run', Gapless a run' (counts ++ [run'.length]) (solo.didRead env remaining) := by
  obtain ⟨run', hassembled, hlonger⟩ := (hgapless.drained env).assemble
  have hacksSent : (solo.didRead env remaining).acksSent
      = solo.acksSent ++ [(solo.drained env).1.assemble.ackPacket env] := by
    simp [acksSent, Solo.didRead, ackPacket]
  refine ⟨run', hassembled.queue, hassembled.ackNumber, hassembled.present, hassembled.lookup, ?_,
    ?_, ?_, ?_⟩
  · rw [← hassembled.bytes]
    simp only [Solo.didRead, List.append_assoc, List.take_append_drop]
  · rw [hacksSent, List.map_append, List.map_append, hgapless.acks]
    exact congrArg (fun number => counts.map (Serial.offset a) ++ [number]) hassembled.ackNumber
  · rw [List.pairwise_append]
    refine ⟨hgapless.ascending, List.pairwise_singleton _ _, ?_⟩
    intro count hcount last hlast
    rw [List.mem_singleton.mp hlast]
    exact (hgapless.le count hcount).trans hlonger
  · intro count hcount
    rcases List.mem_append.mp hcount with hold | hnew
    · exact (hgapless.le count hold).trans hlonger
    · rw [List.mem_singleton.mp hnew]

theorem packetType_pollWrite (env : Env) (stream : UtpStream) (buf : Bytes) :
    ∀ item ∈ (stream.pollWrite env buf).sent, item.1.packetType = .data := by
  cases hshutdown : stream.isShutdown with
  | true => simp [pollWrite_shutdown env hshutdown]
  | false =>
      obtain ⟨count, -, -, -, hsent, -⟩ := pollWrite_spec env hshutdown buf
      intro item hitem
      rw [hsent] at hitem
      obtain ⟨packet, hpacket, rfl⟩ := List.mem_map.mp hitem
      obtain ⟨_, _, _, _, rfl⟩ := mem_dataPackets hpacket
      rfl

theorem Gapless.wrote (hgapless : Gapless a run counts solo) (env : Env) (buf : Bytes) :
    Gapless a run counts (solo.wrote env buf) := by
  have hacksSent : (solo.wrote env buf).acksSent = solo.acksSent := by
    have hnone : ((solo.stream.pollWrite env buf).sent.map Prod.fst).filter
        (fun packet => packet.packetType = .state) = [] := by
      rw [List.filter_eq_nil_iff]
      intro packet hpacket
      obtain ⟨item, hitem, rfl⟩ := List.mem_map.mp hpacket
      simp [packetType_pollWrite env solo.stream buf item hitem]
    simp only [acksSent, Solo.wrote, Solo.after, List.map_append, List.filter_append, hnone,
      List.append_nil]
  obtain ⟨sent, hstream⟩ := exists_pollWrite_eq_withSent env solo.stream buf
  refine hgapless.quiet _ (List.Subset.refl _) ?_ ?_ ?_ ?_ hacksSent
  · simp only [Solo.wrote, Solo.after, hstream]
    exact hgapless.queue
  · simp only [Solo.wrote, Solo.after, hstream]
    rfl
  · simp only [Solo.wrote, Solo.after, hstream]
    rfl
  · simp only [Solo.wrote, Solo.after, hstream]
    exact hgapless.lookup

theorem Gapless.moved (hgapless : Gapless a run counts solo) (hmoved : Moved solo action solo') :
    ∃ run' counts', Gapless a run' counts' solo' := by
  cases hmoved with
  | received packet hopen hhandled =>
      refine ⟨run, counts, hgapless.quiet _ (List.subset_append_left _ _) ?_ rfl rfl ?_ rfl⟩
      · exact List.append_subset.mpr ⟨List.subset_append_of_subset_left _ hgapless.queue,
          List.subset_append_right _ _⟩
      · intro number data hlookup
        obtain ⟨packet', hpacket', hcarries⟩ := hgapless.lookup number data hlookup
        exact ⟨packet', List.mem_append_left _ hpacket', hcarries⟩
  | closed =>
      exact ⟨run, counts, hgapless.quiet _ (List.Subset.refl _) hgapless.queue rfl rfl
        hgapless.lookup rfl⟩
  | wrote env buf => exact ⟨run, counts, hgapless.wrote env buf⟩
  | ended env remaining hended => exact ⟨run, counts, hgapless.drained env⟩
  | refused env remaining hended hqueues =>
      obtain ⟨run', hassembled, -⟩ := (hgapless.drained env).assemble
      exact ⟨run', counts, hassembled⟩
  | didRead env remaining hended hqueues =>
      obtain ⟨run', hread⟩ := hgapless.didRead env remaining
      exact ⟨run', _, hread⟩
  | flushed env => exact ⟨run, counts, hgapless.drained env⟩

theorem gapless_of_exec {stream : UtpStream} {actions : List SoloAction} {final : Solo}
    (hqueue : ∀ packet ∈ stream.inboundPackets.queue, packet.Handled)
    (hinbound : stream.inboundData = ∅) (hreceived : stream.receivedData = [])
    (hexec : Run.exec step (start stream) actions = some final) :
    ∃ run counts, Gapless stream.ackNumber run counts final := by
  have hanything : ∀ action ∈ actions, (fun _ => True) action := fun _ _ => trivial
  refine invariant_of_exec (motive := fun state : Solo =>
    ∃ run counts, Gapless stream.ackNumber run counts state) ?_ ?_ ?_
    (Run.all_of_forall hanything) hexec
  · rintro state action state' ⟨run, counts, hgapless⟩ - hmoved
    exact hgapless.moved hmoved
  · exact hqueue
  · refine ⟨[], [], List.Subset.refl _, by simp [start], by simp, ?_, ?_, rfl, .nil, by simp⟩
    · simp [start, hinbound]
    · simp [start, hreceived]

/-- While the numbers have not come round, packets of one numbered list are assembled to a front part
of it. -/
theorem Gapless.isPrefix {chunks : List Bytes} (hgapless : Gapless a run counts solo)
    (hlength : chunks.length ≤ 65535)
    (hnumbered : ∀ packet ∈ solo.arrived, packet.packetType = .data →
      (packet.seqNumber, packet.data) ∈ Serial.number (a + 1) chunks) : run <+: chunks := by
  have hrun : ∀ i data, run[i]? = some data →
      (Serial.offset (Serial.offset (a + 1) 0) i, data) ∈ Serial.number (a + 1) chunks := by
    intro i data hdata
    obtain ⟨packet, hpacket, htype, hnumber, rfl⟩ := hgapless.present i data hdata
    have hmem := hnumbered packet hpacket htype
    rw [hnumber] at hmem
    rw [Serial.offset_zero, Serial.offset_add_one_left]
    exact hmem
  simpa using Serial.isPrefix_drop_of_mem_number hlength (Nat.zero_le _) hrun

theorem Gapless.length_le_of_missing (hgapless : Gapless a run counts solo) {i : Nat}
    (hmissing : ∀ packet ∈ solo.arrived, packet.packetType = .data →
      packet.seqNumber ≠ Serial.offset a (i + 1)) : run.length ≤ i := by
  by_contra hlonger
  obtain ⟨packet, hpacket, hcarries⟩ :=
    hgapless.present i run[i] (List.getElem?_eq_getElem (by omega))
  exact hmissing packet hpacket hcarries.packetType hcarries.seqNumber

end Solo

/-- **Reads never skip and ACKs never lie, whatever arrives.** In every state of every run, what the
reads have handed out, followed by what waits in `receivedData`, is a row of payloads of packets that
have arrived under the numbers `ackNumber + 1`, `ackNumber + 2` and so on; the row ends before the
first number that has not arrived. The ACKs carry the numbers of places in the row, each at or behind
the one before. -/
theorem reads_are_gapless {localAddr remoteAddr : SocketAddr}
    {connectionIdRecv connectionIdSend : UInt16} {inboundPackets : Mailbox}
    {seqNumber ackNumber : UInt16} (hqueue : ∀ packet ∈ inboundPackets.queue, packet.Handled)
    {actions : List SoloAction} {final : Solo}
    (hexec : Run.exec Solo.step (Solo.start (UtpStream.new localAddr connectionIdRecv
      connectionIdSend remoteAddr inboundPackets seqNumber ackNumber)) actions = some final) :
    ∃ (run : List Bytes) (counts : List Nat),
      final.delivered ++ final.stream.receivedData = run.flatten
        ∧ final.stream.ackNumber = Serial.offset ackNumber run.length
        ∧ (∀ i data, run[i]? = some data →
          ∃ packet ∈ final.arrived, packet.Carries (Serial.offset ackNumber (i + 1)) data)
        ∧ (∀ i, (∀ packet ∈ final.arrived, packet.packetType = .data →
          packet.seqNumber ≠ Serial.offset ackNumber (i + 1)) → run.length ≤ i)
        ∧ final.acksSent.map Packet.ackNumber = counts.map (Serial.offset ackNumber)
        ∧ counts.Pairwise (· ≤ ·)
        ∧ ∀ count ∈ counts, count ≤ run.length := by
  obtain ⟨run, counts, hgapless⟩ := Solo.gapless_of_exec hqueue rfl rfl hexec
  exact ⟨run, counts, hgapless.bytes, hgapless.ackNumber, hgapless.present,
    fun i hmissing => hgapless.length_le_of_missing hmissing, hgapless.acks, hgapless.ascending,
    hgapless.le⟩

/-- A packet that comes too early, one that is forged under the number of the next, and the next. -/
def forgedActions : List SoloAction :=
  [.arrive (carrying 44 [4]), .pollRead .plain 8, .arrive (carrying 42 [1, 2]),
    .arrive (carrying 42 [9]), .pollRead .plain 8, .arrive (carrying 42 [7]), .pollRead .plain 8]

def forged : Solo :=
  (Run.exec Solo.step (Solo.start (expecting 41)) forgedActions).get (by decide)

theorem reads_are_gapless_forged :
    Run.exec Solo.step (Solo.start (expecting 41)) forgedActions = some forged
      ∧ (forged.delivered, forged.stream.receivedData) = ([9], [])
      ∧ ∃ (run : List Bytes) (counts : List Nat),
        forged.delivered ++ forged.stream.receivedData = run.flatten
          ∧ forged.stream.ackNumber = Serial.offset 41 run.length
          ∧ (∀ i data, run[i]? = some data →
            ∃ packet ∈ forged.arrived, packet.Carries (Serial.offset 41 (i + 1)) data)
          ∧ (∀ i, (∀ packet ∈ forged.arrived, packet.packetType = .data →
            packet.seqNumber ≠ Serial.offset 41 (i + 1)) → run.length ≤ i)
          ∧ forged.acksSent.map Packet.ackNumber = counts.map (Serial.offset 41)
          ∧ counts.Pairwise (· ≤ ·)
          ∧ ∀ count ∈ counts, count ≤ run.length := by
  have hexec : Run.exec Solo.step (Solo.start (expecting 41)) forgedActions = some forged :=
    (Option.some_get _).symm
  exact ⟨hexec, by decide, reads_are_gapless (List.forall_mem_nil _) hexec⟩

end UtpSafety
