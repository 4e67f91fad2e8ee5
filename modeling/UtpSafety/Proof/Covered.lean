import UtpSafety.Proof.Gapless

/-!
# What is not in flight any more

If no ACK that has reached a sender acknowledges more than its first `count` data packets, then no
more than these have left `unackedData`, as long as the numbers have not come round (`Covered`). A
flush that is `Ready` has therefore found an ACK for everything.
-/

namespace UtpSafety

open UtpStream

theorem popAcked_drop_number {first ackNumber : UInt16} {payloads : List Bytes} {j k : Nat}
    (hfirst : 1 ≤ first.toNat) (hlast : first.toNat + payloads.length ≤ 65535)
    (hack : ackNumber + 1 = Serial.offset first k) (hk : k ≤ payloads.length)
    (hj : j ≤ payloads.length) :
    popAcked ackNumber ((Serial.number first payloads).drop j)
      = (Serial.number first payloads).drop (max j k) := by
  have hnat : ackNumber.toNat + 1 = first.toNat + k := by
    have htoNat := congrArg UInt16.toNat hack
    rw [UInt16.toNat_add, UInt16.toNat_one, Serial.toNat_offset] at htoNat
    have hlt := ackNumber.toNat_lt
    omega
  have hne : ackNumber ≠ 65535 := by
    rintro rfl
    simp only [UInt16.reduceToNat] at hnat
    omega
  have hoffset : (Serial.offset first j).toNat = first.toNat + j := by
    rw [Serial.toNat_offset, Nat.mod_eq_of_lt (by omega)]
  rw [Serial.number_drop, popAcked_number hne, hoffset, ← Serial.number_drop, List.drop_drop]
  congr 1
  omega

/-- No ACK among the packets acknowledges more than the first `count` numbers from `first` on. -/
def AcksUpTo (first : UInt16) (count : Nat) (packets : List Packet) : Prop :=
  ∀ packet ∈ packets, packet.packetType = .state →
    ∃ k ≤ count, packet.ackNumber + 1 = Serial.offset first k

namespace Solo

/-- At most the first `count` data packets are no longer in flight. -/
def Covered (count : Nat) (log unackedData : List (UInt16 × Bytes)) : Prop :=
  ∃ j ≤ count, j ≤ log.length ∧ unackedData = log.drop j

variable {first : UInt16} {count : Nat} {payloads : List Bytes}
  {log unackedData : List (UInt16 × Bytes)}

theorem Covered.popAcked (hcovered : Covered count log unackedData)
    (hlog : log = Serial.number first payloads) (hfirst : 1 ≤ first.toNat)
    (hlast : first.toNat + log.length ≤ 65535) {ackNumber : UInt16} {k : Nat} (hk : k ≤ count)
    (hack : ackNumber + 1 = Serial.offset first k) :
    Covered count log (UtpStream.popAcked ackNumber unackedData) := by
  obtain ⟨j, hj, hbound, rfl⟩ := hcovered
  subst hlog
  rw [Serial.length_number] at hlast hbound
  by_cases hinside : k ≤ payloads.length
  · refine ⟨max j k, by omega, ?_, ?_⟩
    · rw [Serial.length_number]
      omega
    · exact popAcked_drop_number hfirst hlast hack hinside hbound
  · obtain ⟨acked, hacked⟩ := (popAcked_isSuffix ackNumber _).trans
      (List.drop_suffix j (Serial.number first payloads))
    generalize UtpStream.popAcked ackNumber _ = left at hacked ⊢
    have hlength := congrArg List.length hacked
    rw [List.length_append, Serial.length_number] at hlength
    refine ⟨acked.length, by omega, ?_, ?_⟩
    · rw [Serial.length_number]
      omega
    · rw [← hacked, List.drop_left]

theorem Covered.append (hcovered : Covered count log unackedData) (more : List (UInt16 × Bytes)) :
    Covered count (log ++ more) (unackedData ++ more) := by
  obtain ⟨j, hj, hbound, rfl⟩ := hcovered
  refine ⟨j, hj, ?_, ?_⟩
  · rw [List.length_append]
    omega
  · rw [List.drop_append_of_le_length hbound]

variable {solo solo' : Solo} {action : SoloAction}

theorem Covered.drained (hcovered : Covered count solo.log solo.stream.unackedData)
    (hlog : solo.log = Serial.number first payloads) (hfirst : 1 ≤ first.toNat)
    (hlast : first.toNat + solo.log.length ≤ 65535)
    (hacks : AcksUpTo first count solo.stream.inboundPackets.queue) (env : Env) :
    Covered count solo.log (solo.drained env).1.unackedData := by
  rw [Solo.drained, drained_frame]
  apply absorbQueue_invariant
    (motive := fun absorbed => Covered count solo.log absorbed.unackedData)
  · intro absorbed receivedAt packet hpacket habsorbed
    unfold absorb
    split_ifs
    · split
      · exact habsorbed
      · rename_i htype
        obtain ⟨k, hk, hack⟩ := hacks packet (List.mem_of_mem_take hpacket) htype
        exact habsorbed.popAcked hlog hfirst hlast hk hack
      · exact habsorbed
    · exact habsorbed
  · exact hcovered

/-- A write records what it sends. -/
theorem log_wrote (solo : Solo) (env : Env) (buf : Bytes) :
    ∃ more, (solo.wrote env buf).log = solo.log ++ more
      ∧ (solo.wrote env buf).stream.unackedData = solo.stream.unackedData ++ more := by
  have hfilter : ((solo.stream.pollWrite env buf).sent.map Prod.fst).filter
      (fun packet => packet.packetType = .data)
      = (solo.stream.pollWrite env buf).sent.map Prod.fst := by
    rw [List.filter_eq_self]
    intro packet hpacket
    obtain ⟨item, hitem, rfl⟩ := List.mem_map.mp hpacket
    simp [packetType_pollWrite env solo.stream buf item hitem]
  have hlog : (solo.wrote env buf).log
      = solo.log ++ payloads (solo.stream.pollWrite env buf).sent := by
    simp only [Solo.log, dataSent, Solo.wrote, Solo.after, List.map_append, List.filter_append,
      hfilter, List.map_map, UtpStream.payloads]
    rfl
  refine ⟨_, hlog, ?_⟩
  cases hshutdown : solo.stream.isShutdown with
  | true => simp [Solo.wrote, Solo.after, pollWrite_shutdown env hshutdown, UtpStream.payloads]
  | false =>
      obtain ⟨sent, -, -, hstream, hsent, -⟩ := pollWrite_spec env hshutdown buf
      rw [hsent, payloads_dataPackets]
      simp only [Solo.wrote, Solo.after, hstream]
      rfl

theorem log_didRead (solo : Solo) (env : Env) (remaining : Nat) :
    (solo.didRead env remaining).log = solo.log := by
  simp [Solo.log, dataSent, Solo.didRead, ackPacket]

theorem unackedData_assemble (stream : UtpStream) :
    stream.assemble.unackedData = stream.unackedData := by
  rw [assemble_frame]

/-- What carries over from one action to the next. -/
structure Watched (first : UInt16) (count : Nat) (solo : Solo) : Prop where
  queue : solo.stream.inboundPackets.queue ⊆ solo.arrived
  booked : ∃ payloads parts, Booked first payloads parts solo
  covered : first.toNat + solo.log.length ≤ 65535 → AcksUpTo first count solo.arrived →
    Covered count solo.log solo.stream.unackedData

theorem Watched.drained (hwatched : Watched first count solo) (hfirst : 1 ≤ first.toNat) (env : Env)
    (hlast : first.toNat + solo.log.length ≤ 65535) (hacks : AcksUpTo first count solo.arrived) :
    Covered count solo.log (solo.drained env).1.unackedData := by
  obtain ⟨payloads, parts, hbooked⟩ := hwatched.booked
  exact (hwatched.covered hlast hacks).drained hbooked.log hfirst hlast
    (fun packet hpacket => hacks packet (hwatched.queue hpacket)) env

theorem Watched.queue_drained (hwatched : Watched first count solo) (env : Env) :
    (solo.drained env).1.inboundPackets.queue ⊆ solo.arrived := by
  rw [Solo.queue_drained]
  exact fun packet hpacket => hwatched.queue (List.mem_of_mem_drop hpacket)

theorem Watched.moved (hwatched : Watched first count solo) (hfirst : 1 ≤ first.toNat)
    (hmoved : Moved solo action solo') : Watched first count solo' := by
  obtain ⟨payloads, parts, hbooked⟩ := hwatched.booked
  have hbooked' := hbooked.moved hmoved
  cases hmoved with
  | received packet hopen hhandled =>
      refine ⟨?_, hbooked', fun hlast hacks => hwatched.covered hlast fun packet hpacket => ?_⟩
      · exact List.append_subset.mpr ⟨List.subset_append_of_subset_left _ hwatched.queue,
          List.subset_append_right _ _⟩
      · exact hacks packet (List.mem_append_left _ hpacket)
  | closed => exact ⟨hwatched.queue, hbooked', hwatched.covered⟩
  | wrote env buf =>
      refine ⟨?_, hbooked', fun hlast hacks => ?_⟩
      · simp only [Solo.wrote, Solo.after, inboundPackets_pollWrite]
        exact hwatched.queue
      · obtain ⟨more, hlog, hunacked⟩ := log_wrote solo env buf
        rw [hlog, List.length_append] at hlast
        rw [hlog, hunacked]
        exact (hwatched.covered (by omega) hacks).append more
  | ended env remaining hended =>
      exact ⟨hwatched.queue_drained env, hbooked', hwatched.drained hfirst env⟩
  | refused env remaining hended hqueues =>
      refine ⟨?_, hbooked', fun hlast hacks => ?_⟩
      · rw [inboundPackets_assemble]
        exact hwatched.queue_drained env
      · rw [unackedData_assemble]
        exact hwatched.drained hfirst env hlast hacks
  | didRead env remaining hended hqueues =>
      refine ⟨?_, hbooked', fun hlast hacks => ?_⟩
      · simp only [Solo.didRead, inboundPackets_assemble]
        exact hwatched.queue_drained env
      · rw [log_didRead] at hlast ⊢
        simp only [Solo.didRead, unackedData_assemble]
        exact hwatched.drained hfirst env hlast hacks
  | flushed env => exact ⟨hwatched.queue_drained env, hbooked', hwatched.drained hfirst env⟩

/-- **What has left `unackedData` was acknowledged.** -/
theorem covered_of_exec {stream : UtpStream} {actions : List SoloAction} {final : Solo}
    (hqueue : ∀ packet ∈ stream.inboundPackets.queue, packet.Handled)
    (hunacked : stream.unackedData = [])
    (hexec : Run.exec step (start stream) actions = some final) (hfirst : 1 ≤ stream.seqNumber.toNat)
    (hlast : stream.seqNumber.toNat + final.log.length ≤ 65535)
    (hacks : AcksUpTo stream.seqNumber count final.arrived) :
    Covered count final.log final.stream.unackedData := by
  have hanything : ∀ action ∈ actions, (fun _ => True) action := fun _ _ => trivial
  have hwatched : Watched stream.seqNumber count final := by
    refine invariant_of_exec ?_ ?_ ?_ (Run.all_of_forall hanything) hexec
    · exact fun state action state' hwatched _ hmoved => hwatched.moved hfirst hmoved
    · exact hqueue
    · refine ⟨List.Subset.refl _, ⟨[], [], rfl, by simp [start], ?_, List.forall_mem_nil _, .nil, rfl⟩,
        fun _ _ => ⟨0, Nat.zero_le _, Nat.zero_le _, ?_⟩⟩
      · simp [start, hunacked]
      · simp [start, hunacked, Solo.log, dataSent]
  exact hwatched.covered hlast hacks

end Solo

end UtpSafety
