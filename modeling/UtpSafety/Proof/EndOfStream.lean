import UtpSafety.Proof.Reassembly

/-!
# End of stream

A read that finds the packet stream ended returns at once, before it assembles or hands out anything,
and its caller sees `Ready` with no bytes. The read says so truthfully only if there was nothing to
assemble and nothing to hand out in the first place.
-/

namespace UtpSafety.UtpStream

variable (env : Env) (stream : UtpStream) (queue : List Packet)

/-- The drain comes to the end of the packet stream when the mailbox is closed and reports `Pending`
at no point of the walk. -/
theorem drained_ended_iff :
    (drained env stream queue).2 = true ↔
      stream.inboundPackets.closed = true ∧ ∀ n ≤ queue.length, env.yields n = false := by
  induction queue with
  | nil => simp [drained, Env.taken]
  | cons packet rest ih =>
      cases hyields : env.yields (rest.length + 1) with
      | true =>
          have hpending : (drained env stream (packet :: rest)).2 = false := by
            simp [drained, Env.taken, hyields]
          rw [hpending]
          constructor
          · simp
          · rintro ⟨-, hnone⟩
            rw [hnone (rest.length + 1) (by simp)] at hyields
            cases hyields
      | false =>
          have hskip : (drained env stream (packet :: rest)).2 = (drained env stream rest).2 := by
            simp [drained, Env.taken, hyields]
          rw [hskip, ih]
          refine and_congr_right fun _ => ⟨fun hrest n hn => ?_, fun hall n hn => ?_⟩
          · rcases Nat.lt_or_ge n (rest.length + 1) with hless | hmore
            · exact hrest n (by omega)
            · obtain rfl : n = rest.length + 1 := by
                simp only [List.length_cons] at hn
                omega
              exact hyields
          · exact hall n (by simp only [List.length_cons]; omega)

variable {env stream queue}

theorem isSuspicious_next {packet : Packet} (htype : packet.packetType = .data)
    (hnumber : packet.seqNumber = stream.ackNumber + 1) : stream.isSuspicious packet = .ok false :=
  isSuspicious_window (a := stream.ackNumber) (i := 0) (k := 0) (by simp) (by omega) htype
    (by rw [hnumber, Serial.offset_one]) (by omega)

theorem lookup_next_absorb (receivedAt : UInt32) (packet : Packet) :
    (stream.absorb receivedAt packet).inboundData.lookup (stream.ackNumber + 1) = none ↔
      stream.inboundData.lookup (stream.ackNumber + 1) = none
        ∧ (packet.packetType = .data → packet.seqNumber ≠ stream.ackNumber + 1) := by
  by_cases hnext : packet.packetType = .data ∧ packet.seqNumber = stream.ackNumber + 1
  · obtain ⟨htype, hnumber⟩ := hnext
    simp [absorb, isSuspicious_next htype hnumber, htype, hnumber, Finmap.lookup_insert]
  · have hother : packet.packetType = .data → packet.seqNumber ≠ stream.ackNumber + 1 :=
      fun htype hnumber => hnext ⟨htype, hnumber⟩
    rw [and_iff_left hother]
    unfold absorb
    split_ifs
    · split
      · rename_i htype
        rw [Finmap.lookup_insert_of_ne _ (hother htype).symm]
      · rfl
      · rfl
    · rfl

theorem lookup_next_absorbQueue (hall : ∀ n ≤ queue.length, env.yields n = false) :
    (absorbQueue env stream queue).inboundData.lookup (stream.ackNumber + 1) = none ↔
      stream.inboundData.lookup (stream.ackNumber + 1) = none
        ∧ ∀ packet ∈ queue, packet.packetType = .data →
          packet.seqNumber ≠ stream.ackNumber + 1 := by
  induction queue generalizing stream with
  | nil => simp [absorbQueue]
  | cons packet rest ih =>
      have hyields : env.yields (rest.length + 1) = false := hall _ (by simp)
      have hrest : ∀ n ≤ rest.length, env.yields n = false :=
        fun n hn => hall n (by simp only [List.length_cons]; omega)
      have hack : (stream.absorb (env.receivedAt rest.length) packet).ackNumber = stream.ackNumber := by
        rw [absorb_frame]
      have hwalk := @ih (stream.absorb (env.receivedAt rest.length) packet) hrest
      rw [hack, lookup_next_absorb] at hwalk
      rw [absorbQueue, hyields, if_neg (by simp), hwalk, List.forall_mem_cons, and_assoc]

/-- **When an end of stream is true.** A read into a buffer with room returns `Ready` without a byte
only when no byte is left that could be handed out, if and only if the read does not come to the end
of the packet stream, or nothing was received that could still be handed out: no assembled data, no
held payload that comes next, and no queued packet that carries it. -/
theorem pollRead_ends_truthfully_iff (env : Env) {stream : UtpStream} {remaining : Nat}
    (hroom : 0 < remaining)
    (hqueue : ∀ packet ∈ stream.inboundPackets.queue, packet.Handled) :
    (∀ outcome, stream.pollRead env remaining = .ok outcome → outcome.result = .ready (.ok []) →
      outcome.stream.receivedData = []
        ∧ outcome.stream.inboundData.lookup (outcome.stream.ackNumber + 1) = none) ↔
    stream.inboundPackets.closed = false
      ∨ (∃ n ≤ stream.inboundPackets.queue.length, env.yields n = true)
      ∨ (stream.receivedData = []
        ∧ stream.inboundData.lookup (stream.ackNumber + 1) = none
        ∧ ∀ packet ∈ stream.inboundPackets.queue, packet.packetType = .data →
          packet.seqNumber ≠ stream.ackNumber + 1) := by
  have hread := @pollRead_eq env stream remaining hqueue
  have hframe := drained_frame env stream
  have hended := drained_ended_iff env stream stream.inboundPackets.queue
  generalize drained env stream stream.inboundPackets.queue = polled at hread hframe hended
  cases hend : polled.2 with
  | true =>
      simp only [hend, if_true] at hread hframe
      obtain ⟨hclosed, hall⟩ := hended.mp hend
      have hnever : ¬∃ n ≤ stream.inboundPackets.queue.length, env.yields n = true := by
        rintro ⟨n, hn, hyields⟩
        rw [hall n hn] at hyields
        cases hyields
      simp only [hread, Except.ok.injEq, forall_eq', forall_const, hclosed, Bool.true_eq_false, hnever,
        false_or]
      rw [hframe]
      simp only [lookup_next_absorbQueue hall]
  | false =>
      refine iff_of_true ?_ ?_
      · intro outcome houtcome hnothing
        simp only [hread, hend, Bool.false_eq_true, if_false, Except.ok.injEq] at houtcome
        subst houtcome
        split_ifs at hnothing with hqueues hempty
        · simp only [Poll.ready.injEq, Except.ok.injEq, List.take_eq_nil_iff] at hnothing
          rcases hnothing with hzero | hnil
          · omega
          · exact absurd (List.isEmpty_iff.mpr hnil) hempty
        · cases hnothing
      · by_contra hnone
        push Not at hnone
        obtain ⟨hclosed, hall, -⟩ := hnone
        have htrue := hended.mpr ⟨by simpa using hclosed, fun n hn => by simpa using hall n hn⟩
        rw [hend] at htrue
        cases htrue

/-- A stream whose mailbox was closed after one data packet. -/
def closedAfter (seqNumber : UInt16) : UtpStream :=
  { expecting 41 with inboundPackets := ⟨[carrying seqNumber [1, 2]], true⟩ }

theorem pollRead_ends_truthfully_iff_early :
    ∃ outcome, (closedAfter 44).pollRead .plain 8 = .ok outcome
      ∧ outcome.result = .ready (.ok [])
      ∧ outcome.stream.receivedData = []
      ∧ outcome.stream.inboundData.lookup (outcome.stream.ackNumber + 1) = none := by
  have hqueue : ∀ packet ∈ (closedAfter 44).inboundPackets.queue, packet.Handled := by
    simp [closedAfter, Packet.Handled, carrying]
  have hroom : 0 < 8 := by decide
  have htrue := (pollRead_ends_truthfully_iff .plain hroom hqueue).mpr
    (Or.inr (Or.inr ⟨rfl, rfl, by decide⟩))
  exact ⟨_, rfl, rfl, htrue _ rfl rfl⟩

theorem pollRead_ends_with_data_left :
    ∃ outcome, (closedAfter 42).pollRead .plain 8 = .ok outcome
      ∧ outcome.result = .ready (.ok [])
      ∧ ¬(outcome.stream.receivedData = []
        ∧ outcome.stream.inboundData.lookup (outcome.stream.ackNumber + 1) = none) :=
  ⟨_, rfl, rfl, by decide⟩

end UtpSafety.UtpStream
