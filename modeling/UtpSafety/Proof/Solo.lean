import UtpSafety.Solo
import UtpSafety.Proof.Receive
import UtpSafety.Proof.Send

/-!
# One action of a stream with its history

On data and state packets no poll panics but a flush of a stream that is shut down, so the actions of
a `Solo` come down to seven kinds of change (`moved_of_step`). What holds along whole runs is proved
from these.
-/

namespace UtpSafety

open UtpStream

namespace Solo

def Handled (solo : Solo) : Prop := ∀ packet ∈ solo.stream.inboundPackets.queue, packet.Handled

/-- The stream when a poll has drained its mailbox, and whether the packet stream has ended. -/
def drained (solo : Solo) (env : Env) : UtpStream × Bool :=
  UtpStream.drained env solo.stream solo.stream.inboundPackets.queue

def taken (solo : Solo) (env : Env) : List Packet :=
  solo.stream.inboundPackets.queue.take (env.taken solo.stream.inboundPackets.queue)

def received (solo : Solo) (packet : Packet) : Solo :=
  { solo with
    stream.inboundPackets.queue := solo.stream.inboundPackets.queue ++ [packet]
    arrived := solo.arrived ++ [packet] }

def wrote (solo : Solo) (env : Env) (buf : Bytes) : Solo :=
  { solo.after (solo.stream.pollWrite env buf) with
    writes := solo.writes ++ [⟨solo.stream.isShutdown, buf, (solo.stream.pollWrite env buf).result⟩] }

def didRead (solo : Solo) (env : Env) (remaining : Nat) : Solo :=
  let assembled := (solo.drained env).1.assemble
  { solo with
    stream := { assembled with receivedData := assembled.receivedData.drop remaining }
    sent := solo.sent ++ [(assembled.ackPacket env, assembled.remoteAddr)]
    delivered := solo.delivered ++ assembled.receivedData.take remaining }

/-- Everything that one action can do. -/
inductive Moved (solo : Solo) : SoloAction → Solo → Prop
  | received (packet : Packet) (hopen : solo.stream.inboundPackets.closed = false)
      (hhandled : packet.Handled) : Moved solo (.arrive packet) (solo.received packet)
  | closed : Moved solo .close { solo with stream.inboundPackets.closed := true }
  | wrote (env : Env) (buf : Bytes) : Moved solo (.pollWrite env buf) (solo.wrote env buf)
  | ended (env : Env) (remaining : Nat) (hended : (solo.drained env).2 = true) :
      Moved solo (.pollRead env remaining) { solo with stream := (solo.drained env).1 }
  | refused (env : Env) (remaining : Nat) (hended : (solo.drained env).2 = false)
      (hqueues : env.queues 0 = false) :
      Moved solo (.pollRead env remaining) { solo with stream := (solo.drained env).1.assemble }
  | didRead (env : Env) (remaining : Nat) (hended : (solo.drained env).2 = false)
      (hqueues : env.queues 0 = true) :
      Moved solo (.pollRead env remaining) (solo.didRead env remaining)
  | flushed (env : Env) : Moved solo (.pollFlush env) { solo with stream := (solo.drained env).1 }

variable {solo solo' : Solo} {action : SoloAction}

theorem after_nil {α : Type} (stream : UtpStream) (result : Poll (Except IoError α)) :
    solo.after ⟨stream, [], result⟩ = { solo with stream := stream } := by
  simp [after]

theorem moved_pollRead (hhandled : solo.Handled) (env : Env) (remaining : Nat) :
    ∃ solo', solo.step (.pollRead env remaining) = some solo'
      ∧ Moved solo (.pollRead env remaining) solo' := by
  simp only [step, pollRead_eq remaining hhandled]
  cases hended : (solo.drained env).2 with
  | true =>
      refine ⟨{ solo with stream := (solo.drained env).1 }, ?_, .ended env remaining hended⟩
      unfold drained at hended ⊢
      simp [hended, after, handedOut]
  | false =>
      cases hqueues : env.queues 0 with
      | false =>
          refine ⟨_, ?_, .refused env remaining hended hqueues⟩
          unfold drained at hended ⊢
          simp [hended, after, handedOut]
      | true =>
          refine ⟨_, ?_, .didRead env remaining hended hqueues⟩
          unfold didRead
          unfold drained at hended ⊢
          simp only [hended, Bool.false_eq_true, if_false, if_true, after]
          split_ifs with hempty
          · simp [handedOut, List.isEmpty_iff.mp hempty]
          · simp [handedOut]

theorem pollFlush_cases (hhandled : solo.Handled) (env : Env) :
    (∃ result, solo.stream.pollFlush env = .ok ⟨(solo.drained env).1, [], result⟩)
      ∨ (solo.drained env).1.isShutdown = true ∧ solo.stream.pollFlush env = .error .todo := by
  have hdrain : (drain env).run solo.stream = .ok (solo.drained env) := drain_run hhandled
  simp only [pollFlush, hdrain, bind, Except.bind, pure, Except.pure, throw, throwThe,
    MonadExceptOf.throw]
  split_ifs with hempty hshutdown
  · exact Or.inl ⟨_, rfl⟩
  · exact Or.inr ⟨hshutdown, rfl⟩
  · exact Or.inl ⟨_, rfl⟩

/-- **What one action can do.** -/
theorem moved_of_step (hhandled : solo.Handled) (hstep : solo.step action = some solo') :
    Moved solo action solo' := by
  cases action with
  | arrive packet =>
      simp only [step] at hstep
      split_ifs at hstep with hguard
      cases hstep
      exact .received packet hguard.1 hguard.2
  | close =>
      cases hstep
      exact .closed
  | pollWrite env buf =>
      cases hstep
      exact .wrote env buf
  | pollRead env remaining =>
      obtain ⟨read, hread, hmoved⟩ := moved_pollRead hhandled env remaining
      rw [hread] at hstep
      cases hstep
      exact hmoved
  | pollFlush env =>
      simp only [step] at hstep
      rcases pollFlush_cases hhandled env with ⟨result, hflush⟩ | ⟨-, hflush⟩
      · rw [hflush] at hstep
        simp only [after_nil, Option.some.injEq] at hstep
        subst hstep
        exact .flushed env
      · simp [hflush] at hstep

theorem queue_drained (solo : Solo) (env : Env) :
    (solo.drained env).1.inboundPackets = { solo.stream.inboundPackets with
      queue := solo.stream.inboundPackets.queue.drop
        (env.taken solo.stream.inboundPackets.queue) } := by
  rw [drained, drained_frame]

theorem taken_append (solo : Solo) (env : Env) :
    solo.taken env ++ (solo.drained env).1.inboundPackets.queue
      = solo.stream.inboundPackets.queue := by
  rw [queue_drained]
  exact List.take_append_drop _ _

theorem inboundPackets_assemble (stream : UtpStream) :
    stream.assemble.inboundPackets = stream.inboundPackets := by
  rw [assemble_frame]

theorem inboundPackets_pollWrite (stream : UtpStream) (env : Env) (buf : Bytes) :
    (stream.pollWrite env buf).stream.inboundPackets = stream.inboundPackets := by
  obtain ⟨sent, hstream⟩ := exists_pollWrite_eq_withSent env stream buf
  rw [hstream]
  rfl

theorem Handled.moved (hhandled : solo.Handled) (hmoved : Moved solo action solo') :
    solo'.Handled := by
  have hdrained : ∀ env, ∀ packet ∈ (solo.drained env).1.inboundPackets.queue, packet.Handled := by
    intro env packet hpacket
    rw [queue_drained] at hpacket
    exact hhandled packet (List.mem_of_mem_drop hpacket)
  intro packet hpacket
  cases hmoved with
  | received packet' hopen hpacket' =>
      rcases List.mem_append.mp hpacket with hold | hnew
      · exact hhandled packet hold
      · rw [List.mem_singleton.mp hnew]
        exact hpacket'
  | closed => exact hhandled packet hpacket
  | wrote env buf =>
      simp only [wrote, after, inboundPackets_pollWrite] at hpacket
      exact hhandled packet hpacket
  | ended env remaining hended => exact hdrained env packet hpacket
  | refused env remaining hended hqueues =>
      rw [inboundPackets_assemble] at hpacket
      exact hdrained env packet hpacket
  | didRead env remaining hended hqueues =>
      simp only [didRead, inboundPackets_assemble] at hpacket
      exact hdrained env packet hpacket
  | flushed env => exact hdrained env packet hpacket

/-- What every move preserves that is allowed holds after a whole run of such moves. -/
theorem invariant_of_exec {allowed : Solo → SoloAction → Prop} {motive : Solo → Prop}
    (hkeep : ∀ state action state', motive state → allowed state action →
      Moved state action state' → motive state')
    (hhandled : solo.Handled) (hstart : motive solo) {actions : List SoloAction} {final : Solo}
    (hall : Run.All step allowed solo actions) (hexec : Run.exec step solo actions = some final) :
    motive final := by
  have hkept := Run.exec_invariant_of_all
    (motive := fun state : Solo => state.Handled ∧ motive state) ?_ ⟨hhandled, hstart⟩ hall hexec
  · exact hkept.2
  · rintro state action state' ⟨hhandled, hmotive⟩ hallowed hstep
    have hmoved := moved_of_step hhandled hstep
    exact ⟨hhandled.moved hmoved, hkeep state action state' hmotive hallowed hmoved⟩

end Solo

def carrying (seqNumber : UInt16) (data : Bytes) : Packet where
  packetType := .data
  version := 1
  connectionId := 8
  timestampMicros := 0
  timestampDeltaMicros := 0
  windowSize := 0
  seqNumber := seqNumber
  ackNumber := 0
  extensions := []
  data := data

/-- A stream that has just been made and expects `ackNumber + 1` next. -/
def expecting (ackNumber : UInt16) : UtpStream :=
  UtpStream.new (.v4 0x7F000001 9000) 8 9 (.v4 0x7F000001 9001) ⟨[], false⟩ 1 ackNumber

/-- The world of a call in which the outgoing channel is closed after so many sends. -/
def Env.closingAfter (count : Nat) : Env := { Env.plain with queues := fun index => index < count }

end UtpSafety
