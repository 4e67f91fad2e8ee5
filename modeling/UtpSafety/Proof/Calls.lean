import UtpSafety.Network
import UtpSafety.Proof.Receive
import UtpSafety.Proof.Send

/-!
# What a call can send

Whatever arrives in the mailbox and whatever the outgoing channel takes, a call keeps the addresses
and ids of its stream, and the packets it passes to `send_to` go to the remote address under the
sending id, have no extensions, and fit into a datagram (`perform_spec`). The first data packet among
them carries the current sequence number, which only data packets move.
-/

namespace UtpSafety

/-- A packet as the crate builds them: of version 1, without extensions, and of a size that fits. -/
structure Packet.Fits (packet : Packet) : Prop where
  version : packet.version = 1
  extensions : packet.extensions = []
  data : packet.data.length ≤ maxDataSegmentSize

theorem Packet.Handled.ne_syn {packet : Packet} (hhandled : packet.Handled) :
    packet.packetType ≠ .syn := by
  rcases hhandled with hdata | hstate
  · simp [hdata]
  · simp [hstate]

namespace UtpStream

structure SameEnd (stream stream' : UtpStream) : Prop where
  localAddr : stream'.localAddr = stream.localAddr
  remoteAddr : stream'.remoteAddr = stream.remoteAddr
  connectionIdRecv : stream'.connectionIdRecv = stream.connectionIdRecv
  connectionIdSend : stream'.connectionIdSend = stream.connectionIdSend

theorem SameEnd.refl (stream : UtpStream) : SameEnd stream stream := ⟨rfl, rfl, rfl, rfl⟩

theorem SameEnd.trans {stream stream' stream'' : UtpStream} (hfirst : SameEnd stream stream')
    (hsecond : SameEnd stream' stream'') : SameEnd stream stream'' where
  localAddr := hsecond.localAddr.trans hfirst.localAddr
  remoteAddr := hsecond.remoteAddr.trans hfirst.remoteAddr
  connectionIdRecv := hsecond.connectionIdRecv.trans hfirst.connectionIdRecv
  connectionIdSend := hsecond.connectionIdSend.trans hfirst.connectionIdSend

/-- Nothing has been sent: the same end, and the same number for the next data packet. -/
structure Quiescent (stream stream' : UtpStream) : Prop extends SameEnd stream stream' where
  seqNumber : stream'.seqNumber = stream.seqNumber

theorem Quiescent.refl (stream : UtpStream) : Quiescent stream stream :=
  ⟨.refl stream, rfl⟩

theorem Quiescent.trans {stream stream' stream'' : UtpStream} (hfirst : Quiescent stream stream')
    (hsecond : Quiescent stream' stream'') : Quiescent stream stream'' where
  toSameEnd := hfirst.toSameEnd.trans hsecond.toSameEnd
  seqNumber := hsecond.seqNumber.trans hfirst.seqNumber

theorem pollQueue_quiescent {env : Env} {stream stream' : UtpStream} {queue : List Packet}
    {result : Poll (Option Packet)} (hpoll : pollQueue env stream queue = .ok (stream', result)) :
    Quiescent stream stream' := by
  induction queue with
  | nil =>
      simp only [pollQueue] at hpoll
      split_ifs at hpoll <;> cases hpoll <;> exact ⟨⟨rfl, rfl, rfl, rfl⟩, rfl⟩
  | cons packet rest ih =>
      simp only [pollQueue] at hpoll
      split_ifs at hpoll with hyields
      · cases hpoll
        exact ⟨⟨rfl, rfl, rfl, rfl⟩, rfl⟩
      · cases hsuspicious : stream.isSuspicious packet with
        | error panic => simp [hsuspicious, bind, Except.bind] at hpoll
        | ok suspicious =>
            cases suspicious with
            | true =>
                simp only [hsuspicious, bind, Except.bind, if_true] at hpoll
                exact ih hpoll
            | false =>
                simp only [hsuspicious, bind, Except.bind, Bool.false_eq_true, if_false, pure,
                  Except.pure] at hpoll
                cases hpoll
                exact ⟨⟨rfl, rfl, rfl, rfl⟩, rfl⟩

theorem handlePacket_quiescent {stream stream' : UtpStream} {packet : Packet}
    (hhandle : stream.handlePacket packet = .ok stream') : Quiescent stream stream' := by
  unfold handlePacket at hhandle
  split at hhandle <;> cases hhandle <;> exact ⟨⟨rfl, rfl, rfl, rfl⟩, rfl⟩

theorem drain_quiescent {env : Env} {stream stream' : UtpStream} {ended : Bool}
    (hdrain : (drain env).run stream = .ok (stream', ended)) : Quiescent stream stream' := by
  revert hdrain
  apply (drain env).run_invariant (motive := Quiescent stream)
    fun result => result = .ok (stream', ended) → Quiescent stream stream'
  · intro state state' hstate hbody
    simp only [drain] at hbody
    split at hbody
    · cases hbody
    · cases hbody
    · cases hbody
    · rename_i polled packet hpoll
      split at hbody
      · cases hbody
      · rename_i handled hhandle
        cases hbody
        exact (hstate.trans (pollQueue_quiescent hpoll)).trans (handlePacket_quiescent hhandle)
  · intro state value hstate hbody hvalue
    subst hvalue
    simp only [drain] at hbody
    split at hbody
    · cases hbody
    · rename_i polled hpoll
      cases hbody
      exact hstate.trans (pollQueue_quiescent hpoll)
    · rename_i polled hpoll
      cases hbody
      exact hstate.trans (pollQueue_quiescent hpoll)
    · rename_i polled packet hpoll
      split at hbody <;> cases hbody
  · exact .refl stream

theorem assemble_quiescent (stream : UtpStream) : Quiescent stream stream.assemble := by
  rw [assemble_frame]
  exact ⟨⟨rfl, rfl, rfl, rfl⟩, rfl⟩

/-! ### All calls -/

/-- What a call has done that passed `items` to `send_to`. -/
structure Performed (stream stream' : UtpStream) (items : List (Packet × SocketAddr)) : Prop where
  sameEnd : SameEnd stream stream'
  sends : ∀ item ∈ items, item.1.Fits ∧ item.1.Handled
    ∧ item.1.connectionId = stream.connectionIdSend ∧ item.2 = stream.remoteAddr
  first : ∀ item, items.find? (fun item => item.1.packetType = .data) = some item →
    item.1.seqNumber = stream.seqNumber
  unmoved : (∀ item ∈ items, item.1.packetType ≠ .data) → stream'.seqNumber = stream.seqNumber

theorem Quiescent.withReceived {stream stream' : UtpStream} (hquiescent : Quiescent stream stream')
    (receivedData : Bytes) : Quiescent stream { stream' with receivedData } :=
  hquiescent.trans ⟨⟨rfl, rfl, rfl, rfl⟩, rfl⟩

theorem Quiescent.performed {stream stream' : UtpStream} (hquiescent : Quiescent stream stream') :
    Performed stream stream' [] where
  sameEnd := hquiescent.toSameEnd
  sends := by simp
  first := by simp
  unmoved _ := hquiescent.seqNumber

theorem Quiescent.performed_ack {stream stream' assembled : UtpStream}
    (hassembled : Quiescent stream assembled) (hstream' : Quiescent stream stream') (env : Env) :
    Performed stream stream' [(assembled.ackPacket env, assembled.remoteAddr)] where
  sameEnd := hstream'.toSameEnd
  sends := by
    intro item hitem
    rw [List.mem_singleton.mp hitem]
    exact ⟨⟨rfl, rfl, Nat.zero_le _⟩, Or.inr rfl, hassembled.connectionIdSend,
      hassembled.remoteAddr⟩
  first := by simp [ackPacket]
  unmoved _ := hstream'.seqNumber

theorem pollRead_performed {env : Env} {stream : UtpStream} {remaining : Nat}
    {outcome : Outcome Bytes} (hread : stream.pollRead env remaining = .ok outcome) :
    Performed stream outcome.stream (outcome.sent ++ perform.refused outcome.result) := by
  cases hdrain : (drain env).run stream with
  | error panic => simp [pollRead, hdrain, bind, Except.bind] at hread
  | ok drained =>
      obtain ⟨drained, ended⟩ := drained
      have hdrained := drain_quiescent hdrain
      have hassembled := hdrained.trans (assemble_quiescent drained)
      simp only [pollRead, hdrain, bind, Except.bind, pure, Except.pure] at hread
      cases ended with
      | true =>
          simp only [if_true, Except.ok.injEq] at hread
          subst hread
          exact hdrained.performed
      | false =>
          simp only [Bool.false_eq_true, if_false] at hread
          cases hqueues : env.queues 0 with
          | false =>
              have hack : drained.assemble.sendAck env 0 = .error (.channelClosed
                  (drained.assemble.ackPacket env, drained.assemble.remoteAddr)) := by
                simp [sendAck, sendPacket, sendTo, hqueues, ackPacket]
              simp only [hack, Except.ok.injEq] at hread
              subst hread
              exact hassembled.performed_ack hassembled env
          | true =>
              have hack : drained.assemble.sendAck env 0
                  = .ok (drained.assemble.ackPacket env, drained.assemble.remoteAddr) := by
                simp [sendAck, sendPacket, sendTo, hqueues, ackPacket]
              simp only [hack] at hread
              split_ifs at hread with hempty hlong
              · cases hread
                exact hassembled.performed_ack hassembled env
              · cases hread
                exact hassembled.performed_ack (hassembled.withReceived _) env
              · cases hread
                exact hassembled.performed_ack (hassembled.withReceived _) env

theorem pollFlush_performed {env : Env} {stream : UtpStream} {outcome : Outcome Unit}
    (hflush : stream.pollFlush env = .ok outcome) :
    Performed stream outcome.stream (outcome.sent ++ perform.refused outcome.result) := by
  cases hdrain : (drain env).run stream with
  | error panic => simp [pollFlush, hdrain, bind, Except.bind] at hflush
  | ok drained =>
      have hdrained := drain_quiescent hdrain
      simp only [pollFlush, hdrain, bind, Except.bind, pure, Except.pure, throw, throwThe,
        MonadExceptOf.throw] at hflush
      split_ifs at hflush
      · cases hflush
        exact hdrained.performed
      · cases hflush
        exact hdrained.performed

theorem performed_data (env : Env) (index : Nat) (stream : UtpStream) {sent : List Bytes}
    (hsent : ∀ chunk ∈ sent, chunk.length ≤ maxDataSegmentSize) {refused : List Bytes}
    (hrefused : ∀ chunk ∈ refused, chunk.length ≤ maxDataSegmentSize) :
    Performed stream (stream.withSent sent)
      ((dataPackets env 0 stream sent).map (fun packet => (packet, stream.remoteAddr))
        ++ refused.map fun chunk =>
          ((stream.withSent sent).dataPacket env index chunk, stream.remoteAddr)) where
  sameEnd := ⟨rfl, rfl, rfl, rfl⟩
  sends := by
    intro item hitem
    rcases List.mem_append.mp hitem with htaken | hleft
    · obtain ⟨packet, hpacket, rfl⟩ := List.mem_map.mp htaken
      obtain ⟨index, seqNumber, chunk, hchunk, rfl⟩ := mem_dataPackets hpacket
      exact ⟨⟨rfl, rfl, hsent chunk hchunk⟩, Or.inl rfl, rfl, rfl⟩
    · obtain ⟨chunk, hchunk, rfl⟩ := List.mem_map.mp hleft
      exact ⟨⟨rfl, rfl, hrefused chunk hchunk⟩, Or.inl rfl, rfl, rfl⟩
  first := by
    intro item hitem
    cases sent with
    | nil =>
        cases refused with
        | nil => simp [dataPackets] at hitem
        | cons chunk rest =>
            simp [dataPackets, dataPacket] at hitem
            simp [← hitem, withSent]
    | cons chunk rest =>
        simp [dataPackets, dataPacket] at hitem
        simp [← hitem]
  unmoved := by
    intro hnone
    cases sent with
    | nil => simp [withSent]
    | cons chunk rest =>
        have hfirst := hnone (stream.dataPacket env 0 chunk, stream.remoteAddr) (by
          simp [dataPackets])
        exact absurd rfl hfirst

theorem pollWrite_performed (env : Env) (stream : UtpStream) (buf : Bytes) :
    Performed stream (stream.pollWrite env buf).stream
      ((stream.pollWrite env buf).sent ++ perform.refused (stream.pollWrite env buf).result) := by
  cases hshutdown : stream.isShutdown with
  | true =>
      rw [pollWrite_shutdown env hshutdown]
      exact (Quiescent.refl stream).performed
  | false =>
      have hpieces : ∀ chunk ∈ Chunks.chunks maxDataSegmentSize buf,
          chunk.length ≤ maxDataSegmentSize :=
        fun chunk hchunk => Chunks.length_le_of_mem_chunks hchunk
      obtain ⟨count, -, -, hstream, hsent, hresult⟩ := pollWrite_spec env hshutdown buf
      have htaken : ∀ chunk ∈ (Chunks.chunks maxDataSegmentSize buf).take count,
          chunk.length ≤ maxDataSegmentSize :=
        fun chunk hchunk => hpieces chunk (List.mem_of_mem_take hchunk)
      rw [hstream, hsent]
      rcases hresult with ⟨-, hresult⟩ | ⟨-, chunk, hchunk, hresult⟩
      · rw [hresult]
        have hall := performed_data env 0 stream htaken (List.forall_mem_nil _)
        simpa [perform.refused, unsent] using hall
      · rw [hresult]
        have hlast := hpieces chunk (List.mem_of_getElem? hchunk)
        have hstopped := performed_data env count stream htaken
          (List.forall_mem_singleton.mpr hlast)
        simpa [perform.refused, unsent] using hstopped

/-- **What a call can send.** -/
theorem perform_spec {stream stream' : UtpStream} {call : Call}
    {sent refused : List (Packet × SocketAddr)}
    (hperform : stream.perform call = .ok (stream', sent, refused)) :
    Performed stream stream' (sent ++ refused) := by
  cases call with
  | pollWrite env buf =>
      simp only [perform, Except.ok.injEq, Prod.mk.injEq] at hperform
      obtain ⟨rfl, rfl, rfl⟩ := hperform
      exact pollWrite_performed env stream buf
  | pollRead env remaining =>
      cases hread : stream.pollRead env remaining with
      | error panic => simp [perform, hread, bind, Except.bind] at hperform
      | ok outcome =>
          simp only [perform, hread, bind, Except.bind, pure, Except.pure, Except.ok.injEq,
            Prod.mk.injEq] at hperform
          obtain ⟨rfl, rfl, rfl⟩ := hperform
          exact pollRead_performed hread
  | pollFlush env =>
      cases hflush : stream.pollFlush env with
      | error panic => simp [perform, hflush, bind, Except.bind] at hperform
      | ok outcome =>
          simp only [perform, hflush, bind, Except.bind, pure, Except.pure, Except.ok.injEq,
            Prod.mk.injEq] at hperform
          obtain ⟨rfl, rfl, rfl⟩ := hperform
          exact pollFlush_performed hflush

end UtpStream

end UtpSafety
