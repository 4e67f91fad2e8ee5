import UtpSafety.Stream
import UtpSafety.Lib.Serial

/-!
# What one write does to a stream

While the outgoing channel takes packets, a write numbers its chunks consecutively, sends each in a
data packet of its own and records it as in flight. It stops at the first chunk that the channel does
not take.
-/

namespace UtpSafety.UtpStream

def dataPacket (env : Env) (index : Nat) (stream : UtpStream) (data : Bytes) : Packet where
  packetType := .data
  version := 1
  connectionId := stream.connectionIdSend
  timestampMicros := env.sentAt index
  timestampDeltaMicros := 0
  windowSize := 0
  seqNumber := stream.seqNumber
  ackNumber := stream.ackNumber
  extensions := []
  data := data

def withSent (stream : UtpStream) (chunks : List Bytes) : UtpStream :=
  { stream with
    unackedData := stream.unackedData ++ Serial.number stream.seqNumber chunks
    seqNumber := Serial.offset stream.seqNumber chunks.length }

def dataPackets (env : Env) : Nat → UtpStream → List Bytes → List Packet
  | _, _, [] => []
  | index, stream, chunk :: rest =>
      stream.dataPacket env index chunk :: dataPackets env (index + 1) (stream.withSent [chunk]) rest

theorem withSent_withSent (stream : UtpStream) (chunks chunks' : List Bytes) :
    (stream.withSent chunks).withSent chunks' = stream.withSent (chunks ++ chunks') := by
  simp [withSent, Serial.number_append, Serial.offset_offset]

theorem sendData_eq {env : Env} {index : Nat} (hqueues : env.queues index = true)
    (stream : UtpStream) (chunk : Bytes) :
    stream.sendData env index chunk
      = .ok (stream.withSent [chunk], (stream.dataPacket env index chunk, stream.remoteAddr)) := by
  simp [sendData, sendPacket, sendTo, hqueues, bind, Except.bind, pure, Except.pure, withSent,
    Serial.number, Serial.offset_one, dataPacket]

theorem writeChunks_eq {env : Env} (hqueues : ∀ index, env.queues index = true) (index : Nat)
    (stream : UtpStream) (bytesWritten : Nat) (chunks : List Bytes) :
    writeChunks env index stream bytesWritten chunks
      = ⟨stream.withSent chunks,
          (dataPackets env index stream chunks).map fun packet => (packet, stream.remoteAddr),
          .ready (.ok (bytesWritten + chunks.flatten.length))⟩ := by
  induction chunks generalizing index stream bytesWritten with
  | nil => simp [writeChunks, withSent, Serial.number, dataPackets]
  | cons chunk rest ih =>
      simp only [writeChunks, sendData_eq (hqueues index), ih, withSent_withSent, dataPackets]
      simp [withSent, Nat.add_assoc]

/-- **A write sends its chunks.** -/
theorem pollWrite_eq {env : Env} (hqueues : ∀ index, env.queues index = true) {stream : UtpStream}
    (hrunning : stream.isShutdown = false) (buf : Bytes) :
    stream.pollWrite env buf
      = ⟨stream.withSent (Chunks.chunks maxDataSegmentSize buf),
          (dataPackets env 0 stream (Chunks.chunks maxDataSegmentSize buf)).map
            fun packet => (packet, stream.remoteAddr),
          .ready (.ok buf.length)⟩ := by
  have hflatten : (Chunks.chunks maxDataSegmentSize buf).flatten = buf :=
    Chunks.chunks_flatten (by decide) buf
  simp [pollWrite, hrunning, writeChunks_eq hqueues, hflatten]

theorem map_dataPackets (env : Env) (index : Nat) (stream : UtpStream) (chunks : List Bytes) :
    (dataPackets env index stream chunks).map (fun packet => (packet.seqNumber, packet.data))
      = Serial.number stream.seqNumber chunks := by
  induction chunks generalizing index stream with
  | nil => rfl
  | cons chunk rest ih =>
      simp [dataPackets, ih, Serial.number, dataPacket, withSent, Serial.offset_one]

theorem mem_dataPackets {env : Env} {index : Nat} {stream : UtpStream} {chunks : List Bytes}
    {packet : Packet} (hpacket : packet ∈ dataPackets env index stream chunks) :
    ∃ index seqNumber, ∃ chunk ∈ chunks,
      packet = { stream with seqNumber }.dataPacket env index chunk := by
  induction chunks generalizing index stream with
  | nil => simp [dataPackets] at hpacket
  | cons chunk rest ih =>
      rcases List.mem_cons.mp hpacket with rfl | hrest
      · exact ⟨index, stream.seqNumber, chunk, by simp, rfl⟩
      · obtain ⟨index', seqNumber, chunk', hmem, heq⟩ := ih hrest
        exact ⟨index', seqNumber, chunk', List.mem_cons_of_mem _ hmem, heq⟩

/-! ### Writing while sends may fail -/

/-- **What a write sends.** It sends the first `count` chunks, and stops at the next one if that
cannot be sent. -/
theorem writeChunks_spec (env : Env) (index : Nat) (stream : UtpStream) (bytesWritten : Nat)
    (chunks : List Bytes) :
    ∃ count ≤ chunks.length, (∀ i < count, env.queues (index + i) = true)
      ∧ (writeChunks env index stream bytesWritten chunks).stream = stream.withSent (chunks.take count)
      ∧ (writeChunks env index stream bytesWritten chunks).sent
        = (dataPackets env index stream (chunks.take count)).map
          (fun packet => (packet, stream.remoteAddr))
      ∧ ((count = chunks.length
          ∧ (writeChunks env index stream bytesWritten chunks).result
            = .ready (.ok (bytesWritten + chunks.flatten.length)))
        ∨ env.queues (index + count) = false ∧ ∃ chunk, chunks[count]? = some chunk
          ∧ (writeChunks env index stream bytesWritten chunks).result
            = .ready (.error (.channelClosed
              ((stream.withSent (chunks.take count)).dataPacket env (index + count) chunk,
                stream.remoteAddr)))) := by
  induction chunks generalizing index stream bytesWritten with
  | nil => exact ⟨0, le_refl _, by simp [writeChunks, withSent, Serial.number, dataPackets]⟩
  | cons chunk rest ih =>
      cases hqueues : env.queues index with
      | false =>
          have hsend : stream.sendData env index chunk
              = .error (.channelClosed (stream.dataPacket env index chunk, stream.remoteAddr)) := by
            simp [sendData, sendPacket, sendTo, hqueues, bind, Except.bind, dataPacket]
          refine ⟨0, Nat.zero_le _, ?_⟩
          simp [writeChunks, hsend, withSent, Serial.number, dataPackets, hqueues]
      | true =>
          obtain ⟨count, hle, htaken, hstream, hsent, hresult⟩ :=
            ih (index + 1) (stream.withSent [chunk]) (bytesWritten + chunk.length)
          refine ⟨count + 1, by simpa using hle, ?_, ?_, ?_, ?_⟩
          · intro i hi
            cases i with
            | zero => exact hqueues
            | succ i =>
                have hnext := htaken i (by omega)
                rwa [Nat.add_assoc, Nat.add_comm 1] at hnext
          · simp only [writeChunks, sendData_eq hqueues, hstream, withSent_withSent,
              List.take_succ_cons, List.singleton_append]
          · simp only [writeChunks, sendData_eq hqueues, hsent, List.take_succ_cons, dataPackets,
              List.map_cons]
            rfl
          · simp only [writeChunks, sendData_eq hqueues, List.take_succ_cons, List.length_cons,
              List.getElem?_cons_succ, List.flatten_cons, List.length_append]
            rcases hresult with ⟨hall, hresult⟩ | ⟨hstop, next, hnext, hresult⟩
            · refine Or.inl ⟨by omega, ?_⟩
              rw [hresult, Nat.add_assoc]
            · rw [Nat.add_assoc, Nat.add_comm 1] at hstop
              refine Or.inr ⟨hstop, next, hnext, ?_⟩
              rw [hresult, withSent_withSent, List.singleton_append, Nat.add_assoc, Nat.add_comm 1]
              rfl

theorem pollWrite_shutdown (env : Env) {stream : UtpStream} (hshutdown : stream.isShutdown = true)
    (buf : Bytes) : stream.pollWrite env buf = ⟨stream, [], .ready (.ok 0)⟩ := by
  simp [pollWrite, hshutdown]

theorem pollWrite_spec (env : Env) {stream : UtpStream} (hrunning : stream.isShutdown = false)
    (buf : Bytes) :
    ∃ count ≤ (Chunks.chunks maxDataSegmentSize buf).length,
      (∀ i < count, env.queues i = true)
      ∧ (stream.pollWrite env buf).stream
        = stream.withSent ((Chunks.chunks maxDataSegmentSize buf).take count)
      ∧ (stream.pollWrite env buf).sent
        = (dataPackets env 0 stream ((Chunks.chunks maxDataSegmentSize buf).take count)).map
          (fun packet => (packet, stream.remoteAddr))
      ∧ ((count = (Chunks.chunks maxDataSegmentSize buf).length
          ∧ (stream.pollWrite env buf).result = .ready (.ok buf.length))
        ∨ env.queues count = false
          ∧ ∃ chunk, (Chunks.chunks maxDataSegmentSize buf)[count]? = some chunk
          ∧ (stream.pollWrite env buf).result = .ready (.error (.channelClosed
            ((stream.withSent ((Chunks.chunks maxDataSegmentSize buf).take count)).dataPacket
              env count chunk, stream.remoteAddr)))) := by
  have hwrite : stream.pollWrite env buf
      = writeChunks env 0 stream 0 (Chunks.chunks maxDataSegmentSize buf) := by
    simp [pollWrite, hrunning]
  have hflatten : (Chunks.chunks maxDataSegmentSize buf).flatten = buf :=
    Chunks.chunks_flatten (by decide) buf
  have hspec := writeChunks_spec env 0 stream 0 (Chunks.chunks maxDataSegmentSize buf)
  simp only [← hwrite, Nat.zero_add, hflatten] at hspec
  exact hspec

theorem exists_pollWrite_eq_withSent (env : Env) (stream : UtpStream) (buf : Bytes) :
    ∃ sent, (stream.pollWrite env buf).stream = stream.withSent sent := by
  cases hshutdown : stream.isShutdown with
  | true =>
      rw [pollWrite_shutdown env hshutdown]
      exact ⟨[], by simp [withSent, Serial.number]⟩
  | false =>
      obtain ⟨count, -, -, hstream, -⟩ := pollWrite_spec env hshutdown buf
      exact ⟨_, hstream⟩

end UtpSafety.UtpStream
