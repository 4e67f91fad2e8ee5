import UtpSafety.Proof.Link

/-!
# A network that loses nothing

The packets of one write arrive once each and in order, and the reader polls whenever it likes. The
window of acceptable packets starts at `ackNumber`, which a read moves only after it has taken all it
takes from the mailbox: of the packets that one read takes in order, the first 128 are assembled and
the others are dropped (`assemble_inOrder`). Nothing is ever sent again, so nothing is lost exactly as
long as no read takes more than that.
-/

namespace UtpSafety

open UtpStream

/-- `inboundData` holds these chunks, numbered from `base` on, and nothing else. -/
def Holds (inboundData : Finmap fun _ : UInt16 => Bytes) (base : UInt16) (chunks : List Bytes) :
    Prop :=
  ∀ number data, inboundData.lookup number = some data ↔ (number, data) ∈ Serial.number base chunks

theorem holds_empty (base : UInt16) : Holds ∅ base [] := by
  intro number data
  simp [Serial.number]

theorem Holds.insert {inboundData : Finmap fun _ : UInt16 => Bytes} {base : UInt16}
    {chunks : List Bytes} (hholds : Holds inboundData base chunks) (hlength : chunks.length < 65536)
    (chunk : Bytes) :
    Holds (inboundData.insert (Serial.offset base chunks.length) chunk) base (chunks ++ [chunk]) := by
  intro number data
  rw [Serial.number_append, List.mem_append, ← hholds number data]
  by_cases hnew : number = Serial.offset base chunks.length
  · subst hnew
    have hfresh : inboundData.lookup (Serial.offset base chunks.length) ≠ some data := by
      intro hold
      obtain ⟨i, hi, heq⟩ := Serial.mem_number.mp ((hholds _ _).mp hold)
      have hlt := (List.getElem?_eq_some_iff.mp hi).1
      have hsame := Serial.offset_injective hlength (by omega) heq
      omega
    rw [Finmap.lookup_insert]
    simp [Serial.number, hfresh, eq_comm]
  · rw [Finmap.lookup_insert_of_ne _ hnew]
    simp [Serial.number, hnew]

/-- Assembly takes everything when what is there is consecutive from `ackNumber + 1` on. -/
theorem Holds.assembled {stream result : UtpStream} {chunks run : List Bytes}
    (hholds : Holds stream.inboundData (stream.ackNumber + 1) chunks)
    (hlength : chunks.length < 65536) (hrun : Assembled stream result run) :
    run = chunks ∧ result.inboundData = ∅ := by
  have hprefix : run <+: chunks.drop 0 := by
    apply Serial.isPrefix_drop_of_mem_number (s := stream.ackNumber + 1) (by omega) (Nat.zero_le _)
    intro i data hdata
    rw [Serial.offset_zero]
    exact (hholds _ _).mp (hrun.present i data hdata)
  rw [List.drop_zero] at hprefix
  have hnext : result.ackNumber + 1 = Serial.offset (stream.ackNumber + 1) run.length := by
    rw [hrun.frame, Serial.offset_add_one_left]
    exact Serial.offset_add_one _ _
  have hall : run = chunks := by
    apply hprefix.eq_of_length_le
    by_contra hshort
    have hlt : run.length < chunks.length := by omega
    have hmem := Serial.mem_number.mpr
      ⟨run.length, List.getElem?_eq_getElem hlt, (rfl : Serial.offset (stream.ackNumber + 1) _ = _)⟩
    have hmaximal := hrun.maximal
    rw [hnext, hrun.kept, (hholds _ _).mpr hmem] at hmaximal
    · cases hmaximal
    · intro i hi heq
      have hsame := Serial.offset_injective (by omega) (by omega) heq
      omega
  refine ⟨hall, Finmap.ext_lookup fun number => ?_⟩
  rw [Finmap.lookup_empty, Option.eq_none_iff_forall_ne_some]
  intro data hlookup
  obtain ⟨i, hi, heq⟩ := Serial.mem_number.mp ((hholds _ _).mp (hrun.lookup hlookup))
  rw [← hall] at hi
  rw [heq, hrun.removed i (List.getElem?_eq_some_iff.mp hi).1] at hlookup
  cases hlookup

/-! ### One read of packets in order -/

/-- The packets are data packets that carry these chunks, numbered from `base` on. -/
structure Carry (packets : List Packet) (base : UInt16) (chunks : List Bytes) : Prop where
  type : ∀ packet ∈ packets, packet.packetType = .data
  number : packets.map (fun packet => (packet.seqNumber, packet.data)) = Serial.number base chunks

theorem Carry.length {packets : List Packet} {base : UInt16} {chunks : List Bytes}
    (hcarry : Carry packets base chunks) : packets.length = chunks.length := by
  have hlength := congrArg List.length hcarry.number
  simpa using hlength

theorem Carry.drop {packets : List Packet} {base : UInt16} {chunks : List Bytes}
    (hcarry : Carry packets base chunks) (k : Nat) :
    Carry (packets.drop k) (Serial.offset base k) (chunks.drop k) where
  type packet hpacket := hcarry.type packet (List.mem_of_mem_drop hpacket)
  number := by rw [List.map_drop, hcarry.number, Serial.number_drop]

theorem Carry.take {packets : List Packet} {base : UInt16} {chunks : List Bytes}
    (hcarry : Carry packets base chunks) (k : Nat) :
    Carry (packets.take k) base (chunks.take k) where
  type packet hpacket := hcarry.type packet (List.mem_of_mem_take hpacket)
  number := by rw [List.map_take, hcarry.number, Serial.number_take]

theorem Carry.map_data {packets : List Packet} {base : UInt16} {chunks : List Bytes}
    (hcarry : Carry packets base chunks) : packets.map Packet.data = chunks := by
  rw [← Serial.map_snd_number base chunks, ← hcarry.number, List.map_map]
  rfl

/-- The packet `i` places ahead of the next one is accepted when `i` is below 128, and dropped
from there on until the circle has nearly come round. -/
theorem isSuspicious_ahead {stream : UtpStream} {packet : Packet} {i : Nat}
    (htype : packet.packetType = .data)
    (hnumber : packet.seqNumber = Serial.offset (stream.ackNumber + 1) i) (hi : i < 65407) :
    stream.isSuspicious packet = .ok (decide (128 ≤ i)) := by
  have hright : (packet.seqNumber - stream.ackNumber).toNat = i + 1 := by
    have hlt := stream.ackNumber.toNat_lt
    rw [hnumber, Serial.offset_add_one_left, UInt16.toNat_sub, Serial.toNat_offset]
    omega
  have hleft : (stream.ackNumber - packet.seqNumber).toNat = 65535 - i := by
    have hlt := stream.ackNumber.toNat_lt
    rw [hnumber, Serial.offset_add_one_left, UInt16.toNat_sub, Serial.toNat_offset]
    omega
  simp only [isSuspicious, htype, Except.ok.injEq, gt_iff_lt, UInt16.lt_iff_toNat_lt, hright, hleft,
    UInt16.reduceToNat]
  rw [← Bool.decide_and, decide_eq_decide]
  omega

theorem Holds.absorb {stream : UtpStream} {packet : Packet} {chunks : List Bytes}
    (hholds : Holds stream.inboundData (stream.ackNumber + 1) (chunks.take 128))
    (htype : packet.packetType = .data)
    (hnumber : packet.seqNumber = Serial.offset (stream.ackNumber + 1) chunks.length)
    (hlength : chunks.length < 65407) (receivedAt : UInt32) :
    Holds (stream.absorb receivedAt packet).inboundData (stream.ackNumber + 1)
      ((chunks ++ [packet.data]).take 128) := by
  have hsuspicious := isSuspicious_ahead htype hnumber hlength
  by_cases hfar : 128 ≤ chunks.length
  · rw [List.take_append_of_le_length hfar]
    simpa [UtpStream.absorb, hsuspicious, hfar] using hholds
  · rw [List.take_of_length_le (by omega)] at hholds
    rw [List.take_of_length_le (by simp; omega)]
    have hinsert := hholds.insert (by omega) packet.data
    rw [← hnumber] at hinsert
    simpa [UtpStream.absorb, hsuspicious, hfar, htype] using hinsert

theorem Holds.absorbQueue {env : Env} {stream : UtpStream} {queue : List Packet}
    {earlier later : List Bytes}
    (hholds : Holds stream.inboundData (stream.ackNumber + 1) (earlier.take 128))
    (hcarry : Carry queue (Serial.offset (stream.ackNumber + 1) earlier.length) later)
    (htaken : earlier.length + env.taken queue ≤ 65407) :
    Holds (UtpStream.absorbQueue env stream queue).inboundData (stream.ackNumber + 1)
      ((earlier ++ later.take (env.taken queue)).take 128) := by
  induction queue generalizing stream earlier later with
  | nil => simpa [UtpStream.absorbQueue, Env.taken] using hholds
  | cons packet rest ih =>
      rw [UtpStream.absorbQueue, Env.taken]
      rw [Env.taken] at htaken
      split_ifs with hyields
      · simpa using hholds
      · rw [if_neg hyields] at htaken
        obtain ⟨htype, hnumber⟩ := hcarry
        cases later with
        | nil => simp [Serial.number] at hnumber
        | cons chunk later =>
            simp only [List.map_cons, Serial.number, List.cons.injEq, Prod.mk.injEq] at hnumber
            obtain ⟨⟨hseqNumber, rfl⟩, hrest⟩ := hnumber
            have hackNumber : (stream.absorb (env.receivedAt rest.length) packet).ackNumber
                = stream.ackNumber := by
              rw [absorb_frame]
            have habsorb := hholds.absorb (htype packet (by simp)) hseqNumber (by omega)
              (env.receivedAt rest.length)
            rw [← hackNumber] at habsorb
            rw [Serial.offset_add_one, ← hackNumber] at hrest
            have hqueue := ih habsorb
              ⟨fun packet hmem => htype packet (List.mem_cons_of_mem _ hmem), by
                simpa using hrest⟩ (by simp; omega)
            rw [hackNumber] at hqueue
            simpa using hqueue

/-- **A read assembles the first 128 of the packets it takes in order.** -/
theorem assemble_inOrder (env : Env) {stream : UtpStream} {chunks : List Bytes}
    (hempty : stream.inboundData = ∅)
    (hcarry : Carry stream.inboundPackets.queue (stream.ackNumber + 1) chunks)
    (htaken : env.taken stream.inboundPackets.queue ≤ 65407) :
    ∃ run, run = (chunks.take (env.taken stream.inboundPackets.queue)).take 128
      ∧ Assembled (stream.absorbed env) (stream.absorbed env).assemble run
      ∧ (stream.absorbed env).assemble.inboundData = ∅ := by
  have hackNumber : (stream.absorbed env).ackNumber = stream.ackNumber := by
    rw [absorbed_frame]
  have hholds : Holds (stream.absorbed env).inboundData ((stream.absorbed env).ackNumber + 1)
      ((chunks.take (env.taken stream.inboundPackets.queue)).take 128) := by
    rw [hackNumber]
    have hnone : Holds stream.inboundData (stream.ackNumber + 1) (([] : List Bytes).take 128) := by
      rw [hempty]
      exact holds_empty _
    have hqueue := hnone.absorbQueue (by simpa using hcarry) (by simpa using htaken)
    simpa [UtpStream.absorbed, withQueue] using hqueue
  obtain ⟨run, hrun⟩ := exists_assembled (stream.absorbed env)
  obtain ⟨hall, hresult⟩ := hholds.assembled (by rw [List.length_take]; omega) hrun
  exact ⟨run, hall, hrun, hresult⟩

/-! ### Whole runs -/

/-- After one write on `side`, its packets arrive in sending order and the other side reads. -/
def InSendingOrder (side : Side) : Action → Prop
  | .deliver side' index => side' = side ∧ index = 0
  | .pollRead side' _ _ => side' = side.other
  | _ => False

instance (side : Side) : DecidablePred (InSendingOrder side)
  | .deliver side' index => inferInstanceAs (Decidable (side' = side ∧ index = 0))
  | .pollRead side' _ _ => inferInstanceAs (Decidable (side' = side.other))
  | .pollWrite .. | .pollFlush .. | .duplicate .. | .lose .. => isFalse not_false

/-- A read takes at most `limit` packets out of the mailbox. -/
def TakesAtMost (limit : Nat) (pair : Pair) : Action → Prop
  | .pollRead side env _ => env.taken (pair side).stream.inboundPackets.queue ≤ limit
  | _ => True

instance (limit : Nat) (pair : Pair) : DecidablePred (TakesAtMost limit pair)
  | .pollRead side env _ =>
      inferInstanceAs (Decidable (env.taken (pair side).stream.inboundPackets.queue ≤ limit))
  | .deliver .. | .pollWrite .. | .pollFlush .. | .duplicate .. | .lose .. => isTrue trivial

/-- Of the packets of the write, `k` are assembled, and the others wait in order in the mailbox and
in the network. -/
structure InTransit (packets : List Packet) (start : UInt16) (k : Nat) (sender receiver : Endpoint) :
    Prop where
  le : k ≤ packets.length
  sent : sender.sent = packets
  opened : receiver.stream.inboundPackets.closed = false
  running : receiver.stream.isShutdown = false
  waiting : receiver.stream.inboundPackets.queue ++ sender.inFlight = packets.drop k
  ackNumber : receiver.stream.ackNumber + 1 = Serial.offset start k
  inboundData : receiver.stream.inboundData = ∅
  bytes : receiver.delivered ++ receiver.stream.receivedData
    = ((packets.map Packet.data).take k).flatten

@[simp]
theorem Env.taken_sending (env : Env) (queue : List Packet) :
    env.sending.taken queue = env.taken queue := by
  induction queue with
  | nil => rfl
  | cons packet rest ih =>
      rw [Env.taken, Env.taken, ih]
      rfl

theorem Env.taken_le (env : Env) (queue : List Packet) : env.taken queue ≤ queue.length := by
  induction queue with
  | nil => simp [Env.taken]
  | cons packet rest ih =>
      rw [Env.taken]
      split_ifs
      · omega
      · simpa using ih

namespace InTransit

variable {packets : List Packet} {start : UInt16} {chunks : List Bytes} {k : Nat}
  {sender receiver : Endpoint} (htransit : InTransit packets start k sender receiver)
include htransit

theorem delivered {packet : Packet} {rest : List Packet}
    (hinFlight : sender.inFlight = packet :: rest) :
    InTransit packets start k (sender.withInFlight rest) (receiver.receive packet) := by
  refine ⟨htransit.le, htransit.sent, htransit.opened, htransit.running, ?_, htransit.ackNumber,
    htransit.inboundData, htransit.bytes⟩
  rw [← htransit.waiting, hinFlight]
  simp [Endpoint.receive, Endpoint.withInFlight]

theorem didRead (hcarry : Carry packets start chunks) {env : Env} (remaining : Nat)
    (htaken : env.taken receiver.stream.inboundPackets.queue ≤ 128) :
    InTransit packets start (k + env.taken receiver.stream.inboundPackets.queue) sender
      (receiver.didRead env remaining) := by
  generalize htake : env.taken receiver.stream.inboundPackets.queue = taken at htaken
  have hwaiting := htransit.waiting
  have hqueueLength : taken ≤ receiver.stream.inboundPackets.queue.length := by
    rw [← htake]
    exact env.taken_le _
  have hlength : k + taken ≤ packets.length := by
    have hle := htransit.le
    have hsum := congrArg List.length hwaiting
    simp only [List.length_append, List.length_drop] at hsum
    omega
  have hqueue : Carry receiver.stream.inboundPackets.queue (receiver.stream.ackNumber + 1)
      ((chunks.drop k).take receiver.stream.inboundPackets.queue.length) := by
    have htaken := (hcarry.drop k).take receiver.stream.inboundPackets.queue.length
    rwa [← hwaiting, List.take_left, ← htransit.ackNumber] at htaken
  obtain ⟨run, hall, hrun, hempty⟩ := assemble_inOrder env htransit.inboundData hqueue
    (by omega)
  have hrunChunks : run = (chunks.drop k).take taken := by
    rw [hall, htake, List.take_take, List.take_take, Nat.min_eq_right htaken,
      Nat.min_eq_left hqueueLength]
  have hrunLength : run.length = taken := by
    rw [hrunChunks, List.length_take, List.length_drop, ← hcarry.length]
    omega
  refine ⟨hlength, htransit.sent, ?_, ?_, ?_, ?_, ?_, ?_⟩
  · simp only [Endpoint.didRead]
    rw [assemble_frame, absorbed_frame]
    exact htransit.opened
  · simp only [Endpoint.didRead]
    rw [assemble_frame, absorbed_frame]
    exact htransit.running
  · simp only [Endpoint.didRead]
    rw [assemble_frame, absorbed_frame]
    dsimp only
    rw [htake, ← List.drop_append_of_le_length hqueueLength, hwaiting, List.drop_drop]
  · rw [Endpoint.ackNumber_didRead hrun, Serial.offset_add_one, ← Serial.offset_add_one_left,
      htransit.ackNumber, Serial.offset_offset, hrunLength]
  · exact hempty
  · calc (receiver.didRead env remaining).delivered
          ++ (receiver.didRead env remaining).stream.receivedData
        = (chunks.take k).flatten ++ run.flatten := by
          rw [Endpoint.bytes_didRead hrun, htransit.bytes, hcarry.map_data]
      _ = (chunks.take (k + taken)).flatten := by
          rw [hrunChunks, ← List.flatten_append, ← List.take_add]
      _ = ((packets.map Packet.data).take (k + taken)).flatten := by
          rw [hcarry.map_data]

theorem ready (hcarry : Carry packets start chunks) : receiver.Ready where
  handled packet hpacket := by
    have hmem : packet ∈ packets.drop k := by
      rw [← htransit.waiting]
      exact List.mem_append_left _ hpacket
    exact Or.inl (hcarry.type packet (List.mem_of_mem_drop hmem))
  opened := htransit.opened
  running := htransit.running

end InTransit

theorem inTransit_step {packets : List Packet} {start : UInt16} {chunks : List Bytes}
    (hcarry : Carry packets start chunks) {side : Side} {pair pair' : Pair} {action : Action}
    (htransit : ∃ k, InTransit packets start k (pair side) (pair side.other))
    (horder : InSendingOrder side action) (htakes : TakesAtMost 128 pair action)
    (hstep : pair.step action = some pair') :
    ∃ k, InTransit packets start k (pair' side) (pair' side.other) := by
  obtain ⟨k, htransit⟩ := htransit
  cases action with
  | deliver side' index =>
      obtain ⟨rfl, rfl⟩ := horder
      cases hinFlight : (pair side').inFlight with
      | nil => simp [Pair.step, hinFlight] at hstep
      | cons packet rest =>
          have hpacket : (pair side').inFlight[0]? = some packet := by
            rw [hinFlight]
            rfl
          rw [step_deliver hpacket, hinFlight, List.eraseIdx_cons_zero, Option.some.injEq] at hstep
          subst hstep
          refine ⟨k, ?_⟩
          simpa [Function.update_of_ne] using htransit.delivered hinFlight
  | pollRead side' env remaining =>
      cases horder
      rw [step_pollRead (htransit.ready hcarry), Option.some.injEq] at hstep
      subst hstep
      have hdid := htransit.didRead hcarry remaining (by rw [Env.taken_sending]; exact htakes)
      refine ⟨k + env.sending.taken (pair side.other).stream.inboundPackets.queue, ?_⟩
      rwa [Function.update_of_ne side.ne_other, Function.update_self]
  | pollWrite side' env buf => cases horder
  | pollFlush side' env => cases horder
  | duplicate side' index => cases horder
  | lose side' index => cases horder

theorem inTransit_of_write {pair : Pair} {side : Side} (hfresh : ∀ side, (pair side).Fresh)
    (hexpects : Expects (pair side.other) (pair side)) (env : Env) (buf : Bytes) :
    ∃ packets written, pair.step (.pollWrite side env buf) = some written
      ∧ Carry packets (pair side).stream.seqNumber (Chunks.chunks maxDataSegmentSize buf)
      ∧ InTransit packets (pair side).stream.seqNumber 0 (written side) (written side.other) := by
  have hsender := hfresh side
  have hreceiver := hfresh side.other
  have hready : (pair side).Ready := by
    refine ⟨?_, ?_, hsender.isShutdown⟩
    · simp [hsender.queue]
    · simp [hsender.queue]
  have hcarry : Carry
      (dataPackets env.sending 0 (pair side).stream (Chunks.chunks maxDataSegmentSize buf))
      (pair side).stream.seqNumber (Chunks.chunks maxDataSegmentSize buf) := by
    refine ⟨?_, map_dataPackets _ _ _ _⟩
    intro packet hpacket
    obtain ⟨index, seqNumber, chunk, -, rfl⟩ := mem_dataPackets hpacket
    rfl
  refine ⟨_, _, step_pollWrite hready env buf, hcarry, ?_⟩
  have hother : (Function.update pair side ((pair side).wrote env.sending buf)) side.other
      = pair side.other := by
    simp [Function.update_of_ne]
  rw [hother, Function.update_self]
  refine ⟨Nat.zero_le _, ?_, ?_, hreceiver.isShutdown, ?_, ?_, hreceiver.inboundData, ?_⟩
  · simp [Endpoint.wrote, hsender.sent]
  · simp [hreceiver.queue]
  · simp [Endpoint.wrote, hreceiver.queue, hsender.inFlight]
  · rw [Serial.offset_zero]
    exact hexpects
  · simp [hreceiver.delivered, hreceiver.receivedData]

/-- **Nothing is lost on a perfect network**, as long as no read takes more than 128 packets out of
the mailbox. -/
theorem perfect_network_delivers {pair written final : Pair} {side : Side} {env : Env} {buf : Bytes}
    {actions : List Action} (hfresh : ∀ side, (pair side).Fresh)
    (hexpects : Expects (pair side.other) (pair side))
    (hwrite : pair.step (.pollWrite side env buf) = some written)
    (hall : Run.All Pair.step
      (fun state action => InSendingOrder side action ∧ TakesAtMost 128 state action) written actions)
    (hexec : Run.exec Pair.step written actions = some final)
    (hinFlight : (final side).inFlight = [])
    (hqueue : (final side.other).stream.inboundPackets.queue = [])
    (hreceivedData : (final side.other).stream.receivedData = []) :
    (final side.other).delivered = buf
      ∧ ∀ packet, (final side).dataSent.getLast? = some packet →
        (final side.other).stream.ackNumber = packet.seqNumber := by
  obtain ⟨packets, written', hwrite', hcarry, htransit⟩ :=
    inTransit_of_write hfresh hexpects env buf
  obtain rfl : written = written' := Option.some.inj (hwrite.symm.trans hwrite')
  obtain ⟨k, hfinal⟩ := Run.exec_invariant_of_all (motive := fun state =>
      ∃ k, InTransit packets (pair side).stream.seqNumber k (state side) (state side.other))
    (fun state action state' hstate hallowed hstep =>
      inTransit_step hcarry hstate hallowed.1 hallowed.2 hstep) ⟨0, htransit⟩ hall hexec
  have hk : k = packets.length := by
    have hwaiting := hfinal.waiting
    rw [hinFlight, hqueue, List.nil_append, eq_comm, List.drop_eq_nil_iff] at hwaiting
    exact le_antisymm hfinal.le hwaiting
  constructor
  · have hbytes := hfinal.bytes
    rw [hreceivedData, List.append_nil, hk, hcarry.map_data, hcarry.length, List.take_length,
      Chunks.chunks_flatten (by decide)] at hbytes
    exact hbytes
  · intro packet hlast
    have hdata : (final side).dataSent = packets := by
      rw [Endpoint.dataSent, hfinal.sent, List.filter_eq_self]
      intro packet hpacket
      simpa using hcarry.type packet hpacket
    rw [hdata, List.getLast?_eq_getElem?] at hlast
    have hnumber := congrArg (fun entries => entries[packets.length - 1]?) hcarry.number
    simp only [List.getElem?_map, hlast, Serial.getElem?_number, Option.map_some] at hnumber
    rw [eq_comm, Option.map_eq_some_iff] at hnumber
    obtain ⟨chunk, -, hentry⟩ := hnumber
    have hpositive : 0 < packets.length := by
      have hlt := (List.getElem?_eq_some_iff.mp hlast).1
      omega
    have hack := hfinal.ackNumber
    have hprevious : k = packets.length - 1 + 1 := by omega
    rw [hprevious, ← Serial.offset_add_one] at hack
    rw [(UInt16.add_left_inj 1).mp hack]
    exact congrArg Prod.fst hentry

/-- Two whole chunks and a third of two bytes. -/
def chunkedBuf : Bytes :=
  List.replicate maxDataSegmentSize 1 ++ (List.replicate maxDataSegmentSize 2 ++ [3, 4])

/-- The packets arrive one, two and none at a time between the reads. -/
def chunkedActions : List Action :=
  [.deliver .a 0, .pollRead .b .plain 1000, .deliver .a 0, .deliver .a 0, .pollRead .b .plain 1500,
    .pollRead .b .plain 1000]

def chunkedWritten : Pair :=
  ((Pair.numbered fun _ => 65535).step (.pollWrite .a .plain chunkedBuf)).get (by decide +kernel)

def chunkedRead : Pair :=
  (Run.exec Pair.step chunkedWritten chunkedActions).get (by decide +kernel)

theorem perfect_network_delivers_chunked :
    (Pair.numbered fun _ => 65535).step (.pollWrite .a .plain chunkedBuf) = some chunkedWritten
      ∧ Run.exec Pair.step chunkedWritten chunkedActions = some chunkedRead
      ∧ (chunkedRead .a).dataSent.map Packet.seqNumber = [65535, 0, 1]
      ∧ (chunkedRead .b).delivered = chunkedBuf
      ∧ ∀ packet, (chunkedRead .a).dataSent.getLast? = some packet →
        (chunkedRead .b).stream.ackNumber = packet.seqNumber := by
  have hwrite : (Pair.numbered fun _ => 65535).step (.pollWrite .a .plain chunkedBuf)
      = some chunkedWritten := (Option.some_get _).symm
  have hexec : Run.exec Pair.step chunkedWritten chunkedActions = some chunkedRead :=
    (Option.some_get _).symm
  have hall : Run.All Pair.step
      (fun state action => InSendingOrder .a action ∧ TakesAtMost 128 state action) chunkedWritten
      chunkedActions := by decide +kernel
  have hinFlight : (chunkedRead .a).inFlight = [] := by decide +kernel
  have hqueue : (chunkedRead (Side.other .a)).stream.inboundPackets.queue = [] := by decide +kernel
  have hreceivedData : (chunkedRead (Side.other .a)).stream.receivedData = [] := by decide +kernel
  have hread := perfect_network_delivers (Pair.agreed_numbered fun _ => 65535).fresh
    ((Pair.agreed_numbered fun _ => 65535).expects .a) hwrite hall hexec hinFlight hqueue hreceivedData
  rw [show Side.other .a = .b from rfl] at hread
  exact ⟨hwrite, hexec, by decide +kernel, hread⟩

/-! ### Where it stops -/

theorem exists_all_delivered {packets : List Packet} {start : UInt16} {k : Nat} {side : Side}
    {pair : Pair} (htransit : InTransit packets start k (pair side) (pair side.other)) :
    ∃ actions pair', (∀ action ∈ actions, InSendingOrder side action)
      ∧ Run.exec Pair.step pair actions = some pair'
      ∧ InTransit packets start k (pair' side) (pair' side.other) ∧ (pair' side).inFlight = [] := by
  generalize hinFlight : (pair side).inFlight = inFlight
  induction inFlight generalizing pair with
  | nil => exact ⟨[], pair, by simp, rfl, htransit, hinFlight⟩
  | cons packet rest ih =>
      have hpacket : (pair side).inFlight[0]? = some packet := by
        rw [hinFlight]
        rfl
      have hstep := step_deliver hpacket
      rw [hinFlight, List.eraseIdx_cons_zero] at hstep
      have hdelivered := htransit.delivered hinFlight
      obtain ⟨actions, pair', hactions, hexec, htransit', hnone⟩ := @ih
        (Function.update (Function.update pair side ((pair side).withInFlight rest)) side.other
          ((pair side.other).receive packet))
        (by simpa [Function.update_of_ne] using hdelivered)
        (by simp [Function.update_of_ne, Endpoint.withInFlight])
      refine ⟨.deliver side 0 :: actions, pair', ?_, Run.exec_cons.mpr ⟨_, hstep, hexec⟩, htransit',
        hnone⟩
      intro action haction
      rcases List.mem_cons.mp haction with rfl | hrest
      · exact ⟨rfl, rfl⟩
      · exact hactions action hrest

theorem Env.taken_plain (queue : List Packet) : Env.plain.sending.taken queue = queue.length := by
  induction queue with
  | nil => rfl
  | cons packet rest ih =>
      rw [Env.taken, ih]
      rfl

/-- A read that finds more than 128 packets of a write hands out the first 128 chunks, and the
others are gone. -/
theorem InTransit.overrun {packets : List Packet} {start : UInt16} {chunks : List Bytes}
    {sender receiver : Endpoint} (htransit : InTransit packets start 0 sender receiver)
    (hcarry : Carry packets start chunks) (hinFlight : sender.inFlight = [])
    (hlength : chunks.length ≤ 65407) {remaining : Nat} (hremaining : chunks.flatten.length ≤ remaining) :
    (receiver.didRead Env.plain.sending remaining).delivered = (chunks.take 128).flatten
      ∧ (receiver.didRead Env.plain.sending remaining).stream.receivedData = []
      ∧ (receiver.didRead Env.plain.sending remaining).stream.inboundPackets.queue = [] := by
  have hqueue : receiver.stream.inboundPackets.queue = packets := by
    have hwaiting := htransit.waiting
    rwa [hinFlight, List.append_nil, List.drop_zero] at hwaiting
  obtain ⟨hdelivered, hreceived⟩ := List.append_eq_nil_iff.mp (by simpa using htransit.bytes)
  have hackNumber := htransit.ackNumber
  rw [Serial.offset_zero] at hackNumber
  obtain ⟨run, hall, hrun, -⟩ := assemble_inOrder Env.plain.sending htransit.inboundData
    (by rw [hqueue, hackNumber]; exact hcarry)
    (by rw [Env.taken_plain, hqueue, hcarry.length]; exact hlength)
  have hrunChunks : run = chunks.take 128 := by
    rw [hall, Env.taken_plain, hqueue, hcarry.length, List.take_length]
  have hassembled : (receiver.stream.absorbed Env.plain.sending).assemble.receivedData
      = (chunks.take 128).flatten := by
    rw [hrun.frame, absorbed_frame, hrunChunks]
    simp [hreceived]
  have hfits : (chunks.take 128).flatten.length ≤ remaining := by
    have hsplit : (chunks.take 128).flatten ++ (chunks.drop 128).flatten = chunks.flatten := by
      rw [← List.flatten_append, List.take_append_drop]
    have hsum := congrArg List.length hsplit
    rw [List.length_append] at hsum
    omega
  refine ⟨?_, ?_, ?_⟩
  · simp only [Endpoint.didRead]
    rw [hassembled, hdelivered, List.nil_append, List.take_of_length_le hfits]
  · simp only [Endpoint.didRead]
    rw [hassembled, List.drop_eq_nil_of_le hfits]
  · simp only [Endpoint.didRead]
    rw [assemble_frame, absorbed_frame]
    dsimp only
    rw [Env.taken_plain, List.drop_length]

/-- A buffer that is cut into 129 chunks. -/
def oversized : Bytes := List.replicate (129 * maxDataSegmentSize) 0

theorem length_oversized : oversized.length = 129 * maxDataSegmentSize :=
  List.length_replicate

theorem length_chunks_oversized : (Chunks.chunks maxDataSegmentSize oversized).length < 130 := by
  have hmul := Chunks.length_chunks_mul_lt (by decide : 0 < maxDataSegmentSize) oversized
  rw [length_oversized, ← Nat.succ_mul] at hmul
  exact Nat.lt_of_mul_lt_mul_right hmul

theorem length_oversized_front :
    ((Chunks.chunks maxDataSegmentSize oversized).take 128).flatten.length < oversized.length := by
  have hpieces : ∀ piece ∈ (Chunks.chunks maxDataSegmentSize oversized).take 128,
      piece.length ≤ maxDataSegmentSize :=
    fun piece hpiece => Chunks.length_le_of_mem_chunks (List.mem_of_mem_take hpiece)
  calc ((Chunks.chunks maxDataSegmentSize oversized).take 128).flatten.length
      ≤ ((Chunks.chunks maxDataSegmentSize oversized).take 128).length * maxDataSegmentSize :=
        Chunks.length_flatten_le hpieces
    _ ≤ 128 * maxDataSegmentSize := Nat.mul_le_mul_right _ (List.length_take_le _ _)
    _ < 129 * maxDataSegmentSize := by decide
    _ = oversized.length := length_oversized.symm

/-- All packets of one write arrive once and in order, the reader polls until nothing is left, and
yet the last chunk is missing. -/
theorem perfect_network_loses :
    ∃ written actions final,
      (Pair.numbered fun _ => 7).step (.pollWrite .a .plain oversized) = some written
      ∧ (∀ action ∈ actions, InSendingOrder .a action)
      ∧ Run.exec Pair.step written actions = some final
      ∧ (final .a).inFlight = []
      ∧ (final .b).stream.inboundPackets.queue = []
      ∧ (final .b).stream.receivedData = []
      ∧ (final .b).delivered ≠ oversized := by
  have hagreed := Pair.agreed_numbered fun _ => 7
  obtain ⟨packets, written, hwrite, hcarry, hwritten⟩ :=
    inTransit_of_write hagreed.fresh (hagreed.expects .a) .plain oversized
  obtain ⟨actions, state, hactions, hexec, htransit, hinFlight⟩ := exists_all_delivered hwritten
  generalize hremaining : oversized.length = remaining
  have hread := step_pollRead (htransit.ready hcarry) .plain remaining
  have hfits : (Chunks.chunks maxDataSegmentSize oversized).flatten.length ≤ remaining := by
    rw [Chunks.chunks_flatten (by decide), hremaining]
  have hchunks := length_chunks_oversized
  obtain ⟨hdelivered, hreceived, hqueue⟩ :=
    htransit.overrun hcarry hinFlight (by omega) hfits
  refine ⟨written, actions ++ [.pollRead .b .plain remaining],
    Function.update state .b ((state .b).didRead Env.plain.sending remaining), hwrite, ?_,
    Run.exec_append.mpr ⟨state, hexec, Run.exec_cons.mpr ⟨_, hread, rfl⟩⟩, hinFlight, hqueue,
    hreceived, ?_⟩
  · intro action haction
    rcases List.mem_append.mp haction with hbefore | hlast
    · exact hactions action hbefore
    · rw [List.mem_singleton.mp hlast]
      rfl
  · intro hall
    have hshort := length_oversized_front
    rw [← hdelivered] at hshort
    exact hshort.ne (congrArg List.length hall)

end UtpSafety
