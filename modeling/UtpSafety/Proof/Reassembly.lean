import Mathlib.Order.Bounds.Basic
import UtpSafety.Proof.Solo

/-!
# Reassembly depends only on what arrived

While a stream takes data packets out of its mailbox that are numbered among the next 128 numbers
after the point `a` where it began, it keeps the following in order: it has assembled the payloads of
the first so many numbers, and what it holds beyond them is what has arrived beyond them
(`Reassembled`). The order in which the packets come, the duplicates among them and the calls that
take them leave no trace in this.
-/

namespace UtpSafety

open UtpStream

/-- A data packet with this number and payload. -/
structure Packet.Carries (packet : Packet) (number : UInt16) (data : Bytes) : Prop where
  packetType : packet.packetType = .data
  seqNumber : packet.seqNumber = number
  data : packet.data = data

/-- The data packets are numbered among the 128 numbers after `a`, and equal numbers carry equal
payloads. -/
structure Window (a : UInt16) (packets : List Packet) : Prop where
  near : ∀ packet ∈ packets, packet.packetType = .data →
    ∃ i < 128, packet.seqNumber = Serial.offset a (i + 1)
  same : ∀ packet ∈ packets, ∀ packet' ∈ packets, packet.packetType = .data →
    packet'.packetType = .data → packet.seqNumber = packet'.seqNumber → packet.data = packet'.data

theorem Window.mono {a : UInt16} {packets packets' : List Packet} (hwindow : Window a packets)
    (hsubset : packets' ⊆ packets) : Window a packets' where
  near packet hpacket := hwindow.near packet (hsubset hpacket)
  same packet hpacket packet' hpacket' := hwindow.same packet (hsubset hpacket) packet' (hsubset hpacket')

/-- The payloads `run` of the numbers after `a` are assembled, and the packets that were taken with
higher numbers are held. -/
structure Reassembled (a : UInt16) (old : Bytes) (taken : List Packet) (run : List Bytes)
    (stream : UtpStream) (delivered : Bytes) : Prop where
  ackNumber : stream.ackNumber = Serial.offset a run.length
  length_le : run.length ≤ 128
  present : ∀ i data, run[i]? = some data →
    ∃ packet ∈ taken, packet.Carries (Serial.offset a (i + 1)) data
  bytes : delivered ++ stream.receivedData = old ++ run.flatten
  lookup : ∀ number data, stream.inboundData.lookup number = some data →
    ∃ packet ∈ taken, packet.Carries number data
  waiting : ∀ packet ∈ taken, packet.packetType = .data → ∀ i, run.length ≤ i → i < 128 →
    packet.seqNumber = Serial.offset a (i + 1) →
    stream.inboundData.lookup packet.seqNumber = some packet.data

theorem UtpStream.isSuspicious_window {a : UInt16} {stream : UtpStream} {packet : Packet} {i k : Nat}
    (hack : stream.ackNumber = Serial.offset a k) (hk : k ≤ 128) (htype : packet.packetType = .data)
    (hnumber : packet.seqNumber = Serial.offset a (i + 1)) (hi : i < 128) :
    stream.isSuspicious packet = .ok false := by
  simp only [isSuspicious, htype, hack, hnumber, Except.ok.injEq, Bool.and_eq_false_iff,
    decide_eq_false_iff_not, UInt16.lt_iff_toNat_lt, gt_iff_lt, UInt16.reduceToNat]
  by_cases hbehind : i + 1 ≤ k
  · left
    rw [Serial.toNat_offset_sub_offset a hbehind (by omega)]
    omega
  · right
    rw [Serial.toNat_offset_sub_offset a (by omega) (by omega)]
    omega

namespace Reassembled

variable {a : UInt16} {old : Bytes} {taken : List Packet} {run : List Bytes} {stream : UtpStream}
  {delivered : Bytes}

theorem congr (hreassembled : Reassembled a old taken run stream delivered) {stream' : UtpStream}
    (hack : stream'.ackNumber = stream.ackNumber)
    (hreceived : stream'.receivedData = stream.receivedData)
    (hinbound : stream'.inboundData = stream.inboundData) :
    Reassembled a old taken run stream' delivered where
  ackNumber := hack.trans hreassembled.ackNumber
  length_le := hreassembled.length_le
  present := hreassembled.present
  bytes := by
    rw [hreceived]
    exact hreassembled.bytes
  lookup := by
    rw [hinbound]
    exact hreassembled.lookup
  waiting := by
    rw [hinbound]
    exact hreassembled.waiting

theorem skip (hreassembled : Reassembled a old taken run stream delivered) {packet : Packet}
    (htype : packet.packetType ≠ .data) :
    Reassembled a old (taken ++ [packet]) run stream delivered where
  ackNumber := hreassembled.ackNumber
  length_le := hreassembled.length_le
  present i data hdata := by
    obtain ⟨packet', hmem, hcarries⟩ := hreassembled.present i data hdata
    exact ⟨packet', List.mem_append_left _ hmem, hcarries⟩
  bytes := hreassembled.bytes
  lookup number data hlookup := by
    obtain ⟨packet', hmem, hcarries⟩ := hreassembled.lookup number data hlookup
    exact ⟨packet', List.mem_append_left _ hmem, hcarries⟩
  waiting packet' hmem htype' := by
    rcases List.mem_append.mp hmem with hold | hnew
    · exact hreassembled.waiting packet' hold htype'
    · rw [List.mem_singleton.mp hnew] at htype'
      exact absurd htype' htype

theorem handOut (hreassembled : Reassembled a old taken run stream delivered) (remaining : Nat) :
    Reassembled a old taken run { stream with receivedData := stream.receivedData.drop remaining }
      (delivered ++ stream.receivedData.take remaining) where
  ackNumber := hreassembled.ackNumber
  length_le := hreassembled.length_le
  present := hreassembled.present
  bytes := by
    rw [List.append_assoc, List.take_append_drop]
    exact hreassembled.bytes
  lookup := hreassembled.lookup
  waiting := hreassembled.waiting

theorem insert (hreassembled : Reassembled a old taken run stream delivered) {stream' : UtpStream}
    {packet : Packet} (hwindow : Window a (taken ++ [packet])) (htype : packet.packetType = .data)
    (hack : stream'.ackNumber = stream.ackNumber)
    (hreceived : stream'.receivedData = stream.receivedData)
    (hinbound : stream'.inboundData = stream.inboundData.insert packet.seqNumber packet.data) :
    Reassembled a old (taken ++ [packet]) run stream' delivered where
  ackNumber := hack.trans hreassembled.ackNumber
  length_le := hreassembled.length_le
  present i data hdata := by
    obtain ⟨packet', hmem, hcarries⟩ := hreassembled.present i data hdata
    exact ⟨packet', List.mem_append_left _ hmem, hcarries⟩
  bytes := by
    rw [hreceived]
    exact hreassembled.bytes
  lookup number data hlookup := by
    rw [hinbound] at hlookup
    by_cases hnumber : number = packet.seqNumber
    · subst hnumber
      rw [Finmap.lookup_insert] at hlookup
      exact ⟨packet, by simp, htype, rfl, Option.some.inj hlookup⟩
    · rw [Finmap.lookup_insert_of_ne _ hnumber] at hlookup
      obtain ⟨packet', hmem, hcarries⟩ := hreassembled.lookup number data hlookup
      exact ⟨packet', List.mem_append_left _ hmem, hcarries⟩
  waiting packet' hmem htype' i hi hlt hnumber := by
    rw [hinbound]
    by_cases hsame : packet'.seqNumber = packet.seqNumber
    · rw [hsame, Finmap.lookup_insert]
      exact congrArg some (hwindow.same packet (by simp) packet' hmem htype htype' hsame.symm)
    · rw [Finmap.lookup_insert_of_ne _ hsame]
      rcases List.mem_append.mp hmem with hold | hnew
      · exact hreassembled.waiting packet' hold htype' i hi hlt hnumber
      · rw [List.mem_singleton.mp hnew] at hsame
        exact absurd rfl hsame

theorem absorb (hreassembled : Reassembled a old taken run stream delivered) {packet : Packet}
    (hwindow : Window a (taken ++ [packet])) (receivedAt : UInt32) :
    Reassembled a old (taken ++ [packet]) run (stream.absorb receivedAt packet) delivered := by
  by_cases htype : packet.packetType = .data
  · obtain ⟨i, hi, hnumber⟩ := hwindow.near packet (by simp) htype
    have hsuspicious := isSuspicious_window hreassembled.ackNumber hreassembled.length_le htype
      hnumber hi
    apply hreassembled.insert hwindow htype <;> simp [UtpStream.absorb, hsuspicious, htype]
  · apply (hreassembled.skip htype).congr
    · rw [absorb_frame]
    · rw [absorb_frame]
    · unfold UtpStream.absorb
      split_ifs
      · split
        · rename_i hdata
          exact absurd hdata htype
        · rfl
        · rfl
      · rfl

theorem absorbQueue (env : Env) {queue : List Packet}
    (hreassembled : Reassembled a old taken run stream delivered)
    (hwindow : Window a (taken ++ queue.take (env.taken queue))) :
    Reassembled a old (taken ++ queue.take (env.taken queue)) run
      (UtpStream.absorbQueue env stream queue) delivered := by
  induction queue generalizing taken stream with
  | nil => simpa [UtpStream.absorbQueue] using hreassembled
  | cons packet rest ih =>
      rw [UtpStream.absorbQueue]
      split_ifs with hyields
      · simpa [Env.taken, hyields] using hreassembled
      · have htaken : taken ++ (packet :: rest).take (env.taken (packet :: rest))
            = taken ++ [packet] ++ rest.take (env.taken rest) := by
          simp [Env.taken, hyields]
        rw [htaken] at hwindow ⊢
        have hfirst : Window a (taken ++ [packet]) :=
          hwindow.mono (List.subset_append_left _ _)
        exact ih (hreassembled.absorb hfirst _) hwindow

/-- The numbers of a run that could be assembled next lie in the window. -/
theorem run_length_le (hreassembled : Reassembled a old taken run stream delivered)
    (hwindow : Window a taken) {result : UtpStream} {more : List Bytes}
    (hassembled : Assembled stream result more) : run.length + more.length ≤ 128 := by
  by_contra hlong
  have hlength := hreassembled.length_le
  have hbeyond : 128 - run.length < more.length := by omega
  have hlookup := hassembled.present _ _ (List.getElem?_eq_getElem hbeyond)
  obtain ⟨packet, hmem, hcarries⟩ := hreassembled.lookup _ _ hlookup
  obtain ⟨j, hj, hnumber⟩ := hwindow.near packet hmem hcarries.packetType
  have hsame : Serial.offset a 129 = Serial.offset a (j + 1) := by
    rw [← hnumber, hcarries.seqNumber, hreassembled.ackNumber, Serial.offset_add_one,
      Serial.offset_offset]
    congr 1
    omega
  have := Serial.offset_injective (by omega) (by omega) hsame
  omega

/-- Assembly goes as far as the packets that were taken allow. -/
theorem assemble (hreassembled : Reassembled a old taken run stream delivered)
    (hwindow : Window a taken) :
    ∃ run', Reassembled a old taken run' stream.assemble delivered
      ∧ ∀ packet ∈ taken, packet.packetType = .data →
        packet.seqNumber ≠ Serial.offset a (run'.length + 1) := by
  obtain ⟨more, hassembled⟩ := exists_assembled stream
  have hbound := hreassembled.run_length_le hwindow hassembled
  have hnext : ∀ i, Serial.offset (stream.ackNumber + 1) i = Serial.offset a (run.length + i + 1) := by
    intro i
    rw [hreassembled.ackNumber, Serial.offset_add_one, Serial.offset_offset]
    congr 1
    omega
  have hack : stream.assemble.ackNumber = Serial.offset a (run ++ more).length := by
    rw [hassembled.frame, hreassembled.ackNumber, Serial.offset_offset, List.length_append]
  have hwaiting : ∀ packet ∈ taken, packet.packetType = .data → ∀ i, (run ++ more).length ≤ i →
      i < 128 → packet.seqNumber = Serial.offset a (i + 1) →
      stream.assemble.inboundData.lookup packet.seqNumber = some packet.data := by
    intro packet hmem htype i hi hlt hnumber
    rw [List.length_append] at hi
    rw [hassembled.kept]
    · exact hreassembled.waiting packet hmem htype i (by omega) hlt hnumber
    · intro j hj hsame
      rw [hnumber, hnext] at hsame
      have := Serial.offset_injective (by omega) (by omega) hsame
      omega
  refine ⟨run ++ more, ⟨hack, ?_, ?_, ?_, ?_, hwaiting⟩, ?_⟩
  · rw [List.length_append]
    exact hbound
  · intro i data hdata
    by_cases hfirst : i < run.length
    · rw [List.getElem?_append_left hfirst] at hdata
      exact hreassembled.present i data hdata
    · rw [List.getElem?_append_right (by omega)] at hdata
      have hlookup := hassembled.present _ data hdata
      rw [hnext, Nat.add_sub_cancel' (by omega)] at hlookup
      exact hreassembled.lookup _ data hlookup
  · rw [hassembled.frame]
    simp only [List.flatten_append, ← List.append_assoc, hreassembled.bytes]
  · intro number data hlookup
    exact hreassembled.lookup number data (hassembled.lookup hlookup)
  · intro packet hmem htype hnumber
    obtain ⟨j, hj, hnear⟩ := hwindow.near packet hmem htype
    have hin : (run ++ more).length < 128 := by
      rw [hnumber] at hnear
      have := Serial.offset_injective (by rw [List.length_append]; omega) (by omega) hnear
      omega
    have hheld := hwaiting packet hmem htype _ (le_refl _) hin hnumber
    have hnone := hassembled.maximal
    rw [hack, Serial.offset_add_one, ← hnumber, hheld] at hnone
    cases hnone

end Reassembled

/-! ### Whole runs -/

/-- The actions of a stream that only receives. -/
def SoloAction.Reading : SoloAction → Prop
  | .arrive packet => packet.Handled
  | .pollRead _ _ => True
  | .pollFlush _ => True
  | .close => False
  | .pollWrite _ _ => False

namespace Solo

/-- An open mailbox of data and state packets, and a stream that is not shut down. -/
structure Open (solo : Solo) : Prop where
  handled : solo.Handled
  opened : solo.stream.inboundPackets.closed = false
  running : solo.stream.isShutdown = false

variable {solo solo' : Solo} {action : SoloAction}

theorem Open.drained (hopen : solo.Open) (env : Env) :
    (solo.drained env).2 = false ∧ (solo.drained env).1.inboundPackets.closed = false
      ∧ (solo.drained env).1.isShutdown = false := by
  have hended : (solo.drained env).2 = false := by
    simp [Solo.drained, UtpStream.drained, hopen.opened]
  refine ⟨hended, ?_, ?_⟩
  · rw [queue_drained]
    exact hopen.opened
  · simp only [Solo.drained] at hended ⊢
    rw [drained_frame, hended]
    simp [hopen.running]

theorem isShutdown_assemble (stream : UtpStream) : stream.assemble.isShutdown = stream.isShutdown := by
  rw [assemble_frame]

theorem Open.moved (hopen : solo.Open) (hreading : action.Reading) (hmoved : Moved solo action solo') :
    solo'.Open := by
  have hhandled := hopen.handled.moved hmoved
  cases hmoved with
  | received packet _ _ => exact ⟨hhandled, hopen.opened, hopen.running⟩
  | closed => exact absurd hreading id
  | wrote env buf => exact absurd hreading id
  | ended env remaining hended =>
      exact ⟨hhandled, (hopen.drained env).2.1, (hopen.drained env).2.2⟩
  | refused env remaining hended hqueues =>
      refine ⟨hhandled, ?_, ?_⟩
      · rw [inboundPackets_assemble]
        exact (hopen.drained env).2.1
      · rw [isShutdown_assemble]
        exact (hopen.drained env).2.2
  | didRead env remaining hended hqueues =>
      refine ⟨hhandled, ?_, ?_⟩
      · simp only [Solo.didRead, inboundPackets_assemble]
        exact (hopen.drained env).2.1
      · simp only [Solo.didRead, isShutdown_assemble]
        exact (hopen.drained env).2.2
  | flushed env => exact ⟨hhandled, (hopen.drained env).2.1, (hopen.drained env).2.2⟩

theorem reassembled_drained {a : UInt16} {old : Bytes} {taken : List Packet} {run : List Bytes}
    (hreassembled : Reassembled a old taken run solo.stream solo.delivered) (env : Env)
    (hwindow : Window a (taken ++ solo.taken env)) :
    Reassembled a old (taken ++ solo.taken env) run (solo.drained env).1 solo.delivered := by
  apply (hreassembled.absorbQueue env hwindow).congr
  · rw [Solo.drained, drained_frame, absorbQueue_frame]
  · rw [Solo.drained, drained_frame, absorbQueue_frame]
  · rw [Solo.drained, drained_frame]

/-- The packets of the mailbox are the last that arrived, and the ones before them are
reassembled. -/
structure Restored (a : UInt16) (old : Bytes) (taken : List Packet) (run : List Bytes) (solo : Solo) :
    Prop where
  arrived : solo.arrived = taken ++ solo.stream.inboundPackets.queue
  reassembled : Reassembled a old taken run solo.stream solo.delivered

theorem Restored.arrived_drained {a : UInt16} {old : Bytes} {taken : List Packet} {run : List Bytes}
    (hrestored : Restored a old taken run solo) (env : Env) :
    solo.arrived = (taken ++ solo.taken env) ++ (solo.drained env).1.inboundPackets.queue := by
  rw [List.append_assoc, taken_append]
  exact hrestored.arrived

theorem Restored.read {a : UInt16} {old : Bytes} {taken : List Packet} {run : List Bytes}
    (hopen : solo.Open) (hwindow : Window a solo.arrived) (hrestored : Restored a old taken run solo)
    {env : Env} {remaining : Nat} (hmoved : Moved solo (.pollRead env remaining) solo') :
    ∃ taken' run', Restored a old taken' run' solo'
      ∧ ∀ packet ∈ taken', packet.packetType = .data →
        packet.seqNumber ≠ Serial.offset a (run'.length + 1) := by
  have harrived := hrestored.arrived_drained env
  have hwindow' : Window a (taken ++ solo.taken env) := by
    rw [harrived] at hwindow
    exact hwindow.mono (List.subset_append_left _ _)
  obtain ⟨run', hassembled, hmaximal⟩ :=
    (reassembled_drained hrestored.reassembled env hwindow').assemble hwindow'
  cases hmoved with
  | ended _ _ hended =>
      rw [(hopen.drained env).1] at hended
      cases hended
  | refused _ _ hended hqueues =>
      refine ⟨taken ++ solo.taken env, run', ⟨?_, hassembled⟩, hmaximal⟩
      rw [inboundPackets_assemble]
      exact harrived
  | didRead _ _ hended hqueues =>
      refine ⟨taken ++ solo.taken env, run', ⟨?_, hassembled.handOut remaining⟩, hmaximal⟩
      simp only [Solo.didRead, inboundPackets_assemble]
      exact harrived

theorem Restored.moved {a : UInt16} {old : Bytes} {taken : List Packet} {run : List Bytes}
    (hopen : solo.Open) (hreading : action.Reading) (hwindow : Window a solo.arrived)
    (hrestored : Restored a old taken run solo) (hmoved : Moved solo action solo') :
    ∃ taken' run', Restored a old taken' run' solo' := by
  cases action with
  | arrive packet =>
      cases hmoved
      refine ⟨taken, run, ?_, hrestored.reassembled.congr rfl rfl rfl⟩
      simp only [Solo.received, hrestored.arrived, List.append_assoc]
  | close => exact absurd hreading id
  | pollWrite env buf => exact absurd hreading id
  | pollRead env remaining =>
      obtain ⟨taken', run', hread, -⟩ := hrestored.read hopen hwindow hmoved
      exact ⟨taken', run', hread⟩
  | pollFlush env =>
      cases hmoved
      have harrived := hrestored.arrived_drained env
      refine ⟨taken ++ solo.taken env, run, harrived,
        reassembled_drained hrestored.reassembled env ?_⟩
      rw [harrived] at hwindow
      exact hwindow.mono (List.subset_append_left _ _)

end Solo

end UtpSafety
