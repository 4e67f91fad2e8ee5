import UtpSafety.Proof.Reassembly

/-!
# What a stream holds for later

The acceptance window of `is_suspicious` reaches 128 numbers back from `ackNumber` as well as ahead of
it, and `handle_packet` holds whatever was accepted. A late copy of a payload that has been assembled
is therefore held as if it were new, and nothing ever removes it but the numbers coming round. As long
as no poll takes such a copy, all that a stream holds is ahead of its `ackNumber` (`HoldsAhead`).
-/

namespace UtpSafety

open UtpStream

/-- Everything held is numbered 1 to 128 places ahead of `ackNumber`. -/
def UtpStream.HoldsAhead (stream : UtpStream) : Prop :=
  ∀ number ∈ stream.inboundData,
    1 ≤ (number - stream.ackNumber).toNat ∧ (number - stream.ackNumber).toNat ≤ 128

/-- The data packet is numbered `ackNumber` or up to 128 places behind it. -/
def UtpStream.IsLate (stream : UtpStream) (packet : Packet) : Prop :=
  packet.packetType = .data ∧ (stream.ackNumber - packet.seqNumber).toNat ≤ 128

instance (stream : UtpStream) (packet : Packet) : Decidable (stream.IsLate packet) :=
  inferInstanceAs (Decidable (_ ∧ _))

namespace UtpStream

variable {stream : UtpStream}

theorem HoldsAhead.congr {stream' : UtpStream} (hahead : stream.HoldsAhead)
    (hack : stream'.ackNumber = stream.ackNumber)
    (hinbound : stream'.inboundData = stream.inboundData) : stream'.HoldsAhead := by
  unfold HoldsAhead
  rw [hack, hinbound]
  exact hahead

theorem ahead_of_accepted {packet : Packet} (htype : packet.packetType = .data)
    (hlate : ¬stream.IsLate packet) (haccepted : stream.isSuspicious packet = .ok false) :
    1 ≤ (packet.seqNumber - stream.ackNumber).toNat
      ∧ (packet.seqNumber - stream.ackNumber).toNat ≤ 128 := by
  have hleft : ¬(stream.ackNumber - packet.seqNumber).toNat ≤ 128 :=
    fun hnear => hlate ⟨htype, hnear⟩
  simp only [isSuspicious, htype, Except.ok.injEq, Bool.and_eq_false_iff, decide_eq_false_iff_not,
    gt_iff_lt, UInt16.lt_iff_toNat_lt, UInt16.reduceToNat] at haccepted
  simp only [UInt16.toNat_sub] at hleft haccepted ⊢
  have hseq := packet.seqNumber.toNat_lt
  have hack := stream.ackNumber.toNat_lt
  omega

theorem HoldsAhead.absorb (hahead : stream.HoldsAhead) {packet : Packet}
    (hlate : ¬stream.IsLate packet) (receivedAt : UInt32) :
    (stream.absorb receivedAt packet).HoldsAhead := by
  by_cases haccepted : stream.isSuspicious packet = .ok false
  · unfold UtpStream.absorb
    rw [if_pos haccepted]
    split
    · rename_i htype
      intro number hnumber
      rcases Finmap.mem_insert.mp hnumber with rfl | hold
      · exact ahead_of_accepted htype hlate haccepted
      · exact hahead number hold
    · exact hahead.congr rfl rfl
    · exact hahead
  · unfold UtpStream.absorb
    rw [if_neg haccepted]
    exact hahead

theorem HoldsAhead.absorbQueue (hahead : stream.HoldsAhead) (env : Env) {queue : List Packet}
    (hlate : ∀ packet ∈ queue.take (env.taken queue), ¬stream.IsLate packet) :
    (UtpStream.absorbQueue env stream queue).HoldsAhead := by
  have hkept : (UtpStream.absorbQueue env stream queue).ackNumber = stream.ackNumber
      ∧ (UtpStream.absorbQueue env stream queue).HoldsAhead := by
    apply absorbQueue_invariant
      (motive := fun absorbed => absorbed.ackNumber = stream.ackNumber ∧ absorbed.HoldsAhead)
    · rintro absorbed receivedAt packet hpacket ⟨hack, hahead⟩
      refine ⟨?_, hahead.absorb ?_ receivedAt⟩
      · rw [absorb_frame]
        exact hack
      · have hnot := hlate packet hpacket
        unfold IsLate at hnot ⊢
        rw [hack]
        exact hnot
    · exact ⟨rfl, hahead⟩
  exact hkept.2

/-- Assembly takes what is next, so it leaves what is further ahead. -/
theorem HoldsAhead.assemble (hahead : stream.HoldsAhead) : stream.assemble.HoldsAhead := by
  obtain ⟨run, hassembled⟩ := exists_assembled stream
  have hnext : ∀ i, Serial.offset (stream.ackNumber + 1) i = Serial.offset stream.ackNumber (i + 1) :=
    Serial.offset_add_one_left stream.ackNumber
  have hdistance : ∀ i < 65536, (Serial.offset stream.ackNumber i - stream.ackNumber).toNat = i := by
    intro i hi
    simpa using Serial.toNat_offset_sub_offset stream.ackNumber (Nat.zero_le i) hi
  have hlength : run.length ≤ 128 := by
    by_contra hlong
    have hpresent := hassembled.present 128 _ (List.getElem?_eq_getElem (by omega))
    have hfar := hahead _ (Finmap.mem_of_lookup_eq_some hpresent)
    rw [hnext, hdistance _ (by omega)] at hfar
    omega
  intro number hnumber
  obtain ⟨data, hlookup⟩ := Finmap.mem_iff.mp hnumber
  have hbefore := hahead number (Finmap.mem_of_lookup_eq_some (hassembled.lookup hlookup))
  have hoffset := Serial.offset_toNat_sub stream.ackNumber number
  generalize (number - stream.ackNumber).toNat = distance at hbefore hoffset
  subst hoffset
  have hbeyond : run.length < distance := by
    by_contra hwithin
    have hremoved := hassembled.removed (distance - 1) (by omega)
    rw [hnext, Nat.sub_add_cancel hbefore.1, hlookup] at hremoved
    cases hremoved
  have hack : stream.assemble.ackNumber = Serial.offset stream.ackNumber run.length := by
    rw [hassembled.frame]
  rw [hack, Serial.toNat_offset_sub_offset _ hbeyond.le (by omega)]
  omega

end UtpStream

namespace Solo

/-- No poll takes a late copy. -/
def NoLateCopy (solo : Solo) : SoloAction → Prop
  | .pollRead env _ => ∀ packet ∈ solo.taken env, ¬solo.stream.IsLate packet
  | .pollFlush env => ∀ packet ∈ solo.taken env, ¬solo.stream.IsLate packet
  | _ => True

instance : ∀ (solo : Solo) (action : SoloAction), Decidable (solo.NoLateCopy action)
  | solo, .pollRead env _ =>
      inferInstanceAs (Decidable (∀ packet ∈ solo.taken env, ¬solo.stream.IsLate packet))
  | solo, .pollFlush env =>
      inferInstanceAs (Decidable (∀ packet ∈ solo.taken env, ¬solo.stream.IsLate packet))
  | _, .arrive _ => isTrue trivial
  | _, .close => isTrue trivial
  | _, .pollWrite _ _ => isTrue trivial

variable {solo solo' : Solo} {action : SoloAction}

theorem holdsAhead_drained (hahead : solo.stream.HoldsAhead) {env : Env}
    (hlate : ∀ packet ∈ solo.taken env, ¬solo.stream.IsLate packet) :
    (solo.drained env).1.HoldsAhead := by
  apply (hahead.absorbQueue env hlate).congr
  · rw [Solo.drained, drained_frame, absorbQueue_frame]
  · rw [Solo.drained, drained_frame]

theorem holdsAhead_moved (hahead : solo.stream.HoldsAhead) (hlate : solo.NoLateCopy action)
    (hmoved : Moved solo action solo') : solo'.stream.HoldsAhead := by
  cases hmoved with
  | received packet _ _ => exact hahead.congr rfl rfl
  | closed => exact hahead.congr rfl rfl
  | wrote env buf =>
      obtain ⟨sent, hstream⟩ := exists_pollWrite_eq_withSent env solo.stream buf
      simp only [Solo.wrote, Solo.after, hstream]
      exact hahead.congr rfl rfl
  | ended env remaining _ => exact holdsAhead_drained hahead hlate
  | refused env remaining _ _ => exact (holdsAhead_drained hahead hlate).assemble
  | didRead env remaining _ _ => exact (holdsAhead_drained hahead hlate).assemble.congr rfl rfl
  | flushed env => exact holdsAhead_drained hahead hlate

end Solo

/-- **Without late copies, all that is held is ahead.** In every state of every run in which no poll
takes a data packet numbered `ackNumber` or up to 128 places behind it, the entries of `inboundData`
are numbered 1 to 128 places ahead of `ackNumber`. -/
theorem held_ahead_of_no_late_copy {stream : UtpStream} (hempty : stream.inboundData = ∅)
    (hqueue : ∀ packet ∈ stream.inboundPackets.queue, packet.Handled) {actions : List SoloAction}
    {final : Solo} (hall : Run.All Solo.step Solo.NoLateCopy (Solo.start stream) actions)
    (hexec : Run.exec Solo.step (Solo.start stream) actions = some final) :
    ∀ number ∈ final.stream.inboundData, 1 ≤ (number - final.stream.ackNumber).toNat
      ∧ (number - final.stream.ackNumber).toNat ≤ 128 := by
  have hhandled : (Solo.start stream).Handled := hqueue
  have hstart : (Solo.start stream).stream.HoldsAhead := by
    intro number hnumber
    simp only [Solo.start, hempty] at hnumber
    exact absurd hnumber Finmap.notMem_empty
  have hfinal : final.stream.HoldsAhead :=
    Solo.invariant_of_exec (motive := fun state => state.stream.HoldsAhead)
      (fun _ _ _ hahead hlate hmoved => Solo.holdsAhead_moved hahead hlate hmoved) hhandled hstart
      hall hexec
  exact hfinal

/-- A packet that is early, one that is next and a poll between them. -/
def earlyActions : List SoloAction :=
  [.arrive (carrying 44 [3]), .pollFlush .plain, .arrive (carrying 42 [1]), .pollRead .plain 8]

def early : Solo :=
  (Run.exec Solo.step (Solo.start (expecting 41)) earlyActions).get (by decide)

theorem held_ahead_of_no_late_copy_early :
    Run.exec Solo.step (Solo.start (expecting 41)) earlyActions = some early
      ∧ early.stream.ackNumber = 42
      ∧ early.stream.inboundData.lookup 44 = some [3]
      ∧ ∀ number ∈ early.stream.inboundData, 1 ≤ (number - early.stream.ackNumber).toNat
        ∧ (number - early.stream.ackNumber).toNat ≤ 128 := by
  have hexec : Run.exec Solo.step (Solo.start (expecting 41)) earlyActions = some early :=
    (Option.some_get _).symm
  exact ⟨hexec, by decide, by decide,
    @held_ahead_of_no_late_copy (expecting 41) rfl (List.forall_mem_nil _) _ _ (by decide) hexec⟩

/-- A packet is assembled, and then a copy of it arrives. -/
def lateCopyActions : List SoloAction :=
  [.arrive (carrying 42 [7]), .pollRead .plain 8, .arrive (carrying 42 [7]), .pollRead .plain 8]

def lateCopied : Solo :=
  (Run.exec Solo.step (Solo.start (expecting 41)) lateCopyActions).get (by decide)

theorem held_behind_after_late_copy :
    ∃ final, Run.exec Solo.step (Solo.start (expecting 41)) lateCopyActions = some final
      ∧ final.stream.inboundPackets.queue = []
      ∧ final.delivered = [7]
      ∧ final.stream.ackNumber = 42
      ∧ ¬∀ number ∈ final.stream.inboundData, 1 ≤ (number - final.stream.ackNumber).toNat
        ∧ (number - final.stream.ackNumber).toNat ≤ 128 := by
  have hexec : Run.exec Solo.step (Solo.start (expecting 41)) lateCopyActions = some lateCopied :=
    (Option.some_get _).symm
  refine ⟨lateCopied, hexec, by decide, by decide, by decide, fun hahead => ?_⟩
  have hlookup : lateCopied.stream.inboundData.lookup 42 = some [7] := by decide
  exact absurd (hahead 42 (Finmap.mem_of_lookup_eq_some hlookup)) (by decide)

end UtpSafety
