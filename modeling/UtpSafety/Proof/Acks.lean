import UtpSafety.Proof.Send

/-!
# Cumulative acknowledgements

`is_suspicious` measures how far an acknowledged number lies behind `seqNumber` on the circle of
sequence numbers, while the loop over the data in flight compares plain integers. The loop therefore
counts from the oldest number in flight up to the acknowledged one as if the circle were cut between
65535 and 0 (`popAcked_number`), and 65535 acknowledges everything (`popAcked_last`).
-/

namespace UtpSafety.UtpStream

theorem popAcked_last (unackedData : List (UInt16 × Bytes)) : popAcked 65535 unackedData = [] := by
  induction unackedData with
  | nil => rfl
  | cons entry rest ih =>
      have hle : entry.1 ≤ 65535 := by
        rw [UInt16.le_iff_toNat_le]
        have hlt := entry.1.toNat_lt
        simp only [UInt16.reduceToNat]
        omega
      rw [popAcked, if_pos hle, ih]

/-- What an acknowledgement removes from numbered data, wherever the numbers lie. -/
theorem popAcked_number {ackNumber : UInt16} (hack : ackNumber ≠ 65535) (oldest : UInt16)
    (data : List Bytes) :
    popAcked ackNumber (Serial.number oldest data)
      = (Serial.number oldest data).drop (ackNumber.toNat + 1 - oldest.toNat) := by
  have hbelow : ackNumber.toNat < 65535 := by
    have hlt := ackNumber.toNat_lt
    have hne : ackNumber.toNat ≠ 65535 := fun heq => hack (UInt16.toNat_inj.mp heq)
    omega
  induction data generalizing oldest with
  | nil => simp [Serial.number, popAcked]
  | cons chunk rest ih =>
      rw [Serial.number, popAcked]
      by_cases hle : oldest ≤ ackNumber
      · have hnat := UInt16.le_iff_toNat_le.mp hle
        have hnext : (oldest + 1).toNat = oldest.toNat + 1 := by
          rw [UInt16.toNat_add, UInt16.toNat_one, Nat.mod_eq_of_lt (by omega)]
        have hdrop : ackNumber.toNat + 1 - oldest.toNat
            = ackNumber.toNat + 1 - (oldest + 1).toNat + 1 := by
          omega
        rw [if_pos hle, ih, hdrop, List.drop_succ_cons]
      · have hnat : ackNumber.toNat < oldest.toNat := by
          rw [UInt16.le_iff_toNat_le] at hle
          omega
        rw [if_neg hle, Nat.sub_eq_zero_of_le hnat, List.drop_zero]

/-- The cut between 65535 and 0 does no harm: nothing is in flight; or the packet acknowledges one
of the `inFlight` numbers, which is not less than the oldest, and if it is 65535 it is the newest; or
the packet acknowledges an earlier number, which is less than the oldest. Here `left` is how far the
acknowledged number lies behind `seqNumber`. -/
def ClearOfCut (oldest ackNumber : UInt16) (inFlight left : Nat) : Prop :=
  inFlight = 0 ∨ (left ≤ inFlight ∧ oldest ≤ ackNumber ∧ (ackNumber = 65535 → left = 1))
    ∨ (inFlight < left ∧ ackNumber < oldest)

theorem drop_eq_drop_iff {α : Type} {xs : List α} {m n : Nat} (hn : n ≤ xs.length) :
    xs.drop m = xs.drop n ↔ min m xs.length = n := by
  constructor
  · intro heq
    have hlength := congrArg List.length heq
    simp only [List.length_drop] at hlength
    omega
  · rintro rfl
    by_cases hm : m ≤ xs.length
    · rw [Nat.min_eq_left hm]
    · rw [Nat.min_eq_right (by omega), List.drop_length, List.drop_eq_nil_of_le (by omega)]

theorem left_of_accepted {stream : UtpStream} {packet : Packet}
    (htype : packet.packetType = .state) (haccepted : stream.isSuspicious packet = .ok false) :
    0 < (stream.seqNumber - packet.ackNumber).toNat
      ∧ (stream.seqNumber - packet.ackNumber).toNat ≤ stream.unackedData.length + 3 := by
  simp only [isSuspicious, htype, Except.ok.injEq, Bool.or_eq_false_iff, beq_eq_false_iff_ne,
    decide_eq_false_iff_not] at haccepted
  omega

/-- **Cumulative acknowledgements are exact where the cut does no harm, and only there.** -/
theorem handlePacket_exact_iff {stream : UtpStream} {packet : Packet} {oldest : UInt16}
    {data : List Bytes} (hlength : data.length < 32768)
    (hunacked : stream.unackedData = Serial.number oldest data)
    (hseqNumber : stream.seqNumber = Serial.offset oldest data.length)
    (htype : packet.packetType = .state) (haccepted : stream.isSuspicious packet = .ok false) :
    stream.handlePacket packet
        = .ok { stream with
            unackedData := stream.unackedData.drop (data.length
              - min data.length ((stream.seqNumber - packet.ackNumber).toNat - 1)) }
      ↔ ClearOfCut oldest packet.ackNumber data.length
          (stream.seqNumber - packet.ackNumber).toNat := by
  obtain ⟨hpositive, hnear⟩ := left_of_accepted htype haccepted
  rw [hunacked, Serial.length_number] at hnear
  have hack := packet.ackNumber.toNat_lt
  have holdest := oldest.toNat_lt
  have hleft : packet.ackNumber.toNat + (stream.seqNumber - packet.ackNumber).toNat
        = oldest.toNat + data.length
      ∨ packet.ackNumber.toNat + (stream.seqNumber - packet.ackNumber).toNat
        = oldest.toNat + data.length + 65536
      ∨ packet.ackNumber.toNat + (stream.seqNumber - packet.ackNumber).toNat + 65536
        = oldest.toNat + data.length := by
    rw [hseqNumber, UInt16.toNat_sub, Serial.toNat_offset]
    omega
  generalize (stream.seqNumber - packet.ackNumber).toNat = left at *
  have hhandle : stream.handlePacket packet = .ok { stream with
      unackedData := popAcked packet.ackNumber stream.unackedData } := by
    simp [handlePacket, htype]
  have hiff : stream.handlePacket packet = .ok { stream with
        unackedData := stream.unackedData.drop (data.length - min data.length (left - 1)) }
      ↔ popAcked packet.ackNumber (Serial.number oldest data)
        = (Serial.number oldest data).drop (data.length - min data.length (left - 1)) := by
    rw [hhandle, hunacked]
    simp
  rw [hiff]
  by_cases hlast : packet.ackNumber = 65535
  · have hnat : packet.ackNumber.toNat = 65535 := by
      rw [hlast]
      rfl
    rw [ClearOfCut, UInt16.le_iff_toNat_le, UInt16.lt_iff_toNat_lt, hnat, hlast, popAcked_last,
      eq_comm, List.drop_eq_nil_iff, Serial.length_number]
    simp only [true_implies]
    omega
  · have hnat : packet.ackNumber.toNat ≠ 65535 := fun heq => hlast (UInt16.toNat_inj.mp heq)
    rw [popAcked_number hlast, drop_eq_drop_iff (by simp), Serial.length_number, ClearOfCut,
      UInt16.le_iff_toNat_le, UInt16.lt_iff_toNat_lt]
    simp only [hlast, false_implies, and_true]
    omega

/-- A stream with two chunks in flight, numbered `first` and `first + 1`. -/
def withTwoInFlight (first : UInt16) : UtpStream :=
  (UtpStream.new (.v4 0x7F000001 9000) 8 9 (.v4 0x7F000001 9001) ⟨[], false⟩ first 41).withSent
    [[1], [2]]

def acknowledging (ackNumber : UInt16) : Packet where
  packetType := .state
  version := 1
  connectionId := 8
  timestampMicros := 0
  timestampDeltaMicros := 0
  windowSize := 0
  seqNumber := 42
  ackNumber := ackNumber
  extensions := []
  data := []

theorem handlePacket_exact_before_cut :
    ClearOfCut 7 7 2 2
      ∧ (withTwoInFlight 7).handlePacket (acknowledging 7)
        = .ok { withTwoInFlight 7 with unackedData := [(8, [2])] } := by
  have hclear : ClearOfCut 7 7 2 2 := Or.inr (Or.inl ⟨by decide, by decide, by decide⟩)
  have hunacked : (withTwoInFlight 7).unackedData = Serial.number 7 [[1], [2]] := rfl
  have hseqNumber : (withTwoInFlight 7).seqNumber = Serial.offset 7 2 := rfl
  have haccepted : (withTwoInFlight 7).isSuspicious (acknowledging 7) = .ok false := rfl
  exact ⟨hclear,
    (handlePacket_exact_iff (by decide) hunacked hseqNumber rfl haccepted).mpr hclear⟩

/-- The numbers in flight are 65535 and 0, and 0 is acknowledged: nothing is removed. -/
theorem handlePacket_inexact_across_cut :
    (withTwoInFlight 65535).unackedData = Serial.number 65535 [[1], [2]]
      ∧ (withTwoInFlight 65535).seqNumber = Serial.offset 65535 2
      ∧ (withTwoInFlight 65535).isSuspicious (acknowledging 0) = .ok false
      ∧ ((withTwoInFlight 65535).seqNumber - (acknowledging 0).ackNumber).toNat = 1
      ∧ (withTwoInFlight 65535).handlePacket (acknowledging 0) = .ok (withTwoInFlight 65535)
      ∧ (withTwoInFlight 65535).handlePacket (acknowledging 0)
        ≠ .ok { withTwoInFlight 65535 with
            unackedData := (withTwoInFlight 65535).unackedData.drop (2 - min 2 (1 - 1)) } := by
  refine ⟨rfl, rfl, rfl, rfl, rfl, ?_⟩
  decide

end UtpSafety.UtpStream
