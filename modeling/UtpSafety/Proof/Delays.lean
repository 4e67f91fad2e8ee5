import Mathlib.Data.List.Induction
import UtpSafety.Congestion
import UtpSafety.Lib.Residue

/-!
# The delay of a packet against the lowest delay

The clocks of two hosts differ by some constant. A sample is the difference of a reading of each, so it
is off by this constant, and the difference of two samples is not: reduced by the lowest sample, a
sample says how much longer than the fastest packet the last one took. The samples are residues,
though, and the lowest sample belongs to the fastest packet only as long as the delays, shifted by the
constant, do not pass a multiple of `2 ^ 32`.
-/

namespace UtpSafety

/-- A packet on its way from a host to another, whose clock is ahead by `offset` microseconds. -/
structure Transmission (offset : Int) where
  packet : Packet
  delay : Nat
  /-- The clock of the sender when it stamps the packet. -/
  sentAt : Nat
  /-- The clock of the receiver when the packet arrives. -/
  receivedAt : Nat
  stamped : packet.timestampMicros = currentMicros sentAt
  clocks : (receivedAt : Int) = sentAt + delay + offset

namespace CongestionController

/-- How far the last sample lies above the base delay. -/
def relativeDelay (controller : CongestionController) : Option UInt32 :=
  controller.localDelaySamples.getLast?.map (· - controller.localBaseDelay)

/-- The base delay is the lowest sample, and as high as possible before the first. -/
structure Tracks (controller : CongestionController) : Prop where
  le : ∀ sample ∈ controller.localDelaySamples, controller.localBaseDelay ≤ sample
  seen : controller.localBaseDelay = 0xFFFFFFFF
    ∨ controller.localBaseDelay ∈ controller.localDelaySamples

theorem tracks_new : new.Tracks where
  le := by simp [new]
  seen := Or.inl rfl

namespace Tracks

variable {controller : CongestionController} (htracks : controller.Tracks)
include htracks

theorem updateState (receivedAt : UInt32) (receivedPacket : Packet) :
    (controller.updateState receivedAt receivedPacket).Tracks := by
  constructor
  · intro sample hsample
    rcases List.mem_append.mp hsample with hearlier | hlast
    · exact UInt32.le_trans Std.min_le_left (htracks.le sample hearlier)
    · obtain rfl := List.mem_singleton.mp hlast
      exact Std.min_le_right
  · simp only [CongestionController.updateState, List.mem_append, List.mem_singleton]
    rcases Std.min_eq_or (a := controller.localBaseDelay)
      (b := receivedAt - receivedPacket.timestampMicros) with hkept | hlowered
    · rw [hkept]
      exact htracks.seen.imp_right Or.inl
    · exact Or.inr (Or.inr hlowered)

theorem mem_of_nonempty (hsamples : controller.localDelaySamples ≠ []) :
    controller.localBaseDelay ∈ controller.localDelaySamples := by
  rcases htracks.seen with hhighest | hmem
  · obtain ⟨sample, hsample⟩ := List.exists_mem_of_ne_nil _ hsamples
    have hle := UInt32.le_iff_toNat_le.mp (htracks.le sample hsample)
    have hmax : (0xFFFFFFFF : UInt32).toNat = 2 ^ 32 - 1 := rfl
    have hlt := sample.toNat_lt
    have hsame : controller.localBaseDelay = sample := by
      apply UInt32.toNat_inj.mp
      rw [hhighest, hmax] at hle ⊢
      omega
    rw [hsame]
    exact hsample
  · exact hmem

end Tracks

end CongestionController

namespace Transmission

variable {offset : Int}

def sample (transmission : Transmission offset) : UInt32 :=
  currentMicros transmission.receivedAt - transmission.packet.timestampMicros

/-- The controller of a stream that has received the packets. -/
def observe (transmissions : List (Transmission offset)) : CongestionController :=
  transmissions.foldl (fun controller transmission =>
    controller.updateState (currentMicros transmission.receivedAt) transmission.packet) .new

/-- How much longer than the fastest packet the last one took. -/
def lateness (transmissions : List (Transmission offset)) : Option Nat := do
  let last ← (transmissions.map delay).getLast?
  let lowest ← (transmissions.map delay).min?
  return last - lowest

theorem toNat_sample (transmission : Transmission offset) :
    (transmission.sample.toNat : Int) = (transmission.delay + offset) % 2 ^ 32 := by
  have hclocks := transmission.clocks
  rw [sample, transmission.stamped, Residue.toNat_sub_eq_emod, currentMicros, currentMicros,
    UInt32.toNat_ofNat', UInt32.toNat_ofNat']
  omega

/-- The run of the controller: the base delay tracks the samples, and these are the samples of the
packets. -/
theorem observe_spec (transmissions : List (Transmission offset)) :
    (observe transmissions).Tracks
      ∧ (observe transmissions).localDelaySamples = transmissions.map sample := by
  induction transmissions using List.reverseRecOn with
  | nil => exact ⟨CongestionController.tracks_new, rfl⟩
  | append_singleton transmissions transmission ih =>
      obtain ⟨htracks, hsamples⟩ := ih
      rw [observe, List.foldl_append]
      refine ⟨htracks.updateState _ _, ?_⟩
      rw [List.map_append, ← hsamples]
      rfl

/-- The delays as the clocks would show them if they had no end. -/
def shiftedDelays (transmissions : List (Transmission offset)) : Set Int :=
  (fun transmission : Transmission offset => (transmission.delay : Int) + offset)
    '' {transmission | transmission ∈ transmissions}

theorem isLeast_shiftedDelays {transmissions : List (Transmission offset)} {lowest : Nat}
    (hlowest : (transmissions.map delay).min? = some lowest) :
    IsLeast (shiftedDelays transmissions) (lowest + offset) := by
  obtain ⟨hmem, hle⟩ := List.min?_eq_some_iff.mp hlowest
  constructor
  · obtain ⟨transmission, htransmission, rfl⟩ := List.mem_map.mp hmem
    exact ⟨transmission, htransmission, rfl⟩
  · rintro _ ⟨transmission, htransmission, rfl⟩
    have hdelay := hle transmission.delay (List.mem_map_of_mem htransmission)
    dsimp only
    omega

theorem ediv_shiftedDelays_iff {transmissions : List (Transmission offset)}
    {fastest : Transmission offset} (hfastest : fastest ∈ transmissions) :
    (∀ x ∈ shiftedDelays transmissions, x / 2 ^ 32 = (fastest.delay + offset) / 2 ^ 32)
      ↔ ∀ first ∈ transmissions, ∀ second ∈ transmissions,
        (first.delay + offset) / 2 ^ 32 = (second.delay + offset) / 2 ^ 32 := by
  constructor
  · intro hquotients first hfirst second hsecond
    rw [hquotients _ ⟨first, hfirst, rfl⟩, hquotients _ ⟨second, hsecond, rfl⟩]
  · rintro hquotients _ ⟨transmission, htransmission, rfl⟩
    exact hquotients transmission htransmission fastest hfastest

theorem isLeast_localBaseDelay {transmissions : List (Transmission offset)}
    (hsome : transmissions ≠ []) :
    IsLeast ((· % 2 ^ 32) '' shiftedDelays transmissions)
      ((observe transmissions).localBaseDelay.toNat : Int) := by
  obtain ⟨htracks, hsamples⟩ := observe_spec transmissions
  constructor
  · have hmem := htracks.mem_of_nonempty (by simpa [hsamples] using hsome)
    rw [hsamples] at hmem
    obtain ⟨transmission, htransmission, hbase⟩ := List.mem_map.mp hmem
    refine ⟨_, ⟨transmission, htransmission, rfl⟩, ?_⟩
    rw [← hbase, toNat_sample]
  · rintro _ ⟨_, ⟨transmission, htransmission, rfl⟩, rfl⟩
    dsimp only
    rw [← toNat_sample, Int.ofNat_le, ← UInt32.le_iff_toNat_le]
    refine htracks.le _ ?_
    rw [hsamples]
    exact List.mem_map_of_mem htransmission

theorem relativeDelay_eq {transmissions : List (Transmission offset)} {last : Transmission offset}
    (hlast : transmissions.getLast? = some last) :
    (observe transmissions).relativeDelay
      = some (last.sample - (observe transmissions).localBaseDelay) := by
  rw [CongestionController.relativeDelay, (observe_spec transmissions).2, List.getLast?_map, hlast]
  rfl

theorem lateness_eq {transmissions : List (Transmission offset)} {last : Transmission offset}
    {lowest : Nat} (hlast : transmissions.getLast? = some last)
    (hlowest : (transmissions.map delay).min? = some lowest) :
    lateness transmissions = some (last.delay - lowest) := by
  rw [lateness, List.getLast?_map, hlast, hlowest]
  rfl

theorem exists_lowest {transmissions : List (Transmission offset)} (hsome : transmissions ≠ []) :
    ∃ lowest, (transmissions.map delay).min? = some lowest := by
  cases hlowest : (transmissions.map delay).min? with
  | none =>
      rw [List.min?_eq_none_iff, List.map_eq_nil_iff] at hlowest
      exact absurd hlowest hsome
  | some lowest => exact ⟨lowest, rfl⟩

end Transmission

open Transmission

/-- **When the relative delay does not depend on the clocks.** After any run of a fresh controller,
over packets whose delays lie closer together than `2 ^ 32` microseconds, the last sample lies above
the base delay by as much as the last packet took longer than the fastest one, if and only if no two
of the delays, shifted by the offset of the clocks, are on two sides of a multiple of `2 ^ 32`. -/
theorem relativeDelay_eq_lateness_iff {offset : Int} {transmissions : List (Transmission offset)}
    (hnear : ∀ first ∈ transmissions, ∀ second ∈ transmissions,
      second.delay < first.delay + 2 ^ 32) :
    (observe transmissions).relativeDelay.map UInt32.toNat = lateness transmissions
      ↔ ∀ first ∈ transmissions, ∀ second ∈ transmissions,
        (first.delay + offset) / 2 ^ 32 = (second.delay + offset) / 2 ^ 32 := by
  cases hlast : transmissions.getLast? with
  | none =>
      obtain rfl := List.getLast?_eq_none_iff.mp hlast
      refine iff_of_true rfl ?_
      simp
  | some last =>
      have hmem : last ∈ transmissions := List.mem_of_getLast? hlast
      obtain ⟨lowest, hlowest⟩ := exists_lowest (List.ne_nil_of_mem hmem)
      have hleast := isLeast_shiftedDelays hlowest
      obtain ⟨fastest, hfastest, rfl⟩ :=
        List.mem_map.mp (List.min?_eq_some_iff.mp hlowest).1
      have hclose : ∀ x ∈ shiftedDelays transmissions, x - (fastest.delay + offset) < 2 ^ 32 := by
        rintro _ ⟨transmission, htransmission, rfl⟩
        have hdelay := hnear fastest hfastest transmission htransmission
        dsimp only
        omega
      have hresidues := Residue.emod_sub_least_eq_iff (by decide) hleast hclose
        (isLeast_localBaseDelay (List.ne_nil_of_mem hmem)) (Set.mem_image_of_mem _ hmem)
      rw [← ediv_shiftedDelays_iff hfastest, ← hresidues, relativeDelay_eq hlast,
        lateness_eq hlast hlowest, Option.map_some, Option.some.injEq, ← toNat_sample,
        ← Residue.toNat_sub_eq_emod]
      have hle := hleast.2 (Set.mem_image_of_mem _ hmem)
      omega

/-- A packet with nothing in it but the time. -/
def stampedAt (offset : Int) (sentAt delay receivedAt : Nat)
    (hclocks : (receivedAt : Int) = sentAt + delay + offset) : Transmission offset :=
  ⟨⟨.state, 1, 8, currentMicros sentAt, 0, 0, 0, 0, [], []⟩, delay, sentAt, receivedAt, rfl, hclocks⟩

/-- The receiver's clock is 1000 microseconds ahead. -/
def clocksAhead : List (Transmission 1000) :=
  [stampedAt 1000 500 10 1510 (by decide), stampedAt 1000 700 20 1720 (by decide)]

/-- The same packets, and the receiver's clock is 15 microseconds behind. -/
def clocksBehind : List (Transmission (-15)) :=
  [stampedAt (-15) 500 10 495 (by decide), stampedAt (-15) 700 20 705 (by decide)]

theorem relativeDelay_eq_lateness_iff_clocksAhead :
    (∀ first ∈ clocksAhead, ∀ second ∈ clocksAhead, second.delay < first.delay + 2 ^ 32)
      ∧ lateness clocksAhead = some 10
      ∧ (observe clocksAhead).relativeDelay.map UInt32.toNat = lateness clocksAhead := by
  have hnear : ∀ first ∈ clocksAhead, ∀ second ∈ clocksAhead,
      second.delay < first.delay + 2 ^ 32 := by
    simp [clocksAhead, stampedAt]
  refine ⟨hnear, by decide, (relativeDelay_eq_lateness_iff hnear).mpr ?_⟩
  simp [clocksAhead, stampedAt]

/-- The delays pass a multiple of `2 ^ 32` when they are shifted, and the sample of the slower packet
is the lower one. -/
theorem relativeDelay_depends_on_clocks :
    clocksBehind.map (fun transmission => (transmission.packet, transmission.delay))
        = clocksAhead.map (fun transmission => (transmission.packet, transmission.delay))
      ∧ (observe clocksAhead).relativeDelay = some 10
      ∧ (observe clocksBehind).relativeDelay = some 0
      ∧ lateness clocksBehind = some 10
      ∧ (observe clocksBehind).relativeDelay.map UInt32.toNat ≠ lateness clocksBehind := by
  decide

end UtpSafety
