import UtpSafety.Packet

/-!
# The congestion controller

Only `updateState` runs today: it keeps the lowest delay seen in each direction and the history of
the samples. No decision of the stream reads any of it.
-/

namespace UtpSafety

/-- The low 32 bits of a UNIX timestamp in microseconds. -/
def currentMicros (totalMicroseconds : Nat) : UInt32 := UInt32.ofNat totalMicroseconds

structure CongestionController where
  currentWindow : UInt32
  localReceiveWindow : UInt32
  remoteReceiveWindow : UInt32
  localBaseDelay : UInt32
  remoteBaseDelay : UInt32
  localDelaySamples : List UInt32
  remoteDelaySamples : List UInt32
  deriving DecidableEq, Repr

def CongestionController.new : CongestionController where
  currentWindow := 0
  localReceiveWindow := 1024 * 1024
  remoteReceiveWindow := 1500
  localBaseDelay := 0xFFFFFFFF
  remoteBaseDelay := 0xFFFFFFFF
  localDelaySamples := []
  remoteDelaySamples := []

def CongestionController.updateState (controller : CongestionController) (receivedAt : UInt32)
    (receivedPacket : Packet) : CongestionController :=
  let localDelay := receivedAt - receivedPacket.timestampMicros
  let remoteDelay := receivedPacket.timestampDeltaMicros
  { controller with
    localBaseDelay := min controller.localBaseDelay localDelay
    remoteBaseDelay := min controller.remoteBaseDelay remoteDelay
    localDelaySamples := controller.localDelaySamples ++ [localDelay]
    remoteDelaySamples := controller.remoteDelaySamples ++ [remoteDelay]
    remoteReceiveWindow := receivedPacket.windowSize }

end UtpSafety
