import UtpSafety.Socket
import UtpSafety.Proof.Codec

/-!
# What a socket does with one datagram and one connection

The parser never panics, so a datagram is either malformed, and ignored, or decoded to a packet, which
is routed. A registration goes through the random ids until one of them is free.
-/

namespace UtpSafety

/-- The packet that the receive task sees in a datagram, unless it is malformed. -/
def decoded (bytes : Bytes) : Option Packet :=
  match Packet.tryFrom (bytes.take maxDatagramSize) with
  | .ok (.ok packet) => some packet
  | _ => none

theorem tryFrom_of_decoded {bytes : Bytes} {packet : Packet} (hdecoded : decoded bytes = some packet) :
    Packet.tryFrom (bytes.take maxDatagramSize) = .ok (.ok packet) := by
  unfold decoded at hdecoded
  split at hdecoded
  · rename_i parsed hparse
    cases hdecoded
    exact hparse
  · cases hdecoded

namespace UtpSocket

theorem receiveDatagram_of_decoded {socket : UtpSocket} {alive : Nat → Bool} {bytes : Bytes}
    {remoteAddr : SocketAddr} {packet : Packet} (hdecoded : decoded bytes = some packet) :
    socket.receiveDatagram alive bytes remoteAddr
      = .ok ((socket.routePacket alive packet remoteAddr).1,
        (socket.routePacket alive packet remoteAddr).2.map fun channel => (channel, packet)) := by
  simp [UtpSocket.receiveDatagram, tryFrom_of_decoded hdecoded, Bind.bind, Except.bind, pure,
    Except.pure]

theorem receiveDatagram_of_malformed {socket : UtpSocket} {alive : Nat → Bool} {bytes : Bytes}
    {remoteAddr : SocketAddr} (hdecoded : decoded bytes = none) :
    socket.receiveDatagram alive bytes remoteAddr = .ok (socket, none) := by
  obtain ⟨result, hparse⟩ := exists_tryFrom (bytes.take maxDatagramSize)
  cases result with
  | ok packet => simp [decoded, hparse] at hdecoded
  | error error => simp [UtpSocket.receiveDatagram, hparse, Bind.bind, Except.bind, pure, Except.pure]

theorem registerConnection_spec {socket socket' : UtpSocket} {remoteAddr : SocketAddr}
    {channel : Nat} {draws : List UInt16} {connectionId : UInt16}
    (hregister : socket.registerConnection remoteAddr channel draws
      = some (connectionId, socket')) :
    socket.routingTable.lookup (connectionId, remoteAddr) = none
      ∧ socket' = { socket with
        routingTable := socket.routingTable.insert (connectionId, remoteAddr) channel } := by
  induction draws with
  | nil => cases hregister
  | cons draw draws ih =>
      rw [registerConnection] at hregister
      split at hregister
      · exact ih hregister
      · rename_i hvacant
        cases hregister
        exact ⟨hvacant, rfl⟩

theorem mem_of_registerConnection {socket socket' : UtpSocket} {remoteAddr : SocketAddr}
    {channel : Nat} {draws : List UInt16} {connectionId : UInt16}
    (hregister : socket.registerConnection remoteAddr channel draws
      = some (connectionId, socket')) : connectionId ∈ draws := by
  induction draws with
  | nil => cases hregister
  | cons draw draws ih =>
      rw [registerConnection] at hregister
      split at hregister
      · exact List.mem_cons_of_mem draw (ih hregister)
      · cases hregister
        exact List.mem_cons_self

/-- A registration goes on as long as every id that comes up is taken. -/
theorem registerConnection_eq_none_iff {socket : UtpSocket} {remoteAddr : SocketAddr} {channel : Nat}
    {draws : List UInt16} :
    socket.registerConnection remoteAddr channel draws = none ↔
      ∀ connectionId ∈ draws, socket.routingTable.lookup (connectionId, remoteAddr) ≠ none := by
  induction draws with
  | nil => simp [registerConnection]
  | cons draw draws ih =>
      rw [registerConnection]
      split
      · rename_i channel' htaken
        simp [ih, htaken]
      · rename_i hvacant
        simp [hvacant]

end UtpSocket

end UtpSafety
