import UtpSafety.Network
import UtpSafety.Solo

/-!
# A network with the history of every stream

Of what happens in a network a stream sees its own calls and the packets that are put into its mailbox
(`Network.seen`). A journal keeps, next to the network, a `Solo` for every stream that `connect` or
`accept` has returned. It begins when the stream is returned and goes on with what the stream sees; it
reads the network and never changes it.
-/

namespace UtpSafety

def Call.action : Call → SoloAction
  | .pollWrite env buf => .pollWrite env buf
  | .pollRead env remaining => .pollRead env remaining
  | .pollFlush env => .pollFlush env

namespace Network

/-- The stream that `connect` or `accept` returned to the party, as it was at that moment. -/
def returned (network : Network) (index : Nat) : Option UtpStream :=
  (network.parties[index]?).bind Party.returned

/-- The channel that the datagram at this position goes to, and the packet that is read from it. -/
def routed (network : Network) (position : Nat) : Option (Nat × Packet) :=
  match network.inFlight[position]? with
  | none => none
  | some datagram =>
      match (network.sockets datagram.destination).receiveDatagram network.alive
        datagram.packet.intoBytes datagram.source with
      | .error _ => none
      | .ok (_, item) => item

/-- What an action is to the stream with this index. -/
def seen (network : Network) (index : Nat) : NetworkAction → List SoloAction
  | .call party call => if party = index then [call.action] else []
  | .deliver position =>
      match network.routed position with
      | none => []
      | some (channel, packet) => if channel = index then [.arrive packet] else []
  | _ => []

end Network

structure Journal where
  network : Network
  histories : Nat → Option Solo

namespace Journal

def init : Journal := ⟨Network.init, fun _ => none⟩

/-- The history of a stream when `network'` comes after the action. -/
def record (journal : Journal) (action : NetworkAction) (network' : Network) (index : Nat) :
    Option Solo :=
  match journal.histories index with
  | some solo => Run.exec Solo.step solo (journal.network.seen index action)
  | none =>
      match journal.network.returned index with
      | some _ => none
      | none => (network'.returned index).map Solo.start

def step (journal : Journal) (action : NetworkAction) : Option Journal :=
  (journal.network.step action).map fun network' => ⟨network', journal.record action network'⟩

end Journal

end UtpSafety
