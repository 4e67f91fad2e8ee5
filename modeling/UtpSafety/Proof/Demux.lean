import Mathlib.Logic.Relation
import UtpSafety.Receiver
import UtpSafety.Proof.Socket

/-!
# The receive task takes the incoming buffers apart

Every buffer that decodes to a SYN goes to the SYN queue. Every other packet goes to the one line
that the routing table names for its key, and a line that is named for a key is named until its
receiver is dropped and another packet for the key arrives. What a line has received can therefore be
read off the history: it is what came for its key between its opening and its drop (`Story`).

The history itself is what the actions of the run say (`HubAction.Records`): of a poll it has the
buffers that came with its answers, up to the answer that made it return.
-/

namespace UtpSafety

namespace HubEvent

def syn : HubEvent → Option (Packet × SocketAddr)
  | .datagram bytes remoteAddr =>
      match decoded bytes with
      | some packet => if packet.packetType = .syn then some (packet, remoteAddr) else none
      | none => none
  | _ => none

/-- The packet for a key that arrives in an event. -/
def packetFor (key : UInt16 × SocketAddr) : HubEvent → Option Packet
  | .datagram bytes remoteAddr =>
      match decoded bytes with
      | some packet =>
          if packet.packetType ≠ .syn ∧ (packet.connectionId, remoteAddr) = key then some packet
          else none
      | none => none
  | _ => none

end HubEvent

/-- The packets for a key that arrived during a part of the history, in order. -/
def packetsFor (key : UInt16 × SocketAddr) (history : List HubEvent) : List Packet :=
  history.filterMap (HubEvent.packetFor key)

theorem packetsFor_append (key : UInt16 × SocketAddr) (history history' : List HubEvent) :
    packetsFor key (history ++ history') = packetsFor key history ++ packetsFor key history' :=
  List.filterMap_append

/-- The buffers that a poll with these answers gets, up to the answer that makes it return. -/
def Received.buffers : List Received → List HubEvent
  | [] => []
  | .datagram bytes remoteAddr :: answers => .datagram bytes remoteAddr :: buffers answers
  | .recvFailed :: answers => buffers answers
  | .recvNotReady :: _ => []
  | .notReady :: _ => []
  | .readyFailed :: _ => []

/-- A poll with these answers shuts the task down. -/
def Received.shutsDown : List Received → Bool
  | [] => false
  | .datagram _ _ :: answers => shutsDown answers
  | .recvFailed :: answers => shutsDown answers
  | .recvNotReady :: _ => false
  | .notReady :: _ => false
  | .readyFailed :: _ => true

/-- The buffers that come with an action. -/
def HubAction.buffers : HubAction → List HubEvent
  | .poll answers => Received.buffers answers
  | _ => []

/-- What the history is to have of an action. -/
inductive HubAction.Records : HubAction → List HubEvent → Prop
  | poll (answers : List Received) : Records (.poll answers) (Received.buffers answers)
  | register (remoteAddr : SocketAddr) (draws : List UInt16) (line : Nat) (connectionId : UInt16)
      (hdraw : connectionId ∈ draws) :
      Records (.register remoteAddr draws) [.opened line (connectionId, remoteAddr)]
  | insert (connectionId : UInt16) (remoteAddr : SocketAddr) (line : Nat) :
      Records (.insert connectionId remoteAddr) [.opened line (connectionId, remoteAddr)]
  | refused (connectionId : UInt16) (remoteAddr : SocketAddr) :
      Records (.insert connectionId remoteAddr) []
  | drop (line : Nat) : Records (.drop line) [.dropped line]
  | getSyn : Records .getSyn []

namespace Hub

def logged (hub : Hub) (event : HubEvent) : Hub := { hub with history := hub.history ++ [event] }

def withTable (hub : Hub) (routingTable : Finmap fun _ : UInt16 × SocketAddr => Nat) : Hub :=
  { hub with socket.routingTable := routingTable }

/-- Everything that an action does, one event at a time. -/
inductive Moved (hub : Hub) : Hub → Prop
  | ignored (bytes : Bytes) (remoteAddr : SocketAddr) (hdecoded : decoded bytes = none) :
      Moved hub (hub.logged (.datagram bytes remoteAddr))
  | queued (bytes : Bytes) (remoteAddr : SocketAddr) (packet : Packet)
      (hdecoded : decoded bytes = some packet) (htype : packet.packetType = .syn) :
      Moved hub ({ hub with
        socket.synQueue := hub.socket.synQueue ++ [(packet, remoteAddr)] }.logged
          (.datagram bytes remoteAddr))
  | unrouted (bytes : Bytes) (remoteAddr : SocketAddr) (packet : Packet)
      (hdecoded : decoded bytes = some packet) (htype : packet.packetType ≠ .syn)
      (hlookup : hub.socket.routingTable.lookup (packet.connectionId, remoteAddr) = none) :
      Moved hub (hub.logged (.datagram bytes remoteAddr))
  | delivered (bytes : Bytes) (remoteAddr : SocketAddr) (packet : Packet) (line : Nat)
      (hdecoded : decoded bytes = some packet) (htype : packet.packetType ≠ .syn)
      (hlookup : hub.socket.routingTable.lookup (packet.connectionId, remoteAddr) = some line)
      (halive : hub.isAlive line = true) :
      Moved hub ({ hub with lines := hub.deliver (some (line, packet)) }.logged
        (.datagram bytes remoteAddr))
  | removed (bytes : Bytes) (remoteAddr : SocketAddr) (packet : Packet) (line : Nat)
      (hdecoded : decoded bytes = some packet) (htype : packet.packetType ≠ .syn)
      (hlookup : hub.socket.routingTable.lookup (packet.connectionId, remoteAddr) = some line)
      (halive : hub.isAlive line = false) :
      Moved hub ((hub.withTable (hub.socket.routingTable.erase
        (packet.connectionId, remoteAddr))).logged (.datagram bytes remoteAddr))
  | opened (key : UInt16 × SocketAddr) (hlookup : hub.socket.routingTable.lookup key = none) :
      Moved hub (hub.openLine { hub.socket with
        routingTable := hub.socket.routingTable.insert key hub.lines.length } key)
  | dropped (line : Nat) (halive : hub.isAlive line = true) :
      Moved hub ({ hub with
        lines := hub.lines.modify line fun line => { line with alive := false } }.logged
          (.dropped line))
  | took (syn : Packet × SocketAddr) (rest : List (Packet × SocketAddr))
      (hqueue : hub.socket.synQueue = syn :: rest) :
      Moved hub { hub with socket.synQueue := rest, accepted := hub.accepted ++ [syn] }
  | stopped : Moved hub { hub with receiving := false }

theorem receive_of_malformed {hub : Hub} {bytes : Bytes} {remoteAddr : SocketAddr}
    (hdecoded : decoded bytes = none) :
    hub.receive bytes remoteAddr = .ok (hub.logged (.datagram bytes remoteAddr)) := by
  simp [receive, UtpSocket.receiveDatagram_of_malformed hdecoded, bind, Except.bind, pure, Except.pure,
    deliver, logged]

theorem receive_of_decoded {hub : Hub} {bytes : Bytes} {remoteAddr : SocketAddr} {packet : Packet}
    (hdecoded : decoded bytes = some packet) :
    hub.receive bytes remoteAddr = .ok ({ hub with
      socket := (hub.socket.routePacket hub.isAlive packet remoteAddr).1
      lines := hub.deliver ((hub.socket.routePacket hub.isAlive packet remoteAddr).2.map
        fun line => (line, packet)) }.logged (.datagram bytes remoteAddr)) := by
  simp only [receive, UtpSocket.receiveDatagram_of_decoded hdecoded, bind, Except.bind, pure,
    Except.pure, logged]

theorem moved_receive (hub : Hub) (bytes : Bytes) (remoteAddr : SocketAddr) :
    ∃ hub', hub.receive bytes remoteAddr = .ok hub' ∧ Moved hub hub' := by
  cases hdecoded : decoded bytes with
  | none => exact ⟨_, receive_of_malformed hdecoded, .ignored bytes remoteAddr hdecoded⟩
  | some packet =>
      rw [receive_of_decoded hdecoded]
      by_cases htype : packet.packetType = .syn
      · refine ⟨_, ?_, .queued bytes remoteAddr packet hdecoded htype⟩
        simp [UtpSocket.routePacket, htype, deliver]
      · cases hlookup : hub.socket.routingTable.lookup (packet.connectionId, remoteAddr) with
        | none =>
            refine ⟨_, ?_, .unrouted bytes remoteAddr packet hdecoded htype hlookup⟩
            simp [UtpSocket.routePacket, htype, hlookup, deliver]
        | some line =>
            cases halive : hub.isAlive line with
            | true =>
                refine ⟨_, ?_, .delivered bytes remoteAddr packet line hdecoded htype hlookup halive⟩
                simp [UtpSocket.routePacket, htype, hlookup, halive]
            | false =>
                refine ⟨_, ?_, .removed bytes remoteAddr packet line hdecoded htype hlookup halive⟩
                simp [UtpSocket.routePacket, htype, hlookup, halive, deliver, withTable]

theorem poll_datagram {hub received : Hub} {bytes : Bytes} {remoteAddr : SocketAddr}
    (hreceive : hub.receive bytes remoteAddr = .ok received) (answers : List Received) :
    PacketReceiver.poll hub (.datagram bytes remoteAddr :: answers)
      = PacketReceiver.poll received answers := by
  simp only [PacketReceiver.poll, PacketReceiver.pollWith, hreceive, bind, Except.bind]

theorem moves_poll {hub hub' : Hub} {answers : List Received} {result : Poll Unit}
    (hpoll : PacketReceiver.poll hub answers = .ok (some (hub', result))) :
    Relation.ReflTransGen Moved hub hub' := by
  induction answers generalizing hub with
  | nil => cases hpoll
  | cons answer answers ih =>
      cases answer with
      | datagram bytes remoteAddr =>
          obtain ⟨received, hreceive, hmoved⟩ := moved_receive hub bytes remoteAddr
          rw [poll_datagram hreceive] at hpoll
          exact .head hmoved (ih hpoll)
      | recvFailed => exact ih hpoll
      | recvNotReady =>
          cases hpoll
          exact .refl
      | notReady =>
          cases hpoll
          exact .refl
      | readyFailed =>
          cases hpoll
          exact .refl

/-- What each action does as a whole. -/
inductive Stepped (hub : Hub) : HubAction → Hub → Prop
  | polled (answers : List Received) (hub' : Hub) (hreceiving : hub.receiving = true)
      (hpoll : PacketReceiver.poll hub answers = .ok (some (hub', .pending))) :
      Stepped hub (.poll answers) hub'
  | shutDown (answers : List Received) (hub' : Hub) (hreceiving : hub.receiving = true)
      (hpoll : PacketReceiver.poll hub answers = .ok (some (hub', .ready ()))) :
      Stepped hub (.poll answers) { hub' with receiving := false }
  | registered (remoteAddr : SocketAddr) (draws : List UInt16) (connectionId : UInt16)
      (hdraw : connectionId ∈ draws)
      (hvacant : hub.socket.routingTable.lookup (connectionId, remoteAddr) = none) :
      Stepped hub (.register remoteAddr draws) (hub.openLine { hub.socket with
        routingTable := hub.socket.routingTable.insert (connectionId, remoteAddr) hub.lines.length }
        (connectionId, remoteAddr))
  | inserted (connectionId : UInt16) (remoteAddr : SocketAddr)
      (hvacant : hub.socket.routingTable.lookup (connectionId, remoteAddr) = none) :
      Stepped hub (.insert connectionId remoteAddr) (hub.openLine { hub.socket with
        routingTable := hub.socket.routingTable.insert (connectionId, remoteAddr) hub.lines.length }
        (connectionId, remoteAddr))
  | refused (connectionId : UInt16) (remoteAddr : SocketAddr) :
      Stepped hub (.insert connectionId remoteAddr) hub
  | dropped (line : Nat) (halive : hub.isAlive line = true) :
      Stepped hub (.drop line) ({ hub with
        lines := hub.lines.modify line fun line => { line with alive := false } }.logged
          (.dropped line))
  | took (syn : Packet × SocketAddr) (rest : List (Packet × SocketAddr))
      (hqueue : hub.socket.synQueue = syn :: rest) :
      Stepped hub .getSyn { hub with
        socket.synQueue := rest, accepted := hub.accepted ++ [syn] }

/-- **What one action can do.** -/
theorem stepped_of_step {hub hub' : Hub} {action : HubAction} (hstep : hub.step action = some hub') :
    Stepped hub action hub' := by
  cases action with
  | poll answers =>
      simp only [step] at hstep
      split_ifs at hstep with hreceiving
      split at hstep
      · rename_i polled hpoll
        cases hstep
        exact .polled answers _ hreceiving hpoll
      · rename_i polled hpoll
        cases hstep
        exact .shutDown answers polled hreceiving hpoll
      · cases hstep
  | register remoteAddr draws =>
      simp only [step] at hstep
      split at hstep
      · cases hstep
      · rename_i connectionId socket hregister
        obtain ⟨hvacant, rfl⟩ := UtpSocket.registerConnection_spec hregister
        cases hstep
        exact .registered remoteAddr draws connectionId
          (UtpSocket.mem_of_registerConnection hregister) hvacant
  | insert connectionId remoteAddr =>
      simp only [step, UtpSocket.insertConnection] at hstep
      cases hlookup : hub.socket.routingTable.lookup (connectionId, remoteAddr) with
      | some line =>
          simp only [hlookup, Option.some.injEq] at hstep
          subst hstep
          exact .refused connectionId remoteAddr
      | none =>
          simp only [hlookup, Option.some.injEq] at hstep
          subst hstep
          exact .inserted connectionId remoteAddr hlookup
  | drop line =>
      simp only [step] at hstep
      split_ifs at hstep with halive
      cases hstep
      exact .dropped line halive
  | getSyn =>
      simp only [step] at hstep
      split at hstep
      · cases hstep
      · rename_i syn rest hqueue
        cases hstep
        exact .took syn rest hqueue

theorem moves_of_step {hub hub' : Hub} {action : HubAction} (hstep : hub.step action = some hub') :
    Relation.ReflTransGen Moved hub hub' := by
  cases stepped_of_step hstep with
  | polled answers _ hreceiving hpoll => exact moves_poll hpoll
  | shutDown answers polled hreceiving hpoll => exact (moves_poll hpoll).tail .stopped
  | registered remoteAddr draws connectionId hdraw hvacant => exact .single (.opened _ hvacant)
  | inserted connectionId remoteAddr hvacant => exact .single (.opened _ hvacant)
  | refused connectionId remoteAddr => exact .refl
  | dropped line halive => exact .single (.dropped line halive)
  | took syn rest hqueue => exact .single (.took syn rest hqueue)

/-- What every move preserves holds after a whole run. -/
theorem invariant_of_exec {motive : Hub → Prop}
    (hkeep : ∀ hub hub', motive hub → Moved hub hub' → motive hub') {hub final : Hub}
    (hstart : motive hub) {actions : List HubAction}
    (hexec : Run.exec step hub actions = some final) : motive final := by
  refine Run.exec_invariant ?_ hstart hexec
  intro state action state' hmotive hstep
  have hmoves := moves_of_step hstep
  clear hstep
  induction hmoves with
  | refl => exact hmotive
  | tail _ hmoved ih => exact hkeep _ _ ih hmoved

/-! ### What is recorded -/

theorem history_receive {hub received : Hub} {bytes : Bytes} {remoteAddr : SocketAddr}
    (hreceive : hub.receive bytes remoteAddr = .ok received) :
    received.history = hub.history ++ [.datagram bytes remoteAddr] := by
  cases hdecoded : decoded bytes with
  | none =>
      rw [receive_of_malformed hdecoded, Except.ok.injEq] at hreceive
      rw [← hreceive]
      rfl
  | some packet =>
      rw [receive_of_decoded hdecoded, Except.ok.injEq] at hreceive
      rw [← hreceive]
      rfl

/-- A poll gets its buffers one after the other and stops at the answer that makes it return. -/
theorem history_poll {hub hub' : Hub} {answers : List Received} {result : Poll Unit}
    (hpoll : PacketReceiver.poll hub answers = .ok (some (hub', result))) :
    hub'.history = hub.history ++ Received.buffers answers := by
  induction answers generalizing hub with
  | nil => cases hpoll
  | cons answer answers ih =>
      cases answer with
      | datagram bytes remoteAddr =>
          obtain ⟨received, hreceive, -⟩ := moved_receive hub bytes remoteAddr
          rw [poll_datagram hreceive] at hpoll
          rw [ih hpoll, history_receive hreceive, List.append_assoc]
          rfl
      | recvFailed => exact ih hpoll
      | recvNotReady =>
          cases hpoll
          exact (List.append_nil _).symm
      | notReady =>
          cases hpoll
          exact (List.append_nil _).symm
      | readyFailed =>
          cases hpoll
          exact (List.append_nil _).symm

theorem records_of_step {hub hub' : Hub} {action : HubAction} (hstep : hub.step action = some hub') :
    ∃ events, action.Records events ∧ hub'.history = hub.history ++ events := by
  cases stepped_of_step hstep with
  | polled answers _ hreceiving hpoll => exact ⟨_, .poll answers, history_poll hpoll⟩
  | shutDown answers polled hreceiving hpoll =>
      have hhistory := history_poll hpoll
      exact ⟨_, .poll answers, hhistory⟩
  | registered remoteAddr draws connectionId hdraw hvacant =>
      exact ⟨_, .register remoteAddr draws hub.lines.length connectionId hdraw, rfl⟩
  | inserted connectionId remoteAddr hvacant =>
      exact ⟨_, .insert connectionId remoteAddr hub.lines.length, rfl⟩
  | refused connectionId remoteAddr =>
      exact ⟨[], .refused connectionId remoteAddr, (List.append_nil _).symm⟩
  | dropped line halive => exact ⟨_, .drop line, rfl⟩
  | took syn rest hqueue => exact ⟨[], .getSyn, (List.append_nil _).symm⟩

/-- **The history is what the actions say**, one after the other. -/
theorem records_of_exec {hub final : Hub} {actions : List HubAction}
    (hexec : Run.exec step hub actions = some final) :
    ∃ records, List.Forall₂ HubAction.Records actions records
      ∧ final.history = hub.history ++ records.flatten :=
  Run.exec_log (fun _ _ _ hstep => records_of_step hstep) hexec

/-! ### How long the task runs -/

theorem receiving_receive {hub received : Hub} {bytes : Bytes} {remoteAddr : SocketAddr}
    (hreceive : hub.receive bytes remoteAddr = .ok received) : received.receiving = hub.receiving := by
  simp only [receive, bind, Except.bind] at hreceive
  split at hreceive
  · cases hreceive
  · cases hreceive
    rfl

theorem receiving_poll {hub hub' : Hub} {answers : List Received} {result : Poll Unit}
    (hpoll : PacketReceiver.poll hub answers = .ok (some (hub', result))) :
    hub'.receiving = hub.receiving
      ∧ result = if Received.shutsDown answers then .ready () else .pending := by
  induction answers generalizing hub with
  | nil => cases hpoll
  | cons answer answers ih =>
      cases answer with
      | datagram bytes remoteAddr =>
          obtain ⟨received, hreceive, -⟩ := moved_receive hub bytes remoteAddr
          rw [poll_datagram hreceive] at hpoll
          obtain ⟨hreceiving, hresult⟩ := ih hpoll
          exact ⟨hreceiving.trans (receiving_receive hreceive), hresult⟩
      | recvFailed => exact ih hpoll
      | recvNotReady =>
          cases hpoll
          exact ⟨rfl, rfl⟩
      | notReady =>
          cases hpoll
          exact ⟨rfl, rfl⟩
      | readyFailed =>
          cases hpoll
          exact ⟨rfl, rfl⟩

theorem receiving_step {hub hub' : Hub} {action : HubAction} (hstep : hub.step action = some hub') :
    hub'.receiving = true ↔ hub.receiving = true
      ∧ ∀ answers, action = .poll answers → Received.shutsDown answers = false := by
  cases stepped_of_step hstep with
  | polled answers _ hreceiving hpoll =>
      obtain ⟨hsame, hresult⟩ := receiving_poll hpoll
      have hruns : Received.shutsDown answers = false := by
        by_contra hstops
        simp [hstops] at hresult
      simp [hsame, hreceiving, hruns]
  | shutDown answers polled hreceiving hpoll =>
      obtain ⟨-, hresult⟩ := receiving_poll hpoll
      have hstops : Received.shutsDown answers = true := by
        by_contra hruns
        simp [hruns] at hresult
      simp [hstops]
  | registered remoteAddr draws connectionId hdraw hvacant => simp [openLine]
  | inserted connectionId remoteAddr hvacant => simp [openLine]
  | refused connectionId remoteAddr => simp
  | dropped line halive => simp [logged]
  | took syn rest hqueue => simp

/-- The task runs as long as no poll is told that the IO driver is gone. -/
theorem receiving_of_exec {hub final : Hub} {actions : List HubAction}
    (hexec : Run.exec step hub actions = some final) :
    final.receiving = true ↔ hub.receiving = true
      ∧ ∀ answers, .poll answers ∈ actions → Received.shutsDown answers = false := by
  induction actions generalizing hub with
  | nil =>
      cases hexec
      simp
  | cons action actions ih =>
      obtain ⟨hub', hstep, hrest⟩ := Run.exec_cons.mp hexec
      rw [ih hrest, receiving_step hstep, and_assoc, ← forall_and]
      simp only [List.mem_cons, or_imp, eq_comm]

/-! ### What a line has received -/

/-- The history of a line: it was opened after `before`; what came for its key in `during` it has
received; and `after` begins with its drop, if it was dropped. The table leads to it until a packet
for its key has come after its drop. -/
structure Story (hub : Hub) (n : Nat) (line : Line) (before during after : List HubEvent) : Prop where
  history : hub.history = before ++ .opened n line.key :: (during ++ after)
  alive : line.alive = true → after = []
  dropped : line.alive = false → ∃ rest, after = .dropped n :: rest
  received : line.received = packetsFor line.key during
  listed : hub.socket.routingTable.lookup line.key = some n ↔ packetsFor line.key after = []

namespace Story

variable {hub hub' : Hub} {n : Nat} {line : Line} {before during after : List HubEvent}
  {event : HubEvent} (hstory : Story hub n line before during after)
include hstory

theorem lookup_of_alive (halive : line.alive = true) :
    hub.socket.routingTable.lookup line.key = some n := by
  rw [hstory.listed, hstory.alive halive]
  rfl

theorem dropped_of_unlisted (hlookup : hub.socket.routingTable.lookup line.key ≠ some n) :
    line.alive = false := by
  by_contra halive
  exact hlookup (hstory.lookup_of_alive (by simpa using halive))

theorem congr (hhistory : hub'.history = hub.history)
    (htable : hub'.socket.routingTable = hub.socket.routingTable) :
    Story hub' n line before during after := by
  constructor
  · rw [hhistory]
    exact hstory.history
  · exact hstory.alive
  · exact hstory.dropped
  · exact hstory.received
  · rw [htable]
    exact hstory.listed

theorem other (hhistory : hub'.history = hub.history ++ [event])
    (hevent : event.packetFor line.key = none)
    (hlookup : hub'.socket.routingTable.lookup line.key = some n
      ↔ hub.socket.routingTable.lookup line.key = some n) :
    ∃ before during after, Story hub' n line before during after := by
  have hnothing : packetsFor line.key [event] = [] := by
    simp [packetsFor, hevent]
  cases halive : line.alive with
  | true =>
      obtain rfl := hstory.alive halive
      refine ⟨before, during ++ [event], [], ?_, fun _ => rfl, ?_, ?_, ?_⟩
      · rw [hhistory, hstory.history]
        simp
      · simp [halive]
      · rw [packetsFor_append, hnothing, List.append_nil]
        exact hstory.received
      · exact hlookup.trans hstory.listed
  | false =>
      obtain ⟨rest, rfl⟩ := hstory.dropped halive
      refine ⟨before, during, .dropped n :: rest ++ [event], ?_, ?_, fun _ => ⟨rest ++ [event], rfl⟩,
        hstory.received, ?_⟩
      · rw [hhistory, hstory.history]
        simp
      · simp [halive]
      · rw [packetsFor_append, hnothing, List.append_nil]
        exact hlookup.trans hstory.listed

theorem late (hhistory : hub'.history = hub.history ++ [event]) {packet : Packet}
    (hevent : event.packetFor line.key = some packet) (halive : line.alive = false)
    (hlookup : hub'.socket.routingTable.lookup line.key ≠ some n) :
    ∃ before during after, Story hub' n line before during after := by
  obtain ⟨rest, rfl⟩ := hstory.dropped halive
  refine ⟨before, during, .dropped n :: rest ++ [event], ?_, ?_, fun _ => ⟨rest ++ [event], rfl⟩,
    hstory.received, iff_of_false hlookup ?_⟩
  · rw [hhistory, hstory.history]
    simp
  · simp [halive]
  · simp [packetsFor, hevent]

theorem delivered (hhistory : hub'.history = hub.history ++ [event]) {packet : Packet}
    (hevent : event.packetFor line.key = some packet) (halive : line.alive = true)
    (htable : hub'.socket.routingTable = hub.socket.routingTable) :
    ∃ before during after,
      Story hub' n { line with received := line.received ++ [packet] } before during after := by
  have hlookup := hstory.lookup_of_alive halive
  obtain rfl := hstory.alive halive
  refine ⟨before, during ++ [event], [], ?_, fun _ => rfl, ?_, ?_, ?_⟩
  · rw [hhistory, hstory.history]
    simp
  · simp [halive]
  · rw [packetsFor_append, hstory.received]
    simp [packetsFor, hevent]
  · rw [htable]
    exact iff_of_true hlookup rfl

theorem drops (hhistory : hub'.history = hub.history ++ [.dropped n]) (halive : line.alive = true)
    (htable : hub'.socket.routingTable = hub.socket.routingTable) :
    ∃ before during after, Story hub' n { line with alive := false } before during after := by
  have hlookup := hstory.lookup_of_alive halive
  obtain rfl := hstory.alive halive
  refine ⟨before, during, [.dropped n], ?_, ?_, fun _ => ⟨[], rfl⟩, hstory.received, ?_⟩
  · rw [hhistory, hstory.history]
    simp
  · simp
  · rw [htable]
    exact iff_of_true hlookup rfl

theorem passes {bytes : Bytes} {remoteAddr : SocketAddr} {packet : Packet}
    (hdecoded : decoded bytes = some packet) (htype : packet.packetType ≠ .syn)
    (hhistory : hub'.history = hub.history ++ [.datagram bytes remoteAddr])
    (helsewhere : ∀ key ≠ (packet.connectionId, remoteAddr),
      hub'.socket.routingTable.lookup key = hub.socket.routingTable.lookup key)
    (hkey : line.key = (packet.connectionId, remoteAddr) →
      line.alive = false ∧ hub'.socket.routingTable.lookup line.key ≠ some n) :
    ∃ before during after, Story hub' n line before during after := by
  by_cases hsame : line.key = (packet.connectionId, remoteAddr)
  · obtain ⟨halive, hlookup⟩ := hkey hsame
    have hevent : (HubEvent.datagram bytes remoteAddr).packetFor line.key = some packet := by
      simp [HubEvent.packetFor, hdecoded, htype, hsame]
    exact hstory.late hhistory hevent halive hlookup
  · have hevent : (HubEvent.datagram bytes remoteAddr).packetFor line.key = none := by
      simp [HubEvent.packetFor, hdecoded, Ne.symm hsame]
    refine hstory.other hhistory hevent ?_
    rw [helsewhere line.key hsame]

end Story

theorem isAlive_of_getElem? {hub : Hub} {n : Nat} {line : Line} (hline : hub.lines[n]? = some line) :
    hub.isAlive n = line.alive := by
  simp [isAlive, hline]

theorem exists_of_isAlive {hub : Hub} {n : Nat} (halive : hub.isAlive n = true) :
    ∃ line, hub.lines[n]? = some line ∧ line.alive = true := by
  cases hline : hub.lines[n]? with
  | none => simp [isAlive, hline] at halive
  | some line => exact ⟨line, rfl, (isAlive_of_getElem? hline).symm.trans halive⟩

theorem getElem?_modify_cases {lines : List Line} {m n : Nat} {change : Line → Line} {line' : Line}
    (hline' : (lines.modify m change)[n]? = some line') :
    (m ≠ n ∧ lines[n]? = some line') ∨ (m = n ∧ ∃ line, lines[n]? = some line ∧ line' = change line) := by
  by_cases hsame : m = n
  · subst hsame
    rw [List.getElem?_modify_eq] at hline'
    obtain ⟨line, hline, rfl⟩ := Option.map_eq_some_iff.mp hline'
    exact Or.inr ⟨rfl, line, hline, rfl⟩
  · rw [List.getElem?_modify_ne _ _ hsame] at hline'
    exact Or.inl ⟨hsame, hline'⟩

/-- What holds of a socket and its history at any time. -/
structure Demuxed (hub : Hub) : Prop where
  syns : hub.accepted ++ hub.socket.synQueue = hub.history.filterMap HubEvent.syn
  entries : ∀ key n, hub.socket.routingTable.lookup key = some n →
    ∃ line, hub.lines[n]? = some line ∧ line.key = key
  stories : ∀ n line, hub.lines[n]? = some line →
    ∃ before during after, Story hub n line before during after

theorem demuxed_bound (localAddr : SocketAddr) : (bound localAddr).Demuxed where
  syns := rfl
  entries := by simp [bound, UtpSocket.bind]
  stories := by simp [bound]

namespace Demuxed

variable {hub hub' : Hub} (hdemuxed : hub.Demuxed)
include hdemuxed

theorem lookup_of_alive {n : Nat} {line : Line} (hline : hub.lines[n]? = some line)
    (halive : line.alive = true) : hub.socket.routingTable.lookup line.key = some n := by
  obtain ⟨before, during, after, hstory⟩ := hdemuxed.stories n line hline
  exact hstory.lookup_of_alive halive

theorem syns_moved (hmoved : Moved hub hub') :
    hub'.accepted ++ hub'.socket.synQueue = hub'.history.filterMap HubEvent.syn := by
  have hsyns := hdemuxed.syns
  cases hmoved with
  | ignored bytes remoteAddr hdecoded => simp [logged, hsyns, HubEvent.syn, hdecoded]
  | queued bytes remoteAddr packet hdecoded htype =>
      simp [logged, ← List.append_assoc, hsyns, HubEvent.syn, hdecoded, htype]
  | unrouted bytes remoteAddr packet hdecoded htype _ =>
      simp [logged, hsyns, HubEvent.syn, hdecoded, htype]
  | delivered bytes remoteAddr packet line hdecoded htype _ _ =>
      simp [logged, hsyns, HubEvent.syn, hdecoded, htype]
  | removed bytes remoteAddr packet line hdecoded htype _ _ =>
      simp [logged, withTable, hsyns, HubEvent.syn, hdecoded, htype]
  | opened key _ => simp [openLine, hsyns, HubEvent.syn]
  | dropped line _ => simp [logged, hsyns, HubEvent.syn]
  | took syn rest hqueue =>
      rw [hqueue] at hsyns
      simp [← hsyns]
  | stopped => exact hsyns

theorem entries_modify {m : Nat} {change : Line → Line} (hchange : ∀ line, (change line).key = line.key)
    {key : UInt16 × SocketAddr} {n : Nat} (hlookup : hub.socket.routingTable.lookup key = some n) :
    ∃ line, (hub.lines.modify m change)[n]? = some line ∧ line.key = key := by
  obtain ⟨line, hline, rfl⟩ := hdemuxed.entries key n hlookup
  by_cases hsame : m = n
  · subst hsame
    exact ⟨change line, by simp [hline], hchange line⟩
  · exact ⟨line, by rw [List.getElem?_modify_ne _ _ hsame, hline], rfl⟩

theorem entries_moved (hmoved : Moved hub hub') {key : UInt16 × SocketAddr} {n : Nat}
    (hlookup : hub'.socket.routingTable.lookup key = some n) :
    ∃ line, hub'.lines[n]? = some line ∧ line.key = key := by
  cases hmoved with
  | ignored _ _ _ => exact hdemuxed.entries key n hlookup
  | queued _ _ _ _ _ => exact hdemuxed.entries key n hlookup
  | unrouted _ _ _ _ _ _ => exact hdemuxed.entries key n hlookup
  | delivered _ _ _ _ _ _ _ _ =>
      refine hdemuxed.entries_modify ?_ hlookup
      exact fun _ => rfl
  | removed bytes remoteAddr packet line _ _ _ _ =>
      by_cases hkey : key = (packet.connectionId, remoteAddr)
      · subst hkey
        simp [logged, withTable, Finmap.lookup_erase] at hlookup
      · refine hdemuxed.entries key n ?_
        rw [← Finmap.lookup_erase_ne hkey]
        exact hlookup
  | opened key' hvacant =>
      by_cases hkey : key = key'
      · subst hkey
        simp only [openLine, Finmap.lookup_insert, Option.some.injEq] at hlookup
        subst hlookup
        exact ⟨⟨key, true, []⟩, by simp [openLine], rfl⟩
      · simp only [openLine, Finmap.lookup_insert_of_ne _ hkey] at hlookup
        obtain ⟨line, hline, hsame⟩ := hdemuxed.entries key n hlookup
        have hn := (List.getElem?_eq_some_iff.mp hline).1
        exact ⟨line, by simp only [openLine]; rw [List.getElem?_append_left hn, hline], hsame⟩
  | dropped _ _ =>
      refine hdemuxed.entries_modify ?_ hlookup
      exact fun _ => rfl
  | took _ _ _ => exact hdemuxed.entries key n hlookup
  | stopped => exact hdemuxed.entries key n hlookup

theorem stories_opened {key : UInt16 × SocketAddr}
    (hvacant : hub.socket.routingTable.lookup key = none)
    (hopened : hub' = hub.openLine { hub.socket with
      routingTable := hub.socket.routingTable.insert key hub.lines.length } key)
    {n : Nat} {line : Line} (hline : hub'.lines[n]? = some line) :
    ∃ before during after, Story hub' n line before during after := by
  subst hopened
  rcases Nat.lt_or_ge n hub.lines.length with hold | hnew
  · simp only [openLine, List.getElem?_append_left hold] at hline
    obtain ⟨before, during, after, hstory⟩ := hdemuxed.stories n line hline
    refine hstory.other rfl rfl ?_
    by_cases hkey : line.key = key
    · subst hkey
      refine iff_of_false ?_ ?_
      · simp only [openLine, Finmap.lookup_insert, Option.some.injEq]
        omega
      · simp [hvacant]
    · simp only [openLine, Finmap.lookup_insert_of_ne _ hkey]
  · have hlast : n = hub.lines.length := by
      have hlt := (List.getElem?_eq_some_iff.mp hline).1
      simp only [openLine, List.length_append, List.length_singleton] at hlt
      omega
    subst hlast
    simp only [openLine, List.getElem?_concat_length, Option.some.injEq] at hline
    subst hline
    refine ⟨hub.history, [], [], rfl, fun _ => rfl, by simp, rfl, iff_of_true ?_ rfl⟩
    exact Finmap.lookup_insert _

theorem stories_moved (hmoved : Moved hub hub') {n : Nat} {line : Line}
    (hline : hub'.lines[n]? = some line) :
    ∃ before during after, Story hub' n line before during after := by
  cases hmoved with
  | ignored bytes remoteAddr hdecoded =>
      obtain ⟨before, during, after, hstory⟩ := hdemuxed.stories n line hline
      exact hstory.other rfl (by simp [HubEvent.packetFor, hdecoded]) Iff.rfl
  | queued bytes remoteAddr packet hdecoded htype =>
      obtain ⟨before, during, after, hstory⟩ := hdemuxed.stories n line hline
      exact hstory.other rfl (by simp [HubEvent.packetFor, hdecoded, htype]) Iff.rfl
  | unrouted bytes remoteAddr packet hdecoded htype hlookup =>
      obtain ⟨before, during, after, hstory⟩ := hdemuxed.stories n line hline
      refine hstory.passes hdecoded htype rfl (fun _ _ => rfl) fun hkey => ?_
      have hunlisted : hub.socket.routingTable.lookup line.key ≠ some n := by
        rw [hkey, hlookup]
        exact (Option.some_ne_none n).symm
      exact ⟨hstory.dropped_of_unlisted hunlisted, hunlisted⟩
  | delivered bytes remoteAddr packet m hdecoded htype hlookup halive =>
      rcases getElem?_modify_cases hline with ⟨hother, hbefore⟩ | ⟨rfl, line, hbefore, rfl⟩
      · obtain ⟨before, during, after, hstory⟩ := hdemuxed.stories n line hbefore
        refine hstory.passes hdecoded htype rfl (fun _ _ => rfl) fun hkey => ?_
        have hunlisted : hub.socket.routingTable.lookup line.key ≠ some n := by
          rw [hkey, hlookup]
          simpa using hother
        exact ⟨hstory.dropped_of_unlisted hunlisted, hunlisted⟩
      · obtain ⟨before, during, after, hstory⟩ := hdemuxed.stories m line hbefore
        obtain ⟨line', hline', hkey⟩ := hdemuxed.entries _ m hlookup
        obtain rfl : line = line' := Option.some.inj (hbefore.symm.trans hline')
        have hevent : (HubEvent.datagram bytes remoteAddr).packetFor line.key = some packet := by
          simp [HubEvent.packetFor, hdecoded, htype, hkey]
        exact hstory.delivered rfl hevent ((isAlive_of_getElem? hbefore).symm.trans halive) rfl
  | removed bytes remoteAddr packet m hdecoded htype hlookup halive =>
      obtain ⟨before, during, after, hstory⟩ := hdemuxed.stories n line hline
      refine hstory.passes hdecoded htype rfl ?_ fun hkey => ⟨?_, ?_⟩
      · intro key hkey
        exact Finmap.lookup_erase_ne hkey
      · by_contra hnotDropped
        have hlive : line.alive = true := by simpa using hnotDropped
        have hlisted := hstory.lookup_of_alive hlive
        rw [hkey, hlookup, Option.some.injEq] at hlisted
        subst hlisted
        have hdead : line.alive = false := (isAlive_of_getElem? hline).symm.trans halive
        rw [hlive] at hdead
        cases hdead
      · rw [hkey]
        simp [logged, withTable, Finmap.lookup_erase]
  | opened key hvacant => exact hdemuxed.stories_opened hvacant rfl hline
  | dropped m halive =>
      rcases getElem?_modify_cases hline with ⟨hother, hbefore⟩ | ⟨rfl, line, hbefore, rfl⟩
      · obtain ⟨before, during, after, hstory⟩ := hdemuxed.stories n line hbefore
        exact hstory.other rfl rfl Iff.rfl
      · obtain ⟨before, during, after, hstory⟩ := hdemuxed.stories m line hbefore
        exact hstory.drops rfl ((isAlive_of_getElem? hbefore).symm.trans halive) rfl
  | took syn rest hqueue =>
      obtain ⟨before, during, after, hstory⟩ := hdemuxed.stories n line hline
      exact ⟨before, during, after, hstory.congr rfl rfl⟩
  | stopped =>
      obtain ⟨before, during, after, hstory⟩ := hdemuxed.stories n line hline
      exact ⟨before, during, after, hstory.congr rfl rfl⟩

theorem moved (hmoved : Moved hub hub') : hub'.Demuxed where
  syns := hdemuxed.syns_moved hmoved
  entries _ _ := hdemuxed.entries_moved hmoved
  stories _ _ := hdemuxed.stories_moved hmoved

end Demuxed

theorem demuxed_of_exec {localAddr : SocketAddr} {actions : List HubAction} {final : Hub}
    (hexec : Run.exec step (bound localAddr) actions = some final) : final.Demuxed :=
  invariant_of_exec (fun _ _ hdemuxed hmoved => hdemuxed.moved hmoved) (demuxed_bound localAddr) hexec

end Hub

/-- The answer makes a poll return. -/
def Received.returns : Received → Bool
  | .datagram _ _ => false
  | .recvFailed => false
  | .recvNotReady => true
  | .notReady => true
  | .readyFailed => true

/-- No buffer keeps a poll from returning. -/
theorem PacketReceiver.exists_poll {answers : List Received}
    (hreturns : ∃ answer ∈ answers, answer.returns = true) (hub : Hub) :
    ∃ hub' result, PacketReceiver.poll hub answers = .ok (some (hub', result)) := by
  induction answers generalizing hub with
  | nil => simp at hreturns
  | cons answer answers ih =>
      cases answer with
      | datagram bytes remoteAddr =>
          obtain ⟨received, hreceive, -⟩ := Hub.moved_receive hub bytes remoteAddr
          obtain ⟨hub', result, hpoll⟩ := ih (by simpa [Received.returns] using hreturns) received
          exact ⟨hub', result, (Hub.poll_datagram hreceive answers).trans hpoll⟩
      | recvFailed => exact ih (by simpa [Received.returns] using hreturns) hub
      | recvNotReady => exact ⟨hub, .pending, rfl⟩
      | notReady => exact ⟨hub, .pending, rfl⟩
      | readyFailed => exact ⟨hub, .ready (), rfl⟩

/-- **The receive task takes the incoming buffers apart exactly.** At any time of any run: the history
has the buffers that came with the answers of the polls, the openings and the drops, in the order of the
actions; the task runs as long as no poll is told that the IO driver is gone, and every poll returns once
the UDP socket has nothing more; the SYNs taken and the SYNs queued are the buffers that decode to a SYN,
in order; each line has received the other packets that came for its key between its opening and its drop,
in order; the table leads to every live line, and to a dropped one until the next such packet comes; and a
poll goes on from a malformed buffer as if nothing had come, apart from the record of it. -/
theorem demux_exact {localAddr : SocketAddr} {actions : List HubAction} {final : Hub}
    (hexec : Run.exec Hub.step (Hub.bound localAddr) actions = some final) :
    (∃ records, List.Forall₂ HubAction.Records actions records ∧ final.history = records.flatten)
      ∧ (final.receiving = true
        ↔ ∀ answers, .poll answers ∈ actions → Received.shutsDown answers = false)
      ∧ (final.receiving = true → ∀ answers, (∃ answer ∈ answers, answer.returns = true) →
        (final.step (.poll answers)).isSome = true)
      ∧ final.accepted ++ final.socket.synQueue = final.history.filterMap HubEvent.syn
      ∧ (∀ n line, final.lines[n]? = some line → ∃ before during after,
        final.history = before ++ .opened n line.key :: (during ++ after)
          ∧ line.received = packetsFor line.key during
          ∧ (line.alive = true →
            after = [] ∧ final.socket.routingTable.lookup line.key = some n)
          ∧ (line.alive = false → (∃ rest, after = .dropped n :: rest)
            ∧ (final.socket.routingTable.lookup line.key = some n
              ↔ packetsFor line.key after = [])))
      ∧ (∀ key n, final.socket.routingTable.lookup key = some n →
        ∃ line, final.lines[n]? = some line ∧ line.key = key)
      ∧ ∀ bytes remoteAddr, decoded bytes = none → ∀ answers,
        PacketReceiver.poll final (.datagram bytes remoteAddr :: answers)
          = PacketReceiver.poll
            { final with history := final.history ++ [.datagram bytes remoteAddr] } answers := by
  have hdemuxed := Hub.demuxed_of_exec hexec
  refine ⟨Hub.records_of_exec hexec, ?_, ?_, hdemuxed.syns, ?_, hdemuxed.entries, ?_⟩
  · rw [Hub.receiving_of_exec hexec]
    exact and_iff_right rfl
  · intro hreceiving answers hreturns
    obtain ⟨polled, result, hpoll⟩ := PacketReceiver.exists_poll hreturns final
    simp only [Hub.step, hreceiving, if_true, hpoll]
    cases result with
    | ready _ => rfl
    | pending => rfl
  · intro n line hline
    obtain ⟨before, during, after, hstory⟩ := hdemuxed.stories n line hline
    exact ⟨before, during, after, hstory.history, hstory.received,
      fun halive => ⟨hstory.alive halive, hstory.lookup_of_alive halive⟩,
      fun hdropped => ⟨hstory.dropped hdropped, hstory.listed⟩⟩
  · intro bytes remoteAddr hdecoded answers
    exact Hub.poll_datagram (Hub.receive_of_malformed hdecoded) answers

def peerAddr : SocketAddr := .v4 0x7F000001 9001

/-- The bytes of a packet with nothing special about it. -/
def datagramOf (packetType : PacketType) (connectionId seqNumber : UInt16) : Bytes :=
  Packet.intoBytes ⟨packetType, 1, connectionId, 0, 0, 0, seqNumber, 0, [], []⟩

/-- A line gets one packet of two, a SYN and a malformed buffer come in between, and a third packet
comes after the line was dropped. -/
def demuxActions : List HubAction :=
  [.insert 8 peerAddr,
    .poll [.datagram (datagramOf .data 8 1) peerAddr, .recvFailed, .datagram [0xff] peerAddr,
      .datagram (datagramOf .syn 8 2) peerAddr, .datagram (datagramOf .data 9 3) peerAddr, .notReady],
    .drop 0, .poll [.datagram (datagramOf .state 8 4) peerAddr, .recvNotReady]]

def demuxed : Hub :=
  (Run.exec Hub.step (Hub.bound (.v4 0x7F000001 9000)) demuxActions).get (by decide)

theorem demux_exact_demuxed :
    Run.exec Hub.step (Hub.bound (.v4 0x7F000001 9000)) demuxActions = some demuxed
      ∧ demuxed.socket.synQueue.map (fun syn => syn.1.seqNumber) = [2]
      ∧ demuxed.lines.map (fun line => line.received.map Packet.seqNumber) = [[1]]
      ∧ demuxed.socket.routingTable.lookup (8, peerAddr) = none
      ∧ (∃ records, List.Forall₂ HubAction.Records demuxActions records
        ∧ demuxed.history = records.flatten)
      ∧ demuxed.accepted ++ demuxed.socket.synQueue = demuxed.history.filterMap HubEvent.syn := by
  have hexec : Run.exec Hub.step (Hub.bound (.v4 0x7F000001 9000)) demuxActions = some demuxed :=
    (Option.some_get _).symm
  obtain ⟨hrecords, -, -, hsyns, -⟩ := demux_exact hexec
  exact ⟨hexec, by decide, by decide, by decide, hrecords, hsyns⟩

end UtpSafety
