import UtpSafety.Proof.Moves

/-!
# What is sent is what is received

Every packet that is passed to `send_to` anywhere in a run fits, whether the outgoing channel takes it
or not.
-/

namespace UtpSafety

namespace Network

/-- Every packet passed to `send_to` fits, and nothing else is in flight. -/
structure AllFit (network : Network) : Prop where
  passed : ∀ datagram ∈ network.passed, datagram.packet.Fits
  inFlight : network.inFlight ⊆ network.passed

variable {network network' : Network} {action : NetworkAction}

theorem AllFit.inFlight_fits (hfit : network.AllFit) :
    ∀ datagram ∈ network.inFlight, datagram.packet.Fits :=
  fun datagram hdatagram => hfit.passed datagram (hfit.inFlight hdatagram)

theorem mem_datagrams {source : SocketAddr} {sender : Nat} {site : Site}
    {items : List (Packet × SocketAddr)} {datagram : Datagram} :
    datagram ∈ datagrams source sender site items
      ↔ ∃ item ∈ items, datagram = ⟨source, item.2, item.1, sender, site⟩ := by
  simp [datagrams, eq_comm]

section Pass

variable {source : SocketAddr} {sender : Nat} {site : Site} {sent refused : List (Packet × SocketAddr)}
  {datagram : Datagram}

theorem mem_inFlight_pass :
    datagram ∈ (network.pass source sender site sent refused).inFlight
      ↔ datagram ∈ network.inFlight
        ∨ ∃ item ∈ sent, datagram = ⟨source, item.2, item.1, sender, site⟩ := by
  rw [pass, List.mem_append, mem_datagrams]

theorem mem_passed_pass :
    datagram ∈ (network.pass source sender site sent refused).passed
      ↔ datagram ∈ network.passed
        ∨ ∃ item ∈ sent ++ refused, datagram = ⟨source, item.2, item.1, sender, site⟩ := by
  rw [pass, List.mem_append, mem_datagrams]

end Pass

theorem AllFit.pass (hfit : network.AllFit) {source : SocketAddr} {sender : Nat} {site : Site}
    {sent refused : List (Packet × SocketAddr)} (hitems : ∀ item ∈ sent ++ refused, item.1.Fits) :
    (network.pass source sender site sent refused).AllFit where
  passed := by
    intro datagram hdatagram
    rcases mem_passed_pass.mp hdatagram with hold | ⟨item, hitem, rfl⟩
    · exact hfit.passed datagram hold
    · exact hitems item hitem
  inFlight := by
    intro datagram hdatagram
    apply mem_passed_pass.mpr
    rcases mem_inFlight_pass.mp hdatagram with hold | ⟨item, hitem, rfl⟩
    · exact Or.inl (hfit.inFlight hold)
    · exact Or.inr ⟨item, List.mem_append_left _ hitem, rfl⟩

theorem AllFit.withInFlight (hfit : network.AllFit) {inFlight : List Datagram}
    (hinFlight : inFlight ⊆ network.inFlight) : (network.withInFlight inFlight).AllFit where
  passed := hfit.passed
  inFlight := fun _ hdatagram => hfit.inFlight (hinFlight hdatagram)

theorem AllFit.congr (hfit : network.AllFit) (hpassed : network'.passed = network.passed)
    (hinFlight : network'.inFlight = network.inFlight) : network'.AllFit := by
  refine ⟨?_, ?_⟩
  · rw [hpassed]
    exact hfit.passed
  · rw [hpassed, hinFlight]
    exact hfit.inFlight

theorem enqueue_frame (network : Network) (channel : Nat) (packet : Packet) :
    network.enqueue channel packet
      = { network with parties := (network.enqueue channel packet).parties } := by
  unfold enqueue
  split <;> rfl

theorem AllFit.moved (hfit : network.AllFit) (hmoved : Moved network action network') :
    network'.AllFit := by
  have hone : ∀ (packet : Packet) (remoteAddr : SocketAddr), packet.Fits →
      ∀ item ∈ [(packet, remoteAddr)], item.1.Fits := by
    intro packet remoteAddr hpacket item hitem
    rw [List.mem_singleton.mp hitem]
    exact hpacket
  cases hmoved with
  | connect localAddr remoteAddr connectionId hvacant =>
      apply AllFit.pass
      · exact hfit.congr rfl rfl
      · exact hone _ _ ⟨rfl, rfl, Nat.zero_le _⟩
  | connectFailed localAddr remoteAddr connectionId =>
      apply AllFit.pass
      · exact hfit.congr rfl rfl
      · exact hone _ _ ⟨rfl, rfl, Nat.zero_le _⟩
  | resumed index connection returned inboundPackets responsePacket rest hparty hqueue stream
      hstream => exact hfit.congr rfl rfl
  | gone index party hparty => exact hfit.congr rfl rfl
  | accept localAddr syn remoteAddr rest seqNumber hsyn hvacant stream hstream =>
      apply AllFit.pass
      · exact hfit.congr rfl rfl
      · exact hone _ _ ⟨rfl, rfl, Nat.zero_le _⟩
  | unanswered localAddr syn remoteAddr rest seqNumber hsyn hvacant =>
      apply AllFit.pass
      · exact hfit.congr rfl rfl
      · exact hone _ _ ⟨rfl, rfl, Nat.zero_le _⟩
  | discarded localAddr syn rest hsyn => exact hfit.congr rfl rfl
  | called index connection returned stream stream' sent refused hparty hperformed =>
      apply AllFit.pass
      · exact hfit.congr rfl rfl
      · exact fun item hitem => (hperformed.sends item hitem).1
  | synArrived datagram inFlight hdatagram hinFlight htype =>
      exact (hfit.withInFlight hinFlight).congr rfl rfl
  | arrived index datagram inFlight channel haction hdatagram hinFlight htype hlookup halive =>
      rw [enqueue_frame]
      exact (hfit.withInFlight hinFlight).congr rfl rfl
  | stale datagram inFlight channel hdatagram hinFlight htype hlookup hdead =>
      exact (hfit.withInFlight hinFlight).congr rfl rfl
  | wire inFlight hinFlight => exact hfit.withInFlight hinFlight

theorem allFit_init : init.AllFit := ⟨by simp [init], by simp [init]⟩

theorem allFit_of_exec {actions : List NetworkAction}
    (hexec : Run.exec step init actions = some network) : network.AllFit := by
  apply Run.exec_invariant ?_ allFit_init hexec
  intro state action state' hstate hstep
  exact hstate.moved (moved_of_step hstate.inFlight_fits hstep)

end Network

/-- **What the crate sends is what its receiver decodes.** Whatever is passed to `send_to` in any run
is encoded in at most `maxDatagramSize` bytes, and what the receive buffer takes of the encoding is
decoded to the packet. -/
theorem received_as_sent {actions : List NetworkAction} {final : Network}
    (hexec : Run.exec Network.step Network.init actions = some final) :
    ∀ datagram ∈ final.passed,
      datagram.packet.intoBytes.length ≤ maxDatagramSize
        ∧ Packet.tryFrom (datagram.packet.intoBytes.take maxDatagramSize)
          = .ok (.ok datagram.packet) := by
  intro datagram hdatagram
  have hfits := (Network.allFit_of_exec hexec).passed datagram hdatagram
  exact ⟨hfits.length_intoBytes, hfits.tryFrom_received⟩

/-- A handshake, an exchange of one data packet, and a write that the outgoing channel refuses. -/
def exchangeActions : List NetworkAction :=
  let connector : SocketAddr := .v4 0x7F000001 9000
  let listener : SocketAddr := .v4 0x7F000001 9001
  [.connect connector listener [65535] true, .deliver 0, .accept listener 41 true, .deliver 0,
    .resume 0, .call 0 (.pollWrite .plain [1, 2, 3]), .deliver 0, .call 1 (.pollRead .plain 8),
    .call 1 (.pollWrite { Env.plain with queues := fun _ => false } [4])]

theorem received_as_sent_exchange :
    ∃ final, Run.exec Network.step Network.init exchangeActions = some final
      ∧ final.passed.map (fun datagram => datagram.packet.packetType)
        = [.syn, .state, .data, .state, .data]
      ∧ ∀ datagram ∈ final.passed,
        datagram.packet.intoBytes.length ≤ maxDatagramSize
          ∧ Packet.tryFrom (datagram.packet.intoBytes.take maxDatagramSize)
            = .ok (.ok datagram.packet) :=
  ⟨(Run.exec Network.step Network.init exchangeActions).get (by decide),
    (Option.some_get _).symm, by decide, received_as_sent (Option.some_get _).symm⟩

end UtpSafety
