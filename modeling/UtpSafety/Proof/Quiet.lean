import UtpSafety.Proof.Link

/-!
# An idle connection never goes quiet

A read sends an ACK whether or not it has read anything, and an ACK that arrives wakes the reader on
the other side. With nothing to send on either side, the two streams keep answering each other's
ACKs: every round of one delivery and the read it wakes adds a state packet and leaves another ACK
in flight.
-/

namespace UtpSafety

open UtpStream

/-- What happens on an idle connection: packets are delivered, and a side reads for the first time or
because there is a packet in its mailbox. -/
def Idle (pair : Pair) : Action → Prop
  | .pollRead side _ _ => (pair side).sent = [] ∨ (pair side).stream.inboundPackets.queue ≠ []
  | .deliver _ _ => True
  | _ => False

def Endpoint.stateSent (endpoint : Endpoint) : List Packet :=
  endpoint.sent.filter fun packet => packet.packetType = .state

def Pair.stateCount (pair : Pair) : Nat :=
  (pair .a).stateSent.length + (pair .b).stateSent.length

theorem Pair.stateCount_eq (pair : Pair) (side : Side) :
    pair.stateCount = (pair side).stateSent.length + (pair side.other).stateSent.length := by
  cases side with
  | a => rfl
  | b => exact Nat.add_comm _ _

theorem Endpoint.stateSent_didRead (endpoint : Endpoint) (env : Env) (remaining : Nat) :
    (endpoint.didRead env remaining).stateSent.length = endpoint.stateSent.length + 1 := by
  simp [Endpoint.stateSent, Endpoint.didRead, ackPacket]

theorem exists_idle_read {start : Side → UInt16} {pair : Pair} (hlinked : Linked start pair)
    (side : Side) (hidle : Idle pair (.pollRead side .plain 0)) :
    ∃ pair', Run.All Pair.step Idle pair [.pollRead side .plain 0]
      ∧ Run.exec Pair.step pair [.pollRead side .plain 0] = some pair'
      ∧ Linked start pair' ∧ (pair' side).inFlight ≠ []
      ∧ pair' side.other = pair side.other
      ∧ pair'.stateCount = pair.stateCount + 1 := by
  have hread := step_pollRead (hlinked.ready side) .plain 0
  refine ⟨_, ⟨hidle, fun _ _ => trivial⟩, Run.exec_cons.mpr ⟨_, hread, rfl⟩,
    hlinked.moved (.didRead side Env.plain.sending 0), ?_, ?_, ?_⟩
  · simp [Endpoint.didRead]
  · simp [Function.update_of_ne]
  · rw [Pair.stateCount_eq _ side, Pair.stateCount_eq _ side, Function.update_self,
      Function.update_of_ne side.other_ne, Endpoint.stateSent_didRead]
    omega

/-- One round: an ACK arrives and wakes the reader, who answers with another. -/
theorem exists_round {start : Side → UInt16} {pair : Pair} (hlinked : Linked start pair)
    {side : Side} (hinFlight : (pair side).inFlight ≠ []) :
    ∃ actions pair', Run.All Pair.step Idle pair actions
      ∧ Run.exec Pair.step pair actions = some pair'
      ∧ Linked start pair' ∧ (pair' side.other).inFlight ≠ []
      ∧ pair'.stateCount = pair.stateCount + 1 := by
  obtain ⟨packet, rest, heq⟩ := List.exists_cons_of_ne_nil hinFlight
  have hpacket : (pair side).inFlight[0]? = some packet := by
    rw [heq]
    rfl
  have hdeliver := step_deliver hpacket
  generalize hmiddle : Function.update (Function.update pair side
    ((pair side).withInFlight ((pair side).inFlight.eraseIdx 0))) side.other
    ((pair side.other).receive packet) = middle at hdeliver
  have hlinked' : Linked start middle :=
    hlinked.moved (moved_of_step hlinked.ready hdeliver)
  have hqueue : (middle side.other).stream.inboundPackets.queue ≠ [] := by
    rw [← hmiddle, Function.update_self]
    simp [Endpoint.receive]
  have hcount : Pair.stateCount middle = pair.stateCount := by
    rw [← hmiddle, Pair.stateCount_eq _ side, Pair.stateCount_eq pair side, Function.update_self,
      Function.update_of_ne side.ne_other, Function.update_self]
    rfl
  obtain ⟨pair', hall, hexec, hlinked'', hinFlight', -, hcount'⟩ :=
    exists_idle_read hlinked' side.other (Or.inr hqueue)
  refine ⟨.deliver side 0 :: [.pollRead side.other .plain 0], pair', ⟨trivial, ?_⟩,
    Run.exec_cons.mpr ⟨middle, hdeliver, hexec⟩, hlinked'', hinFlight', by omega⟩
  intro middle' hdeliver'
  obtain rfl : middle = middle' := Option.some.inj (hdeliver.symm.trans hdeliver')
  exact hall

theorem exists_rounds {start : Side → UInt16} (count : Nat) {pair : Pair}
    (hlinked : Linked start pair) {side : Side} (hinFlight : (pair side).inFlight ≠ []) :
    ∃ actions final, Run.All Pair.step Idle pair actions
      ∧ Run.exec Pair.step pair actions = some final
      ∧ final.stateCount = pair.stateCount + count := by
  induction count generalizing pair side with
  | zero => exact ⟨[], pair, trivial, rfl, rfl⟩
  | succ count ih =>
      obtain ⟨actions, middle, hall, hexec, hlinked', hinFlight', hcount⟩ :=
        exists_round hlinked hinFlight
      obtain ⟨actions', final, hall', hexec', hcount'⟩ := ih hlinked' hinFlight'
      exact ⟨actions ++ actions', final, Run.all_append hall hexec hall',
        Run.exec_append.mpr ⟨middle, hexec, hexec'⟩, by omega⟩

theorem exists_idle_run {pair : Pair} (hagreed : pair.Agreed) (count : Nat) :
    ∃ actions final, Run.All Pair.step Idle pair actions
      ∧ Run.exec Pair.step pair actions = some final ∧ count < final.stateCount := by
  have hlinked := linked_of_agreed hagreed
  obtain ⟨first, hall₁, hexec₁, hlinked₁, -, hother, hcount₁⟩ :=
    exists_idle_read hlinked .a (Or.inl (hagreed.fresh .a).sent)
  have hfresh : (first .b).sent = [] := by
    have hsame : first .b = pair .b := hother
    rw [hsame]
    exact (hagreed.fresh .b).sent
  obtain ⟨second, hall₂, hexec₂, hlinked₂, hinFlight, -, hcount₂⟩ :=
    exists_idle_read hlinked₁ .b (Or.inl hfresh)
  obtain ⟨actions, final, hall₃, hexec₃, hcount₃⟩ := exists_rounds count hlinked₂ hinFlight
  have hexec := Run.exec_append.mpr ⟨first, hexec₁, hexec₂⟩
  exact ⟨_, final, Run.all_append (Run.all_append hall₁ hexec₁ hall₂) hexec hall₃,
    Run.exec_append.mpr ⟨second, hexec, hexec₃⟩, by omega⟩

/-- **An idle connection never goes quiet.** From no agreement is there a bound on the number of state
packets that the two streams send. -/
theorem idle_never_quiet {pair : Pair} (hagreed : pair.Agreed) :
    ¬ ∃ bound, ∀ actions final, Run.All Pair.step Idle pair actions →
      Run.exec Pair.step pair actions = some final → final.stateCount ≤ bound := by
  rintro ⟨bound, hbound⟩
  obtain ⟨actions, final, hall, hexec, hcount⟩ := exists_idle_run hagreed bound
  have hle := hbound actions final hall hexec
  omega

theorem idle_never_quiet_wrapping :
    ¬ ∃ bound, ∀ actions final,
      Run.All Pair.step Idle (Pair.numbered fun _ => 65535) actions →
      Run.exec Pair.step (Pair.numbered fun _ => 65535) actions = some final →
      final.stateCount ≤ bound :=
  idle_never_quiet (Pair.agreed_numbered _)

/-- Two streams whose first data packets would be numbered 1 send more state packets than any
bound allows. -/
theorem idle_exceeds_every_bound :
    ¬ ∃ bound, ∀ actions final, Run.All Pair.step Idle (Pair.numbered fun _ => 1) actions →
      Run.exec Pair.step (Pair.numbered fun _ => 1) actions = some final →
      final.stateCount ≤ bound := by
  rintro ⟨bound, hbound⟩
  obtain ⟨actions, final, hall, hexec, hcount⟩ :=
    exists_idle_run (Pair.agreed_numbered fun _ => 1) bound
  exact absurd (hbound actions final hall hexec) (Nat.not_le.mpr hcount)

end UtpSafety
