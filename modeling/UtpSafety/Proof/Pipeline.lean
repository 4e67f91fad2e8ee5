import UtpSafety.Proof.InOrder

/-!
# From `send_to` to the receive task

Between the outgoing channel of a socket and the receive task of another, packets are in one place at
a time: in the channel, in the buffer of the send task, on the wire, or received. No channel refuses a
packet, because the send task is there as long as anybody can send. What a socket has passed to
`send_to` is at all times what it has transmitted followed by what waits, and if UDP keeps order and
neither loses nor copies, what was transmitted is what was received followed by what is on the wire.
-/

namespace UtpSafety

/-- The outgoing channel takes whatever the action passes to `send_to`. -/
def NetworkAction.Taken : NetworkAction → Prop
  | .connect _ _ _ queues => queues = true
  | .accept _ _ queues => queues = true
  | .call _ made => ∃ asked : Call, made = asked.answered true
  | _ => True

namespace UtpStream

theorem pollRead_taken {env : Env} {stream : UtpStream} {remaining : Nat} {outcome : Outcome Bytes}
    (hqueues : env.queues 0 = true) (hread : stream.pollRead env remaining = .ok outcome) :
    perform.refused outcome.result = [] := by
  cases hdrain : (drain env).run stream with
  | error panic => simp [pollRead, hdrain, bind, Except.bind] at hread
  | ok drained =>
      obtain ⟨drained, ended⟩ := drained
      simp only [pollRead, hdrain, bind, Except.bind, pure, Except.pure] at hread
      cases ended with
      | true =>
          simp only [if_true, Except.ok.injEq] at hread
          rw [← hread]
          rfl
      | false =>
          simp only [Bool.false_eq_true, if_false, sendAck_eq, sendTo, hqueues, if_true] at hread
          split_ifs at hread <;> cases hread <;> rfl

theorem pollFlush_refused {env : Env} {stream : UtpStream} {outcome : Outcome Unit}
    (hflush : stream.pollFlush env = .ok outcome) : perform.refused outcome.result = [] := by
  cases hdrain : (drain env).run stream with
  | error panic => simp [pollFlush, hdrain, bind, Except.bind] at hflush
  | ok drained =>
      simp only [pollFlush, hdrain, bind, Except.bind, pure, Except.pure, throw, throwThe,
        MonadExceptOf.throw] at hflush
      split_ifs at hflush <;> cases hflush <;> rfl

/-- A call whose packets are all taken gives none of them back. -/
theorem refused_of_answered {stream stream' : UtpStream} {call : Call}
    {sent refused : List (Packet × SocketAddr)}
    (hperform : stream.perform (call.answered true) = .ok (stream', sent, refused)) :
    refused = [] := by
  cases call with
  | pollWrite env buf =>
      simp only [Call.answered, perform, Except.ok.injEq, Prod.mk.injEq] at hperform
      rw [← hperform.2.2]
      cases hshutdown : stream.isShutdown with
      | true =>
          rw [pollWrite_shutdown _ hshutdown]
          rfl
      | false =>
          rw [pollWrite_eq (fun _ => rfl) hshutdown]
          rfl
  | pollRead env remaining =>
      simp only [Call.answered, perform, bind, Except.bind] at hperform
      split at hperform
      · cases hperform
      · rename_i hread
        cases hperform
        exact pollRead_taken rfl hread
  | pollFlush env =>
      simp only [Call.answered, perform, bind, Except.bind] at hperform
      split at hperform
      · cases hperform
      · rename_i hflush
        cases hperform
        exact pollFlush_refused hflush

end UtpStream

namespace Network

variable {network network' : Network} {action : NetworkAction}

theorem alive_of_call {index : Nat} {call : Call} {party : Party}
    (hstep : network.step (.call index call) = some network')
    (hparty : network.parties[index]? = some party) : party.state.alive = true := by
  simp only [step] at hstep
  split at hstep
  · rename_i hstreaming
    rw [hparty, Option.some.injEq] at hstreaming
    rw [hstreaming]
    rfl
  · cases hstep

theorem passed_of_pass {source : SocketAddr} {sender : Nat} {site : Site}
    {sent : List (Packet × SocketAddr)} {added : List Datagram}
    (hinFlight : (network.pass source sender site sent []).inFlight = network.inFlight ++ added) :
    (network.pass source sender site sent []).passed = network.passed ++ added := by
  have hadded : datagrams source sender site sent = added := List.append_cancel_left hinFlight
  rw [← hadded, pass, List.append_nil]

theorem passed_of_quiet {added : List Datagram} (hsame : network'.inFlight = network.inFlight)
    (hpassed : network'.passed = network.passed)
    (hinFlight : network'.inFlight = network.inFlight ++ added) :
    network'.passed = network.passed ++ added := by
  rw [hsame, List.self_eq_append_right] at hinFlight
  rw [hinFlight, List.append_nil]
  exact hpassed

/-- What a user's action passes to `send_to` is in flight, if the channel takes it. -/
theorem passed_of_taken (hlocal : action.Local) (htaken : action.Taken)
    (hstep : network.step action = some network') {added : List Datagram}
    (hinFlight : network'.inFlight = network.inFlight ++ added) :
    network'.passed = network.passed ++ added := by
  cases action with
  | connect localAddr remoteAddr draws queues =>
      obtain rfl : queues = true := htaken
      cases hconnect : UtpStream.connect true draws network.parties.length
          (network.sockets localAddr) remoteAddr with
      | none => simp [step, hconnect] at hstep
      | some connected =>
          obtain ⟨connectionId, socket, result⟩ := connected
          simp only [step, hconnect] at hstep
          split at hstep
          · cases hstep
            exact passed_of_pass hinFlight
          · rename_i error
            simp only [UtpStream.connect, sendTo, if_true, Option.bind_eq_bind,
              Option.bind_eq_some_iff, Option.pure_def, Option.some.injEq, Prod.mk.injEq] at hconnect
            obtain ⟨registered, -, -, -, hresult⟩ := hconnect
            cases hresult
  | resume index =>
      simp only [step] at hstep
      split at hstep
      · split at hstep
        · cases hstep
        · cases hstep
          exact passed_of_quiet rfl rfl hinFlight
        · cases hstep
          exact passed_of_quiet rfl rfl hinFlight
      · cases hstep
  | accept localAddr seqNumber queues =>
      obtain rfl : queues = true := htaken
      simp only [step] at hstep
      split at hstep
      · cases hstep
      · rename_i accepted haccept
        split at hstep
        · cases hstep
          exact passed_of_quiet rfl rfl hinFlight
        · rename_i error hresult
          simp only [UtpListener.accept, sendTo, if_true] at haccept
          split at haccept
          · cases haccept
          · split at haccept
            · cases haccept
              cases hresult
            · cases haccept
              cases hresult
        · cases hstep
          exact passed_of_pass hinFlight
  | call index made =>
      obtain ⟨asked, rfl⟩ := htaken
      simp only [step] at hstep
      split at hstep
      · split at hstep
        · cases hstep
          exact passed_of_quiet rfl rfl hinFlight
        · rename_i hperform
          obtain rfl := UtpStream.refused_of_answered hperform
          cases hstep
          exact passed_of_pass hinFlight
      · cases hstep
  | deliver index => cases hlocal
  | duplicate index => cases hlocal
  | lose index => cases hlocal
  | drop index =>
      simp only [step] at hstep
      split at hstep
      · cases hstep
      · cases hstep
        exact passed_of_quiet rfl rfl hinFlight

end Network

/-- **The invariant rule for a poll of the receive task.** -/
theorem PacketReceiver.pollWith_invariant {σ : Type}
    {receive : σ → Bytes → SocketAddr → Except Panic σ} {motive : σ → Prop}
    (hreceive : ∀ state bytes remoteAddr state', motive state →
      receive state bytes remoteAddr = .ok state' → motive state')
    {answers : List Received} {state final : σ} {result : Poll Unit} (hstate : motive state)
    (hpoll : PacketReceiver.pollWith receive state answers = .ok (some (final, result))) :
    motive final := by
  induction answers generalizing state with
  | nil => cases hpoll
  | cons answer answers ih =>
      cases answer with
      | datagram bytes remoteAddr =>
          simp only [PacketReceiver.pollWith, bind, Except.bind] at hpoll
          split at hpoll
          · cases hpoll
          · rename_i state' hstep
            exact ih (hreceive state bytes remoteAddr state' hstate hstep) hpoll
      | recvFailed => exact ih hstate hpoll
      | recvNotReady =>
          cases hpoll
          exact hstate
      | notReady =>
          cases hpoll
          exact hstate
      | readyFailed =>
          cases hpoll
          exact hstate

namespace System

/-- What waits at a socket, as UDP will carry it. -/
def outgoing (system : System) (addr : SocketAddr) : List Frame :=
  (system.waiting addr).map fun item => ⟨addr, item.2, item.1.intoBytes⟩

/-- What an existing socket has passed to `send_to` has been transmitted or waits, in order. -/
def Conserved (system : System) : Prop :=
  ∀ addr, system.upgrades addr = true →
    (system.journal.network.passed.filter fun datagram => datagram.source = addr).map Datagram.frame
      = (system.transmitted.filter fun frame => frame.source = addr) ++ system.outgoing addr

/-- UDP keeps the order between two sockets and neither loses nor copies. -/
def UdpInOrder (system : System) : SystemAction → Prop
  | .pollReceiver localAddr answers => ∀ frame ∈ Received.frames localAddr answers,
      (Received.frames localAddr answers).filter (Frame.between frame.source localAddr)
        <+: system.wire.filter (Frame.between frame.source localAddr)
  | .duplicate _ | .lose _ => False
  | _ => True

/-- What has been transmitted has been received or is on the wire, in order. -/
def Flowing (system : System) : Prop :=
  ∀ source destination, system.transmitted.filter (Frame.between source destination)
    = (system.received ++ system.wire).filter (Frame.between source destination)

variable {system system' : System} {journal : Journal} {addr : SocketAddr}

theorem Conserved.congr (hconserved : system.Conserved)
    (hupgrades : ∀ addr, system'.upgrades addr = true → system.upgrades addr = true)
    (hpassed : system'.journal.network.passed = system.journal.network.passed)
    (htransmitted : system'.transmitted = system.transmitted)
    (hsenders : system'.senders = system.senders) : system'.Conserved := by
  intro addr hupgrades'
  have hsame : system'.outgoing addr = system.outgoing addr := by
    simp only [outgoing, waiting, hsenders]
  rw [hpassed, htransmitted, hsame]
  exact hconserved addr (hupgrades addr hupgrades')

theorem Conserved.handOver (hconserved : system.Conserved) {datagrams : List Datagram}
    (hupgrades : ∀ addr, system'.upgrades addr = true → system.upgrades addr = true)
    (hpassed : system'.journal.network.passed = system.journal.network.passed ++ datagrams)
    (htransmitted : system'.transmitted = system.transmitted)
    (hsenders : system'.senders = system.handOver datagrams)
    (hserved : ∀ datagram ∈ datagrams, (system.senders datagram.source).isSome) :
    system'.Conserved := by
  intro addr hupgrades'
  have hwaiting : system'.waiting addr = system.waiting addr
      ++ (datagrams.filter fun datagram => datagram.source = addr).map Datagram.item :=
    waiting_handOver hsenders fun datagram hdatagram hsource => hsource ▸ hserved datagram hdatagram
  have hadded : (datagrams.filter fun datagram => datagram.source = addr).map Datagram.frame
      = ((datagrams.filter fun datagram => datagram.source = addr).map Datagram.item).map
        fun item => ⟨addr, item.2, item.1.intoBytes⟩ := by
    apply Datagram.map_frame
    intro datagram hdatagram
    simpa using (List.mem_filter.mp hdatagram).2
  rw [hpassed, htransmitted, List.filter_append, List.map_append,
    hconserved addr (hupgrades addr hupgrades'), hadded, outgoing, outgoing, hwaiting,
    List.map_append, List.append_assoc]

theorem Conserved.act {action : NetworkAction} (hconserved : system.Conserved)
    (hrelated : Related False system journal) (hact : system.act action = some system')
    (hlocal : action.Local) (htaken : action.Taken)
    (hopens : ∀ addr, action.OpensAt addr → system.held addr = true) : system'.Conserved := by
  unfold System.act at hact
  split at hact
  · cases hact
  · rename_i network histories hstep
    cases hact
    obtain ⟨hserves, hserved⟩ := hrelated.confined hstep hlocal hopens
    refine hconserved.handOver ?_ ?_ rfl rfl hserved
    · intro addr hupgrades
      rcases upgrades_iff.mp hupgrades with hheld | hserves'
      · exact upgrades_iff.mpr (Or.inl hheld)
      · exact hserves addr hserves'
    · refine Network.passed_of_taken hlocal htaken (Journal.step_eq_some.mp hstep).1 ?_
      rw [hrelated.same]
      rfl

theorem Conserved.receive {bytes : Bytes} {remoteAddr : SocketAddr} (hconserved : system.Conserved)
    (hreceive : System.receive addr system bytes remoteAddr = .ok system') : system'.Conserved := by
  simp only [System.receive, bind, Except.bind] at hreceive
  split at hreceive
  · cases hreceive
  · rename_i outcome hroute
    cases hreceive
    refine hconserved.congr ?_ ?_ rfl rfl
    · intro other hupgrades
      rw [upgrades_iff] at hupgrades ⊢
      exact hupgrades.imp id serves_routed
    · cases hdelivered : outcome.2 with
      | none => rfl
      | some item =>
          simp only [Journal.routed]
          rw [Network.enqueue_frame]
          rfl

theorem Conserved.sent (hconserved : system.Conserved) {sent : List (Packet × SocketAddr)}
    (hupgrades : ∀ addr, system'.upgrades addr = true → system.upgrades addr = true)
    (hpassed : system'.journal.network.passed = system.journal.network.passed)
    (htransmitted : system'.transmitted = system.transmitted
      ++ sent.map fun item => ⟨addr, item.2, item.1.intoBytes⟩)
    (hwaiting : system'.upgrades addr = true → system.waiting addr = sent ++ system'.waiting addr)
    (hothers : ∀ other, other ≠ addr → system'.waiting other = system.waiting other) :
    system'.Conserved := by
  intro other hupgrades'
  rw [hpassed, hconserved other (hupgrades other hupgrades'), htransmitted, List.filter_append,
    List.append_assoc]
  congr 1
  by_cases hother : other = addr
  · subst hother
    rw [outgoing, hwaiting hupgrades', List.map_append, outgoing]
    congr 1
    symm
    apply List.filter_eq_self.mpr
    intro frame hframe
    obtain ⟨item, -, rfl⟩ := List.mem_map.mp hframe
    exact decide_eq_true rfl
  · have hnone : ((sent.map fun item => (⟨addr, item.2, item.1.intoBytes⟩ : Frame)).filter
        fun frame => frame.source = other) = [] := by
      apply List.filter_eq_nil_iff.mpr
      intro frame hframe
      obtain ⟨item, -, rfl⟩ := List.mem_map.mp hframe
      simpa using Ne.symm hother
    rw [hnone, List.nil_append, outgoing, outgoing, hothers other hother]

theorem Conserved.pollSender {yields : Nat → Bool}
    {pollSendTo : Nat → Bytes → SocketAddr → SendResult} {fuel : Nat}
    (hconserved : system.Conserved) (hrelated : Related False system journal)
    (hstep : system.step (.pollSender addr yields pollSendTo fuel) = some system') :
    system'.Conserved := by
  simp only [System.step] at hstep
  split at hstep
  · cases hstep
  · rename_i sender hsender
    split at hstep
    · cases hstep
    · rename_i outcome hpoll
      cases hstep
      refine hconserved.sent (fun _ => id) rfl rfl ?_ fun other hother => waiting_update _ hother rfl
      intro hupgrades
      obtain ⟨sender', hsender', hclosed⟩ := hrelated.serving addr hupgrades
      obtain rfl : sender = sender' := Option.some.inj (hsender.symm.trans hsender')
      obtain ⟨hresult, -⟩ := PacketSender.poll_open hpoll hclosed hupgrades
      have hkeeps := PacketSender.poll_keeps hpoll
      simp only [waiting, hsender, hresult, Function.update_self]
      rw [← hkeeps, List.append_assoc]

theorem exists_of_act {action : NetworkAction} (hact : system.act action = some system') :
    ∃ network, system.journal.network.step action = some network := by
  unfold System.act at hact
  split at hact
  · cases hact
  · rename_i network histories hstep
    exact ⟨network, (Journal.step_eq_some.mp hstep).1⟩

theorem Conserved.step {action : SystemAction} (hconserved : system.Conserved)
    (hrelated : Related False system journal) (hstep : system.step action = some system') :
    system'.Conserved := by
  have hsome : ∀ addr, system.upgrades addr = true → (system.senders addr).isSome = true := by
    intro addr hupgrades
    obtain ⟨sender, hsender, -⟩ := hrelated.serving addr hupgrades
    rw [hsender]
    rfl
  cases action with
  | connect localAddr remoteAddr draws =>
      simp only [System.step] at hstep
      split_ifs at hstep with hheld
      exact hconserved.act hrelated hstep trivial (hsome _ (upgrades_iff.mpr (Or.inl hheld)))
        fun addr hopens => (hopens : localAddr = addr) ▸ hheld
  | resume party => exact hconserved.act hrelated hstep trivial trivial fun _ => False.elim
  | accept localAddr seqNumber =>
      simp only [System.step] at hstep
      split_ifs at hstep with hheld
      exact hconserved.act hrelated hstep trivial (hsome _ (upgrades_iff.mpr (Or.inl hheld)))
        fun addr hopens => (hopens : localAddr = addr) ▸ hheld
  | call index call =>
      simp only [System.step] at hstep
      split at hstep
      · cases hstep
      · rename_i party hparty
        have hupgrades : system.upgrades party.connection.localAddr = true := by
          obtain ⟨network, hnetwork⟩ := exists_of_act hstep
          exact upgrades_iff.mpr (Or.inr ⟨party, List.mem_of_getElem? hparty, rfl,
            Network.alive_of_call hnetwork hparty⟩)
        exact hconserved.act hrelated hstep trivial ⟨call, by rw [hsome _ hupgrades]⟩
          fun _ => False.elim
  | drop party => exact hconserved.act hrelated hstep trivial trivial fun _ => False.elim
  | release localAddr =>
      cases hstep
      refine hconserved.congr (fun addr hupgrades => ?_) rfl rfl rfl
      rw [upgrades_iff] at hupgrades ⊢
      refine hupgrades.imp ?_ id
      by_cases haddr : addr = localAddr
      · subst haddr
        simp
      · simp [Function.update_of_ne haddr]
  | pollSender localAddr yields pollSendTo fuel => exact hconserved.pollSender hrelated hstep
  | pollReceiver localAddr answers =>
      simp only [System.step] at hstep
      split_ifs at hstep with hframes hupgrades
      · split at hstep
        · rename_i polled hpoll
          cases hstep
          exact PacketReceiver.pollWith_invariant
            (fun _ _ _ _ hbefore hreceive => hbefore.receive hreceive) hconserved hpoll
        · rename_i polled hpoll
          cases hstep
          have hpolled : polled.Conserved := PacketReceiver.pollWith_invariant
            (fun _ _ _ _ hbefore hreceive => hbefore.receive hreceive) hconserved hpoll
          exact hpolled
        · cases hstep
      · cases hstep
        exact hconserved
  | duplicate frame =>
      simp only [System.step] at hstep
      split_ifs at hstep
      cases hstep
      exact hconserved
  | lose frame =>
      simp only [System.step] at hstep
      split_ifs at hstep
      cases hstep
      exact hconserved

theorem conserved_of_exec {actions : List SystemAction}
    (hexec : Run.exec System.step System.init actions = some system) : system.Conserved := by
  have hinvariant := Run.exec_invariant
    (motive := fun system => system.Conserved ∧ ∃ journal, Related False system journal) ?_
    ⟨fun _ _ => rfl, Journal.init, related_init⟩ hexec
  · exact hinvariant.1
  · rintro state action state' ⟨hconserved, journal, hrelated⟩ hstep
    obtain ⟨actions, journal', -, -, hrelated'⟩ := @Related.step False (fun _ _ => True) state state'
      journal action hrelated False.elim (fun _ _ => trivial) hstep
    exact ⟨hconserved.step hrelated hstep, journal', hrelated'⟩

/-! ### Order on the wire -/

theorem InOrder.udp {action : SystemAction} (hinOrder : system.InOrder action) :
    system.UdpInOrder action := by
  cases action with
  | connect localAddr remoteAddr draws => trivial
  | resume party => trivial
  | accept localAddr seqNumber => trivial
  | call index call => trivial
  | drop party => trivial
  | release localAddr => trivial
  | pollSender localAddr yields pollSendTo fuel => trivial
  | pollReceiver localAddr answers => exact hinOrder
  | duplicate frame => exact hinOrder
  | lose frame => exact hinOrder

theorem Flowing.received {frame : Frame} {rest : List Frame} (hflowing : system.Flowing)
    (hfirst : system.wire.filter (Frame.between frame.source frame.destination) = frame :: rest)
    (htransmitted : system'.transmitted = system.transmitted)
    (hreceived : system'.received = system.received ++ [frame])
    (hwire : system'.wire = system.wire.erase frame) : system'.Flowing := by
  intro source destination
  rw [htransmitted, hflowing, hreceived, hwire, List.append_assoc, List.filter_append,
    List.filter_append, List.singleton_append]
  congr 1
  by_cases hbetween : frame.between source destination = true
  · obtain ⟨rfl, rfl⟩ := Frame.between_iff.mp hbetween
    rw [List.filter_cons_of_pos hbetween, ← List.erase_filter, hfirst, List.erase_cons_head]
  · rw [List.filter_cons_of_neg hbetween, ← List.erase_filter, List.erase_of_not_mem]
    exact fun hmem => hbetween (List.mem_filter.mp hmem).2

theorem Flowing.pollWith {answers : List Received} {result : Poll Unit} (hflowing : system.Flowing)
    (hleading : ∀ source, (Received.frames addr answers).filter (Frame.between source addr)
      <+: system.wire.filter (Frame.between source addr))
    (hpoll : PacketReceiver.pollWith (System.receive addr) system answers
      = .ok (some (system', result))) : system'.Flowing := by
  induction answers generalizing system with
  | nil => cases hpoll
  | cons answer answers ih =>
      cases answer with
      | datagram bytes remoteAddr =>
          simp only [PacketReceiver.pollWith, bind, Except.bind] at hpoll
          split at hpoll
          · cases hpoll
          · rename_i received hreceive
            simp only [System.receive, bind, Except.bind] at hreceive
            split at hreceive
            · cases hreceive
            · cases hreceive
              rw [frames_datagram] at hleading
              obtain ⟨rest, hfirst⟩ := exists_first (hleading remoteAddr)
              refine @ih _ ?_ ?_ hpoll
              · exact hflowing.received hfirst rfl rfl rfl
              · exact isPrefix_erase hleading
      | recvFailed => exact ih hflowing hleading hpoll
      | recvNotReady =>
          cases hpoll
          exact hflowing
      | notReady =>
          cases hpoll
          exact hflowing
      | readyFailed =>
          cases hpoll
          exact hflowing

theorem Flowing.act {action : NetworkAction} (hflowing : system.Flowing)
    (hact : system.act action = some system') : system'.Flowing := by
  unfold System.act at hact
  split at hact
  · cases hact
  · cases hact
    exact hflowing

theorem Flowing.step {action : SystemAction} (hflowing : system.Flowing)
    (hinOrder : system.UdpInOrder action) (hstep : system.step action = some system') :
    system'.Flowing := by
  cases action with
  | connect localAddr remoteAddr draws =>
      simp only [System.step] at hstep
      split_ifs at hstep
      exact hflowing.act hstep
  | resume party => exact hflowing.act hstep
  | accept localAddr seqNumber =>
      simp only [System.step] at hstep
      split_ifs at hstep
      exact hflowing.act hstep
  | call index call =>
      simp only [System.step] at hstep
      split at hstep
      · cases hstep
      · exact hflowing.act hstep
  | drop party => exact hflowing.act hstep
  | release localAddr =>
      cases hstep
      exact hflowing
  | pollSender localAddr yields pollSendTo fuel =>
      simp only [System.step] at hstep
      split at hstep
      · cases hstep
      · split at hstep
        · cases hstep
        · cases hstep
          intro source destination
          dsimp only
          rw [← List.append_assoc, List.filter_append, List.filter_append, hflowing]
  | pollReceiver localAddr answers =>
      have hleading := isPrefix_of_inOrder hinOrder
      simp only [System.step] at hstep
      split_ifs at hstep
      · split at hstep
        · rename_i polled hpoll
          cases hstep
          exact hflowing.pollWith hleading hpoll
        · rename_i polled hpoll
          cases hstep
          have hpolled : polled.Flowing := hflowing.pollWith hleading hpoll
          exact hpolled
        · cases hstep
      · cases hstep
        exact hflowing
  | duplicate frame => cases hinOrder
  | lose frame => cases hinOrder

end System

/-- **Datagrams are conserved between two sockets.** In every run, what an existing socket has passed to
`send_to` is, in order, what was transmitted from there followed by what waits in the buffer of its send
task and in its channel: no packet is refused, lost, repeated or moved. And if UDP keeps the order of the
datagrams between two sockets and neither loses nor copies any, what was transmitted from one socket to
another is, in order and byte for byte, what was received followed by what is on the wire. -/
theorem datagrams_conserved {actions : List SystemAction} {final : System}
    (hexec : Run.exec System.step System.init actions = some final) :
    (∀ addr, final.upgrades addr = true →
        (final.journal.network.passed.filter fun datagram => datagram.source = addr).map Datagram.frame
          = (final.transmitted.filter fun frame => frame.source = addr)
            ++ (final.waiting addr).map fun item => ⟨addr, item.2, item.1.intoBytes⟩)
      ∧ (Run.All System.step System.UdpInOrder System.init actions → ∀ source destination,
        final.transmitted.filter (Frame.between source destination)
          = (final.received ++ final.wire).filter (Frame.between source destination)) := by
  refine ⟨System.conserved_of_exec hexec, fun hall => ?_⟩
  exact Run.exec_invariant_of_all (motive := System.Flowing)
    (fun _ _ _ hflowing hinOrder hstep => hflowing.step hinOrder hstep) (fun _ _ => rfl) hall hexec

theorem datagrams_conserved_orderly :
    Run.exec System.step System.init orderlyActions = some orderly
      ∧ orderly.received.length = 4 ∧ (orderly.waiting (.v4 0x7F000001 9001)).length = 1
      ∧ (∀ addr, orderly.upgrades addr = true →
        (orderly.journal.network.passed.filter fun datagram => datagram.source = addr).map
            Datagram.frame
          = (orderly.transmitted.filter fun frame => frame.source = addr)
            ++ (orderly.waiting addr).map fun item => ⟨addr, item.2, item.1.intoBytes⟩)
      ∧ ∀ source destination, orderly.transmitted.filter (Frame.between source destination)
        = (orderly.received ++ orderly.wire).filter (Frame.between source destination) := by
  have hexec : Run.exec System.step System.init orderlyActions = some orderly :=
    (Option.some_get _).symm
  have hinOrder : Run.All System.step System.InOrder System.init orderlyActions := by decide
  have hudp : Run.All System.step System.UdpInOrder System.init orderlyActions :=
    Run.all_mono (fun _ _ hinOrder => hinOrder.udp) hinOrder
  obtain ⟨hconserved, hflowing⟩ := datagrams_conserved hexec
  exact ⟨hexec, by decide, by decide, hconserved, hflowing hudp⟩

end UtpSafety
