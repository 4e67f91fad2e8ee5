import UtpSafety.Sender

/-!
# The order of sending

What a poll of the send task fetches goes to the end of its buffer, and what it sends goes off the
front (`poll_keeps`), so the pairs that were sent, the buffer and the channel together are at all
times the pairs that were passed to `send_to`, in order. The pairs that were sent are those for which
the socket answered an attempt with success (`accepted_of_exec`).

Whether a poll comes to an end is another matter: a packet that cannot be sent is tried again and
again, and everything behind it waits (`sends_all_of_runFor`).
-/

namespace UtpSafety

/-- How many of the queued pairs a poll fetches. -/
def SenderEnv.taken (env : SenderEnv) : List (Packet × SocketAddr) → Nat
  | [] => 0
  | _ :: rest => if env.yields (rest.length + 1) then 0 else env.taken rest + 1

/-- Of the pairs that a poll attempts to send, one after the other, those for which the socket reports
success. -/
def SenderEnv.accepted (env : SenderEnv) (attempts : List (Packet × SocketAddr)) :
    List (Packet × SocketAddr) :=
  (attempts.zipIdx.filter fun attempt =>
    env.pollSendTo attempt.2 attempt.1.1.intoBytes attempt.1.2 = .sent).map Prod.fst

namespace SenderEnv

variable {env : SenderEnv} {attempts : List (Packet × SocketAddr)} {item : Packet × SocketAddr}

theorem accepted_concat_of_sent
    (hsent : env.pollSendTo attempts.length item.1.intoBytes item.2 = .sent) :
    env.accepted (attempts ++ [item]) = env.accepted attempts ++ [item] := by
  simp [accepted, List.zipIdx_append, hsent]

theorem accepted_concat_of_ne
    (hsent : env.pollSendTo attempts.length item.1.intoBytes item.2 ≠ .sent) :
    env.accepted (attempts ++ [item]) = env.accepted attempts := by
  simp [accepted, List.zipIdx_append, hsent]

theorem exists_answer_of_accepted (hitem : item ∈ env.accepted attempts) :
    ∃ attempt, env.pollSendTo attempt item.1.intoBytes item.2 = .sent := by
  obtain ⟨attempt, hattempt, rfl⟩ := List.mem_map.mp hitem
  exact ⟨attempt.2, of_decide_eq_true (List.mem_filter.mp hattempt).2⟩

end SenderEnv

namespace PacketSender

theorem fetch_eq (env : SenderEnv) (sender : PacketSender) (queue : List (Packet × SocketAddr)) :
    sender.fetch env queue
      = (⟨{ sender.outgoingRx with queue := queue.drop (env.taken queue) },
          sender.outgoingBuffer ++ queue.take (env.taken queue)⟩,
        (queue.drop (env.taken queue)).isEmpty && (!env.yields 0 && sender.outgoingRx.closed)) := by
  induction queue generalizing sender with
  | nil => simp [fetch, SenderEnv.taken]
  | cons item rest ih =>
      rw [fetch]
      split_ifs with hyields
      · simp [SenderEnv.taken, hyields]
      · rw [ih]
        simp [SenderEnv.taken, hyields]

theorem sendNext_next {env : SenderEnv} {sending sending' : Sending}
    (hbody : sendNext env sending = .next sending') :
    ∃ item rest, sending.outgoingBuffer = item :: rest
      ∧ ((env.pollSendTo sending.attempts item.1.intoBytes item.2 = .sent
          ∧ sending' = ⟨sending.attempts + 1, rest, sending.sent ++ [item]⟩)
        ∨ env.pollSendTo sending.attempts item.1.intoBytes item.2 = .failed
          ∧ sending' = ⟨sending.attempts + 1, item :: rest, sending.sent⟩) := by
  unfold sendNext at hbody
  split at hbody
  · cases hbody
  · rename_i packet remoteAddr rest hbuffer
    refine ⟨(packet, remoteAddr), rest, hbuffer, ?_⟩
    dsimp only at hbody
    split at hbody
    · rename_i hsent
      cases hbody
      exact Or.inl ⟨hsent, rfl⟩
    · rename_i hfailed
      cases hbody
      exact Or.inr ⟨hfailed, rfl⟩
    · cases hbody

theorem sendNext_done {env : SenderEnv} {sending final : Sending}
    (hbody : sendNext env sending = .done final) :
    (sending.outgoingBuffer = [] ∧ final = sending)
      ∨ ∃ item rest, sending.outgoingBuffer = item :: rest
        ∧ env.pollSendTo sending.attempts item.1.intoBytes item.2 = .notReady
        ∧ final = ⟨sending.attempts + 1, item :: rest, sending.sent⟩ := by
  unfold sendNext at hbody
  split at hbody
  · rename_i hempty
    cases hbody
    exact Or.inl ⟨hempty, rfl⟩
  · rename_i packet remoteAddr rest hbuffer
    dsimp only at hbody
    split at hbody
    · cases hbody
    · cases hbody
    · rename_i hnotReady
      cases hbody
      exact Or.inr ⟨(packet, remoteAddr), rest, hbuffer, hnotReady, rfl⟩

/-- Whatever the socket answers, the send loop sends from the front of the buffer. -/
theorem sendNext_keeps {env : SenderEnv} {fuel : Nat} {sending final : Sending}
    (hrun : Loop.runFor (sendNext env) fuel sending = some final) :
    final.sent ++ final.outgoingBuffer = sending.sent ++ sending.outgoingBuffer := by
  apply Loop.runFor_invariant (motive := fun state : Sending =>
    state.sent ++ state.outgoingBuffer = sending.sent ++ sending.outgoingBuffer)
    (fun state : Sending => state.sent ++ state.outgoingBuffer = sending.sent ++ sending.outgoingBuffer)
    ?_ ?_ rfl hrun
  · intro state state' hstate hbody
    obtain ⟨item, rest, hbuffer, ⟨-, rfl⟩ | ⟨-, rfl⟩⟩ := sendNext_next hbody
    · simpa [hbuffer] using hstate
    · rw [← hstate, hbuffer]
  · intro state value hstate hbody
    obtain ⟨-, rfl⟩ | ⟨item, rest, hbuffer, -, rfl⟩ := sendNext_done hbody
    · exact hstate
    · rw [← hstate, hbuffer]

/-- The send loop counts as sent what the socket accepted, and nothing else. -/
theorem sendNext_accepted {env : SenderEnv} {fuel : Nat} {buffer : List (Packet × SocketAddr)}
    {final : Sending} (hrun : Loop.runFor (sendNext env) fuel ⟨0, buffer, []⟩ = some final) :
    ∃ attempts, final.sent = env.accepted attempts := by
  apply Loop.runFor_invariant (motive := fun state : Sending => ∃ attempts,
    state.attempts = attempts.length ∧ state.sent = env.accepted attempts)
    (fun state : Sending => ∃ attempts, state.sent = env.accepted attempts)
    ?_ ?_ ⟨[], rfl, rfl⟩ hrun
  · rintro state state' ⟨attempts, hattempts, haccepted⟩ hbody
    obtain ⟨item, rest, -, ⟨hsent, rfl⟩ | ⟨hfailed, rfl⟩⟩ := sendNext_next hbody
    · rw [hattempts] at hsent
      refine ⟨attempts ++ [item], by simp [hattempts], ?_⟩
      rw [SenderEnv.accepted_concat_of_sent hsent, haccepted]
    · have hne : env.pollSendTo attempts.length item.1.intoBytes item.2 ≠ .sent := by
        rw [← hattempts, hfailed]
        decide
      refine ⟨attempts ++ [item], by simp [hattempts], ?_⟩
      rw [SenderEnv.accepted_concat_of_ne hne, haccepted]
  · rintro state value ⟨attempts, -, haccepted⟩ hbody
    obtain ⟨-, rfl⟩ | ⟨item, rest, -, -, rfl⟩ := sendNext_done hbody
    · exact ⟨attempts, haccepted⟩
    · exact ⟨attempts, haccepted⟩

/-- **A poll keeps the order.** -/
theorem poll_keeps {env : SenderEnv} {fuel : Nat} {sender : PacketSender} {outcome : SenderOutcome}
    (hpoll : sender.poll env fuel = some outcome) :
    outcome.sent ++ outcome.sender.outgoingBuffer ++ outcome.sender.outgoingRx.queue
      = sender.outgoingBuffer ++ sender.outgoingRx.queue := by
  unfold poll at hpoll
  split_ifs at hpoll with hupgrades
  · rw [fetch_eq] at hpoll
    dsimp only at hpoll
    split_ifs at hpoll with hended
    · cases hpoll
      simp
    · simp only [bind, Option.bind_eq_some_iff, pure, Option.some.injEq] at hpoll
      obtain ⟨sending, hrun, rfl⟩ := hpoll
      let queue := sender.outgoingRx.queue
      calc sending.sent ++ sending.outgoingBuffer ++ queue.drop (env.taken queue)
          = [] ++ (sender.outgoingBuffer ++ queue.take (env.taken queue))
              ++ queue.drop (env.taken queue) := by rw [sendNext_keeps hrun]
        _ = sender.outgoingBuffer ++ queue := by
          rw [List.nil_append, List.append_assoc, List.take_append_drop]
  · cases hpoll
    simp

/-- **A poll counts as sent what the socket accepted.** -/
theorem poll_accepted {env : SenderEnv} {fuel : Nat} {sender : PacketSender} {outcome : SenderOutcome}
    (hpoll : sender.poll env fuel = some outcome) :
    ∃ attempts, outcome.sent = env.accepted attempts := by
  unfold poll at hpoll
  split_ifs at hpoll with hupgrades
  · dsimp only at hpoll
    split_ifs at hpoll with hended
    · cases hpoll
      exact ⟨[], rfl⟩
    · simp only [bind, Option.bind_eq_some_iff, pure, Option.some.injEq] at hpoll
      obtain ⟨sending, hrun, rfl⟩ := hpoll
      exact sendNext_accepted hrun
  · cases hpoll
    exact ⟨[], rfl⟩

end PacketSender

/-- What the history is to have of an action as sent. -/
inductive SendAction.Accepts : SendAction → List (Packet × SocketAddr) → Prop
  | sendTo (packet : Packet) (remoteAddr : SocketAddr) : Accepts (.sendTo packet remoteAddr) []
  | poll (env : SenderEnv) (fuel : Nat) (attempts : List (Packet × SocketAddr)) :
      Accepts (.poll env fuel) (env.accepted attempts)

/-- The pairs that an action passes to `send_to`. -/
def SendAction.passed : SendAction → List (Packet × SocketAddr)
  | .sendTo packet remoteAddr => [(packet, remoteAddr)]
  | .poll _ _ => []

namespace SendTask

/-- What each action does. -/
inductive Stepped (task : SendTask) : SendAction → SendTask → Prop
  | passed (packet : Packet) (remoteAddr : SocketAddr) :
      Stepped task (.sendTo packet remoteAddr) { task with
        sender.outgoingRx.queue := task.sender.outgoingRx.queue ++ [(packet, remoteAddr)]
        passed := task.passed ++ [(packet, remoteAddr)] }
  | polled (env : SenderEnv) (fuel : Nat) (outcome : SenderOutcome)
      (hpoll : task.sender.poll env fuel = some outcome) :
      Stepped task (.poll env fuel) { task with
        sender := outcome.sender, accepted := task.accepted ++ outcome.sent }

theorem stepped_of_step {task task' : SendTask} {action : SendAction}
    (hstep : task.step action = some task') : Stepped task action task' := by
  cases action with
  | sendTo packet remoteAddr =>
      cases hstep
      exact .passed packet remoteAddr
  | poll env fuel =>
      simp only [SendTask.step] at hstep
      split at hstep
      · cases hstep
      · rename_i outcome hpoll
        split at hstep
        · cases hstep
        · cases hstep
          exact .polled env fuel outcome hpoll

/-- Nothing is lost, repeated or out of order. -/
def Ordered (task : SendTask) : Prop :=
  task.accepted ++ task.sender.outgoingBuffer ++ task.sender.outgoingRx.queue = task.passed

theorem Ordered.step {task task' : SendTask} {action : SendAction} (hordered : task.Ordered)
    (hstep : task.step action = some task') : task'.Ordered := by
  unfold Ordered at hordered ⊢
  cases stepped_of_step hstep with
  | passed packet remoteAddr =>
      rw [← hordered]
      simp
  | polled env fuel outcome hpoll =>
      have hkeeps := PacketSender.poll_keeps hpoll
      dsimp only
      rw [← hordered]
      simp only [List.append_assoc] at hkeeps ⊢
      rw [hkeeps]

theorem accepts_of_step {task task' : SendTask} {action : SendAction}
    (hstep : task.step action = some task') :
    ∃ items, action.Accepts items ∧ task'.accepted = task.accepted ++ items := by
  cases stepped_of_step hstep with
  | passed packet remoteAddr => exact ⟨[], .sendTo packet remoteAddr, (List.append_nil _).symm⟩
  | polled env fuel outcome hpoll =>
      obtain ⟨attempts, haccepted⟩ := PacketSender.poll_accepted hpoll
      exact ⟨_, .poll env fuel attempts, congrArg (task.accepted ++ ·) haccepted⟩

/-- **What was sent is what the socket accepted**, poll after poll. -/
theorem accepted_of_exec {task final : SendTask} {actions : List SendAction}
    (hexec : Run.exec SendTask.step task actions = some final) :
    ∃ items, List.Forall₂ SendAction.Accepts actions items
      ∧ final.accepted = task.accepted ++ items.flatten :=
  Run.exec_log (fun _ _ _ hstep => accepts_of_step hstep) hexec

theorem passed_of_step {task task' : SendTask} {action : SendAction}
    (hstep : task.step action = some task') : task'.passed = task.passed ++ action.passed := by
  cases stepped_of_step hstep with
  | passed packet remoteAddr => rfl
  | polled env fuel outcome hpoll => exact (List.append_nil _).symm

theorem passed_of_exec {task final : SendTask} {actions : List SendAction}
    (hexec : Run.exec SendTask.step task actions = some final) :
    final.passed = task.passed ++ actions.flatMap SendAction.passed := by
  have hlog : ∃ items, List.Forall₂ (fun action items => action.passed = items) actions items
      ∧ final.passed = task.passed ++ items.flatten :=
    Run.exec_log (fun _ _ _ hstep => ⟨_, rfl, passed_of_step hstep⟩) hexec
  obtain ⟨items, hitems, hpassed⟩ := hlog
  rw [← List.forall₂_map_left_iff, List.forall₂_eq_eq_eq] at hitems
  rw [hpassed, ← hitems, List.flatMap_def]

/-- Each pair that was sent the socket accepted in some poll, with the bytes of the pair's own packet
and its own address. -/
theorem answered_of_accepted {actions : List SendAction} {final : SendTask}
    (hexec : Run.exec SendTask.step SendTask.spawned actions = some final)
    {item : Packet × SocketAddr} (hitem : item ∈ final.accepted) :
    ∃ env fuel attempt, SendAction.poll env fuel ∈ actions
      ∧ env.pollSendTo attempt item.1.intoBytes item.2 = .sent := by
  obtain ⟨items, hitems, haccepted⟩ := accepted_of_exec hexec
  rw [haccepted, show spawned.accepted = [] from rfl, List.nil_append] at hitem
  obtain ⟨action, haction, accepted, haccepts, hitem⟩ := Run.exists_of_mem_flatten hitems hitem
  cases haccepts with
  | sendTo packet remoteAddr => cases hitem
  | poll env fuel attempts =>
      obtain ⟨attempt, hanswer⟩ := SenderEnv.exists_answer_of_accepted hitem
      exact ⟨env, fuel, attempt, haction, hanswer⟩

/-- **The send task loses, repeats and reorders nothing.** After every action of every run, the pairs
whose send returned `Ok`, followed by the buffer and by what is still in the channel, are the pairs
that were passed to `send_to`. -/
theorem sent_in_order {actions : List SendAction} {final : SendTask}
    (hexec : Run.exec SendTask.step SendTask.spawned actions = some final) :
    final.accepted ++ final.sender.outgoingBuffer ++ final.sender.outgoingRx.queue
      = final.passed := by
  have hspawned : spawned.Ordered := rfl
  have hfinal : final.Ordered :=
    Run.exec_invariant (fun _ _ _ hordered hstep => hordered.step hstep) hspawned hexec
  exact hfinal

end SendTask

def numberedPacket (seqNumber : UInt16) : Packet :=
  ⟨.state, 1, 8, 0, 0, 0, seqNumber, 0, [], []⟩

def nearAddr : SocketAddr := .v4 0x7F000001 9001

def farAddr : SocketAddr := .v6 0 9002 0 0

/-- A socket that fails once, sends once and is then not ready. -/
def hesitating : SenderEnv :=
  ⟨true, fun _ => false, fun attempt _ _ =>
    if attempt = 0 then .failed else if attempt = 1 then .sent else .notReady⟩

def hesitatingActions : List SendAction :=
  [.sendTo (numberedPacket 1) nearAddr, .sendTo (numberedPacket 2) farAddr, .poll hesitating 4,
    .sendTo (numberedPacket 3) nearAddr]

def hesitated : SendTask :=
  (Run.exec SendTask.step SendTask.spawned hesitatingActions).get (by decide)

theorem sent_in_order_hesitated :
    Run.exec SendTask.step SendTask.spawned hesitatingActions = some hesitated
      ∧ hesitated.accepted = [(numberedPacket 1, nearAddr)]
      ∧ hesitated.sender.outgoingBuffer = [(numberedPacket 2, farAddr)]
      ∧ hesitated.accepted ++ hesitated.sender.outgoingBuffer ++ hesitated.sender.outgoingRx.queue
        = hesitated.passed := by
  have hexec : Run.exec SendTask.step SendTask.spawned hesitatingActions = some hesitated :=
    (Option.some_get _).symm
  exact ⟨hexec, by decide, by decide, SendTask.sent_in_order hexec⟩

/-! ### Destinations that cannot be reached -/

/-- A socket that exists and, by the destination alone, accepts a datagram or fails. -/
def SenderEnv.reaching (accepts : SocketAddr → Bool) (yields : Nat → Bool) : SenderEnv where
  upgrades := true
  yields := yields
  pollSendTo _ _ remoteAddr := if accepts remoteAddr then .sent else .failed

namespace PacketSender

variable {accepts : SocketAddr → Bool} {yields : Nat → Bool}

theorem sends_all_of_runFor {fuel : Nat} {buffer : List (Packet × SocketAddr)} {final : Sending}
    (hrun : Loop.runFor (sendNext (.reaching accepts yields)) fuel ⟨0, buffer, []⟩ = some final) :
    final.sent = buffer ∧ ∀ item ∈ buffer, accepts item.2 = true := by
  apply Loop.runFor_invariant (motive := fun state : Sending =>
    state.sent ++ state.outgoingBuffer = buffer ∧ ∀ item ∈ state.sent, accepts item.2 = true)
    (fun state : Sending => state.sent = buffer ∧ ∀ item ∈ buffer, accepts item.2 = true)
    ?_ ?_ ⟨rfl, by simp⟩ hrun
  · rintro state state' ⟨hbuffer, hsent⟩ hbody
    obtain ⟨item, rest, hfront, ⟨haccepted, rfl⟩ | ⟨-, rfl⟩⟩ := sendNext_next hbody
    · rw [hfront] at hbuffer
      refine ⟨by simpa using hbuffer, List.forall_mem_append.mpr ⟨hsent, ?_⟩⟩
      rw [List.forall_mem_singleton]
      simpa [SenderEnv.reaching] using haccepted
    · rw [hfront] at hbuffer
      exact ⟨hbuffer, hsent⟩
  · rintro state value ⟨hbuffer, hsent⟩ hbody
    obtain ⟨hempty, rfl⟩ | ⟨item, rest, -, hnotReady, -⟩ := sendNext_done hbody
    · rw [hempty, List.append_nil] at hbuffer
      exact ⟨hbuffer, hbuffer ▸ hsent⟩
    · simp only [SenderEnv.reaching] at hnotReady
      split_ifs at hnotReady

theorem runFor_sends_all {attempts : Nat} {buffer sent : List (Packet × SocketAddr)}
    (hbuffer : ∀ item ∈ buffer, accepts item.2 = true) :
    Loop.runFor (sendNext (.reaching accepts yields)) (buffer.length + 1) ⟨attempts, buffer, sent⟩
      = some ⟨attempts + buffer.length, [], sent ++ buffer⟩ := by
  induction buffer generalizing attempts sent with
  | nil => simp [Loop.runFor, sendNext]
  | cons item rest ih =>
      have haccepts := hbuffer item (by simp)
      have hpass : sendNext (.reaching accepts yields) ⟨attempts, item :: rest, sent⟩
          = .next ⟨attempts + 1, rest, sent ++ [item]⟩ := by
        simp [sendNext, SenderEnv.reaching, haccepts]
      rw [List.length_cons, Loop.runFor_next hpass,
        ih fun item hmem => hbuffer item (List.mem_cons_of_mem _ hmem)]
      simp [Nat.add_assoc, Nat.add_comm 1]

theorem poll_reaching {sender : PacketSender} (hopen : sender.outgoingRx.closed = false) (fuel : Nat) :
    let env := SenderEnv.reaching accepts yields
    let queue := sender.outgoingRx.queue
    let buffer := sender.outgoingBuffer ++ queue.take (env.taken queue)
    sender.poll env fuel = (Loop.runFor (sendNext env) fuel ⟨0, buffer, []⟩).map fun sending =>
      ⟨⟨{ sender.outgoingRx with queue := queue.drop (env.taken queue) }, sending.outgoingBuffer⟩,
        sending.sent, .pending⟩ := by
  intro env queue buffer
  have hupgrades : env.upgrades = true := rfl
  simp only [poll, hupgrades, if_true, fetch_eq, hopen, Bool.and_false, Bool.false_eq_true, if_false]
  rw [Option.map_eq_bind]
  rfl

/-- **When an unreachable destination does not block the others.** One poll returns with every packet
for an accepting destination sent, in order, if and only if every packet that it fetches or finds in
its buffer is for an accepting destination, and none is that the channel withholds. -/
theorem poll_sends_reachable_iff {sender : PacketSender}
    (hopen : sender.outgoingRx.closed = false) (accepts : SocketAddr → Bool) (yields : Nat → Bool) :
    let env := SenderEnv.reaching accepts yields
    let queue := sender.outgoingRx.queue
    (∃ fuel outcome, sender.poll env fuel = some outcome
      ∧ outcome.sent = (sender.outgoingBuffer ++ queue).filter fun item => accepts item.2) ↔
    (∀ item ∈ sender.outgoingBuffer ++ queue.take (env.taken queue), accepts item.2 = true)
      ∧ ∀ item ∈ queue.drop (env.taken queue), accepts item.2 = false := by
  intro env queue
  have hsplit : sender.outgoingBuffer ++ queue
      = (sender.outgoingBuffer ++ queue.take (env.taken queue)) ++ queue.drop (env.taken queue) := by
    rw [List.append_assoc, List.take_append_drop]
  rw [hsplit, List.filter_append]
  generalize hbuffer : sender.outgoingBuffer ++ queue.take (env.taken queue) = buffer
  generalize hleft : queue.drop (env.taken queue) = left
  constructor
  · rintro ⟨fuel, outcome, hpoll, hsent⟩
    rw [poll_reaching hopen fuel, Option.map_eq_some_iff] at hpoll
    obtain ⟨final, hrun, rfl⟩ := hpoll
    rw [hbuffer] at hrun
    obtain ⟨hall, haccepts⟩ := sends_all_of_runFor hrun
    refine ⟨haccepts, ?_⟩
    dsimp only at hsent
    rw [hall, List.filter_eq_self.mpr haccepts, List.self_eq_append_right, List.filter_eq_nil_iff]
      at hsent
    exact fun item hitem => by simpa using hsent item hitem
  · rintro ⟨haccepts, hrefused⟩
    have hnone : left.filter (fun item => accepts item.2) = [] := by
      rw [List.filter_eq_nil_iff]
      exact fun item hitem => by simpa using hrefused item hitem
    have hpoll : sender.poll env (buffer.length + 1)
        = some ⟨⟨{ sender.outgoingRx with queue := left }, []⟩, buffer, .pending⟩ := by
      rw [poll_reaching hopen, hbuffer, runFor_sends_all haccepts, ← hleft]
      rfl
    refine ⟨_, _, hpoll, ?_⟩
    rw [List.filter_eq_self.mpr haccepts, hnone, List.append_nil]

theorem poll_sends_reachable_iff_near :
    ∃ fuel outcome, poll (.reaching (· = nearAddr) fun _ => false) fuel
        ⟨⟨[(numberedPacket 2, nearAddr)], false⟩, [(numberedPacket 1, nearAddr)]⟩ = some outcome
      ∧ outcome.sent = [(numberedPacket 1, nearAddr), (numberedPacket 2, nearAddr)] :=
  (poll_sends_reachable_iff rfl (· = nearAddr) fun _ => false).mpr ⟨by decide, by decide⟩

/-- A packet for a destination out of reach, and one behind it that could be sent. -/
theorem poll_never_returns :
    ¬∃ fuel outcome, poll (.reaching (· = nearAddr) fun _ => false) fuel
        ⟨⟨[], false⟩, [(numberedPacket 1, farAddr), (numberedPacket 2, nearAddr)]⟩ = some outcome := by
  rintro ⟨fuel, outcome, hpoll⟩
  rw [poll_reaching rfl, Option.map_eq_some_iff] at hpoll
  obtain ⟨final, hrun, -⟩ := hpoll
  obtain ⟨-, haccepts⟩ := sends_all_of_runFor hrun
  exact absurd (haccepts (numberedPacket 1, farAddr) (by simp)) (by decide)

end PacketSender

end UtpSafety
