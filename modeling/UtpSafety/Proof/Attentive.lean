import UtpSafety.Proof.Fifo
import UtpSafety.Proof.Pipeline
import UtpSafety.Proof.Perfect

/-!
# A reader that keeps up

Order alone does not see every packet through: a data packet that a poll finds more than 128 numbers
ahead is suspicious and gone for good. So the reader has to keep up. When no read and no flush finds
more than 128 data packets that are not assembled (`Solo.Attentive`), and the packets arrive in order,
then none is ever ignored, and every one that has arrived is assembled, held or still in the mailbox
(`Solo.Orderly`), however often the numbers have come round.
-/

namespace UtpSafety

open UtpStream

/-- The data packets are numbered one after the other from the number after `a` on. -/
def Numbered (a : UInt16) (packets : List Packet) : Prop :=
  ∀ i packet, (dataOf packets)[i]? = some packet → packet.seqNumber = Serial.offset a (i + 1)

theorem Numbered.of_append {a : UInt16} {packets more : List Packet}
    (hnumbered : Numbered a (packets ++ more)) : Numbered a packets := by
  intro i packet hpacket
  apply hnumbered i packet
  rw [dataOf_append, List.getElem?_append_left (List.getElem?_eq_some_iff.mp hpacket).1]
  exact hpacket

/-- The number of data packets that have reached the stream and are not assembled. -/
def UtpStream.backlog (stream : UtpStream) : Nat :=
  stream.inboundData.keys.card + (dataOf stream.inboundPackets.queue).length

namespace Holds

variable {inboundData : Finmap fun _ : UInt16 => Bytes} {base : UInt16} {stream : UtpStream}
  {held : List Bytes}

theorem card (hholds : Holds inboundData base held) (hlength : held.length ≤ 65536) :
    inboundData.keys.card = held.length := by
  have hkeys : inboundData.keys = ((Serial.number base held).map Prod.fst).toFinset := by
    ext number
    rw [Finmap.mem_keys, Finmap.mem_iff, List.mem_toFinset, List.mem_map]
    constructor
    · rintro ⟨data, hlookup⟩
      exact ⟨(number, data), (hholds number data).mp hlookup, rfl⟩
    · rintro ⟨⟨number, data⟩, hmem, rfl⟩
      exact ⟨data, (hholds number data).mpr hmem⟩
  rw [hkeys, List.toFinset_card_of_nodup ((Serial.nodup_number_iff base held).mpr hlength),
    List.length_map, Serial.length_number]

theorem inboundData_absorb_of_ne {packet : Packet} (htype : packet.packetType ≠ .data)
    (receivedAt : UInt32) : (stream.absorb receivedAt packet).inboundData = stream.inboundData := by
  unfold UtpStream.absorb
  split_ifs
  · split
    · rename_i hdata
      exact absurd hdata htype
    · rfl
    · rfl
  · rfl

/-- Between the data packets of the queue other packets may stand. -/
theorem absorbMixed (env : Env) {queue : List Packet}
    (hholds : Holds stream.inboundData (stream.ackNumber + 1) held)
    (hqueue : ∀ i packet, (dataOf queue)[i]? = some packet →
      packet.seqNumber = Serial.offset (stream.ackNumber + 1) (held.length + i))
    (hfew : held.length + (dataOf queue).length ≤ 128) :
    Holds (UtpStream.absorbQueue env stream queue).inboundData (stream.ackNumber + 1)
      (held ++ (dataOf (queue.take (env.taken queue))).map Packet.data) := by
  induction queue generalizing stream held with
  | nil => simpa [UtpStream.absorbQueue, dataOf] using hholds
  | cons packet rest ih =>
      rw [UtpStream.absorbQueue]
      split_ifs with hyields
      · simpa [Env.taken, hyields, dataOf] using hholds
      · have htaken : (packet :: rest).take (env.taken (packet :: rest))
            = packet :: rest.take (env.taken rest) := by
          simp [Env.taken, hyields]
        have hack : (stream.absorb (env.receivedAt rest.length) packet).ackNumber
            = stream.ackNumber := by
          rw [absorb_frame]
        rw [htaken, ← hack]
        by_cases htype : packet.packetType = .data
        · have hcons : ∀ packets, dataOf (packet :: packets) = packet :: dataOf packets :=
            fun packets => List.filter_cons_of_pos (by simpa using htype)
          rw [hcons] at hqueue hfew ⊢
          rw [List.length_cons] at hfew
          rw [List.map_cons, List.append_cons]
          apply ih
          · have habsorb := @Holds.absorb stream packet held
              (by rwa [List.take_of_length_le (by omega)]) htype (hqueue 0 packet rfl) (by omega)
              (env.receivedAt rest.length)
            rw [List.take_of_length_le (by rw [List.length_append, List.length_singleton]; omega)]
              at habsorb
            rwa [hack]
          · intro i other hother
            rw [hack, hqueue (i + 1) other hother, List.length_append, List.length_singleton]
            congr 1
            omega
          · rw [List.length_append, List.length_singleton]
            omega
        · rw [dataOf_cons_of_ne htype] at hqueue hfew ⊢
          rw [← hack] at hqueue hholds
          refine ih ?_ hqueue hfew
          rwa [inboundData_absorb_of_ne htype]

/-- Assembly takes all that is held. -/
theorem assemble (hholds : Holds stream.inboundData (stream.ackNumber + 1) held)
    (hfew : held.length ≤ 128) :
    stream.assemble.inboundData = ∅
      ∧ stream.assemble.ackNumber = Serial.offset stream.ackNumber held.length
      ∧ stream.assemble.receivedData = stream.receivedData ++ held.flatten := by
  obtain ⟨run, hassembled⟩ := exists_assembled stream
  obtain ⟨rfl, hempty⟩ := hholds.assembled (by omega) hassembled
  refine ⟨hempty, ?_, ?_⟩
  · rw [hassembled.frame]
  · rw [hassembled.frame]

end Holds

namespace Solo

/-- Every read and every flush finds so few data packets waiting that the last is not suspicious. -/
def Attentive (solo : Solo) : SoloAction → Prop
  | .pollRead _ _ | .pollFlush _ => solo.stream.backlog ≤ 128
  | _ => True

/-- The payloads `run` are assembled and the payloads `held` are held. The data packets that have
arrived are these, in order, and those that are still in the mailbox. -/
structure Orderly (a : UInt16) (run held : List Bytes) (solo : Solo) : Prop where
  ackNumber : solo.stream.ackNumber = Serial.offset a run.length
  bytes : solo.delivered ++ solo.stream.receivedData = run.flatten
  few : held.length ≤ 128
  holds : Holds solo.stream.inboundData (solo.stream.ackNumber + 1) held
  arrived : ∃ front, dataOf solo.arrived = front ++ dataOf solo.stream.inboundPackets.queue
    ∧ front.map Packet.data = run ++ held

variable {a : UInt16} {run held : List Bytes} {solo solo' : Solo} {action : SoloAction}

theorem Orderly.drained (horderly : Orderly a run held solo) (hnumbered : Numbered a solo.arrived)
    (hfew : solo.stream.backlog ≤ 128) (env : Env) :
    ∃ held', Orderly a run held' { solo with stream := (solo.drained env).1 } := by
  obtain ⟨front, harrived, hfront⟩ := horderly.arrived
  have hlength : front.length = run.length + held.length := by
    rw [← List.length_append, ← hfront, List.length_map]
  have hbacklog : solo.stream.backlog
      = held.length + (dataOf solo.stream.inboundPackets.queue).length := by
    rw [backlog, horderly.holds.card (by have := horderly.few; omega)]
  have hsplit : dataOf solo.stream.inboundPackets.queue
      = dataOf (solo.taken env) ++ dataOf (solo.drained env).1.inboundPackets.queue := by
    rw [← dataOf_append, taken_append]
  have hholds := @Holds.absorbMixed solo.stream held env solo.stream.inboundPackets.queue
    horderly.holds ?_ (by omega)
  · refine ⟨held ++ (dataOf (solo.taken env)).map Packet.data, ?_, ?_, ?_, ?_, ?_⟩
    · rw [ackNumber_drained]
      exact horderly.ackNumber
    · rw [receivedData_drained]
      exact horderly.bytes
    · rw [hsplit, List.length_append] at hbacklog
      rw [List.length_append, List.length_map]
      omega
    · rw [ackNumber_drained, Solo.drained, drained_frame]
      exact hholds
    · refine ⟨front ++ dataOf (solo.taken env), ?_, ?_⟩
      · rw [harrived, hsplit, List.append_assoc]
      · rw [List.map_append, hfront, List.append_assoc]
  · intro i packet hpacket
    rw [horderly.ackNumber, Serial.offset_add_one_left, Serial.offset_offset]
    have hnumber := hnumbered (front.length + i) packet ?_
    · rw [hnumber, hlength]
      congr 1
      omega
    · rw [harrived, List.getElem?_append_right (by omega), Nat.add_sub_cancel_left]
      exact hpacket

theorem Orderly.assemble (horderly : Orderly a run held solo) :
    Orderly a (run ++ held) [] { solo with stream := solo.stream.assemble } := by
  obtain ⟨hempty, hack, hreceived⟩ := horderly.holds.assemble horderly.few
  refine ⟨?_, ?_, Nat.zero_le _, ?_, ?_⟩
  · dsimp only
    rw [hack, horderly.ackNumber, Serial.offset_offset, List.length_append]
  · dsimp only
    rw [hreceived, List.flatten_append, ← horderly.bytes, List.append_assoc]
  · dsimp only
    rw [hempty]
    exact holds_empty _
  · rw [inboundPackets_assemble, List.append_nil]
    exact horderly.arrived

theorem Orderly.moved (horderly : Orderly a run held solo) (hnumbered : Numbered a solo.arrived)
    (hattentive : solo.Attentive action) (hmoved : Moved solo action solo') :
    ∃ run' held', Orderly a run' held' solo' := by
  cases hmoved with
  | received packet hopen hhandled =>
      obtain ⟨front, harrived, hfront⟩ := horderly.arrived
      refine ⟨run, held, horderly.ackNumber, horderly.bytes, horderly.few, horderly.holds, front, ?_,
        hfront⟩
      simp only [received, dataOf_append, harrived, List.append_assoc]
  | closed =>
      exact ⟨run, held, horderly.ackNumber, horderly.bytes, horderly.few, horderly.holds,
        horderly.arrived⟩
  | wrote env buf =>
      obtain ⟨sent, hstream⟩ := exists_pollWrite_eq_withSent env solo.stream buf
      refine ⟨run, held, ?_⟩
      simp only [Solo.wrote, Solo.after, hstream]
      exact ⟨horderly.ackNumber, horderly.bytes, horderly.few, horderly.holds, horderly.arrived⟩
  | ended env remaining hended =>
      obtain ⟨held', hdrained⟩ := horderly.drained hnumbered hattentive env
      exact ⟨run, held', hdrained⟩
  | refused env remaining hended hqueues =>
      obtain ⟨held', hdrained⟩ := horderly.drained hnumbered hattentive env
      exact ⟨run ++ held', [], hdrained.assemble⟩
  | didRead env remaining hended hqueues =>
      obtain ⟨held', hdrained⟩ := horderly.drained hnumbered hattentive env
      have hassembled := hdrained.assemble
      refine ⟨run ++ held', [], hassembled.ackNumber, ?_, hassembled.few, hassembled.holds,
        hassembled.arrived⟩
      rw [← hassembled.bytes]
      simp only [Solo.didRead, List.append_assoc, List.take_append_drop]
  | flushed env =>
      obtain ⟨held', hdrained⟩ := horderly.drained hnumbered hattentive env
      exact ⟨run, held', hdrained⟩

theorem Moved.exists_arrived (hmoved : Moved solo action solo') :
    ∃ more, solo'.arrived = solo.arrived ++ more := by
  cases hmoved with
  | received packet _ _ => exact ⟨[packet], rfl⟩
  | closed => exact ⟨[], (List.append_nil _).symm⟩
  | wrote env buf => exact ⟨[], (List.append_nil _).symm⟩
  | ended env remaining _ => exact ⟨[], (List.append_nil _).symm⟩
  | refused env remaining _ _ => exact ⟨[], (List.append_nil _).symm⟩
  | didRead env remaining _ _ => exact ⟨[], (List.append_nil _).symm⟩
  | flushed env => exact ⟨[], (List.append_nil _).symm⟩

/-- **Nothing that arrives in order is ignored by a reader that keeps up.** -/
theorem orderly_of_exec {stream : UtpStream} {actions : List SoloAction} {final : Solo}
    (hmade : stream.Made) (hexec : Run.exec step (start stream) actions = some final)
    (hall : Run.All step Attentive (start stream) actions)
    (hnumbered : Numbered stream.ackNumber final.arrived) :
    ∃ run held, Orderly stream.ackNumber run held final := by
  cases hmade with
  | new localAddr connectionIdRecv connectionIdSend remoteAddr inboundPackets seqNumber ackNumber
      hqueue hopened =>
      refine invariant_of_exec (motive := fun state : Solo => Numbered ackNumber state.arrived →
        ∃ run held, Orderly ackNumber run held state) ?_ ?_ ?_ hall hexec hnumbered
      · intro state action state' horderly hattentive hmoved hnumbered'
        obtain ⟨more, hmore⟩ := hmoved.exists_arrived
        have hbefore : Numbered ackNumber state.arrived := by
          rw [hmore] at hnumbered'
          exact hnumbered'.of_append
        obtain ⟨run, held, horderly⟩ := horderly hbefore
        exact horderly.moved hbefore hattentive hmoved
      · exact hqueue
      · intro _
        exact ⟨[], [], (Serial.offset_zero _).symm, rfl, Nat.zero_le _, holds_empty _, [], rfl, rfl⟩

end Solo

theorem Env.taken_of_ready (env : Env) (hyields : ∀ count, env.yields count = false)
    (queue : List Packet) : env.taken queue = queue.length := by
  induction queue with
  | nil => rfl
  | cons packet rest ih => simp [Env.taken, hyields, ih]

/-! ### In a network -/

def Network.backlog (network : Network) (index : Nat) : Nat :=
  match network.parties[index]? with
  | some ⟨_, _, .streaming stream⟩ => stream.backlog
  | _ => 0

/-- No stream of the network is read or flushed when too much is waiting there. -/
def Network.Attentive (network : Network) : NetworkAction → Prop
  | .call index (.pollRead _ _) | .call index (.pollFlush _) => network.backlog index ≤ 128
  | _ => True

theorem Network.attentive_of_local {network : Network} {action : NetworkAction}
    (hlocal : action.Local → (network.withInFlight []).Attentive action) :
    network.Attentive action := by
  cases action with
  | deliver index => trivial
  | duplicate index => trivial
  | lose index => trivial
  | _ => exact hlocal trivial

namespace Journal

open Network

/-- The reader of every stream has kept up. -/
def Heeded (journal : Journal) : Prop :=
  ∀ index solo, journal.histories index = some solo →
    ∃ stream actions, journal.network.returned index = some stream
      ∧ Run.exec Solo.step (Solo.start stream) actions = some solo
      ∧ Run.All Solo.step Solo.Attentive (Solo.start stream) actions

variable {journal journal' : Journal} {action : NetworkAction} {index : Nat}

theorem Followed.attentive_of_call (hfollowed : journal.Followed) {call : Call}
    (hattentive : journal.network.Attentive (.call index call))
    (hstep : journal.step (.call index call) = some journal') {solo : Solo}
    (hhistory : journal.histories index = some solo) : solo.Attentive call.action := by
  have hnetwork := (step_eq_some.mp hstep).1
  simp only [Network.step] at hnetwork
  split at hnetwork
  · rename_i connection returned stream hparty
    obtain ⟨solo', hhistory', hstream⟩ := hfollowed.exists_history hparty
    obtain rfl : solo' = solo := Option.some.inj (hhistory'.symm.trans hhistory)
    cases call with
    | pollWrite env buf => trivial
    | pollRead env remaining =>
        simp only [Network.Attentive, Network.backlog, hparty, ← hstream] at hattentive
        exact hattentive
    | pollFlush env =>
        simp only [Network.Attentive, Network.backlog, hparty, ← hstream] at hattentive
        exact hattentive
  · cases hnetwork

/-- If the network is attentive to an action, so is every stream to what it sees of it. -/
theorem Followed.all_attentive (hfollowed : journal.Followed)
    (hattentive : journal.network.Attentive action) (hstep : journal.step action = some journal')
    {solo : Solo} (hhistory : journal.histories index = some solo) :
    Run.All Solo.step Solo.Attentive solo (journal.network.seen index action) := by
  cases action with
  | call position call =>
      simp only [seen]
      split_ifs with hposition
      · subst hposition
        exact ⟨hfollowed.attentive_of_call hattentive hstep hhistory, fun _ _ => trivial⟩
      · trivial
  | deliver position =>
      simp only [seen]
      split
      · trivial
      · split_ifs
        · exact ⟨trivial, fun _ _ => trivial⟩
        · trivial
  | connect localAddr remoteAddr draws queues => trivial
  | resume position => trivial
  | accept localAddr seqNumber queues => trivial
  | duplicate position => trivial
  | lose position => trivial
  | drop position => trivial

theorem Heeded.step (hheeded : journal.Heeded) (hfollowed : journal.Followed)
    (hattentive : journal.network.Attentive action)
    (hstep : journal.step action = some journal') : journal'.Heeded := by
  intro index solo' hhistory'
  have hnetwork := (step_eq_some.mp hstep).1
  have hkeeps := (acted_of_step hfollowed.fit hfollowed.healthy hnetwork).keeps
  rcases history_of_step hstep hhistory' with ⟨solo, hhistory, hseen⟩ | ⟨stream, -, hreturned, rfl⟩
  · obtain ⟨stream, actions, hreturned, hexec, hall⟩ := hheeded index solo hhistory
    exact ⟨stream, _, returned_of_keeps hkeeps hreturned, Run.exec_append.mpr ⟨solo, hexec, hseen⟩,
      Run.all_append hall hexec (hfollowed.all_attentive hattentive hstep hhistory)⟩
  · exact ⟨stream, [], hreturned, rfl, trivial⟩

theorem heeded_of_exec {actions : List NetworkAction}
    (hexec : Run.exec Journal.step init actions = some journal)
    (hall : Run.All Journal.step (fun journal => journal.network.Attentive) init actions) :
    journal.Heeded := by
  have hinvariant := Run.exec_invariant_of_all
    (motive := fun state : Journal => state.Followed ∧ state.Heeded) ?_ ⟨followed_init, nofun⟩ hall
    hexec
  · exact hinvariant.2
  · rintro state action state' ⟨hfollowed, hheeded⟩ hattentive hstep
    exact ⟨hfollowed.step hstep, hheeded.step hfollowed hattentive hstep⟩

theorem Followed.healthy_of_alive (hfollowed : journal.Followed) {solo : Solo}
    (hhistory : journal.histories index = some solo) (halive : journal.network.alive index = true) :
    solo.stream.Healthy := by
  cases hparty : journal.network.parties[index]? with
  | none => simp [alive, hparty] at halive
  | some party =>
      simp only [alive, hparty, Option.any_some] at halive
      have hhealthy := hfollowed.healthy.parties party (List.mem_of_getElem? hparty)
      obtain ⟨stream, -, hreturned, -⟩ := hfollowed.made hhistory
      rw [returned_of_get hparty] at hreturned
      obtain ⟨current, hstate⟩ := streaming_of_alive hhealthy halive hreturned
      obtain ⟨solo', hhistory', -, hstream⟩ :=
        hfollowed.follows index party stream hparty hreturned
      obtain rfl : solo' = solo := Option.some.inj (hhistory'.symm.trans hhistory)
      rw [hstream current hstate]
      exact (hhealthy.streaming current hstate).2

variable {i j : Nat} {inbound outbound : Solo}

/-- What is known of the two ends of a connection over UDP that keeps order when the reader keeps up. -/
structure Complete (journal : Journal) (j : Nat) (inbound outbound : Solo) (a : UInt16)
    (run held : List Bytes) : Prop where
  orderly : Solo.Orderly a run held inbound
  numbered : Numbered a inbound.arrived
  queue : outbound.dataSent = dataOf inbound.arrived ++ dataOf (journal.network.flight j)
  seqNumber : outbound.stream.seqNumber = Serial.offset (a + 1) outbound.dataSent.length

theorem Peers.complete {actions : List NetworkAction}
    (hexec : Run.exec Journal.step init actions = some journal)
    (hinOrder : Run.All Journal.step (fun journal => journal.network.InOrder) init actions)
    (hattentive : Run.All Journal.step (fun journal => journal.network.Attentive) init actions)
    (hdistinct : journal.network.Distinct) (hpeers : journal.Peers i j inbound outbound)
    (halive : journal.network.alive i = true) :
    ∃ a run held, journal.Complete j inbound outbound a run held := by
  have hfollowed := followed_of_exec hexec
  have hnetwork : Run.exec Network.step Network.init actions = some journal.network :=
    (@exec_network Journal.init _ _).mpr ⟨journal.histories, hexec⟩
  obtain ⟨-, hfirst⟩ := synAckFirst_of_inOrder allFit_init healthy_init
    (fun _ => ⟨keyed_init, prompt_init⟩) ((@all_network Journal.init actions Network.InOrder).mp hinOrder) hnetwork
    hdistinct
  obtain ⟨receiver, sender, hreceiver, hsender, hpeer⟩ := hpeers.connection
  obtain ⟨first, soloActions, hreturned, hsolo, hall⟩ :=
    heeded_of_exec hexec hattentive i inbound hpeers.inbound
  obtain ⟨first', -, hreturned', hmade, -⟩ := hfollowed.made hpeers.inbound
  obtain rfl : first' = first := Option.some.inj (hreturned'.symm.trans hreturned)
  obtain ⟨second, secondActions, hsecond, hsecondMade, hsecondExec⟩ := hfollowed.made hpeers.outbound
  obtain ⟨payloads, parts, hbooked⟩ := hsecondMade.booked hsecondExec
  have hexpects : first'.ackNumber + 1 = second.seqNumber := by
    refine (greeted_of_exec hfirst hnetwork).expects hdistinct hreceiver hsender hpeer ?_ ?_
    · rw [← returned_of_get hreceiver, hreturned]
    · rw [← returned_of_get hsender, hsecond]
  have hqueue := (fifo_of_exec hexec hinOrder hdistinct).queue hreceiver hsender hpeer
    (by simpa [alive, hreceiver] using halive)
  rw [dataSent_of_history hpeers.outbound, arrivals_of_history hpeers.inbound] at hqueue
  have hnumbered : Numbered first'.ackNumber inbound.arrived := by
    intro position packet hpacket
    rw [← Serial.offset_add_one_left, hexpects]
    apply hbooked.seqNumber_of_get
    rw [hqueue, List.getElem?_append_left (List.getElem?_eq_some_iff.mp hpacket).1]
    exact hpacket
  obtain ⟨run, held, horderly⟩ := Solo.orderly_of_exec hmade hsolo hall hnumbered
  refine ⟨first'.ackNumber, run, held, horderly, hnumbered, hqueue, ?_⟩
  rw [hexpects, hbooked.seqNumber, ← hbooked.map_dataSent, List.length_map]

namespace Complete

variable {a : UInt16} {run held : List Bytes}
  (hcomplete : journal.Complete j inbound outbound a run held)
include hcomplete

/-- Every data packet that was sent is assembled, held, in the mailbox or in flight, in this order. -/
theorem dataSent : ∃ assembled waiting : List Packet,
    outbound.dataSent = assembled ++ waiting ++ dataOf inbound.stream.inboundPackets.queue
        ++ dataOf (journal.network.flight j)
      ∧ assembled.map Packet.data = run
      ∧ waiting.map (fun packet => (packet.seqNumber, packet.data))
        = Serial.number (inbound.stream.ackNumber + 1) held := by
  obtain ⟨front, harrived, hfront⟩ := hcomplete.orderly.arrived
  obtain ⟨assembled, waiting, rfl, hassembled, hwaiting⟩ := List.map_eq_append_iff.mp hfront
  refine ⟨assembled, waiting, by rw [hcomplete.queue, harrived], hassembled, ?_⟩
  apply List.ext_getElem?
  intro i
  rw [List.getElem?_map, Serial.getElem?_number, ← hwaiting, List.getElem?_map]
  cases hpacket : waiting[i]? with
  | none => rfl
  | some packet =>
      have hi := (List.getElem?_eq_some_iff.mp hpacket).1
      have hnumber := hcomplete.numbered (assembled.length + i) packet ?_
      · have hlength : assembled.length = run.length := by rw [← hassembled, List.length_map]
        simp only [Option.map_some, Option.some.injEq, Prod.mk.injEq, and_true]
        rw [hnumber, hcomplete.orderly.ackNumber, Serial.offset_add_one_left, Serial.offset_offset,
          hlength, Nat.add_assoc]
      · rw [harrived, List.append_assoc, List.getElem?_append_right (by omega),
          Nat.add_sub_cancel_left, List.getElem?_append_left hi]
        exact hpacket

/-- When nothing is in flight any more, a read that empties the mailbox has everything, and its ACK says
so. -/
theorem read (hhealthy : inbound.stream.Healthy)
    (hflight : dataOf (journal.network.flight j) = []) (hfew : inbound.stream.backlog ≤ 128)
    {env : Env} (hyields : ∀ count, env.yields count = false) (hqueues : env.queues 0 = true)
    (remaining : Nat) :
    ∃ read, inbound.step (.pollRead env remaining) = some read
      ∧ read.delivered ++ read.stream.receivedData = (outbound.dataSent.map Packet.data).flatten
      ∧ ∃ ack, read.sent = inbound.sent ++ [ack] ∧ ack.1.packetType = .state
        ∧ ack.1.ackNumber + 1 = outbound.stream.seqNumber := by
  have hopen := Solo.open_iff.mpr hhealthy
  obtain ⟨read, hstep, hmoved⟩ := Solo.moved_pollRead hopen.handled env remaining
  refine ⟨read, hstep, ?_⟩
  cases hmoved with
  | ended _ _ hended =>
      rw [(hopen.drained env).1] at hended
      cases hended
  | refused _ _ _ hrefused =>
      rw [hqueues] at hrefused
      cases hrefused
  | didRead =>
      obtain ⟨held', hdrained⟩ :=
        hcomplete.orderly.drained hcomplete.numbered hfew env
      have hassembled := hdrained.assemble
      have hempty : (inbound.drained env).1.inboundPackets.queue = [] := by
        rw [Solo.queue_drained, env.taken_of_ready hyields, List.drop_length]
      have hall : outbound.dataSent.map Packet.data = run ++ held' := by
        obtain ⟨front, harrived, hfront⟩ := hdrained.arrived
        rw [hcomplete.queue, harrived, hflight, hempty]
        simpa [dataOf] using hfront
      refine ⟨?_, _, rfl, rfl, ?_⟩
      · rw [hall, ← hassembled.bytes]
        simp only [Solo.didRead, List.append_assoc, List.take_append_drop]
      · rw [hcomplete.seqNumber, ← List.length_map, hall, Serial.offset_add_one_left,
          ← Serial.offset_add_one]
        exact congrArg (· + 1) hassembled.ackNumber

end Complete

end Journal

/-! ### In a system of tasks -/

namespace System

/-- No stream is read or flushed when more than 128 data packets wait there that are not assembled. -/
def Attentive (system : System) : SystemAction → Prop
  | .call index (.pollRead _ _) | .call index (.pollFlush _) =>
      system.journal.network.backlog index ≤ 128
  | _ => True

instance (system : System) : ∀ action, Decidable (system.Attentive action)
  | .call index (.pollRead _ _) | .call index (.pollFlush _) =>
      inferInstanceAs (Decidable (system.journal.network.backlog index ≤ 128))
  | .call _ (.pollWrite _ _) => isTrue trivial
  | .connect .. | .resume .. | .accept .. | .drop .. | .release .. | .pollSender ..
  | .pollReceiver .. | .duplicate .. | .lose .. => isTrue trivial

/-- The datagrams from one socket to another that are on the wire or wait to be sent, in order. -/
def underway (system : System) (source destination : SocketAddr) : List Frame :=
  (system.wire ++ system.outgoing source).filter (Frame.between source destination)

variable {system : System} {journal : Journal}

theorem Attentive.user {action : SystemAction} (hattentive : system.Attentive action) :
    ∀ networkAction ∈ system.userAction action,
      system.journal.network.Attentive networkAction := by
  intro networkAction hmem
  cases action with
  | call index call =>
      obtain ⟨party, hparty, rfl⟩ := Option.map_eq_some_iff.mp hmem
      cases call with
      | pollWrite env buf => trivial
      | pollRead env remaining => exact hattentive
      | pollFlush env => exact hattentive
  | connect localAddr remoteAddr draws =>
      cases hmem
      trivial
  | resume party =>
      cases hmem
      trivial
  | accept localAddr seqNumber =>
      cases hmem
      trivial
  | drop party =>
      cases hmem
      trivial
  | release localAddr => cases hmem
  | pollSender localAddr yields pollSendTo fuel => cases hmem
  | pollReceiver localAddr answers => cases hmem
  | duplicate frame => cases hmem
  | lose frame => cases hmem

/-- What is in flight between two sockets in the network is under way in the system. -/
theorem Related.map_frame (hrelated : Related True system journal) (source destination : SocketAddr) :
    (journal.network.inFlight.filter (Datagram.between source destination)).map Datagram.frame
      = system.underway source destination := by
  obtain ⟨wired, queued, hcarries⟩ := hrelated.carries
  rw [hcarries.order trivial, underway, outgoing, ← hcarries.wire, ← hcarries.queues,
    ← Datagram.map_frame (hcarries.sources source), ← List.map_append, List.filter_map]
  rfl

/-- All datagrams of one party go the same way, so what it has in flight is among what is under way
there, in the same order. -/
theorem Related.flight_sublist (hrelated : Related True system journal)
    (hkeyed : journal.network.Keyed) {j : Nat} {sender : Party}
    (hsender : journal.network.parties[j]? = some sender) :
    ((journal.network.flight j).map fun packet => (⟨sender.connection.localAddr,
        sender.connection.remoteAddr, packet.intoBytes⟩ : Frame)).Sublist
      (system.underway sender.connection.localAddr sender.connection.remoteAddr) := by
  have hends : ∀ datagram ∈ journal.network.inFlight, datagram.sender = j →
      datagram.source = sender.connection.localAddr
        ∧ datagram.destination = sender.connection.remoteAddr := by
    intro datagram hdatagram hfrom
    obtain ⟨party, hstamped⟩ := hkeyed.datagrams datagram hdatagram
    have hparty := hstamped.sender
    rw [hfrom, hsender, Option.some.injEq] at hparty
    subst hparty
    exact ⟨hstamped.source, hstamped.destination⟩
  have hframes : (journal.network.flight j).map (fun packet => (⟨sender.connection.localAddr,
      sender.connection.remoteAddr, packet.intoBytes⟩ : Frame))
      = (journal.network.inFlight.filter fun datagram => datagram.sender = j).map
        Datagram.frame := by
    rw [Network.flight, List.map_map]
    apply List.map_congr_left
    intro datagram hdatagram
    obtain ⟨hmem, hfrom⟩ := List.mem_filter.mp hdatagram
    obtain ⟨hsource, hdestination⟩ := hends datagram hmem (of_decide_eq_true hfrom)
    rw [Function.comp_apply, ← hsource, ← hdestination]
    rfl
  have hbetween : (journal.network.inFlight.filter fun datagram => datagram.sender = j)
      = (journal.network.inFlight.filter (Datagram.between sender.connection.localAddr
          sender.connection.remoteAddr)).filter fun datagram => datagram.sender = j := by
    rw [List.filter_filter]
    apply List.filter_congr
    intro datagram hdatagram
    rw [Bool.eq_iff_iff, Bool.and_eq_true, Datagram.between_iff, decide_eq_true_eq]
    exact (and_iff_left_of_imp (hends datagram hdatagram)).symm
  rw [hframes, hbetween, ← hrelated.map_frame]
  exact List.filter_sublist.map Datagram.frame

end System

/-- **Every data packet sent is assembled, waits or is under way.** Suppose that UDP keeps the order of
the datagrams between two sockets and neither loses nor copies any, that no socket goes away with packets
that it has not sent, that no routing key is registered twice, and that no stream is read or flushed when
more than 128 data packets wait there that are not assembled. Then, as long as one end of a connection is
there, the data packets that the other end has sent are, in order and one for one, those that are assembled
here, those that are held in `inboundData`, those in the mailbox, and those among the datagrams that are on
the wire or wait to be sent; however often the numbers have come round. Once nothing is under way, a read
that empties the mailbox and whose ACK is queued has everything that was sent, and its ACK acknowledges
everything. -/
theorem dataSent_eq_assembled_append_underway {actions : List SystemAction} {final : System}
    (hall : Run.All System.step System.InOrder System.init actions)
    (hattentive : Run.All System.step System.Attentive System.init actions)
    (hexec : Run.exec System.step System.init actions = some final)
    (hdistinct : final.journal.network.Distinct) {i j : Nat} {inbound outbound : Solo}
    (hpeers : final.journal.Peers i j inbound outbound)
    (halive : final.journal.network.alive i = true) {sender : Party}
    (hsender : final.journal.network.parties[j]? = some sender) :
    let source := sender.connection.localAddr
    let destination := sender.connection.remoteAddr
    (∃ assembled held way : List Packet,
        outbound.dataSent = assembled ++ held ++ dataOf inbound.stream.inboundPackets.queue ++ way
        ∧ inbound.delivered ++ inbound.stream.receivedData = (assembled.map Packet.data).flatten
        ∧ held.length = inbound.stream.inboundData.keys.card
        ∧ (∀ number data, inbound.stream.inboundData.lookup number = some data
          ↔ ∃ packet ∈ held, packet.seqNumber = number ∧ packet.data = data)
        ∧ (way.map fun packet => (⟨source, destination, packet.intoBytes⟩ : Frame)).Sublist
          (final.underway source destination))
      ∧ (final.underway source destination = [] → inbound.stream.backlog ≤ 128 → ∀ env remaining,
        (∀ count, env.yields count = false) → env.queues 0 = true →
        ∃ read, inbound.step (.pollRead env remaining) = some read
          ∧ read.delivered ++ read.stream.receivedData = (outbound.dataSent.map Packet.data).flatten
          ∧ ∃ ack, read.sent = inbound.sent ++ [ack] ∧ ack.1.packetType = .state
            ∧ ack.1.ackNumber + 1 = outbound.stream.seqNumber) := by
  intro source destination
  have hboth := @System.matched_of_exec True (fun journal => journal.network.Attentive) actions final
    (Run.all_and (Run.all_mono (fun _ _ hinOrder _ => hinOrder) hall)
      (Run.all_mono (fun _ _ hattentive => hattentive.user) hattentive)) hexec
  obtain ⟨networkActions, journal, hjournal, hpermitted, hrelated⟩ := hboth
  have hinOrder : Run.All Journal.step (fun journal => journal.network.InOrder) Journal.init
      networkActions := Run.all_mono (fun _ _ hpermitted => hpermitted.inOrder trivial) hpermitted
  have hheeding : Run.All Journal.step (fun journal => journal.network.Attentive) Journal.init
      networkActions := Run.all_mono (fun _ _ hpermitted => Network.attentive_of_local hpermitted.user)
        hpermitted
  rw [hrelated.same] at hdistinct hpeers halive hsender
  have hpeers' : journal.Peers i j inbound outbound :=
    ⟨hpeers.connection, hpeers.inbound, hpeers.outbound⟩
  obtain ⟨a, run, held, hcomplete⟩ := hpeers'.complete hjournal hinOrder hheeding hdistinct halive
  have hflight := hrelated.flight_sublist
    (Journal.traced_of_exec hjournal hdistinct).keyed hsender
  have hway : ((dataOf (journal.network.flight j)).map fun packet =>
      (⟨source, destination, packet.intoBytes⟩ : Frame)).Sublist
        (final.underway source destination) :=
    (List.filter_sublist.map _).trans hflight
  refine ⟨?_, ?_⟩
  · obtain ⟨assembled, waiting, hsent, hassembled, hwaiting⟩ := hcomplete.dataSent
    refine ⟨assembled, waiting, _, hsent, ?_, ?_, ?_, hway⟩
    · rw [hcomplete.orderly.bytes, hassembled]
    · have hfew := hcomplete.orderly.few
      rw [hcomplete.orderly.holds.card (by omega)]
      simpa using congrArg List.length hwaiting
    · intro number data
      rw [hcomplete.orderly.holds number data, ← hwaiting, List.mem_map]
      simp only [Prod.mk.injEq]
  · intro hnone hfew env remaining hyields hqueues
    refine hcomplete.read ?_ ?_ hfew hyields hqueues remaining
    · exact (Journal.followed_of_exec hjournal).healthy_of_alive hpeers.inbound halive
    · rw [hnone, List.sublist_nil, List.map_eq_nil_iff] at hway
      exact hway

/-- The same run, in which the rest is read, a third write is on its way, and nothing else is. -/
def caughtUpActions : List SystemAction :=
  let connector : SocketAddr := .v4 0x7F000001 9000
  let listener : SocketAddr := .v4 0x7F000001 9001
  let third := { carrying 4 [4, 5] with connectionId := 0, ackNumber := 41 }
  orderlyActions ++ [.call 1 (.pollRead .plain 2), .call 0 (.pollWrite .plain [4, 5]),
    .pollSender connector (fun _ => false) (fun _ _ _ => .sent) 8,
    .pollReceiver listener [.datagram third.intoBytes connector, .notReady]]

def caughtUp : System := (Run.exec System.step System.init caughtUpActions).get (by decide)

def caughtUpWriter : Solo := (caughtUp.journal.histories 0).get (by decide)

def caughtUpReader : Solo := (caughtUp.journal.histories 1).get (by decide)

theorem dataSent_eq_assembled_append_underway_caughtUp :
    Run.exec System.step System.init caughtUpActions = some caughtUp
      ∧ Run.All System.step System.InOrder System.init caughtUpActions
      ∧ Run.All System.step System.Attentive System.init caughtUpActions
      ∧ (caughtUpReader.delivered, caughtUpReader.stream.backlog) = ([1, 2, 3], 1)
      ∧ ∃ read, caughtUpReader.step (.pollRead .plain 8) = some read
        ∧ read.delivered ++ read.stream.receivedData
          = (caughtUpWriter.dataSent.map Packet.data).flatten
        ∧ ∃ ack, read.sent = caughtUpReader.sent ++ [ack] ∧ ack.1.packetType = .state
          ∧ ack.1.ackNumber + 1 = caughtUpWriter.stream.seqNumber := by
  have hexec : Run.exec System.step System.init caughtUpActions = some caughtUp :=
    (Option.some_get _).symm
  have hall : Run.All System.step System.InOrder System.init caughtUpActions := by decide
  have hattentive : Run.All System.step System.Attentive System.init caughtUpActions := by decide
  have hpeers : caughtUp.journal.Peers 1 0 caughtUpReader caughtUpWriter :=
    ⟨⟨_, _, rfl, rfl, by decide⟩, (Option.some_get _).symm, (Option.some_get _).symm⟩
  exact ⟨hexec, hall, hattentive, by decide,
    (dataSent_eq_assembled_append_underway hall hattentive hexec (by decide) hpeers (by decide)
      rfl).2 (by decide) (by decide) .plain 8 (fun _ => rfl) rfl⟩

end UtpSafety
