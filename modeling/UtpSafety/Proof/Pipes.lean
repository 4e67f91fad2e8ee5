import UtpSafety.Lib.Pipe
import UtpSafety.Lib.Simulation
import UtpSafety.Proof.Fifo
import UtpSafety.Proof.Loss

/-!
# Every connection is two pipes

What a connection is for: each end writes into a pipe that the other end reads from. Of a run this shows
what each write has put out, what each read has handed out, and which flushes are `Ready`
(`Journal.shown`); a pipe that nobody loses anything in could have shown the same. Packets, numbers,
mailboxes and the handshake are nowhere to be seen.
-/

namespace UtpSafety

open UtpStream

/-! ### What one stream shows -/

namespace Solo

/-- What an action of a stream is to the pipe that it writes into. A write puts out what it sends. -/
def puts (solo : Solo) : SoloAction → List (Pipe.Event UInt8)
  | .pollWrite env buf =>
      [.write ((solo.stream.pollWrite env buf).sent.map fun item => item.1.data).flatten]
  | .pollFlush env =>
      match solo.stream.pollFlush env with
      | .ok ⟨_, _, .ready (.ok ())⟩ => [.flush]
      | _ => []
  | .arrive _ | .close | .pollRead _ _ => []

/-- And to the pipe that it reads from. -/
def gets (solo : Solo) : SoloAction → List (Pipe.Event UInt8)
  | .pollRead env remaining =>
      match solo.stream.pollRead env remaining with
      | .ok ⟨_, _, .ready (.ok bytes)⟩ => [.read bytes]
      | _ => []
  | .arrive _ | .close | .pollWrite _ _ | .pollFlush _ => []

def written (solo : Solo) : Bytes := (solo.dataSent.map Packet.data).flatten

def assembled (solo : Solo) : Bytes := solo.delivered ++ solo.stream.receivedData

variable {solo solo' : Solo} {action : SoloAction}

theorem puts_pollFlush (solo : Solo) (env : Env) :
    solo.puts (.pollFlush env) = []
      ∨ solo.puts (.pollFlush env) = [.flush] ∧ ∃ outcome, solo.stream.pollFlush env = .ok outcome
        ∧ outcome.result = .ready (.ok ()) := by
  simp only [puts]
  split
  · rename_i hflush
    exact Or.inr ⟨rfl, _, hflush, rfl⟩
  · exact Or.inl rfl

theorem gets_pollRead (solo : Solo) (env : Env) (remaining : Nat) :
    solo.gets (.pollRead env remaining) = []
      ∨ ∃ bytes, solo.gets (.pollRead env remaining) = [.read bytes] := by
  simp only [gets]
  split
  · exact Or.inr ⟨_, rfl⟩
  · exact Or.inl rfl

theorem delivered_of_step (hstep : solo.step action = some solo') :
    solo'.delivered = solo.delivered ++ (solo.gets action).flatMap Pipe.Event.got := by
  cases action with
  | arrive packet =>
      simp only [step] at hstep
      split_ifs at hstep
      cases hstep
      exact (List.append_nil _).symm
  | close =>
      cases hstep
      exact (List.append_nil _).symm
  | pollWrite env buf =>
      cases hstep
      exact (List.append_nil _).symm
  | pollRead env remaining =>
      simp only [step, gets] at hstep ⊢
      cases hread : solo.stream.pollRead env remaining with
      | error panic =>
          rw [hread] at hstep
          cases hstep
      | ok outcome =>
          rw [hread] at hstep
          cases hstep
          obtain ⟨stream, sent, result⟩ := outcome
          cases result with
          | pending => rfl
          | ready result =>
              cases result with
              | ok bytes => exact congrArg (solo.delivered ++ ·) (List.append_nil bytes).symm
              | error error => rfl
  | pollFlush env =>
      simp only [step] at hstep
      cases hflush : solo.stream.pollFlush env with
      | error panic =>
          rw [hflush] at hstep
          cases hstep
      | ok outcome =>
          rw [hflush] at hstep
          cases hstep
          exact (List.append_nil _).symm

theorem Moved.written (hmoved : Moved solo action solo') :
    solo'.written = solo.written ++ (solo.puts action).flatMap Pipe.Event.wrote := by
  cases hmoved with
  | received packet hopen hhandled => exact (List.append_nil _).symm
  | closed => exact (List.append_nil _).symm
  | wrote env buf =>
      have hdata : (solo.wrote env buf).dataSent
          = solo.dataSent ++ (solo.stream.pollWrite env buf).sent.map Prod.fst := by
        have hall : ((solo.stream.pollWrite env buf).sent.map Prod.fst).filter
            (fun packet => packet.packetType = .data)
            = (solo.stream.pollWrite env buf).sent.map Prod.fst := by
          rw [List.filter_eq_self]
          intro packet hpacket
          obtain ⟨item, hitem, rfl⟩ := List.mem_map.mp hpacket
          simpa using packetType_pollWrite env solo.stream buf item hitem
        simp only [dataSent, Solo.wrote, Solo.after, List.map_append, List.filter_append, hall]
      simp only [Solo.written, hdata, List.map_append, List.flatten_append, List.map_map, puts,
        List.flatMap_singleton, Pipe.Event.wrote]
      rfl
  | ended env remaining hended => exact (List.append_nil _).symm
  | refused env remaining hended hqueues => exact (List.append_nil _).symm
  | didRead env remaining hended hqueues =>
      have hdata : (solo.didRead env remaining).dataSent = solo.dataSent := by
        simp [dataSent, Solo.didRead, ackPacket]
      rw [Solo.written, hdata]
      exact (List.append_nil _).symm
  | flushed env =>
      have hnone : (solo.puts (.pollFlush env)).flatMap Pipe.Event.wrote = [] := by
        simp only [puts]
        split
        · rfl
        · rfl
      rw [hnone]
      exact (List.append_nil _).symm

/-- What has been assembled stays. -/
theorem Moved.assembled_length_le (hmoved : Moved solo action solo') :
    solo.assembled.length ≤ solo'.assembled.length := by
  have hassembled : ∀ env, solo.assembled <+: solo.delivered
      ++ (solo.drained env).1.assemble.receivedData := by
    intro env
    obtain ⟨run, hrun⟩ := exists_assembled (solo.drained env).1
    rw [hrun.frame]
    dsimp only
    rw [receivedData_drained, ← List.append_assoc]
    exact List.prefix_append _ _
  cases hmoved with
  | received packet hopen hhandled => exact Nat.le_refl _
  | closed => exact Nat.le_refl _
  | wrote env buf =>
      obtain ⟨sent, hstream⟩ := exists_pollWrite_eq_withSent env solo.stream buf
      simp only [assembled, Solo.wrote, Solo.after, hstream]
      exact Nat.le_refl _
  | ended env remaining hended =>
      rw [assembled, assembled, receivedData_drained]
  | refused env remaining hended hqueues => exact (hassembled env).length_le
  | didRead env remaining hended hqueues =>
      have hlength := (hassembled env).length_le
      simp only [assembled, Solo.didRead, List.append_assoc, List.take_append_drop]
      exact hlength
  | flushed env =>
      rw [assembled, assembled, receivedData_drained]

end Solo

namespace UtpStream.Made

theorem handled {stream : UtpStream} (hmade : stream.Made) {actions : List SoloAction} {final : Solo}
    (hexec : Run.exec Solo.step (Solo.start stream) actions = some final) : final.Handled := by
  refine Run.exec_invariant (fun _ _ _ hhandled hstep => ?_) ?_ hexec
  · exact hhandled.moved (Solo.moved_of_step hhandled hstep)
  · exact hmade.healthy.handled

end UtpStream.Made

/-! ### On the way to a state -/

theorem Network.Keeps.trans {network network' network'' : Network} (hkeeps : network.Keeps network')
    (hkeeps' : network'.Keeps network'') : network.Keeps network'' := by
  intro index party hparty
  obtain ⟨party', hparty', hconnection, hreturned⟩ := hkeeps index party hparty
  obtain ⟨party'', hparty'', hconnection', hreturned'⟩ := hkeeps' index party' hparty'
  exact ⟨party'', hparty'', hconnection'.trans hconnection,
    fun stream hstream => hreturned' stream (hreturned stream hstream)⟩

namespace Journal

open Network

variable {journal journal' final : Journal} {action : NetworkAction} {i j : Nat}

theorem Followed.grows_of_exec (hfollowed : journal.Followed) {rest : List NetworkAction}
    (hrest : Run.exec Journal.step journal rest = some final) :
    journal.network.Keeps final.network
      ∧ ∀ index solo, journal.histories index = some solo →
        ∃ solo', final.histories index = some solo' ∧ solo.sent <+: solo'.sent := by
  have hgrown := Run.exec_invariant (motive := fun state : Journal => state.Followed
    ∧ journal.network.Keeps state.network ∧ ∀ index solo, journal.histories index = some solo →
      ∃ solo', state.histories index = some solo' ∧ solo.sent <+: solo'.sent) ?_ ?_ hrest
  · exact hgrown.2
  · rintro state action state' ⟨hfollowed, hkeeps, hhistories⟩ hstep
    have hnetwork := (step_eq_some.mp hstep).1
    refine ⟨hfollowed.step hstep, hkeeps.trans
      (acted_of_step hfollowed.fit hfollowed.healthy hnetwork).keeps, fun index solo hhistory => ?_⟩
    obtain ⟨solo', hhistory', hgrown⟩ := hhistories index solo hhistory
    obtain ⟨solo'', hhistory'', hgrown'⟩ := hfollowed.history_grows hstep hhistory'
    exact ⟨solo'', hhistory'', hgrown.trans hgrown'⟩
  · exact ⟨hfollowed, fun index party hparty => ⟨party, hparty, rfl, fun _ => id⟩,
      fun index solo hhistory => ⟨solo, hhistory, List.prefix_rfl⟩⟩

/-- What `j` has put out, what `i` has assembled, and what of that its reads have handed out. -/
def written (journal : Journal) (j : Nat) : Bytes :=
  match journal.histories j with
  | some solo => solo.written
  | none => []

def assembled (journal : Journal) (i : Nat) : Bytes :=
  match journal.histories i with
  | some solo => solo.assembled
  | none => []

def delivered (journal : Journal) (i : Nat) : Bytes :=
  match journal.histories i with
  | some solo => solo.delivered
  | none => []

/-- A state on the way to `final`, where `i` and `j` are the ends of one connection, of whose keys none
has been registered twice, and the numbers of `j` have not come round. -/
structure Along (final : Journal) (i j : Nat) (journal : Journal) : Prop where
  before : ∃ actions, Run.exec Journal.step Journal.init actions = some journal
    ∧ Run.All Network.step SynAckFirst Network.init actions
  after : ∃ rest, Run.exec Journal.step journal rest = some final
  distinct : final.network.Distinct
  ends : ∃ receiver sender, final.network.parties[i]? = some receiver
    ∧ final.network.parties[j]? = some sender ∧ sender.connection = receiver.connection.peer
  numbers : ∀ returned, final.network.returned j = some returned → 1 ≤ returned.seqNumber.toNat
    ∧ returned.seqNumber.toNat + (final.dataSent j).length ≤ 65535

namespace Along

variable (halong : Along final i j journal)
include halong

theorem followed : journal.Followed := by
  obtain ⟨actions, hexec, -⟩ := halong.before
  exact followed_of_exec hexec

theorem step (hallowed : journal.network.SynAckFirst action) {rest : List NetworkAction}
    (hrest : Run.exec Journal.step journal (action :: rest) = some final)
    (hstep : journal.step action = some journal') : Along final i j journal' := by
  obtain ⟨actions, hexec, hall⟩ := halong.before
  obtain ⟨next, hnext, hafter⟩ := Run.exec_cons.mp hrest
  obtain rfl : next = journal' := Option.some.inj (hnext.symm.trans hstep)
  have hnetwork : Run.exec Network.step Network.init actions = some journal.network :=
    (@exec_network Journal.init _ _).mpr ⟨journal.histories, hexec⟩
  refine ⟨⟨actions ++ [action], ?_, ?_⟩, ⟨rest, hafter⟩, halong.distinct, halong.ends, halong.numbers⟩
  · refine Run.exec_append.mpr ⟨journal, hexec, ?_⟩
    simp only [Run.exec, hstep]
  · exact Run.all_append hall hnetwork ⟨hallowed, fun _ _ => trivial⟩

theorem keeps : journal.network.Keeps final.network := by
  obtain ⟨rest, hrest⟩ := halong.after
  exact (halong.followed.grows_of_exec hrest).1

theorem traced : journal.Traced := by
  obtain ⟨actions, hexec, -⟩ := halong.before
  exact traced_of_exec hexec (halong.distinct.of_keeps halong.keeps)

/-- Whoever has the connection of `i` or `j` is `i` or `j`. -/
theorem index_eq {k index : Nat} {party other : Party}
    (hparty : final.network.parties[index]? = some party)
    (hother : journal.network.parties[k]? = some other)
    (hconnection : other.connection = party.connection) : k = index := by
  obtain ⟨other', hother', hsame, -⟩ := halong.keeps k other hother
  exact halong.distinct.eq_of_connection hother' hparty (hsame.trans hconnection)

theorem numbers_of_history {outbound : Solo} (hhistory : journal.histories j = some outbound)
    {returned : UtpStream} (hreturned : journal.network.returned j = some returned) :
    1 ≤ returned.seqNumber.toNat
      ∧ returned.seqNumber.toNat + outbound.dataSent.length ≤ 65535 := by
  obtain ⟨rest, hrest⟩ := halong.after
  obtain ⟨solo, hsolo, hgrown⟩ := (halong.followed.grows_of_exec hrest).2 j outbound hhistory
  obtain ⟨hone, hlast⟩ := halong.numbers returned (returned_of_keeps halong.keeps hreturned)
  rw [dataSent_of_history hsolo] at hlast
  have hlength := (Solo.dataSent_isPrefix hgrown).length_le
  exact ⟨hone, by omega⟩

/-- The two ends, once both are there. -/
theorem peers {inbound outbound : Solo} (hinbound : journal.histories i = some inbound)
    (houtbound : journal.histories j = some outbound) : journal.Peers i j inbound outbound := by
  obtain ⟨receiver, sender, hreceiver, hsender, hpeer⟩ := halong.ends
  have hthere : ∀ index solo, journal.histories index = some solo →
      ∃ party, journal.network.parties[index]? = some party := by
    intro index solo hhistory
    obtain ⟨stream, -, hreturned, -⟩ := halong.followed.made hhistory
    obtain ⟨party, hparty, -⟩ := Option.bind_eq_some_iff.mp hreturned
    exact ⟨party, hparty⟩
  obtain ⟨receiver', hreceiver'⟩ := hthere i inbound hinbound
  obtain ⟨sender', hsender'⟩ := hthere j outbound houtbound
  refine ⟨⟨receiver', sender', hreceiver', hsender', ?_⟩, hinbound, houtbound⟩
  obtain ⟨receiver'', hreceiver'', hconnection, -⟩ := halong.keeps i receiver' hreceiver'
  obtain ⟨sender'', hsender'', hconnection', -⟩ := halong.keeps j sender' hsender'
  obtain rfl : receiver'' = receiver := Option.some.inj (hreceiver''.symm.trans hreceiver)
  obtain rfl : sender'' = sender := Option.some.inj (hsender''.symm.trans hsender)
  rw [← hconnection, ← hconnection', hpeer]

/-- Nothing reaches one end before the other is there. -/
theorem arrived_eq_nil {index other : Nat} {party peer : Party} {solo : Solo}
    (hparty : final.network.parties[index]? = some party)
    (hpeer : final.network.parties[other]? = some peer)
    (hconnection : peer.connection = party.connection.peer)
    (hhistory : journal.histories index = some solo) (hnone : journal.histories other = none) :
    solo.arrived = [] := by
  rw [List.eq_nil_iff_forall_not_mem]
  intro packet hpacket
  obtain ⟨stream, -, hreturned, -⟩ := halong.followed.made hhistory
  obtain ⟨party', hparty', -⟩ := Option.bind_eq_some_iff.mp hreturned
  obtain ⟨party'', hparty'', hsame, -⟩ := halong.keeps index party' hparty'
  obtain rfl : party'' = party := Option.some.inj (hparty''.symm.trans hparty)
  obtain ⟨k, sender, hsender, hfrom, hsent⟩ :=
    halong.traced.reached index party' hparty' packet (Or.inr ⟨solo, hhistory, hpacket⟩)
  obtain rfl : k = other := halong.index_eq hpeer hsender (by rw [hfrom, hconnection, hsame])
  rcases hsent with ⟨before, hbefore, -⟩ | ⟨stream', hreturned', -⟩
  · rw [hnone] at hbefore
    cases hbefore
  · rw [returned_of_get hsender] at hreturned'
    obtain ⟨before, hbefore, -⟩ := halong.followed.follows k sender stream' hsender hreturned'
    rw [hnone] at hbefore
    cases hbefore

/-- What has been assembled at one end is a front part of what the other has put out. -/
theorem isPrefix : journal.assembled i <+: journal.written j := by
  obtain ⟨receiver, sender, hreceiver, hsender, hpeer⟩ := halong.ends
  cases hinbound : journal.histories i with
  | none => simp only [assembled, hinbound, List.nil_prefix]
  | some inbound =>
      simp only [assembled, hinbound]
      cases houtbound : journal.histories j with
      | none =>
          obtain ⟨stream, actions, -, hmade, hexec⟩ := halong.followed.made hinbound
          obtain ⟨run, counts, hgapless⟩ := hmade.gapless hexec
          have harrived := halong.arrived_eq_nil hreceiver hsender hpeer hinbound houtbound
          have hshort : run.length ≤ 0 := by
            apply hgapless.length_le_of_missing
            rw [harrived]
            exact fun packet hpacket => absurd hpacket List.not_mem_nil
          have hrun : run = [] := List.eq_nil_of_length_eq_zero (by omega)
          rw [Solo.assembled, hgapless.bytes, hrun]
          exact List.nil_prefix
      | some outbound =>
          simp only [written, houtbound]
          have hpeers := halong.peers hinbound houtbound
          obtain ⟨actions, hexec, hall⟩ := halong.before
          obtain ⟨returned, soloActions, run, payloads, parts, hreturned, -, -, hconveyed⟩ :=
            hpeers.conveyed hexec hall (halong.distinct.of_keeps halong.keeps)
          obtain ⟨hone, hlast⟩ := halong.numbers_of_history houtbound hreturned
          obtain ⟨rest, hrest⟩ := hconveyed.isPrefix (by omega)
          rw [Solo.assembled, hconveyed.bytes, Solo.written, hconveyed.booked.map_dataSent, ← hrest,
            List.flatten_append]
          exact List.prefix_append _ _

/-- And all of it once a flush there is `Ready`. -/
theorem assembled_of_ready {outbound : Solo} (houtbound : journal.histories j = some outbound)
    {env : Env} {outcome : Outcome Unit} (hflush : outbound.stream.pollFlush env = .ok outcome)
    (hready : outcome.result = .ready (.ok ())) : journal.assembled i = journal.written j := by
  obtain ⟨receiver, sender, hreceiver, hsender, hpeer⟩ := halong.ends
  simp only [assembled, written, houtbound]
  cases hinbound : journal.histories i with
  | none =>
      obtain ⟨returned, soloActions, hreturned, hmade, hsolo⟩ := halong.followed.made houtbound
      obtain ⟨hone, hlast⟩ := halong.numbers_of_history houtbound hreturned
      have harrived := halong.arrived_eq_nil hsender hreceiver
        (by rw [hpeer, Connection.peer_peer]) houtbound hinbound
      have hacks : AcksUpTo returned.seqNumber 0 outbound.arrived := by
        rw [harrived]
        exact fun packet hpacket => absurd hpacket List.not_mem_nil
      have hnone := hmade.length_dataSent_le hsolo hone hlast hacks hflush hready
      rw [Solo.written, List.eq_nil_of_length_eq_zero (Nat.le_zero.mp hnone)]
      rfl
  | some inbound =>
      have hpeers := halong.peers hinbound houtbound
      obtain ⟨actions, hexec, hall⟩ := halong.before
      obtain ⟨returned, soloActions, run, payloads, parts, hreturned, hmade, hsolo, hconveyed⟩ :=
        hpeers.conveyed hexec hall (halong.distinct.of_keeps halong.keeps)
      obtain ⟨hone, hlast⟩ := halong.numbers_of_history houtbound hreturned
      have hrun := hconveyed.eq_of_ready hmade hsolo hone hlast hflush hready
      rw [Solo.written, hconveyed.booked.map_dataSent, ← hrun]
      exact hconveyed.bytes

end Along

/-! ### One step -/

/-- What a step is to the history of one stream. -/
inductive Sees (journal : Journal) (action : NetworkAction) (journal' : Journal) (index : Nat) : Prop
  | absent (hhistory : journal.histories index = none)
      (hbegins : ∀ solo', journal'.histories index = some solo' →
        ∃ stream, solo' = Solo.start stream)
  | nothing (solo : Solo) (hhistory : journal.histories index = some solo)
      (hhistory' : journal'.histories index = some solo)
      (hseen : journal.network.seen index action = [])
  | one (solo solo' : Solo) (soloAction : SoloAction) (hhistory : journal.histories index = some solo)
      (hhistory' : journal'.histories index = some solo')
      (hseen : journal.network.seen index action = [soloAction])
      (hstep : solo.step soloAction = some solo') (hmoved : Solo.Moved solo soloAction solo')

theorem seen_cases (network : Network) (index : Nat) (action : NetworkAction) :
    network.seen index action = [] ∨ ∃ soloAction, network.seen index action = [soloAction] := by
  cases action with
  | call party call =>
      simp only [seen]
      split_ifs
      · exact Or.inr ⟨call.action, rfl⟩
      · exact Or.inl rfl
  | deliver position =>
      simp only [seen]
      split
      · exact Or.inl rfl
      · split_ifs
        · exact Or.inr ⟨_, rfl⟩
        · exact Or.inl rfl
  | _ => exact Or.inl rfl

theorem Followed.sees (hfollowed : journal.Followed) (hstep : journal.step action = some journal')
    (index : Nat) : journal.Sees action journal' index := by
  cases hhistory : journal.histories index with
  | none =>
      refine .absent hhistory fun solo' hhistory' => ?_
      rcases history_of_step hstep hhistory' with ⟨solo, hsolo, -⟩ | ⟨stream, -, -, hstart⟩
      · rw [hhistory] at hsolo
        cases hsolo
      · exact ⟨stream, hstart⟩
  | some solo =>
      obtain ⟨solo', hhistory', -⟩ := hfollowed.history_grows hstep hhistory
      rcases history_of_step hstep hhistory' with ⟨before, hbefore, hexec⟩ | ⟨stream, hnone, -⟩
      · obtain rfl : solo = before := Option.some.inj (hhistory.symm.trans hbefore)
        rcases seen_cases journal.network index action with hseen | ⟨soloAction, hseen⟩
        · rw [hseen] at hexec
          cases hexec
          exact .nothing solo hhistory hhistory' hseen
        · obtain ⟨stream, actions, -, hmade, hsolo⟩ := hfollowed.made hhistory
          rw [hseen] at hexec
          obtain ⟨after, hafter, hnil⟩ := Run.exec_cons.mp hexec
          cases hnil
          exact .one solo solo' soloAction hhistory hhistory' hseen hafter
            (Solo.moved_of_step (hmade.handled hsolo) hafter)
      · rw [hhistory] at hnone
        cases hnone

/-- What a step shows of the pipe from `j` to `i`, at its two ends. -/
def puts (journal : Journal) (j : Nat) (action : NetworkAction) : List (Pipe.Event UInt8) :=
  match journal.histories j with
  | some solo => (journal.network.seen j action).flatMap solo.puts
  | none => []

def gets (journal : Journal) (i : Nat) (action : NetworkAction) : List (Pipe.Event UInt8) :=
  match journal.histories i with
  | some solo => (journal.network.seen i action).flatMap solo.gets
  | none => []

def shown (i j : Nat) (journal : Journal) (action : NetworkAction) : List (Pipe.Event UInt8) :=
  journal.puts j action ++ journal.gets i action

/-- The pipe holds what is between the two ends. -/
structure Fills (journal : Journal) (i j : Nat) (pipe : Pipe UInt8) : Prop where
  written : pipe.written = journal.written j
  arrived : pipe.arrived = (journal.assembled i).length
  taken : pipe.taken = (journal.delivered i).length

/-- What is put into the pipe. -/
theorem Along.put (halong : Along final i j journal) (hstep : journal.step action = some journal')
    {pipe : Pipe UInt8} (hfills : journal.Fills i j pipe) :
    ∃ pipe', Run.exec Pipe.step pipe (journal.puts j action) = some pipe'
      ∧ pipe'.written = journal'.written j ∧ pipe'.arrived = pipe.arrived
      ∧ pipe'.taken = pipe.taken
      ∧ (journal.puts j action).flatMap Pipe.Event.noticed = journal.puts j action := by
  have hwritten := hfills.written
  cases halong.followed.sees hstep j with
  | absent hhistory hbegins =>
      have hputs : journal.puts j action = [] := by simp only [puts, hhistory]
      refine ⟨pipe, by rw [hputs]; rfl, ?_, rfl, rfl, by rw [hputs]; rfl⟩
      simp only [Journal.written, hhistory] at hwritten ⊢
      cases hhistory' : journal'.histories j with
      | none => exact hwritten
      | some solo' =>
          obtain ⟨stream, rfl⟩ := hbegins solo' hhistory'
          exact hwritten
  | nothing solo hhistory hhistory' hseen =>
      have hputs : journal.puts j action = [] := by simp only [puts, hhistory, hseen, List.flatMap_nil]
      refine ⟨pipe, by rw [hputs]; rfl, ?_, rfl, rfl, by rw [hputs]; rfl⟩
      simp only [Journal.written, hhistory, hhistory'] at hwritten ⊢
      exact hwritten
  | one solo solo' soloAction hhistory hhistory' hseen hsolo hmoved =>
      have hputs : journal.puts j action = solo.puts soloAction := by
        simp only [puts, hhistory, hseen, List.flatMap_singleton]
      have hafter : journal'.written j
          = pipe.written ++ (solo.puts soloAction).flatMap Pipe.Event.wrote := by
        simp only [Journal.written, hhistory, hhistory'] at hwritten ⊢
        rw [hwritten, hmoved.written]
      rw [hputs, hafter]
      cases soloAction with
      | pollWrite env buf =>
          refine ⟨pipe.write _, rfl, ?_, rfl, rfl, rfl⟩
          exact congrArg (pipe.written ++ ·) (List.append_nil _).symm
      | pollFlush env =>
          rcases solo.puts_pollFlush env with hnone | ⟨hflushed, outcome, hflush, hready⟩
          · rw [hnone]
            exact ⟨pipe, rfl, (List.append_nil _).symm, rfl, rfl, rfl⟩
          · have hall : pipe.arrived = pipe.written.length := by
              rw [hfills.arrived, hwritten, halong.assembled_of_ready hhistory hflush hready]
            have hexec : Run.exec Pipe.step pipe [.flush] = some pipe := by
              simp only [Run.exec, Pipe.step, if_pos hall]
            rw [hflushed]
            exact ⟨pipe, hexec, (List.append_nil _).symm, rfl, rfl, rfl⟩
      | arrive packet => exact ⟨pipe, rfl, (List.append_nil _).symm, rfl, rfl, rfl⟩
      | close => exact ⟨pipe, rfl, (List.append_nil _).symm, rfl, rfl, rfl⟩
      | pollRead env remaining => exact ⟨pipe, rfl, (List.append_nil _).symm, rfl, rfl, rfl⟩

/-- What the other end makes of it: it assembles more, or nothing, and hands out what its reads say. -/
theorem Followed.get (hfollowed : journal.Followed) (hstep : journal.step action = some journal')
    (index : Nat) :
    (journal.assembled index).length ≤ (journal'.assembled index).length
      ∧ journal'.delivered index
        = journal.delivered index ++ (journal.gets index action).flatMap Pipe.Event.got
      ∧ (journal.gets index action = [] ∨ ∃ bytes, journal.gets index action = [.read bytes]) := by
  cases hfollowed.sees hstep index with
  | absent hhistory hbegins =>
      have hgets : journal.gets index action = [] := by simp only [gets, hhistory]
      rw [hgets]
      refine ⟨?_, ?_, Or.inl rfl⟩
      · simp only [assembled, hhistory, List.length_nil, Nat.zero_le]
      · simp only [delivered, hhistory]
        cases hhistory' : journal'.histories index with
        | none => rfl
        | some solo' =>
            obtain ⟨stream, rfl⟩ := hbegins solo' hhistory'
            rfl
  | nothing solo hhistory hhistory' hseen =>
      have hgets : journal.gets index action = [] := by
        simp only [gets, hhistory, hseen, List.flatMap_nil]
      rw [hgets]
      refine ⟨?_, ?_, Or.inl rfl⟩
      · simp only [assembled, hhistory, hhistory', Nat.le_refl]
      · simp only [delivered, hhistory, hhistory', List.flatMap_nil, List.append_nil]
  | one solo solo' soloAction hhistory hhistory' hseen hsolo hmoved =>
      have hgets : journal.gets index action = solo.gets soloAction := by
        simp only [gets, hhistory, hseen, List.flatMap_singleton]
      rw [hgets]
      simp only [assembled, delivered, hhistory, hhistory']
      refine ⟨hmoved.assembled_length_le, Solo.delivered_of_step hsolo, ?_⟩
      cases soloAction with
      | pollRead env remaining => exact solo.gets_pollRead env remaining
      | _ => exact Or.inl rfl

theorem delivered_isPrefix (journal : Journal) (index : Nat) :
    journal.delivered index <+: journal.assembled index := by
  simp only [delivered, assembled]
  cases journal.histories index with
  | none => exact List.prefix_rfl
  | some solo => exact List.prefix_append _ _

/-- **Every step is one of the pipe**, with the arrivals that nobody notices. -/
theorem Along.fills_step (halong : Along final i j journal) (halong' : Along final i j journal')
    (hstep : journal.step action = some journal') {pipe : Pipe UInt8}
    (hfills : journal.Fills i j pipe) :
    ∃ events pipe', Run.exec Pipe.step pipe events = some pipe'
      ∧ events.flatMap Pipe.Event.noticed = journal.shown i j action ∧ journal'.Fills i j pipe' := by
  obtain ⟨put, hput, hwritten, harrived, htaken, hnoticed⟩ := halong.put hstep hfills
  obtain ⟨hgrown, hdelivered, hgets⟩ := halong.followed.get hstep i
  let count := (journal'.assembled i).length - (journal.assembled i).length
  have harrive : put.arrived + count = (journal'.assembled i).length := by
    rw [harrived, hfills.arrived]
    omega
  have hcount : put.arrived + count ≤ put.written.length := by
    rw [harrive, hwritten]
    exact halong'.isPrefix.length_le
  let middle := put.arrive count hcount
  have hmiddle : Run.exec Pipe.step pipe (journal.puts j action ++ [.arrive count]) = some middle := by
    refine Run.exec_append.mpr ⟨put, hput, ?_⟩
    simp only [Run.exec, Pipe.step, dif_pos hcount, middle]
  have hshown : (journal.puts j action ++ [Pipe.Event.arrive count]).flatMap Pipe.Event.noticed
      = journal.puts j action := by
    rw [List.flatMap_append, hnoticed]
    exact List.append_nil _
  have hstart : middle.taken = (journal.delivered i).length := htaken.trans hfills.taken
  rcases hgets with hnone | ⟨bytes, hread⟩
  · rw [hnone] at hdelivered
    refine ⟨_, middle, hmiddle, ?_, hwritten, harrive, ?_⟩
    · rw [hshown, shown, hnone, List.append_nil]
    · rw [hstart, hdelivered]
      exact congrArg List.length (List.append_nil _).symm
  · have hbytes : journal'.delivered i = journal.delivered i ++ bytes := by
      rw [hdelivered, hread]
      exact congrArg (journal.delivered i ++ ·) (List.append_nil bytes)
    have hlength : middle.taken + bytes.length = (journal'.delivered i).length := by
      rw [hstart, hbytes, List.length_append]
    have hfits : middle.taken + bytes.length ≤ middle.arrived := by
      rw [hlength]
      exact (journal'.delivered_isPrefix i).length_le.trans harrive.ge
    have hfront : bytes <+: middle.written.drop middle.taken := by
      have hall : journal.delivered i ++ bytes <+: journal'.written j := by
        rw [← hbytes]
        exact (journal'.delivered_isPrefix i).trans halong'.isPrefix
      obtain ⟨rest, hrest⟩ := hall
      have hmiddle' : middle.written = journal'.written j := hwritten
      rw [hmiddle', hstart, ← hrest, List.append_assoc, List.drop_left]
      exact List.prefix_append _ _
    refine ⟨journal.puts j action ++ [Pipe.Event.arrive count] ++ [Pipe.Event.read bytes],
      middle.take bytes.length hfits, Run.exec_append.mpr ⟨middle, hmiddle, ?_⟩, ?_, hwritten, harrive,
      hlength⟩
    · simp only [Run.exec, Pipe.step, dif_pos hfits, if_pos hfront]
    · rw [List.flatMap_append, hshown, shown, hread]
      rfl

end Journal

open Journal

/-- **Every connection is two pipes.** In every run in which no packet of a stream overtakes a SYN-ACK and
no key is registered twice, take the two ends of a connection. While the numbers of the one have not
come round, whatever the run shows of its writes and flushes and of the reads at the other end, a pipe
could have shown; so the reads have got a front part of what the writes have put out. -/
theorem connections_are_pipes {actions : List NetworkAction} {final : Journal}
    (hexec : Run.exec Journal.step Journal.init actions = some final)
    (hall : Run.All Network.step Network.SynAckFirst Network.init actions)
    (hdistinct : final.network.Distinct) {i j : Nat} {receiver sender : Party}
    (hreceiver : final.network.parties[i]? = some receiver)
    (hsender : final.network.parties[j]? = some sender)
    (hpeer : sender.connection = receiver.connection.peer)
    (hnumbers : ∀ returned, final.network.returned j = some returned →
      1 ≤ returned.seqNumber.toNat
        ∧ returned.seqNumber.toNat + (final.dataSent j).length ≤ 65535) :
    let shown := Run.shown Journal.step (Journal.shown i j) Journal.init actions
    (∃ events pipe, Run.exec Pipe.step Pipe.empty events = some pipe
        ∧ events.flatMap Pipe.Event.noticed = shown ∧ final.Fills i j pipe)
      ∧ shown.flatMap Pipe.Event.got <+: shown.flatMap Pipe.Event.wrote := by
  intro shown
  have hfirst : Run.All Journal.step (fun journal => Network.SynAckFirst journal.network) Journal.init
      actions := all_network.mpr hall
  have hstart : Along final i j Journal.init :=
    ⟨⟨[], rfl, trivial⟩, ⟨actions, hexec⟩, hdistinct, ⟨receiver, sender, hreceiver, hsender, hpeer⟩,
      hnumbers⟩
  have hmatch : ∀ (journal : Journal) (action : NetworkAction) (journal' : Journal) (pipe : Pipe UInt8),
      Along final i j journal ∧ journal.Fills i j pipe →
      journal.network.SynAckFirst action
        ∧ (∃ rest, Run.exec Journal.step journal (action :: rest) = some final) →
      journal.step action = some journal' →
      ∃ events pipe', Run.exec Pipe.step pipe events = some pipe'
        ∧ events.flatMap Pipe.Event.noticed = Journal.shown i j journal action
        ∧ Along final i j journal' ∧ journal'.Fills i j pipe' := by
    rintro journal action journal' pipe ⟨halong, hfills⟩ ⟨hallowed, rest, hrest⟩ hstep
    have halong' := halong.step hallowed hrest hstep
    obtain ⟨events, pipe', hevents, hnoticed, hfills'⟩ := halong.fills_step halong' hstep hfills
    exact ⟨events, pipe', hevents, hnoticed, halong', hfills'⟩
  have hempty : Journal.init.Fills i j Pipe.empty := ⟨rfl, rfl, rfl⟩
  obtain ⟨events, pipe, hevents, hnoticed, -, hfills⟩ := Run.exists_shown_of_all hmatch
    ⟨hstart, hempty⟩ (Run.all_and hfirst (Run.all_leads hexec)) hexec
  have hprefix := Pipe.got_isPrefix_wrote hevents
  rw [← Pipe.flatMap_noticed (f := Pipe.Event.got) (fun _ => rfl),
    ← Pipe.flatMap_noticed (f := Pipe.Event.wrote) (fun _ => rfl), hnoticed] at hprefix
  exact ⟨⟨events, pipe, hevents, hnoticed, hfills⟩, hprefix⟩

/-- One write, of which a read has handed out two bytes, a flush that is `Ready`, another read, and
another write, which has not arrived. -/
def pipedActions : List NetworkAction :=
  acknowledgedActions ++ [.call 0 (.pollFlush .plain), .call 1 (.pollRead .plain 8),
    .call 0 (.pollWrite .plain [4]), .call 0 (.pollFlush .plain)]

def piped : Journal := (Run.exec Journal.step Journal.init pipedActions).get (by decide)

theorem connections_are_pipes_piped :
    Run.exec Journal.step Journal.init pipedActions = some piped
      ∧ Run.shown Journal.step (Journal.shown 1 0) Journal.init pipedActions
        = [.write [1, 2, 3], .read [1, 2], .flush, .read [3], .write [4]]
      ∧ let shown := Run.shown Journal.step (Journal.shown 1 0) Journal.init pipedActions
        (∃ events pipe, Run.exec Pipe.step Pipe.empty events = some pipe
          ∧ events.flatMap Pipe.Event.noticed = shown ∧ piped.Fills 1 0 pipe)
        ∧ shown.flatMap Pipe.Event.got <+: shown.flatMap Pipe.Event.wrote := by
  have hexec : Run.exec Journal.step Journal.init pipedActions = some piped :=
    (Option.some_get _).symm
  refine ⟨hexec, by decide, connections_are_pipes hexec (by decide) (by decide) rfl rfl (by decide) ?_⟩
  rintro returned ⟨⟩
  exact ⟨by decide, by decide⟩

end UtpSafety
